import LeoOne.Tenancy.Service
import LeoOne.Accounts.UserRoles

/-!
# References stay within a tenant

The foreign keys of the tables do not carry the tenant.  A script is looked up in
the tenant of the request before a schedule refers to it, and `SetRoles` filters
the roles by tenant.  The workspace that is given for an agent or a token, and the
agent or workspace that is given for a schedule, are written as they are.
-/

namespace LeoOne
namespace Tenancy

open Foundation
open Enrollment (MachineRow TokenRow EnrollRequest EnrollStep Registry)
open Scheduler (Cron Statement ScheduleRow uuidColumn)
open Accounts (UserStep UserState TextFunctions)

namespace Service

def workspaceKeys (s : Service) : Keys Uuid Uuid :=
  s.workspaces.map fun w => (w.id, w.tenantId)

def agentKeys (s : Service) : Keys Uuid Uuid :=
  s.enrollment.registry.agents.map fun a => (a.id, a.tenantId)

def scriptKeys (s : Service) : Keys Uuid Uuid :=
  s.scheduler.tables.scripts.map fun r => (r.id, r.tenantId)

end Service

/-- The references of agents and tokens. -/
structure RegistryOwned (workspaces : Keys Uuid Uuid) (r : Registry) : Prop where
  agents : SameOwner (fun a id => a.workspaceId = some id) (fun a tenant => a.tenantId = tenant)
    r.agents workspaces
  tokens : SameOwner (fun t id => t.workspaceId = some id) (fun t tenant => t.tenantId = tenant)
    r.tokens workspaces

/-- The references of schedules. -/
structure SchedulesOwned (scripts agents workspaces : Keys Uuid Uuid)
    (schedules : List ScheduleRow) : Prop where
  scripts : SameOwner (fun r id => r.scriptId = id) (fun r tenant => r.tenantId = tenant)
    schedules scripts
  agents : SameOwner (fun r id => r.target.agentId = some id)
    (fun r tenant => r.tenantId = tenant) schedules agents
  workspaces : SameOwner (fun r id => r.target.workspaceId = some id)
    (fun r tenant => r.tenantId = tenant) schedules workspaces

/-- Every reference is to a row of the same tenant as the row that holds it. -/
structure References (s : Service) : Prop where
  registry : RegistryOwned s.workspaceKeys s.enrollment.registry
  schedules : SchedulesOwned s.scriptKeys s.agentKeys s.workspaceKeys
    s.scheduler.tables.schedules
  userRoles : s.accounts.directory.RolesOwned

/-- The tenant of the row that a statement writes, and the agent and the workspace
that it makes the row refer to, as texts. -/
def Step.writes : Step -> Option (String × Option String × Option String)
  | insertToken tenantId workspaceId _ => some (tenantId, none, some workspaceId)
  | updateAgent agent workspaceId => some (agent.tenantId.text, none, workspaceId)
  | schedule (Statement.insertSchedule tenantId ins) =>
      some (tenantId, ins.agentId, ins.workspaceId)
  | schedule (Statement.writeSchedule tenantId _ w) =>
      some (tenantId, w.agentId, w.workspaceId)
  | _ => none

/-- No row with the given identifier belongs to another tenant. -/
def ownedBy (tenantId : String) (id : Option String) (keys : Keys Uuid Uuid) : Bool :=
  keys.all fun key => !(id.any fun text => key.1.named text) || key.2.named tenantId

/-- The agent and the workspace that a statement writes are not another tenant's. -/
def writesOwn (p : State) (k : Step) (_ : Input) : Bool :=
  match k.writes with
  | none => true
  | some (tenantId, agentId, workspaceId) =>
      ownedBy tenantId agentId p.shared.agentKeys &&
        ownedBy tenantId workspaceId p.shared.workspaceKeys

/-!
## Columns that hold a reference
-/

theorem uuidColumn_some {text : Option String} {id : Uuid}
    (h : uuidColumn text = some (some id)) :
    exists t, text = some t ∧ id.named t = true := by
  cases text with
  | none =>
      cases h
  | some t =>
      rw [uuidColumn, Option.map_eq_some_iff] at h
      rcases h with ⟨u, hparse, hu⟩
      cases hu
      exact ⟨t, rfl, Uuid.named_of_parse hparse⟩

/-- A reference that passes the foreign key and is not another tenant's. -/
theorem mem_of_ownedBy {tenantId : String} {tenant : Uuid} {text : Option String} {id : Uuid}
    {keys : Keys Uuid Uuid} (hown : ownedBy tenantId text keys = true)
    (htenant : Uuid.parse tenantId = some tenant) (hid : uuidColumn text = some (some id))
    (hexists : exists owner, (id, owner) ∈ keys) : (id, tenant) ∈ keys := by
  rcases uuidColumn_some hid with ⟨t, rfl, hnamed⟩
  rcases hexists with ⟨owner, hkey⟩
  have hmine := List.all_eq_true.mp hown (id, owner) hkey
  rw [Option.any_some, hnamed, Bool.not_true, Bool.false_or] at hmine
  have howner := Uuid.parse_of_named hmine
  rw [htenant] at howner
  cases howner
  exact hkey

/-!
## Agents and tokens
-/

section RegistryStatements

variable {workspaces : Keys Uuid Uuid} {r r' : Registry}

/-- The workspace of a token is one of its tenant. -/
def TokenOwned (workspaces : Keys Uuid Uuid) (tok : TokenRow) : Prop :=
  forall id, tok.workspaceId = some id -> (id, tok.tenantId) ∈ workspaces

theorem RegistryOwned.token (h : RegistryOwned workspaces r) {tok : TokenRow}
    (htok : tok ∈ r.tokens) : TokenOwned workspaces tok :=
  fun id hid => h.tokens tok htok id tok.tenantId hid rfl

theorem RegistryOwned.createAgent (h : RegistryOwned workspaces r) {id : Uuid} {tok : TokenRow}
    {req : EnrollRequest} {now : Nat} (htok : TokenOwned workspaces tok)
    (hcreate : r.createAgent id tok req now = some r') : RegistryOwned workspaces r' := by
  unfold Registry.createAgent at hcreate
  split at hcreate
  · cases hcreate
  · split at hcreate
    · cases hcreate
      refine ⟨h.agents.insert ?_, h.tokens⟩
      intro a ha w tenant hw htenant
      rw [List.mem_singleton.mp ha] at hw htenant
      rw [← htenant]
      exact htok w hw
    · cases hcreate

theorem RegistryOwned.markUsed (h : RegistryOwned workspaces r) {agentId tokenId : Uuid}
    {now : Nat} (hmark : r.markUsed agentId tokenId now = some r') :
    RegistryOwned workspaces r' := by
  rw [Registry.markUsed_some hmark]
  exact ⟨h.agents, h.tokens.update fun htok _ _ _ hw ht => h.tokens _ htok _ _ hw ht⟩

theorem RegistryOwned.insertCertificate (h : RegistryOwned workspaces r) {agentId : Uuid}
    {cert : Backend.Certificate} (hinsert : r.insertCertificate agentId cert = some r') :
    RegistryOwned workspaces r' := by
  rcases Registry.insertCertificate_some hinsert with ⟨_, htokens, hagents⟩
  constructor
  · rw [hagents]
    exact h.agents
  · rw [htokens]
    exact h.tokens

theorem RegistryOwned.insertToken (h : RegistryOwned workspaces r) {tok : TokenRow}
    (htok : TokenOwned workspaces tok) (hinsert : r.insertToken tok = some r') :
    RegistryOwned workspaces r' := by
  rw [Registry.insertToken_some hinsert]
  refine ⟨h.agents, h.tokens.insert ?_⟩
  intro t ht w tenant hw htenant
  rw [List.mem_singleton.mp ht] at hw htenant
  rw [← htenant]
  exact htok w hw

theorem RegistryOwned.deleteAgent (h : RegistryOwned workspaces r) (tenantId agentId : String) :
    RegistryOwned workspaces (r.deleteAgent tenantId agentId) :=
  ⟨h.agents.subset (Table.deleteWhere_sublist _ _).subset,
    h.tokens.update fun htok _ _ _ hw ht => h.tokens _ htok _ _ hw ht⟩

end RegistryStatements

/-- The token that a statement of `Enroll` works with. -/
def tokenOf : EnrollStep -> Option TokenRow
  | EnrollStep.findByHardwareId _ tok => some tok
  | EnrollStep.countByTenant _ tok => some tok
  | EnrollStep.maxAgents _ tok _ => some tok
  | EnrollStep.createAgent _ tok => some tok
  | _ => none

/-- The statements of `Enroll` keep the references of the registry, add agents at
most, and pass the token on. -/
theorem enroll_owned {workspaces : Keys Uuid Uuid} {x : Enrollment.Input}
    {s t : Enrollment.Service} {k : EnrollStep} {next : Option EnrollStep}
    (hmove : Enrollment.Moves x s k t next) (h : RegistryOwned workspaces s.registry)
    (hk : forall tok, tokenOf k = some tok -> TokenOwned workspaces tok) :
    RegistryOwned workspaces t.registry ∧ s.registry.agents ⊆ t.registry.agents ∧
      forall j, j ∈ next -> forall tok, tokenOf j = some tok -> TokenOwned workspaces tok := by
  have hsame : s.registry.agents ⊆ s.registry.agents := List.Subset.refl _
  cases hmove with
  | rejected =>
      exact ⟨h, hsame, fun j hj => by cases hj⟩
  | decoded | issued =>
      refine ⟨h, hsame, ?_⟩
      intro j hj tok htok
      cases hj
      cases htok
  | found hfind =>
      refine ⟨h, hsame, ?_⟩
      intro j hj tok htok
      cases hj
      cases htok
      exact h.token (Registry.findToken_some hfind).left
  | unknown | counted | admitted =>
      refine ⟨h, hsame, ?_⟩
      intro j hj tok htok
      cases hj
      cases htok
      exact hk _ rfl
  | inserted hcreate =>
      refine ⟨h.createAgent (hk _ rfl) hcreate, ?_, ?_⟩
      · rcases Registry.createAgent_some hcreate with ⟨row, hins⟩
        rw [hins.agents]
        exact List.subset_append_left _ _
      · intro j hj tok htok
        cases hj
        cases htok
  | marked hmark =>
      refine ⟨h.markUsed hmark, ?_, ?_⟩
      · rw [Registry.markUsed_some hmark]
        exact hsame
      · intro j hj tok htok
        cases hj
        cases htok
  | unmarked =>
      refine ⟨h, hsame, ?_⟩
      intro j hj tok htok
      cases hj
      cases htok
  | certified hinsert =>
      refine ⟨h.insertCertificate hinsert, ?_, fun j hj => by cases hj⟩
      rw [(Registry.insertCertificate_some hinsert).right.right]
      exact hsame

/-!
## Schedules
-/

section Tables

variable {t t' : Scheduler.Tables} {tenantId : String}

theorem targetOf_agent {agentId workspaceId : Option String} {target : Scheduler.Target}
    (h : t.targetOf agentId workspaceId = some target) {id : Uuid}
    (hid : target.agentId = some id) :
    uuidColumn agentId = some (some id) ∧ exists a, a ∈ t.agents ∧ a.id = id := by
  unfold Scheduler.Tables.targetOf at h
  split at h
  · rename_i a w ha hw
    split at h
    · rename_i target' hcolumns
      split at h
      · rename_i hexists
        cases h
        cases target with
        | agent id' =>
            cases hid
            match a, w with
            | some _, none =>
                cases hcolumns
                rcases List.any_eq_true.mp hexists with ⟨row, hrow, heq⟩
                exact ⟨ha, row, hrow, of_decide_eq_true heq⟩
            | some _, some _ => cases hcolumns
            | none, some _ => cases hcolumns
            | none, none => cases hcolumns
        | workspace id' =>
            cases hid
      · cases h
    · cases h
  · cases h

theorem targetOf_workspace {agentId workspaceId : Option String} {target : Scheduler.Target}
    (h : t.targetOf agentId workspaceId = some target) {id : Uuid}
    (hid : target.workspaceId = some id) :
    uuidColumn workspaceId = some (some id) ∧ id ∈ t.workspaces := by
  unfold Scheduler.Tables.targetOf at h
  split at h
  · rename_i a w ha hw
    split at h
    · rename_i target' hcolumns
      split at h
      · rename_i hexists
        cases h
        cases target with
        | agent id' =>
            cases hid
        | workspace id' =>
            cases hid
            match a, w with
            | none, some _ =>
                cases hcolumns
                exact ⟨hw, List.contains_iff_mem.mp hexists⟩
            | some _, some _ => cases hcolumns
            | some _, none => cases hcolumns
            | none, none => cases hcolumns
      · cases h
    · cases h
  · cases h

/-- The references of the row that `Create` inserts. -/
theorem insertSchedule_columns {id : Uuid} {ins : Scheduler.Insertion}
    (h : t.insertSchedule id tenantId ins = some t') :
    exists row, t' = { t with schedules := t.schedules ++ [row] } ∧
      Uuid.parse tenantId = some row.tenantId ∧ Uuid.parse ins.scriptId = some row.scriptId ∧
      t.targetOf ins.agentId ins.workspaceId = some row.target := by
  unfold Scheduler.Tables.insertSchedule at h
  split at h
  · cases h
  · rename_i row hrow
    split at h
    · cases h
    · cases h
      refine ⟨row, rfl, ?_⟩
      unfold Scheduler.Tables.newSchedule at hrow
      split at hrow
      · rename_i htenant hscript htarget htiming
        split at hrow
        · cases hrow
          exact ⟨htenant, hscript, htarget⟩
        · cases hrow
      · cases hrow

/-- The references of the row that `Update` writes. -/
theorem writeSchedule_columns {scheduleId : String} {w : Scheduler.Assignment}
    (h : t.writeSchedule tenantId scheduleId w = some t') :
    t' = t ∨ exists target timing, t.targetOf w.agentId w.workspaceId = some target ∧
      t' = { t with
        schedules := Table.updateWhere (Scheduler.isSchedule tenantId scheduleId)
          (ScheduleRow.assign w target timing) t.schedules } := by
  unfold Scheduler.Tables.writeSchedule at h
  split at h
  · split at h
    · split at h
      · rename_i target timing htarget _
        exact Or.inr ⟨target, timing, htarget, (Option.some.inj h).symm⟩
      · cases h
    · exact Or.inl (Option.some.inj h).symm
  · cases h

theorem advanced_columns (cron : Cron) (d : Scheduler.DueSchedule) (now : Nat)
    (r : ScheduleRow) :
    (Scheduler.Tables.advanced cron d now r).tenantId = r.tenantId ∧
      (Scheduler.Tables.advanced cron d now r).scriptId = r.scriptId ∧
      (Scheduler.Tables.advanced cron d now r).target = r.target := by
  unfold Scheduler.Tables.advanced
  split
  · exact ⟨rfl, rfl, rfl⟩
  · split <;> exact ⟨rfl, rfl, rfl⟩

end Tables

section Schedules

variable {scripts agents workspaces : Keys Uuid Uuid} {rows rows' : List ScheduleRow}

/-- The references of one schedule. -/
structure RowOwned (scripts agents workspaces : Keys Uuid Uuid) (r : ScheduleRow) : Prop where
  script : (r.scriptId, r.tenantId) ∈ scripts
  agent : forall id, r.target.agentId = some id -> (id, r.tenantId) ∈ agents
  workspace : forall id, r.target.workspaceId = some id -> (id, r.tenantId) ∈ workspaces

theorem SchedulesOwned.row (h : SchedulesOwned scripts agents workspaces rows)
    {r : ScheduleRow} (hr : r ∈ rows) : RowOwned scripts agents workspaces r :=
  ⟨h.scripts r hr _ _ rfl rfl, fun id hid => h.agents r hr id _ hid rfl,
    fun id hid => h.workspaces r hr id _ hid rfl⟩

theorem SchedulesOwned.of_rows
    (h : forall r, r ∈ rows -> RowOwned scripts agents workspaces r) :
    SchedulesOwned scripts agents workspaces rows where
  scripts := by
    intro r hr id tenant hid htenant
    rw [← hid, ← htenant]
    exact (h r hr).script
  agents := by
    intro r hr id tenant hid htenant
    rw [← htenant]
    exact (h r hr).agent id hid
  workspaces := by
    intro r hr id tenant hid htenant
    rw [← htenant]
    exact (h r hr).workspace id hid

theorem SchedulesOwned.insert (h : SchedulesOwned scripts agents workspaces rows)
    {r : ScheduleRow} (hr : RowOwned scripts agents workspaces r) :
    SchedulesOwned scripts agents workspaces (rows ++ [r]) := by
  apply SchedulesOwned.of_rows
  intro r' hr'
  rcases List.mem_append.mp hr' with hold | hlast
  · exact h.row hold
  · rw [List.mem_singleton.mp hlast]
    exact hr

theorem SchedulesOwned.update (h : SchedulesOwned scripts agents workspaces rows)
    {p : ScheduleRow -> Bool} {f : ScheduleRow -> ScheduleRow}
    (hnew : forall r, r ∈ rows -> p r = true -> RowOwned scripts agents workspaces (f r)) :
    SchedulesOwned scripts agents workspaces (Table.updateWhere p f rows) := by
  apply SchedulesOwned.of_rows
  intro r hr
  rcases Table.mem_updateWhere.mp hr with ⟨old, hold, ⟨hp, heq⟩ | ⟨_, heq⟩⟩
  · rw [heq]
    exact hnew old hold hp
  · rw [heq]
    exact h.row hold

theorem SchedulesOwned.subset (h : SchedulesOwned scripts agents workspaces rows)
    (hsub : rows' ⊆ rows) : SchedulesOwned scripts agents workspaces rows' :=
  SchedulesOwned.of_rows fun _ hr => h.row (hsub hr)

end Schedules

/-- The script of a schedule has been looked up in the tenant. -/
def scriptChecked (t : Scheduler.Tables) : Statement -> Prop
  | Statement.insertSchedule tenantId ins => t.scriptExists ins.scriptId tenantId = true
  | _ => True

theorem exec_scriptExists {cron : Cron} {x : Scheduler.Input} {s : Scheduler.Service}
    {tenantId : String} {ins : Scheduler.Insertion} {j : Statement}
    (hj : j ∈ ((Statement.scriptExists tenantId ins).exec cron x s).2) :
    scriptChecked s.tables j := by
  simp only [Statement.exec] at hj
  split at hj
  · cases hj
  · split at hj
    · rename_i hexists
      rw [List.mem_singleton.mp hj]
      exact hexists
    · cases hj

/-- An `INSERT` of a schedule comes after the lookup of its script. -/
theorem exec_scriptChecked (cron : Cron) (x : Scheduler.Input) (s : Scheduler.Service)
    (k : Statement) {j : Statement} (hj : j ∈ (k.exec cron x s).2) :
    scriptChecked s.tables j := by
  have hmove := k.moves cron x s
  generalize ht : (k.exec cron x s).1 = t at hmove
  generalize hcont : (k.exec cron x s).2 = cont at hmove hj
  cases hmove with
  | skipped | refused | responded | commanded | advanced | deleted =>
      cases hj
  | selected =>
      rcases List.mem_flatMap.mp hj with ⟨r, _, hfire⟩
      rcases List.mem_cons.mp hfire with rfl | hlast
      · trivial
      · rw [List.mem_singleton.mp hlast]
        trivial
  | loaded | checked | inserted | read | written =>
      rw [List.mem_singleton.mp hj]
      trivial
  | resolved =>
      rcases List.mem_map.mp hj with ⟨id, _, rfl⟩
      trivial
  | found =>
      rw [← hcont] at hj
      exact exec_scriptExists hj

/-- The statements of the scheduler and its handlers keep the references of the
schedules, if what they write is not another tenant's. -/
theorem schedule_owned {agents workspaces : Keys Uuid Uuid} {cron : Cron}
    {x : Scheduler.Input} {s t : Scheduler.Service} {k : Statement} {cont : List Statement}
    (hmove : Scheduler.Moves cron x s k t cont)
    (hagents : forall a, a ∈ s.tables.agents -> (a.id, a.tenantId) ∈ agents)
    (hworkspaces : forall id, id ∈ s.tables.workspaces -> exists owner, (id, owner) ∈ workspaces)
    (h : SchedulesOwned (s.tables.scripts.map fun r => (r.id, r.tenantId)) agents workspaces
      s.tables.schedules)
    (hk : scriptChecked s.tables k)
    (hown : forall tenantId agentId workspaceId,
      (Step.schedule k).writes = some (tenantId, agentId, workspaceId) ->
        ownedBy tenantId agentId agents = true ∧
          ownedBy tenantId workspaceId workspaces = true) :
    t.tables.scripts = s.tables.scripts ∧
      SchedulesOwned (s.tables.scripts.map fun r => (r.id, r.tenantId)) agents workspaces
        t.tables.schedules := by
  have htarget : forall {tenantId agentId workspaceId target tenant},
      (Step.schedule k).writes = some (tenantId, agentId, workspaceId) ->
      Uuid.parse tenantId = some tenant ->
      s.tables.targetOf agentId workspaceId = some target ->
      (forall id, target.agentId = some id -> (id, tenant) ∈ agents) ∧
        forall id, target.workspaceId = some id -> (id, tenant) ∈ workspaces := by
    intro tenantId agentId workspaceId target tenant hwrites htenant hcolumns
    rcases hown _ _ _ hwrites with ⟨hagent, hworkspace⟩
    constructor
    · intro id hid
      rcases targetOf_agent hcolumns hid with ⟨hcolumn, a, ha, rfl⟩
      exact mem_of_ownedBy hagent htenant hcolumn ⟨_, hagents a ha⟩
    · intro id hid
      rcases targetOf_workspace hcolumns hid with ⟨hcolumn, hmem⟩
      exact mem_of_ownedBy hworkspace htenant hcolumn (hworkspaces id hmem)
  cases hmove with
  | skipped | refused | responded | selected | loaded | resolved | commanded | checked
  | found | read =>
      exact ⟨rfl, h⟩
  | advanced =>
      refine ⟨rfl, h.update ?_⟩
      intro r hr _
      rcases advanced_columns cron _ x.now r with ⟨htenant, hscript, hsame⟩
      have hrow := h.row hr
      constructor
      · rw [hscript, htenant]
        exact hrow.script
      · rw [hsame, htenant]
        exact hrow.agent
      · rw [hsame, htenant]
        exact hrow.workspace
  | inserted hinsert =>
      rcases insertSchedule_columns hinsert with ⟨row, rfl, htenant, hscript, hcolumns⟩
      rcases htarget rfl htenant hcolumns with ⟨hagent, hworkspace⟩
      refine ⟨rfl, h.insert ⟨?_, hagent, hworkspace⟩⟩
      -- the script that was looked up is the one that is written
      rcases List.any_eq_true.mp hk with ⟨sc, hsc, hnamed⟩
      rw [Bool.and_eq_true] at hnamed
      have hid := Uuid.parse_of_named hnamed.left
      have hof := Uuid.parse_of_named hnamed.right
      rw [hscript] at hid
      rw [htenant] at hof
      rw [Option.some.inj hid, Option.some.inj hof]
      exact List.mem_map_of_mem hsc
  | written hwrite =>
      rcases writeSchedule_columns hwrite with rfl | ⟨target, timing, hcolumns, rfl⟩
      · exact ⟨rfl, h⟩
      · refine ⟨rfl, h.update ?_⟩
        intro r hr hselected
        simp only [Scheduler.isSchedule, Bool.and_eq_true] at hselected
        obtain ⟨hagent, hworkspace⟩ :=
          htarget rfl (Uuid.parse_of_named hselected.right) hcolumns
        exact ⟨(h.row hr).script, hagent, hworkspace⟩
  | deleted =>
      exact ⟨rfl, h.subset (Table.deleteWhere_sublist _ _).subset⟩

/-!
## One statement
-/

/-- What earlier statements of a request have established. -/
def Step.Lawful (s : Service) : Step -> Prop
  | enroll step => forall tok, tokenOf step = some tok -> TokenOwned s.workspaceKeys tok
  | schedule statement => scriptChecked s.scheduler.tables statement
  | user step => step.Lawful s.userIds s.accounts.directory
  | _ => True

/-- What other statements leave of it. -/
structure Later (s t : Service) : Prop where
  workspaces : t.workspaces = s.workspaces
  scripts : t.scheduler.tables.scripts = s.scheduler.tables.scripts
  userIds : s.userIds ⊆ t.userIds
  users : s.accounts.directory.UsersFrom s.userIds t.accounts.directory

theorem Later.workspaceKeys {s t : Service} (h : Later s t) :
    t.workspaceKeys = s.workspaceKeys := by
  unfold Service.workspaceKeys
  rw [h.workspaces]

theorem Later.scriptKeys {s t : Service} (h : Later s t) : t.scriptKeys = s.scriptKeys := by
  unfold Service.scriptKeys
  rw [h.scripts]

theorem Step.Lawful.later {s t : Service} (h : Later s t) {k : Step} (hk : k.Lawful s) :
    k.Lawful t := by
  cases k with
  | enroll step =>
      intro tok htok
      rw [h.workspaceKeys]
      exact hk tok htok
  | schedule statement =>
      cases statement with
      | insertSchedule tenantId ins =>
          have hchecked : s.scheduler.tables.scriptExists ins.scriptId tenantId = true := hk
          show t.scheduler.tables.scriptExists ins.scriptId tenantId = true
          unfold Scheduler.Tables.scriptExists at hchecked ⊢
          rw [h.scripts]
          exact hchecked
      | _ =>
          trivial
  | user step =>
      intro tenantId userId hsubject
      exact (hk tenantId userId hsubject).later h.userIds h.users
  | insertToken | findAgent | updateAgent | deleteAgent =>
      trivial

/-- What a statement keeps. -/
structure Kept (s t : Service) (cont : List Step) : Prop where
  later : Later s t
  references : References t
  keys : t.accounts.directory.KeysHold t.userIds
  lawful : forall j, j ∈ cont -> j.Lawful t

section OneStatement

variable {s t : Service}

theorem Later.of_users (hworkspaces : t.workspaces = s.workspaces)
    (hscripts : t.scheduler.tables.scripts = s.scheduler.tables.scripts)
    (hids : t.userIds = s.userIds) (haccounts : t.accounts = s.accounts) : Later s t :=
  ⟨hworkspaces, hscripts, hids ▸ List.Subset.refl _,
    Accounts.Directory.UsersFrom.of_subset (haccounts ▸ List.Subset.refl _)⟩

/-- A statement that leaves the tables as they are. -/
theorem Kept.same (href : References s) (hkeys : s.accounts.directory.KeysHold s.userIds)
    {answers : List Answer} {cont : List Step}
    (hcont : forall j, j ∈ cont -> j.Lawful { s with answers := answers }) :
    Kept s { s with answers := answers } cont :=
  ⟨Later.of_users rfl rfl rfl rfl, ⟨href.registry, href.schedules, href.userRoles⟩, hkeys, hcont⟩

/-- A statement that leaves the schedules and the users as they are, and keeps the
agents. -/
theorem Kept.registry (href : References s) (hkeys : s.accounts.directory.KeysHold s.userIds)
    {e : Enrollment.Service} {answers : List Answer} {cont : List Step}
    (hregistry : RegistryOwned s.workspaceKeys e.registry)
    (hagents : s.agentKeys ⊆ e.registry.agents.map fun a => (a.id, a.tenantId))
    (hcont : forall j, j ∈ cont -> j.Lawful { s with enrollment := e, answers := answers }) :
    Kept s { s with enrollment := e, answers := answers } cont where
  later := Later.of_users rfl rfl rfl rfl
  references :=
    { registry := hregistry
      schedules :=
        ⟨href.schedules.scripts, href.schedules.agents.targets_mono hagents,
          href.schedules.workspaces⟩
      userRoles := href.userRoles }
  keys := hkeys
  lawful := hcont

theorem newToken_owned {x : Input} {tenantId workspaceId : String} {expiresAt : Nat}
    {tok : TokenRow} (h : s.newToken x tenantId workspaceId expiresAt = some tok)
    (hown : ownedBy tenantId (some workspaceId) s.workspaceKeys = true) :
    TokenOwned s.workspaceKeys tok := by
  unfold Service.newToken at h
  split at h
  · rename_i tenant workspace htenant hcolumn
    split at h
    · rename_i hexists
      cases h
      intro id hid
      have hworkspace : workspace = some id := hid
      rw [hworkspace] at hcolumn hexists
      split at hcolumn
      · cases hcolumn
      · rcases List.any_eq_true.mp hexists with ⟨w, hw, heq⟩
        refine mem_of_ownedBy hown htenant hcolumn ⟨w.tenantId, ?_⟩
        rw [← of_decide_eq_true heq]
        exact List.mem_map_of_mem hw
    · cases h
  · cases h

theorem updateAgent_owned {agent : MachineRow} {workspaceId : Option String} {now : Nat}
    {registry : Registry} (href : RegistryOwned s.workspaceKeys s.enrollment.registry)
    (hown : ownedBy agent.tenantId.text workspaceId s.workspaceKeys = true)
    (h : s.updateAgent agent workspaceId now = some registry) :
    RegistryOwned s.workspaceKeys registry ∧
      s.agentKeys ⊆ registry.agents.map fun a => (a.id, a.tenantId) := by
  simp only [Service.updateAgent] at h
  split at h
  · rename_i workspace hcolumn
    split at h
    · rename_i hallowed
      cases h
      constructor
      · refine ⟨href.agents.update ?_, href.tokens⟩
        intro a ha hselected id tenant hid htenant
        have hworkspace : workspace = some id := hid
        have hsame : a.tenantId = tenant := htenant
        have hany : s.enrollment.registry.agents.any (Service.isAgent agent) = true :=
          List.any_eq_true.mpr ⟨a, ha, hselected⟩
        simp only [Service.isAgent, Bool.and_eq_true, decide_eq_true_eq] at hselected
        rw [hworkspace] at hcolumn hallowed
        rw [hany, Bool.not_true, Bool.or_false, Bool.and_eq_true] at hallowed
        rcases List.any_eq_true.mp hallowed.right with ⟨w, hw, heq⟩
        rw [← hsame, hselected.right]
        refine mem_of_ownedBy hown (Uuid.parse_of_named (Uuid.named_text.mpr rfl)) hcolumn
          ⟨w.tenantId, ?_⟩
        rw [← of_decide_eq_true heq]
        exact List.mem_map_of_mem hw
      · have hkeys := Table.map_updateWhere (p := Service.isAgent agent)
          (f := fun a =>
            { a with
              workspaceId := workspace
              hostname := agent.hostname
              fqdn := agent.fqdn
              agentVersion := agent.agentVersion
              updatedAt := now })
          (fun a : MachineRow => (a.id, a.tenantId)) (fun _ => rfl) s.enrollment.registry.agents
        exact (congrArg (fun l => s.agentKeys ⊆ l) hkeys).mpr (List.Subset.refl _)
    · cases h
  · cases h

/-- The schedules of a deleted agent go with it. -/
theorem deleteAgent_kept (href : References s)
    (hkeys : s.accounts.directory.KeysHold s.userIds) (tenantId agentId : String)
    (answers : List Answer) :
    Kept s { s.deleteAgent tenantId agentId with answers := answers } [] where
  later := Later.of_users rfl rfl rfl rfl
  references :=
    { registry := href.registry.deleteAgent tenantId agentId
      schedules := by
        have hsub := (Table.deleteWhere_sublist (fun r : ScheduleRow =>
          r.target.agentId.any fun id => s.enrollment.registry.agents.any fun a =>
            a.id.named agentId && a.tenantId.named tenantId && a.id = id)
          s.scheduler.tables.schedules).subset
        refine ⟨href.schedules.scripts.subset hsub, ?_, href.schedules.workspaces.subset hsub⟩
        refine href.schedules.agents.cascade hsub ?_
        intro r hr id tenant hid hkey
        rcases List.mem_map.mp hkey with ⟨a, ha, heq⟩
        refine List.mem_map.mpr ⟨a, Table.mem_deleteWhere.mpr ⟨ha, ?_⟩, heq⟩
        rw [← Bool.not_eq_true]
        intro hselected
        have hkept := (Table.mem_deleteWhere.mp hr).right
        rw [hid, Option.any_some, List.any_eq_false] at hkept
        refine hkept a ha ?_
        rw [hselected, Bool.true_and, decide_eq_true_eq]
        exact congrArg Prod.fst heq
      userRoles := href.userRoles }
  keys := hkeys
  lawful := fun j hj => by cases hj

theorem schedule_kept {cron : Cron} {x : Input} (href : References s)
    (hkeys : s.accounts.directory.KeysHold s.userIds) (k : Statement)
    (hk : scriptChecked s.scheduler.tables k)
    (hown : forall tenantId agentId workspaceId,
      (Step.schedule k).writes = some (tenantId, agentId, workspaceId) ->
        ownedBy tenantId agentId s.agentKeys = true ∧
          ownedBy tenantId workspaceId s.workspaceKeys = true) :
    Kept s { s with scheduler := (k.exec cron x.scheduler s.schedules).1 }
      ((k.exec cron x.scheduler s.schedules).2.map Step.schedule) := by
  have hview : scriptChecked s.schedules.tables k := by
    cases k with
    | insertSchedule tenantId ins =>
        exact hk
    | _ =>
        trivial
  have hagents : forall a, a ∈ s.schedules.tables.agents ->
      (a.id, a.tenantId) ∈ s.agentKeys := by
    intro a ha
    rcases List.mem_map.mp ha with ⟨m, hm, rfl⟩
    exact List.mem_map_of_mem hm
  have hworkspaces : forall id, id ∈ s.schedules.tables.workspaces ->
      exists owner, (id, owner) ∈ s.workspaceKeys := by
    intro id hid
    rcases List.mem_map.mp hid with ⟨w, hw, rfl⟩
    exact ⟨w.tenantId, List.mem_map_of_mem hw⟩
  obtain ⟨hscripts, howned⟩ := schedule_owned (k.moves cron x.scheduler s.schedules)
    hagents hworkspaces href.schedules hview hown
  have hlater : Later s { s with scheduler := (k.exec cron x.scheduler s.schedules).1 } :=
    Later.of_users rfl hscripts rfl rfl
  refine ⟨hlater, ⟨href.registry, ?_, href.userRoles⟩, hkeys, ?_⟩
  · rw [hlater.scriptKeys]
    exact howned
  · intro j hj
    rcases List.mem_map.mp hj with ⟨statement, hstatement, rfl⟩
    have hchecked := exec_scriptChecked cron x.scheduler s.schedules k hstatement
    cases statement with
    | insertSchedule tenantId ins =>
        have hexists : s.schedules.tables.scriptExists ins.scriptId tenantId = true := hchecked
        show Scheduler.Tables.scriptExists _ ins.scriptId tenantId = true
        unfold Scheduler.Tables.scriptExists at hexists ⊢
        rw [hscripts]
        exact hexists
    | _ =>
        trivial

theorem exec_kept {cron : Cron} {lib : TextFunctions} {p : State} (x : Input) (k : Step)
    (hk : k.insertsUser = false) (href : References p.shared)
    (hkeys : p.shared.accounts.directory.KeysHold p.shared.userIds)
    (hlawful : k.Lawful p.shared) (hown : writesOwn p k x = true) :
    Kept p.shared (k.exec cron lib x p.shared).1 (k.exec cron lib x p.shared).2 := by
  have hsame : forall {answers}, Kept p.shared { p.shared with answers := answers } [] :=
    Kept.same href hkeys (fun j hj => by cases hj)
  cases k with
  | enroll step =>
      have hmove := Enrollment.moves_exec x.enrollment p.shared.enrollment step
      rcases enroll_owned hmove href.registry hlawful with ⟨hregistry, hagents, hnext⟩
      refine Kept.registry href hkeys hregistry (List.map_subset _ hagents) ?_
      intro j hj
      rcases List.mem_map.mp hj with ⟨step', hstep', rfl⟩
      exact hnext step' (Option.mem_toList.mp hstep')
  | insertToken tenantId workspaceId expiresAt =>
      simp only [Step.exec]
      split
      · exact hsame
      · rename_i registry hinsert
        split at hinsert
        · cases hinsert
        · rcases Option.bind_eq_some_iff.mp hinsert with ⟨tok, htok, hinsert⟩
          simp only [writesOwn, Step.writes, Bool.and_eq_true] at hown
          have htoken := newToken_owned htok hown.right
          refine Kept.registry href hkeys (href.registry.insertToken htoken hinsert) ?_
            (fun j hj => by cases hj)
          simp only [Registry.insertToken_some hinsert]
          exact List.Subset.refl _
  | findAgent tenantId agentId body =>
      simp only [Step.exec]
      split
      · exact hsame
      · exact hsame
      · split
        · exact hsame
        · refine Kept.same href hkeys ?_
          intro j hj
          rw [List.mem_singleton.mp hj]
          trivial
  | updateAgent agent workspaceId =>
      simp only [Step.exec]
      split
      · exact hsame
      · rename_i registry hupdate
        split at hupdate
        · cases hupdate
        · simp only [writesOwn, Step.writes, Bool.and_eq_true] at hown
          rcases updateAgent_owned href.registry hown.right hupdate with ⟨hregistry, hagents⟩
          exact Kept.registry href hkeys hregistry hagents (fun j hj => by cases hj)
  | deleteAgent tenantId agentId =>
      simp only [Step.exec]
      split
      · exact hsame
      · exact deleteAgent_kept href hkeys tenantId agentId _
  | schedule statement =>
      refine schedule_kept href hkeys statement hlawful ?_
      intro tenantId agentId workspaceId hwrites
      simp only [writesOwn, hwrites, Bool.and_eq_true] at hown
      exact hown
  | user step =>
      have hinserts : step.inserts = true -> x.user.uuid ∉ p.shared.userIds ∧
          x.user.uuid ∈ p.shared.userIds := by
        intro hins
        cases step with
        | insertUser caller req =>
            cases hk
        | _ =>
            cases hins
      have hkept := (step.moves lib x.user p.shared.accounts).keeps hkeys href.userRoles hlawful
        (List.Subset.refl _) hinserts
      refine ⟨⟨rfl, rfl, List.Subset.refl _, hkept.users⟩,
        ⟨href.registry, href.schedules, hkept.owned⟩, hkept.keys, ?_⟩
      intro j hj
      rcases List.mem_map.mp hj with ⟨step', hstep', rfl⟩
      exact hkept.lawful step' (Option.mem_toList.mp hstep')

/-- The statement that inserts a user, with its new identifier. -/
theorem insertUser_kept {cron : Cron} {lib : TextFunctions} {x : Input} {k : Step}
    (hk : k.insertsUser = true) (href : References s)
    (hkeys : s.accounts.directory.KeysHold s.userIds) (hnew : x.uuid ∉ s.userIds) :
    Kept s { (k.exec cron lib x s).1 with userIds := x.uuid :: s.userIds }
      (k.exec cron lib x s).2 := by
  cases k with
  | user step =>
      have hlawful : step.Lawful s.userIds s.accounts.directory := by
        cases step with
        | insertUser caller req =>
            exact UserStep.lawful_of_none rfl
        | _ =>
            cases hk
      have hkept := (step.moves lib x.user s.accounts).keeps hkeys href.userRoles hlawful
        (List.subset_cons_self x.uuid s.userIds) (fun _ => ⟨hnew, List.mem_cons_self⟩)
      refine ⟨⟨rfl, rfl, List.subset_cons_self _ _, hkept.users⟩,
        ⟨href.registry, href.schedules, hkept.owned⟩, hkept.keys, ?_⟩
      intro j hj
      rcases List.mem_map.mp hj with ⟨step', hstep', rfl⟩
      exact hkept.lawful step' (Option.mem_toList.mp hstep')
  | _ =>
      cases hk

end OneStatement

theorem perform_kept {cron : Cron} {lib : TextFunctions} {p : State} {k : Step} {x : Input}
    {o : Outcome Service Step} (h : perform cron lib k x p.shared = some o)
    (href : References p.shared)
    (hkeys : p.shared.accounts.directory.KeysHold p.shared.userIds)
    (hlawful : k.Lawful p.shared) (hown : writesOwn p k x = true) :
    Kept p.shared o.shared o.created := by
  unfold perform at h
  split at h
  · rename_i hinserts
    split at h
    · cases h
    · rename_i hnew
      cases h
      rw [Outcome.created, List.flatten_nil, List.append_nil]
      exact insertUser_kept hinserts href hkeys hnew
  · rename_i hinserts
    cases h
    rw [Outcome.created, List.flatten_nil, List.append_nil]
    exact exec_kept x k (Bool.eq_false_iff.mpr hinserts) href hkeys hlawful hown

/-!
## Whole runs
-/

/-- The references, the keys of the users, and the checks that pending statements
rely on. -/
structure TenancyLaw (p : State) : Prop where
  references : References p.shared
  keys : p.shared.accounts.directory.KeysHold p.shared.userIds
  pending : forall j, p.Pending j -> j.Lawful p.shared

theorem entry_lawful (r : Request) (s : Service) {j : Step} (hj : j ∈ entry r) :
    j.Lawful s := by
  cases r with
  | enroll body =>
      rw [List.mem_singleton.mp hj]
      intro tok htok
      cases htok
  | schedule request =>
      cases request with
      | poll | create | update | delete =>
          rw [List.mem_singleton.mp hj]
          trivial
  | user request =>
      cases request with
      | create | update | delete =>
          rw [List.mem_singleton.mp hj]
          exact UserStep.lawful_of_none rfl
  | createToken | updateAgent | deleteAgent =>
      rw [List.mem_singleton.mp hj]
      trivial

theorem tenancyLaw_preserved (cron : Cron) (lib : TextFunctions) :
    (service cron lib).Preserves (fun p e => Pool.guarded writesOwn p e = true) TenancyLaw := by
  apply Pool.preserves
  · intro p p' r hlaw hstart
    constructor
    · rw [hstart.shared]
      exact hlaw.references
    · rw [hstart.shared]
      exact hlaw.keys
    · intro j hj
      rw [hstart.shared]
      rcases hstart.pending hj with hnew | hold
      · exact entry_lawful r p.shared hnew
      · exact hlaw.pending j hold
  · intro p p' x k o hlaw hguard hperform hexec
    have hkept := perform_kept hperform hlaw.references hlaw.keys
      (hlaw.pending k hexec.running) hguard
    rw [← hexec.shared] at hkept
    refine ⟨hkept.references, hkept.keys, ?_⟩
    intro j hj
    rcases hexec.pending hj with hnew | hold
    · exact hkept.lawful j hnew
    · exact (hlaw.pending j hold).later hkept.later

/-- On tables whose references stay within a tenant (and whose users have a primary
key that `user_roles` refers to), a run keeps them there, if no statement writes an
agent or a workspace of another tenant. -/
theorem references_kept (cron : Cron) (lib : TextFunctions) (workspaces : List WorkspaceRow)
    (registry : Registry) (tables : Scheduler.Tables) (directory : Accounts.Directory) (now : Nat)
    (hrefs : References (boot workspaces registry tables directory now).shared)
    (husers : (directory.users.map Accounts.UserRow.id).Nodup)
    (hroles : forall ur, ur ∈ directory.userRoles ->
      ur.userId ∈ directory.users.map Accounts.UserRow.id)
    {es : List Event} {q : State}
    (hrun : (service cron lib).run (boot workspaces registry tables directory now) es = some q)
    (hmeets : (service cron lib).Meets (fun p e => Pool.guarded writesOwn p e = true)
      (boot workspaces registry tables directory now) es) :
    References q.shared := by
  have hboot : TenancyLaw (boot workspaces registry tables directory now) := by
    refine ⟨hrefs, ⟨?_, List.mem_map_of_mem, hroles _⟩, ?_⟩
    · intro u v hu hv hid
      rw [List.inj_on_of_nodup_map husers hu hv hid]
    · rintro j ⟨procs, hprocs, _⟩
      cases hprocs
  exact ((tenancyLaw_preserved cron lib).run hboot hmeets hrun).references

namespace Sample

def tenant : Uuid where
  text := "32000000-0000-4000-8000-000000000000"
  canonical := by decide

def otherTenant : Uuid where
  text := "32000000-0000-4000-8000-00000000000f"
  canonical := by decide

def workspace : WorkspaceRow where
  id := { text := "32000000-0000-4000-8000-000000000001", canonical := by decide }
  tenantId := tenant

def otherWorkspace : WorkspaceRow where
  id := { text := "32000000-0000-4000-8000-000000000002", canonical := by decide }
  tenantId := otherTenant

def agent : MachineRow where
  id := { text := "32000000-0000-4000-8000-000000000003", canonical := by decide }
  tenantId := tenant
  status := Backend.AgentStatus.offline
  lastSeenAt := none
  updatedAt := 0
  workspaceId := none
  hostname := "srv"
  fqdn := none
  os := Enrollment.AgentOs.linux
  osVersion := "24.04"
  arch := "amd64"
  hardwareId := "hw"
  agentVersion := "1.0.0"
  enrolledAt := 0
  createdAt := 0

def registry : Registry where
  tenants := [{ id := tenant, maxAgents := 0 }, { id := otherTenant, maxAgents := 0 }]
  tokens := []
  agents := [agent]
  certificates := []

def tables : Scheduler.Tables where
  scripts := []
  agents := []
  workspaces := []
  schedules := []
  commands := []

def directory : Accounts.Directory where
  users := []
  roles := []
  userRoles := []

def cron : Cron where
  parseStandard := fun expr => Except.error expr
  next_after := by
    intro expr next h
    cases h

def lib : TextFunctions where
  trimSpace := fun text => text
  toLower := fun text => text

/-- Two tenants with a workspace each, and an agent of the first one. -/
def start : State :=
  boot [workspace, otherWorkspace] registry tables directory 0

def exec (i : Nat) : Event :=
  PoolEvent.exec i
    { fails := false
      now := 1
      uuid := tenant
      serial := 0
      token := ""
      scanFails := fun _ => false
      hash := none }

/-- A user of the first tenant moves the agent to a workspace. -/
def move (w : WorkspaceRow) : List Event :=
  [PoolEvent.start (Request.updateAgent tenant.text agent.id.text
      (some { hostname := none, workspaceId := some w.id.text })),
    exec 0, exec 0]

theorem start_references : References start.shared where
  registry :=
    { agents := by
        intro a ha id t hid
        rw [List.mem_singleton.mp ha] at hid
        cases hid
      tokens := fun _ ht => by cases ht }
  schedules :=
    { scripts := fun _ hr => by cases hr
      agents := fun _ hr => by cases hr
      workspaces := fun _ hr => by cases hr }
  userRoles := fun _ hr => by cases hr

end Sample

theorem references_kept_own :
    exists q, (service Sample.cron Sample.lib).run Sample.start (Sample.move Sample.workspace) =
        some q ∧
      (q.shared.enrollment.registry.agents.map MachineRow.workspaceId =
        [some Sample.workspace.id]) ∧
      References q.shared := by
  obtain ⟨q, hrun, hagents⟩ : exists q, (service Sample.cron Sample.lib).run Sample.start
      (Sample.move Sample.workspace) = some q ∧
        q.shared.enrollment.registry.agents.map MachineRow.workspaceId =
          [some Sample.workspace.id] :=
    ⟨_, rfl, by decide⟩
  refine ⟨q, hrun, hagents, ?_⟩
  exact references_kept Sample.cron Sample.lib _ _ _ _ _ Sample.start_references List.nodup_nil
    (fun ur hur => by cases hur) hrun (by decide)

/-- The update with another tenant's workspace is answered with success, and the
agent refers to that workspace. -/
theorem agent_moves_to_other_tenant :
    References Sample.start.shared ∧
      exists q, (service Sample.cron Sample.lib).run Sample.start
          (Sample.move Sample.otherWorkspace) = some q ∧
        ¬ References q.shared := by
  refine ⟨Sample.start_references, _, rfl, ?_⟩
  intro href
  have hkey := href.registry.agents _ List.mem_cons_self Sample.otherWorkspace.id Sample.tenant
    (by decide) (by decide)
  revert hkey
  decide

end Tenancy
end LeoOne
