import LeoOne.Backend.Addressing
import LeoOne.Backend.AgentTable
import LeoOne.Api.ServerPart

/-!
# Commands stay within a tenant

`CreateAndDispatchCommand` inserts a command for any agent and any tenant it is
given.  Each of its callers has looked the agent up with the tenant of the request
or of the schedule, some steps earlier.  In between the agent may be deleted, but no
other agent comes to have its identifier, and no agent changes its tenant.
-/

namespace LeoOne
namespace Api

open Foundation
open Wire
open Backend (Server Instr Statement CommandOrder CommandRow AgentRow Database Effect Addressed
  carries)

/-!
## Agents and their tenants
-/

/-- The agents' identifiers have been generated, and each is of one tenant. -/
structure AgentKeys (s : Server) : Prop where
  issued : forall {a}, a ∈ s.db.agents -> a.id ∈ s.log.issued
  tenant : forall {a b}, a ∈ s.db.agents -> b ∈ s.db.agents -> a.id = b.id ->
    a.tenantId = b.tenantId

/-- The text names an agent that was of that tenant when it was looked up: whoever has
the identifier is of that tenant. -/
def Assigned (s : Server) (tenantId agentId : String) : Prop :=
  exists id, id ∈ s.log.issued ∧ id.named agentId = true ∧
    forall a, a ∈ s.db.agents -> a.id = id -> a.tenantId.named tenantId = true

theorem AgentKeys.step {s t : Server} {x : Backend.Input} {k : Instr} (h : AgentKeys s)
    (heffect : Effect s x k t) : AgentKeys t := by
  constructor
  · intro a ha
    rcases heffect.agentTenants ha with ⟨old, hold, hid, _⟩ | ⟨_, hissued, _⟩
    · rw [← hid]
      exact heffect.issued_mono (h.issued hold)
    · exact hissued
  · intro a b ha hb hab
    rcases heffect.agentTenants ha with ⟨old, hold, hid, htenant⟩ | ⟨hnew, _, hk⟩
    · rcases heffect.agentTenants hb with ⟨old', hold', hid', htenant'⟩ | ⟨hnew', _, _⟩
      · rw [← htenant, ← htenant']
        exact h.tenant hold hold' (hid.trans (hab.trans hid'.symm))
      · rw [← hab, ← hid] at hnew'
        exact absurd (h.issued hold) hnew'
    · rcases heffect.agentTenants hb with ⟨old', hold', hid', _⟩ | ⟨_, _, hk'⟩
      · rw [hab, ← hid'] at hnew
        exact absurd (h.issued hold') hnew
      · exact Statement.createAgent.inj (Instr.sql.inj (hk.symm.trans hk'))

theorem Assigned.step {s t : Server} {x : Backend.Input} {k : Instr} {tenantId agentId : String}
    (h : Assigned s tenantId agentId) (heffect : Effect s x k t) :
    Assigned t tenantId agentId := by
  rcases h with ⟨id, hissued, hnamed, hall⟩
  refine ⟨id, heffect.issued_mono hissued, hnamed, ?_⟩
  intro a ha haid
  rcases heffect.agentTenants ha with ⟨old, hold, hid, htenant⟩ | ⟨hnew, _, _⟩
  · rw [← htenant]
    exact hall old hold (hid.trans haid)
  · rw [haid] at hnew
    exact absurd hissued hnew

theorem Located.assigned {s : Server} {tenantId agentId : String}
    (h : Located s.db tenantId agentId) (hkeys : AgentKeys s) :
    Assigned s tenantId agentId := by
  rcases h with ⟨a, ha, hnamed, htenant⟩
  refine ⟨a.id, hkeys.issued ha, hnamed, ?_⟩
  intro b hb hid
  rw [hkeys.tenant hb ha hid]
  exact htenant

/-!
## The law
-/

/-- The tenant and the agent that a step goes on with, once the agent is looked up. -/
def Step.target? : Step -> Option (String × String)
  | insert _ order => some (order.tenantId, order.agentId)
  | handler (HandlerStep.availableNativeIds caller agentId _ _) =>
      some (caller.tenantId, agentId)
  | handler (HandlerStep.findFile caller agentId _) => some (caller.tenantId, agentId)
  | handler (HandlerStep.createDownloadToken caller agentId _) =>
      some (caller.tenantId, agentId)
  | _ => none

/-- The step creates no command, or one for the tenant of the request or of the
schedule. -/
def Step.loyal : Step -> Bool
  | insert origin order => order.tenantId = origin.tenantId
  | core (Instr.sql (Statement.insertCommand _)) => false
  | _ => true

/-- The command was created for a tenant, and its agent is of that tenant. -/
structure Isolated (s : Service) (r : CommandRow) : Prop where
  created : exists origin, (r.id, origin) ∈ s.dispatched
  tenant : forall {origin}, (r.id, origin) ∈ s.dispatched ->
    r.tenantId.named origin.tenantId = true
  agent : exists a, a ∈ s.server.db.agents ∧ a.id = r.agentId ∧ a.tenantId = r.tenantId

/-- Steps go on with agents of their tenants, and so the rows that they have inserted
are of agents of their tenants. -/
structure TenancyLaw (before : List Uuid) (p : State) : Prop where
  agents : AgentKeys p.shared.server
  targets : forall {k tenantId agentId}, p.Pending k -> k.target? = some (tenantId, agentId) ->
    Assigned p.shared.server tenantId agentId
  loyal : forall {k}, p.Pending k -> k.loyal = true
  issued : forall {id origin}, (id, origin) ∈ p.shared.dispatched ->
    id ∈ p.shared.server.log.issued
  rows : forall {r}, r ∈ p.shared.server.db.commands ->
    r.id ∈ before ∨ Isolated p.shared r

/-- A request starts with steps that have not looked an agent up. -/
theorem entry_target? {r : Request} {k : Step} (h : k ∈ entry r) :
    k.target? = none ∧ k.loyal = true := by
  cases r with
  | server r =>
      simp only [entry] at h
      split at h
      · cases h
      · rename_i hcall
        rcases List.mem_map.mp h with ⟨i, hi, rfl⟩
        refine ⟨rfl, ?_⟩
        cases Backend.enters_of_mem_entry hi with
        | createCommand =>
            exact absurd rfl hcall
        | _ =>
            rfl
  | _ =>
      cases List.mem_singleton.mp h
      exact ⟨rfl, rfl⟩

theorem TenancyLaw.start {before : List Uuid} {p p' : State} {r : Request}
    (hinv : TenancyLaw before p) (hstep : Pool.Started p p' (entry r)) :
    TenancyLaw before p' := by
  refine ⟨?_, ?_, ?_, ?_, ?_⟩
  · rw [hstep.shared]
    exact hinv.agents
  · intro k tenantId agentId hk htarget
    rw [hstep.shared]
    rcases hstep.pending hk with hnew | hold
    · rw [(entry_target? hnew).left] at htarget
      cases htarget
    · exact hinv.targets hold htarget
  · intro k hk
    rcases hstep.pending hk with hnew | hold
    · exact (entry_target? hnew).right
    · exact hinv.loyal hold
  · rw [hstep.shared]
    exact hinv.issued
  · rw [hstep.shared]
    exact hinv.rows

/-- The agents that a handler's successors go on with are looked up by it, or were by
an earlier step of it. -/
theorem HandlerMove.targets {cfg : FileConfig} {x : Input} {s t : Service} {h : HandlerStep}
    {cont : List Step} (hmove : HandlerMove cfg x s h t cont) {k : Step} (hk : k ∈ cont)
    {tenantId agentId : String} (htarget : k.target? = some (tenantId, agentId)) :
    Located s.server.db tenantId agentId ∨
      (Step.handler h).target? = some (tenantId, agentId) := by
  cases hmove with
  | refused | idle =>
      cases hk
  | created hlocated | installed hlocated | agentFound hlocated =>
      cases List.mem_singleton.mp hk
      cases htarget
      exact Or.inl hlocated
  | bulkCreated hlocated | bulkInstalled hlocated | resolved hlocated =>
      rcases List.mem_map.mp hk with ⟨id, hid, rfl⟩
      cases htarget
      exact Or.inl (hlocated id hid)
  | available | fileFound _ | tokenCreated _ =>
      cases List.mem_singleton.mp hk
      cases htarget
      exact Or.inr rfl
  | loaded =>
      cases List.mem_singleton.mp hk
      cases htarget

theorem HandlerMove.loyal {cfg : FileConfig} {x : Input} {s t : Service} {h : HandlerStep}
    {cont : List Step} (hmove : HandlerMove cfg x s h t cont) {k : Step} (hk : k ∈ cont) :
    k.loyal = true := by
  cases hmove with
  | refused | idle =>
      cases hk
  | bulkCreated | resolved =>
      rcases List.mem_map.mp hk with ⟨id, hid, rfl⟩
      exact decide_eq_true rfl
  | bulkInstalled =>
      rcases List.mem_map.mp hk with ⟨id, hid, rfl⟩
      rfl
  | _ =>
      cases List.mem_singleton.mp hk
      first | rfl | exact decide_eq_true rfl

/-- The instructions of the server insert no commands by themselves. -/
theorem loyal_of_created {i : Instr} {x : Input} {s : Server} {o : Outcome Server Instr}
    (hperform : Server.perform i x.server s = some o) {k : Step}
    (hk : k ∈ o.created.map Step.core) : k.target? = none ∧ k.loyal = true := by
  rcases List.mem_map.mp hk with ⟨j, hj, rfl⟩
  refine ⟨rfl, ?_⟩
  cases Backend.leads_of_perform hperform hj with
  | read _ hhandles =>
      cases hhandles <;> rfl
  | _ =>
      rfl

/-!
## Rows
-/

/-- A command that was isolated stays so, as long as its row is there. -/
theorem Isolated.step {s t : Service} {x : Backend.Input} {k : Instr} {old r : CommandRow}
    (h : Isolated s old) (heffect : Effect s.server x k t.server)
    (hr : r ∈ t.server.db.commands) {st : Statement} (hchange : Backend.RowChange x st old r)
    (hsame : forall origin, (old.id, origin) ∈ t.dispatched <->
      (old.id, origin) ∈ s.dispatched) : Isolated t r := by
  rcases h.created with ⟨origin, horigin⟩
  rcases h.agent with ⟨a, ha, hid, htenant⟩
  refine ⟨?_, ?_, ?_⟩
  · rw [hchange.id_eq]
    exact ⟨origin, (hsame origin).mpr horigin⟩
  · intro origin' h'
    rw [hchange.id_eq] at h'
    rw [hchange.tenantId_eq]
    exact h.tenant ((hsame origin').mp h')
  · obtain ⟨b, hb, hbid, hbtenant⟩ :=
      heffect.owner ha hr (hid.trans hchange.agentId_eq.symm)
    refine ⟨b, hb, ?_, ?_⟩
    · rw [hbid, hid, hchange.agentId_eq]
    · rw [hbtenant, htenant, hchange.tenantId_eq]

/-- A call of `CreateAndDispatchCommand` fails, or it inserts under a new
identifier. -/
theorem insert_cases {s : Service} {x : Input} {order : CommandOrder} (origin : Origin)
    {o : Outcome Server Instr} (hs : s.server.HubSound)
    (hperform : Server.perform (insertInstr order) x.server s.server = some o) :
    (o.shared = s.server ∧ (s.dispatch x origin o.shared).dispatched = s.dispatched) ∨
    (exists id, x.server.id = some id ∧ id ∉ s.server.log.issued ∧
      o.shared = s.server.insertion id
        ((Statement.insertCommand order).exec s.server.sessionTTL x.server s.server.db).1 ∧
      (s.dispatch x origin o.shared).dispatched = (id, origin) :: s.dispatched) := by
  have heffect := (Backend.effect_of_perform hs hperform).right
  generalize o.shared = t at heffect ⊢
  unfold insertInstr at heffect
  cases heffect with
  | quiet hquiet =>
      cases hquiet
  | failed hfails =>
      refine Or.inl ⟨rfl, ?_⟩
      simp only [Service.dispatch, hfails]
  | statement _ hgen =>
      cases hgen
  | insertion hok _ hid hnew =>
      refine Or.inr ⟨_, hid, hnew, rfl, ?_⟩
      simp only [Service.dispatch, hok, hid]

/-- The row that a call of `CreateAndDispatchCommand` inserts is of an agent of the
tenant that the call is for. -/
theorem isolated_insert {s : Service} {x : Input} {origin : Origin} {order : CommandOrder}
    {id : Uuid} (hloyal : order.tenantId = origin.tenantId)
    (hassigned : Assigned s.server order.tenantId order.agentId)
    (hissued : forall {id origin}, (id, origin) ∈ s.dispatched -> id ∈ s.server.log.issued)
    (hnew : id ∉ s.server.log.issued) {t : Service}
    (hserver : t.server = s.server.insertion id
      ((Statement.insertCommand order).exec s.server.sessionTTL x.server s.server.db).1)
    (hdispatched : t.dispatched = (id, origin) :: s.dispatched) {r : CommandRow}
    (hid : r.id = id) (htenant : Uuid.parse order.tenantId = some r.tenantId)
    (hagent : r.agentId.named order.agentId = true)
    (howner : exists a, a ∈ s.server.db.agents ∧ a.id = r.agentId) : Isolated t r := by
  have hnamed := Uuid.named_of_parse htenant
  refine ⟨⟨origin, ?_⟩, ?_, ?_⟩
  · rw [hdispatched, hid]
    exact List.mem_cons_self
  · intro origin' h'
    rw [hdispatched, hid] at h'
    rcases List.mem_cons.mp h' with heq | hold
    · cases heq
      rw [← hloyal]
      exact hnamed
    · exact absurd (hissued hold) hnew
  · rcases howner with ⟨a, ha, haid⟩
    rcases hassigned with ⟨target, _, htarget, hall⟩
    have hsame := Uuid.named_unique htarget hagent
    refine ⟨a, ?_, haid, ?_⟩
    · rw [hserver]
      exact ((Backend.exec_frames (Statement.insertCommand order) s.server.sessionTTL x.server
        s.server.db).agents rfl).symm ▸ ha
    · exact Uuid.named_unique (hall a ha (haid.trans hsame.symm)) hnamed

theorem Isolated.same {s t : Service} {r : CommandRow} (h : Isolated s r)
    (hserver : t.server = s.server) (hdispatched : t.dispatched = s.dispatched) :
    Isolated t r := by
  refine ⟨?_, ?_, ?_⟩
  · rw [hdispatched]
    exact h.created
  · rw [hdispatched]
    exact h.tenant
  · rw [hserver]
    exact h.agent

/-!
## Steps
-/

section Steps

variable {before : List Uuid} {p p' : State} {x : Input} {k : Step} {o : Outcome Service Step}

/-- A step of a handler, or of the library, inserts nothing. -/
theorem TenancyLaw.other_step (hinv : TenancyLaw before p) (hexec : Pool.Executed p p' k o)
    (hserver : o.shared.server = p.shared.server)
    (hdispatched : o.shared.dispatched = p.shared.dispatched)
    (hcreated : forall j, j ∈ o.created -> j.loyal = true ∧
      forall tenantId agentId, j.target? = some (tenantId, agentId) ->
        Assigned p.shared.server tenantId agentId) : TenancyLaw before p' := by
  have hserver' : p'.shared.server = p.shared.server := by
    rw [hexec.shared, hserver]
  have hdispatched' : p'.shared.dispatched = p.shared.dispatched := by
    rw [hexec.shared, hdispatched]
  refine ⟨?_, ?_, ?_, ?_, ?_⟩
  · rw [hserver']
    exact hinv.agents
  · intro j tenantId agentId hj htarget
    rw [hserver']
    rcases hexec.pending hj with hnew | hold
    · exact (hcreated j hnew).right tenantId agentId htarget
    · exact hinv.targets hold htarget
  · intro j hj
    rcases hexec.pending hj with hnew | hold
    · exact (hcreated j hnew).left
    · exact hinv.loyal hold
  · rw [hserver', hdispatched']
    exact hinv.issued
  · intro r hr
    rw [hserver'] at hr
    rcases hinv.rows hr with hbefore | hisolated
    · exact Or.inl hbefore
    · exact Or.inr (hisolated.same hserver' hdispatched')

/-- An instruction of the server keeps what was looked up. -/
theorem TenancyLaw.server_step (hinv : TenancyLaw before p) (hexec : Pool.Executed p p' k o)
    {i : Instr} (heffect : Effect p.shared.server x.server i p'.shared.server)
    (hcreated : forall j, j ∈ o.created -> j.target? = none ∧ j.loyal = true)
    (hissued : forall id origin, (id, origin) ∈ p'.shared.dispatched ->
      id ∈ p'.shared.server.log.issued)
    (hrows : forall r, r ∈ p'.shared.server.db.commands ->
      r.id ∈ before ∨ Isolated p'.shared r) : TenancyLaw before p' := by
  refine ⟨hinv.agents.step heffect, ?_, ?_, fun h => hissued _ _ h, fun h => hrows _ h⟩
  · intro j tenantId agentId hj htarget
    rcases hexec.pending hj with hnew | hold
    · rw [(hcreated j hnew).left] at htarget
      cases htarget
    · exact (hinv.targets hold htarget).step heffect
  · intro j hj
    rcases hexec.pending hj with hnew | hold
    · exact (hcreated j hnew).right
    · exact hinv.loyal hold

/-- A row after an instruction that inserts no command. -/
theorem TenancyLaw.kept_rows (hinv : TenancyLaw before p) {i : Instr}
    (heffect : Effect p.shared.server x.server i p'.shared.server)
    (hdispatched : p'.shared.dispatched = p.shared.dispatched)
    (hi : (Step.core i).loyal = true) {r : CommandRow}
    (hr : r ∈ p'.shared.server.db.commands) : r.id ∈ before ∨ Isolated p'.shared r := by
  rcases heffect.commands hr with ⟨old, st, hold, hchange, _⟩ | ⟨st, rfl, hinsert, _⟩
  · rcases hinv.rows hold with hbefore | hisolated
    · rw [hchange.id_eq]
      exact Or.inl hbefore
    · refine Or.inr (hisolated.step heffect hr hchange ?_)
      intro origin
      rw [hdispatched]
  · cases hinsert
    cases hi

theorem TenancyLaw.core_step (hinv : TenancyLaw before p) {i : Instr} {o' : Outcome Server Instr}
    (hs : p.shared.server.HubSound) (hexec : Pool.Executed p p' (Step.core i) o)
    (hperform : Server.perform i x.server p.shared.server = some o')
    (hshared : o.shared = p.shared.withServer o'.shared)
    (hcreated : o.created = o'.created.map Step.core) : TenancyLaw before p' := by
  have hshared' : p'.shared = p.shared.withServer o'.shared := hexec.shared.trans hshared
  have heffect : Effect p.shared.server x.server i p'.shared.server := by
    rw [hshared']
    exact (Backend.effect_of_perform hs hperform).right
  have hdispatched : p'.shared.dispatched = p.shared.dispatched := by
    rw [hshared']
    rfl
  refine hinv.server_step hexec heffect ?_ ?_ ?_
  · intro j hj
    rw [hcreated] at hj
    exact loyal_of_created hperform hj
  · intro id origin h
    rw [hdispatched] at h
    exact heffect.issued_mono (hinv.issued h)
  · intro r hr
    exact hinv.kept_rows heffect hdispatched (hinv.loyal hexec.running) hr

theorem TenancyLaw.insert_step (hinv : TenancyLaw before p) {origin : Origin}
    {order : CommandOrder} {o' : Outcome Server Instr} (hs : p.shared.server.HubSound)
    (hkeys : Backend.CommandKeys p.shared.server)
    (hexec : Pool.Executed p p' (Step.insert origin order) o)
    (hperform : Server.perform (insertInstr order) x.server p.shared.server = some o')
    (hshared : o.shared = p.shared.dispatch x origin o'.shared)
    (hcreated : o.created = o'.created.map Step.core) : TenancyLaw before p' := by
  have hshared' : p'.shared = p.shared.dispatch x origin o'.shared :=
    hexec.shared.trans hshared
  have hserver : p'.shared.server = o'.shared := by
    rw [hshared']
    rfl
  have heffect : Effect p.shared.server x.server (insertInstr order) p'.shared.server := by
    rw [hserver]
    exact (Backend.effect_of_perform hs hperform).right
  rcases insert_cases origin hs hperform with ⟨hsame, hdispatched⟩ |
    ⟨id, hid, hnew, hinsertion, hdispatched⟩
  · rw [← hshared'] at hdispatched
    refine hinv.server_step hexec heffect ?_ ?_ ?_
    · intro j hj
      rw [hcreated] at hj
      exact loyal_of_created hperform hj
    · intro id origin' h
      rw [hdispatched] at h
      exact heffect.issued_mono (hinv.issued h)
    · intro r hr
      rw [hserver, hsame] at hr
      rcases hinv.rows hr with hbefore | hisolated
      · exact Or.inl hbefore
      · exact Or.inr (hisolated.same (hserver.trans hsame) hdispatched)
  · rw [← hshared'] at hdispatched
    refine hinv.server_step hexec heffect ?_ ?_ ?_
    · intro j hj
      rw [hcreated] at hj
      exact loyal_of_created hperform hj
    · intro id' origin' h
      rw [hdispatched] at h
      rcases List.mem_cons.mp h with heq | hold
      · cases heq
        rw [hserver, hinsertion]
        exact List.mem_cons_self
      · exact heffect.issued_mono (hinv.issued hold)
    · intro r hr
      have hr' : r ∈ ((Statement.insertCommand order).exec p.shared.server.sessionTTL x.server
          p.shared.server.db).1.commands := by
        rw [hserver, hinsertion] at hr
        exact hr
      rcases Backend.exec_insertCommand hr' with hold | ⟨hrid, htenant, hagent, _, _, howner⟩
      · rcases hinv.rows hold with hbefore | hisolated
        · exact Or.inl hbefore
        · -- the new identifier is not that of this row
          have hother : r.id ≠ id := fun heq => hnew (heq ▸ hkeys.issued hold)
          have hsame : Backend.RowChange x.server (Statement.insertCommand order) r r :=
            Backend.RowChange.same
          refine Or.inr (hisolated.step heffect hr hsame ?_)
          intro origin'
          rw [hdispatched, List.mem_cons, Prod.mk.injEq]
          exact or_iff_right fun heq => hother heq.left
      · rw [hid] at hrid
        cases hrid
        exact Or.inr (isolated_insert (of_decide_eq_true (hinv.loyal hexec.running))
          (hinv.targets hexec.running rfl) hinv.issued hnew (hserver.trans hinsertion)
          hdispatched rfl htenant hagent howner)

theorem TenancyLaw.step {cfg : FileConfig} (hinv : TenancyLaw before p)
    (hs : p.shared.server.HubSound) (hkeys : Backend.CommandKeys p.shared.server)
    (hperforms : Performs cfg x p.shared k o.shared o.created)
    (hexec : Pool.Executed p p' k o) : TenancyLaw before p' := by
  generalize hshared : o.shared = t at hperforms
  generalize hcreated : o.created = created at hperforms
  cases hperforms with
  | core hperform =>
      exact hinv.core_step hs hexec hperform hshared hcreated
  | insert hperform =>
      exact hinv.insert_step hs hkeys hexec hperform hshared hcreated
  | handler hdraws hmove =>
      rcases hmove.frame with ⟨hserver, hdispatched⟩
      refine hinv.other_step hexec (hshared ▸ hserver) (hshared ▸ hdispatched) ?_
      intro j hj
      rw [hcreated] at hj
      refine ⟨hmove.loyal hj, ?_⟩
      intro tenantId agentId htarget
      rcases hmove.targets hj htarget with hlocated | hearlier
      · exact hlocated.assigned hinv.agents
      · exact hinv.targets hexec.running hearlier
  | file hdraws hmove =>
      refine hinv.other_step hexec (by rw [hshared]) (by rw [hshared]) ?_
      intro j hj
      rw [hcreated] at hj
      rcases List.mem_map.mp hj with ⟨f, _, rfl⟩
      exact ⟨rfl, fun _ _ h => by cases h⟩

end Steps

theorem addressed_startable : Startable Addressed :=
  fun hinv hstarts => hinv.start hstarts

theorem addressed_executable : Executable Addressed :=
  fun hs hinv hexec => hinv.step hs hexec

theorem tenancyLaw_preserved (cfg : FileConfig) (before : List Uuid) :
    (api cfg).Preserves (fun p e => Pool.guarded (fun _ _ _ => true) p e = true)
      (fun p => (p.shared.server.HubSound ∧ Addressed (serverPart p)) ∧
        TenancyLaw before p) := by
  refine api_preserves addressed_startable addressed_executable ?_ ?_
  · intro p p' r hinv hstep
    exact hinv.start hstep
  · intro p p' x k o hs hbase hinv _ hperforms hexec
    exact hinv.step hs hbase.keys hperforms hexec

/-- The keys of the tables that the server is started over are distinct, and among the
identifiers that have been generated. -/
structure TablesKeyed (db : Database) (issued : List Uuid) : Prop where
  agents : (db.agents.map AgentRow.id).Nodup
  agentsIssued : forall a, a ∈ db.agents -> a.id ∈ issued
  commands : (db.commands.map CommandRow.id).Nodup
  commandsIssued : forall r, r ∈ db.commands -> r.id ∈ issued

section Boot

variable {wsEndpoint : String} {sessionTTL : Nat} {db : Database} {issued : List Uuid}

theorem addressed_api_boot (hkeyed : TablesKeyed db issued) (library : Library) :
    Addressed (serverPart
      (boot (Backend.boot wsEndpoint sessionTTL db issued).shared library)) :=
  serverPart_idle addressed_startable
    (Backend.addressed_boot hkeyed.commands hkeyed.commandsIssued) rfl rfl rfl

theorem tenancyLaw_boot (hkeyed : TablesKeyed db issued) (library : Library) :
    TenancyLaw (db.commands.map CommandRow.id)
      (boot (Backend.boot wsEndpoint sessionTTL db issued).shared library) where
  agents := by
    refine ⟨fun ha => hkeyed.agentsIssued _ ha, ?_⟩
    intro a b ha hb hid
    rw [List.inj_on_of_nodup_map hkeyed.agents ha hb hid]
  targets := fun hk _ => absurd hk boot_no_pending
  loyal := fun hk => absurd hk boot_no_pending
  issued := fun h => absurd h List.not_mem_nil
  rows := fun hr => Or.inl (List.mem_map_of_mem hr)

end Boot

/-- In every run, a command that was not there at the start is of the tenant of the
request or of the schedule it was created for, and of an agent of that tenant; and the
messages that carry a command went to connections of its agent. -/
theorem commands_stay_in_tenant (cfg : FileConfig) (wsEndpoint : String) (sessionTTL : Nat)
    (db : Database) (issued : List Uuid) (library : Library)
    (hkeyed : TablesKeyed db issued) {es : List Event} {p : State}
    (hrun : (api cfg).run
      (boot (Backend.boot wsEndpoint sessionTTL db issued).shared library) es = some p) :
    (forall r, r ∈ p.shared.server.db.commands -> r.id ∉ db.commands.map CommandRow.id ->
      (exists origin, (r.id, origin) ∈ p.shared.dispatched) ∧
      (forall origin, (r.id, origin) ∈ p.shared.dispatched ->
        r.tenantId.named origin.tenantId = true) ∧
      (exists a, a ∈ p.shared.server.db.agents ∧ a.id = r.agentId ∧
        a.tenantId = r.tenantId)) ∧
    (forall r, r ∈ p.shared.server.db.commands ->
      exists r0, r0 ∈ p.shared.server.log.commands ∧ r0.id = r.id ∧ r0.agentId = r.agentId) ∧
    (forall c msg sender r, (c, msg, sender) ∈ p.shared.server.log.accepted ->
      r ∈ p.shared.server.log.commands -> carries msg r.id = true ->
      r.agentId.named (p.shared.server.hub.heap c).agentId = true) := by
  obtain ⟨⟨hs, haddressed⟩, hlaw⟩ :=
    (tenancyLaw_preserved cfg (db.commands.map CommandRow.id)).run
      ⟨⟨Backend.boot_hubSound _ _ _ _, addressed_api_boot hkeyed library⟩,
        tenancyLaw_boot hkeyed library⟩ Pool.meets_guarded_true hrun
  refine ⟨?_, ?_, ?_⟩
  · intro r hr hnew
    rcases hlaw.rows hr with hbefore | hisolated
    · exact absurd hbefore hnew
    · exact ⟨hisolated.created, fun origin h => hisolated.tenant h, hisolated.agent⟩
  · intro r hr
    rcases haddressed.recorded hr with ⟨r0, hr0, hid, hagent, _⟩
    exact ⟨r0, hr0, hid, hagent.symm⟩
  · intro c msg sender r hmem hr hcarries
    exact (haddressed.delivered hmem hr hcarries).left

namespace Sample

/-- The agent connects, and a user orders it to reboot. -/
def rebootOrdered : List Event :=
  connect 0 ++
    [PoolEvent.start (Request.createCommand caller Backend.Sample.agent.text
        (some { type := "reboot", payload := none })),
      go 2,
      PoolEvent.exec 2 { input with server := { id := some Backend.Sample.command } },
      go 2, go 2, go 2]

end Sample

theorem sample_keyed : TablesKeyed Backend.Sample.database
    [Backend.Sample.tenant, Backend.Sample.agent] := by
  refine ⟨List.nodup_singleton _, ?_, List.nodup_nil, fun r hr => absurd hr List.not_mem_nil⟩
  intro a ha
  rw [List.mem_singleton.mp ha]
  exact List.mem_cons_of_mem _ List.mem_cons_self

theorem commands_stay_in_tenant_reboot :
    exists p r, (api Sample.config).run Sample.start Sample.rebootOrdered = some p ∧
      r ∈ p.shared.server.db.commands ∧
      (r.id, Origin.user Sample.caller) ∈ p.shared.dispatched ∧
      r.tenantId.named Sample.caller.tenantId = true ∧
      exists e, e ∈ p.shared.server.log.accepted ∧ carries e.2.1 r.id = true ∧
        r.agentId.named (p.shared.server.hub.heap e.1).agentId = true := by
  obtain ⟨p, r, e, hrun, hr, horigin, he, hcarries⟩ : exists p r e,
      (api Sample.config).run Sample.start Sample.rebootOrdered = some p ∧
        r ∈ p.shared.server.db.commands ∧
        (r.id, Origin.user Sample.caller) ∈ p.shared.dispatched ∧
        e ∈ p.shared.server.log.accepted ∧ carries e.2.1 r.id = true :=
    ⟨_, _, _, rfl, List.mem_cons_self, List.mem_cons_self, List.mem_cons_self, by decide⟩
  obtain ⟨hrows, hlogged, hsent⟩ :=
    commands_stay_in_tenant _ _ _ _ _ _ sample_keyed hrun
  refine ⟨p, r, hrun, hr, horigin, ?_, e, he, hcarries, ?_⟩
  · exact (hrows r hr List.not_mem_nil).right.left _ horigin
  · rcases hlogged r hr with ⟨r0, hr0, hid, hagent⟩
    rw [← hagent]
    exact hsent e.1 e.2.1 e.2.2 r0 he hr0 (hid ▸ hcarries)

end Api
end LeoOne
