import LeoOne.Backend.Database
import LeoOne.Backend.Pagination

/-!
# The four lists

`AgentRepo.List`, `AlertRepo.List`, `PatchRepo.ListByAgent` and `AuditRepo.List`, each with
its own conditions.  The rows have the columns that a condition looks at; times are
microseconds, as in the tables.
-/

namespace LeoOne
namespace Backend
namespace Lists

open Foundation

variable {ρ : Type}

/-- A condition on a `uuid` column, which may be null. -/
def uuidIs (column : ρ -> Option Uuid) : Arg -> Option (ρ -> Bool)
  | Arg.text s => (Uuid.parse s).map fun u r => column r = some u
  | _ => none

/-- A condition on a column of an enumeration. -/
def labelIs {ε : Type} [DecidableEq ε] (ofLabel : String -> Option ε) (column : ρ -> ε) :
    Arg -> Option (ρ -> Bool)
  | Arg.text s => (ofLabel s).map fun e r => column r = e
  | _ => none

/-- A condition on a `text` column. -/
def textIs (column : ρ -> String) : Arg -> Option (ρ -> Bool)
  | Arg.text s => some fun r => column r = s
  | _ => none

theorem uuidIs_iff {column : ρ -> Option Uuid} {s : String} {r : ρ} :
    (exists test, uuidIs column (Arg.text s) = some test ∧ test r = true) <->
      exists u, column r = some u ∧ Uuid.named s u = true := by
  simp only [uuidIs, Option.map_eq_some_iff]
  constructor
  · rintro ⟨_, ⟨u, hparse, rfl⟩, htest⟩
    exact ⟨u, of_decide_eq_true htest, Uuid.named_of_parse hparse⟩
  · rintro ⟨u, hcolumn, hnamed⟩
    exact ⟨_, ⟨u, Uuid.parse_of_named hnamed, rfl⟩, decide_eq_true hcolumn⟩

theorem labelIs_iff {ε : Type} [DecidableEq ε] {ofLabel : String -> Option ε}
    {column : ρ -> ε} {s : String} {r : ρ} :
    (exists test, labelIs ofLabel column (Arg.text s) = some test ∧ test r = true) <->
      ofLabel s = some (column r) := by
  simp only [labelIs, Option.map_eq_some_iff]
  constructor
  · rintro ⟨_, ⟨e, hlabel, rfl⟩, htest⟩
    rw [hlabel, of_decide_eq_true htest]
  · intro h
    exact ⟨_, ⟨_, h, rfl⟩, decide_eq_true rfl⟩

theorem textIs_iff {column : ρ -> String} {s : String} {r : ρ} :
    (exists test, textIs column (Arg.text s) = some test ∧ test r = true) <->
      column r = s := by
  simp [textIs]

/-!
## Agents
-/

def agentStatus : String -> Option AgentStatus
  | "online" => some AgentStatus.online
  | "offline" => some AgentStatus.offline
  | "maintenance" => some AgentStatus.maintenance
  | "unresponsive" => some AgentStatus.unresponsive
  | _ => none

structure Agent where
  id : Uuid
  tenantId : Uuid
  workspaceId : Option Uuid
  hostname : String
  status : AgentStatus

inductive AgentColumn where
  | tenantId
  | status
  | workspaceId
  | id
  deriving DecidableEq

def agents : Listing AgentColumn Agent where
  id := Agent.id
  idColumn := AgentColumn.id
  holds
    | AgentColumn.tenantId => uuidIs fun a => some a.tenantId
    | AgentColumn.status => labelIs agentStatus Agent.status
    | AgentColumn.workspaceId => uuidIs Agent.workspaceId
    | AgentColumn.id => afterId Agent.id
  holds_id := fun _ => rfl

structure AgentFilter where
  workspaceId : Option String
  status : Option String
  cursor : String
  limit : Int

/-- The conditions of `AgentRepo.List`, but for the cursor. -/
def AgentFilter.build (f : AgentFilter) (tenantId : String) : Builder AgentColumn :=
  let b : Builder AgentColumn :=
    { args := [Arg.text tenantId]
      conditions := [{ column := AgentColumn.tenantId, placeholder := ['1'] }]
      argN := 2 }
  let b := b.add AgentColumn.status (f.status.map Arg.text)
  b.add AgentColumn.workspaceId (f.workspaceId.map Arg.text)

/-- `AgentRepo.List`. -/
def listAgents (rows : List Agent) (tenantId : String) (f : AgentFilter) :
    Option (List Agent × String) :=
  agents.list rows (f.build tenantId) f.limit f.cursor

/-- The filter, as conditions with their arguments. -/
def AgentFilter.conditions (f : AgentFilter) (tenantId : String) :
    List (AgentColumn × Arg) :=
  [(AgentColumn.tenantId, Arg.text tenantId)] ++
    optional AgentColumn.status (f.status.map Arg.text) ++
    optional AgentColumn.workspaceId (f.workspaceId.map Arg.text)

/-- The agents of the tenant that the filter selects. -/
structure AgentFilter.Selects (f : AgentFilter) (tenantId : String) (a : Agent) : Prop where
  tenant : Uuid.named tenantId a.tenantId = true
  status : forall s, f.status = some s -> agentStatus s = some a.status
  workspace : forall s, f.workspaceId = some s ->
    exists u, a.workspaceId = some u ∧ Uuid.named s u = true

theorem agents_meets {f : AgentFilter} {tenantId : String} {a : Agent} :
    agents.Meets (f.conditions tenantId) a <-> f.Selects tenantId a := by
  simp only [AgentFilter.conditions, meets_append, meets_optional, meets_singleton, agents,
    uuidIs_iff, labelIs_iff, Option.some.injEq, exists_eq_left']
  exact ⟨fun h => ⟨h.left.left, h.left.right, h.right⟩,
    fun h => ⟨⟨h.tenant, h.status⟩, h.workspace⟩⟩

theorem agents_correct {rows : List Agent} (hids : (rows.map Agent.id).Nodup)
    (tenantId : String) (f : AgentFilter) :
    agents.Correct rows (f.build tenantId) (f.conditions tenantId) (f.Selects tenantId)
      fun c => listAgents rows tenantId { f with cursor := c } := by
  refine Listing.correct agents hids ?_ ?_ (fun _ => agents_meets) f.limit
  · refine Builder.Numbered.add (Builder.Numbered.add ?_ _ _) _ _
    exact ⟨rfl, rfl, rfl⟩
  · have hstatus := length_optional_le AgentColumn.status (f.status.map Arg.text)
    have hworkspace := length_optional_le AgentColumn.workspaceId (f.workspaceId.map Arg.text)
    simp only [AgentFilter.conditions, List.length_append, List.length_singleton]
    omega

/-!
## Alerts
-/

/-- `alert_status`. -/
inductive AlertStatus where
  | opened
  | acknowledged
  | resolved
  deriving DecidableEq

/-- `alert_severity`. -/
inductive AlertSeverity where
  | info
  | warning
  | critical
  deriving DecidableEq

def alertStatus : String -> Option AlertStatus
  | "open" => some AlertStatus.opened
  | "acknowledged" => some AlertStatus.acknowledged
  | "resolved" => some AlertStatus.resolved
  | _ => none

def alertSeverity : String -> Option AlertSeverity
  | "info" => some AlertSeverity.info
  | "warning" => some AlertSeverity.warning
  | "critical" => some AlertSeverity.critical
  | _ => none

structure Alert where
  id : Uuid
  tenantId : Uuid
  agentId : Uuid
  severity : AlertSeverity
  status : AlertStatus

inductive AlertColumn where
  | tenantId
  | status
  | severity
  | agentId
  | id
  deriving DecidableEq

/-- An alert with the `hostname` of its agent. -/
def alerts : Listing AlertColumn (Alert × String) where
  id := fun r => r.1.id
  idColumn := AlertColumn.id
  holds
    | AlertColumn.tenantId => uuidIs fun r => some r.1.tenantId
    | AlertColumn.status => labelIs alertStatus fun r => r.1.status
    | AlertColumn.severity => labelIs alertSeverity fun r => r.1.severity
    | AlertColumn.agentId => uuidIs fun r => some r.1.agentId
    | AlertColumn.id => afterId fun r => r.1.id
  holds_id := fun _ => rfl

/-- `FROM alerts al JOIN agents ag ON ag.id = al.agent_id`. -/
def joinAgents (rows : List Alert) (ags : List Agent) : List (Alert × String) :=
  rows.flatMap fun al => (ags.filter fun ag => ag.id = al.agentId).map fun ag => (al, ag.hostname)

structure AlertFilter where
  status : Option String
  severity : Option String
  agentId : Option String
  cursor : String
  limit : Int

/-- The conditions of `AlertRepo.List`, but for the cursor. -/
def AlertFilter.build (f : AlertFilter) (tenantId : String) : Builder AlertColumn :=
  let b : Builder AlertColumn :=
    { args := [Arg.text tenantId]
      conditions := [{ column := AlertColumn.tenantId, placeholder := ['1'] }]
      argN := 2 }
  let b := b.add AlertColumn.status (f.status.map Arg.text)
  let b := b.add AlertColumn.severity (f.severity.map Arg.text)
  b.add AlertColumn.agentId (f.agentId.map Arg.text)

/-- `AlertRepo.List`. -/
def listAlerts (rows : List Alert) (ags : List Agent) (tenantId : String) (f : AlertFilter) :
    Option (List (Alert × String) × String) :=
  alerts.list (joinAgents rows ags) (f.build tenantId) f.limit f.cursor

def AlertFilter.conditions (f : AlertFilter) (tenantId : String) :
    List (AlertColumn × Arg) :=
  [(AlertColumn.tenantId, Arg.text tenantId)] ++
    optional AlertColumn.status (f.status.map Arg.text) ++
    optional AlertColumn.severity (f.severity.map Arg.text) ++
    optional AlertColumn.agentId (f.agentId.map Arg.text)

structure AlertFilter.Selects (f : AlertFilter) (tenantId : String) (al : Alert) : Prop where
  tenant : Uuid.named tenantId al.tenantId = true
  status : forall s, f.status = some s -> alertStatus s = some al.status
  severity : forall s, f.severity = some s -> alertSeverity s = some al.severity
  agent : forall s, f.agentId = some s -> Uuid.named s al.agentId = true

theorem alerts_meets {f : AlertFilter} {tenantId : String} {r : Alert × String} :
    alerts.Meets (f.conditions tenantId) r <-> f.Selects tenantId r.1 := by
  simp only [AlertFilter.conditions, meets_append, meets_optional, meets_singleton, alerts,
    uuidIs_iff, labelIs_iff, Option.some.injEq, exists_eq_left']
  exact ⟨fun h => ⟨h.left.left.left, h.left.left.right, h.left.right, h.right⟩,
    fun h => ⟨⟨⟨h.tenant, h.status⟩, h.severity⟩, h.agent⟩⟩

/-- Each alert is joined to its one agent. -/
theorem joinAgents_fst {rows : List Alert} {ags : List Agent}
    (hids : (ags.map Agent.id).Nodup)
    (hagents : forall al, al ∈ rows -> exists ag, ag ∈ ags ∧ ag.id = al.agentId) :
    (joinAgents rows ags).map (fun r => r.1) = rows := by
  induction rows with
  | nil =>
      rfl
  | cons al rows ih =>
      rw [List.forall_mem_cons] at hagents
      rcases hagents with ⟨⟨ag, hag, hid⟩, hrest⟩
      have hone : ags.filter (fun ag => ag.id = al.agentId) = [ag] := by
        refine List.perm_singleton.mp ?_
        refine (List.perm_ext_iff_of_nodup ?_ (List.nodup_singleton ag)).mpr ?_
        · exact (List.Nodup.of_map Agent.id hids).filter _
        · intro other
          rw [List.mem_filter, List.mem_singleton, decide_eq_true_eq]
          constructor
          · rintro ⟨hother, hsame⟩
            exact List.inj_on_of_nodup_map hids hother hag (hsame.trans hid.symm)
          · rintro rfl
            exact ⟨hag, hid⟩
      rw [joinAgents, List.flatMap_cons, hone, List.map_append]
      exact congrArg (List.cons al) (ih hrest)

theorem alerts_correct {rows : List Alert} {ags : List Agent}
    (hids : (rows.map Alert.id).Nodup) (hags : (ags.map Agent.id).Nodup)
    (hagents : forall al, al ∈ rows -> exists ag, ag ∈ ags ∧ ag.id = al.agentId)
    (tenantId : String) (f : AlertFilter) :
    alerts.Correct (joinAgents rows ags) (f.build tenantId) (f.conditions tenantId)
      (fun r => f.Selects tenantId r.1)
      fun c => listAlerts rows ags tenantId { f with cursor := c } := by
  have hjoined : ((joinAgents rows ags).map alerts.id).Nodup := by
    rw [← joinAgents_fst hags hagents, List.map_map] at hids
    exact hids
  refine Listing.correct alerts hjoined ?_ ?_ (fun _ => alerts_meets) f.limit
  · refine Builder.Numbered.add (Builder.Numbered.add (Builder.Numbered.add ?_ _ _) _ _) _ _
    exact ⟨rfl, rfl, rfl⟩
  · have hstatus := length_optional_le AlertColumn.status (f.status.map Arg.text)
    have hseverity := length_optional_le AlertColumn.severity (f.severity.map Arg.text)
    have hagent := length_optional_le AlertColumn.agentId (f.agentId.map Arg.text)
    simp only [AlertFilter.conditions, List.length_append, List.length_singleton]
    omega

/-!
## Patches
-/

def patchStatus : String -> Option PatchStatus
  | "available" => some PatchStatus.available
  | "installed" => some PatchStatus.installed
  | "ignored" => some PatchStatus.ignored
  | "failed" => some PatchStatus.failed
  | _ => none

structure Patch where
  id : Uuid
  tenantId : Uuid
  agentId : Uuid
  status : PatchStatus

inductive PatchColumn where
  | tenantId
  | agentId
  | status
  | id
  deriving DecidableEq

def patches : Listing PatchColumn Patch where
  id := Patch.id
  idColumn := PatchColumn.id
  holds
    | PatchColumn.tenantId => uuidIs fun p => some p.tenantId
    | PatchColumn.agentId => uuidIs fun p => some p.agentId
    | PatchColumn.status => labelIs patchStatus Patch.status
    | PatchColumn.id => afterId Patch.id
  holds_id := fun _ => rfl

structure PatchFilter where
  status : Option String
  cursor : String
  limit : Int

/-- The conditions of `PatchRepo.ListByAgent`, but for the cursor. -/
def PatchFilter.build (f : PatchFilter) (tenantId agentId : String) : Builder PatchColumn :=
  let b : Builder PatchColumn :=
    { args := [Arg.text tenantId, Arg.text agentId]
      conditions :=
        [{ column := PatchColumn.tenantId, placeholder := ['1'] },
          { column := PatchColumn.agentId, placeholder := ['2'] }]
      argN := 3 }
  b.add PatchColumn.status (f.status.map Arg.text)

/-- `PatchRepo.ListByAgent`. -/
def listPatchesByAgent (rows : List Patch) (tenantId agentId : String) (f : PatchFilter) :
    Option (List Patch × String) :=
  patches.list rows (f.build tenantId agentId) f.limit f.cursor

def PatchFilter.conditions (f : PatchFilter) (tenantId agentId : String) :
    List (PatchColumn × Arg) :=
  [(PatchColumn.tenantId, Arg.text tenantId), (PatchColumn.agentId, Arg.text agentId)] ++
    optional PatchColumn.status (f.status.map Arg.text)

structure PatchFilter.Selects (f : PatchFilter) (tenantId agentId : String) (p : Patch) :
    Prop where
  tenant : Uuid.named tenantId p.tenantId = true
  agent : Uuid.named agentId p.agentId = true
  status : forall s, f.status = some s -> patchStatus s = some p.status

theorem patches_meets {f : PatchFilter} {tenantId agentId : String} {p : Patch} :
    patches.Meets (f.conditions tenantId agentId) p <-> f.Selects tenantId agentId p := by
  have hpair :
      [(PatchColumn.tenantId, Arg.text tenantId), (PatchColumn.agentId, Arg.text agentId)] =
      [(PatchColumn.tenantId, Arg.text tenantId)] ++
        [(PatchColumn.agentId, Arg.text agentId)] := rfl
  simp only [PatchFilter.conditions, hpair, meets_append, meets_optional, meets_singleton,
    patches, uuidIs_iff, labelIs_iff, Option.some.injEq, exists_eq_left']
  exact ⟨fun h => ⟨h.left.left, h.left.right, h.right⟩,
    fun h => ⟨⟨h.tenant, h.agent⟩, h.status⟩⟩

theorem patches_correct {rows : List Patch} (hids : (rows.map Patch.id).Nodup)
    (tenantId agentId : String) (f : PatchFilter) :
    patches.Correct rows (f.build tenantId agentId) (f.conditions tenantId agentId)
      (f.Selects tenantId agentId)
      fun c => listPatchesByAgent rows tenantId agentId { f with cursor := c } := by
  refine Listing.correct patches hids ?_ ?_ (fun _ => patches_meets) f.limit
  · refine Builder.Numbered.add ?_ _ _
    exact ⟨rfl, rfl, rfl⟩
  · have hstatus := length_optional_le PatchColumn.status (f.status.map Arg.text)
    simp only [PatchFilter.conditions, List.length_append, List.length_cons, List.length_nil]
    omega

/-!
## Audit entries
-/

structure Entry where
  id : Uuid
  tenantId : Uuid
  userId : Option Uuid
  action : String
  resourceType : String
  createdAt : Int

/-- The columns of `audit_log`; `created_at` has two conditions. -/
inductive EntryColumn where
  | tenantId
  | userId
  | action
  | resourceType
  | createdFrom
  | createdTo
  | id
  deriving DecidableEq

/-- `created_at >= $n` and `created_at <= $n`. -/
def timeIs (compare : Int -> Int -> Bool) : Arg -> Option (Entry -> Bool)
  | Arg.time t => some fun e => compare e.createdAt t
  | _ => none

def entries : Listing EntryColumn Entry where
  id := Entry.id
  idColumn := EntryColumn.id
  holds
    | EntryColumn.tenantId => uuidIs fun e => some e.tenantId
    | EntryColumn.userId => uuidIs Entry.userId
    | EntryColumn.action => textIs Entry.action
    | EntryColumn.resourceType => textIs Entry.resourceType
    | EntryColumn.createdFrom => timeIs fun created t => created ≥ t
    | EntryColumn.createdTo => timeIs fun created t => created ≤ t
    | EntryColumn.id => afterId Entry.id
  holds_id := fun _ => rfl

structure EntryFilter where
  userId : Option String
  action : Option String
  resourceType : Option String
  createdFrom : Option Int
  createdTo : Option Int
  cursor : String
  limit : Int

/-- The conditions of `AuditRepo.List`, but for the cursor. -/
def EntryFilter.build (f : EntryFilter) (tenantId : String) : Builder EntryColumn :=
  let b : Builder EntryColumn :=
    { args := [Arg.text tenantId]
      conditions := [{ column := EntryColumn.tenantId, placeholder := ['1'] }]
      argN := 2 }
  let b := b.add EntryColumn.userId (f.userId.map Arg.text)
  let b := b.add EntryColumn.action (f.action.map Arg.text)
  let b := b.add EntryColumn.resourceType (f.resourceType.map Arg.text)
  let b := b.add EntryColumn.createdFrom (f.createdFrom.map Arg.time)
  b.add EntryColumn.createdTo (f.createdTo.map Arg.time)

/-- `AuditRepo.List`. -/
def listEntries (rows : List Entry) (tenantId : String) (f : EntryFilter) :
    Option (List Entry × String) :=
  entries.list rows (f.build tenantId) f.limit f.cursor

def EntryFilter.conditions (f : EntryFilter) (tenantId : String) :
    List (EntryColumn × Arg) :=
  [(EntryColumn.tenantId, Arg.text tenantId)] ++
    optional EntryColumn.userId (f.userId.map Arg.text) ++
    optional EntryColumn.action (f.action.map Arg.text) ++
    optional EntryColumn.resourceType (f.resourceType.map Arg.text) ++
    optional EntryColumn.createdFrom (f.createdFrom.map Arg.time) ++
    optional EntryColumn.createdTo (f.createdTo.map Arg.time)

structure EntryFilter.Selects (f : EntryFilter) (tenantId : String) (e : Entry) : Prop where
  tenant : Uuid.named tenantId e.tenantId = true
  user : forall s, f.userId = some s -> exists u, e.userId = some u ∧ Uuid.named s u = true
  action : forall s, f.action = some s -> e.action = s
  resourceType : forall s, f.resourceType = some s -> e.resourceType = s
  createdFrom : forall t, f.createdFrom = some t -> t ≤ e.createdAt
  createdTo : forall t, f.createdTo = some t -> e.createdAt ≤ t

theorem entries_meets {f : EntryFilter} {tenantId : String} {e : Entry} :
    entries.Meets (f.conditions tenantId) e <-> f.Selects tenantId e := by
  simp only [EntryFilter.conditions, meets_append, meets_optional, meets_singleton, entries,
    uuidIs_iff, textIs_iff, timeIs, Option.some.injEq, exists_eq_left', decide_eq_true_eq,
    ge_iff_le]
  exact ⟨fun ⟨⟨⟨⟨⟨ht, hu⟩, ha⟩, hr⟩, hfrom⟩, hto⟩ => ⟨ht, hu, ha, hr, hfrom, hto⟩,
    fun h => ⟨⟨⟨⟨⟨h.tenant, h.user⟩, h.action⟩, h.resourceType⟩, h.createdFrom⟩, h.createdTo⟩⟩

theorem entries_correct {rows : List Entry} (hids : (rows.map Entry.id).Nodup)
    (tenantId : String) (f : EntryFilter) :
    entries.Correct rows (f.build tenantId) (f.conditions tenantId) (f.Selects tenantId)
      fun c => listEntries rows tenantId { f with cursor := c } := by
  refine Listing.correct entries hids ?_ ?_ (fun _ => entries_meets) f.limit
  · refine Builder.Numbered.add (Builder.Numbered.add (Builder.Numbered.add
      (Builder.Numbered.add (Builder.Numbered.add ?_ _ _) _ _) _ _) _ _) _ _
    exact ⟨rfl, rfl, rfl⟩
  · have huser := length_optional_le EntryColumn.userId (f.userId.map Arg.text)
    have haction := length_optional_le EntryColumn.action (f.action.map Arg.text)
    have htype := length_optional_le EntryColumn.resourceType (f.resourceType.map Arg.text)
    have hfrom := length_optional_le EntryColumn.createdFrom (f.createdFrom.map Arg.time)
    have hto := length_optional_le EntryColumn.createdTo (f.createdTo.map Arg.time)
    simp only [EntryFilter.conditions, List.length_append, List.length_singleton]
    omega

/-- The four lists, for every table with one row for each id, every filter and every limit.
The placeholders are those of their own arguments.  If the texts of the filter can be read,
following the cursors ends with the rows that the filter selects, each once and in
increasing order; else every page is an error. -/
theorem lists_paginate {agentRows : List Agent} {alertRows : List Alert}
    {patchRows : List Patch} {entryRows : List Entry}
    (hagents : (agentRows.map Agent.id).Nodup) (halerts : (alertRows.map Alert.id).Nodup)
    (hreferences : forall al, al ∈ alertRows -> exists ag, ag ∈ agentRows ∧ ag.id = al.agentId)
    (hpatches : (patchRows.map Patch.id).Nodup) (hentries : (entryRows.map Entry.id).Nodup)
    (tenantId agentId : String) (fa : AgentFilter) (fl : AlertFilter) (fp : PatchFilter)
    (fe : EntryFilter) :
    agents.Correct agentRows (fa.build tenantId) (fa.conditions tenantId)
      (fa.Selects tenantId) (fun c => listAgents agentRows tenantId { fa with cursor := c }) ∧
    (joinAgents alertRows agentRows).map (fun r => r.1) = alertRows ∧
    alerts.Correct (joinAgents alertRows agentRows) (fl.build tenantId)
      (fl.conditions tenantId) (fun r => fl.Selects tenantId r.1)
      (fun c => listAlerts alertRows agentRows tenantId { fl with cursor := c }) ∧
    patches.Correct patchRows (fp.build tenantId agentId) (fp.conditions tenantId agentId)
      (fp.Selects tenantId agentId)
      (fun c => listPatchesByAgent patchRows tenantId agentId { fp with cursor := c }) ∧
    entries.Correct entryRows (fe.build tenantId) (fe.conditions tenantId)
      (fe.Selects tenantId) (fun c => listEntries entryRows tenantId { fe with cursor := c }) :=
  ⟨agents_correct hagents tenantId fa, joinAgents_fst hagents hreferences,
    alerts_correct halerts hagents hreferences tenantId fl,
    patches_correct hpatches tenantId agentId fp, entries_correct hentries tenantId fe⟩

namespace SamplePages

def tenant : Uuid where
  text := "56000000-0000-4000-8000-000000000000"
  canonical := by decide

def agent (i : Fin 3) : Agent where
  id :=
    match i with
    | 0 => { text := "56000000-0000-4000-8000-00000000000c", canonical := by decide }
    | 1 => { text := "56000000-0000-4000-8000-00000000000a", canonical := by decide }
    | 2 => { text := "56000000-0000-4000-8000-00000000000b", canonical := by decide }
  tenantId := tenant
  workspaceId := none
  hostname := "host"
  status := AgentStatus.online

/-- Pages of one row. -/
def filter : AgentFilter where
  workspaceId := none
  status := some "online"
  cursor := ""
  limit := 1

end SamplePages

theorem lists_paginate_three :
    agents.Exact [SamplePages.agent 0, SamplePages.agent 1, SamplePages.agent 2]
      (SamplePages.filter.Selects SamplePages.tenant.text)
      (fun c => listAgents [SamplePages.agent 0, SamplePages.agent 1, SamplePages.agent 2]
        SamplePages.tenant.text { SamplePages.filter with cursor := c }) := by
  have hids : ([SamplePages.agent 0, SamplePages.agent 1, SamplePages.agent 2].map
      Agent.id).Nodup := by
    decide
  have halerts : (([] : List Alert).map Alert.id).Nodup := List.nodup_nil
  have hpatches : (([] : List Patch).map Patch.id).Nodup := List.nodup_nil
  have hentries : (([] : List Entry).map Entry.id).Nodup := List.nodup_nil
  refine (lists_paginate hids halerts (fun al hal => absurd hal List.not_mem_nil) hpatches
    hentries SamplePages.tenant.text "" SamplePages.filter ⟨none, none, none, "", 0⟩
    ⟨none, "", 0⟩ ⟨none, none, none, none, none, "", 0⟩).left.exact ?_
  have hconditions : SamplePages.filter.conditions SamplePages.tenant.text =
      [(AgentColumn.tenantId, Arg.text SamplePages.tenant.text),
        (AgentColumn.status, Arg.text "online")] := rfl
  intro p hp
  rw [hconditions, List.mem_cons, List.mem_singleton] at hp
  rcases hp with rfl | rfl
  · decide
  · decide

end Lists
end Backend
end LeoOne
