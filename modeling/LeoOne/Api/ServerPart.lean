import LeoOne.Foundation.Gather
import LeoOne.Api.Service

/-!
# The server's part of the API

The instructions of the server that are pending in a state of the API are the
pending instructions of a state of the server.  A step of the API executes one of
them there, or starts calls of `CreateAndDispatchCommand`, or does nothing there.
What the earlier modules prove of the server for both kinds of steps therefore
holds of the API.
-/

namespace LeoOne
namespace Api

open Foundation
open Wire
open Backend (Server Instr Statement CommandOrder CommandType PatchSeverity Database Executes
  Starts)
open Scheduler (DueSchedule ScriptRow)

/-!
## What a handler does
-/

/-- The text names an agent on record, of the tenant that the other text names. -/
def Located (db : Database) (tenantId agentId : String) : Prop :=
  exists a, a ∈ db.agents ∧ a.id.named agentId = true ∧ a.tenantId.named tenantId = true

/-- Everything a step of a handler can do, and what follows it. -/
inductive HandlerMove (cfg : FileConfig) (x : Input) (s : Service) :
    HandlerStep -> Service -> List Step -> Prop where
  | refused {h status code message} :
      HandlerMove cfg x s h (s.reject status code message).1 []
  | idle {h} : HandlerMove cfg x s h s []
  | created {caller agentId body type payload} :
      Located s.server.db caller.tenantId agentId ->
      HandlerMove cfg x s (HandlerStep.createCommand caller agentId body) s
        [Step.insert (Origin.user caller) (orderFor caller agentId type payload)]
  | bulkCreated {caller body type payload} {ids : List Uuid} :
      (forall id, id ∈ ids -> Located s.server.db caller.tenantId id.text) ->
      HandlerMove cfg x s (HandlerStep.bulkCreateCommand caller body) s
        (ids.map fun id => Step.insert (Origin.user caller)
          (orderFor caller id.text type payload))
  | installed {caller agentId body payload} :
      Located s.server.db caller.tenantId agentId ->
      HandlerMove cfg x s (HandlerStep.install caller agentId body) s
        [Step.insert (Origin.user caller)
          (orderFor caller agentId CommandType.installPatches payload)]
  | bulkInstalled {caller body min rebootAfter} {ids : List Uuid} :
      (forall id, id ∈ ids -> Located s.server.db caller.tenantId id.text) ->
      HandlerMove cfg x s (HandlerStep.bulkInstall caller body) s
        (ids.map fun id =>
          Step.handler (HandlerStep.availableNativeIds caller id.text min rebootAfter))
  | available {caller agentId min rebootAfter payload} :
      HandlerMove cfg x s (HandlerStep.availableNativeIds caller agentId min rebootAfter) s
        [Step.insert (Origin.user caller)
          (orderFor caller agentId CommandType.installPatches payload)]
  | agentFound {caller agentId body fileId} :
      Located s.server.db caller.tenantId agentId ->
      HandlerMove cfg x s (HandlerStep.deployFile caller agentId body) s
        [Step.handler (HandlerStep.findFile caller agentId fileId)]
  | fileFound {caller agentId fileId f} :
      s.library.findById caller.tenantId fileId = some (some f) ->
      HandlerMove cfg x s (HandlerStep.findFile caller agentId fileId) s
        [Step.handler (HandlerStep.createDownloadToken caller agentId f)]
  | tokenCreated {caller agentId f library} :
      s.library.createDownloadToken f.id x.token cfg.downloadTtl x.server.now = some library ->
      HandlerMove cfg x s (HandlerStep.createDownloadToken caller agentId f)
        { s with library := library }
        [Step.insert (Origin.deploy caller (x.deployment f))
          (orderFor caller agentId CommandType.fileTransfer
            (some (cfg.transferPayload (x.deployment f))))]
  | loaded {d payload} :
      HandlerMove cfg x s (HandlerStep.loadScript d) s
        [Step.handler (HandlerStep.resolveTargets d payload)]
  | resolved {d payload} {ids : List Uuid} :
      (forall id, id ∈ ids -> Located s.server.db d.tenantId.text id.text) ->
      HandlerMove cfg x s (HandlerStep.resolveTargets d payload) s
        (ids.map fun id => Step.insert (Origin.schedule d) (orderOf d payload id))

section Queries

variable {x : Input} {db : Database} {tenantId : String}

theorem located_of_findAgent {agentId : String} (h : findAgent x db tenantId agentId = some true) :
    Located db tenantId agentId := by
  unfold findAgent at h
  split at h
  · cases h
  · rw [Option.some.injEq, Option.isSome_iff_exists] at h
    rcases h with ⟨a, ha⟩
    have hnamed := List.find?_some ha
    rw [Bool.and_eq_true] at hnamed
    exact ⟨a, List.mem_of_find?_eq_some ha, hnamed.left, hnamed.right⟩

theorem located_of_targetRows {tenant : Uuid} (htenant : tenant.named tenantId = true)
    {p : Scheduler.TargetRow -> Bool} (hp : forall a, p a = true -> a.tenantId = tenant) {id : Uuid}
    (h : id ∈ ((targetRows x db).filter p).map Scheduler.TargetRow.id) :
    Located db tenantId id.text := by
  rcases List.mem_map.mp h with ⟨row, hrow, rfl⟩
  rcases List.mem_filter.mp hrow with ⟨hmem, hselected⟩
  rcases List.mem_map.mp hmem with ⟨a, ha, rfl⟩
  refine ⟨a, ha, Uuid.named_text.mpr rfl, ?_⟩
  have hsame : a.tenantId = tenant := hp _ hselected
  rw [hsame]
  exact htenant

theorem located_of_select {t : Targets} {ids : List Uuid}
    (h : t.select x db tenantId = some ids) {id : Uuid} (hid : id ∈ ids) :
    Located db tenantId id.text := by
  unfold Targets.select at h
  split at h
  · cases h
  · split at h
    · split at h
      · rename_i tenant wanted htenant _
        cases h
        refine located_of_targetRows (Uuid.named_of_parse htenant) (fun a ha => ?_) hid
        rw [Bool.and_eq_true] at ha
        exact of_decide_eq_true ha.left
      · cases h
    · split at h
      · rename_i tenant workspace htenant _
        cases h
        refine located_of_targetRows (Uuid.named_of_parse htenant) (fun a ha => ?_) hid
        rw [Bool.and_eq_true] at ha
        exact of_decide_eq_true ha.left
      · cases h

theorem located_of_resolveTargets {d : DueSchedule} {t : Scheduler.Tables}
    (hagents : t.agents = targetRows x db) {id : Uuid} (hid : id ∈ t.resolveTargets d) :
    Located db d.tenantId.text id.text := by
  simp only [Scheduler.Tables.resolveTargets, hagents] at hid
  refine located_of_targetRows (Uuid.named_text.mpr rfl) (fun a ha => ?_) hid
  split at ha
  · rw [Bool.and_eq_true] at ha
    exact of_decide_eq_true ha.right
  · rw [Bool.and_eq_true] at ha
    exact of_decide_eq_true ha.right

end Queries

/-- The handlers obey this description. -/
theorem HandlerStep.moves (cfg : FileConfig) (x : Input) (s : Service) (h : HandlerStep) :
    HandlerMove cfg x s h (h.exec cfg x s).1 (h.exec cfg x s).2 := by
  cases h with
  | createCommand caller agentId body =>
      simp only [exec]
      split
      · exact HandlerMove.refused
      · exact HandlerMove.refused
      · rename_i hfound
        split
        · exact HandlerMove.refused
        · split
          · exact HandlerMove.refused
          · exact HandlerMove.created (located_of_findAgent hfound)
  | bulkCreateCommand caller body =>
      cases body with
      | none =>
          exact HandlerMove.refused
      | some req =>
          simp only [exec]
          split
          · exact HandlerMove.refused
          · split
            · exact HandlerMove.refused
            · split
              · exact HandlerMove.refused
              · exact HandlerMove.refused
              · rename_i hselect
                exact HandlerMove.bulkCreated fun id hid => located_of_select hselect hid
  | install caller agentId body =>
      simp only [exec]
      split
      · exact HandlerMove.refused
      · exact HandlerMove.refused
      · rename_i hfound
        split
        · exact HandlerMove.refused
        · split
          · exact HandlerMove.refused
          · exact HandlerMove.installed (located_of_findAgent hfound)
  | bulkInstall caller body =>
      cases body with
      | none =>
          exact HandlerMove.refused
      | some req =>
          simp only [exec]
          split
          · exact HandlerMove.refused
          · split
            · exact HandlerMove.refused
            · split
              · exact HandlerMove.refused
              · exact HandlerMove.refused
              · rename_i hselect
                exact HandlerMove.bulkInstalled fun id hid => located_of_select hselect hid
  | availableNativeIds caller agentId min rebootAfter =>
      simp only [exec]
      split
      · exact HandlerMove.idle
      · exact HandlerMove.available
  | deployFile caller agentId fileId =>
      simp only [exec]
      split
      · exact HandlerMove.refused
      · exact HandlerMove.refused
      · rename_i hfound
        split
        · exact HandlerMove.agentFound (located_of_findAgent hfound)
        · exact HandlerMove.refused
  | findFile caller agentId fileId =>
      simp only [exec]
      split
      · exact HandlerMove.refused
      · exact HandlerMove.refused
      · rename_i f hfound
        split at hfound
        · cases hfound
        · exact HandlerMove.fileFound hfound
  | createDownloadToken caller agentId f =>
      simp only [exec]
      split
      · exact HandlerMove.refused
      · rename_i library hcreate
        split at hcreate
        · cases hcreate
        · exact HandlerMove.tokenCreated hcreate
  | loadScript d =>
      simp only [exec]
      split
      · exact HandlerMove.idle
      · exact HandlerMove.loaded
  | resolveTargets d payload =>
      simp only [exec]
      split
      · exact HandlerMove.idle
      · exact HandlerMove.resolved fun id hid => located_of_resolveTargets rfl hid

/-!
## The server's part
-/

/-- The instruction of the server that a step is. -/
def Step.instr? : Step -> Option Instr
  | core k => some k
  | insert _ order => some (Instr.sql (Statement.insertCommand order))
  | handler _ => none
  | file _ => none

def serverPart (p : State) : Backend.State :=
  Pool.gather p.shared.server (Pool.part Step.instr? p)

theorem pending_serverPart {p : State} {k : Step} {i : Instr} (hk : p.Pending k)
    (hi : k.instr? = some i) : (serverPart p).Pending i :=
  Pool.pending_gather.mpr (Pool.mem_part hk hi)

theorem filterMap_core (ks : List Instr) : (ks.map Step.core).filterMap Step.instr? = ks :=
  Pool.filterMap_embed (f := Step.core) (g := Step.instr?) (fun _ => rfl) ks

/-- The first instruction of a call of `CreateAndDispatchCommand`. -/
def insertInstr (order : CommandOrder) : Instr :=
  Instr.sql (Statement.insertCommand order)

/-- As far as the server sees them, the steps are calls of
`CreateAndDispatchCommand`. -/
def InsertsOnly (steps : List Step) : Prop :=
  exists orders : List CommandOrder, steps.filterMap Step.instr? = orders.map insertInstr

theorem insertsOnly_inserts {α : Type} (ids : List α) (origin : Origin)
    (order : α -> CommandOrder) :
    InsertsOnly (ids.map fun id => Step.insert origin (order id)) := by
  refine ⟨ids.map order, ?_⟩
  rw [List.filterMap_map, List.map_map]
  exact congrFun List.filterMap_eq_map ids

theorem insertsOnly_others {α : Type} (ids : List α) (step : α -> Step)
    (h : forall id, (step id).instr? = none) : InsertsOnly (ids.map step) :=
  ⟨[], Pool.filterMap_other h ids⟩

theorem HandlerMove.insertsOnly {cfg : FileConfig} {x : Input} {s t : Service}
    {h : HandlerStep} {cont : List Step} (hmove : HandlerMove cfg x s h t cont) :
    t.server = s.server ∧ InsertsOnly cont := by
  cases hmove with
  | refused | idle =>
      exact ⟨rfl, [], rfl⟩
  | created | installed | available | tokenCreated =>
      exact ⟨rfl, [_], rfl⟩
  | bulkCreated | resolved =>
      exact ⟨rfl, insertsOnly_inserts _ _ _⟩
  | bulkInstalled =>
      exact ⟨rfl, insertsOnly_others _ _ fun _ => rfl⟩
  | agentFound | fileFound | loaded =>
      exact ⟨rfl, [], rfl⟩

theorem HandlerMove.frame {cfg : FileConfig} {x : Input} {s t : Service} {h : HandlerStep}
    {cont : List Step} (hmove : HandlerMove cfg x s h t cont) :
    t.server = s.server ∧ t.dispatched = s.dispatched := by
  cases hmove <;> exact ⟨rfl, rfl⟩

/-- Everything a step can do: what it leaves, and the steps that follow it. -/
inductive Performs (cfg : FileConfig) (x : Input) (s : Service) :
    Step -> Service -> List Step -> Prop where
  | core {i : Instr} {o : Outcome Server Instr} :
      Server.perform i x.server s.server = some o ->
      Performs cfg x s (Step.core i) (s.withServer o.shared) (o.created.map Step.core)
  | insert {origin : Origin} {order : CommandOrder} {o : Outcome Server Instr} :
      Server.perform (insertInstr order) x.server s.server = some o ->
      Performs cfg x s (Step.insert origin order) (s.dispatch x origin o.shared)
        (o.created.map Step.core)
  | handler {h : HandlerStep} {t : Service} {cont : List Step} :
      (h.drawsToken = true -> x.token ∉ s.library.drawn) -> HandlerMove cfg x s h t cont ->
      Performs cfg x s (Step.handler h) t cont
  | file {f : FileStep} {l : Library} {cont : List FileStep} :
      (f.drawsUuid = true -> x.uuid ∉ s.library.names) ->
      FileMove cfg x.file s.library f l cont ->
      Performs cfg x s (Step.file f) { s with library := l } (cont.map Step.file)

/-- The steps obey this description. -/
theorem performs {cfg : FileConfig} {k : Step} {x : Input} {s : Service}
    {o : Outcome Service Step} (h : k.perform cfg x s = some o) :
    Performs cfg x s k o.shared o.created := by
  cases k with
  | core i =>
      rcases Option.map_eq_some_iff.mp h with ⟨o', hperform, rfl⟩
      rw [Outcome.created_embed]
      exact Performs.core hperform
  | insert origin order =>
      rcases Option.map_eq_some_iff.mp h with ⟨o', hperform, rfl⟩
      rw [Outcome.created_embed]
      exact Performs.insert hperform
  | handler step =>
      simp only [Step.perform] at h
      split at h
      · cases h
      · rename_i hdraws
        cases h
        rw [Outcome.created, List.flatten_nil, List.append_nil]
        refine Performs.handler (fun hdraw hold => hdraws ?_) (step.moves cfg x s)
        rw [hdraw, decide_eq_true hold, Bool.and_self, Bool.or_true]
  | file step =>
      simp only [Step.perform] at h
      split at h
      · cases h
      · rename_i hdraws
        cases h
        rw [Outcome.created, List.flatten_nil, List.append_nil]
        refine Performs.file (fun hdraw hold => hdraws ?_) (step.moves cfg x.file s.library)
        rw [hdraw, decide_eq_true hold, Bool.and_self, Bool.or_true]

/-- What a step of the API is to the server: one of its instructions, or calls of
`CreateAndDispatchCommand`. -/
theorem Performs.cases_server {cfg : FileConfig} {k : Step} {x : Input} {s t : Service}
    {created : List Step} (h : Performs cfg x s k t created) :
    (exists i o', k.instr? = some i ∧ Server.perform i x.server s.server = some o' ∧
      t.server = o'.shared ∧ created.filterMap Step.instr? = o'.created) ∨
    (k.instr? = none ∧ t.server = s.server ∧ InsertsOnly created) := by
  cases h with
  | core hperform =>
      exact Or.inl ⟨_, _, rfl, hperform, rfl, filterMap_core _⟩
  | insert hperform =>
      exact Or.inl ⟨_, _, rfl, hperform, rfl, filterMap_core _⟩
  | handler hdraws hmove =>
      rcases hmove.insertsOnly with ⟨hserver, hinserts⟩
      exact Or.inr ⟨rfl, hserver, hinserts⟩
  | file hdraws hmove =>
      exact Or.inr ⟨rfl, rfl, insertsOnly_others _ _ fun _ => rfl⟩

/-!
## Laws of the server
-/

/-- A law of the server that handlers may start under, whatever the request. -/
def Startable (inv : Backend.State -> Prop) : Prop :=
  forall {p p' r}, inv p -> Starts p p' r -> inv p'

theorem starts_of_count {p p' : Backend.State} {r : Backend.Request}
    (hshared : p'.shared = p.shared)
    (hcount : forall f, Pool.pendingCount f p' =
      Pool.pendingCount f p + (Backend.entry r).countP f) : Starts p p' r := by
  have hstarted := Pool.started_of_count hshared hcount
  refine ⟨hshared, ?_, hstarted.kept, hcount⟩
  intro j hj
  rcases hstarted.pending hj with hnew | hold
  · exact Or.inl (Backend.enters_of_mem_entry hnew)
  · exact Or.inr hold

/-- Any number of calls of `CreateAndDispatchCommand` may start. -/
theorem Startable.orders {inv : Backend.State -> Prop} (hinv : Startable inv)
    (orders : List CommandOrder) {p p' : Backend.State} (hp : inv p)
    (hshared : p'.shared = p.shared)
    (hcount : forall f, Pool.pendingCount f p' =
      Pool.pendingCount f p + (orders.map insertInstr).countP f) : inv p' := by
  induction orders generalizing p with
  | nil =>
      -- a request with nothing to do
      exact hinv hp (starts_of_count hshared (r := Backend.Request.attachViewer "") hcount)
  | cons order orders ih =>
      have hone := Backend.starts_of_step (p := p) (r := Backend.Request.createCommand
        order.tenantId order.agentId order.createdBy order.scheduleId order.type
        (some order.payload)) rfl
      refine ih (hinv hp hone) ?_ ?_
      · rw [hone.shared]
        exact hshared
      · intro f
        have hentry : Backend.entry (Backend.Request.createCommand order.tenantId
            order.agentId order.createdBy order.scheduleId order.type
            (some order.payload)) = [insertInstr order] := rfl
        rw [hone.count, hentry, hcount, List.map_cons, Nat.add_assoc, ← List.countP_append]
        rfl

theorem count_serverPart (f : Instr -> Bool) (p : State) :
    Pool.pendingCount f (serverPart p) = (Pool.part Step.instr? p).countP f :=
  Pool.pendingCount_gather f _ _

theorem entry_instr? (r : Request) :
    (entry r).filterMap Step.instr? = [] ∨
      exists r', (entry r).filterMap Step.instr? = Backend.entry r' := by
  cases r with
  | server r =>
      simp only [entry]
      split
      · exact Or.inl rfl
      · exact Or.inr ⟨r, filterMap_core _⟩
  | _ =>
      exact Or.inl rfl

/-- What a step of the API does to the server's part of it. -/
theorem serverPart_start {inv : Backend.State -> Prop} (hinv : Startable inv) {p p' : State}
    {r : Request} (hstarted : Pool.Started p p' (entry r)) (hp : inv (serverPart p)) :
    inv (serverPart p') := by
  have hshared : (serverPart p').shared = (serverPart p).shared :=
    congrArg Service.server hstarted.shared
  have hcount : forall f, Pool.pendingCount f (serverPart p') =
      Pool.pendingCount f (serverPart p) + ((entry r).filterMap Step.instr?).countP f := by
    intro f
    have hall := hstarted.count fun k => ((k.instr?).map f).getD false
    rw [count_serverPart, count_serverPart]
    simp only [Pool.part, List.countP_filterMap]
    exact hall
  rcases entry_instr? r with hnone | ⟨r', hsome⟩
  · rw [hnone] at hcount
    exact hinv.orders [] hp hshared hcount
  · rw [hsome] at hcount
    exact hinv hp (starts_of_count hshared hcount)

theorem serverPart_executes {p p' : State} {x : Input} {k : Step} {i : Instr}
    {o : Outcome Service Step} {o' : Outcome Server Instr} (hs : p.shared.server.HubSound)
    (hexec : Pool.Executed p p' k o) (hi : k.instr? = some i)
    (hperform : Server.perform i x.server p.shared.server = some o')
    (hshared : o.shared.server = o'.shared)
    (hcreated : o.created.filterMap Step.instr? = o'.created) :
    Executes (serverPart p) (serverPart p') x.server i o' := by
  have hreplaced := hexec.part_replaced hi
  rw [hcreated] at hreplaced
  have hpart : serverPart p' = Pool.gather o'.shared (Pool.part Step.instr? p') := by
    unfold serverPart
    rw [hexec.shared, hshared]
  have hmem : i ∈ Pool.part Step.instr? p := Pool.mem_part hexec.running hi
  have hexecuted : Pool.Executed (serverPart p) (serverPart p') i o' := by
    rw [hpart]
    exact Pool.executed_gather hreplaced hmem
  rcases Backend.effect_of_perform hs hperform with ⟨halive, heffect⟩
  refine ⟨hexecuted.running, halive, hperform, hexecuted, ?_, ?_, hexecuted.kept, ?_,
    hexecuted.count⟩
  · rw [hexecuted.shared]
    exact heffect
  · intro j hj
    rcases hexecuted.pending hj with hnew | hold
    · exact Or.inl (Backend.leads_of_perform hperform hnew)
    · exact Or.inr hold
  · intro j hj
    exact Pool.pending_gather.mpr
      (hreplaced.made hmem (List.mem_append_left _ hj))

theorem serverPart_other {inv : Backend.State -> Prop} (hinv : Startable inv) {p p' : State}
    {k : Step} {o : Outcome Service Step} (hexec : Pool.Executed p p' k o)
    (hk : k.instr? = none) (hshared : o.shared.server = p.shared.server)
    (hinserts : InsertsOnly o.created) (hp : inv (serverPart p)) : inv (serverPart p') := by
  rcases hinserts with ⟨orders, horders⟩
  refine hinv.orders orders hp ?_ ?_
  · show p'.shared.server = p.shared.server
    rw [hexec.shared, hshared]
  · intro f
    rw [count_serverPart, count_serverPart, ← horders]
    exact hexec.part_other hk f

/-- A law of the server that its instructions keep. -/
def Executable (inv : Backend.State -> Prop) : Prop :=
  forall {p p' x k o}, p.shared.HubSound -> inv p -> Executes p p' x k o -> inv p'

theorem serverPart_step {inv : Backend.State -> Prop} (hstart : Startable inv)
    (hexec : Executable inv) {cfg : FileConfig} {p p' : State} {x : Input} {k : Step}
    {o : Outcome Service Step} (hs : p.shared.server.HubSound) (hp : inv (serverPart p))
    (hperforms : Performs cfg x p.shared k o.shared o.created)
    (hexecuted : Pool.Executed p p' k o) :
    p'.shared.server.HubSound ∧ inv (serverPart p') := by
  rcases hperforms.cases_server with ⟨i, o', hi, hperform, hshared, hcreated⟩ |
    ⟨hk, hshared, hinserts⟩
  · have hexecutes := serverPart_executes hs hexecuted hi hperform hshared hcreated
    exact ⟨hexecutes.effect.hubSound hs, hexec hs hp hexecutes⟩
  · refine ⟨?_, serverPart_other hstart hexecuted hk hshared hinserts hp⟩
    rw [hexecuted.shared, hshared]
    exact hs

/-- The rule for laws of the API, over a law of the server: what the server's handlers
and instructions keep holds of the server's part, and the law of the API may rely on
it. -/
theorem api_preserves {cfg : FileConfig} {base : Backend.State -> Prop}
    (hstart : Startable base) (hexec : Executable base)
    {g : State -> Step -> Input -> Bool} {inv : State -> Prop}
    (hstarted : forall {p p' r}, inv p -> Pool.Started p p' (entry r) -> inv p')
    (hexecuted : forall {p p' x k o}, p.shared.server.HubSound -> base (serverPart p) ->
      inv p -> g p k x = true -> Performs cfg x p.shared k o.shared o.created ->
      Pool.Executed p p' k o -> inv p') :
    (api cfg).Preserves (fun p e => Pool.guarded g p e = true)
      (fun p => (p.shared.server.HubSound ∧ base (serverPart p)) ∧ inv p) := by
  apply Pool.preserves
  · intro p p' r hinv hstep
    rcases hinv with ⟨⟨hs, hp⟩, hlaw⟩
    refine ⟨⟨?_, serverPart_start hstart hstep hp⟩, hstarted hlaw hstep⟩
    rw [hstep.shared]
    exact hs
  · intro p p' x k o hinv hguard hperform hstep
    rcases hinv with ⟨⟨hs, hp⟩, hlaw⟩
    have hperforms := performs hperform
    exact ⟨serverPart_step hstart hexec hs hp hperforms hstep,
      hexecuted hs hp hlaw hguard hperforms hstep⟩

/-- A law of the server that holds of it without goroutines. -/
theorem serverPart_idle {base : Backend.State -> Prop} (hstart : Startable base)
    {p : Backend.State} (hp : base p) (hprocs : p.procs = []) {q : State}
    (hserver : q.shared.server = p.shared) (hidle : q.procs = []) : base (serverPart q) := by
  refine hstart.orders [] hp hserver ?_
  intro f
  rw [count_serverPart, Pool.pendingCount, hprocs, Pool.part, hidle]
  rfl

theorem boot_no_pending {server : Server} {library : Library} {k : Step} :
    ¬ (boot server library).Pending k := by
  rintro ⟨q, hq, _⟩
  cases hq

end Api
end LeoOne
