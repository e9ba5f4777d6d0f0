import Mathlib.Logic.Function.Basic
import LeoOne.Backend.Database

/-!
# The relay

The registry of the remote-desktop sessions that are being paired or active.
A live session is known by its address, its place in the heap.  Each operation
below is one section under the lock of the relay; the sockets themselves are
only present as the fact that a side is attached.
-/

namespace LeoOne
namespace RemoteDesktop

open Foundation
open Backend

/-- The address of a `liveSession`. -/
abbrev SessionRef := Nat

/-- `liveSession`; `once` is the state of `endOnce`. -/
structure LiveSession where
  sessionId : Uuid
  agentId : String
  mode : SessionMode
  agentConn : Bool
  viewerConn : Bool
  ended : Bool
  once : Bool

namespace LiveSession

def start (sessionId : Uuid) (agentId : String) (mode : SessionMode) :
    LiveSession where
  sessionId := sessionId
  agentId := agentId
  mode := mode
  agentConn := false
  viewerConn := false
  ended := false
  once := false

def conn (ls : LiveSession) : Side -> Bool
  | Side.agent => ls.agentConn
  | Side.viewer => ls.viewerConn

def attachConn (ls : LiveSession) : Side -> LiveSession
  | Side.agent => { ls with agentConn := true }
  | Side.viewer => { ls with viewerConn := true }

/-- Both sides are attached. -/
def ready (ls : LiveSession) : Bool :=
  ls.agentConn && ls.viewerConn

section

variable (ls : LiveSession) (side : Side)

@[simp] theorem attachConn_sessionId :
    (ls.attachConn side).sessionId = ls.sessionId := by
  cases side <;> rfl

@[simp] theorem attachConn_agentId :
    (ls.attachConn side).agentId = ls.agentId := by
  cases side <;> rfl

@[simp] theorem attachConn_ended : (ls.attachConn side).ended = ls.ended := by
  cases side <;> rfl

@[simp] theorem attachConn_once : (ls.attachConn side).once = ls.once := by
  cases side <;> rfl

@[simp] theorem attachConn_conn (other : Side) :
    (ls.attachConn side).conn other = (decide (other = side) || ls.conn other) := by
  cases side <;> cases other <;> simp [attachConn, conn]

theorem ready_iff : ls.ready = true <-> forall side, ls.conn side = true := by
  unfold ready
  constructor
  · intro h side
    rcases Bool.and_eq_true_iff.mp h with ⟨hagent, hviewer⟩
    cases side with
    | agent =>
        exact hagent
    | viewer =>
        exact hviewer
  · intro h
    exact Bool.and_eq_true_iff.mpr ⟨h Side.agent, h Side.viewer⟩

end

theorem ready_of_free {ls : LiveSession} {side : Side} (h : ls.conn side = false) :
    ls.ready = false := by
  rw [Bool.eq_false_iff]
  intro hready
  rw [ls.ready_iff.mp hready side] at h
  cases h

end LiveSession

structure Relay where
  heap : List LiveSession
  sessions : Uuid -> Option SessionRef
  endedSessions : Uuid -> Bool

/-- The outcome of the locked section of `attach`. -/
inductive Attached where
  | refused
  | duplicate
  | waiting (ls : SessionRef) (created : Bool)
  | ready (ls : SessionRef)

namespace Relay

/-- `NewRelay`. -/
def new : Relay where
  heap := []
  sessions := fun _ => none
  endedSessions := fun _ => false

/-- Puts a new live session into the registry. -/
def allocate (r : Relay) (ls : LiveSession) : Relay × SessionRef :=
  ({ r with
      heap := r.heap ++ [ls]
      sessions := Function.update r.sessions ls.sessionId (some r.heap.length) },
    r.heap.length)

/-- `Relay.Register`; `none` when the session is already there. -/
def register (r : Relay) (sessionId : Uuid) (agentId : String)
    (mode : SessionMode) : Option (Relay × SessionRef) :=
  match r.sessions sessionId with
  | some _ => none
  | none => some (r.allocate (LiveSession.start sessionId agentId mode))

/-- The live session of that id, made if there is none; the flag tells whether
it was there. -/
def findOrCreate (r : Relay) (sessionId : Uuid) (agentId : String)
    (mode : SessionMode) : Relay × SessionRef × Bool :=
  match r.sessions sessionId with
  | some ref => (r, ref, true)
  | none =>
      let (r', ref) := r.allocate (LiveSession.start sessionId agentId mode)
      (r', ref, false)

/-- The locked section of `attach`. -/
def attach (r : Relay) (side : Side) (sessionId : Uuid) (agentId : String)
    (mode : SessionMode) : Relay × Attached :=
  if r.endedSessions sessionId then (r, Attached.refused)
  else
    let (r', ref, found) := r.findOrCreate sessionId agentId mode
    match r'.heap[ref]? with
    | none => (r', Attached.refused)
    | some ls =>
        if ls.ended then (r', Attached.refused)
        else if ls.conn side then (r', Attached.duplicate)
        else
          let ls' := ls.attachConn side
          ({ r' with heap := r'.heap.set ref ls' },
            if ls'.ready then Attached.ready ref
            else Attached.waiting ref (!found))

/-- The locked section of `waitPairTimeout`: whether the session is still
waiting. -/
def stillWaiting (r : Relay) (ref : SessionRef) : Bool :=
  match r.heap[ref]? with
  | none => false
  | some ls => r.sessions ls.sessionId = some ref && !ls.ready

/-- The locked section of `end`, guarded by `endOnce`; `none` for all calls but
the first. -/
def finish (r : Relay) (ref : SessionRef) : Option (Relay × LiveSession) :=
  match r.heap[ref]? with
  | none => none
  | some ls =>
      if ls.once then none
      else
        some
          ({ heap := r.heap.set ref { ls with ended := true, once := true }
             sessions :=
               if r.sessions ls.sessionId = some ref then
                 Function.update r.sessions ls.sessionId none
               else r.sessions
             endedSessions := Function.update r.endedSessions ls.sessionId true },
            ls)

/-- The tombstone of an ended session is removed after five minutes. -/
def expireTombstone (r : Relay) (sessionId : Uuid) : Relay :=
  { r with endedSessions := Function.update r.endedSessions sessionId false }

/-- The live session at that address is in the registry and is of that agent. -/
def isLiveFor (r : Relay) (agentId : String) (ref : SessionRef) : Bool :=
  match r.heap[ref]? with
  | none => false
  | some ls => r.sessions ls.sessionId = some ref && ls.agentId = agentId

/-- The locked section of `EndSessionsForAgent`. -/
def sessionsForAgent (r : Relay) (agentId : String) : List SessionRef :=
  (List.range r.heap.length).filter (r.isLiveFor agentId)

/-- The live session at that address is in the registry and its agent is the one
with that identifier. -/
def Live (r : Relay) (agent : Uuid) (ref : SessionRef) : Prop :=
  exists ls, r.heap[ref]? = some ls ∧ r.sessions ls.sessionId = some ref ∧
    agent.named ls.agentId = true

/-- Some session of the agent is in the registry. -/
def hasSession (r : Relay) (agent : Uuid) : Bool :=
  (List.range r.heap.length).any fun ref =>
    match r.heap[ref]? with
    | none => false
    | some ls => r.sessions ls.sessionId = some ref && agent.named ls.agentId

theorem not_live_of_hasSession {r : Relay} {agent : Uuid}
    (h : r.hasSession agent = false) (ref : SessionRef) : ¬ r.Live agent ref := by
  rintro ⟨ls, hget, hreg, hnamed⟩
  have hlt : ref < r.heap.length := (List.getElem?_eq_some_iff.mp hget).1
  have hnot := List.any_eq_false.mp h ref (List.mem_range.mpr hlt)
  simp [hget, hreg, hnamed] at hnot

theorem live_allocate {r : Relay} {ls : LiveSession} {agent : Uuid}
    {ref : SessionRef} (h : (r.allocate ls).1.Live agent ref) :
    r.Live agent ref ∨ agent.named ls.agentId = true := by
  rcases h with ⟨ls', hget, hreg, hnamed⟩
  simp only [allocate] at hget hreg
  by_cases hlt : ref < r.heap.length
  · left
    rw [List.getElem?_append_left hlt] at hget
    refine ⟨ls', hget, ?_, hnamed⟩
    by_cases hid : ls'.sessionId = ls.sessionId
    · rw [hid, Function.update_self, Option.some.injEq] at hreg
      exact absurd hlt (hreg ▸ Nat.lt_irrefl _)
    · rw [Function.update_of_ne hid] at hreg
      exact hreg
  · right
    rw [List.getElem?_append_right (Nat.le_of_not_lt hlt)] at hget
    rw [← List.mem_singleton.mp (List.mem_of_getElem? hget)]
    exact hnamed

/-- A session that is changed in place stays what it was to the registry. -/
theorem live_set {r : Relay} {ref0 : SessionRef} {ls : LiveSession}
    (ls' : LiveSession) (hget : r.heap[ref0]? = some ls) (hid : ls'.sessionId = ls.sessionId)
    (hagent : ls'.agentId = ls.agentId) {agent : Uuid} {ref : SessionRef}
    (h : Live { r with heap := r.heap.set ref0 ls' } agent ref) :
    r.Live agent ref := by
  rcases h with ⟨ls'', hget', hreg, hnamed⟩
  simp only at hget' hreg
  by_cases href : ref0 = ref
  · subst href
    have hlt : ref0 < r.heap.length := (List.getElem?_eq_some_iff.mp hget).1
    rw [List.getElem?_set_self hlt, Option.some.injEq] at hget'
    subst hget'
    rw [hid] at hreg
    rw [hagent] at hnamed
    exact ⟨ls, hget, hreg, hnamed⟩
  · rw [List.getElem?_set_ne href] at hget'
    exact ⟨ls'', hget', hreg, hnamed⟩

theorem live_register {r r' : Relay} {id : Uuid} {a : String}
    {mode : SessionMode} {ref0 : SessionRef}
    (hreg : r.register id a mode = some (r', ref0)) {agent : Uuid}
    {ref : SessionRef} (h : r'.Live agent ref) :
    r.Live agent ref ∨ agent.named a = true := by
  unfold register at hreg
  split at hreg
  · cases hreg
  · cases hreg
    exact live_allocate h

theorem live_attach {r : Relay} {side : Side} {id : Uuid} {a : String}
    {mode : SessionMode} {agent : Uuid} {ref : SessionRef}
    (h : (r.attach side id a mode).1.Live agent ref) :
    r.Live agent ref ∨ agent.named a = true := by
  have hfound : (r.findOrCreate id a mode).1.Live agent ref ->
      r.Live agent ref ∨ agent.named a = true := by
    unfold findOrCreate
    split
    · exact Or.inl
    · exact live_allocate
  unfold attach at h
  split at h
  · exact Or.inl h
  · simp only at h
    split at h
    · exact hfound h
    · rename_i ls hget
      split at h
      · exact hfound h
      · split at h
        · exact hfound h
        · apply hfound
          exact live_set _ hget (ls.attachConn_sessionId side)
            (ls.attachConn_agentId side) h

theorem live_finish {r r' : Relay} {ref0 : SessionRef} {ls : LiveSession}
    (hfin : r.finish ref0 = some (r', ls)) {agent : Uuid} {ref : SessionRef}
    (h : r'.Live agent ref) : r.Live agent ref := by
  unfold finish at hfin
  split at hfin
  · cases hfin
  · rename_i ls0 hget
    split at hfin
    · cases hfin
    · cases hfin
      have hmarked : Live
          { r with heap := r.heap.set ref0 { ls with ended := true, once := true } }
          agent ref := by
        rcases h with ⟨ls', hget', hreg, hnamed⟩
        refine ⟨ls', hget', ?_, hnamed⟩
        simp only at hreg ⊢
        split at hreg
        · by_cases hid : ls'.sessionId = ls.sessionId
          · rw [hid, Function.update_self] at hreg
            cases hreg
          · rw [Function.update_of_ne hid] at hreg
            exact hreg
        · exact hreg
      exact live_set { ls with ended := true, once := true } hget rfl rfl hmarked

/-!
## Consistency of the registry
-/

/-- A session of the registry is at its address under its own id and has not
been ended; `ended` and the state of `endOnce` agree. -/
structure Sound (r : Relay) : Prop where
  registered : forall {id ref}, r.sessions id = some ref ->
    exists ls, r.heap[ref]? = some ls ∧ ls.sessionId = id ∧ ls.ended = false
  once : forall {ref : SessionRef} {ls : LiveSession},
    r.heap[ref]? = some ls -> ls.once = ls.ended

theorem new_sound : Relay.new.Sound := by
  constructor
  · intro id ref h
    cases h
  · intro ref ls h
    cases h

theorem Sound.bound {r : Relay} (h : r.Sound) {id : Uuid} {ref : SessionRef}
    (hreg : r.sessions id = some ref) : ref < r.heap.length := by
  rcases h.registered hreg with ⟨ls, hget, _⟩
  exact (List.getElem?_eq_some_iff.mp hget).1

theorem Sound.allocate {r : Relay} (h : r.Sound) {ls : LiveSession}
    (hended : ls.ended = false) (honce : ls.once = false) :
    (r.allocate ls).1.Sound := by
  constructor
  · intro id ref hreg
    simp only [Relay.allocate] at hreg ⊢
    by_cases hid : id = ls.sessionId
    · subst hid
      rw [Function.update_self, Option.some.injEq] at hreg
      subst hreg
      refine ⟨ls, ?_, rfl, hended⟩
      simp
    · rw [Function.update_of_ne hid] at hreg
      rcases h.registered hreg with ⟨ls', hget, hid', hended'⟩
      refine ⟨ls', ?_, hid', hended'⟩
      rw [List.getElem?_append_left (h.bound hreg)]
      exact hget
  · intro ref ls' hget
    simp only [Relay.allocate] at hget
    by_cases hlt : ref < r.heap.length
    · rw [List.getElem?_append_left hlt] at hget
      exact h.once hget
    · rw [List.getElem?_append_right (Nat.le_of_not_lt hlt)] at hget
      rw [List.mem_singleton.mp (List.mem_of_getElem? hget), hended, honce]

/-- A new session does not take the place of another one. -/
theorem allocate_sessions {r : Relay} {ls : LiveSession}
    (hnone : r.sessions ls.sessionId = none) {id : Uuid} {ref : SessionRef}
    (hreg : r.sessions id = some ref) :
    (r.allocate ls).1.sessions id = some ref := by
  have hne : id ≠ ls.sessionId := by
    intro heq
    rw [heq, hnone] at hreg
    cases hreg
  simp only [allocate]
  rw [Function.update_of_ne hne]
  exact hreg

/-- A session is replaced by one that differs in the attached sides only. -/
theorem Sound.set {r : Relay} (h : r.Sound) {ref : SessionRef}
    {ls ls' : LiveSession} (hget : r.heap[ref]? = some ls)
    (hid : ls'.sessionId = ls.sessionId) (hended : ls'.ended = ls.ended)
    (honce : ls'.once = ls.once) :
    Sound { r with heap := r.heap.set ref ls' } := by
  have hlt : ref < r.heap.length := (List.getElem?_eq_some_iff.mp hget).1
  constructor
  · intro id ref' hreg
    rcases h.registered hreg with ⟨old, hold, hoid, hoended⟩
    by_cases href : ref = ref'
    · subst href
      rw [hget] at hold
      cases hold
      refine ⟨ls', ?_, hid.trans hoid, hended.trans hoended⟩
      exact List.getElem?_set_self hlt
    · refine ⟨old, ?_, hoid, hoended⟩
      simp only
      rw [List.getElem?_set_ne href]
      exact hold
  · intro ref' old hold
    simp only at hold
    by_cases href : ref = ref'
    · subst href
      rw [List.getElem?_set_self hlt, Option.some.injEq] at hold
      subst hold
      rw [hended, honce]
      exact h.once hget
    · rw [List.getElem?_set_ne href] at hold
      exact h.once hold

/-!
## What the operations do
-/

/-- The outcomes of `attach` on a consistent registry. -/
inductive Attaches (r : Relay) (side : Side) (id : Uuid) (a : String)
    (mode : SessionMode) : Relay -> Attached -> Prop where
  | tombstone : r.endedSessions id = true ->
      Attaches r side id a mode r Attached.refused
  | duplicate {ref : SessionRef} {ls : LiveSession} :
      r.endedSessions id = false -> r.sessions id = some ref ->
      r.heap[ref]? = some ls -> ls.conn side = true ->
      Attaches r side id a mode r Attached.duplicate
  | joined {ref : SessionRef} {ls : LiveSession} :
      r.endedSessions id = false -> r.sessions id = some ref ->
      r.heap[ref]? = some ls -> ls.conn side = false ->
      Attaches r side id a mode
        { r with heap := r.heap.set ref (ls.attachConn side) }
        (if (ls.attachConn side).ready then Attached.ready ref
        else Attached.waiting ref false)
  | created : r.endedSessions id = false -> r.sessions id = none ->
      Attaches r side id a mode
        (r.allocate ((LiveSession.start id a mode).attachConn side)).1
        (Attached.waiting r.heap.length true)

theorem attach_created {r : Relay} {id : Uuid}
    (htomb : r.endedSessions id = false) (hreg : r.sessions id = none) (side : Side)
    (a : String) (mode : SessionMode) :
    r.attach side id a mode =
      ((r.allocate ((LiveSession.start id a mode).attachConn side)).1,
        Attached.waiting r.heap.length true) := by
  cases side <;>
    simp [attach, htomb, findOrCreate, hreg, allocate, LiveSession.start,
      LiveSession.conn, LiveSession.attachConn, LiveSession.ready]

theorem attaches {r : Relay} (h : r.Sound) (side : Side) (id : Uuid) (a : String)
    (mode : SessionMode) :
    Attaches r side id a mode (r.attach side id a mode).1
      (r.attach side id a mode).2 := by
  cases htomb : r.endedSessions id with
  | true =>
      simp only [attach, htomb, if_true]
      exact Attaches.tombstone htomb
  | false =>
      cases hreg : r.sessions id with
      | none =>
          rw [attach_created htomb hreg]
          exact Attaches.created htomb hreg
      | some ref =>
          rcases h.registered hreg with ⟨ls, hget, hid, hended⟩
          simp only [attach, htomb, findOrCreate, hreg, hget, hended,
            Bool.false_eq_true, if_false]
          cases hconn : ls.conn side with
          | true =>
              exact Attaches.duplicate htomb hreg hget hconn
          | false =>
              simpa using Attaches.joined htomb hreg hget hconn

theorem finish_some {r r' : Relay} {ref : SessionRef} {ls : LiveSession}
    (h : r.finish ref = some (r', ls)) :
    r.heap[ref]? = some ls ∧ ls.once = false ∧
      r'.heap = r.heap.set ref { ls with ended := true, once := true } ∧
      r'.sessions =
        (if r.sessions ls.sessionId = some ref then
          Function.update r.sessions ls.sessionId none
        else r.sessions) ∧
      r'.endedSessions = Function.update r.endedSessions ls.sessionId true := by
  unfold finish at h
  split at h
  · cases h
  · rename_i old hget
    split at h
    · cases h
    · rename_i honce
      cases h
      exact ⟨hget, by simpa using honce, rfl, rfl, rfl⟩

theorem register_some {r r' : Relay} {id : Uuid} {a : String} {mode : SessionMode}
    {ref : SessionRef} (h : r.register id a mode = some (r', ref)) :
    r.sessions id = none ∧ ref = r.heap.length ∧
      r' = (r.allocate (LiveSession.start id a mode)).1 := by
  unfold register at h
  split at h
  · cases h
  · rename_i hnone
    cases h
    exact ⟨hnone, rfl, rfl⟩

/-- The session that is ended leaves the registry; the others stay. -/
theorem Sound.finish_sessions {r r' : Relay} (h : r.Sound) {ref : SessionRef}
    {ls : LiveSession} (hfin : r.finish ref = some (r', ls)) {id : Uuid}
    {ref' : SessionRef} :
    r'.sessions id = some ref' <-> r.sessions id = some ref' ∧ ref' ≠ ref := by
  rcases finish_some hfin with ⟨hget, _, _, hsessions, _⟩
  rw [hsessions]
  constructor
  · intro hreg
    have hold : r.sessions id = some ref' := by
      split at hreg
      · by_cases hid : id = ls.sessionId
        · rw [hid, Function.update_self] at hreg
          cases hreg
        · rw [Function.update_of_ne hid] at hreg
          exact hreg
      · exact hreg
    refine ⟨hold, ?_⟩
    intro href
    subst href
    rcases h.registered hold with ⟨ls', hget', hid, _⟩
    rw [hget] at hget'
    cases hget'
    rw [hid, if_pos hold, Function.update_self] at hreg
    cases hreg
  · rintro ⟨hold, hne⟩
    split
    · rename_i hthis
      have hid : id ≠ ls.sessionId := by
        intro heq
        rw [heq, hthis, Option.some.injEq] at hold
        exact hne hold.symm
      rw [Function.update_of_ne hid]
      exact hold
    · exact hold

theorem Sound.register {r r' : Relay} (h : r.Sound) {id : Uuid} {a : String}
    {mode : SessionMode} {ref : SessionRef}
    (hreg : r.register id a mode = some (r', ref)) : r'.Sound := by
  rcases register_some hreg with ⟨_, _, rfl⟩
  exact h.allocate rfl rfl

theorem Sound.attach {r : Relay} (h : r.Sound) (side : Side) (id : Uuid)
    (a : String) (mode : SessionMode) : (r.attach side id a mode).1.Sound := by
  have hcases := attaches h side id a mode
  generalize (r.attach side id a mode).1 = r' at hcases
  generalize (r.attach side id a mode).2 = out at hcases
  cases hcases with
  | tombstone _ =>
      exact h
  | duplicate _ _ _ _ =>
      exact h
  | joined _ _ hget _ =>
      exact h.set hget (LiveSession.attachConn_sessionId _ side)
        (LiveSession.attachConn_ended _ side) (LiveSession.attachConn_once _ side)
  | created _ _ =>
      exact h.allocate (LiveSession.attachConn_ended _ side)
        (LiveSession.attachConn_once _ side)

theorem Sound.finish {r r' : Relay} (h : r.Sound) {ref : SessionRef}
    {ls : LiveSession} (hfin : r.finish ref = some (r', ls)) : r'.Sound := by
  rcases finish_some hfin with ⟨hget, _, hheap, _, _⟩
  have hlt : ref < r.heap.length := (List.getElem?_eq_some_iff.mp hget).1
  constructor
  · intro id ref' hreg
    rcases (h.finish_sessions hfin).mp hreg with ⟨hold, hne⟩
    rcases h.registered hold with ⟨ls', hget', hid, hended⟩
    refine ⟨ls', ?_, hid, hended⟩
    rw [hheap, List.getElem?_set_ne (Ne.symm hne)]
    exact hget'
  · intro ref' ls' hget'
    rw [hheap] at hget'
    by_cases href : ref = ref'
    · subst href
      rw [List.getElem?_set_self hlt, Option.some.injEq] at hget'
      subst hget'
      rfl
    · rw [List.getElem?_set_ne href] at hget'
      exact h.once hget'

theorem Sound.expireTombstone {r : Relay} (h : r.Sound) (id : Uuid) :
    (r.expireTombstone id).Sound := by
  constructor
  · intro id' ref hreg
    exact h.registered hreg
  · intro ref ls hget
    exact h.once hget

end Relay

end RemoteDesktop
end LeoOne
