import LeoOne.RemoteDesktop.Lifecycle

/-!
# Stored connections and pumps

Each live session has an account of the connections stored in it and of its
pumps.  The accounts count what has happened together with what is pending, so
that nothing can happen twice.
-/

namespace LeoOne
namespace RemoteDesktop

open Foundation
open Backend

/-!
## Live sessions across a step
-/

namespace Relay

/-- The live session at that address satisfies the test. -/
def has (r : Relay) (f : LiveSession -> Bool) (ref : SessionRef) : Bool :=
  (r.heap[ref]?).any f

theorem has_of_get {r : Relay} {ref : SessionRef} {ls : LiveSession}
    (hget : r.heap[ref]? = some ls) (f : LiveSession -> Bool) : r.has f ref = f ls := by
  simp [has, hget]

theorem has_allocate (r : Relay) (ls : LiveSession) (f : LiveSession -> Bool)
    (ref : SessionRef) :
    (r.allocate ls).1.has f ref =
      if ref = r.heap.length then f ls else r.has f ref := by
  unfold has allocate
  simp only
  split
  · rename_i heq
    subst heq
    simp
  · rename_i hne
    rcases Nat.lt_or_gt_of_ne hne with hlt | hgt
    · rw [List.getElem?_append_left hlt]
    · have hout : (r.heap ++ [ls])[ref]? = none := by
        rw [List.getElem?_eq_none]
        rw [List.length_append, List.length_singleton]
        exact hgt
      have hnone : r.heap[ref]? = none := List.getElem?_eq_none (Nat.le_of_lt hgt)
      rw [hout, hnone]

theorem has_set {r r' : Relay} {ref : SessionRef} {ls ls' : LiveSession}
    (hget : r.heap[ref]? = some ls) (hheap : r'.heap = r.heap.set ref ls')
    (f : LiveSession -> Bool) (other : SessionRef) :
    r'.has f other = if other = ref then f ls' else r.has f other := by
  have hlt : ref < r.heap.length := (List.getElem?_eq_some_iff.mp hget).1
  unfold has
  rw [hheap]
  split
  · rename_i heq
    subst heq
    rw [List.getElem?_set_self hlt]
    rfl
  · rename_i hne
    rw [List.getElem?_set_ne (Ne.symm hne)]

theorem has_length (r : Relay) (f : LiveSession -> Bool) :
    r.has f r.heap.length = false := by
  simp [has]

/-- A new session that does not satisfy the test changes no answer. -/
theorem has_allocate_of_false {r : Relay} {ls : LiveSession} {f : LiveSession -> Bool}
    (hf : f ls = false) {ref : SessionRef} :
    (r.allocate ls).1.has f ref = r.has f ref := by
  rw [has_allocate]
  split
  · rename_i heq
    rw [heq, has_length]
    exact hf
  · rfl

/-- Neither does an update that the test does not see. -/
theorem has_set_of_eq {r r' : Relay} {ref : SessionRef} {ls ls' : LiveSession}
    (hget : r.heap[ref]? = some ls) (hheap : r'.heap = r.heap.set ref ls')
    {f : LiveSession -> Bool} (hf : f ls' = f ls) (other : SessionRef) :
    r'.has f other = r.has f other := by
  rw [has_set hget hheap]
  split
  · rename_i heq
    rw [heq, has_of_get hget]
    exact hf
  · rfl

/-- A session of the registry has not been ended. -/
theorem Sound.not_once {r : Relay} (h : r.Sound) {id : Uuid} {ref : SessionRef}
    (hreg : r.sessions id = some ref) : r.has LiveSession.once ref = false := by
  rcases h.registered hreg with ⟨ls, hget, _, hended⟩
  rw [has_of_get hget, h.once hget]
  exact hended

end Relay

/-!
## Stored connections
-/

/-- The live session and the side of a stored connection. -/
def place (e : SessionRef × Side × ConnId) : SessionRef × Side :=
  (e.1, e.2.1)

/-- The live sessions point to the connections that have been stored, each place
to one of them; connections are numbered as they come. -/
structure StoredLaw (s : RelayState) : Prop where
  sound : s.relay.Sound
  one : forall ref side, (s.log.stored.map place).count (ref, side) =
    (s.relay.has (fun ls => ls.conn side) ref).toNat
  conns : forall ref side c,
    s.conns ref side = some c <-> (ref, side, c) ∈ s.log.stored
  fresh : forall ref side c, (ref, side, c) ∈ s.log.stored -> c < s.nextConn

theorem StoredLaw.free {s : RelayState} (h : StoredLaw s) {ref : SessionRef}
    {side : Side} (hfree : s.relay.has (fun ls => ls.conn side) ref = false) (c : ConnId) :
    (ref, side, c) ∉ s.log.stored := by
  intro hmem
  have hcount := h.one ref side
  rw [hfree] at hcount
  apply List.count_eq_zero.mp hcount
  exact List.mem_map.mpr ⟨_, hmem, rfl⟩

/-- `attach` stores the connection at a place that was free. -/
theorem StoredLaw.store {s : RelayState} (h : StoredLaw s) {ref : SessionRef}
    {side : Side} (id : Uuid) {r : Relay} (hsound : r.Sound)
    (hfree : s.relay.has (fun ls => ls.conn side) ref = false)
    (hhas : forall other ref', r.has (fun ls => ls.conn other) ref' =
      (decide ((ref, side) = (ref', other)) ||
        s.relay.has (fun ls => ls.conn other) ref')) :
    StoredLaw ((s.enter id r).store ref side s.nextConn) := by
  constructor
  · exact hsound
  · intro ref' other
    have hbefore := h.one ref' other
    show ((s.log.stored ++ [(ref, side, s.nextConn)]).map place).count (ref', other) =
      (r.has (fun ls => ls.conn other) ref').toNat
    rw [List.map_append, List.count_append, hbefore, hhas]
    by_cases hplace : (ref, side) = (ref', other)
    · cases hplace
      rw [hfree]
      simp [place]
    · simp [place, hplace]
  · intro ref' other c
    show Function.update s.conns ref (Function.update (s.conns ref) side (some s.nextConn))
        ref' other = some c <-> (ref', other, c) ∈ s.log.stored ++ [(ref, side, s.nextConn)]
    rw [List.mem_append, List.mem_singleton]
    by_cases href : ref' = ref
    · subst href
      rw [Function.update_self]
      by_cases hside : other = side
      · subst hside
        rw [Function.update_self]
        constructor
        · intro hc
          cases hc
          exact Or.inr rfl
        · rintro (hold | hnew)
          · exact absurd hold (h.free hfree c)
          · cases hnew
            rfl
      · rw [Function.update_of_ne hside, h.conns]
        constructor
        · exact Or.inl
        · rintro (hold | hnew)
          · exact hold
          · cases hnew
            exact absurd rfl hside
    · rw [Function.update_of_ne href, h.conns]
      constructor
      · exact Or.inl
      · rintro (hold | hnew)
        · exact hold
        · cases hnew
          exact absurd rfl href
  · intro ref' other c hc
    rcases List.mem_append.mp hc with hold | hnew
    · exact Nat.lt_succ_of_lt (h.fresh ref' other c hold)
    · rw [List.mem_singleton] at hnew
      cases hnew
      exact Nat.lt_succ_self _

/-- Steps that store nothing. -/
theorem StoredLaw.congr {s t : RelayState} (h : StoredLaw s) (hsound : t.relay.Sound)
    (hhas : forall side ref, t.relay.has (fun ls => ls.conn side) ref =
      s.relay.has (fun ls => ls.conn side) ref)
    (hstored : t.log.stored = s.log.stored) (hconns : t.conns = s.conns)
    (hnext : s.nextConn ≤ t.nextConn) : StoredLaw t := by
  constructor
  · exact hsound
  · intro ref side
    rw [hstored, hhas]
    exact h.one ref side
  · rw [hstored, hconns]
    exact h.conns
  · intro ref side c hc
    rw [hstored] at hc
    exact Nat.lt_of_lt_of_le (h.fresh ref side c hc) hnext

theorem close_closed {s : RelayState} {c : Option ConnId} {d : ConnId}
    (h : s.closed d = true ∨ c = some d) : (s.close c).closed d = true := by
  cases c with
  | none =>
      rcases h with hold | hc
      · exact hold
      · cases hc
  | some e =>
      simp only [RelayState.close]
      by_cases hed : d = e
      · rw [hed, Function.update_self]
      · rw [Function.update_of_ne hed]
        rcases h with hold | hc
        · exact hold
        · cases hc
          exact absurd rfl hed

theorem StoredLaw.step {s t : RelayState} {k : RelayTask} {made : List RelayTask}
    (h : StoredLaw s) (hacts : Acts s k t made) : StoredLaw t := by
  have hsound := Acts.sound h.sound hacts
  cases hacts with
  | registered hnone =>
      apply h.congr
      · exact hsound
      · intro side ref
        apply Relay.has_allocate_of_false
        cases side <;> rfl
      · rfl
      · rfl
      · exact Nat.le_refl _
  | refused _ =>
      exact h.congr h.sound (fun _ _ => rfl) rfl rfl (Nat.le_succ _)
  | duplicate _ =>
      exact h.congr h.sound (fun _ _ => rfl) rfl rfl (Nat.le_succ _)
  | joined htomb hreg hget hconn =>
      rename_i side id a mode ref ls
      apply h.store
      · exact hsound
      · rw [Relay.has_of_get hget]
        exact hconn
      · intro other ref'
        rw [Relay.has_set hget rfl]
        by_cases href : ref' = ref
        · subst href
          rw [if_pos rfl, LiveSession.attachConn_conn, Relay.has_of_get hget]
          simp [eq_comm]
        · rw [if_neg href]
          simp [Ne.symm href]
  | created htomb hnone =>
      rename_i side id a mode
      apply h.store
      · exact hsound
      · exact Relay.has_length _ _
      · intro other ref'
        rw [Relay.has_allocate]
        by_cases href : ref' = s.relay.heap.length
        · subst href
          rw [if_pos rfl, LiveSession.attachConn_conn, Relay.has_length]
          have hstart : (LiveSession.start id a mode).conn other = false := by
            cases other <;> rfl
          simp [hstart, eq_comm]
        · rw [if_neg href]
          simp [Ne.symm href]
  | finish hfin =>
      rename_i ref reason r ls
      rcases Relay.finish_some hfin with ⟨hget, _, hheap, _, _⟩
      apply h.congr
      · exact hsound
      · intro side other
        apply Relay.has_set_of_eq hget hheap
        cases side <;> rfl
      · rfl
      · rfl
      · exact Nat.le_refl _
  | expire =>
      exact h.congr hsound (fun _ _ => rfl) rfl rfl (Nat.le_refl _)
  | closeAgent =>
      apply h.congr <;> simp [h.sound]
  | closeViewer =>
      apply h.congr <;> simp [h.sound]
  | _ =>
      exact h.congr h.sound (fun _ _ => rfl) rfl rfl (Nat.le_refl _)

/-!
## Pumps
-/

def startsPump (ref : SessionRef) : RelayTask -> Bool
  | RelayTask.pump r => r = ref
  | _ => false

/-- Pumps are started for sessions with both sides attached, once, on the
connections that are stored there. -/
structure PumpLaw (p : RelayPool) : Prop where
  once : forall ref, Pool.pendingCount (startsPump ref) p +
      (p.shared.log.pumped.map Prod.fst).count ref ≤
    (p.shared.relay.has LiveSession.ready ref).toNat
  conns : forall ref f, (ref, f) ∈ p.shared.log.pumped ->
    forall side c, f side = some c -> (ref, side, c) ∈ p.shared.log.stored

/-- A session becomes ready by the attachment that starts its pump. -/
theorem Acts.ready {s t : RelayState} {k : RelayTask} {made : List RelayTask}
    (hacts : Acts s k t made) (ref : SessionRef) :
    (t.relay.has LiveSession.ready ref = s.relay.has LiveSession.ready ref ∧
      made.countP (startsPump ref) = 0) ∨
    (t.relay.has LiveSession.ready ref = true ∧
      s.relay.has LiveSession.ready ref = false ∧ made = [RelayTask.pump ref]) := by
  cases hacts with
  | registered hnone =>
      left
      exact ⟨Relay.has_allocate_of_false rfl, rfl⟩
  | joined htomb hreg hget hconn =>
      rename_i side id a mode ref0 ls
      have hhas : forall other, Relay.has
          { s.relay with heap := s.relay.heap.set ref0 (ls.attachConn side) }
          LiveSession.ready other =
          if other = ref0 then (ls.attachConn side).ready
          else s.relay.has LiveSession.ready other := by
        intro other
        exact Relay.has_set hget rfl LiveSession.ready other
      have hbefore : s.relay.has LiveSession.ready ref0 = false := by
        rw [Relay.has_of_get hget]
        exact LiveSession.ready_of_free hconn
      have hafter := hhas ref
      by_cases href : ref = ref0
      · subst href
        rw [if_pos rfl] at hafter
        cases hready : (ls.attachConn side).ready with
        | true =>
            right
            exact ⟨hafter.trans hready, hbefore, rfl⟩
        | false =>
            left
            refine ⟨?_, rfl⟩
            rw [hbefore]
            exact hafter.trans hready
      · left
        rw [if_neg href] at hafter
        refine ⟨hafter, ?_⟩
        split
        · simp [startsPump, Ne.symm href]
        · rfl
  | created htomb hnone =>
      rename_i side id a mode
      left
      refine ⟨Relay.has_allocate_of_false ?_, rfl⟩
      cases side <;> rfl
  | finish hfin =>
      rename_i ref0 reason r ls
      left
      rcases Relay.finish_some hfin with ⟨hget, _, hheap, _, _⟩
      exact ⟨Relay.has_set_of_eq hget hheap rfl ref, rfl⟩
  | endSessionsForAgent =>
      left
      refine ⟨rfl, ?_⟩
      simp [startsPump]
  | closeAgent =>
      left
      rw [close_relay]
      exact ⟨rfl, rfl⟩
  | closeViewer =>
      left
      rw [close_relay]
      exact ⟨rfl, rfl⟩
  | _ =>
      exact Or.inl ⟨rfl, rfl⟩

/-- What has been stored stays stored. -/
theorem Acts.stored_mono {s t : RelayState} {k : RelayTask} {made : List RelayTask}
    (hacts : Acts s k t made) {e : SessionRef × Side × ConnId}
    (h : e ∈ s.log.stored) : e ∈ t.log.stored := by
  cases hacts with
  | joined _ _ _ _ =>
      exact List.mem_append_left _ h
  | created _ _ =>
      exact List.mem_append_left _ h
  | closeAgent =>
      rw [close_log]
      exact h
  | closeViewer =>
      rw [close_log]
      exact h
  | _ =>
      exact h

theorem Acts.pumped {s t : RelayState} {k : RelayTask} {made : List RelayTask}
    (hacts : Acts s k t made) :
    (t.log.pumped = s.log.pumped ∧ forall ref, startsPump ref k = false) ∨
      exists ref, k = RelayTask.pump ref ∧ (forall ref', made ≠ [RelayTask.pump ref']) ∧
        t.log.pumped = s.log.pumped ++ [(ref, s.conns ref)] ∧
        t.log.stored = s.log.stored := by
  cases hacts with
  | pump =>
      refine Or.inr ⟨_, rfl, ?_, rfl, rfl⟩
      intro ref' hmade
      cases hmade
  | closeAgent =>
      rw [close_log]
      exact Or.inl ⟨rfl, fun _ => rfl⟩
  | closeViewer =>
      rw [close_log]
      exact Or.inl ⟨rfl, fun _ => rfl⟩
  | _ =>
      exact Or.inl ⟨rfl, fun _ => rfl⟩

theorem PumpLaw.step {p p' : RelayPool} {k : RelayTask}
    {o : Outcome RelayState RelayTask} (hstored : StoredLaw p.shared)
    (h : PumpLaw p) (hacts : Acts p.shared k o.shared o.created)
    (hexec : Pool.Executed p p' k o) : PumpLaw p' := by
  constructor
  · intro ref
    have hbefore := h.once ref
    have hcount := hexec.count (startsPump ref)
    rw [hexec.shared]
    rcases hacts.pumped with ⟨hlog, hk⟩ | ⟨ref0, rfl, hnot, hlog, _⟩
    · rw [hlog]
      rw [List.countP_singleton, hk ref, if_neg Bool.false_ne_true] at hcount
      rcases hacts.ready ref with ⟨hready, hmade⟩ | ⟨hready, hnot, hmade⟩
      · rw [hready]
        omega
      · rw [hmade] at hcount
        have hone : [RelayTask.pump ref].countP (startsPump ref) = 1 := by
          simp [startsPump]
        rw [hnot, Bool.toNat_false] at hbefore
        rw [hready, Bool.toNat_true]
        omega
    · -- the pump that starts is the pending one
      rcases hacts.ready ref with ⟨hready, hmade⟩ | ⟨_, _, hmade⟩
      · rw [hready, hlog, List.map_append, List.count_append]
        have hsame : [RelayTask.pump ref0].countP (startsPump ref) =
            ([(ref0, p.shared.conns ref0)].map Prod.fst).count ref := by
          by_cases href : ref0 = ref
          · simp [startsPump, href]
          · simp [startsPump, href]
        omega
      · exact absurd hmade (hnot ref)
  · intro ref f hmem side c hf
    rw [hexec.shared] at hmem ⊢
    rcases hacts.pumped with ⟨hlog, _⟩ | ⟨ref0, _, _, hlog, hsame⟩
    · rw [hlog] at hmem
      exact hacts.stored_mono (h.conns ref f hmem side c hf)
    · rw [hlog] at hmem
      rcases List.mem_append.mp hmem with hold | hnew
      · exact hacts.stored_mono (h.conns ref f hold side c hf)
      · rw [List.mem_singleton] at hnew
        cases hnew
        rw [hsame]
        exact (hstored.conns _ _ _).mp hf

end RemoteDesktop
end LeoOne
