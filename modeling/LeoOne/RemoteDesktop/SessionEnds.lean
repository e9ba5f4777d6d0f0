import LeoOne.RemoteDesktop.Sockets

/-!
# What becomes of the connections of an ended session

The end of a session is a chain of tasks, of which at most one is pending; the
tombstone keeps later attachments away.
-/

namespace LeoOne
namespace RemoteDesktop

open Foundation
open Backend

/-!
## Ends
-/

/-- The task is part of the end of the session, after the locked section. -/
def endTask (ref : SessionRef) : RelayTask -> Bool
  | RelayTask.closeConn r _ _ => r = ref
  | RelayTask.markEnded r _ => r = ref
  | _ => false

def closesSide (ref : SessionRef) (side : Side) : RelayTask -> Bool
  | RelayTask.closeConn r s _ => r = ref && s = side
  | _ => false

/-- An ended session is at one point of its end: a connection is being closed,
`MarkEnded` is pending, or it has been called.  What is stored there is closed or
about to be. -/
structure EndsLaw (p : RelayPool) : Prop where
  once : forall ref, Pool.pendingCount (endTask ref) p +
      (p.shared.log.marked.map Prod.fst).count ref =
    (p.shared.relay.has LiveSession.once ref).toNat
  closing : forall ref side c, (ref, side, c) ∈ p.shared.log.stored ->
    p.shared.relay.has LiveSession.once ref = true ->
    p.shared.closed c = true ∨ 0 < Pool.pendingCount (closesSide ref Side.agent) p ∨
      (side = Side.viewer ∧ 0 < Pool.pendingCount (closesSide ref Side.viewer) p)

/-- A session is ended by the first `finish`, and each task of the end is followed
by the next one. -/
theorem Acts.once {s t : RelayState} {k : RelayTask} {made : List RelayTask}
    (hacts : Acts s k t made) (ref : SessionRef) :
    (t.relay.has LiveSession.once ref = s.relay.has LiveSession.once ref ∧
      made.countP (endTask ref) + (t.log.marked.map Prod.fst).count ref =
        [k].countP (endTask ref) + (s.log.marked.map Prod.fst).count ref) ∨
    (exists reason id, k = RelayTask.finish ref reason ∧
      made = [RelayTask.closeConn ref Side.agent reason, RelayTask.expireTombstone id] ∧
      t.relay.has LiveSession.once ref = true ∧
      s.relay.has LiveSession.once ref = false ∧ t.log = { s.log with
        ended := t.log.ended }) := by
  cases hacts with
  | registered hnone =>
      left
      exact ⟨Relay.has_allocate_of_false rfl, rfl⟩
  | joined htomb hreg hget hconn =>
      rename_i side id a mode ref0 ls
      left
      have hsame : (ls.attachConn side).once = ls.once := by
        cases side <;> rfl
      refine ⟨Relay.has_set_of_eq hget rfl hsame ref, ?_⟩
      split <;> rfl
  | created htomb hnone =>
      rename_i side id a mode
      left
      refine ⟨Relay.has_allocate_of_false ?_, rfl⟩
      cases side <;> rfl
  | finish hfin =>
      rename_i ref0 reason r ls
      rcases Relay.finish_some hfin with ⟨hget, honce, hheap, _, _⟩
      have hafter : r.has LiveSession.once ref = _ := Relay.has_set hget hheap _ ref
      by_cases href : ref = ref0
      · subst href
        right
        refine ⟨reason, ls.sessionId, rfl, rfl, ?_, ?_, rfl⟩
        · rw [if_pos rfl] at hafter
          exact hafter
        · rw [Relay.has_of_get hget]
          exact honce
      · left
        rw [if_neg href] at hafter
        refine ⟨hafter, ?_⟩
        simp [endTask, Ne.symm href]
  | endSessionsForAgent =>
      left
      refine ⟨rfl, ?_⟩
      simp [endTask]
  | markEnded =>
      left
      refine ⟨rfl, ?_⟩
      rename_i ref0 reason
      rw [List.map_append, List.count_append]
      by_cases href : ref0 = ref
      · simp [endTask, href, Nat.add_comm]
      · simp [endTask, href]
  | closeAgent =>
      left
      rw [close_relay, close_log]
      exact ⟨rfl, rfl⟩
  | closeViewer =>
      left
      rw [close_relay, close_log]
      exact ⟨rfl, rfl⟩
  | _ =>
      exact Or.inl ⟨rfl, rfl⟩

theorem Acts.closed_mono {s t : RelayState} {k : RelayTask} {made : List RelayTask}
    (hacts : Acts s k t made) {c : ConnId} (h : s.closed c = true) :
    t.closed c = true := by
  cases hacts with
  | refuse =>
      exact close_closed (Or.inl h)
  | closeAgent =>
      exact close_closed (Or.inl h)
  | closeViewer =>
      exact close_closed (Or.inl h)
  | _ =>
      exact h

/-- A connection is stored in sessions that have not been ended. -/
theorem Acts.stored {s t : RelayState} {k : RelayTask} {made : List RelayTask}
    (hs : s.relay.Sound) (hacts : Acts s k t made) {ref : SessionRef} {side : Side}
    {c : ConnId} (h : (ref, side, c) ∈ t.log.stored) :
    (ref, side, c) ∈ s.log.stored ∨
      (c = s.nextConn ∧ s.relay.has LiveSession.once ref = false) := by
  cases hacts with
  | joined htomb hreg hget hconn =>
      rcases List.mem_append.mp h with hold | hnew
      · exact Or.inl hold
      · rw [List.mem_singleton] at hnew
        cases hnew
        exact Or.inr ⟨rfl, hs.not_once hreg⟩
  | created htomb hnone =>
      rcases List.mem_append.mp h with hold | hnew
      · exact Or.inl hold
      · rw [List.mem_singleton] at hnew
        cases hnew
        exact Or.inr ⟨rfl, Relay.has_length _ _⟩
  | closeAgent =>
      rw [close_log] at h
      exact Or.inl h
  | closeViewer =>
      rw [close_log] at h
      exact Or.inl h
  | _ =>
      exact Or.inl h

/-- Whoever is about to close a side goes on to do so, or has done it. -/
theorem closesSide_step {p p' : RelayPool} {k : RelayTask}
    {o : Outcome RelayState RelayTask} (hstored : StoredLaw p.shared)
    (hacts : Acts p.shared k o.shared o.created) (hexec : Pool.Executed p p' k o)
    {ref : SessionRef} {side : Side}
    (h : 0 < Pool.pendingCount (closesSide ref side) p) :
    0 < Pool.pendingCount (closesSide ref side) p' ∨
      (exists reason, k = RelayTask.closeConn ref side reason) ∧
      forall c, (ref, side, c) ∈ p.shared.log.stored -> p'.shared.closed c = true := by
  have hcount := hexec.count (closesSide ref side)
  rw [List.countP_singleton] at hcount
  cases hk : closesSide ref side k with
  | false =>
      left
      rw [hk, if_neg Bool.false_ne_true] at hcount
      omega
  | true =>
      right
      rw [hexec.shared]
      unfold closesSide at hk
      split at hk
      · rename_i ref0 side0 reason
        rcases Bool.and_eq_true_iff.mp hk with ⟨href, hside⟩
        have href := of_decide_eq_true href
        have hside := of_decide_eq_true hside
        subst href hside
        refine ⟨⟨reason, rfl⟩, ?_⟩
        intro c hc
        have hconn := (hstored.conns _ _ _).mpr hc
        generalize o.created = made at hacts
        generalize o.shared = t at hacts
        cases hacts with
        | closeAgent =>
            exact close_closed (Or.inr hconn)
        | closeViewer =>
            exact close_closed (Or.inr hconn)
      · cases hk

theorem EndsLaw.step {p p' : RelayPool} {k : RelayTask}
    {o : Outcome RelayState RelayTask} (hstored : StoredLaw p.shared)
    (h : EndsLaw p) (hacts : Acts p.shared k o.shared o.created)
    (hexec : Pool.Executed p p' k o) : EndsLaw p' := by
  constructor
  · intro ref
    have hbefore := h.once ref
    have hcount := hexec.count (endTask ref)
    rw [hexec.shared]
    rcases hacts.once ref with ⟨honce, hmade⟩ | ⟨reason, id, rfl, hmade, hafter, hnot, hlog⟩
    · rw [honce]
      omega
    · have hmarked : o.shared.log.marked = p.shared.log.marked := by rw [hlog]
      have hone : o.created.countP (endTask ref) = 1 := by
        rw [hmade]
        simp [endTask]
      rw [hnot, Bool.toNat_false] at hbefore
      rw [hafter, hmarked, Bool.toNat_true]
      have hzero : [RelayTask.finish ref reason].countP (endTask ref) = 0 := rfl
      omega
  · intro ref side c hc honce
    have hmono : p.shared.closed c = true -> p'.shared.closed c = true := by
      intro hclosed
      rw [hexec.shared]
      exact hacts.closed_mono hclosed
    rw [hexec.shared] at hc honce
    rcases hacts.once ref with ⟨hsame, _⟩ | ⟨reason, id, rfl, hmade, _, _, _⟩
    · rw [hsame] at honce
      rcases hacts.stored hstored.sound hc with hold | ⟨_, hnot⟩
      · rcases h.closing ref side c hold honce with hclosed | hagent | ⟨rfl, hviewer⟩
        · exact Or.inl (hmono hclosed)
        · rcases closesSide_step hstored hacts hexec hagent with
            hstill | ⟨⟨reason, rfl⟩, hclosed⟩
          · exact Or.inr (Or.inl hstill)
          · cases side with
            | agent =>
                exact Or.inl (hclosed c hold)
            | viewer =>
                right
                right
                refine ⟨rfl, ?_⟩
                have hnext : o.created = [RelayTask.closeConn ref Side.viewer reason] := by
                  generalize o.created = made at hacts
                  generalize o.shared = t at hacts
                  cases hacts
                  rfl
                apply hexec.pendingCount_created
                · rw [hnext]
                  exact List.mem_cons_self
                · simp [closesSide]
        · rcases closesSide_step hstored hacts hexec hviewer with hstill | ⟨_, hclosed⟩
          · exact Or.inr (Or.inr ⟨rfl, hstill⟩)
          · exact Or.inl (hclosed c hold)
      · rw [hnot] at honce
        cases honce
    · right
      left
      apply hexec.pendingCount_created
      · rw [hmade]
        exact List.mem_cons_self
      · simp [closesSide]

/-!
## Attachments after the end
-/

def refuses (c : ConnId) : RelayTask -> Bool
  | RelayTask.refuse d => d = c
  | _ => false

/-- Every attach happens before the tombstone of its session is forgotten. -/
def attachesInTime (p : RelayPool) (k : RelayTask) (_ : Unit) : Bool :=
  match k with
  | RelayTask.attach _ id _ _ => decide (id ∉ p.shared.log.forgotten)
  | _ => true

/-- An ended session has a tombstone until it is forgotten, and a connection that
came after the end has been refused. -/
structure LateLaw (p : RelayPool) : Prop where
  tombstones : forall id, p.shared.relay.hasEnded id = true ->
    p.shared.relay.endedSessions id = true ∨ id ∈ p.shared.log.forgotten
  late : forall c, c ∈ p.shared.log.late ->
    c < p.shared.nextConn ∧ (forall ref side, (ref, side, c) ∉ p.shared.log.stored) ∧
      (p.shared.closed c = true ∨ p.anyPending (refuses c) = true)

theorem hasEnded_iff {r : Relay} {id : Uuid} :
    r.hasEnded id = true <->
      exists ls, ls ∈ r.heap ∧ ls.sessionId = id ∧ ls.ended = true := by
  unfold Relay.hasEnded
  simp only [List.any_eq_true, Bool.and_eq_true, decide_eq_true_eq]

/-- Only `finish` ends a session, and it leaves a tombstone. -/
theorem Acts.hasEnded {s t : RelayState} {k : RelayTask} {made : List RelayTask}
    (hacts : Acts s k t made) {id : Uuid} (h : t.relay.hasEnded id = true) :
    (s.relay.hasEnded id = true ∧
      (t.relay.endedSessions id = s.relay.endedSessions id ∨
        t.relay.endedSessions id = true ∨ id ∈ t.log.forgotten) ∧
      forall i, i ∈ s.log.forgotten -> i ∈ t.log.forgotten) ∨
    t.relay.endedSessions id = true := by
  have hallocate : forall ls : LiveSession, ls.ended = false ->
      (s.relay.allocate ls).1.hasEnded id = true -> s.relay.hasEnded id = true := by
    intro ls hended hnew
    rcases hasEnded_iff.mp hnew with ⟨ls', hmem, hid, hended'⟩
    rcases List.mem_append.mp hmem with hold | hlast
    · exact hasEnded_iff.mpr ⟨ls', hold, hid, hended'⟩
    · rw [List.mem_singleton.mp hlast, hended] at hended'
      cases hended'
  cases hacts with
  | registered hnone =>
      exact Or.inl ⟨hallocate _ rfl h, Or.inl rfl, fun _ hi => hi⟩
  | joined htomb hreg hget hconn =>
      rename_i side id0 a mode ref ls
      refine Or.inl ⟨?_, Or.inl rfl, fun _ hi => hi⟩
      rcases hasEnded_iff.mp h with ⟨ls', hmem, hid, hended⟩
      rcases List.mem_or_eq_of_mem_set hmem with hold | hnew
      · exact hasEnded_iff.mpr ⟨ls', hold, hid, hended⟩
      · have hsame : (ls.attachConn side).sessionId = ls.sessionId ∧
            (ls.attachConn side).ended = ls.ended := by
          cases side <;> exact ⟨rfl, rfl⟩
        rw [hnew, hsame.left] at hid
        rw [hnew, hsame.right] at hended
        exact hasEnded_iff.mpr ⟨ls, List.mem_of_getElem? hget, hid, hended⟩
  | created htomb hnone =>
      rename_i side id0 a mode
      refine Or.inl ⟨hallocate _ ?_ h, Or.inl rfl, fun _ hi => hi⟩
      cases side <;> rfl
  | finish hfin =>
      rename_i ref reason r ls
      rcases Relay.finish_some hfin with ⟨hget, _, hheap, _, htomb⟩
      simp only at h ⊢
      by_cases hid : id = ls.sessionId
      · right
        rw [htomb, hid, Function.update_self]
      · left
        refine ⟨?_, Or.inl ?_, fun _ hi => hi⟩
        · rcases hasEnded_iff.mp h with ⟨ls', hmem, hid', hended⟩
          rw [hheap] at hmem
          rcases List.mem_or_eq_of_mem_set hmem with hold | hnew
          · exact hasEnded_iff.mpr ⟨ls', hold, hid', hended⟩
          · rw [hnew] at hid'
            exact absurd hid'.symm hid
        · rw [htomb, Function.update_of_ne hid]
  | expire =>
      rename_i id0
      refine Or.inl ⟨h, ?_, fun _ hi => List.mem_cons_of_mem _ hi⟩
      by_cases hid : id = id0
      · exact Or.inr (Or.inr (hid ▸ List.mem_cons_self))
      · left
        simp only [Relay.expireTombstone]
        rw [Function.update_of_ne hid]
  | closeAgent =>
      rw [close_relay] at h
      rw [close_relay, close_log]
      exact Or.inl ⟨h, Or.inl rfl, fun _ hi => hi⟩
  | closeViewer =>
      rw [close_relay] at h
      rw [close_relay, close_log]
      exact Or.inl ⟨h, Or.inl rfl, fun _ hi => hi⟩
  | _ =>
      exact Or.inl ⟨h, Or.inl rfl, fun _ hi => hi⟩

/-- What the locked section of `attach` enters as late. -/
theorem late_of_attach {s t : RelayState} {made : List RelayTask} {side : Side}
    {id : Uuid} {a : String} {mode : SessionMode}
    (hlate : t.log.late = (s.enter id s.relay).log.late)
    (hnext : t.nextConn = s.nextConn + 1)
    (hrefused : s.relay.endedSessions id = true ->
      made = [RelayTask.refuse s.nextConn] ∧ t.log.stored = s.log.stored) :
    s.nextConn ≤ t.nextConn ∧
      (t.log.late = s.log.late ∨
        exists side' id' a' mode',
          RelayTask.attach side id a mode = RelayTask.attach side' id' a' mode' ∧
          s.relay.hasEnded id' = true ∧ t.log.late = s.log.late ++ [s.nextConn] ∧
          t.nextConn = s.nextConn + 1 ∧
          (s.relay.endedSessions id' = true ->
            made = [RelayTask.refuse s.nextConn] ∧ t.log.stored = s.log.stored)) := by
  constructor
  · rw [hnext]
    exact Nat.le_succ _
  · simp only [RelayState.enter] at hlate
    split at hlate
    · rename_i hended
      exact Or.inr ⟨side, id, a, mode, rfl, hended, hlate, hnext, hrefused⟩
    · exact Or.inl hlate

/-- A connection is late when its session has been ended before; it is refused
then, unless the tombstone has been forgotten. -/
theorem Acts.late {s t : RelayState} {k : RelayTask} {made : List RelayTask}
    (hacts : Acts s k t made) :
    s.nextConn ≤ t.nextConn ∧
      (t.log.late = s.log.late ∨
        exists side id a mode, k = RelayTask.attach side id a mode ∧
          s.relay.hasEnded id = true ∧ t.log.late = s.log.late ++ [s.nextConn] ∧
          t.nextConn = s.nextConn + 1 ∧
          (s.relay.endedSessions id = true ->
            made = [RelayTask.refuse s.nextConn] ∧ t.log.stored = s.log.stored)) := by
  cases hacts with
  | refused htomb =>
      exact late_of_attach rfl rfl fun _ => ⟨rfl, rfl⟩
  | duplicate htomb =>
      exact late_of_attach rfl rfl fun _ => ⟨rfl, rfl⟩
  | joined htomb hreg hget hconn =>
      have hno := Bool.eq_false_iff.mp htomb
      exact late_of_attach rfl rfl fun hyes => absurd hyes hno
  | created htomb hnone =>
      have hno := Bool.eq_false_iff.mp htomb
      exact late_of_attach rfl rfl fun hyes => absurd hyes hno
  | closeAgent =>
      rw [close_nextConn, close_log]
      exact ⟨Nat.le_refl _, Or.inl rfl⟩
  | closeViewer =>
      rw [close_nextConn, close_log]
      exact ⟨Nat.le_refl _, Or.inl rfl⟩
  | _ =>
      exact ⟨Nat.le_refl _, Or.inl rfl⟩

theorem LateLaw.step {p p' : RelayPool} {k : RelayTask}
    {o : Outcome RelayState RelayTask} (hstored : StoredLaw p.shared)
    (h : LateLaw p) (hguard : attachesInTime p k () = true)
    (hacts : Acts p.shared k o.shared o.created) (hexec : Pool.Executed p p' k o) :
    LateLaw p' := by
  constructor
  · intro id hended
    rw [hexec.shared] at hended ⊢
    rcases hacts.hasEnded hended with ⟨hbefore, htomb, hmono⟩ | htomb
    · rcases htomb with hsame | htomb | hforgotten
      · rw [hsame]
        rcases h.tombstones id hbefore with hstill | hforgotten
        · exact Or.inl hstill
        · exact Or.inr (hmono id hforgotten)
      · exact Or.inl htomb
      · exact Or.inr hforgotten
    · exact Or.inl htomb
  · intro c hc
    rw [hexec.shared] at hc
    rcases hacts.late with ⟨hle, hlate⟩
    have hold : c ∈ p.shared.log.late -> c < p'.shared.nextConn ∧
        (forall ref side, (ref, side, c) ∉ p'.shared.log.stored) ∧
        (p'.shared.closed c = true ∨ p'.anyPending (refuses c) = true) := by
      intro hmem
      rcases h.late c hmem with ⟨hlt, hnot, hclosed⟩
      rw [hexec.shared]
      refine ⟨Nat.lt_of_lt_of_le hlt hle, ?_, ?_⟩
      · intro ref side hin
        rcases hacts.stored hstored.sound hin with hpast | ⟨hnew, _⟩
        · exact hnot ref side hpast
        · exact absurd hnew (Nat.ne_of_lt hlt)
      · rcases hclosed with hclosed | hpending
        · exact Or.inl (hacts.closed_mono hclosed)
        · cases hk : refuses c k with
          | false =>
              exact Or.inr (hexec.anyPending_kept hpending hk)
          | true =>
              left
              unfold refuses at hk
              split at hk
              · have hcd := of_decide_eq_true hk
                subst hcd
                generalize o.created = made at hacts
                generalize o.shared = t at hacts
                cases hacts
                exact close_closed (Or.inr rfl)
              · cases hk
    rcases hlate with hsame | ⟨side, id, a, mode, rfl, hended, hlate, hnext, hrefused⟩
    · rw [hsame] at hc
      exact hold hc
    · rw [hlate] at hc
      rcases List.mem_append.mp hc with hpast | hnew
      · exact hold hpast
      · rw [List.mem_singleton] at hnew
        subst hnew
        have htomb : p.shared.relay.endedSessions id = true := by
          rcases h.tombstones id hended with htomb | hforgotten
          · exact htomb
          · exact absurd hforgotten (of_decide_eq_true hguard)
        rcases hrefused htomb with ⟨hmade, hsame⟩
        refine ⟨?_, ?_, Or.inr ?_⟩
        · rw [hexec.shared, hnext]
          exact Nat.lt_succ_self _
        · intro ref side' hin
          rw [hexec.shared, hsame] at hin
          exact Nat.lt_irrefl _ (hstored.fresh ref side' _ hin)
        · apply hexec.anyPending_created (j := RelayTask.refuse p.shared.nextConn)
          · rw [hmade]
            exact List.mem_singleton.mpr rfl
          · simp [refuses]

/-!
## Runs
-/

structure SocketLaw (p : RelayPool) : Prop where
  stored : StoredLaw p.shared
  pumps : PumpLaw p
  ends : EndsLaw p
  late : LateLaw p

theorem SocketLaw.start {p p' : RelayPool} {r : RelayRequest} (h : SocketLaw p)
    (hstarts : Pool.Started p p' (relayEntry r)) : SocketLaw p' := by
  have hcount : forall f, (forall k, k ∈ relayEntry r -> f k = false) ->
      Pool.pendingCount f p' = Pool.pendingCount f p := by
    intro f hf
    rw [hstarts.count f]
    have hzero : (relayEntry r).countP f = 0 := by
      apply List.countP_eq_zero.mpr
      intro k hk
      simp [hf k hk]
    omega
  have hentry : forall k, k ∈ relayEntry r -> (forall ref, startsPump ref k = false) ∧
      (forall ref, endTask ref k = false) ∧
      (forall ref side, closesSide ref side k = false) := by
    intro k hk
    cases r <;>
      · rw [relayEntry, List.mem_singleton] at hk
        subst hk
        exact ⟨fun _ => rfl, fun _ => rfl, fun _ _ => rfl⟩
  constructor
  · rw [hstarts.shared]
    exact h.stored
  · constructor
    · intro ref
      rw [hcount _ fun k hk => (hentry k hk).left ref, hstarts.shared]
      exact h.pumps.once ref
    · rw [hstarts.shared]
      exact h.pumps.conns
  · constructor
    · intro ref
      rw [hcount _ fun k hk => (hentry k hk).right.left ref, hstarts.shared]
      exact h.ends.once ref
    · intro ref side c
      rw [hcount _ fun k hk => (hentry k hk).right.right ref Side.agent,
        hcount _ fun k hk => (hentry k hk).right.right ref Side.viewer, hstarts.shared]
      exact h.ends.closing ref side c
  · constructor
    · rw [hstarts.shared]
      exact h.late.tombstones
    · intro c hc
      rw [hstarts.shared] at hc ⊢
      rcases h.late.late c hc with ⟨hlt, hnot, hclosed | hpending⟩
      · exact ⟨hlt, hnot, Or.inl hclosed⟩
      · exact ⟨hlt, hnot, Or.inr (Pool.anyPending_mono hstarts.kept hpending)⟩

theorem socketLaw_start : SocketLaw relayStart := by
  constructor
  · constructor
    · exact Relay.new_sound
    · intro ref side
      rfl
    · intro ref side c
      constructor
      · intro h
        cases h
      · intro h
        cases h
    · intro ref side c h
      cases h
  · constructor
    · intro ref
      exact Nat.le_refl 0
    · intro ref f h
      cases h
  · constructor
    · intro ref
      rfl
    · intro ref side c h
      cases h
  · constructor
    · intro id h
      cases h
    · intro c h
      cases h

theorem socketLaw_preserved :
    relayMachine.Preserves (fun p e => Pool.guarded attachesInTime p e = true)
      SocketLaw := by
  apply Pool.preserves
  · intro p p' r h hstarts
    exact h.start hstarts
  · intro p p' x k o h hguard hperform hexec
    have hacts := acts_of_perform h.stored.sound hperform
    constructor
    · rw [hexec.shared]
      exact h.stored.step hacts
    · exact h.pumps.step h.stored hacts hexec
    · exact h.ends.step h.stored hacts hexec
    · exact h.late.step h.stored hguard hacts hexec

theorem endTask_of_closesSide {ref : SessionRef} {side : Side} {k : RelayTask}
    (h : closesSide ref side k = true) : endTask ref k = true := by
  unfold closesSide at h
  split at h
  · exact (Bool.and_eq_true_iff.mp h).left
  · cases h

/-- Once `MarkEnded` has been called, the connections of the session are closed. -/
theorem SocketLaw.closed_of_marked {p : RelayPool} (h : SocketLaw p)
    {ref : SessionRef} (hmarked : ref ∈ p.shared.log.marked.map Prod.fst) {side : Side}
    {c : ConnId} (hc : (ref, side, c) ∈ p.shared.log.stored) :
    p.shared.closed c = true := by
  have hcount := h.ends.once ref
  have hpos := List.count_pos_iff.mpr hmarked
  have hle := Bool.toNat_le (p.shared.relay.has LiveSession.once ref)
  have hnone : forall side, Pool.pendingCount (closesSide ref side) p = 0 := by
    intro side
    have hmono : Pool.pendingCount (closesSide ref side) p ≤
        Pool.pendingCount (endTask ref) p := by
      apply List.countP_mono_left
      intro k _ hk
      exact endTask_of_closesSide hk
    omega
  have honce : p.shared.relay.has LiveSession.once ref = true := by
    cases hhas : p.shared.relay.has LiveSession.once ref with
    | true =>
        rfl
    | false =>
        rw [hhas, Bool.toNat_false] at hcount
        omega
  rcases h.ends.closing ref side c hc honce with hclosed | hpending | ⟨_, hpending⟩
  · exact hclosed
  · rw [hnone] at hpending
    exact absurd hpending (Nat.lt_irrefl 0)
  · rw [hnone] at hpending
    exact absurd hpending (Nat.lt_irrefl 0)

/-- The life of the sessions of the relay, whatever the order of registrations,
attachments, timeouts, ends of the copying loops and calls that end sessions:
no session starts its pumps twice, stores two connections on one side or calls
`MarkEnded` twice; from the moment a session is ended, each connection it has
stored is closed or its `end` is about to close it, and after `MarkEnded` all of
them are closed; and a connection attached after the end is neither stored nor
pumped and is closed, or about to be by its own goroutine. -/
theorem relay_lifecycle {es : List RelayEvent} {p : RelayPool}
    (hrun : relayMachine.run relayStart es = some p)
    (hmeets : relayMachine.Meets
      (fun p e => Pool.guarded attachesInTime p e = true) relayStart es) :
    (p.shared.log.pumped.map Prod.fst).Nodup ∧
      (p.shared.log.stored.map place).Nodup ∧
      (p.shared.log.marked.map Prod.fst).Nodup ∧
      (forall ref side c, (ref, side, c) ∈ p.shared.log.stored ->
        (p.shared.relay.has LiveSession.ended ref = true ->
          p.shared.closed c = true ∨ p.anyPending (endTask ref) = true) ∧
        (ref ∈ p.shared.log.marked.map Prod.fst -> p.shared.closed c = true)) ∧
      forall c, c ∈ p.shared.log.late ->
        (forall ref side, (ref, side, c) ∉ p.shared.log.stored) ∧
        (forall ref conns side, (ref, conns) ∈ p.shared.log.pumped ->
          conns side ≠ some c) ∧
        (p.shared.closed c = true ∨ p.anyPending (refuses c) = true) := by
  have h := socketLaw_preserved.run socketLaw_start hmeets hrun
  refine ⟨?_, ?_, ?_, ?_, ?_⟩
  · rw [List.nodup_iff_count_le_one]
    intro ref
    have hcount := h.pumps.once ref
    have hle := Bool.toNat_le (p.shared.relay.has LiveSession.ready ref)
    omega
  · rw [List.nodup_iff_count_le_one]
    rintro ⟨ref, side⟩
    rw [h.stored.one ref side]
    exact Bool.toNat_le _
  · rw [List.nodup_iff_count_le_one]
    intro ref
    have hcount := h.ends.once ref
    have hle := Bool.toNat_le (p.shared.relay.has LiveSession.once ref)
    omega
  · intro ref side c hc
    constructor
    · intro hended
      have honce : p.shared.relay.has LiveSession.once ref = true := by
        unfold Relay.has at hended ⊢
        cases hget : p.shared.relay.heap[ref]? with
        | none =>
            rw [hget] at hended
            cases hended
        | some ls =>
            rw [hget] at hended
            show ls.once = true
            rw [h.stored.sound.once hget]
            exact hended
      have hany : forall side, 0 < Pool.pendingCount (closesSide ref side) p ->
          p.anyPending (endTask ref) = true := by
        intro side hpos
        rcases List.countP_pos_iff.mp hpos with ⟨k, hk, hf⟩
        rcases List.mem_flatten.mp hk with ⟨q, hq, hkq⟩
        exact Pool.anyPending_of_pending ⟨q, hq, hkq⟩ (endTask_of_closesSide hf)
      rcases h.ends.closing ref side c hc honce with hclosed | hpending | ⟨_, hpending⟩
      · exact Or.inl hclosed
      · exact Or.inr (hany _ hpending)
      · exact Or.inr (hany _ hpending)
    · intro hmarked
      exact h.closed_of_marked hmarked hc
  · intro c hc
    rcases h.late.late c hc with ⟨_, hnot, hclosed⟩
    refine ⟨hnot, ?_, hclosed⟩
    intro ref conns side hmem hconn
    exact hnot ref side (h.pumps.conns ref conns hmem side c hconn)

namespace Scenario

def session : Uuid where
  text := "5e000000-0000-4000-8000-000000000003"
  canonical := by decide

def attach (side : Side) : RelayEvent :=
  PoolEvent.start (RelayRequest.attach side session "agent" SessionMode.control)

def go (i : Nat) : RelayEvent :=
  PoolEvent.exec i ()

/-- Both sides attach and are pumped; the viewer goes away, which ends the
session, and somebody attaches as the agent once more. -/
def pairedAndClosed : List RelayEvent :=
  [PoolEvent.start (RelayRequest.register session "agent" SessionMode.control),
    go 0, attach Side.viewer, go 2, attach Side.agent, go 3,
    -- goroutine 4 is the pump, 5 and 6 are the copying loops
    go 4, go 6, go 4, go 4, go 4, go 4, go 4, attach Side.agent, go 8, go 8]

end Scenario

theorem relay_lifecycle_pairedAndClosed :
    exists p, relayMachine.run relayStart Scenario.pairedAndClosed = some p ∧
      p.shared.log.marked = [(0, "connection_closed")] ∧
      p.shared.closed 0 = true ∧ p.shared.closed 1 = true ∧
      p.shared.log.late = [2] ∧ forall ref side, (ref, side, 2) ∉ p.shared.log.stored := by
  obtain ⟨p, hrun, hmarked, hlate, hviewer, hagent⟩ : exists p,
      relayMachine.run relayStart Scenario.pairedAndClosed = some p ∧
        p.shared.log.marked = [(0, "connection_closed")] ∧ p.shared.log.late = [2] ∧
        (0, Side.viewer, 0) ∈ p.shared.log.stored ∧
        (0, Side.agent, 1) ∈ p.shared.log.stored :=
    ⟨_, rfl, rfl, rfl, by decide, by decide⟩
  have h := relay_lifecycle hrun (by decide)
  have hended : 0 ∈ p.shared.log.marked.map Prod.fst := by
    rw [hmarked]
    exact List.mem_singleton.mpr rfl
  have hconns := h.right.right.right.left
  have hlast := h.right.right.right.right 2 (by rw [hlate]; exact List.mem_singleton.mpr rfl)
  exact ⟨p, hrun, hmarked, (hconns _ _ _ hviewer).right hended,
    (hconns _ _ _ hagent).right hended, hlate, hlast.left⟩

end RemoteDesktop
end LeoOne
