import LeoOne.RemoteDesktop.SessionEnds

/-!
# The pair timeout

`waitPairTimeout` looks at the session in one section under the lock and ends it
in another one.  A session that is ended for want of a pair may have found it in
between.
-/

namespace LeoOne
namespace RemoteDesktop

open Foundation
open Backend

/-- The task ends the session for want of a pair. -/
def timesOut (ref : SessionRef) : RelayTask -> Bool
  | RelayTask.finish r reason => r = ref && reason = "pair_timeout"
  | _ => false

/-- An attachment completes the pair of a session only while no goroutine has
decided to end the session for want of a pair. -/
def pairsInTime (p : RelayPool) (k : RelayTask) (_ : Unit) : Bool :=
  match k with
  | RelayTask.attach side id _ _ =>
      match p.shared.relay.sessions id with
      | none => true
      | some ref =>
          p.shared.relay.endedSessions id ||
            !p.shared.relay.has (fun ls => ls.conn side.other && !ls.conn side) ref ||
            !p.anyPending (timesOut ref)
  | _ => true

/-- Whoever is about to end a session for want of a pair is right, or comes too
late to end it. -/
structure TimeoutLaw (p : RelayPool) : Prop where
  sound : p.shared.relay.Sound
  waiting : forall ref, p.anyPending (timesOut ref) = true ->
    p.shared.relay.has (fun ls => !ls.ready || ls.once) ref = true
  callers : forall id reason, p.Pending (RelayTask.endSession id reason) ->
    reason ≠ "pair_timeout"
  ended : forall ref paired,
    (ref, "pair_timeout", paired) ∈ p.shared.log.ended -> paired = false

/-- The decision to end a session for want of a pair is made by the goroutine
that waits for the pair. -/
theorem Acts.timesOut {s t : RelayState} {k : RelayTask} {made : List RelayTask}
    (hacts : Acts s k t made)
    (hcaller : forall id reason, k = RelayTask.endSession id reason ->
      reason ≠ "pair_timeout")
    {j : RelayTask} (hj : j ∈ made) {ref : SessionRef} (hf : timesOut ref j = true) :
    t = s ∧ s.relay.has (fun ls => !ls.ready) ref = true := by
  cases hacts with
  | pairTimeout hwaits =>
      rename_i ref0
      rw [List.mem_singleton] at hj
      subst hj
      have href := of_decide_eq_true (Bool.and_eq_true_iff.mp hf).left
      subst href
      refine ⟨rfl, ?_⟩
      unfold Relay.stillWaiting at hwaits
      split at hwaits
      · cases hwaits
      · rename_i ls hget
        rw [Relay.has_of_get hget]
        exact (Bool.and_eq_true_iff.mp hwaits).right
  | endSession =>
      rename_i id reason ref0
      rw [List.mem_singleton] at hj
      subst hj
      have hreason := of_decide_eq_true (Bool.and_eq_true_iff.mp hf).right
      exact absurd hreason (hcaller id reason rfl)
  | endSessionsForAgent =>
      rcases List.mem_map.mp hj with ⟨ref0, _, rfl⟩
      simp [RemoteDesktop.timesOut] at hf
  | joined _ _ _ _ =>
      split at hj
      · rw [List.mem_singleton] at hj
        subst hj
        cases hf
      · cases hj
  | registered _ =>
      rw [List.mem_singleton] at hj
      subst hj
      cases hf
  | refused _ =>
      rw [List.mem_singleton] at hj
      subst hj
      cases hf
  | duplicate _ =>
      rw [List.mem_singleton] at hj
      subst hj
      cases hf
  | created _ _ =>
      rw [List.mem_singleton] at hj
      subst hj
      cases hf
  | pump =>
      simp only [List.mem_cons, List.not_mem_nil, or_false] at hj
      rcases hj with rfl | rfl | rfl <;> cases hf
  | awaitDone =>
      rw [List.mem_singleton] at hj
      subst hj
      simp [RemoteDesktop.timesOut] at hf
  | finish _ =>
      simp only [List.mem_cons, List.not_mem_nil, or_false] at hj
      rcases hj with rfl | rfl <;> cases hf
  | closeAgent =>
      rw [List.mem_singleton] at hj
      subst hj
      cases hf
  | closeViewer =>
      rw [List.mem_singleton] at hj
      subst hj
      cases hf
  | _ =>
      cases hj

/-- Whether a session still waits, or has been ended, changes only by an
attachment that completes its pair. -/
theorem Acts.stillRight {s t : RelayState} {k : RelayTask} {made : List RelayTask}
    (hacts : Acts s k t made) {ref : SessionRef}
    (h : s.relay.has (fun ls => !ls.ready || ls.once) ref = true) :
    t.relay.has (fun ls => !ls.ready || ls.once) ref = true ∨
      exists side id a mode, k = RelayTask.attach side id a mode ∧
        s.relay.endedSessions id = false ∧ s.relay.sessions id = some ref ∧
        s.relay.has (fun ls => ls.conn side.other && !ls.conn side) ref = true := by
  cases hacts with
  | registered _ =>
      left
      rw [Relay.has_allocate]
      split
      · rfl
      · exact h
  | joined htomb hreg hget hconn =>
      rename_i side id a mode ref0 ls
      by_cases href : ref = ref0
      · subst href
        cases hready : (ls.attachConn side).ready with
        | false =>
            left
            show Relay.has
              { s.relay with heap := s.relay.heap.set ref (ls.attachConn side) } _ ref = true
            rw [Relay.has_set hget rfl, if_pos rfl, hready]
            rfl
        | true =>
            right
            refine ⟨side, id, a, mode, rfl, htomb, hreg, ?_⟩
            have hother := (LiveSession.ready_iff _).mp hready side.other
            rw [Relay.has_of_get hget, hconn]
            cases side <;> simpa [Side.other] using hother
      · left
        show Relay.has
          { s.relay with heap := s.relay.heap.set ref0 (ls.attachConn side) } _ ref = true
        rw [Relay.has_set hget rfl, if_neg href]
        exact h
  | created htomb hnone =>
      rename_i side id a mode
      left
      show ((s.relay.allocate
        ((LiveSession.start id a mode).attachConn side)).1).has _ ref = true
      rw [Relay.has_allocate]
      split
      · cases side <;> rfl
      · exact h
  | finish hfin =>
      rename_i ref0 reason r ls
      left
      rcases Relay.finish_some hfin with ⟨hget, _, hheap, _, _⟩
      show r.has _ ref = true
      rw [Relay.has_set hget hheap]
      split
      · simp
      · exact h
  | closeAgent =>
      rw [close_relay]
      exact Or.inl h
  | closeViewer =>
      rw [close_relay]
      exact Or.inl h
  | _ =>
      exact Or.inl h

theorem Acts.endSession_made {s t : RelayState} {k : RelayTask} {made : List RelayTask}
    (hacts : Acts s k t made) {id : Uuid} {reason : String} :
    RelayTask.endSession id reason ∉ made := by
  intro hmem
  cases hacts with
  | joined _ _ _ _ =>
      split at hmem <;> simp at hmem
  | endSessionsForAgent =>
      simp at hmem
  | _ =>
      simp at hmem

/-- Ends that are recorded for want of a pair come from the pending decision. -/
theorem Acts.ended {s t : RelayState} {k : RelayTask} {made : List RelayTask}
    (hacts : Acts s k t made) :
    t.log.ended = s.log.ended ∨
      exists ref reason r ls, k = RelayTask.finish ref reason ∧
        s.relay.finish ref = some (r, ls) ∧
        t.log.ended = s.log.ended ++ [(ref, reason, ls.ready)] := by
  cases hacts with
  | finish hfin =>
      exact Or.inr ⟨_, _, _, _, rfl, hfin, rfl⟩
  | closeAgent =>
      rw [close_log]
      exact Or.inl rfl
  | closeViewer =>
      rw [close_log]
      exact Or.inl rfl
  | _ =>
      exact Or.inl rfl

theorem TimeoutLaw.step {p p' : RelayPool} {k : RelayTask}
    {o : Outcome RelayState RelayTask} (h : TimeoutLaw p)
    (hguard : pairsInTime p k () = true) (hacts : Acts p.shared k o.shared o.created)
    (hexec : Pool.Executed p p' k o) : TimeoutLaw p' := by
  constructor
  · rw [hexec.shared]
    exact Acts.sound h.sound hacts
  · intro ref hany
    rw [hexec.shared]
    rcases Pool.pending_of_anyPending hany with ⟨j, hj, hf⟩
    rcases hexec.pending hj with hnew | hold
    · have hcaller : forall id reason, k = RelayTask.endSession id reason ->
          reason ≠ "pair_timeout" := by
        intro id reason hk
        apply h.callers id reason
        rw [← hk]
        exact hexec.running
      rcases hacts.timesOut hcaller hnew hf with ⟨hsame, hwaits⟩
      rw [hsame]
      unfold Relay.has at hwaits ⊢
      cases hget : p.shared.relay.heap[ref]? with
      | none =>
          rw [hget] at hwaits
          cases hwaits
      | some ls =>
          rw [hget] at hwaits
          exact Bool.or_eq_true_iff.mpr (Or.inl hwaits)
    · have hpending := Pool.anyPending_of_pending hold hf
      rcases hacts.stillRight (h.waiting ref hpending) with
        hright | ⟨side, id, a, mode, rfl, htomb, hreg, hcompletes⟩
      · exact hright
      · -- the attachment would complete the pair too late
        simp only [pairsInTime, hreg, htomb, hcompletes, hpending, Bool.not_true,
          Bool.or_self] at hguard
        cases hguard
  · intro id reason hj
    rcases hexec.pending hj with hnew | hold
    · exact absurd hnew hacts.endSession_made
    · exact h.callers id reason hold
  · intro ref paired hmem
    rw [hexec.shared] at hmem
    rcases hacts.ended with hsame | ⟨ref0, reason, r, ls, rfl, hfin, hlog⟩
    · rw [hsame] at hmem
      exact h.ended ref paired hmem
    · rw [hlog] at hmem
      rcases List.mem_append.mp hmem with hold | hnew
      · exact h.ended ref paired hold
      · rw [List.mem_singleton] at hnew
        cases hnew
        rcases Relay.finish_some hfin with ⟨hget, honce, _, _, _⟩
        have hself : timesOut ref (RelayTask.finish ref "pair_timeout") = true := by
          simp [timesOut]
        have hwaits := h.waiting ref (Pool.anyPending_of_pending hexec.running hself)
        rw [Relay.has_of_get hget, honce, Bool.or_false] at hwaits
        simpa using hwaits

theorem timeoutLaw_preserved :
    relayMachine.Preserves (fun p e => Pool.guarded pairsInTime p e = true)
      TimeoutLaw := by
  apply Pool.preserves
  · intro p p' r h hstarts
    constructor
    · rw [hstarts.shared]
      exact h.sound
    · intro ref hany
      rw [hstarts.shared]
      rcases Pool.pending_of_anyPending hany with ⟨j, hj, hf⟩
      rcases hstarts.pending hj with hnew | hold
      · cases r <;>
          · rw [relayEntry, List.mem_singleton] at hnew
            subst hnew
            cases hf
      · exact h.waiting ref (Pool.anyPending_of_pending hold hf)
    · intro id reason hj
      rcases hstarts.pending hj with hnew | hold
      · cases r <;> simp only [relayEntry, List.mem_singleton, reduceCtorEq] at hnew
        · cases hnew
          decide
        · cases hnew
          decide
      · exact h.callers id reason hold
    · rw [hstarts.shared]
      exact h.ended
  · intro p p' x k o h hguard hperform hexec
    exact h.step hguard (acts_of_perform h.sound hperform) hexec

theorem timeoutLaw_start : TimeoutLaw relayStart := by
  constructor
  · exact Relay.new_sound
  · intro ref hany
    cases hany
  · rintro id reason ⟨q, hq, _⟩
    cases hq
  · intro ref paired hmem
    cases hmem

/-- As long as no attachment completes a pair while a goroutine has decided to
end the session, a session ended for want of a pair has none. -/
theorem pair_timeout_spares_pairs {es : List RelayEvent} {p : RelayPool}
    (hrun : relayMachine.run relayStart es = some p)
    (hmeets : relayMachine.Meets
      (fun p e => Pool.guarded pairsInTime p e = true) relayStart es) :
    forall ref paired, (ref, "pair_timeout", paired) ∈ p.shared.log.ended ->
      paired = false := by
  have h := timeoutLaw_preserved.run timeoutLaw_start hmeets hrun
  exact h.ended

namespace Scenario

/-- A session whose agent never comes. -/
def unpaired : List RelayEvent :=
  [PoolEvent.start (RelayRequest.register session "agent" SessionMode.control),
    go 0, attach Side.viewer, go 2, go 1, go 1]

/-- The agent comes after the goroutine that waits, goroutine 1, has looked. -/
def pairedAtTheDeadline : List RelayEvent :=
  [PoolEvent.start (RelayRequest.register session "agent" SessionMode.control),
    go 0, attach Side.viewer, go 2, go 1, attach Side.agent, go 3, go 1]

end Scenario

theorem pair_timeout_spares_pairs_unpaired :
    exists p paired, relayMachine.run relayStart Scenario.unpaired = some p ∧
      p.shared.log.ended = [(0, "pair_timeout", paired)] ∧ paired = false := by
  obtain ⟨p, paired, hrun, hended⟩ : exists p paired,
      relayMachine.run relayStart Scenario.unpaired = some p ∧
        p.shared.log.ended = [(0, "pair_timeout", paired)] :=
    ⟨_, _, rfl, rfl⟩
  refine ⟨p, paired, hrun, hended, ?_⟩
  apply pair_timeout_spares_pairs hrun (by decide) 0
  rw [hended]
  exact List.mem_singleton.mpr rfl

/-- A session with both sides attached is ended for want of a pair. -/
theorem pair_timeout_ends_a_pair :
    exists p, relayMachine.run relayStart Scenario.pairedAtTheDeadline = some p ∧
      p.shared.log.ended = [(0, "pair_timeout", true)] :=
  ⟨_, rfl, rfl⟩

end RemoteDesktop
end LeoOne
