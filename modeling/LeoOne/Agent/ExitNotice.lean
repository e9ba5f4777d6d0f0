import LeoOne.Agent.Executor

/-!
# Noticing the exit of the child

The loop of `_run_child` looks for the exit of the child only after `select` has
reported a pipe.  A child whose exit makes a pipe readable is noticed; one that leaves a
silent descendant with the write ends is not, and the call ends at the deadline.
-/

namespace LeoOne
namespace Agent

open Foundation

/-- The child has ended by itself before the deadline. -/
def ExecState.exitedInTime (s : ExecState) : Bool :=
  match s.child.state, s.deadline with
  | ProcLife.exited time, some deadline => time < deadline
  | _, _ => false

/-- After the exit of a child that ends in time, `select` returns with a pipe that holds
bytes or that nobody can write into any more, and the clock is read before the time that
is left is less than a millisecond. -/
def noticeable (s : ExecState) (e : ExecEvent) : Bool :=
  !s.exitedInTime ||
    match e, s.place with
    | ExecEvent.parent _, ParentPlace.clock =>
        match s.deadline with
        | none => true
        | some deadline => 0 < remainMs deadline s.now
    | ExecEvent.parent SelectChoice.returns, ParentPlace.select _ =>
        s.ready Stream.out || s.ready Stream.err
    | _, _ => true

/-- The parent has decided to report a timeout. -/
def ParentPlace.gaveUp : ParentPlace -> Bool
  | reap ret | done ret _ => ret = ExecError.timeout
  | _ => false

/-- A timeout is reported only for a child that was killed, or that has ended after the
deadline. -/
def NoticeLaw (s : ExecState) : Prop :=
  s.place.gaveUp = true ->
    s.child.state ≠ ProcLife.running ∧ s.exitedInTime = false

theorem setProc_place (s : ExecState) (who : Nat) (p : Proc) :
    (s.setProc who p).place = s.place := by
  cases who with
  | zero => rfl
  | succ who => rfl

/-- A process that runs is not a child that has ended. -/
theorem noticeLaw_proc {cap who : Nat} {s t : ExecState} (h : NoticeLaw s)
    (heffect : OpEffect cap who s t) : NoticeLaw t := by
  have hchild : forall p q, s.proc? who = some p -> p.state = ProcLife.running ->
      NoticeLaw (s.setProc who q) := by
    intro p q hget hrunning hgave
    rw [setProc_place] at hgave
    cases who with
    | zero =>
        cases hget
        exact absurd hrunning (h hgave).left
    | succ who => exact h hgave
  cases heffect with
  | ended hget hrunning => exact hchild _ _ hget hrunning
  | closed hget hrunning => exact hchild _ _ hget hrunning
  | skipped hget hrunning => exact hchild _ _ hget hrunning
  | wrote hget hrunning =>
      intro hgave
      exact hchild _ _ hget hrunning hgave

theorem noticeLaw_kill {s : ExecState} (h : s.exitedInTime = false) :
    NoticeLaw
      { s with child := s.child.kill, place := ParentPlace.reap ExecError.timeout } := by
  intro _
  unfold ExecState.exitedInTime at h ⊢
  unfold Proc.kill
  cases hstate : s.child.state with
  | running =>
      refine ⟨?_, rfl⟩
      intro hrunning
      cases hrunning
  | exited time =>
      rw [hstate] at h
      refine ⟨?_, ?_⟩
      · intro hrunning
        rw [show s.child.state = ProcLife.running from hrunning] at hstate
        cases hstate
      · simp only [hstate]
        exact h
  | killed =>
      refine ⟨?_, ?_⟩
      · intro hrunning
        rw [show s.child.state = ProcLife.running from hrunning] at hstate
        cases hstate
      · simp only [hstate]

theorem noticeLaw_parent {x : SelectChoice} {s t : ExecState}
    (hnotice : noticeable s (ExecEvent.parent x) = true) (h : NoticeLaw s)
    (heffect : ParentEffect x s t) : NoticeLaw t := by
  have hquiet : forall r : ExecState, r.place.gaveUp = false -> NoticeLaw r := by
    intro r hr hgave
    rw [hr] at hgave
    cases hgave
  cases heffect with
  | late hplace hdeadline hleft =>
      apply noticeLaw_kill
      cases hexited : s.exitedInTime with
      | false => rfl
      | true =>
          rename_i deadline
          have hpos : 0 < remainMs deadline s.now := by
            simpa [noticeable, hexited, hplace, hdeadline] using hnotice
          exact absurd hpos (Int.not_lt.mpr hleft)
  | idle hplace hx hready =>
      apply noticeLaw_kill
      cases hexited : s.exitedInTime with
      | false => rfl
      | true =>
          have hsome : (s.ready Stream.out || s.ready Stream.err) = true := by
            simpa [noticeable, hexited, hplace, hx] using hnotice
          rw [hready] at hsome
          cases hsome
  | reaped hplace hended =>
      intro hgave
      apply h
      rw [hplace]
      exact hgave
  | waits | interrupted | failed | selected | drainedOut | drainedErr | again | ended |
      lastOut | lastErr => exact hquiet _ rfl

theorem noticeLaw_preserved (cap : Nat) :
    (executor cap).Preserves (fun s e => noticeable s e = true) NoticeLaw := by
  intro s e t h hnotice hstep
  rcases (executor_step_cases hstep).right with
    ⟨nanos, rfl, rfl⟩ | ⟨who, count, rfl, heffect⟩ | ⟨x, rfl, heffect⟩
  · exact h
  · exact noticeLaw_proc h heffect
  · exact noticeLaw_parent hnotice h heffect

theorem noticeLaw_start (pipes forked : Bool) (timeoutSecs : Int) (now : Nat) (c : Command) :
    NoticeLaw (runChild pipes forked timeoutSecs now c) := by
  intro hgave
  have hnever : (runChild pipes forked timeoutSecs now c).place.gaveUp = false := by
    show (if pipes && forked then ParentPlace.clock
      else ParentPlace.done ExecError.system (-1)).gaveUp = false
    cases pipes && forked with
    | false => rfl
    | true => rfl
  rw [hnever] at hgave
  cases hgave

/-!
## Giving up
-/

theorem gaveUp_preserved (cap : Nat) :
    (executor cap).Preserves (fun _ _ => True) (fun s => s.place.gaveUp = true) := by
  intro s e t h _ hstep
  rcases (executor_step_cases hstep).right with
    ⟨nanos, rfl, rfl⟩ | ⟨who, count, rfl, heffect⟩ | ⟨x, rfl, heffect⟩
  · exact h
  · cases heffect with
    | ended | closed | skipped | wrote =>
        show (ExecState.setProc _ _ _).place.gaveUp = true
        rw [setProc_place]
        exact h
  · have hother : forall {place : ParentPlace}, s.place = place -> place.gaveUp = true := by
      intro place hplace
      rw [← hplace]
      exact h
    cases heffect with
    | reaped hplace =>
        have hret := hother hplace
        exact hret
    | late | idle => rfl
    | waits hplace | interrupted hplace | failed hplace | selected hplace | drainedOut hplace
    | drainedErr hplace | again hplace | ended hplace | lastOut hplace | lastErr hplace =>
        cases hother hplace

/-- A step at which the exit cannot be noticed gives up. -/
theorem gaveUp_of_not_noticeable {cap : Nat} {s t : ExecState} {e : ExecEvent}
    (hnot : ¬ noticeable s e = true) (hstep : (executor cap).step s e = some t) :
    t.place.gaveUp = true := by
  rcases (executor_step_cases hstep).right with
    ⟨nanos, rfl, rfl⟩ | ⟨who, count, rfl, heffect⟩ | ⟨x, rfl, heffect⟩
  · exact absurd (by simp [noticeable]) hnot
  · exact absurd (by simp [noticeable]) hnot
  · cases heffect with
    | late | idle => rfl
    | waits hplace hleft =>
        refine absurd ?_ hnot
        cases hdeadline : s.deadline with
        | none => simp [noticeable, hplace, hdeadline]
        | some deadline => simp [noticeable, hplace, hdeadline, hleft deadline hdeadline]
    | interrupted hplace hx => exact absurd (by simp [noticeable, hplace, hx]) hnot
    | failed hplace hx => exact absurd (by simp [noticeable, hplace, hx]) hnot
    | selected hplace hready =>
        refine absurd ?_ hnot
        cases x with
        | returns => simp only [noticeable, hplace, hready, Bool.or_true]
        | interrupted | fails => simp [noticeable, hplace]
    | drainedOut hplace | drainedErr hplace | again hplace | ended hplace | lastOut hplace
    | lastErr hplace | reaped hplace => exact absurd (by simp [noticeable, hplace]) hnot

namespace Sample

/-- A child that ends at once. -/
def shortCommand (others : List (List ProcOp)) : Command where
  child := []
  status := WaitStatus.exited 0
  others := others

/-- The child ends, and the parent goes once around its loop. -/
def onceAround : List ExecEvent :=
  ExecEvent.proc 0 0 :: List.replicate 7 (ExecEvent.parent SelectChoice.returns)

/-- The child ends, and the second that it was given passes in `select`. -/
def secondPasses : List ExecEvent :=
  [ExecEvent.proc 0 0, ExecEvent.parent SelectChoice.returns, ExecEvent.tick 1000000000,
    ExecEvent.parent SelectChoice.returns, ExecEvent.parent SelectChoice.returns]

end Sample

end Agent
end LeoOne
