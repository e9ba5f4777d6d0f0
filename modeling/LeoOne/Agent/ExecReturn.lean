import LeoOne.Foundation.Progress
import LeoOne.Agent.ExecOutput

/-!
# Return of `_run_child`

A call whose child ends in time, if its output is consumed, returns: while the child
runs, some process can take a step, after the parent has made room for it; and once the
child has ended, the parent comes to the end of its loop by itself.  This needs what the
child writes to fit into the buffers and the pipes, and it fails as soon as it does not.
-/

namespace LeoOne
namespace Agent

open Foundation

/-- Whatever a run has come to, the call can still return, and however it returns, the
result is right. -/
def OutputHarmless (cap : Nat) (timeoutSecs : Int) (now : Nat) (c : Command) : Prop :=
  forall es s,
    (executor cap).Meets (fun s e => timely cap s e = true)
        (runChild true true timeoutSecs now c) es ->
    (executor cap).run (runChild true true timeoutSecs now c) es = some s ->
    (s.place.isDone = true -> s.Right c) ∧
      exists t, (executor cap).Reaches (fun s e => timely cap s e = true) s t ∧ t.Right c

section Fits

variable {cap : Nat} {c : Command}

/-!
## After the child has ended
-/

/-- The steps of the parent from a place until it has returned, when the child has
ended. -/
def ParentPlace.toGo : ParentPlace -> Nat
  | clock => 8
  | select _ => 7
  | drainOut _ _ => 6
  | drainErr _ => 5
  | wait => 4
  | lastOut => 3
  | lastErr => 2
  | reap _ => 1
  | done _ _ => 0

/-- A step of the parent is a step of the call. -/
theorem executor_parent {s t : ExecState} {x : SelectChoice} (hdone : s.place.isDone = false)
    (h : parentStep x s = some t) : (executor cap).step s (ExecEvent.parent x) = some t := by
  simp only [executor, hdone]
  exact h

/-- The parent reads the clock and goes into `select`. -/
theorem parentStep_clock {s : ExecState} (hplace : s.place = ParentPlace.clock)
    (htime : s.hasTime = true) :
    exists limit, parentStep SelectChoice.returns s =
      some { s with place := ParentPlace.select limit } := by
  unfold parentStep
  simp only [hplace]
  cases hdeadline : s.deadline with
  | none => exact ⟨none, rfl⟩
  | some deadline =>
      have hleft : ¬ remainMs deadline s.now ≤ 0 := by
        apply Int.not_le.mpr
        simpa [ExecState.hasTime, hdeadline] using htime
      simp only [if_neg hleft]
      exact ⟨_, rfl⟩

theorem parentStep_select {s : ExecState} {limit : Option Nat}
    (hplace : s.place = ParentPlace.select limit)
    (hready : (s.ready Stream.out || s.ready Stream.err) = true) :
    parentStep SelectChoice.returns s =
      some { s with
        place := ParentPlace.drainOut (s.ready Stream.out) (s.ready Stream.err) } := by
  unfold parentStep
  simp only [hplace]
  rw [if_pos hready]

theorem parentStep_drainOut {s : ExecState} {outReady errReady : Bool}
    (hplace : s.place = ParentPlace.drainOut outReady errReady) :
    parentStep SelectChoice.returns s =
      some { (if outReady then s.drainFd Stream.out else s) with
        place := ParentPlace.drainErr errReady } := by
  simp only [parentStep, hplace]

theorem parentStep_drainErr {s : ExecState} {errReady : Bool}
    (hplace : s.place = ParentPlace.drainErr errReady) :
    parentStep SelectChoice.returns s =
      some { (if errReady then s.drainFd Stream.err else s) with
        place := ParentPlace.wait } := by
  simp only [parentStep, hplace]

theorem parentStep_again {s : ExecState} (hplace : s.place = ParentPlace.wait)
    (hrunning : s.child.state = ProcLife.running) :
    parentStep SelectChoice.returns s = some { s with place := ParentPlace.clock } := by
  simp only [parentStep, hplace, if_pos hrunning]

theorem parentStep_last {s : ExecState} (hplace : s.place = ParentPlace.wait)
    (hended : s.child.state ≠ ProcLife.running) :
    parentStep SelectChoice.returns s = some { s with place := ParentPlace.lastOut } := by
  simp only [parentStep, hplace, if_neg hended]

theorem parentStep_lastOut {s : ExecState} (hplace : s.place = ParentPlace.lastOut) :
    parentStep SelectChoice.returns s =
      some { s.drainFd Stream.out with place := ParentPlace.lastErr } := by
  simp only [parentStep, hplace]

theorem parentStep_lastErr {s : ExecState} (hplace : s.place = ParentPlace.lastErr) :
    parentStep SelectChoice.returns s =
      some { s.drainFd Stream.err with
        place := ParentPlace.done ExecError.ok s.child.status.exitCode } := by
  simp only [parentStep, hplace]

/-- In a place where the parent is not in `select`, its step is timely while there is
time. -/
theorem timely_parent {s : ExecState} (htime : s.hasTime = true)
    (hready : forall limit, s.place = ParentPlace.select limit ->
      (s.ready Stream.out || s.ready Stream.err) = true) :
    timely cap s (ExecEvent.parent SelectChoice.returns) = true := by
  simp only [timely]
  split
  · rw [htime]
    rfl
  · rename_i limit hplace
    rw [hready limit hplace]
    rfl
  · rfl

/-- A child that has ended leaves pipes that are readable. -/
theorem ready_of_ended {s : ExecState} (h : OutputLaw cap c s)
    (hended : s.child.state ≠ ProcLife.running) (e : Stream) : s.ready e = true := by
  have hall : s.procs.all (fun p => !p.holds e) = true := by
    apply List.all_eq_true.mpr
    intro p hp
    rw [h.alone hended p hp e]
    rfl
  rw [ExecState.ready, hall, Bool.or_true]

/-- Each step of the parent brings it closer to its end. -/
theorem parentStep_ended {s : ExecState} (h : OutputLaw cap c s)
    (hended : s.child.state ≠ ProcLife.running) (hdone : s.place.isDone = false) :
    exists t, parentStep SelectChoice.returns s = some t ∧ t.child = s.child ∧
      t.place.toGo < s.place.toGo := by
  have hplace := h.place
  unfold ExecState.AtPlace at hplace
  cases hwhere : s.place with
  | clock =>
      rcases parentStep_clock hwhere h.time with ⟨limit, hstep⟩
      exact ⟨_, hstep, rfl, Nat.lt_succ_self 7⟩
  | select limit =>
      have hready : (s.ready Stream.out || s.ready Stream.err) = true := by
        rw [ready_of_ended h hended Stream.out]
        rfl
      exact ⟨_, parentStep_select hwhere hready, rfl, Nat.lt_succ_self 6⟩
  | drainOut outReady errReady =>
      refine ⟨_, parentStep_drainOut hwhere, ?_, Nat.lt_succ_self 5⟩
      exact (drains_read s Stream.out outReady (ParentPlace.drainErr errReady)).child
  | drainErr errReady =>
      refine ⟨_, parentStep_drainErr hwhere, ?_, Nat.lt_succ_self 4⟩
      exact (drains_read s Stream.err errReady ParentPlace.wait).child
  | wait => exact ⟨_, parentStep_last hwhere hended, rfl, Nat.lt_succ_self 3⟩
  | lastOut =>
      refine ⟨_, parentStep_lastOut hwhere, ?_, Nat.lt_succ_self 2⟩
      exact (drains_drainFd s Stream.out).child
  | lastErr =>
      refine ⟨_, parentStep_lastErr hwhere, ?_, Nat.zero_lt_two⟩
      exact (drains_drainFd s Stream.err).child
  | reap ret =>
      rw [hwhere] at hplace
      exact hplace.elim
  | done ret exitCode =>
      rw [hwhere] at hdone
      cases hdone

/-- Once the child has ended, the parent comes to its end by itself. -/
theorem returns_of_ended (hfits : forall e, c.volume e ≤ e.bufMax - 1 + cap) {s : ExecState}
    (h : OutputLaw cap c s) (hended : s.child.state ≠ ProcLife.running) :
    exists t, (executor cap).Reaches (fun s e => timely cap s e = true) s t ∧ t.Right c := by
  have hcloser : forall r, OutputLaw cap c r ∧ r.child.state ≠ ProcLife.running ->
      ¬ r.place.isDone = true ->
      exists t, (executor cap).Reaches (fun s e => timely cap s e = true) r t ∧
        (OutputLaw cap c t ∧ t.child.state ≠ ProcLife.running) ∧
        t.place.toGo < r.place.toGo := by
    rintro r ⟨hr, hrended⟩ hnot
    have hdone : r.place.isDone = false := Bool.eq_false_iff.mpr hnot
    rcases parentStep_ended hr hrended hdone with ⟨t, hstep, hchild, hless⟩
    have hready : forall limit, r.place = ParentPlace.select limit ->
        (r.ready Stream.out || r.ready Stream.err) = true := by
      intro limit _
      rw [ready_of_ended hr hrended Stream.out]
      rfl
    have htimely : timely cap r (ExecEvent.parent SelectChoice.returns) = true :=
      timely_parent hr.time hready
    have htaken : (executor cap).step r (ExecEvent.parent SelectChoice.returns) = some t :=
      executor_parent hdone hstep
    refine ⟨t, Machine.Reaches.step htimely htaken (Machine.Reaches.refl t), ⟨?_, ?_⟩, hless⟩
    · exact outputLaw_preserved hfits r _ t hr htimely htaken
    · rw [hchild]
      exact hrended
  rcases Machine.reaches_of_rank (fun r : ExecState => r.place.toGo) hcloser ⟨h, hended⟩ with
    ⟨t, hreach, ⟨hlaw, _⟩, hdone⟩
  exact ⟨t, hreach, right_of_done hlaw hdone⟩

/-!
## Making room
-/

/-- The steps of the parent from a place until it reads the stream, when the stream is
readable. -/
def ParentPlace.toRead : Stream -> ParentPlace -> Nat
  | Stream.out, drainOut outReady _ => if outReady then 0 else 5
  | Stream.out, select _ => 1
  | Stream.out, clock => 2
  | Stream.out, wait => 3
  | Stream.out, drainErr _ => 4
  | Stream.err, drainErr errReady => if errReady then 0 else 5
  | Stream.err, drainOut _ errReady => if errReady then 1 else 6
  | Stream.err, select _ => 2
  | Stream.err, clock => 3
  | Stream.err, wait => 4
  | _, _ => 0

theorem ready_of_some {s : ExecState} {e : Stream} (h : 0 < (s.pipe e).length) :
    s.ready e = true := by
  have hne : (s.pipe e).isEmpty = false := by
    cases hpipe : s.pipe e with
    | nil =>
        rw [hpipe] at h
        cases h
    | cons b rest => rfl
  rw [ExecState.ready, hne]
  rfl

/-- While the child runs and a stream is readable, each step of the parent reads from it
or brings the parent closer to reading from it. -/
theorem parentStep_reads {s : ExecState} {e : Stream} (h : OutputLaw cap c s)
    (hrunning : s.child.state = ProcLife.running) (hsome : 0 < (s.pipe e).length)
    (hroom : (s.buf e).length < e.bufMax - 1) :
    s.place.isDone = false ∧
    exists t, parentStep SelectChoice.returns s = some t ∧ t.child = s.child ∧
      t.others = s.others ∧
      ((t.pipe e).length < (s.pipe e).length ∨ t.place.toRead e < s.place.toRead e) := by
  have hplace := h.place
  unfold ExecState.AtPlace at hplace
  have hready := ready_of_some hsome
  have hreads := drainFd_reads hroom hsome
  cases hwhere : s.place with
  | clock =>
      rcases parentStep_clock hwhere h.time with ⟨limit, hstep⟩
      refine ⟨rfl, _, hstep, rfl, rfl, Or.inr ?_⟩
      cases e with
      | out => exact Nat.lt_succ_self 1
      | err => exact Nat.lt_succ_self 2
  | select limit =>
      have hany : (s.ready Stream.out || s.ready Stream.err) = true := by
        cases e with
        | out => rw [hready, Bool.true_or]
        | err => rw [hready, Bool.or_true]
      refine ⟨rfl, _, parentStep_select hwhere hany, rfl, rfl, Or.inr ?_⟩
      cases e with
      | out =>
          show (if s.ready Stream.out then 0 else 5) < 1
          rw [hready]
          exact Nat.zero_lt_one
      | err =>
          show (if s.ready Stream.err then 1 else 6) < 2
          rw [hready]
          exact Nat.lt_succ_self 1
  | drainOut outReady errReady =>
      have hd := drains_read s Stream.out outReady (ParentPlace.drainErr errReady)
      refine ⟨rfl, _, parentStep_drainOut hwhere, hd.child, hd.others, ?_⟩
      cases e with
      | out =>
          cases outReady with
          | false => exact Or.inr (Nat.lt_succ_self 4)
          | true => exact Or.inl hreads
      | err =>
          cases errReady with
          | false => exact Or.inr (Nat.lt_succ_self 5)
          | true => exact Or.inr (Nat.lt_succ_self 0)
  | drainErr errReady =>
      have hd := drains_read s Stream.err errReady ParentPlace.wait
      refine ⟨rfl, _, parentStep_drainErr hwhere, hd.child, hd.others, ?_⟩
      cases e with
      | out => exact Or.inr (Nat.lt_succ_self 3)
      | err =>
          cases errReady with
          | false => exact Or.inr (Nat.lt_succ_self 4)
          | true => exact Or.inl hreads
  | wait =>
      refine ⟨rfl, _, parentStep_again hwhere hrunning, rfl, rfl, Or.inr ?_⟩
      cases e with
      | out => exact Nat.lt_succ_self 2
      | err => exact Nat.lt_succ_self 3
  | lastOut =>
      rw [hwhere] at hplace
      exact absurd hrunning hplace
  | lastErr =>
      rw [hwhere] at hplace
      exact absurd hrunning hplace.left
  | reap ret =>
      rw [hwhere] at hplace
      exact hplace.elim
  | done ret exitCode =>
      rw [hwhere] at hplace
      exact absurd hrunning hplace.right.right.left

/-- The parent makes room for a process that waits to write. -/
theorem makes_room (hcap : 0 < cap) (hfits : forall e, c.volume e ≤ e.bufMax - 1 + cap)
    {s : ExecState} {e : Stream} {p : Proc} (h : OutputLaw cap c s)
    (hrunning : s.child.state = ProcLife.running) (hp : p ∈ s.procs)
    (hwrites : p.writes e = true) :
    exists t, (executor cap).Reaches (fun s e => timely cap s e = true) s t ∧
      OutputLaw cap c t ∧ t.child = s.child ∧ t.others = s.others ∧
      (t.pipe e).length < cap := by
  have hcloser : forall r,
      OutputLaw cap c r ∧ r.child = s.child ∧ r.others = s.others ->
      ¬ (r.pipe e).length < cap ->
      exists t, (executor cap).Reaches (fun s e => timely cap s e = true) r t ∧
        (OutputLaw cap c t ∧ t.child = s.child ∧ t.others = s.others) ∧
        (if (t.pipe e).length < cap then 0 else t.place.toRead e + 1) <
          (if (r.pipe e).length < cap then 0 else r.place.toRead e + 1) := by
    rintro r ⟨hr, hchild, hothers⟩ hfull
    have hmem : p ∈ r.procs := by
      rw [ExecState.procs, hchild, hothers]
      exact hp
    have hroom : (r.buf e).length < e.bufMax - 1 := by
      have hsum := hr.volume e
      have hpos := remaining_pos hmem hwrites
      have hmax := hfits e
      rw [hr.pipes.kept e, List.length_append] at hsum
      omega
    have hsome : 0 < (r.pipe e).length := by
      omega
    rcases parentStep_reads hr (hchild ▸ hrunning) hsome hroom with
      ⟨hdone, t, hstep, htchild, htothers, hprogress⟩
    have htimely : timely cap r (ExecEvent.parent SelectChoice.returns) = true := by
      apply timely_parent hr.time
      intro limit _
      have hready := ready_of_some hsome
      cases e with
      | out => rw [hready, Bool.true_or]
      | err => rw [hready, Bool.or_true]
    have htaken : (executor cap).step r (ExecEvent.parent SelectChoice.returns) = some t :=
      executor_parent hdone hstep
    refine ⟨t, Machine.Reaches.step htimely htaken (Machine.Reaches.refl t),
      ⟨outputLaw_preserved hfits r _ t hr htimely htaken, htchild.trans hchild,
        htothers.trans hothers⟩, ?_⟩
    rw [if_neg hfull]
    have hle := hr.pipes.pipeLe e
    split
    · exact Nat.succ_pos _
    · rcases hprogress with hread | hnear
      · omega
      · omega
  rcases Machine.reaches_of_rank
      (fun r : ExecState => if (r.pipe e).length < cap then 0 else r.place.toRead e + 1)
      hcloser ⟨h, rfl, rfl⟩ with ⟨t, hreach, ⟨hlaw, hchild, hothers⟩, hroom⟩
  exact ⟨t, hreach, hlaw, hchild, hothers, hroom⟩

/-!
## While the child runs
-/

/-- What a process has still to do. -/
def Proc.work (p : Proc) : Nat :=
  if p.state = ProcLife.running then
    1 + (p.ops.map fun op =>
      match op with
      | ProcOp.write _ bytes => bytes.length + 1
      | ProcOp.close _ => 1).sum
  else 0

def ExecState.work (s : ExecState) : Nat :=
  (s.procs.map Proc.work).sum

/-- Each step of a process leaves it less to do. -/
theorem opEffect_work {who : Nat} {s t : ExecState} (h : OpEffect cap who s t) :
    t.work < s.work := by
  have hset : forall p q, s.proc? who = some p -> q.work < p.work ->
      ((s.setProc who q).procs.map Proc.work).sum < s.work := by
    intro p q hget hless
    have hsum := sum_setProc Proc.work hget q
    unfold ExecState.work
    omega
  cases h with
  | ended hget hrunning hops =>
      refine hset _ _ hget ?_
      simp [Proc.work, hrunning]
  | closed hget hrunning hops =>
      refine hset _ _ hget ?_
      simp [Proc.work, hrunning, hops]
  | skipped hget hrunning hops =>
      refine hset _ _ hget ?_
      simp only [Proc.work, hrunning, hops, if_true, List.map_cons, List.sum_cons]
      omega
  | wrote hget hrunning hops hholds hpos hle =>
      refine hset _ _ hget ?_
      simp only [Proc.work, hrunning, hops, if_true, List.map_cons, List.sum_cons,
        List.length_drop]
      omega

/-- A process that runs can take a step, unless it waits for room in a pipe. -/
theorem procStep_enabled {who : Nat} {s : ExecState} {p : Proc}
    (hget : s.proc? who = some p) (hrunning : p.state = ProcLife.running)
    (hroom : forall e, p.writes e = true -> (s.pipe e).length < cap) :
    exists count t, procStep cap who count s = some t := by
  cases hops : p.ops with
  | nil =>
      refine ⟨0, Option.isSome_iff_exists.mp ?_⟩
      simp [procStep, hget, hrunning, hops]
  | cons op ops =>
      cases op with
      | close e =>
          refine ⟨0, Option.isSome_iff_exists.mp ?_⟩
          simp [procStep, hget, hrunning, hops]
      | write e bytes =>
          by_cases hskip : bytes = [] ∨ p.holds e = false
          · refine ⟨0, Option.isSome_iff_exists.mp ?_⟩
            simp [procStep, hget, hrunning, hops, if_pos hskip]
          · rcases not_or.mp hskip with ⟨hbytes, hholds⟩
            have hheld : p.holds e = true := by
              simpa using hholds
            have hwrites : p.writes e = true := by
              simp [Proc.writes, hrunning, hops, hbytes, hheld]
            have hless := hroom e hwrites
            have hlen := List.length_pos_iff.mpr hbytes
            -- as much as the pipe has room for
            have hcount : 0 < min bytes.length (cap - (s.pipe e).length) ∧
                min bytes.length (cap - (s.pipe e).length) ≤ bytes.length ∧
                (s.pipe e).length + min bytes.length (cap - (s.pipe e).length) ≤ cap := by
              omega
            refine ⟨min bytes.length (cap - (s.pipe e).length),
              Option.isSome_iff_exists.mp ?_⟩
            simp only [procStep, hget, hrunning, hops, ne_eq, not_true, if_false,
              if_neg hskip, if_pos hcount, Option.isSome_some]

theorem writes_unique {p : Proc} {e i : Stream} (he : p.writes e = true)
    (hi : p.writes i = true) : i = e := by
  unfold Proc.writes at he hi
  split at he
  · rename_i stream bytes ops hops
    rw [hops] at hi
    simp only [Bool.and_eq_true, decide_eq_true_eq] at he hi
    exact hi.right.left.symm.trans he.right.left
  · simp at he

/-- Some process runs whose next step is timely: the child ends as the last. -/
theorem runner {s : ExecState} (h : OutputLaw cap c s)
    (hrunning : s.child.state = ProcLife.running) :
    exists who p, s.proc? who = some p ∧ p.state = ProcLife.running ∧
      forall count r, r.child = s.child -> r.others = s.others ->
        timely cap r (ExecEvent.proc who count) = true := by
  by_cases hother : exists (n : Nat) (p : Proc), s.others[n]? = some p ∧
      p.state = ProcLife.running
  · rcases hother with ⟨n, p, hget, hp⟩
    refine ⟨n + 1, p, hget, hp, ?_⟩
    intro count r _ _
    rfl
  · refine ⟨0, s.child, rfl, hrunning, ?_⟩
    intro count r _ hothers
    have hall : r.others.all (fun p => !p.holds Stream.out && !p.holds Stream.err) = true := by
      apply List.all_eq_true.mpr
      intro p hp
      rw [hothers] at hp
      have hended : p.state ≠ ProcLife.running := by
        intro hp'
        rcases List.mem_iff_getElem?.mp hp with ⟨n, hget⟩
        exact hother ⟨n, p, hget, hp'⟩
      have hnone := h.closed p (List.mem_cons_of_mem _ hp) hended
      rw [hnone Stream.out, hnone Stream.err]
      rfl
    simp only [timely, hall, Bool.or_true]

theorem isDone_of_running {s : ExecState} (h : OutputLaw cap c s)
    (hrunning : s.child.state = ProcLife.running) : s.place.isDone = false := by
  have hplace := h.place
  unfold ExecState.AtPlace at hplace
  cases hwhere : s.place with
  | done ret exitCode =>
      rw [hwhere] at hplace
      exact absurd hrunning hplace.right.right.left
  | clock | select _ | drainOut _ _ | drainErr _ | wait | lastOut | lastErr | reap _ => rfl

/-- While the child runs, the work that is left can be made less. -/
theorem advances (hcap : 0 < cap) (hfits : forall e, c.volume e ≤ e.bufMax - 1 + cap)
    {s : ExecState} (h : OutputLaw cap c s) (hrunning : s.child.state = ProcLife.running) :
    exists t, (executor cap).Reaches (fun s e => timely cap s e = true) s t ∧
      OutputLaw cap c t ∧ t.work < s.work := by
  rcases runner h hrunning with ⟨who, p, hget, hp, htimely⟩
  have hroom : exists r, (executor cap).Reaches (fun s e => timely cap s e = true) s r ∧
      OutputLaw cap c r ∧ r.child = s.child ∧ r.others = s.others ∧
      forall e, p.writes e = true -> (r.pipe e).length < cap := by
    by_cases hwrites : exists e, p.writes e = true
    · rcases hwrites with ⟨e, he⟩
      rcases makes_room hcap hfits h hrunning (mem_procs hget) he with
        ⟨r, hreach, hlaw, hchild, hothers, hless⟩
      refine ⟨r, hreach, hlaw, hchild, hothers, ?_⟩
      intro i hi
      rw [writes_unique he hi]
      exact hless
    · refine ⟨s, Machine.Reaches.refl s, h, rfl, rfl, ?_⟩
      intro e he
      exact absurd ⟨e, he⟩ hwrites
  rcases hroom with ⟨r, hreach, hlaw, hchild, hothers, hless⟩
  have hget' : r.proc? who = some p := by
    cases who with
    | zero =>
        show some r.child = some p
        rw [hchild]
        exact hget
    | succ who =>
        show r.others[who]? = some p
        rw [hothers]
        exact hget
  rcases procStep_enabled hget' hp hless with ⟨count, t, hstep⟩
  have hdone := isDone_of_running hlaw (hchild ▸ hrunning)
  have htaken : (executor cap).step r (ExecEvent.proc who count) = some t := by
    simp only [executor, hdone]
    exact hstep
  have hguard := htimely count r hchild hothers
  refine ⟨t, hreach.trans (Machine.Reaches.step hguard htaken (Machine.Reaches.refl t)),
    outputLaw_preserved hfits r _ t hlaw hguard htaken, ?_⟩
  have hwork : r.work = s.work := by
    rw [ExecState.work, ExecState.procs, hchild, hothers]
    rfl
  rw [← hwork]
  exact opEffect_work (opEffect hstep)

/-- The call can return from every state of a run in which the output fits. -/
theorem returns_of_fits (hcap : 0 < cap) (hfits : forall e, c.volume e ≤ e.bufMax - 1 + cap)
    {s : ExecState} (h : OutputLaw cap c s) :
    exists t, (executor cap).Reaches (fun s e => timely cap s e = true) s t ∧ t.Right c := by
  have hless : forall r, OutputLaw cap c r -> ¬ r.child.state ≠ ProcLife.running ->
      exists t, (executor cap).Reaches (fun s e => timely cap s e = true) r t ∧
        OutputLaw cap c t ∧ t.work < r.work := by
    intro r hr hrunning
    exact advances hcap hfits hr (not_not.mp hrunning)
  rcases Machine.reaches_of_rank ExecState.work hless h with ⟨r, hreach, hr, hended⟩
  rcases returns_of_ended hfits hr hended with ⟨t, hrest, hright⟩
  exact ⟨t, hreach.trans hrest, hright⟩

end Fits

/-!
## The volume that fits
-/

/-- A right result means that everything was written: into the buffer and the pipe. -/
theorem fits_of_harmless {cap : Nat} {timeoutSecs : Int} {now : Nat} {c : Command}
    (h : OutputHarmless cap timeoutSecs now c) (e : Stream) :
    c.volume e ≤ e.bufMax - 1 + cap := by
  rcases (h [] _ trivial rfl).right with ⟨t, hreach, hright⟩
  have hpipes := hreach.inv (pipeLaw_preserved cap) (pipeLaw_start cap timeoutSecs now c)
  have hbuf := hpipes.bufLe e
  have hpipe := hpipes.pipeLe e
  rw [← hright.complete e, hpipes.kept e, List.length_append]
  omega

namespace Sample

/-- A child that writes this many bytes to each stream and ends. -/
def printing (out err : Nat) : Command where
  child :=
    [ProcOp.write Stream.out (List.replicate out 65),
      ProcOp.write Stream.err (List.replicate err 66)]
  status := WaitStatus.exited 0
  others := []

theorem volume_printing (out err : Nat) :
    (printing out err).volume Stream.out = out ∧
      (printing out err).volume Stream.err = err := by
  simp [printing, Command.volume, opsVolume]

end Sample

end Agent
end LeoOne
