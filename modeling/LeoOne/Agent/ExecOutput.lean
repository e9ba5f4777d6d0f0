import LeoOne.Agent.ExitNotice
import LeoOne.Foundation.Pool

/-!
# Output of a child process

`_drain_fd` does not read a pipe any more once the buffer of its stream is full.  What a
child writes after that has to fit into the pipe: a child that writes more is blocked
until the deadline.  As long as everything fits, the volume and the interleaving of the
two streams decide nothing: however the call returns, it returns the status of the child
and the first bytes of each stream.
-/

namespace LeoOne
namespace Agent

open Foundation

/-!
## Volumes
-/

/-- The number of bytes that the operations write to the stream. -/
def opsVolume (e : Stream) : List ProcOp -> Nat
  | [] => 0
  | ProcOp.write stream bytes :: ops =>
      (if stream = e then bytes.length else 0) + opsVolume e ops
  | ProcOp.close stream :: ops => if stream = e then 0 else opsVolume e ops

def Proc.volume (p : Proc) (e : Stream) : Nat :=
  if p.holds e then opsVolume e p.ops else 0

/-- What is still to be written to the stream. -/
def ExecState.remaining (s : ExecState) (e : Stream) : Nat :=
  (s.procs.map fun p => p.volume e).sum

/-- What the child and its descendants write to the stream. -/
def Command.volume (c : Command) (e : Stream) : Nat :=
  opsVolume e c.child + (c.others.map (opsVolume e)).sum

/-- The process is about to write to the stream. -/
def Proc.writes (p : Proc) (e : Stream) : Bool :=
  p.state = ProcLife.running && p.holds e &&
    match p.ops with
    | ProcOp.write stream bytes :: _ => stream = e && !bytes.isEmpty
    | _ => false

/-- Some process waits for room in a pipe that the parent does not read any more. -/
def ExecState.stalled (cap : Nat) (s : ExecState) : Bool :=
  [Stream.out, Stream.err].any fun e =>
    cap ≤ (s.pipe e).length && e.bufMax - 1 ≤ (s.buf e).length &&
      s.procs.any fun p => p.writes e

/-- There is time left. -/
def ExecState.hasTime (s : ExecState) : Bool :=
  match s.deadline with
  | none => true
  | some deadline => 0 < remainMs deadline s.now

/-- The child ends before the deadline if its output is consumed, and leaves no
descendant that holds a pipe: the time comes to an end only while a process waits for
output to be consumed that the parent does not consume.  The call of `select` does not
fail. -/
def timely (cap : Nat) (s : ExecState) (e : ExecEvent) : Bool :=
  match e with
  | ExecEvent.tick nanos =>
      ExecState.hasTime { s with now := s.now + nanos } || s.stalled cap
  | ExecEvent.proc who _ =>
      !(who = 0 && s.child.ops.isEmpty) ||
        s.others.all fun p => !p.holds Stream.out && !p.holds Stream.err
  | ExecEvent.parent x =>
      match s.place with
      | ParentPlace.clock => s.hasTime || s.stalled cap
      | ParentPlace.select _ =>
          match x with
          | SelectChoice.fails => false
          | SelectChoice.interrupted => true
          | SelectChoice.returns =>
              s.ready Stream.out || s.ready Stream.err || s.stalled cap
      | _ => true

/-- The call has returned `LEO_OK`, the status of the child and the first bytes of what
was written. -/
structure ExecState.Right (c : Command) (s : ExecState) : Prop where
  place : s.place = ParentPlace.done ExecError.ok c.status.exitCode
  complete : forall e, (s.written e).length = c.volume e
  captured : forall e, s.buf e = (s.written e).take (e.bufMax - 1)

/-!
## Steps of processes
-/

/-- A sum over the processes after one of them has changed. -/
theorem sum_setProc (f : Proc -> Nat) {s : ExecState} {who : Nat} {p : Proc}
    (hget : s.proc? who = some p) (q : Proc) :
    ((s.setProc who q).procs.map f).sum + f p = (s.procs.map f).sum + f q := by
  cases who with
  | zero =>
      cases hget
      simp only [ExecState.setProc, ExecState.procs, List.map_cons, List.sum_cons]
      omega
  | succ who =>
      have hset := sum_map_set f (show s.others[who]? = some p from hget) q
      simp only [ExecState.setProc, ExecState.procs, List.map_cons, List.sum_cons]
      omega

theorem mem_procs {s : ExecState} {who : Nat} {p : Proc} (hget : s.proc? who = some p) :
    p ∈ s.procs := by
  cases who with
  | zero =>
      cases hget
      exact List.mem_cons_self
  | succ who => exact List.mem_cons_of_mem _ (List.mem_of_getElem? hget)

theorem mem_setProc {s : ExecState} {who : Nat} {p q : Proc}
    (h : p ∈ (s.setProc who q).procs) : p = q ∨ p ∈ s.procs := by
  cases who with
  | zero =>
      rcases List.mem_cons.mp h with heq | hold
      · exact Or.inl heq
      · exact Or.inr (List.mem_cons_of_mem _ hold)
  | succ who =>
      rcases List.mem_cons.mp h with heq | hset
      · exact Or.inr (List.mem_cons.mpr (Or.inl heq))
      · rcases List.mem_or_eq_of_mem_set hset with hold | heq
        · exact Or.inr (List.mem_cons_of_mem _ hold)
        · exact Or.inl heq

/-- What a step of a process changes: the process itself, and bytes at the end of a pipe
into which it can write. -/
structure ProcMove (cap who : Nat) (p q : Proc) (s t : ExecState) : Prop where
  get : s.proc? who = some p
  running : p.state = ProcLife.running
  child : t.child = (s.setProc who q).child
  others : t.others = (s.setProc who q).others
  status : q.status = p.status
  state : q.state = ProcLife.running ∨
    (q.state = ProcLife.exited s.now ∧ p.ops = [] ∧ forall e, q.holds e = false)
  holds : forall e, q.holds e = true -> p.holds e = true
  stream : forall e, exists new, t.pipe e = s.pipe e ++ new ∧
    t.written e = s.written e ++ new ∧ new.length + q.volume e = p.volume e ∧
    (new = [] ∨ (p.holds e = true ∧ (t.pipe e).length ≤ cap))
  buf : t.buf = s.buf
  now : t.now = s.now
  deadline : t.deadline = s.deadline
  place : t.place = s.place

theorem setProc_buf (s : ExecState) (who : Nat) (p : Proc) :
    (s.setProc who p).buf = s.buf := by
  cases who with
  | zero => rfl
  | succ who => rfl

theorem setProc_now (s : ExecState) (who : Nat) (p : Proc) :
    (s.setProc who p).now = s.now := by
  cases who with
  | zero => rfl
  | succ who => rfl

theorem setProc_deadline (s : ExecState) (who : Nat) (p : Proc) :
    (s.setProc who p).deadline = s.deadline := by
  cases who with
  | zero => rfl
  | succ who => rfl

/-- A step that writes nothing. -/
theorem ProcMove.silent {cap who : Nat} {p q : Proc} {s : ExecState}
    (hget : s.proc? who = some p) (hrunning : p.state = ProcLife.running)
    (hstatus : q.status = p.status)
    (hstate : q.state = ProcLife.running ∨
      (q.state = ProcLife.exited s.now ∧ p.ops = [] ∧ forall e, q.holds e = false))
    (hholds : forall e, q.holds e = true -> p.holds e = true)
    (hvolume : forall e, q.volume e = p.volume e) :
    ProcMove cap who p q s (s.setProc who q) where
  get := hget
  running := hrunning
  child := rfl
  others := rfl
  status := hstatus
  state := hstate
  holds := hholds
  stream := by
    intro e
    refine ⟨[], ?_, ?_, ?_, Or.inl rfl⟩
    · rw [setProc_pipe, List.append_nil]
    · rw [setProc_written, List.append_nil]
    · rw [hvolume e]
      exact Nat.zero_add _
  buf := setProc_buf s who q
  now := setProc_now s who q
  deadline := setProc_deadline s who q
  place := setProc_place s who q

theorem volume_of_not_holds {p : Proc} {e : Stream} (h : p.holds e = false) :
    p.volume e = 0 := by
  rw [Proc.volume, h]
  rfl

theorem volume_close {p : Proc} {e : Stream} {ops : List ProcOp}
    (hops : p.ops = ProcOp.close e :: ops) (i : Stream) :
    Proc.volume { p with ops := ops, holds := Function.update p.holds e false } i =
      p.volume i := by
  by_cases hi : i = e
  · rw [volume_of_not_holds (by simp [hi])]
    simp [Proc.volume, hops, opsVolume, hi]
  · have hne : e ≠ i := fun heq => hi heq.symm
    simp [Proc.volume, hops, opsVolume, Function.update_of_ne hi, hne]

theorem volume_skip {p : Proc} {e : Stream} {bytes : List UInt8} {ops : List ProcOp}
    (hops : p.ops = ProcOp.write e bytes :: ops) (hwhy : bytes = [] ∨ p.holds e = false)
    (i : Stream) : Proc.volume { p with ops := ops } i = p.volume i := by
  by_cases hi : e = i
  · rcases hwhy with hempty | hclosed
    · simp [Proc.volume, hops, opsVolume, hempty]
    · simp [Proc.volume, hi ▸ hclosed]
  · simp [Proc.volume, hops, opsVolume, hi]

/-- What a write moves into the pipe is not to be written any more. -/
theorem volume_write {p : Proc} {e : Stream} {bytes : List UInt8} {ops : List ProcOp}
    {count : Nat} (hops : p.ops = ProcOp.write e bytes :: ops) (hholds : p.holds e = true)
    (hle : count ≤ bytes.length) :
    count + Proc.volume { p with ops := ProcOp.write e (bytes.drop count) :: ops } e =
      p.volume e := by
  simp only [Proc.volume, hops, hholds, opsVolume, List.length_drop, if_true]
  omega

theorem volume_write_other {p : Proc} {e i : Stream} {bytes : List UInt8}
    {ops : List ProcOp} {count : Nat} (hops : p.ops = ProcOp.write e bytes :: ops)
    (hi : e ≠ i) :
    Proc.volume { p with ops := ProcOp.write e (bytes.drop count) :: ops } i =
      p.volume i := by
  simp [Proc.volume, hops, opsVolume, hi]

theorem procMove {cap who : Nat} {s t : ExecState} (h : OpEffect cap who s t) :
    exists p q, ProcMove cap who p q s t := by
  cases h with
  | ended hget hrunning hops =>
      refine ⟨_, _, ProcMove.silent hget hrunning rfl (Or.inr ⟨rfl, hops, fun _ => rfl⟩) ?_ ?_⟩
      · intro e htrue
        cases htrue
      · intro e
        rw [volume_of_not_holds rfl]
        simp [Proc.volume, hops, opsVolume]
  | closed hget hrunning hops =>
      refine ⟨_, _, ProcMove.silent hget hrunning rfl (Or.inl hrunning) ?_
        (volume_close hops)⟩
      rename_i e _
      intro i htrue
      by_cases hi : i = e
      · simp [hi] at htrue
      · simpa [Function.update_of_ne hi] using htrue
  | skipped hget hrunning hops hwhy =>
      exact ⟨_, _, ProcMove.silent hget hrunning rfl (Or.inl hrunning) (fun _ h => h)
        (volume_skip hops hwhy)⟩
  | wrote hget hrunning hops hholds hpos hle hroom =>
      rename_i p e bytes ops count
      refine ⟨p, { p with ops := ProcOp.write e (bytes.drop count) :: ops }, ?_⟩
      refine
        { get := hget
          running := hrunning
          child := rfl
          others := rfl
          status := rfl
          state := Or.inl hrunning
          holds := fun _ h => h
          stream := ?_
          buf := setProc_buf s who _
          now := setProc_now s who _
          deadline := setProc_deadline s who _
          place := setProc_place s who _ }
      intro i
      by_cases hi : i = e
      · refine ⟨bytes.take count, ?_, ?_, ?_, Or.inr ⟨hi ▸ hholds, ?_⟩⟩
        · simp [hi]
        · simp [hi]
        · rw [hi, List.length_take, Nat.min_eq_left hle]
          exact volume_write hops hholds hle
        · simp only [hi, Function.update_self, List.length_append, List.length_take,
            Nat.min_eq_left hle]
          exact hroom
      · refine ⟨[], ?_, ?_, ?_, Or.inl rfl⟩
        · simp [Function.update_of_ne hi]
        · simp [Function.update_of_ne hi]
        · rw [volume_write_other hops (fun heq => hi heq.symm)]
          exact Nat.zero_add _

/-!
## Reading
-/

/-- Everything in the pipe was read, or the buffer is full. -/
def ExecState.Drained (s : ExecState) (e : Stream) : Prop :=
  s.pipe e = [] ∨ (s.buf e).length = e.bufMax - 1

/-- A step of the parent that at most moves bytes from the pipes to the buffers. -/
structure Drains (s t : ExecState) : Prop where
  child : t.child = s.child
  others : t.others = s.others
  written : t.written = s.written
  now : t.now = s.now
  deadline : t.deadline = s.deadline
  kept : forall e, t.buf e ++ t.pipe e = s.buf e ++ s.pipe e
  bufLe : forall e, (s.buf e).length ≤ e.bufMax - 1 -> (t.buf e).length ≤ e.bufMax - 1
  pipeLe : forall e, (t.pipe e).length ≤ (s.pipe e).length
  drained : forall e, s.Drained e -> t.Drained e

theorem drains_place (s : ExecState) (place : ParentPlace) :
    Drains s { s with place := place } where
  child := rfl
  others := rfl
  written := rfl
  now := rfl
  deadline := rfl
  kept _ := rfl
  bufLe _ h := h
  pipeLe _ := Nat.le_refl _
  drained _ h := h

theorem drains_drainFd (s : ExecState) (e : Stream) : Drains s (s.drainFd e) := by
  unfold ExecState.drainFd
  split
  · exact drains_place s s.place
  · rename_i hroom
    refine ⟨rfl, rfl, rfl, rfl, rfl, ?_, ?_, ?_, ?_⟩
    · intro i
      by_cases hi : i = e
      · simp [hi]
      · simp [Function.update_of_ne hi]
    · intro i hle
      by_cases hi : i = e
      · simp only [hi, Function.update_self, List.length_append, List.length_take]
        omega
      · simpa [Function.update_of_ne hi] using hle
    · intro i
      by_cases hi : i = e
      · simp only [hi, Function.update_self, List.length_drop]
        omega
      · simp [Function.update_of_ne hi]
    · intro i hdrained
      by_cases hi : i = e
      · subst hi
        rcases hdrained with hempty | hfull
        · left
          simp [hempty]
        · omega
      · simpa [ExecState.Drained, Function.update_of_ne hi] using hdrained

theorem Drains.trans {s t u : ExecState} (h : Drains s t) (h' : Drains t u) : Drains s u where
  child := h'.child.trans h.child
  others := h'.others.trans h.others
  written := h'.written.trans h.written
  now := h'.now.trans h.now
  deadline := h'.deadline.trans h.deadline
  kept e := (h'.kept e).trans (h.kept e)
  bufLe e hle := h'.bufLe e (h.bufLe e hle)
  pipeLe e := Nat.le_trans (h'.pipeLe e) (h.pipeLe e)
  drained e hd := h'.drained e (h.drained e hd)

theorem drains_read (s : ExecState) (e : Stream) (ready : Bool) (place : ParentPlace) :
    Drains s { (if ready then s.drainFd e else s) with place := place } := by
  cases ready with
  | false => exact drains_place s place
  | true => exact (drains_drainFd s e).trans (drains_place _ place)

/-- One read takes all that the pipe holds, as far as the buffer has room. -/
theorem drained_drainFd {s : ExecState} {e : Stream} (h : (s.buf e).length ≤ e.bufMax - 1) :
    (s.drainFd e).Drained e := by
  unfold ExecState.drainFd
  split
  · rename_i hfull
    exact Or.inr (by omega)
  · rename_i hroom
    unfold ExecState.Drained
    simp only [Function.update_self, List.length_append, List.length_take,
      List.drop_eq_nil_iff]
    omega

/-- A buffer with room gets at least one byte of a pipe that holds some. -/
theorem drainFd_reads {s : ExecState} {e : Stream} (hroom : (s.buf e).length < e.bufMax - 1)
    (hsome : 0 < (s.pipe e).length) :
    ((s.drainFd e).pipe e).length < (s.pipe e).length := by
  unfold ExecState.drainFd
  rw [if_neg (by omega)]
  simp only [Function.update_self, List.length_drop]
  omega

/-!
## Pipes and buffers
-/

/-- Nothing is lost between a process and the buffer of the result, and neither the pipes
nor the buffers overflow. -/
structure PipeLaw (cap : Nat) (s : ExecState) : Prop where
  kept : forall e, s.written e = s.buf e ++ s.pipe e
  bufLe : forall e, (s.buf e).length ≤ e.bufMax - 1
  pipeLe : forall e, (s.pipe e).length ≤ cap

theorem PipeLaw.drains {cap : Nat} {s t : ExecState} (h : PipeLaw cap s) (hd : Drains s t) :
    PipeLaw cap t := by
  constructor
  · intro e
    rw [hd.written, hd.kept e]
    exact h.kept e
  · intro e
    exact hd.bufLe e (h.bufLe e)
  · intro e
    exact Nat.le_trans (hd.pipeLe e) (h.pipeLe e)

theorem PipeLaw.proc {cap who : Nat} {p q : Proc} {s t : ExecState} (h : PipeLaw cap s)
    (hmove : ProcMove cap who p q s t) : PipeLaw cap t := by
  constructor
  · intro e
    rcases hmove.stream e with ⟨new, hpipe, hwritten, _⟩
    rw [hwritten, hpipe, hmove.buf, h.kept e, List.append_assoc]
  · intro e
    rw [hmove.buf]
    exact h.bufLe e
  · intro e
    rcases hmove.stream e with ⟨new, hpipe, _, _, hnone | ⟨_, hle⟩⟩
    · rw [hpipe, hnone, List.append_nil]
      exact h.pipeLe e
    · exact hle

/-- The steps of the parent: reads, or giving the child up. -/
theorem parentEffect_drains {x : SelectChoice} {s t : ExecState} (h : ParentEffect x s t) :
    Drains s t ∨
      t = { s with child := s.child.kill, place := ParentPlace.reap ExecError.timeout } := by
  cases h with
  | late | idle => exact Or.inr rfl
  | drainedOut => exact Or.inl (drains_read s Stream.out _ _)
  | drainedErr => exact Or.inl (drains_read s Stream.err _ _)
  | lastOut => exact Or.inl ((drains_drainFd s Stream.out).trans (drains_place _ _))
  | lastErr => exact Or.inl ((drains_drainFd s Stream.err).trans (drains_place _ _))
  | waits | interrupted | failed | selected | again | ended | reaped =>
      exact Or.inl (drains_place s _)

theorem pipeLaw_preserved (cap : Nat) :
    (executor cap).Preserves (fun s e => timely cap s e = true) (PipeLaw cap) := by
  intro s e t h _ hstep
  rcases (executor_step_cases hstep).right with
    ⟨nanos, rfl, rfl⟩ | ⟨who, count, rfl, heffect⟩ | ⟨x, rfl, heffect⟩
  · exact ⟨h.kept, h.bufLe, h.pipeLe⟩
  · rcases procMove heffect with ⟨p, q, hmove⟩
    exact h.proc hmove
  · rcases parentEffect_drains heffect with hd | hkill
    · exact h.drains hd
    · rw [hkill]
      exact ⟨h.kept, h.bufLe, h.pipeLe⟩

theorem pipeLaw_start (cap : Nat) (timeoutSecs : Int) (now : Nat) (c : Command) :
    PipeLaw cap (runChild true true timeoutSecs now c) where
  kept _ := rfl
  bufLe _ := Nat.zero_le _
  pipeLe _ := Nat.zero_le _

/-!
## Runs in which the output fits
-/

/-- What the parent knows at the end of its loop. -/
def ExecState.AtPlace (s : ExecState) : Prop :=
  match s.place with
  | ParentPlace.lastOut => s.child.state ≠ ProcLife.running
  | ParentPlace.lastErr => s.child.state ≠ ProcLife.running ∧ s.Drained Stream.out
  | ParentPlace.reap _ => False
  | ParentPlace.done ret exitCode =>
      ret = ExecError.ok ∧ exitCode = s.child.status.exitCode ∧
        s.child.state ≠ ProcLife.running ∧ s.Drained Stream.out ∧ s.Drained Stream.err
  | _ => True

/-- A process that has ended holds no pipe; the child was not killed, and when it has
ended no process holds a pipe; what was written and what is still to be written is what
the command writes; and there is time left. -/
structure OutputLaw (cap : Nat) (c : Command) (s : ExecState) : Prop where
  pipes : PipeLaw cap s
  closed : forall p, p ∈ s.procs -> p.state ≠ ProcLife.running -> forall e, p.holds e = false
  living : s.child.state ≠ ProcLife.killed
  status : s.child.status = c.status
  alone : s.child.state ≠ ProcLife.running -> forall p, p ∈ s.procs -> forall e,
    p.holds e = false
  volume : forall e, (s.written e).length + s.remaining e = c.volume e
  place : s.AtPlace
  time : s.hasTime = true

theorem remaining_pos {s : ExecState} {p : Proc} {e : Stream} (hp : p ∈ s.procs)
    (h : p.writes e = true) : 0 < s.remaining e := by
  have hpos : 0 < p.volume e := by
    unfold Proc.writes at h
    split at h
    · rename_i stream bytes ops hops
      simp only [Bool.and_eq_true, decide_eq_true_eq] at h
      rcases h with ⟨⟨_, hholds⟩, hstream, hbytes⟩
      have hlen : 0 < bytes.length := by
        apply List.length_pos_iff.mpr
        simpa using hbytes
      simp only [Proc.volume, hholds, hops, opsVolume, hstream, if_true]
      omega
    · simp at h
  have hle : p.volume e ≤ s.remaining e :=
    List.single_le_sum (fun _ _ => Nat.zero_le _) _ (List.mem_map_of_mem hp)
  omega

section Fits

variable {cap : Nat} {c : Command}

/-- The parent consumes all output that is waited for. -/
theorem not_stalled (hfits : forall e, c.volume e ≤ e.bufMax - 1 + cap) {s : ExecState}
    (h : OutputLaw cap c s) : s.stalled cap = false := by
  apply Bool.eq_false_iff.mpr
  intro hstalled
  rcases List.any_eq_true.mp hstalled with ⟨e, _, hfull⟩
  simp only [Bool.and_eq_true, decide_eq_true_eq] at hfull
  rcases hfull with ⟨⟨hpipe, hbuf⟩, hwriter⟩
  rcases List.any_eq_true.mp hwriter with ⟨p, hp, hwrites⟩
  have hpos := remaining_pos hp hwrites
  have hsum := h.volume e
  have hmax := hfits e
  rw [h.pipes.kept e, List.length_append] at hsum
  omega

theorem OutputLaw.drains {s t : ExecState} (h : OutputLaw cap c s) (hd : Drains s t)
    (hplace : t.AtPlace) : OutputLaw cap c t := by
  have hprocs : t.procs = s.procs := by
    rw [ExecState.procs, hd.child, hd.others]
    rfl
  constructor
  · exact h.pipes.drains hd
  · rw [hprocs]
    exact h.closed
  · rw [hd.child]
    exact h.living
  · rw [hd.child]
    exact h.status
  · rw [hprocs, hd.child]
    exact h.alone
  · intro e
    unfold ExecState.remaining
    rw [hd.written, hprocs]
    exact h.volume e
  · exact hplace
  · unfold ExecState.hasTime
    rw [hd.deadline, hd.now]
    exact h.time

theorem outputLaw_parent (hfits : forall e, c.volume e ≤ e.bufMax - 1 + cap)
    {x : SelectChoice} {s t : ExecState} (h : OutputLaw cap c s)
    (htimely : timely cap s (ExecEvent.parent x) = true) (heffect : ParentEffect x s t) :
    OutputLaw cap c t := by
  have hnot := not_stalled hfits h
  have hplace := h.place
  cases heffect with
  | waits | interrupted | selected | again =>
      exact h.drains (drains_place s _) trivial
  | late hclock hdeadline hleft =>
      have htime := h.time
      simp only [ExecState.hasTime, hdeadline, decide_eq_true_eq] at htime
      exact absurd htime (Int.not_lt.mpr hleft)
  | failed hselect hx => simp [timely, hselect, hx] at htimely
  | idle hselect hx hready =>
      simp only [timely, hselect, hx, hready, hnot] at htimely
      cases htimely
  | drainedOut => exact h.drains (drains_read s Stream.out _ _) trivial
  | drainedErr => exact h.drains (drains_read s Stream.err _ _) trivial
  | ended _ hended => exact h.drains (drains_place s _) hended
  | lastOut hlast =>
      simp only [ExecState.AtPlace, hlast] at hplace
      have hd := drains_drainFd s Stream.out
      refine h.drains (hd.trans (drains_place _ _)) ⟨?_, ?_⟩
      · show (s.drainFd Stream.out).child.state ≠ ProcLife.running
        rw [hd.child]
        exact hplace
      · exact drained_drainFd (h.pipes.bufLe Stream.out)
  | lastErr hlast =>
      simp only [ExecState.AtPlace, hlast] at hplace
      have hd := drains_drainFd s Stream.err
      refine h.drains (hd.trans (drains_place _ _)) ⟨rfl, ?_, ?_, ?_, ?_⟩
      · show _ = (s.drainFd Stream.err).child.status.exitCode
        rw [hd.child]
      · show (s.drainFd Stream.err).child.state ≠ ProcLife.running
        rw [hd.child]
        exact hplace.left
      · exact hd.drained Stream.out hplace.right
      · exact drained_drainFd (h.pipes.bufLe Stream.err)
  | reaped hreap => simp only [ExecState.AtPlace, hreap] at hplace

/-- Nothing is written once the child has ended. -/
theorem ProcMove.quiet {who : Nat} {p q : Proc} {s t : ExecState} (h : OutputLaw cap c s)
    (hmove : ProcMove cap who p q s t) (hended : s.child.state ≠ ProcLife.running)
    (e : Stream) : t.pipe e = s.pipe e := by
  rcases hmove.stream e with ⟨new, hpipe, _, _, hnone | ⟨hholds, _⟩⟩
  · rw [hpipe, hnone, List.append_nil]
  · rw [h.alone hended p (mem_procs hmove.get) e] at hholds
    cases hholds

theorem ProcMove.drained {who : Nat} {p q : Proc} {s t : ExecState} (h : OutputLaw cap c s)
    (hmove : ProcMove cap who p q s t) (hended : s.child.state ≠ ProcLife.running)
    {e : Stream} (hd : s.Drained e) : t.Drained e := by
  unfold ExecState.Drained
  rw [hmove.quiet h hended e, hmove.buf]
  exact hd

theorem ProcMove.child_ended {who : Nat} {p q : Proc} {s t : ExecState}
    (hmove : ProcMove cap who p q s t) (hended : s.child.state ≠ ProcLife.running) :
    t.child = s.child := by
  cases who with
  | zero =>
      have hget := hmove.get
      cases hget
      exact absurd hmove.running hended
  | succ who => exact hmove.child

theorem ProcMove.atPlace {who : Nat} {p q : Proc} {s t : ExecState} (h : OutputLaw cap c s)
    (hmove : ProcMove cap who p q s t) : t.AtPlace := by
  have hplace := h.place
  unfold ExecState.AtPlace at hplace ⊢
  rw [hmove.place]
  cases hwhere : s.place with
  | lastOut =>
      rw [hwhere] at hplace
      simp only at hplace ⊢
      rw [hmove.child_ended hplace]
      exact hplace
  | lastErr =>
      rw [hwhere] at hplace
      simp only at hplace ⊢
      refine ⟨?_, hmove.drained h hplace.left hplace.right⟩
      rw [hmove.child_ended hplace.left]
      exact hplace.left
  | reap ret =>
      rw [hwhere] at hplace
      exact hplace
  | done ret exitCode =>
      rw [hwhere] at hplace
      simp only at hplace ⊢
      rcases hplace with ⟨hret, hcode, hended, hout, herr⟩
      rw [hmove.child_ended hended]
      exact ⟨hret, hcode, hended, hmove.drained h hended hout, hmove.drained h hended herr⟩
  | clock | select _ | drainOut _ _ | drainErr _ | wait => trivial

theorem ProcMove.procs {who : Nat} {p q : Proc} {s t : ExecState}
    (hmove : ProcMove cap who p q s t) : t.procs = (s.setProc who q).procs := by
  rw [ExecState.procs, hmove.child, hmove.others]
  rfl

theorem ProcMove.mem {who : Nat} {p q i : Proc} {s t : ExecState}
    (hmove : ProcMove cap who p q s t) (hi : i ∈ t.procs) : i = q ∨ i ∈ s.procs := by
  rw [hmove.procs] at hi
  exact mem_setProc hi

/-- A process that has just ended holds no pipe. -/
theorem ProcMove.closed {who : Nat} {p q : Proc} {s t : ExecState} (h : OutputLaw cap c s)
    (hmove : ProcMove cap who p q s t) (i : Proc) (hi : i ∈ t.procs)
    (hended : i.state ≠ ProcLife.running) (e : Stream) : i.holds e = false := by
  rcases hmove.mem hi with heq | hold
  · rw [heq] at hended ⊢
    rcases hmove.state with hrunning | ⟨_, _, hnone⟩
    · exact absurd hrunning hended
    · exact hnone e
  · exact h.closed i hold hended e

theorem ProcMove.child_cases {who : Nat} {p q : Proc} {s t : ExecState}
    (hmove : ProcMove cap who p q s t) :
    (who = 0 ∧ p = s.child ∧ t.child = q ∧ t.others = s.others) ∨ t.child = s.child := by
  cases who with
  | zero =>
      have hget := hmove.get
      cases hget
      exact Or.inl ⟨rfl, rfl, hmove.child, hmove.others⟩
  | succ who => exact Or.inr hmove.child

/-- The child ends as the last one that holds a pipe. -/
theorem ProcMove.alone {who count : Nat} {p q : Proc} {s t : ExecState}
    (h : OutputLaw cap c s) (hmove : ProcMove cap who p q s t)
    (htimely : timely cap s (ExecEvent.proc who count) = true)
    (hended : t.child.state ≠ ProcLife.running) (i : Proc) (hi : i ∈ t.procs)
    (e : Stream) : i.holds e = false := by
  rcases hmove.child_cases with ⟨hwho, hp, hchild, hothers⟩ | hchild
  · rw [hchild] at hended
    rcases hmove.state with hrunning | ⟨_, hops, hnone⟩
    · exact absurd hrunning hended
    · have hall : s.others.all (fun p => !p.holds Stream.out && !p.holds Stream.err) = true := by
        rw [hp] at hops
        simpa [timely, hwho, hops] using htimely
      rcases List.mem_cons.mp hi with heq | hmem
      · rw [heq, hchild]
        exact hnone e
      · rw [hothers] at hmem
        have hboth := List.all_eq_true.mp hall i hmem
        simp only [Bool.and_eq_true, Bool.not_eq_true'] at hboth
        cases e with
        | out => exact hboth.left
        | err => exact hboth.right
  · rw [hchild] at hended
    rcases hmove.mem hi with heq | hold
    · rw [heq]
      apply Bool.eq_false_iff.mpr
      intro hholds
      have hbefore := hmove.holds e hholds
      rw [h.alone hended p (mem_procs hmove.get) e] at hbefore
      cases hbefore
    · exact h.alone hended i hold e

theorem outputLaw_proc {who count : Nat} {s t : ExecState} (h : OutputLaw cap c s)
    (htimely : timely cap s (ExecEvent.proc who count) = true)
    (heffect : OpEffect cap who s t) : OutputLaw cap c t := by
  rcases procMove heffect with ⟨p, q, hmove⟩
  constructor
  · exact h.pipes.proc hmove
  · exact hmove.closed h
  · rcases hmove.child_cases with ⟨_, _, hchild, _⟩ | hchild
    · rw [hchild]
      rcases hmove.state with hrunning | ⟨hexited, _⟩
      · rw [hrunning]
        intro hkilled
        cases hkilled
      · rw [hexited]
        intro hkilled
        cases hkilled
    · rw [hchild]
      exact h.living
  · rcases hmove.child_cases with ⟨_, hp, hchild, _⟩ | hchild
    · rw [hchild, hmove.status, hp]
      exact h.status
    · rw [hchild]
      exact h.status
  · exact hmove.alone h htimely
  · intro e
    rcases hmove.stream e with ⟨new, _, hwritten, hvolume, _⟩
    have hsum := sum_setProc (fun p => p.volume e) hmove.get q
    have hbefore := h.volume e
    unfold ExecState.remaining at hbefore ⊢
    rw [hmove.procs, hwritten, List.length_append]
    omega
  · exact hmove.atPlace h
  · unfold ExecState.hasTime
    rw [hmove.deadline, hmove.now]
    exact h.time

theorem outputLaw_preserved (hfits : forall e, c.volume e ≤ e.bufMax - 1 + cap) :
    (executor cap).Preserves (fun s e => timely cap s e = true) (OutputLaw cap c) := by
  intro s e t h htimely hstep
  rcases (executor_step_cases hstep).right with
    ⟨nanos, rfl, rfl⟩ | ⟨who, count, rfl, heffect⟩ | ⟨x, rfl, heffect⟩
  · refine ⟨⟨h.pipes.kept, h.pipes.bufLe, h.pipes.pipeLe⟩, h.closed, h.living, h.status, h.alone,
      h.volume, h.place, ?_⟩
    simpa [timely, not_stalled hfits h] using htimely
  · exact outputLaw_proc h htimely heffect
  · exact outputLaw_parent hfits h htimely heffect

theorem volume_runChild (timeoutSecs : Int) (now : Nat) (c : Command) (e : Stream) :
    (runChild true true timeoutSecs now c).remaining e = c.volume e := by
  show (List.map _ (Proc.fresh c.child c.status ::
    c.others.map fun ops => Proc.fresh ops (WaitStatus.exited 0))).sum = _
  rw [List.map_cons, List.sum_cons, List.map_map]
  rfl

/-- A whole number of seconds is a whole number of milliseconds. -/
theorem remainMs_start {now : Nat} {secs : Nat} :
    remainMs (now + secs * 1000000000) now = secs * 1000 := by
  unfold remainMs
  have hdiv : (now + secs * 1000000000) / 1000000000 = now / 1000000000 + secs :=
    Nat.add_mul_div_right _ _ (by decide)
  have hmod : (now + secs * 1000000000) % 1000000000 = now % 1000000000 :=
    Nat.add_mul_mod_self_right _ _ _
  rw [hdiv, hmod, Int.sub_self, Int.zero_tdiv]
  omega

theorem outputLaw_start (cap : Nat) (timeoutSecs : Int) (now : Nat) (c : Command) :
    OutputLaw cap c (runChild true true timeoutSecs now c) := by
  have hall : forall p, p ∈ (runChild true true timeoutSecs now c).procs ->
      p.state = ProcLife.running := by
    intro p hp
    rcases List.mem_cons.mp hp with heq | hmem
    · rw [heq]
      rfl
    · rcases List.mem_map.mp hmem with ⟨ops, _, rfl⟩
      rfl
  constructor
  · exact pipeLaw_start cap timeoutSecs now c
  · intro p hp hended
    exact absurd (hall p hp) hended
  · intro hkilled
    cases hkilled
  · rfl
  · intro hended
    exact absurd rfl hended
  · intro e
    rw [volume_runChild]
    exact Nat.zero_add _
  · trivial
  · show (match if timeoutSecs > 0 then some (now + timeoutSecs.toNat * 1000000000) else none with
      | none => true
      | some deadline => decide (0 < remainMs deadline now)) = true
    by_cases hsecs : timeoutSecs > 0
    · rw [if_pos hsecs]
      simp only [decide_eq_true_eq]
      rw [remainMs_start]
      omega
    · rw [if_neg hsecs]

/-!
## The result
-/

theorem captured_of_drained {s : ExecState} (h : PipeLaw cap s) {e : Stream}
    (hd : s.Drained e) : s.buf e = (s.written e).take (e.bufMax - 1) := by
  rw [h.kept e]
  rcases hd with hempty | hfull
  · rw [hempty, List.append_nil]
    exact (List.take_of_length_le (h.bufLe e)).symm
  · rw [← hfull]
    exact List.take_left.symm

theorem right_of_done {s : ExecState} (h : OutputLaw cap c s)
    (hdone : s.place.isDone = true) : s.Right c := by
  have hplace := h.place
  unfold ExecState.AtPlace at hplace
  cases hwhere : s.place with
  | done ret exitCode =>
      rw [hwhere] at hplace
      rcases hplace with ⟨hret, hcode, hended, hout, herr⟩
      constructor
      · rw [hwhere, hret, hcode, h.status]
      · intro e
        have hnone : s.remaining e = 0 := by
          apply List.sum_eq_zero
          intro n hn
          rcases List.mem_map.mp hn with ⟨p, hp, rfl⟩
          exact volume_of_not_holds (h.alone hended p hp e)
        have hsum := h.volume e
        omega
      · intro e
        cases e with
        | out => exact captured_of_drained h.pipes hout
        | err => exact captured_of_drained h.pipes herr
  | clock | select _ | drainOut _ _ | drainErr _ | wait | lastOut | lastErr | reap _ =>
      rw [hwhere] at hdone
      cases hdone

end Fits

end Agent
end LeoOne
