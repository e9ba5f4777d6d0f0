import Mathlib.Logic.Function.Basic
import LeoOne.Foundation.Machine
import LeoOne.Agent.MessageSizes

/-!
# Running a child process

`_run_child` of `executor_linux.c`: the parent reads two pipes in a loop around
`select`, looks for the exit of the child without waiting for it, and gives up at the
deadline.  The child writes its output into the pipes, which hold a bounded number of
bytes.  Its descendants inherit the write ends and may outlive it.

A step is one system call of the parent with the statements around it, one operation of
a process, or the passing of time.  A process that is forked later is one that has not
taken a step yet; it begins by closing what it does not inherit.
-/

namespace LeoOne
namespace Agent

open Foundation

/-!
## Processes and pipes
-/

/-- The two streams that are captured. -/
inductive Stream where
  | out
  | err
  deriving DecidableEq

/-- The size of the buffer of the stream in `leo_exec_result_t`. -/
def Stream.bufMax : Stream -> Nat
  | out => execStdoutMax
  | err => execStderrMax

/-- What a process does to the pipes. -/
inductive ProcOp where
  | write (stream : Stream) (bytes : List UInt8)
  | close (stream : Stream)
  deriving DecidableEq

/-- The status of a process that has ended, for `WIFEXITED` and `WIFSIGNALED`. -/
inductive WaitStatus where
  | exited (code : Nat)
  | signaled (sig : Nat)
  deriving DecidableEq

/-- What `_run_child` makes of the status. -/
def WaitStatus.exitCode : WaitStatus -> Int
  | exited code => code
  | signaled sig => -sig

/-- A process runs, has ended by itself at some time, or was killed by the parent. -/
inductive ProcLife where
  | running
  | exited (time : Nat)
  | killed
  deriving DecidableEq

/-- A process: what it has still to do, the status with which it ends, and the write
ends that it holds. -/
structure Proc where
  ops : List ProcOp
  status : WaitStatus
  holds : Stream -> Bool
  state : ProcLife

/-- A process at its start. -/
def Proc.fresh (ops : List ProcOp) (status : WaitStatus) : Proc where
  ops := ops
  status := status
  holds _ := true
  state := ProcLife.running

/-- `SIGKILL`; a process that has ended keeps its status. -/
def Proc.kill (p : Proc) : Proc :=
  match p.state with
  | ProcLife.running =>
      { ops := []
        status := WaitStatus.signaled 9
        holds := fun _ => false
        state := ProcLife.killed }
  | _ => p

/-!
## The parent
-/

/-- `leo_error_t`, as far as `_run_child` returns it. -/
inductive ExecError where
  | ok
  | timeout
  | system
  deriving DecidableEq

/-- Where the parent is: before reading the clock; in `select`, until the given time;
before each of the reads that the readiness of the two pipes asks for; before the
`waitpid` that does not wait; before the two last reads; in the `waitpid` that waits;
and when it has returned. -/
inductive ParentPlace where
  | clock
  | select (limit : Option Nat)
  | drainOut (outReady errReady : Bool)
  | drainErr (errReady : Bool)
  | wait
  | lastOut
  | lastErr
  | reap (ret : ExecError)
  | done (ret : ExecError) (exitCode : Int)
  deriving DecidableEq

/-- The state of a call.  For each stream: the bytes in the pipe, the bytes in the
buffer of the result, and all bytes that were written.  Times are in nanoseconds of
`CLOCK_MONOTONIC`. -/
structure ExecState where
  child : Proc
  others : List Proc
  pipe : Stream -> List UInt8
  buf : Stream -> List UInt8
  written : Stream -> List UInt8
  now : Nat
  deadline : Option Nat
  place : ParentPlace

namespace ExecState

def procs (s : ExecState) : List Proc :=
  s.child :: s.others

/-- Process 0 is the child. -/
def proc? (s : ExecState) : Nat -> Option Proc
  | 0 => some s.child
  | who + 1 => s.others[who]?

def setProc (s : ExecState) (who : Nat) (p : Proc) : ExecState :=
  match who with
  | 0 => { s with child := p }
  | who + 1 => { s with others := s.others.set who p }

/-- `select` reports the pipe: it holds bytes, or nobody can write into it any more. -/
def ready (s : ExecState) (e : Stream) : Bool :=
  !(s.pipe e).isEmpty || s.procs.all fun p => !p.holds e

/-- `_drain_fd`. -/
def drainFd (s : ExecState) (e : Stream) : ExecState :=
  if (s.buf e).length ≥ e.bufMax - 1 then s
  else
    let room := e.bufMax - 1 - (s.buf e).length
    { s with
      buf := Function.update s.buf e (s.buf e ++ (s.pipe e).take room)
      pipe := Function.update s.pipe e ((s.pipe e).drop room) }

end ExecState

/-- The time that is left, in milliseconds, as computed from `tv_sec` and `tv_nsec`. -/
def remainMs (deadline now : Nat) : Int :=
  ((deadline / 1000000000 : Nat) - (now / 1000000000 : Nat) : Int) * 1000 +
    ((deadline % 1000000000 : Nat) - (now % 1000000000 : Nat) : Int).tdiv 1000000

/-- What `select` does: it returns, it is interrupted by a signal, or it fails. -/
inductive SelectChoice where
  | returns
  | interrupted
  | fails
  deriving DecidableEq

/-- One step of the parent; `none` while it is blocked in a call. -/
def parentStep (x : SelectChoice) (s : ExecState) : Option ExecState :=
  match s.place with
  | ParentPlace.clock =>
      match s.deadline with
      | none => some { s with place := ParentPlace.select none }
      | some deadline =>
          let remain := remainMs deadline s.now
          if remain ≤ 0 then
            some
              { s with
                child := s.child.kill
                place := ParentPlace.reap ExecError.timeout }
          else
            some
              { s with
                place := ParentPlace.select (some (s.now + remain.toNat * 1000000)) }
  | ParentPlace.select limit =>
      match x with
      | SelectChoice.interrupted => some { s with place := ParentPlace.clock }
      | SelectChoice.fails => some { s with place := ParentPlace.reap ExecError.system }
      | SelectChoice.returns =>
          if s.ready Stream.out || s.ready Stream.err then
            some
              { s with
                place := ParentPlace.drainOut (s.ready Stream.out) (s.ready Stream.err) }
          else
            match limit with
            | none => none
            | some limit =>
                if limit ≤ s.now then
                  some
                    { s with
                      child := s.child.kill
                      place := ParentPlace.reap ExecError.timeout }
                else none
  | ParentPlace.drainOut outReady errReady =>
      let s := if outReady then s.drainFd Stream.out else s
      some { s with place := ParentPlace.drainErr errReady }
  | ParentPlace.drainErr errReady =>
      let s := if errReady then s.drainFd Stream.err else s
      some { s with place := ParentPlace.wait }
  | ParentPlace.wait =>
      if s.child.state = ProcLife.running then some { s with place := ParentPlace.clock }
      else some { s with place := ParentPlace.lastOut }
  | ParentPlace.lastOut =>
      some { s.drainFd Stream.out with place := ParentPlace.lastErr }
  | ParentPlace.lastErr =>
      some
        { s.drainFd Stream.err with
          place := ParentPlace.done ExecError.ok s.child.status.exitCode }
  | ParentPlace.reap ret =>
      if s.child.state = ProcLife.running then none
      else some { s with place := ParentPlace.done ret s.child.status.exitCode }
  | ParentPlace.done _ _ => none

/-!
## The processes
-/

/-- One step of a process: its next operation, or its end.  A write into a pipe takes
`count` bytes at once, as many as the kernel has room for or less; without room the
process is blocked. -/
def procStep (cap : Nat) (who count : Nat) (s : ExecState) : Option ExecState :=
  match s.proc? who with
  | none => none
  | some p =>
      if p.state ≠ ProcLife.running then none
      else
        match p.ops with
        | [] =>
            some
              (s.setProc who
                { p with holds := fun _ => false, state := ProcLife.exited s.now })
        | ProcOp.close e :: ops =>
            some (s.setProc who { p with ops := ops, holds := Function.update p.holds e false })
        | ProcOp.write e bytes :: ops =>
            -- nothing to write, or `EBADF`
            if bytes = [] ∨ p.holds e = false then some (s.setProc who { p with ops := ops })
            else if 0 < count ∧ count ≤ bytes.length ∧ (s.pipe e).length + count ≤ cap then
              let s := s.setProc who { p with ops := ProcOp.write e (bytes.drop count) :: ops }
              some
                { s with
                  pipe := Function.update s.pipe e (s.pipe e ++ bytes.take count)
                  written := Function.update s.written e (s.written e ++ bytes.take count) }
            else none

/-- Time passes, a process takes a step, or the parent does. -/
inductive ExecEvent where
  | tick (nanos : Nat)
  | proc (who count : Nat)
  | parent (x : SelectChoice)
  deriving DecidableEq

def ParentPlace.isDone : ParentPlace -> Bool
  | done _ _ => true
  | _ => false

/-- A call of `_run_child` with pipes that hold `cap` bytes each, until it returns. -/
def executor (cap : Nat) : Machine ExecState ExecEvent where
  step s e :=
    if s.place.isDone then none
    else
      match e with
      | ExecEvent.tick nanos => some { s with now := s.now + nanos }
      | ExecEvent.proc who count => procStep cap who count s
      | ExecEvent.parent x => parentStep x s

/-- What the child and its descendants do, and the status with which the child ends. -/
structure Command where
  child : List ProcOp
  status : WaitStatus
  others : List (List ProcOp)

/-- `pipe`, `fork` and the start of the loop, at the given time; the first two may fail. -/
def runChild (pipes forked : Bool) (timeoutSecs : Int) (now : Nat) (c : Command) :
    ExecState where
  child := Proc.fresh c.child c.status
  others := c.others.map fun ops => Proc.fresh ops (WaitStatus.exited 0)
  pipe _ := []
  buf _ := []
  written _ := []
  now := now
  deadline := if timeoutSecs > 0 then some (now + timeoutSecs.toNat * 1000000000) else none
  place :=
    if pipes && forked then ParentPlace.clock
    else ParentPlace.done ExecError.system (-1)

/-!
## What a step does
-/

/-- What a step of a process does. -/
inductive OpEffect (cap who : Nat) (s : ExecState) : ExecState -> Prop where
  | ended {p} (hget : s.proc? who = some p) (hrunning : p.state = ProcLife.running)
      (hops : p.ops = []) :
      OpEffect cap who s
        (s.setProc who { p with holds := fun _ => false, state := ProcLife.exited s.now })
  | closed {p e ops} (hget : s.proc? who = some p) (hrunning : p.state = ProcLife.running)
      (hops : p.ops = ProcOp.close e :: ops) :
      OpEffect cap who s
        (s.setProc who { p with ops := ops, holds := Function.update p.holds e false })
  | skipped {p e bytes ops} (hget : s.proc? who = some p)
      (hrunning : p.state = ProcLife.running) (hops : p.ops = ProcOp.write e bytes :: ops)
      (hwhy : bytes = [] ∨ p.holds e = false) :
      OpEffect cap who s (s.setProc who { p with ops := ops })
  | wrote {p e bytes ops count} (hget : s.proc? who = some p)
      (hrunning : p.state = ProcLife.running) (hops : p.ops = ProcOp.write e bytes :: ops)
      (hholds : p.holds e = true) (hpos : 0 < count) (hle : count ≤ bytes.length)
      (hroom : (s.pipe e).length + count ≤ cap) :
      OpEffect cap who s
        { s.setProc who { p with ops := ProcOp.write e (bytes.drop count) :: ops } with
          pipe := Function.update s.pipe e (s.pipe e ++ bytes.take count)
          written := Function.update s.written e (s.written e ++ bytes.take count) }

theorem setProc_pipe (s : ExecState) (who : Nat) (p : Proc) :
    (s.setProc who p).pipe = s.pipe := by
  cases who with
  | zero => rfl
  | succ who => rfl

theorem setProc_written (s : ExecState) (who : Nat) (p : Proc) :
    (s.setProc who p).written = s.written := by
  cases who with
  | zero => rfl
  | succ who => rfl

theorem opEffect {cap who count : Nat} {s t : ExecState}
    (h : procStep cap who count s = some t) : OpEffect cap who s t := by
  unfold procStep at h
  cases hget : s.proc? who with
  | none =>
      rw [hget] at h
      cases h
  | some p =>
      simp only [hget] at h
      by_cases hrunning : p.state = ProcLife.running
      · rw [if_neg (not_not.mpr hrunning)] at h
        split at h
        · rename_i hops
          cases h
          exact OpEffect.ended hget hrunning hops
        · rename_i e ops hops
          cases h
          exact OpEffect.closed hget hrunning hops
        · rename_i e bytes ops hops
          split at h
          · rename_i hwhy
            cases h
            exact OpEffect.skipped hget hrunning hops hwhy
          · rename_i hwrites
            split at h
            · rename_i hcount
              cases h
              have hholds : p.holds e = true := by
                simpa using fun hnot => hwrites (Or.inr hnot)
              rw [setProc_pipe, setProc_written]
              exact OpEffect.wrote hget hrunning hops hholds hcount.left hcount.right.left
                hcount.right.right
            · cases h
      · rw [if_pos hrunning] at h
        cases h

/-- What a step of the parent does. -/
inductive ParentEffect (x : SelectChoice) (s : ExecState) : ExecState -> Prop where
  | waits {limit} (hplace : s.place = ParentPlace.clock)
      (hleft : forall deadline, s.deadline = some deadline -> 0 < remainMs deadline s.now) :
      ParentEffect x s { s with place := ParentPlace.select limit }
  | late {deadline} (hplace : s.place = ParentPlace.clock)
      (hdeadline : s.deadline = some deadline) (hleft : remainMs deadline s.now ≤ 0) :
      ParentEffect x s
        { s with child := s.child.kill, place := ParentPlace.reap ExecError.timeout }
  | interrupted {limit} (hplace : s.place = ParentPlace.select limit)
      (hx : x = SelectChoice.interrupted) :
      ParentEffect x s { s with place := ParentPlace.clock }
  | failed {limit} (hplace : s.place = ParentPlace.select limit)
      (hx : x = SelectChoice.fails) :
      ParentEffect x s { s with place := ParentPlace.reap ExecError.system }
  | selected {limit} (hplace : s.place = ParentPlace.select limit)
      (hready : (s.ready Stream.out || s.ready Stream.err) = true) :
      ParentEffect x s
        { s with place := ParentPlace.drainOut (s.ready Stream.out) (s.ready Stream.err) }
  | idle {limit} (hplace : s.place = ParentPlace.select limit)
      (hx : x = SelectChoice.returns)
      (hready : (s.ready Stream.out || s.ready Stream.err) = false) :
      ParentEffect x s
        { s with child := s.child.kill, place := ParentPlace.reap ExecError.timeout }
  | drainedOut {outReady errReady}
      (hplace : s.place = ParentPlace.drainOut outReady errReady) :
      ParentEffect x s
        { (if outReady then s.drainFd Stream.out else s) with
          place := ParentPlace.drainErr errReady }
  | drainedErr {errReady} (hplace : s.place = ParentPlace.drainErr errReady) :
      ParentEffect x s
        { (if errReady then s.drainFd Stream.err else s) with place := ParentPlace.wait }
  | again (hplace : s.place = ParentPlace.wait)
      (hrunning : s.child.state = ProcLife.running) :
      ParentEffect x s { s with place := ParentPlace.clock }
  | ended (hplace : s.place = ParentPlace.wait)
      (hended : s.child.state ≠ ProcLife.running) :
      ParentEffect x s { s with place := ParentPlace.lastOut }
  | lastOut (hplace : s.place = ParentPlace.lastOut) :
      ParentEffect x s { s.drainFd Stream.out with place := ParentPlace.lastErr }
  | lastErr (hplace : s.place = ParentPlace.lastErr) :
      ParentEffect x s
        { s.drainFd Stream.err with
          place := ParentPlace.done ExecError.ok s.child.status.exitCode }
  | reaped {ret} (hplace : s.place = ParentPlace.reap ret)
      (hended : s.child.state ≠ ProcLife.running) :
      ParentEffect x s { s with place := ParentPlace.done ret s.child.status.exitCode }

theorem parentEffect {x : SelectChoice} {s t : ExecState} (h : parentStep x s = some t) :
    ParentEffect x s t := by
  unfold parentStep at h
  split at h
  · rename_i hplace
    split at h
    · rename_i hdeadline
      cases h
      refine ParentEffect.waits hplace ?_
      intro deadline hsome
      rw [hdeadline] at hsome
      cases hsome
    · rename_i deadline hdeadline
      simp only at h
      split at h
      · rename_i hleft
        cases h
        exact ParentEffect.late hplace hdeadline hleft
      · rename_i hleft
        cases h
        refine ParentEffect.waits hplace ?_
        intro deadline' hsome
        rw [hdeadline] at hsome
        cases hsome
        exact Int.not_le.mp hleft
  · rename_i limit hplace
    split at h
    · cases h
      exact ParentEffect.interrupted hplace rfl
    · cases h
      exact ParentEffect.failed hplace rfl
    · split at h
      · rename_i hready
        cases h
        exact ParentEffect.selected hplace hready
      · rename_i hready
        have hidle : (s.ready Stream.out || s.ready Stream.err) = false := by
          simpa using hready
        split at h
        · cases h
        · split at h
          · cases h
            exact ParentEffect.idle hplace rfl hidle
          · cases h
  · rename_i outReady errReady hplace
    cases h
    exact ParentEffect.drainedOut hplace
  · rename_i errReady hplace
    cases h
    exact ParentEffect.drainedErr hplace
  · rename_i hplace
    split at h
    · rename_i hrunning
      cases h
      exact ParentEffect.again hplace hrunning
    · rename_i hended
      cases h
      exact ParentEffect.ended hplace hended
  · rename_i hplace
    cases h
    exact ParentEffect.lastOut hplace
  · rename_i hplace
    cases h
    exact ParentEffect.lastErr hplace
  · rename_i ret hplace
    split at h
    · cases h
    · rename_i hended
      cases h
      exact ParentEffect.reaped hplace hended
  · cases h

/-- A step of the call. -/
theorem executor_step_cases {cap : Nat} {s t : ExecState} {e : ExecEvent}
    (h : (executor cap).step s e = some t) :
    s.place.isDone = false ∧
    ((exists nanos, e = ExecEvent.tick nanos ∧ t = { s with now := s.now + nanos }) ∨
      (exists who count, e = ExecEvent.proc who count ∧ OpEffect cap who s t) ∨
      (exists x, e = ExecEvent.parent x ∧ ParentEffect x s t)) := by
  simp only [executor] at h
  split at h
  · cases h
  · rename_i hdone
    refine ⟨by simpa using hdone, ?_⟩
    cases e with
    | tick nanos =>
        cases h
        exact Or.inl ⟨nanos, rfl, rfl⟩
    | proc who count => exact Or.inr (Or.inl ⟨who, count, rfl, opEffect h⟩)
    | parent x => exact Or.inr (Or.inr ⟨x, rfl, parentEffect h⟩)

end Agent
end LeoOne
