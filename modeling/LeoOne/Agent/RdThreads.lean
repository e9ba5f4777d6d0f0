import LeoOne.Foundation.Pool
import LeoOne.Agent.RemoteDesktop

/-!
# The threads of the remote desktop

`remote_desktop.c` keeps two globals: `g_rd_ctx`, the context of the current
session, under `g_rd_mutex`, and `g_rd_thread_running`, which `leo_rd_stop` and
`leo_rd_stop_all` wait for, under `g_rd_exit_mutex`.  A step is one section under
one of the two mutexes, the call of `pthread_create`, or one turn of the loop of a
session thread.  Calls may overlap in any number.

A context is known by its number, in the order of the allocations: it stands for
the address that `g_rd_ctx` is compared with.
-/

namespace LeoOne
namespace Agent

open Foundation
open Wire

/-- The arguments of `leo_rd_start`, less the connection and the settings. -/
structure RdRequest where
  sessionId : List UInt8
  wsUrl : List UInt8
  mode : List UInt8
  fps : Int
  quality : Int
  maxWidth : Int
  maxHeight : Int

/-- The context that `g_rd_ctx` points to, as far as other threads use it. -/
structure RdCurrent where
  context : Nat
  sessionId : List UInt8
  shouldStop : Bool

/-- The globals, with the number of contexts that were allocated and what the calls
of `leo_rd_stop_all` have returned. -/
structure RdGlobals where
  ctx : Option RdCurrent
  threadRunning : Bool
  contexts : Nat
  returned : List Bool

/-- The steps.  `start` is the first section of `leo_rd_start`; `dropCtx` and
`dropRunning` are its sections after a failed `pthread_create`; `connect` and `turn`
are the session thread before and in its loop, and `clearCtx` and `clearRunning`
its tail. -/
inductive RdTask where
  | start (r : RdRequest)
  | setRunning (context : Nat) (session : RdSession)
  | create (context : Nat) (session : RdSession)
  | dropCtx (context : Nat)
  | dropRunning (context : Nat)
  | connect (context : Nat) (session : RdSession)
  | turn (context : Nat) (session : RdSession)
  | clearCtx (context : Nat)
  | clearRunning (context : Nat)
  | stop (sessionId : Option (List UInt8))
  | stopAll
  | wait (all : Bool)
  | waiting (all : Bool)

/-- What a step meets: whether `calloc`, `pthread_create` and the calls before the
loop succeed, what `lws_service` does, and whether the wait times out. -/
structure RdInput where
  allocates : Bool := true
  spawns : Bool := true
  connects : Bool := true
  callbacks : List RdCallback := []
  serviceFails : Bool := false
  overdue : Bool := false
  timesOut : Bool := false

/-- A step that is followed by others of the same thread. -/
def rdThen (s : RdGlobals) (tasks : List RdTask) : Outcome RdGlobals RdTask where
  shared := s
  cont := tasks
  spawned := []

/-- `leo_rd_stop_all` returns; `leo_rd_stop` returns nothing. -/
def rdReturn (s : RdGlobals) (all exited : Bool) : Outcome RdGlobals RdTask :=
  rdThen (if all then { s with returned := exited :: s.returned } else s) []

/-- The flag `should_stop` of a context. -/
def RdGlobals.shouldStop (s : RdGlobals) (context : Nat) : Bool :=
  s.ctx.any fun c => c.context = context && c.shouldStop

/-- Sets `should_stop` in the current context. -/
def RdGlobals.askToStop (s : RdGlobals) : RdGlobals :=
  { s with ctx := s.ctx.map fun c => { c with shouldStop := true } }

/-- One step of the functions and of the session threads. -/
def rdPerform (parse : List UInt8 -> Option Json) (k : RdTask) (x : RdInput)
    (s : RdGlobals) : Option (Outcome RdGlobals RdTask) :=
  match k with
  | RdTask.start r =>
      match leoRdStart
          { busy := s.ctx.isSome, allocates := x.allocates, spawns := true }
          r.sessionId r.wsUrl r.mode r.fps r.quality r.maxWidth r.maxHeight with
      | none => some (rdThen s [])
      | some session =>
          some
            (rdThen
              { s with
                ctx := some
                  { context := s.contexts
                    sessionId := session.sessionId
                    shouldStop := false }
                contexts := s.contexts + 1 }
              [RdTask.setRunning s.contexts session])
  | RdTask.setRunning context session =>
      some (rdThen { s with threadRunning := true } [RdTask.create context session])
  | RdTask.create context session =>
      if x.spawns then
        some { shared := s, cont := [], spawned := [[RdTask.connect context session]] }
      else some (rdThen s [RdTask.dropCtx context])
  | RdTask.dropCtx context =>
      some (rdThen { s with ctx := none } [RdTask.dropRunning context])
  | RdTask.dropRunning _ => some (rdThen { s with threadRunning := false } [])
  | RdTask.connect context session =>
      if x.connects then some (rdThen s [RdTask.turn context session])
      else some (rdThen s [RdTask.clearCtx context])
  | RdTask.turn context session =>
      -- `while (!sctx->done && !sctx->should_stop)`
      if session.done || s.shouldStop context then
        some (rdThen s [RdTask.clearCtx context])
      else
        let session' := (runCallbacks parse session x.callbacks).1
        if x.serviceFails then some (rdThen s [RdTask.clearCtx context])
        else
          some
            (rdThen s
              [RdTask.turn context (if x.overdue then expire session' else session')])
  | RdTask.clearCtx context =>
      let ctx := s.ctx.filter fun c => c.context ≠ context
      some (rdThen { s with ctx := ctx } [RdTask.clearRunning context])
  | RdTask.clearRunning _ => some (rdThen { s with threadRunning := false } [])
  | RdTask.stop sessionId =>
      match s.ctx with
      | none => some (rdThen s [])
      | some c =>
          if sessionId.any fun id => c.sessionId ≠ id then some (rdThen s [])
          else some (rdThen s.askToStop [RdTask.wait false])
  | RdTask.stopAll => some (rdThen s.askToStop [RdTask.wait true])
  | RdTask.wait all =>
      if s.threadRunning then some (rdThen s [RdTask.waiting all])
      else some (rdReturn s all true)
  | RdTask.waiting all =>
      -- a call of `pthread_cond_timedwait` that does not time out is followed by
      -- another look at the flag
      if x.timesOut then some (rdReturn s all false)
      else if s.threadRunning then some (rdThen s [RdTask.waiting all])
      else some (rdReturn s all true)

/-- The calls of the module. -/
inductive RdCall where
  | start (r : RdRequest)
  | stop (sessionId : Option (List UInt8))
  | stopAll

/-- The first step of a call. -/
def RdCall.entry : RdCall -> List RdTask
  | start r => [RdTask.start r]
  | stop sessionId => [RdTask.stop sessionId]
  | stopAll => [RdTask.stopAll]

abbrev RdState := Pool RdGlobals RdTask

abbrev RdEvent := PoolEvent RdCall RdInput

/-- Calls are made at any time, and their steps are interleaved in any order. -/
def rdThreads (parse : List UInt8 -> Option Json) : Machine RdState RdEvent :=
  Pool.machine RdCall.entry (rdPerform parse)

/-- The globals when the process starts. -/
def rdGlobals : RdGlobals where
  ctx := none
  threadRunning := false
  contexts := 0
  returned := []

def rdStart : RdState where
  shared := rdGlobals
  procs := []

/-!
## What a step does to the two globals
-/

/-- The context that the step works for, while `g_rd_ctx` has to point to it. -/
def RdTask.claim : RdTask -> Option Nat
  | setRunning context _ | create context _ | dropCtx context | connect context _
  | turn context _ | clearCtx context => some context
  | _ => none

def RdTask.claims (k : RdTask) : Bool :=
  k.claim.isSome

/-- The step belongs to a start that has set `g_rd_thread_running` and to whose
session the flag has not been taken back. -/
def RdTask.marks : RdTask -> Bool
  | create _ _ | dropCtx _ | dropRunning _ | connect _ _ | turn _ _ | clearCtx _
  | clearRunning _ => true
  | _ => false

/-- The step belongs to a thread that `pthread_create` has started. -/
def RdTask.isThread : RdTask -> Bool
  | connect _ _ | turn _ _ | clearCtx _ | clearRunning _ => true
  | _ => false

/-- The step resets `g_rd_thread_running`. -/
def RdTask.unmarks : RdTask -> Bool
  | dropRunning _ | clearRunning _ => true
  | _ => false

/-- The first section of `leo_rd_start` sets `g_rd_ctx`. -/
def RdTask.setsCtx (k : RdTask) (x : RdInput) (s : RdGlobals) : Bool :=
  match k with
  | start r =>
      (leoRdStart { busy := s.ctx.isSome, allocates := x.allocates, spawns := true }
        r.sessionId r.wsUrl r.mode r.fps r.quality r.maxWidth r.maxHeight).isSome
  | _ => false

/-- The step ends the wait of `leo_rd_stop_all`, because the flag is reset. -/
def RdTask.returnsTrue (k : RdTask) (x : RdInput) (s : RdGlobals) : Bool :=
  match k with
  | wait all => all && !s.threadRunning
  | waiting all => all && !x.timesOut && !s.threadRunning
  | _ => false

/-- The number of the current context. -/
def RdGlobals.current (s : RdGlobals) : Option Nat :=
  s.ctx.map fun c => c.context

/-- Everything that a step does to the globals, and what it makes pending. -/
inductive RdEffect (x : RdInput) (s : RdGlobals) :
    RdTask -> RdGlobals -> List RdTask -> Prop where
  | claimed {r t session} (hfree : s.current = none)
      (hsets : (RdTask.start r).setsCtx x s = true) (hctx : t.current = some s.contexts)
      (hrunning : t.threadRunning = s.threadRunning) (hreturned : t.returned = s.returned) :
      RdEffect x s (RdTask.start r) t [RdTask.setRunning s.contexts session]
  | marked {context session} :
      RdEffect x s (RdTask.setRunning context session) { s with threadRunning := true }
        [RdTask.create context session]
  | moved {k j} (hclaim : k.claim = j.claim) (hmarks : k.marks = true)
      (hmarks' : j.marks = true) : RdEffect x s k s [j]
  | dropped {context} :
      RdEffect x s (RdTask.dropCtx context) { s with ctx := none }
        [RdTask.dropRunning context]
  | cleared {context t} (hctx : t.current = s.current.filter (· ≠ context))
      (hrunning : t.threadRunning = s.threadRunning) (hreturned : t.returned = s.returned) :
      RdEffect x s (RdTask.clearCtx context) t [RdTask.clearRunning context]
  | unmarked {k} (hclaim : k.claim = none) (hmarks : k.marks = true)
      (hunmarks : k.unmarks = true) : RdEffect x s k { s with threadRunning := false } []
  | called {k t created} (hctx : t.current = s.current)
      (hrunning : t.threadRunning = s.threadRunning) (hclaim : k.claim = none)
      (hmarks : k.marks = false)
      (hcreated : forall j, j ∈ created -> j.claim = none ∧ j.marks = false)
      (hreturned : t.returned = s.returned ∨
        exists exited, t.returned = exited :: s.returned ∧
          (exited = true -> k.returnsTrue x s = true)) :
      RdEffect x s k t created

theorem RdGlobals.current_askToStop (s : RdGlobals) : s.askToStop.current = s.current := by
  simp [askToStop, current, Function.comp_def]

/-- A call that does nothing to the globals. -/
theorem RdEffect.same {x : RdInput} {s : RdGlobals} {k : RdTask} {created : List RdTask}
    (hclaim : k.claim = none) (hmarks : k.marks = false)
    (hcreated : forall j, j ∈ created -> j.claim = none ∧ j.marks = false) :
    RdEffect x s k s created :=
  RdEffect.called rfl rfl hclaim hmarks hcreated (Or.inl rfl)

/-- A wait that ends. -/
theorem rdEffect_return {x : RdInput} {s : RdGlobals} {k : RdTask} {all exited : Bool}
    (hclaim : k.claim = none) (hmarks : k.marks = false)
    (hexited : exited = true -> all = true -> k.returnsTrue x s = true) :
    RdEffect x s k (rdReturn s all exited).shared (rdReturn s all exited).created := by
  cases all with
  | false =>
      exact RdEffect.same hclaim hmarks (by simp [rdReturn, rdThen, Outcome.created])
  | true =>
      refine RdEffect.called rfl rfl hclaim hmarks
        (by simp [rdReturn, rdThen, Outcome.created]) ?_
      exact Or.inr ⟨exited, rfl, fun h => hexited h rfl⟩

theorem rdEffect {parse : List UInt8 -> Option Json} {k : RdTask} {x : RdInput}
    {s : RdGlobals} {o : Outcome RdGlobals RdTask}
    (h : rdPerform parse k x s = some o) : RdEffect x s k o.shared o.created := by
  cases k with
  | start r =>
      simp only [rdPerform] at h
      split at h
      · cases h
        exact RdEffect.same rfl rfl (by simp [rdThen, Outcome.created])
      · rename_i session hstart
        cases h
        have hfree : s.ctx = none := by
          cases hctx : s.ctx with
          | none => rfl
          | some c => simp [leoRdStart, hctx] at hstart
        have hsets : (RdTask.start r).setsCtx x s = true := by
          simp [RdTask.setsCtx, hstart]
        exact RdEffect.claimed (by simp [RdGlobals.current, hfree]) hsets rfl rfl rfl
  | setRunning context session =>
      cases h
      exact RdEffect.marked
  | create context session =>
      simp only [rdPerform] at h
      split at h
      · cases h
        exact RdEffect.moved rfl rfl rfl
      · cases h
        exact RdEffect.moved rfl rfl rfl
  | dropCtx context =>
      cases h
      exact RdEffect.dropped
  | dropRunning context =>
      cases h
      exact RdEffect.unmarked rfl rfl rfl
  | connect context session =>
      simp only [rdPerform] at h
      split at h
      · cases h
        exact RdEffect.moved rfl rfl rfl
      · cases h
        exact RdEffect.moved rfl rfl rfl
  | turn context session =>
      simp only [rdPerform] at h
      split at h
      · cases h
        exact RdEffect.moved rfl rfl rfl
      · split at h
        · cases h
          exact RdEffect.moved rfl rfl rfl
        · cases h
          exact RdEffect.moved rfl rfl rfl
  | clearCtx context =>
      cases h
      refine RdEffect.cleared ?_ rfl rfl
      cases hctx : s.ctx with
      | none =>
          simp [RdGlobals.current, rdThen, hctx]
      | some c =>
          by_cases hsame : c.context = context
          · simp [RdGlobals.current, rdThen, hctx, hsame, Option.filter]
          · simp [RdGlobals.current, rdThen, hctx, hsame, Option.filter]
  | clearRunning context =>
      cases h
      exact RdEffect.unmarked rfl rfl rfl
  | stop sessionId =>
      simp only [rdPerform] at h
      split at h
      · cases h
        exact RdEffect.same rfl rfl (by simp [rdThen, Outcome.created])
      · split at h
        · cases h
          exact RdEffect.same rfl rfl (by simp [rdThen, Outcome.created])
        · cases h
          refine RdEffect.called s.current_askToStop rfl rfl rfl ?_ (Or.inl rfl)
          simp [rdThen, Outcome.created, RdTask.claim, RdTask.marks]
  | stopAll =>
      cases h
      refine RdEffect.called s.current_askToStop rfl rfl rfl ?_ (Or.inl rfl)
      simp [rdThen, Outcome.created, RdTask.claim, RdTask.marks]
  | wait all =>
      simp only [rdPerform] at h
      split at h
      · cases h
        refine RdEffect.same rfl rfl ?_
        simp [rdThen, Outcome.created, RdTask.claim, RdTask.marks]
      · rename_i hstopped
        cases h
        refine rdEffect_return rfl rfl ?_
        intro _ hall
        simp [RdTask.returnsTrue, hall, hstopped]
  | waiting all =>
      simp only [rdPerform] at h
      split at h
      · cases h
        refine rdEffect_return rfl rfl ?_
        intro h
        cases h
      · rename_i hwakes
        split at h
        · cases h
          refine RdEffect.same rfl rfl ?_
          simp [rdThen, Outcome.created, RdTask.claim, RdTask.marks]
        · rename_i hstopped
          cases h
          refine rdEffect_return rfl rfl ?_
          intro _ hall
          simp [RdTask.returnsTrue, hall, hwakes, hstopped]

/-!
## The law of the two globals

It is stated about the list of the pending steps, so that it can be used wherever
these steps are part of a larger system.
-/

/-- At most one start or session works with a context that has to be current, and
it is the current one; while a start has set the flag for a session that is not
over, the flag is set. -/
structure RdLaw (s : RdGlobals) (tasks : List RdTask) : Prop where
  claims : tasks.countP RdTask.claims = s.current.toList.length
  current : forall k, k ∈ tasks -> forall context, k.claim = some context ->
    s.current = some context
  running : tasks.countP RdTask.marks ≠ 0 -> s.threadRunning = true

theorem rdLaw_start : RdLaw rdGlobals [] := by
  constructor
  · rfl
  · intro k hk
    cases hk
  · intro h
    exact absurd rfl h

theorem claim_of_countP_eq_zero {tasks : List RdTask}
    (h : tasks.countP RdTask.claims = 0) {k : RdTask} (hk : k ∈ tasks) :
    k.claim = none := by
  have hnone := List.countP_eq_zero.mp h k hk
  simpa [RdTask.claims] using hnone

/-- A step that claims a context is the only one. -/
theorem RdLaw.claims_one {s : RdGlobals} {tasks : List RdTask} (h : RdLaw s tasks)
    {k : RdTask} (hk : k ∈ tasks) {context : Nat} (hclaim : k.claim = some context) :
    tasks.countP RdTask.claims = 1 := by
  rw [h.claims, h.current k hk context hclaim]
  rfl

/-- The law after a step that takes the claim away. -/
theorem RdLaw.release {s t : RdGlobals} {tasks tasks' : List RdTask} (h : RdLaw s tasks)
    {k : RdTask} (hk : k ∈ tasks) {context : Nat} (hclaim : k.claim = some context)
    (hclaims : tasks'.countP RdTask.claims + 1 = tasks.countP RdTask.claims)
    (hmarks : tasks'.countP RdTask.marks = tasks.countP RdTask.marks)
    (hcurrent : t.current = none) (hrunning : t.threadRunning = s.threadRunning) :
    RdLaw t tasks' := by
  have hone := h.claims_one hk hclaim
  have hnone : tasks'.countP RdTask.claims = 0 := by omega
  constructor
  · rw [hnone, hcurrent]
    rfl
  · intro j hj c hsome
    rw [claim_of_countP_eq_zero hnone hj] at hsome
    cases hsome
  · rw [hmarks, hrunning]
    exact h.running

/-- The law after a step that keeps the current context and the claims. -/
theorem RdLaw.keep {s t : RdGlobals} {tasks tasks' created : List RdTask}
    (h : RdLaw s tasks) (hcurrent : t.current = s.current)
    (hclaims : tasks'.countP RdTask.claims = tasks.countP RdTask.claims)
    (hmem : forall j, j ∈ tasks' -> j ∈ created ∨ j ∈ tasks)
    (hcreated : forall j, j ∈ created -> forall context, j.claim = some context ->
      s.current = some context)
    (hrunning : tasks'.countP RdTask.marks ≠ 0 -> t.threadRunning = true) :
    RdLaw t tasks' := by
  constructor
  · rw [hclaims, hcurrent]
    exact h.claims
  · intro j hj context hsome
    rw [hcurrent]
    rcases hmem j hj with hnew | hold
    · exact hcreated j hnew context hsome
    · exact h.current j hold context hsome
  · exact hrunning

/-- Each step keeps the law, if the flag is only reset when no other session relies
on it. -/
theorem RdLaw.step {x : RdInput} {s t : RdGlobals} {tasks tasks' created : List RdTask} {k : RdTask}
    (h : RdLaw s tasks) (hk : k ∈ tasks)
    (hguard : k.unmarks = true -> tasks.countP RdTask.marks = 1)
    (heffect : RdEffect x s k t created) (hreplaced : Pool.Replaced k created tasks tasks') :
    RdLaw t tasks' := by
  have hclaims := hreplaced RdTask.claims
  have hmarks := hreplaced RdTask.marks
  cases heffect with
  | claimed hfree _ hctx hrunning =>
      have hold : tasks.countP RdTask.claims = 0 := by
        rw [h.claims, hfree]
        rfl
      replace hclaims : tasks'.countP RdTask.claims = tasks.countP RdTask.claims + 1 :=
        hclaims
      replace hmarks : tasks'.countP RdTask.marks = tasks.countP RdTask.marks := hmarks
      constructor
      · rw [hclaims, hold, hctx]
        rfl
      · intro j hj context hsome
        rcases hreplaced.mem hj with hnew | hmem
        · cases List.mem_singleton.mp hnew
          exact hctx.trans hsome
        · rw [claim_of_countP_eq_zero hold hmem] at hsome
          cases hsome
      · rw [hmarks, hrunning]
        exact h.running
  | marked =>
      refine h.keep rfl (Nat.add_right_cancel hclaims) (fun j => hreplaced.mem) ?_ ?_
      · intro j hj context hsome
        cases List.mem_singleton.mp hj
        exact h.current _ hk context hsome
      · intro _
        rfl
  | moved hclaim hmarksk hmarksj =>
      rename_i j
      have hclaimsj : k.claims = j.claims := by
        unfold RdTask.claims
        rw [hclaim]
      simp only [List.countP_singleton, hclaimsj, hmarksk, hmarksj] at hclaims hmarks
      apply h.keep rfl (Nat.add_right_cancel hclaims) fun j => hreplaced.mem
      · intro i hi context hsome
        cases List.mem_singleton.mp hi
        exact h.current k hk context (hclaim.trans hsome)
      · rw [Nat.add_right_cancel hmarks]
        exact h.running
  | dropped =>
      exact h.release hk rfl hclaims (Nat.add_right_cancel hmarks) rfl rfl
  | cleared hctx hrunning =>
      have hcurrent := h.current _ hk _ rfl
      apply h.release hk rfl hclaims (Nat.add_right_cancel hmarks) _ hrunning
      rw [hctx, hcurrent]
      simp [Option.filter]
  | unmarked hclaim hmarksk hunmarks =>
      have hone := hguard hunmarks
      have hclaimsk : k.claims = false := by
        unfold RdTask.claims
        rw [hclaim]
        rfl
      simp only [List.countP_singleton, hclaimsk, hmarksk, List.countP_nil] at hclaims hmarks
      refine h.keep rfl hclaims (fun j => hreplaced.mem) ?_ ?_
      · intro j hj
        cases hj
      · intro hsome
        -- the only step that relied on the flag was this one
        rw [hone] at hmarks
        exact absurd (Nat.add_right_cancel hmarks) hsome
  | called hctx hrunning hclaim hmarksk hcreated =>
      have hclaimsk : k.claims = false := by
        unfold RdTask.claims
        rw [hclaim]
        rfl
      have hnew : created.countP RdTask.claims = 0 := by
        apply List.countP_eq_zero.mpr
        intro j hj
        simp [RdTask.claims, (hcreated j hj).left]
      have hnew' : created.countP RdTask.marks = 0 := by
        apply List.countP_eq_zero.mpr
        intro j hj
        simp [(hcreated j hj).right]
      simp only [List.countP_singleton, hclaimsk, hmarksk, hnew, hnew'] at hclaims hmarks
      apply h.keep hctx hclaims fun j => hreplaced.mem
      · intro j hj context hsome
        rw [(hcreated j hj).left] at hsome
        cases hsome
      · rw [hrunning]
        replace hmarks : tasks'.countP RdTask.marks = tasks.countP RdTask.marks := hmarks
        rw [hmarks]
        exact h.running

/-!
## Every interleaving
-/

/-- No start and no session resets `g_rd_thread_running` while another start has set
it for a session that is not over. -/
def resetsAlone (p : RdState) (k : RdTask) (_ : RdInput) : Bool :=
  !k.unmarks || Pool.pendingCount RdTask.marks p = 1

theorem rdLaw_preserved (parse : List UInt8 -> Option Json) :
    (rdThreads parse).Preserves (fun p e => Pool.guarded resetsAlone p e = true)
      (fun p => RdLaw p.shared p.procs.flatten) := by
  apply Pool.preserves
  · intro p p' call h hstarted
    have hentry : forall f : RdTask -> Bool, (forall r, f (RdTask.start r) = false) ->
        (forall id, f (RdTask.stop id) = false) -> f RdTask.stopAll = false ->
        call.entry.countP f = 0 := by
      intro f hstart hstop hall
      cases call with
      | start r => simp [RdCall.entry, hstart]
      | stop id => simp [RdCall.entry, hstop]
      | stopAll => simp [RdCall.entry, hall]
    have hclaims := hstarted.count RdTask.claims
    have hmarks := hstarted.count RdTask.marks
    rw [hentry _ (fun _ => rfl) (fun _ => rfl) rfl] at hclaims hmarks
    rw [hstarted.shared]
    have hnew : forall j, j ∈ call.entry -> j.claim = none := by
      intro j hj
      exact claim_of_countP_eq_zero (hentry _ (fun _ => rfl) (fun _ => rfl) rfl) hj
    refine @RdLaw.keep _ _ _ _ call.entry h rfl hclaims ?_ ?_ ?_
    · intro j hj
      rcases List.mem_flatten.mp hj with ⟨q, hq, hjq⟩
      rcases hstarted.pending ⟨q, hq, hjq⟩ with hmem | ⟨q', hq', hjq'⟩
      · exact Or.inl hmem
      · exact Or.inr (List.mem_flatten.mpr ⟨q', hq', hjq'⟩)
    · intro j hj context hsome
      rw [hnew j hj] at hsome
      cases hsome
    · intro hsome
      apply h.running
      intro hzero
      exact hsome (hmarks.trans hzero)
  · intro p p' x k o h hguard hperform hexecuted
    have hk : k ∈ p.procs.flatten := by
      rcases hexecuted.running with ⟨q, hq, hkq⟩
      exact List.mem_flatten.mpr ⟨q, hq, hkq⟩
    rw [hexecuted.shared]
    refine h.step hk ?_ (rdEffect hperform) hexecuted.replaced
    intro hunmarks
    show Pool.pendingCount RdTask.marks p = 1
    simpa [resetsAlone, hunmarks] using hguard

theorem RdTask.marks_of_isThread {k : RdTask} (h : k.isThread = true) : k.marks = true := by
  cases k with
  | connect | turn | clearCtx | clearRunning => rfl
  | _ => cases h

theorem RdTask.threadRunning_of_returnsTrue {k : RdTask} {x : RdInput} {s : RdGlobals}
    (h : k.returnsTrue x s = true) : s.threadRunning = false := by
  cases k with
  | wait all | waiting all =>
      simp only [returnsTrue, Bool.and_eq_true, Bool.not_eq_true'] at h
      exact h.right
  | _ => cases h

/-- A step after which a call of `leo_rd_stop_all` has returned true has found the
flag reset. -/
theorem RdEffect.returned_true {x : RdInput} {s t : RdGlobals} {k : RdTask}
    {created : List RdTask} (h : RdEffect x s k t created)
    (hreturned : t.returned = true :: s.returned) :
    s.threadRunning = false ∧ forall j, j ∈ created -> j.marks = false := by
  have hsame : t.returned ≠ s.returned := by
    rw [hreturned]
    exact List.cons_ne_self true s.returned
  cases h with
  | claimed _ _ _ _ heq | cleared _ _ heq =>
      exact absurd heq hsame
  | marked | moved | dropped | unmarked =>
      exact absurd rfl hsame
  | called _ _ _ _ hcreated hcases =>
      rcases hcases with heq | ⟨exited, heq, hstopped⟩
      · exact absurd heq hsame
      · rw [hreturned] at heq
        cases heq
        refine ⟨RdTask.threadRunning_of_returnsTrue (hstopped rfl), ?_⟩
        intro j hj
        exact (hcreated j hj).right

/-- In every interleaving in which no start and no session resets the flag for
another one: the flag is set as long as a session thread has not come to its final
section; at most one start or session works with a context, which is the current
one; and when `leo_rd_stop_all` returns true, no session thread is left. -/
theorem rd_thread_accounting (parse : List UInt8 -> Option Json) {es : List RdEvent}
    {q : RdState} (hrun : (rdThreads parse).run rdStart es = some q)
    (halone : (rdThreads parse).Meets
      (fun p e => Pool.guarded resetsAlone p e = true) rdStart es) :
    (forall k, q.Pending k -> k.isThread = true -> q.shared.threadRunning = true) ∧
      Pool.pendingCount RdTask.claims q ≤ 1 ∧
      (forall k context, q.Pending k -> k.claim = some context ->
        q.shared.current = some context) ∧
      forall e q', (rdThreads parse).step q e = some q' ->
        q'.shared.returned = true :: q.shared.returned ->
        forall k, q'.Pending k -> k.isThread = false := by
  have hlaw := (rdLaw_preserved parse).run rdLaw_start halone hrun
  have hmarked : forall k, q.Pending k -> k.marks = true ->
      q.shared.threadRunning = true := by
    intro k hk hmarks
    exact hlaw.running (Nat.ne_of_gt (Pool.pendingCount_pos hk hmarks))
  refine ⟨?_, ?_, ?_, ?_⟩
  · intro k hk hthread
    exact hmarked k hk (RdTask.marks_of_isThread hthread)
  · have hclaims := hlaw.claims
    show q.procs.flatten.countP RdTask.claims ≤ 1
    rw [hclaims]
    cases q.shared.current with
    | none => exact Nat.zero_le 1
    | some context => exact Nat.le_refl 1
  · rintro k context ⟨p, hp, hk⟩ hclaim
    exact hlaw.current k (List.mem_flatten.mpr ⟨p, hp, hk⟩) context hclaim
  · intro e q' hstep hreturned k hk
    rcases Pool.step_cases hstep with ⟨call, _, rfl⟩ |
      ⟨i, x, j, rest, o, _, hhead, hperform, rfl⟩
    · exact absurd hreturned.symm (List.cons_ne_self true _)
    · rcases (rdEffect hperform).returned_true hreturned with ⟨hstopped, hcreated⟩
      cases hthread : k.isThread with
      | false =>
          rfl
      | true =>
          have hmarks := RdTask.marks_of_isThread hthread
          rcases (Pool.executed hhead o).pending hk with hnew | hold
          · rw [hcreated k hnew] at hmarks
            cases hmarks
          · rw [hmarked k hold hmarks] at hstopped
            cases hstopped

/-!
## A session that is started in the tail of another one
-/

namespace Sample

def rdRequest : RdRequest where
  sessionId := utf8 "d0000000-0000-4000-8000-000000000001"
  wsUrl := utf8 "wss://relay.example/ws/remote-desktop"
  mode := utf8 "view"
  fps := 8
  quality := 60
  maxWidth := 1920
  maxHeight := 1080

/-- A session whose thread cannot connect and ends. -/
def rdWhole : List RdEvent :=
  [PoolEvent.start (RdCall.start rdRequest), PoolEvent.exec 0 {}, PoolEvent.exec 0 {},
    PoolEvent.exec 0 {}, PoolEvent.exec 1 { connects := false }, PoolEvent.exec 1 {},
    PoolEvent.exec 1 {}]

/-- The same up to the section that clears `g_rd_ctx`; then a second session is
started, the first thread comes to its final section, and `leo_rd_stop_all` is
called. -/
def rdOverlap : List RdEvent :=
  [PoolEvent.start (RdCall.start rdRequest), PoolEvent.exec 0 {}, PoolEvent.exec 0 {},
    PoolEvent.exec 0 {}, PoolEvent.exec 1 { connects := false }, PoolEvent.exec 1 {},
    PoolEvent.start (RdCall.start rdRequest), PoolEvent.exec 2 {}, PoolEvent.exec 2 {},
    PoolEvent.exec 2 {}, PoolEvent.exec 1 {}, PoolEvent.start RdCall.stopAll,
    PoolEvent.exec 4 {}, PoolEvent.exec 4 {}]

end Sample

theorem rd_thread_accounting_one_session :
    exists q, (rdThreads fun _ => none).run rdStart Sample.rdWhole = some q ∧
      Pool.pendingCount RdTask.claims q ≤ 1 ∧
      forall k, q.Pending k -> k.isThread = true -> q.shared.threadRunning = true := by
  obtain ⟨q, hrun⟩ : exists q,
      (rdThreads fun _ => none).run rdStart Sample.rdWhole = some q := ⟨_, rfl⟩
  have halone : (rdThreads fun _ => none).Meets
      (fun p e => Pool.guarded resetsAlone p e = true) rdStart Sample.rdWhole := by
    decide +kernel
  rcases rd_thread_accounting (fun _ => none) hrun halone with ⟨hflag, hone, _, _⟩
  exact ⟨q, hrun, hone, hflag⟩

/-- The first thread resets the flag of the second one: `leo_rd_stop_all` returns true
while the second thread is about to use the settings and the connection. -/
theorem stop_all_overlooks_session :
    exists q, (rdThreads fun _ => none).run rdStart Sample.rdOverlap = some q ∧
      q.shared.threadRunning = false ∧ q.shared.returned = [true] ∧
      exists session, q.Pending (RdTask.connect 1 session) := by
  refine ⟨_, rfl, rfl, rfl, ?_⟩
  exact ⟨_, _, List.mem_cons_of_mem _ (List.mem_cons_of_mem _ (List.mem_cons_of_mem _
    List.mem_cons_self)), List.mem_cons_self⟩

end Agent
end LeoOne
