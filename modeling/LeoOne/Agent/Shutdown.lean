import LeoOne.Foundation.Anchors
import LeoOne.Agent.StopLaws

/-!
# Stopping the agent

When `leo_agent_stop` frees the agent, its waits have found no command thread, no
session thread and no thread of the connection, and by the laws there is none since.
Every other step stands in front of a step of one of these threads, so nothing is
pending.
-/

namespace LeoOne
namespace Agent

open Foundation
open Wire

/-!
## Every interleaving
-/

/-- The steps that end a goroutine of the process: those of the loop and of
`leo_agent_stop`, and those of the threads that were started. -/
def ProcTask.isAnchor : ProcTask -> Bool
  | command (Task.run _ _ _) | command (Task.aptInstall _ _ _ _)
  | command (Task.systemctl _ _ _) | command Task.release => true
  | command _ => false
  | desktop k => k.isThread
  | _ => true

theorem runOrder_anchored (x : Input) (ticket : Nat) (id : List UInt8) (order : Order) :
    Pool.AnchoredProc ProcTask.isAnchor
      ((runOrder x ticket id order).2.map ProcTask.command) := by
  cases order with
  | installPkg names timeoutSecs | reboot delaySec timeoutSecs =>
      simp only [runOrder]
      split
      · intro k hk
        cases hk
        rfl
      · intro k hk
        cases hk
        rfl
  | script | installPatches | fileTransfer | collectInventory =>
      intro k hk
      cases hk
      rfl

/-- A command starts at most one thread, at its first step. -/
theorem spawned_perform {cJSONParse : List UInt8 -> Option Json} {k : Task} {x : Input}
    {s : AgentState} {o : Outcome AgentState Task}
    (h : perform cJSONParse k x s = some o) :
    o.spawned = [] ∨ exists ticket id order, o.spawned = [[Task.run ticket id order]] := by
  cases k with
  | receive text =>
      simp only [perform] at h
      split at h
      · cases h
        exact Or.inl rfl
      · split at h
        · cases h
          exact Or.inl rfl
        · cases h
          exact Or.inl rfl
        · cases h
          exact Or.inl rfl
  | spawn ticket id order =>
      simp only [perform] at h
      split at h
      · cases h
        exact Or.inr ⟨ticket, _, order, rfl⟩
      · cases h
        exact Or.inl rfl
  | reserve | allocate | send =>
      simp only [perform] at h
      split at h
      · cases h
        exact Or.inl rfl
      · cases h
        exact Or.inl rfl
  | run | aptInstall | systemctl | release =>
      cases h
      exact Or.inl rfl

/-- A start creates at most one thread, at its first step. -/
theorem spawned_rdPerform {parse : List UInt8 -> Option Json} {k : RdTask} {x : RdInput}
    {s : RdGlobals} {o : Outcome RdGlobals RdTask} (h : rdPerform parse k x s = some o) :
    o.spawned = [] ∨ exists context session, o.spawned = [[RdTask.connect context session]] := by
  cases k with
  | create context session =>
      simp only [rdPerform] at h
      split at h
      · cases h
        exact Or.inr ⟨context, session, rfl⟩
      · cases h
        exact Or.inl rfl
  | turn | stop | waiting =>
      left
      simp only [rdPerform] at h
      split at h
      · cases h
        rfl
      · split at h
        · cases h
          rfl
        · cases h
          rfl
  | start | connect | wait =>
      left
      simp only [rdPerform] at h
      split at h
      · cases h
        rfl
      · cases h
        rfl
  | setRunning | dropCtx | dropRunning | clearCtx | clearRunning | stopAll =>
      left
      cases h
      rfl

theorem cont_command_anchored {cJSONParse : List UInt8 -> Option Json} {k : Task} {x : Input}
    {s : AgentState} {o : Outcome AgentState Task}
    (h : perform cJSONParse k x s = some o)
    (hk : (ProcTask.command k).isAnchor = true) :
    Pool.AnchoredProc ProcTask.isAnchor (o.cont.map ProcTask.command) := by
  cases k with
  | run ticket id order =>
      cases h
      exact runOrder_anchored x ticket id order
  | aptInstall | systemctl =>
      cases h
      intro j hj
      cases hj
      rfl
  | release =>
      cases h
      exact Pool.anchoredProc_nil
  | receive | reserve | allocate | spawn | send =>
      cases hk

theorem cont_desktop_anchored {parse : List UInt8 -> Option Json} {k : RdTask} {x : RdInput}
    {s : RdGlobals} {o : Outcome RdGlobals RdTask} (h : rdPerform parse k x s = some o)
    (hk : k.isThread = true) :
    Pool.AnchoredProc ProcTask.isAnchor (o.cont.map ProcTask.desktop) := by
  cases k with
  | connect context session =>
      simp only [rdPerform] at h
      split at h
      · cases h
        exact Pool.anchoredProc_concat (q := []) rfl
      · cases h
        exact Pool.anchoredProc_concat (q := []) rfl
  | turn context session =>
      simp only [rdPerform] at h
      split at h
      · cases h
        exact Pool.anchoredProc_concat (q := []) rfl
      · split at h
        · cases h
          exact Pool.anchoredProc_concat (q := []) rfl
        · cases h
          exact Pool.anchoredProc_concat (q := []) rfl
  | clearCtx context =>
      cases h
      exact Pool.anchoredProc_concat (q := []) rfl
  | clearRunning context =>
      cases h
      exact Pool.anchoredProc_nil
  | _ => cases hk

/-- What follows a step of the loop or of `leo_agent_stop` ends in such a step. -/
theorem cont_control_anchored {cJSONParse parseWithLength : List UInt8 -> Option Json}
    {k : ProcTask} {x : ProcInput} {s : AgentProc} {o : Outcome AgentProc ProcTask}
    (h : procPerform cJSONParse parseWithLength k x s = some o)
    (hcommand : k.command? = none) (hdesktop : k.desktop? = none) :
    Pool.AnchoredProc ProcTask.isAnchor o.cont ∧ o.spawned = [] := by
  have hone : forall j : ProcTask, j.isAnchor = true ->
      Pool.AnchoredProc ProcTask.isAnchor [j] := by
    intro j hj
    exact Pool.anchoredProc_concat (q := []) hj
  cases k with
  | command k => cases hcommand
  | desktop k => cases hdesktop
  | loop | connWait =>
      simp only [procPerform] at h
      split at h
      · cases h
        exact ⟨hone _ rfl, rfl⟩
      · cases h
        exact ⟨hone _ rfl, rfl⟩
  | rdStopped =>
      simp only [procPerform] at h
      split at h
      · cases h
        exact ⟨hone _ rfl, rfl⟩
      · cases h
        exact ⟨Pool.anchoredProc_nil, rfl⟩
  | service =>
      simp only [procPerform] at h
      split at h
      · cases h
        exact ⟨hone _ rfl, rfl⟩
      · cases h
        exact ⟨Pool.anchoredProc_concat rfl, rfl⟩
  | execWait =>
      simp only [procPerform] at h
      split at h
      · cases h
        exact ⟨hone _ rfl, rfl⟩
      · cases h
        exact ⟨Pool.anchoredProc_concat (q := [_]) rfl, rfl⟩
  | execWaiting =>
      simp only [procPerform] at h
      split at h
      · cases h
        exact ⟨Pool.anchoredProc_nil, rfl⟩
      · split at h
        · cases h
          exact ⟨hone _ rfl, rfl⟩
        · cases h
          exact ⟨Pool.anchoredProc_concat (q := [_]) rfl, rfl⟩
  | connWaiting =>
      simp only [procPerform] at h
      split at h
      · cases h
        exact ⟨hone _ rfl, rfl⟩
      · split at h
        · cases h
          exact ⟨Pool.anchoredProc_nil, rfl⟩
        · cases h
          exact ⟨hone _ rfl, rfl⟩
  | connStop =>
      cases h
      exact ⟨hone _ rfl, rfl⟩
  | leave | free =>
      cases h
      exact ⟨Pool.anchoredProc_nil, rfl⟩

/-- Every goroutine of the process that is not over ends in an anchor. -/
theorem anchored_process (cJSONParse parseWithLength : List UInt8 -> Option Json) :
    (process cJSONParse parseWithLength).Preserves (fun _ _ => True)
      (Pool.Anchored ProcTask.isAnchor) := by
  apply Pool.anchored_preserved
  · intro r
    exact r.elim
  · intro k x s o hperform hk
    cases k with
    | command k =>
        rcases Option.map_eq_some_iff.mp hperform with ⟨o', ho', rfl⟩
        exact cont_command_anchored ho' hk
    | desktop k =>
        rcases Option.map_eq_some_iff.mp hperform with ⟨o', ho', rfl⟩
        exact cont_desktop_anchored ho' hk
    | _ => exact (cont_control_anchored hperform rfl rfl).left
  · intro k x s o hperform q hq
    cases k with
    | command k =>
        rcases Option.map_eq_some_iff.mp hperform with ⟨o', ho', rfl⟩
        rcases List.mem_map.mp hq with ⟨js, hjs, rfl⟩
        rcases spawned_perform ho' with hnone | ⟨ticket, id, order, hone⟩
        · rw [hnone] at hjs
          cases hjs
        · rw [hone] at hjs
          cases List.mem_singleton.mp hjs
          exact Pool.anchoredProc_concat (q := []) rfl
    | desktop k =>
        rcases Option.map_eq_some_iff.mp hperform with ⟨o', ho', rfl⟩
        rcases List.mem_map.mp hq with ⟨js, hjs, rfl⟩
        rcases spawned_rdPerform ho' with hnone | ⟨context, session, hone⟩
        · rw [hnone] at hjs
          cases hjs
        · rw [hone] at hjs
          cases List.mem_singleton.mp hjs
          exact Pool.anchoredProc_concat (q := []) rfl
    | _ =>
        rw [(cont_control_anchored hperform rfl rfl).right] at hq
        cases hq

theorem anchored_start : Pool.Anchored ProcTask.isAnchor processStart := by
  intro q hq
  rcases List.mem_cons.mp hq with rfl | hq'
  · exact Pool.anchoredProc_concat (q := []) rfl
  · rw [List.mem_singleton.mp hq']
    exact Pool.anchoredProc_concat (q := []) rfl

/-- An anchor is a step of the loop or of `leo_agent_stop`, of a command that holds a
slot, or of a session that relies on the flag. -/
theorem isAnchor_cases {k : ProcTask} (h : k.isAnchor = true) :
    k.isLoop = true ∨ k.isStop = true ∨
      (exists j, k.command? = some j ∧ j.holdsSlot = true) ∨
      exists j, k.desktop? = some j ∧ j.marks = true := by
  cases k with
  | command j =>
      right; right; left
      refine ⟨j, rfl, ?_⟩
      cases j with
      | run | aptInstall | systemctl | release => rfl
      | _ => cases h
  | desktop j =>
      right; right; right
      exact ⟨j, rfl, RdTask.marks_of_isThread h⟩
  | loop | service | leave => exact Or.inl rfl
  | _ => exact Or.inr (Or.inl rfl)

/-- When the agent has been freed, no step of any thread is pending. -/
theorem none_pending_of_freed {p : ProcState} (hparts : PartLaw p) (hcontrol : ControlLaw p)
    (hanchored : Pool.Anchored ProcTask.isAnchor p)
    (hfreed : p.shared.stopped = some StopEnd.freed) (k : ProcTask) : ¬ p.Pending k := by
  rcases hcontrol.freed hfreed with ⟨hwaited, htrue, hexited⟩
  have hloops := hcontrol.loops
  have hstops := hcontrol.stops
  rw [hexited, Bool.toNat_true] at hloops
  rw [hfreed, Option.toList_some, List.length_singleton] at hstops
  apply hanchored.none_pending
  apply Pool.pendingCount_eq_zero
  intro j hj
  cases hkind : j.isAnchor with
  | false => rfl
  | true =>
      exfalso
      rcases isAnchor_cases hkind with hloop | hstop | ⟨i, hi, hholds⟩ | ⟨i, hi, hmarks⟩
      · have hpos := Pool.pendingCount_pos hj hloop
        omega
      · have hpos := Pool.pendingCount_pos hj hstop
        omega
      · have hnone := List.countP_eq_zero.mp (hparts.waited hwaited) i
          (Pool.mem_part hj hi)
        exact hnone hholds
      · have hnone := List.countP_eq_zero.mp (hparts.returned htrue).right i
          (Pool.mem_part hj hi)
        exact hnone hmarks

/-- In every interleaving that meets the condition: when `leo_agent_stop` has freed the
agent, no step of a command, inventory or session thread is pending, nor of the thread
that could create one, and this does not change in any continuation. -/
theorem shutdown_safety (cJSONParse parseWithLength : List UInt8 -> Option Json)
    {es : List ProcEvent} {q : ProcState}
    (hrun : (process cJSONParse parseWithLength).run processStart es = some q)
    (horder : (process cJSONParse parseWithLength).Meets
      (fun p e => Pool.guarded stopsInOrder p e = true) processStart es)
    (hfreed : q.shared.stopped = some StopEnd.freed) :
    forall es' q', (process cJSONParse parseWithLength).run q es' = some q' ->
      forall k, ¬ q'.Pending k := by
  have hparts := (partLaw_preserved cJSONParse parseWithLength).run partLaw_start horder hrun
  have hcontrol := (controlLaw_preserved cJSONParse parseWithLength).run controlLaw_start
    horder hrun
  have hanchored := (anchored_process cJSONParse parseWithLength).run_all anchored_start hrun
  have hnone := none_pending_of_freed hparts hcontrol hanchored hfreed
  intro es' q' hrun'
  cases es' with
  | nil =>
      cases hrun'
      exact hnone
  | cons e es' =>
      rcases Machine.run_cons hrun' with ⟨r, hstep, _⟩
      cases e with
      | start request => exact request.elim
      | exec i x =>
          have hstuck : (process cJSONParse parseWithLength).step q (PoolEvent.exec i x) =
              none := Pool.step_of_none_pending hnone i x
          rw [hstuck] at hstep
          cases hstep

/-!
## A command that arrives after the wait
-/

namespace Sample

/-- The thread of the connection receives the reboot and starts its thread, which is
goroutine 2. -/
def rebootArrives : List ProcEvent :=
  [PoolEvent.exec 0 {}, PoolEvent.exec 0 { text := some rebootMessage.marshal },
    PoolEvent.exec 0 {}, PoolEvent.exec 0 {}, PoolEvent.exec 0 {}, PoolEvent.exec 0 {}]

/-- The remote desktop is stopped and the connection asked to stop; its thread leaves,
and the agent is freed. -/
def stopsAndFrees : List ProcEvent :=
  [PoolEvent.exec 1 {}, PoolEvent.exec 1 {}, PoolEvent.exec 1 {}, PoolEvent.exec 1 {},
    PoolEvent.exec 0 {}, PoolEvent.exec 0 {}, PoolEvent.exec 0 {}, PoolEvent.exec 1 {},
    PoolEvent.exec 1 {}]

/-- The reboot is executed, and nothing is left to wait for. -/
def rebootRuns : List ProcEvent :=
  [PoolEvent.exec 2 { command := scheduled }, PoolEvent.exec 2 {}, PoolEvent.exec 2 {},
    PoolEvent.exec 1 {}]

/-- The reboot is executed before the wait for the command threads. -/
def stopAfterReboot : List ProcEvent :=
  rebootArrives ++ rebootRuns ++ stopsAndFrees

/-- The reboot arrives after the wait for the command threads. -/
def stopBeforeReboot : List ProcEvent :=
  PoolEvent.exec 1 {} :: rebootArrives ++ stopsAndFrees

end Sample

theorem shutdown_safety_after_reboot :
    exists q, (process Sample.parser fun _ => none).run processStart
        Sample.stopAfterReboot = some q ∧
      q.shared.stopped = some StopEnd.freed ∧ forall k, ¬ q.Pending k := by
  have heval : ((process Sample.parser fun _ => none).run processStart
      Sample.stopAfterReboot).map (fun q => q.shared.stopped) =
      some (some StopEnd.freed) := by
    decide +kernel
  rcases Option.map_eq_some_iff.mp heval with ⟨q, hrun, hfreed⟩
  have horder : (process Sample.parser fun _ => none).Meets
      (fun p e => Pool.guarded stopsInOrder p e = true) processStart
      Sample.stopAfterReboot := by
    decide +kernel
  exact ⟨q, hrun, hfreed,
    shutdown_safety Sample.parser (fun _ => none) hrun horder hfreed [] q rfl⟩

/-- The agent is freed while the thread of the reboot has still to use it. -/
theorem freed_before_command_thread :
    exists q ticket id order, (process Sample.parser fun _ => none).run processStart
        Sample.stopBeforeReboot = some q ∧
      q.shared.stopped = some StopEnd.freed ∧
      q.Pending (ProcTask.command (Task.run ticket id order)) := by
  refine ⟨_, 0, utf8 Sample.command.text, dispatchReboot (some (Json.obj [])), rfl, rfl, ?_⟩
  exact ⟨_, List.mem_cons_of_mem _ (List.mem_cons_of_mem _ List.mem_cons_self),
    List.mem_cons_self⟩

end Agent
end LeoOne
