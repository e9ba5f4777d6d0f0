import LeoOne.Agent.Process

/-!
# The laws of a stop

Two laws hold in every interleaving that meets the condition: one about the steps of
the commands and of the remote desktop, one about the loop of the connection and the
sequence of `leo_agent_stop`.
-/

namespace LeoOne
namespace Agent

open Foundation
open Wire

/-!
## The law of the commands and of the remote desktop
-/

/-- The counter counts the commands that hold a slot, and there is none after the wait
for them; the law of the remote desktop holds, and after `leo_rd_stop_all` has returned
true there is neither a session nor a start that will create one. -/
structure PartLaw (p : ProcState) : Prop where
  slots : p.shared.agent.execActiveCount = (commands p).countP Task.holdsSlot
  waited : p.shared.execWaited = true -> (commands p).countP Task.holdsSlot = 0
  desktop : RdLaw p.shared.desktop (desktops p)
  returned : true ∈ p.shared.desktop.returned ->
    (desktops p).countP RdTask.claims = 0 ∧ (desktops p).countP RdTask.marks = 0

theorem partLaw_start : PartLaw processStart := by
  constructor
  · rfl
  · intro h
    cases h
  · exact rdLaw_start
  · intro h
    cases h

/-- What a step of the loop or of `leo_agent_stop` leaves alone. -/
theorem ControlEffect.frame {s t : AgentProc} {k : ProcTask} {created : List ProcTask}
    (h : ControlEffect s k t created) :
    t.agent = s.agent ∧ t.desktop = s.desktop ∧ k.command? = none ∧ k.desktop? = none ∧
      forall j, j ∈ created -> j.isQuiet = true := by
  have hnot : forall k : ProcTask, k.isLoop = true ∨ k.isStop = true ->
      k.command? = none ∧ k.desktop? = none := by
    intro k hk
    cases k with
    | command k | desktop k =>
        rcases hk with hloop | hstop
        · cases hloop
        · cases hstop
    | _ => exact ⟨rfl, rfl⟩
  have hquiet : forall j : ProcTask, j.isStop = true -> j.isQuiet = true := by
    intro j hj
    cases j with
    | command k | desktop k => cases hj
    | _ => rfl
  cases h with
  | looped hk _ _ hall =>
      exact ⟨rfl, rfl, (hnot k (Or.inl hk)).left, (hnot k (Or.inl hk)).right, hall⟩
  | left | freed =>
      exact ⟨rfl, rfl, rfl, rfl, fun j hj => by cases hj⟩
  | waits hk hj =>
      refine ⟨rfl, rfl, (hnot k (Or.inr hk)).left, (hnot k (Or.inr hk)).right, ?_⟩
      intro i hi
      cases List.mem_singleton.mp hi
      exact hquiet _ hj
  | execOver hk =>
      refine ⟨rfl, rfl, (hnot k (Or.inr hk)).left, (hnot k (Or.inr hk)).right, ?_⟩
      intro i hi
      rcases List.mem_cons.mp hi with rfl | hlast
      · rfl
      · cases List.mem_singleton.mp hlast
        rfl
  | desktopOver | asked =>
      refine ⟨rfl, rfl, rfl, rfl, ?_⟩
      intro i hi
      cases List.mem_singleton.mp hi
      rfl
  | connOver hk =>
      refine ⟨rfl, rfl, (hnot k (Or.inr hk)).left, (hnot k (Or.inr hk)).right, ?_⟩
      intro i hi
      cases List.mem_singleton.mp hi
      rfl
  | abandoned hk =>
      exact ⟨rfl, rfl, (hnot k (Or.inr hk)).left, (hnot k (Or.inr hk)).right,
        fun j hj => by cases hj⟩

/-- Quiet steps are in neither count. -/
theorem countP_quiet {created : List ProcTask}
    (h : forall j, j ∈ created -> j.isQuiet = true) :
    (created.filterMap ProcTask.command?).countP Task.holdsSlot = 0 ∧
      (created.filterMap ProcTask.desktop?).countP RdTask.claims = 0 ∧
      (created.filterMap ProcTask.desktop?).countP RdTask.marks = 0 := by
  have hcommand : forall k, k ∈ created.filterMap ProcTask.command? ->
      k.holdsSlot = false := by
    intro k hk
    rcases List.mem_filterMap.mp hk with ⟨j, hj, hsome⟩
    have hquiet := h j hj
    cases j with
    | command k' =>
        cases hsome
        simpa [ProcTask.isQuiet] using hquiet
    | _ => cases hsome
  have hdesktop : forall k, k ∈ created.filterMap ProcTask.desktop? ->
      k.claims = false ∧ k.marks = false := by
    intro k hk
    rcases List.mem_filterMap.mp hk with ⟨j, hj, hsome⟩
    have hquiet := h j hj
    cases j with
    | desktop k' =>
        cases hsome
        simpa [ProcTask.isQuiet] using hquiet
    | _ => cases hsome
  refine ⟨?_, ?_, ?_⟩
  · apply List.countP_eq_zero.mpr
    intro k hk
    simp [hcommand k hk]
  · apply List.countP_eq_zero.mpr
    intro k hk
    simp [(hdesktop k hk).left]
  · apply List.countP_eq_zero.mpr
    intro k hk
    simp [(hdesktop k hk).right]

/-- A command's step changes the counter and the number of holders alike. -/
theorem Slots.count {s t : AgentState} {k : Task} {ms : List SlotMark}
    {tasks tasks' created : List Task} (h : Slots s k ms t created)
    (hreplaced : Pool.Replaced k created tasks tasks') :
    t.execActiveCount + tasks.countP Task.holdsSlot =
      s.execActiveCount + tasks'.countP Task.holdsSlot := by
  have hcount := hreplaced Task.holdsSlot
  cases h with
  | arrived hholds | refused hholds | reserved _ hholds =>
      simp [Task.holdsSlot, hholds] at hcount ⊢
      omega
  | handed _ _ hsame _ hholds =>
      rw [hsame]
      omega
  | released =>
      simp [Task.holdsSlot] at hcount ⊢
      omega

/-- Without a reservation, the number of holders does not grow from zero. -/
theorem Slots.none_held {s t : AgentState} {k : Task} {ms : List SlotMark}
    {tasks tasks' created : List Task} (h : Slots s k ms t created)
    (hreplaced : Pool.Replaced k created tasks tasks') (hreserve : k.isReserve = false)
    (hnone : tasks.countP Task.holdsSlot = 0) : tasks'.countP Task.holdsSlot = 0 := by
  have hcount := hreplaced Task.holdsSlot
  cases h with
  | arrived hholds =>
      omega
  | refused | reserved =>
      cases hreserve
  | handed _ _ _ _ hholds =>
      omega
  | released =>
      simp only [List.countP_nil] at hcount
      omega

/-- A step of the remote desktop that sets no context creates nothing that claims one
or relies on the flag, if it does neither itself. -/
theorem RdEffect.quiet {x : RdInput} {s t : RdGlobals} {k : RdTask} {created : List RdTask}
    (h : RdEffect x s k t created) (hclaims : k.claims = false) (hmarks : k.marks = false)
    (hsets : k.setsCtx x s = false) :
    created.countP RdTask.claims = 0 ∧ created.countP RdTask.marks = 0 := by
  cases h with
  | claimed _ hset =>
      rw [hset] at hsets
      cases hsets
  | marked =>
      cases hclaims
  | moved _ hk =>
      rw [hk] at hmarks
      cases hmarks
  | dropped | cleared =>
      cases hmarks
  | unmarked _ hk =>
      rw [hk] at hmarks
      cases hmarks
  | called _ _ _ _ hcreated =>
      constructor
      · apply List.countP_eq_zero.mpr
        intro j hj
        simp [RdTask.claims, (hcreated j hj).left]
      · apply List.countP_eq_zero.mpr
        intro j hj
        simp [(hcreated j hj).right]

/-- A step of the remote desktop after `leo_rd_stop_all` has returned true, or with
which it does so. -/
theorem RdEffect.returned {x : RdInput} {s t : RdGlobals} {k : RdTask}
    {tasks tasks' created : List RdTask} (h : RdEffect x s k t created) (hk : k ∈ tasks)
    (hlaw : RdLaw s tasks) (hreplaced : Pool.Replaced k created tasks tasks')
    (hbefore : true ∈ s.returned ->
      tasks.countP RdTask.claims = 0 ∧ tasks.countP RdTask.marks = 0)
    (hends : k.returnsTrue x s = true -> tasks.countP RdTask.claims = 0)
    (hsets : k.setsCtx x s = true -> true ∉ s.returned) (htrue : true ∈ t.returned) :
    tasks'.countP RdTask.claims = 0 ∧ tasks'.countP RdTask.marks = 0 := by
  have hfound : true ∈ s.returned ∨ k.returnsTrue x s = true := by
    cases h with
    | claimed _ _ _ _ heq | cleared _ _ heq =>
        rw [heq] at htrue
        exact Or.inl htrue
    | marked | moved | dropped | unmarked =>
        exact Or.inl htrue
    | called _ _ _ _ _ hcases =>
        rcases hcases with heq | ⟨exited, heq, hstopped⟩
        · rw [heq] at htrue
          exact Or.inl htrue
        · rw [heq] at htrue
          rcases List.mem_cons.mp htrue with hnew | hold
          · exact Or.inr (hstopped hnew.symm)
          · exact Or.inl hold
  have hzero : tasks.countP RdTask.claims = 0 ∧ tasks.countP RdTask.marks = 0 := by
    rcases hfound with hold | hnew
    · exact hbefore hold
    · refine ⟨hends hnew, ?_⟩
      -- the flag is reset, so no session relies on it
      by_contra hmarks
      have hrunning := hlaw.running hmarks
      rw [RdTask.threadRunning_of_returnsTrue hnew] at hrunning
      cases hrunning
  have hclaims : k.claims = false := by
    simpa using List.countP_eq_zero.mp hzero.left k hk
  have hmarks : k.marks = false := by
    simpa using List.countP_eq_zero.mp hzero.right k hk
  have hnot : k.setsCtx x s = false := by
    cases hset : k.setsCtx x s with
    | false => rfl
    | true =>
        rcases hfound with hold | hnew
        · exact absurd hold (hsets hset)
        · cases k with
          | start r => cases hnew
          | _ => cases hset
  have hquiet := h.quiet hclaims hmarks hnot
  have hclaims' := hreplaced RdTask.claims
  have hmarks' := hreplaced RdTask.marks
  omega

/-- A step of the loop or of `leo_agent_stop` keeps the law. -/
theorem PartLaw.control {p p' : ProcState} {k : ProcTask}
    {o : Outcome AgentProc ProcTask} (h : PartLaw p)
    (heffect : ControlEffect p.shared k o.shared o.created)
    (hexecuted : Pool.Executed p p' k o) : PartLaw p' := by
  rcases heffect.frame with ⟨hagent, hdesktop, hcommand?, hdesktop?, hquiet⟩
  rcases countP_quiet hquiet with ⟨hslots, hclaims, hmarks⟩
  have hslots' := hexecuted.part_other hcommand? Task.holdsSlot
  have hclaims' := hexecuted.part_other hdesktop? RdTask.claims
  have hmarks' := hexecuted.part_other hdesktop? RdTask.marks
  rw [hslots, Nat.add_zero] at hslots'
  rw [hclaims, Nat.add_zero] at hclaims'
  rw [hmarks, Nat.add_zero] at hmarks'
  constructor
  · rw [hexecuted.shared, hagent]
    exact h.slots.trans (congrArg Nat.cast hslots'.symm)
  · intro hwaited
    refine hslots'.trans ?_
    rw [hexecuted.shared] at hwaited
    have hsame := h.slots
    have hbefore := h.waited
    generalize o.created = created at heffect
    generalize o.shared = t at heffect hwaited
    cases heffect with
    | execOver _ hnone =>
        -- the counter is zero
        rw [hsame] at hnone
        exact Nat.le_zero.mp (Int.ofNat_le.mp hnone)
    | _ => exact hbefore hwaited
  · rw [hexecuted.shared, hdesktop]
    refine h.desktop.keep rfl hclaims' (fun j => hexecuted.mem_part_other) ?_ ?_
    · intro j hj context hsome
      rw [claim_of_countP_eq_zero hclaims hj] at hsome
      cases hsome
    · intro hsome
      apply h.desktop.running
      intro hzero
      exact hsome (hmarks'.trans hzero)
  · rw [hexecuted.shared, hdesktop]
    intro htrue
    have hbefore := h.returned htrue
    exact ⟨hclaims'.trans hbefore.left, hmarks'.trans hbefore.right⟩

theorem filterMap_command (js : List Task) :
    (js.map ProcTask.command).filterMap ProcTask.command? = js ∧
      (js.map ProcTask.command).filterMap ProcTask.desktop? = [] := by
  constructor
  · apply Pool.filterMap_embed
    intro j
    rfl
  · apply Pool.filterMap_other
    intro j
    rfl

theorem filterMap_desktop (js : List RdTask) :
    (js.map ProcTask.desktop).filterMap ProcTask.desktop? = js ∧
      (js.map ProcTask.desktop).filterMap ProcTask.command? = [] := by
  constructor
  · apply Pool.filterMap_embed
    intro j
    rfl
  · apply Pool.filterMap_other
    intro j
    rfl

/-- A step of the commands keeps the law, unless it reserves a slot after the wait. -/
theorem PartLaw.command {p p' : ProcState} {k : Task} {ms : List SlotMark} {t : AgentState}
    {created : List Task} {o : Outcome AgentProc ProcTask} (h : PartLaw p)
    (hslots : Slots p.shared.agent k ms t created)
    (hshared : o.shared = { p.shared with agent := t })
    (hcreated : o.created = created.map ProcTask.command)
    (horder : p.shared.execWaited = true -> k.isReserve = false)
    (hexecuted : Pool.Executed p p' (ProcTask.command k) o) : PartLaw p' := by
  have hreplaced := hexecuted.part_replaced (g := ProcTask.command?) rfl
  rw [hcreated, (filterMap_command created).left] at hreplaced
  have hother : forall f, (desktops p').countP f = (desktops p).countP f := by
    intro f
    have hcount := hexecuted.part_other (g := ProcTask.desktop?) rfl f
    rw [hcreated, (filterMap_command created).right] at hcount
    exact hcount
  have hshared' : p'.shared = { p.shared with agent := t } := hexecuted.shared.trans hshared
  constructor
  · have hcount := hslots.count hreplaced
    have hbefore := h.slots
    rw [hshared']
    unfold commands at *
    show t.execActiveCount = _
    omega
  · intro hwaited
    rw [hshared'] at hwaited
    exact hslots.none_held hreplaced (horder hwaited) (h.waited hwaited)
  · rw [hshared']
    refine h.desktop.keep rfl (hother _) (fun j => hexecuted.mem_part_other) ?_ ?_
    · intro i hi
      rw [hcreated, (filterMap_command created).right] at hi
      cases hi
    · rw [hother]
      exact h.desktop.running
  · rw [hshared', hother, hother]
    exact h.returned

/-- A step of the remote desktop keeps the law under the conditions on the remote
desktop. -/
theorem PartLaw.ofDesktop {p p' : ProcState} {k : RdTask} {x : RdInput} {t : RdGlobals}
    {created : List RdTask} {o : Outcome AgentProc ProcTask} (h : PartLaw p)
    (heffect : RdEffect x p.shared.desktop k t created)
    (hshared : o.shared = { p.shared with desktop := t })
    (hcreated : o.created = created.map ProcTask.desktop)
    (halone : k.unmarks = true -> (desktops p).countP RdTask.marks = 1)
    (hends : k.returnsTrue x p.shared.desktop = true ->
      (desktops p).countP RdTask.claims = 0)
    (hsets : k.setsCtx x p.shared.desktop = true ->
      true ∉ p.shared.desktop.returned)
    (hexecuted : Pool.Executed p p' (ProcTask.desktop k) o) : PartLaw p' := by
  have hreplaced := hexecuted.part_replaced (g := ProcTask.desktop?) rfl
  rw [hcreated, (filterMap_desktop created).left] at hreplaced
  have hother : (commands p').countP Task.holdsSlot =
      (commands p).countP Task.holdsSlot := by
    have hcount := hexecuted.part_other (g := ProcTask.command?) rfl Task.holdsSlot
    rw [hcreated, (filterMap_desktop created).right] at hcount
    exact hcount
  have hk : k ∈ desktops p := Pool.mem_part hexecuted.running rfl
  have hshared' : p'.shared = { p.shared with desktop := t } :=
    hexecuted.shared.trans hshared
  constructor
  · rw [hshared', hother]
    exact h.slots
  · rw [hshared', hother]
    exact h.waited
  · rw [hshared']
    exact h.desktop.step hk halone heffect hreplaced
  · rw [hshared']
    exact heffect.returned hk h.desktop hreplaced h.returned hends hsets

theorem partLaw_preserved (cJSONParse parseWithLength : List UInt8 -> Option Json) :
    (process cJSONParse parseWithLength).Preserves
      (fun p e => Pool.guarded stopsInOrder p e = true) PartLaw := by
  apply Pool.preserves
  · intro p p' r
    exact r.elim
  · intro p p' x k o h hguard hperform hexecuted
    have heffect := procEffect hperform
    generalize hcreated : o.created = created at heffect
    generalize hshared : o.shared = t at heffect
    cases heffect with
    | command hslots =>
        refine h.command hslots hshared hcreated ?_ hexecuted
        intro hwaited
        simpa [stopsInOrder, hwaited] using hguard
    | desktop hrd =>
        simp only [stopsInOrder, Bool.and_eq_true, Bool.or_eq_true, Bool.not_eq_true',
          decide_eq_true_eq, Bool.and_eq_false_iff] at hguard
        rcases hguard with ⟨⟨halone, hends⟩, hsets⟩
        refine h.ofDesktop hrd hshared hcreated ?_ ?_ ?_ hexecuted
        · intro hunmarks
          rcases halone with hnot | hone
          · rw [hunmarks] at hnot
            cases hnot
          · exact hone
        · intro hreturns
          rcases hends with hnot | hzero
          · rw [hreturns] at hnot
            cases hnot
          · exact hzero
        · intro hset hmem
          rcases hsets with hnot | hnone
          · rw [hset] at hnot
            cases hnot
          · rw [List.contains_iff_mem.mpr hmem] at hnone
            cases hnone
    | control hcontrol =>
        subst hcreated
        subst hshared
        exact h.control hcontrol hexecuted

/-!
## The law of the loop and of the stop sequence
-/

/-- The thread of the connection is at its loop until its last section, and
`leo_agent_stop` is at one of its steps until it ends; a step that comes after a wait is
only reached when the wait is over. -/
structure ControlLaw (p : ProcState) : Prop where
  loops : Pool.pendingCount ProcTask.isLoop p + p.shared.threadExited.toNat = 1
  stops : Pool.pendingCount ProcTask.isStop p + p.shared.stopped.toList.length = 1
  exec : forall k, p.Pending k -> k.afterExec = true -> p.shared.execWaited = true
  desktop : forall k, p.Pending k -> k.afterDesktop = true ->
    true ∈ p.shared.desktop.returned
  exited : forall k, p.Pending k -> k.isFree = true -> p.shared.threadExited = true
  freed : p.shared.stopped = some StopEnd.freed ->
    p.shared.execWaited = true ∧ true ∈ p.shared.desktop.returned ∧
      p.shared.threadExited = true

theorem controlLaw_start : ControlLaw processStart := by
  have hpending : forall k, processStart.Pending k ->
      k = ProcTask.loop ∨ k = ProcTask.execWait := by
    rintro k ⟨q, hq, hk⟩
    rcases List.mem_cons.mp hq with rfl | hq'
    · exact Or.inl (List.mem_singleton.mp hk)
    · rw [List.mem_singleton.mp hq'] at hk
      exact Or.inr (List.mem_singleton.mp hk)
  constructor
  · rfl
  · rfl
  · intro k hk hafter
    rcases hpending k hk with rfl | rfl
    · cases hafter
    · cases hafter
  · intro k hk hafter
    rcases hpending k hk with rfl | rfl
    · cases hafter
    · cases hafter
  · intro k hk hafter
    rcases hpending k hk with rfl | rfl
    · cases hafter
    · cases hafter
  · intro h
    cases h

/-- The law after a step, from what the step does to the two counts, to what the waits
have found and to the steps after them. -/
theorem ControlLaw.next {p p' : ProcState} {k : ProcTask} {o : Outcome AgentProc ProcTask}
    (h : ControlLaw p) (hexecuted : Pool.Executed p p' k o)
    (hloops : o.created.countP ProcTask.isLoop + o.shared.threadExited.toNat =
      [k].countP ProcTask.isLoop + p.shared.threadExited.toNat)
    (hstops : o.created.countP ProcTask.isStop + o.shared.stopped.toList.length =
      [k].countP ProcTask.isStop + p.shared.stopped.toList.length)
    (hexec : p.shared.execWaited = true -> o.shared.execWaited = true)
    (hdesktop : true ∈ p.shared.desktop.returned -> true ∈ o.shared.desktop.returned)
    (hexited : p.shared.threadExited = true -> o.shared.threadExited = true)
    (hcreated : forall j, j ∈ o.created ->
      (j.afterExec = true -> o.shared.execWaited = true) ∧
      (j.afterDesktop = true -> true ∈ o.shared.desktop.returned) ∧
      (j.isFree = true -> o.shared.threadExited = true))
    (hfreed : o.shared.stopped = some StopEnd.freed ->
      p.shared.stopped = some StopEnd.freed ∨ k = ProcTask.free) : ControlLaw p' := by
  constructor
  · have hcount := hexecuted.count ProcTask.isLoop
    have hbefore := h.loops
    rw [hexecuted.shared]
    omega
  · have hcount := hexecuted.count ProcTask.isStop
    have hbefore := h.stops
    rw [hexecuted.shared]
    omega
  · intro j hj hafter
    rw [hexecuted.shared]
    rcases hexecuted.pending hj with hnew | hold
    · exact (hcreated j hnew).left hafter
    · exact hexec (h.exec j hold hafter)
  · intro j hj hafter
    rw [hexecuted.shared]
    rcases hexecuted.pending hj with hnew | hold
    · exact (hcreated j hnew).right.left hafter
    · exact hdesktop (h.desktop j hold hafter)
  · intro j hj hfree
    rw [hexecuted.shared]
    rcases hexecuted.pending hj with hnew | hold
    · exact (hcreated j hnew).right.right hfree
    · exact hexited (h.exited j hold hfree)
  · rw [hexecuted.shared]
    intro hend
    have hreached : p.shared.execWaited = true ∧ true ∈ p.shared.desktop.returned ∧
        p.shared.threadExited = true := by
      rcases hfreed hend with hbefore | rfl
      · exact h.freed hbefore
      · have hrunning := hexecuted.running
        exact ⟨h.exec _ hrunning rfl, h.desktop _ hrunning rfl, h.exited _ hrunning rfl⟩
    exact ⟨hexec hreached.left, hdesktop hreached.right.left, hexited hreached.right.right⟩

/-- A step of `leo_agent_stop` is pending, so it has not ended. -/
theorem ControlLaw.stopped_none {p : ProcState} (h : ControlLaw p) {k : ProcTask}
    (hk : p.Pending k) (hstop : k.isStop = true) : p.shared.stopped = none := by
  have hpos := Pool.pendingCount_pos hk hstop
  have hone := h.stops
  cases hstopped : p.shared.stopped with
  | none => rfl
  | some e =>
      rw [hstopped, Option.toList_some, List.length_singleton] at hone
      omega

/-- A step of the loop is pending, so the thread has not left. -/
theorem ControlLaw.threadExited_false {p : ProcState} (h : ControlLaw p) {k : ProcTask}
    (hk : p.Pending k) (hloop : k.isLoop = true) : p.shared.threadExited = false := by
  have hpos := Pool.pendingCount_pos hk hloop
  have hone := h.loops
  cases hexited : p.shared.threadExited with
  | false => rfl
  | true =>
      rw [hexited, Bool.toNat_true] at hone
      omega

/-- A step of `leo_agent_stop` is no step of the loop. -/
theorem ProcTask.isLoop_of_isStop {k : ProcTask} (h : k.isStop = true) :
    k.isLoop = false := by
  cases k with
  | command k | desktop k | loop | service | leave => cases h
  | _ => rfl

theorem ProcTask.isStop_of_isLoop {k : ProcTask} (h : k.isLoop = true) :
    k.isStop = false := by
  cases k with
  | loop | service | leave => rfl
  | _ => cases h

/-- A step that is not one of `leo_agent_stop` comes after no wait. -/
theorem ProcTask.after_of_not_isStop {k : ProcTask} (h : k.isStop = false) :
    k.afterExec = false ∧ k.afterDesktop = false ∧ k.isFree = false := by
  cases k with
  | command k | desktop k | loop | service | leave => exact ⟨rfl, rfl, rfl⟩
  | _ => cases h

/-- Steps that come after no wait need nothing of the state. -/
theorem created_not_isStop {t : AgentProc} {j : ProcTask} (h : j.isStop = false) :
    (j.afterExec = true -> t.execWaited = true) ∧
      (j.afterDesktop = true -> true ∈ t.desktop.returned) ∧
      (j.isFree = true -> t.threadExited = true) := by
  rcases ProcTask.after_of_not_isStop h with ⟨hexec, hdesktop, hfree⟩
  rw [hexec, hdesktop, hfree]
  exact ⟨nofun, nofun, nofun⟩

/-- A step of the commands or of the remote desktop keeps the law. -/
theorem ControlLaw.ofPart {p p' : ProcState} {k : ProcTask}
    {o : Outcome AgentProc ProcTask} (h : ControlLaw p)
    (hpart : forall j, j ∈ k :: o.created -> j.isLoop = false ∧ j.isStop = false)
    (hexited : o.shared.threadExited = p.shared.threadExited)
    (hwaited : o.shared.execWaited = p.shared.execWaited)
    (hstopped : o.shared.stopped = p.shared.stopped)
    (hreturned : true ∈ p.shared.desktop.returned -> true ∈ o.shared.desktop.returned)
    (hexecuted : Pool.Executed p p' k o) : ControlLaw p' := by
  have hk := hpart k List.mem_cons_self
  have hcreated : forall j, j ∈ o.created -> j.isLoop = false ∧ j.isStop = false := by
    intro j hj
    exact hpart j (List.mem_cons_of_mem k hj)
  have hloops : o.created.countP ProcTask.isLoop = 0 := by
    apply List.countP_eq_zero.mpr
    intro j hj
    simp [(hcreated j hj).left]
  have hstops : o.created.countP ProcTask.isStop = 0 := by
    apply List.countP_eq_zero.mpr
    intro j hj
    simp [(hcreated j hj).right]
  refine h.next hexecuted ?_ ?_ ?_ hreturned ?_ ?_ ?_
  · rw [hloops, hexited]
    simp [hk.left]
  · rw [hstops, hstopped]
    simp [hk.right]
  · rw [hwaited]
    exact id
  · rw [hexited]
    exact id
  · intro j hj
    exact created_not_isStop (hcreated j hj).right
  · rw [hstopped]
    exact Or.inl

theorem countP_kind {f : ProcTask -> Bool} {k : ProcTask} {b : Bool} (h : f k = b) :
    [k].countP f = b.toNat := by
  rw [List.countP_singleton, h]
  cases b with
  | false => rfl
  | true => rfl

/-- A step of the loop or of `leo_agent_stop` keeps the law. -/
theorem ControlLaw.ofControl {p p' : ProcState} {k : ProcTask}
    {o : Outcome AgentProc ProcTask} (h : ControlLaw p)
    (heffect : ControlEffect p.shared k o.shared o.created)
    (hexecuted : Pool.Executed p p' k o) : ControlLaw p' := by
  have hrunning := hexecuted.running
  apply h.next hexecuted
  all_goals
    generalize o.created = created at heffect ⊢
    generalize o.shared = t at heffect ⊢
  · cases heffect with
    | looped hk hone =>
        simp [hone, hk]
    | left =>
        rw [h.threadExited_false hrunning rfl]
        rfl
    | waits hk hj =>
        simp [ProcTask.isLoop_of_isStop hk, ProcTask.isLoop_of_isStop hj]
    | execOver hk | connOver hk | abandoned hk =>
        rw [countP_kind (ProcTask.isLoop_of_isStop hk)]
        rfl
    | desktopOver | asked | freed =>
        rfl
  · cases heffect with
    | looped hk _ hstop =>
        simp [hstop, ProcTask.isStop_of_isLoop hk]
    | left =>
        rfl
    | waits hk hj =>
        simp [hk, hj]
    | execOver hk | connOver hk =>
        rw [countP_kind hk]
        rfl
    | abandoned hk =>
        rw [countP_kind hk, h.stopped_none hrunning hk]
        rfl
    | desktopOver | asked =>
        rfl
    | freed =>
        rw [h.stopped_none hrunning rfl]
        rfl
  · intro hwaited
    cases heffect with
    | execOver => rfl
    | _ => exact hwaited
  · intro htrue
    cases heffect with
    | _ => exact htrue
  · intro hexited
    cases heffect with
    | left => rfl
    | _ => exact hexited
  · intro j hj
    cases heffect with
    | looped _ _ hstop =>
        apply created_not_isStop
        simpa using List.countP_eq_zero.mp hstop j hj
    | left | abandoned | freed =>
        cases hj
    | waits _ _ hexec hdesktop hfree =>
        cases List.mem_singleton.mp hj
        rw [hexec, hdesktop, hfree]
        exact ⟨h.exec k hrunning, h.desktop k hrunning, nofun⟩
    | execOver =>
        rcases List.mem_cons.mp hj with rfl | hlast
        · exact created_not_isStop rfl
        · cases List.mem_singleton.mp hlast
          exact ⟨fun _ => rfl, nofun, nofun⟩
    | desktopOver htrue =>
        cases List.mem_singleton.mp hj
        exact ⟨fun _ => h.exec _ hrunning rfl, fun _ => htrue, nofun⟩
    | asked =>
        cases List.mem_singleton.mp hj
        exact ⟨fun _ => h.exec _ hrunning rfl, fun _ => h.desktop _ hrunning rfl, nofun⟩
    | connOver _ hexec hdesktop hexited =>
        cases List.mem_singleton.mp hj
        exact ⟨fun _ => h.exec k hrunning hexec, fun _ => h.desktop k hrunning hdesktop,
          fun _ => hexited⟩
  · intro hend
    cases heffect with
    | freed => exact Or.inr rfl
    | abandoned => cases hend
    | _ => exact Or.inl hend

/-- `leo_rd_stop_all` takes nothing back. -/
theorem RdEffect.returned_mono {x : RdInput} {s t : RdGlobals} {k : RdTask}
    {created : List RdTask} (h : RdEffect x s k t created) (htrue : true ∈ s.returned) :
    true ∈ t.returned := by
  cases h with
  | claimed _ _ _ _ heq | cleared _ _ heq =>
      rw [heq]
      exact htrue
  | marked | moved | dropped | unmarked =>
      exact htrue
  | called _ _ _ _ _ hcases =>
      rcases hcases with heq | ⟨exited, heq, _⟩
      · rw [heq]
        exact htrue
      · rw [heq]
        exact List.mem_cons_of_mem exited htrue

theorem controlLaw_preserved (cJSONParse parseWithLength : List UInt8 -> Option Json) :
    (process cJSONParse parseWithLength).Preserves
      (fun p e => Pool.guarded stopsInOrder p e = true) ControlLaw := by
  apply Pool.preserves
  · intro p p' r
    exact r.elim
  · intro p p' x k o h _ hperform hexecuted
    have heffect := procEffect hperform
    generalize hcreated : o.created = created at heffect
    generalize hshared : o.shared = t at heffect
    cases heffect with
    | command hslots =>
        refine h.ofPart ?_ ?_ ?_ ?_ ?_ hexecuted
        · intro j hj
          rw [hcreated] at hj
          rcases List.mem_cons.mp hj with rfl | hmem
          · exact ⟨rfl, rfl⟩
          · rcases List.mem_map.mp hmem with ⟨i, _, rfl⟩
            exact ⟨rfl, rfl⟩
        all_goals rw [hshared]
        exact id
    | desktop hrd =>
        refine h.ofPart ?_ ?_ ?_ ?_ ?_ hexecuted
        · intro j hj
          rw [hcreated] at hj
          rcases List.mem_cons.mp hj with rfl | hmem
          · exact ⟨rfl, rfl⟩
          · rcases List.mem_map.mp hmem with ⟨i, _, rfl⟩
            exact ⟨rfl, rfl⟩
        all_goals rw [hshared]
        exact hrd.returned_mono
    | control hcontrol =>
        subst hcreated
        subst hshared
        exact h.ofControl hcontrol hexecuted

end Agent
end LeoOne
