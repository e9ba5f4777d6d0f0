import LeoOne.Agent.CpuUsage
import Mathlib.Data.List.Induction

/-!
# CPU sampling over the collections of a run

`leo_metrics_init` takes a first snapshot, and each `leo_metrics_collect` compares a new
one with the one that is stored.  A collection stores its snapshot only where it reports.
-/

namespace LeoOne
namespace Agent

/-- The collections of a run, one after another, from the snapshot stored at first. -/
def collections : CpuSnapshot -> List (Option (List StatLine)) -> List CpuReport
  | _, [] => []
  | prev, file :: files =>
      let (report, next) := leoMetricsCollect prev file
      report :: collections next files

/-- The reports of the collections that follow `leo_metrics_init`. -/
def reports (init : Option (List StatLine)) (files : List (Option (List StatLine))) :
    List CpuReport :=
  collections (leoMetricsInit init) files

/-- The last snapshot that could be read. -/
def newestSnapshot (files : List (Option (List StatLine))) : Option CpuSnapshot :=
  (files.filterMap readCpuStats).getLast?

/-- Every collection that reads a snapshot after an earlier one could be read reports the
usage between the newest earlier one and its own. -/
def Recovers (init : Option (List StatLine)) (files : List (Option (List StatLine))) : Prop :=
  forall earlier file later prev curr, files = earlier ++ file :: later ->
    newestSnapshot (init :: earlier) = some prev -> readCpuStats file = some curr ->
      (reports init files)[earlier.length]? = some (usageBetween prev curr)

theorem readCpuStats_valid {file : Option (List StatLine)} {snap : CpuSnapshot}
    (h : readCpuStats file = some snap) : snap.valid = true := by
  rcases Option.map_eq_some_iff.mp h with ⟨lines, _, heq⟩
  rw [← heq]

theorem newestSnapshot_concat (files : List (Option (List StatLine)))
    (file : Option (List StatLine)) :
    newestSnapshot (files ++ [file]) = (readCpuStats file).or (newestSnapshot files) := by
  unfold newestSnapshot
  rw [List.filterMap_append, List.getLast?_append]
  cases hread : readCpuStats file with
  | none => simp only [List.filterMap_cons, hread, List.filterMap_nil, List.getLast?_nil]
  | some snap =>
      simp only [List.filterMap_cons, hread, List.filterMap_nil, List.getLast?_singleton]

/-- A collection that finds a valid snapshot leaves the newest one that could be read. -/
theorem leoMetricsCollect_valid {prev : CpuSnapshot} (h : prev.valid = true)
    (file : Option (List StatLine)) :
    (leoMetricsCollect prev file).2 = (readCpuStats file).getD prev := by
  unfold leoMetricsCollect
  cases readCpuStats file with
  | none => rfl
  | some curr =>
      simp only [h, if_true]
      rfl

/-- A collection that finds no valid snapshot reports nothing and stores nothing. -/
theorem leoMetricsCollect_invalid {prev : CpuSnapshot} (h : prev.valid = false)
    (file : Option (List StatLine)) :
    leoMetricsCollect prev file = (CpuReport.zero, prev) := by
  unfold leoMetricsCollect
  cases readCpuStats file with
  | none => rfl
  | some curr =>
      simp only [h, Bool.false_eq_true, if_false]

theorem collections_append (prev : CpuSnapshot) (xs ys : List (Option (List StatLine))) :
    collections prev (xs ++ ys) =
      collections prev xs ++
        collections (xs.foldl (fun snap file => (leoMetricsCollect snap file).2) prev) ys := by
  induction xs generalizing prev with
  | nil => rfl
  | cons x xs ih =>
      exact congrArg (List.cons _) (ih (leoMetricsCollect prev x).2)

theorem length_collections (prev : CpuSnapshot) (files : List (Option (List StatLine))) :
    (collections prev files).length = files.length := by
  induction files generalizing prev with
  | nil => rfl
  | cons file files ih =>
      exact congrArg Nat.succ (ih (leoMetricsCollect prev file).2)

/-- The snapshot that is stored after a number of collections. -/
def stored (init : Option (List StatLine)) (files : List (Option (List StatLine))) :
    CpuSnapshot :=
  files.foldl (fun snap file => (leoMetricsCollect snap file).2) (leoMetricsInit init)

theorem report_at (init : Option (List StatLine)) (earlier : List (Option (List StatLine)))
    (file : Option (List StatLine)) (later : List (Option (List StatLine))) :
    (reports init (earlier ++ file :: later))[earlier.length]? =
      some (leoMetricsCollect (stored init earlier) file).1 := by
  rw [reports, collections_append, List.getElem?_append_right (length_collections _ _).le,
    length_collections, Nat.sub_self]
  rfl

/-- If the first snapshot could be read, the stored one is the newest, and valid. -/
theorem stored_of_init {init : Option (List StatLine)} {first : CpuSnapshot}
    (h : readCpuStats init = some first) (files : List (Option (List StatLine))) :
    newestSnapshot (init :: files) = some (stored init files) ∧
      (stored init files).valid = true := by
  induction files using List.reverseRecOn with
  | nil =>
      have hstored : stored init [] = first := by
        simp only [stored, List.foldl_nil, leoMetricsInit, h]
      rw [hstored]
      constructor
      · simp only [newestSnapshot, List.filterMap_cons, h, List.filterMap_nil,
          List.getLast?_singleton]
      · exact readCpuStats_valid h
  | append_singleton files file ih =>
      rcases ih with ⟨hnewest, hvalid⟩
      have hstored : stored init (files ++ [file]) =
          (readCpuStats file).getD (stored init files) := by
        rw [← leoMetricsCollect_valid hvalid file]
        exact List.foldl_concat _ _ _ _
      rw [hstored, ← List.cons_append, newestSnapshot_concat, hnewest]
      cases hread : readCpuStats file with
      | none => exact ⟨rfl, hvalid⟩
      | some snap => exact ⟨rfl, readCpuStats_valid hread⟩

/-- If the first snapshot could not be read, no later one is ever stored. -/
theorem stored_of_no_init {init : Option (List StatLine)} (h : readCpuStats init = none)
    (files : List (Option (List StatLine))) : stored init files = CpuSnapshot.zero := by
  induction files using List.reverseRecOn with
  | nil => simp only [stored, List.foldl_nil, leoMetricsInit, h]
  | append_singleton files file ih =>
      have hstep : stored init (files ++ [file]) =
          (leoMetricsCollect (stored init files) file).2 :=
        List.foldl_concat _ _ _ _
      rw [hstep, ih, leoMetricsCollect_invalid rfl]

/-- Nothing is to be reported between two snapshots: the later one has no rows of cores,
and the total shows no busy growth, or no growth at all. -/
def NothingToReport (prev curr : CpuSnapshot) : Prop :=
  curr.coreCount = 0 ∧
    (curr.total.busyTime = prev.total.busyTime ∨
      curr.total.idleTime - prev.total.idleTime +
        (curr.total.busyTime - prev.total.busyTime) = 0)

theorem usageBetween_eq_zero_iff (prev curr : CpuSnapshot) :
    usageBetween prev curr = CpuReport.zero <-> NothingToReport prev curr := by
  have hcores : (List.range (min curr.coreCount leoMaxCpuCores)).map
      (fun i => cpuUsage (prev.row i) (curr.row i)) = [] <-> curr.coreCount = 0 := by
    rw [List.map_eq_nil_iff, List.range_eq_nil]
    unfold leoMaxCpuCores
    omega
  have htotal : cpuUsage prev.total curr.total = 0 <->
      curr.total.busyTime = prev.total.busyTime ∨
        curr.total.idleTime - prev.total.idleTime +
          (curr.total.busyTime - prev.total.busyTime) = 0 := by
    have hbusy : curr.total.busyTime - prev.total.busyTime = 0 <->
        curr.total.busyTime = prev.total.busyTime := by
      constructor
      · intro h
        grind
      · intro h
        grind
    rw [cpuUsage_eq, Foundation.Growth.percentage_eq_zero_iff, or_comm, hbusy]
  rw [usageBetween, CpuReport.zero, CpuReport.mk.injEq, htotal, hcores, NothingToReport,
    and_comm]

/-- Sampling recovers exactly if the first snapshot could be read, or no later pair of
snapshots has anything to report. -/
theorem sampling_recovers_iff (init : Option (List StatLine))
    (files : List (Option (List StatLine))) :
    Recovers init files <->
      init.isSome = true ∨
        forall earlier file later prev curr, files = earlier ++ file :: later ->
          newestSnapshot (init :: earlier) = some prev -> readCpuStats file = some curr ->
            NothingToReport prev curr := by
  cases hinit : readCpuStats init with
  | some first =>
      have hsome : init.isSome = true := by
        rcases Option.map_eq_some_iff.mp hinit with ⟨lines, hlines, _⟩
        rw [hlines]
        rfl
      constructor
      · intro _
        exact Or.inl hsome
      · intro _ earlier file later prev curr hfiles hprev hcurr
        rcases stored_of_init hinit earlier with ⟨hnewest, hvalid⟩
        rw [hnewest] at hprev
        cases hprev
        rw [hfiles, report_at]
        unfold leoMetricsCollect
        simp only [hcurr, hvalid, if_true]
  | none =>
      have hnone : init.isSome = false := by
        rw [Option.map_eq_none_iff.mp hinit]
        rfl
      have hzero (earlier : List (Option (List StatLine))) (file : Option (List StatLine))
          (later : List (Option (List StatLine))) :
          (reports init (earlier ++ file :: later))[earlier.length]? = some CpuReport.zero := by
        rw [report_at, stored_of_no_init hinit, leoMetricsCollect_invalid rfl]
      constructor
      · intro hrecovers
        right
        intro earlier file later prev curr hfiles hprev hcurr
        have hreported := hrecovers earlier file later prev curr hfiles hprev hcurr
        rw [hfiles, hzero] at hreported
        exact (usageBetween_eq_zero_iff prev curr).mp (Option.some.inj hreported).symm
      · intro h earlier file later prev curr hfiles hprev hcurr
        rcases h with hread | hquiet
        · rw [hnone] at hread
          cases hread
        · have hnothing := hquiet earlier file later prev curr hfiles hprev hcurr
          rw [hfiles, hzero, (usageBetween_eq_zero_iff prev curr).mpr hnothing]

/-- The first read fails and two collections succeed: the second one reports nothing,
although the CPU has been busy all the time since the first. -/
theorem sampling_stays_dead :
    reports none [some threeOnline.lines, some twoOnline.lines] =
        [CpuReport.zero, CpuReport.zero] ∧
      ¬ forall (init : Option (List StatLine)) (files : List (Option (List StatLine))),
        Recovers init files := by
  have hdead (a b : Option (List StatLine)) :
      reports none [a, b] = [CpuReport.zero, CpuReport.zero] := by
    simp only [reports, collections, leoMetricsInit, readCpuStats, Option.map_none,
      leoMetricsCollect_invalid (rfl : CpuSnapshot.zero.valid = false)]
  constructor
  · exact hdead _ _
  · intro hall
    rcases (sampling_recovers_iff none [some threeOnline.lines, some twoOnline.lines]).mp
      (hall _ _) with hread | hquiet
    · cases hread
    · have hnone : readCpuStats none = none := rfl
      have hnewest : newestSnapshot [none, some threeOnline.lines] =
          readCpuStats (some threeOnline.lines) := by
        simp only [newestSnapshot, List.filterMap_cons, hnone, readCpuStats_lines,
          List.filterMap_nil, List.getLast?_singleton]
      have hnothing := hquiet [some threeOnline.lines] (some twoOnline.lines) [] _ _ rfl
        (hnewest.trans (readCpuStats_lines threeOnline)) (readCpuStats_lines twoOnline)
      exact absurd hnothing.left (by decide)

end Agent
end LeoOne
