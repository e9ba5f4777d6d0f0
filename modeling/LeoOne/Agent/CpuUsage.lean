import LeoOne.Foundation.Growth
import LeoOne.Wire.Numbers

/-!
# CPU usage on Linux

`metrics_linux.c`: the reading of `/proc/stat`, and the usage between two snapshots.
The rows of a snapshot are numbered by their position in the file, not by their CPU.
-/

namespace LeoOne
namespace Agent

open Foundation Wire

/-- `MAX_CPUS`. -/
def maxCpus : Nat := 256

/-- `LEO_MAX_CPU_CORES`. -/
def leoMaxCpuCores : Nat := 256

/-- `cpu_stats_t`. -/
structure CpuStats where
  user : UInt64
  nice : UInt64
  system : UInt64
  idle : UInt64
  iowait : UInt64
  irq : UInt64
  softirq : UInt64
  steal : UInt64
  deriving DecidableEq

/-- A row that `memset` has cleared. -/
def CpuStats.zero : CpuStats :=
  { user := 0
    nice := 0
    system := 0
    idle := 0
    iowait := 0
    irq := 0
    softirq := 0
    steal := 0 }

/-- `cpu_snapshot_t`; `perCore` holds the rows that have been written. -/
structure CpuSnapshot where
  total : CpuStats
  perCore : List CpuStats
  coreCount : Nat
  valid : Bool
  deriving DecidableEq

def CpuSnapshot.zero : CpuSnapshot :=
  { total := CpuStats.zero
    perCore := []
    coreCount := 0
    valid := false }

/-- `per_core[i]`. -/
def CpuSnapshot.row (snap : CpuSnapshot) (i : Nat) : CpuStats :=
  snap.perCore.getD i CpuStats.zero

/-- A line of `/proc/stat`: one that begins with `cpu`, with the label, the number of
fields that `sscanf` has converted and its variables afterwards, or another one. -/
inductive StatLine where
  | cpu (label : List UInt8) (fields : Nat) (values : CpuStats)
  | other

/-- The loop of `_read_cpu_stats`; `coreCount` is `core_idx + 1`. -/
def readCpuLines : CpuSnapshot -> List StatLine -> CpuSnapshot
  | snap, [] => snap
  | snap, StatLine.other :: _ => snap
  | snap, StatLine.cpu label fields values :: rest =>
      if fields < 5 then readCpuLines snap rest
      else if label = utf8 "cpu" then readCpuLines { snap with total := values } rest
      else
        readCpuLines
          { snap with
            coreCount := snap.coreCount + 1
            perCore :=
              if maxCpus ≤ snap.coreCount then snap.perCore else snap.perCore ++ [values] }
          rest

/-- `_read_cpu_stats`; `none` where `/proc/stat` cannot be opened. -/
def readCpuStats (file : Option (List StatLine)) : Option CpuSnapshot :=
  file.map fun lines => { readCpuLines CpuSnapshot.zero lines with valid := true }

/-- `_cpu_usage`, with the division as an exact one. -/
def cpuUsage (prev curr : CpuStats) : ℚ :=
  let prevIdle := prev.idle + prev.iowait
  let currIdle := curr.idle + curr.iowait
  let prevTotal := prev.user + prev.nice + prev.system + prev.idle + prev.iowait + prev.irq +
    prev.softirq + prev.steal
  let currTotal := curr.user + curr.nice + curr.system + curr.idle + curr.iowait + curr.irq +
    curr.softirq + curr.steal
  let totalDelta := currTotal - prevTotal
  let idleDelta := currIdle - prevIdle
  if totalDelta = 0 then 0
  else ((totalDelta - idleDelta).toNat : ℚ) / totalDelta.toNat * 100

/-- `cpu_total_percent` and the first `cpu_core_count` elements of `cpu_per_core`. -/
structure CpuReport where
  total : ℚ
  cores : List ℚ
  deriving DecidableEq

/-- The two fields after the `memset` of `leo_metrics_collect`. -/
def CpuReport.zero : CpuReport :=
  { total := 0
    cores := [] }

/-- The report on two snapshots. -/
def usageBetween (prev curr : CpuSnapshot) : CpuReport :=
  { total := cpuUsage prev.total curr.total
    cores := (List.range (min curr.coreCount leoMaxCpuCores)).map fun i =>
      cpuUsage (prev.row i) (curr.row i) }

/-- The CPU part of `leo_metrics_collect`, with `g_prev_cpu` before and after. -/
def leoMetricsCollect (prev : CpuSnapshot) (file : Option (List StatLine)) :
    CpuReport × CpuSnapshot :=
  match readCpuStats file with
  | some curr => if prev.valid then (usageBetween prev curr, curr) else (CpuReport.zero, prev)
  | none => (CpuReport.zero, prev)

/-- `leo_metrics_init`: `g_prev_cpu` afterwards. -/
def leoMetricsInit (file : Option (List StatLine)) : CpuSnapshot :=
  match readCpuStats file with
  | some snap => snap
  | none => CpuSnapshot.zero

/-!
## Idle and busy growth
-/

def CpuStats.idleTime (s : CpuStats) : UInt64 :=
  s.idle + s.iowait

def CpuStats.busyTime (s : CpuStats) : UInt64 :=
  s.user + s.nice + s.system + s.irq + s.softirq + s.steal

/-- The usage is the share of the busy growth in the growth of the row. -/
theorem cpuUsage_eq (prev curr : CpuStats) :
    cpuUsage prev curr =
      Growth.percentage (curr.idleTime - prev.idleTime) (curr.busyTime - prev.busyTime) := by
  have htotal : curr.user + curr.nice + curr.system + curr.idle + curr.iowait + curr.irq +
      curr.softirq + curr.steal - (prev.user + prev.nice + prev.system + prev.idle +
        prev.iowait + prev.irq + prev.softirq + prev.steal) =
      curr.idleTime - prev.idleTime + (curr.busyTime - prev.busyTime) := by
    unfold CpuStats.idleTime CpuStats.busyTime
    grind
  have hbusy : curr.idleTime - prev.idleTime + (curr.busyTime - prev.busyTime) -
      (curr.idle + curr.iowait - (prev.idle + prev.iowait)) =
      curr.busyTime - prev.busyTime := by
    unfold CpuStats.idleTime
    grind
  simp only [cpuUsage, htotal, hbusy, Growth.percentage]

/-- The idle and the busy growth of a row, each modulo `2 ^ 64`, do not exceed `2 ^ 64`
together. -/
def Steady (prev curr : CpuStats) : Prop :=
  (curr.idleTime - prev.idleTime).toNat + (curr.busyTime - prev.busyTime).toNat ≤ 2 ^ 64

theorem cpuUsage_range_iff (prev curr : CpuStats) :
    (0 ≤ cpuUsage prev curr ∧ cpuUsage prev curr ≤ 100) <-> Steady prev curr := by
  rw [cpuUsage_eq, Growth.percentage_le_iff]
  constructor
  · intro h
    exact h.right
  · intro h
    exact ⟨Growth.percentage_nonneg _ _, h⟩

/-!
## The file
-/

/-- The times of a CPU since the start of the system, as the kernel counts them. -/
structure CpuTimes where
  user : Nat
  nice : Nat
  system : Nat
  idle : Nat
  iowait : Nat
  irq : Nat
  softirq : Nat
  steal : Nat

/-- The times modulo `2 ^ 64`. -/
def CpuTimes.stats (t : CpuTimes) : CpuStats :=
  { user := UInt64.ofNat t.user
    nice := UInt64.ofNat t.nice
    system := UInt64.ofNat t.system
    idle := UInt64.ofNat t.idle
    iowait := UInt64.ofNat t.iowait
    irq := UInt64.ofNat t.irq
    softirq := UInt64.ofNat t.softirq
    steal := UInt64.ofNat t.steal }

/-- `/proc/stat`: the line of the total, then one line for each CPU that is online. -/
structure ProcStat where
  total : CpuTimes
  online : List (Nat × CpuTimes)

/-- The lines of the file up to the first one that is about something else. -/
def ProcStat.lines (p : ProcStat) : List StatLine :=
  StatLine.cpu (utf8 "cpu") 11 p.total.stats ::
    (p.online.map (fun c => StatLine.cpu (utf8 "cpu" ++ decimal c.1) 11 c.2.stats) ++
      [StatLine.other])

/-- The row that stands at a position of the file, whichever CPU it belongs to. -/
def ProcStat.rowAt (p : ProcStat) (i : Nat) : CpuStats :=
  if i < maxCpus then (p.online[i]?.map fun c => c.2.stats).getD CpuStats.zero
  else CpuStats.zero

theorem cpuLabel_ne (n : Nat) : utf8 "cpu" ++ decimal n ≠ utf8 "cpu" := by
  intro h
  exact decimal_ne_nil n (List.append_right_eq_self.mp h)

/-- The rows are filled in the order of the file, up to the size of the array. -/
theorem readCpuLines_online (snap : CpuSnapshot) (cpus : List (Nat × CpuTimes))
    (hfilled : snap.perCore.length = min snap.coreCount maxCpus) :
    readCpuLines snap
        (cpus.map (fun c => StatLine.cpu (utf8 "cpu" ++ decimal c.1) 11 c.2.stats) ++
          [StatLine.other]) =
      { snap with
        coreCount := snap.coreCount + cpus.length
        perCore := (snap.perCore ++ cpus.map fun c => c.2.stats).take maxCpus } := by
  induction cpus generalizing snap with
  | nil =>
      have hshort : snap.perCore.length ≤ maxCpus := by
        rw [hfilled]
        exact min_le_right _ _
      rw [List.map_nil, List.map_nil, List.append_nil, List.take_of_length_le hshort]
      rfl
  | cons c cpus ih =>
      have hfields : ¬ (11 < 5) := by decide
      simp only [List.map_cons, List.cons_append, readCpuLines, if_neg hfields,
        if_neg (cpuLabel_ne c.1)]
      by_cases hfull : maxCpus ≤ snap.coreCount
      · have hlength : snap.perCore.length = maxCpus := by
          rw [hfilled, min_eq_right hfull]
        have hnext : snap.perCore.length = min (snap.coreCount + 1) maxCpus := by
          rw [hlength, min_eq_right (Nat.le_succ_of_le hfull)]
        rw [if_pos hfull]
        refine (ih _ hnext).trans ?_
        simp only [List.length_cons, Nat.add_assoc, Nat.add_comm 1, CpuSnapshot.mk.injEq,
          true_and, and_true]
        rw [List.take_append_of_le_length hlength.ge, List.take_append_of_le_length hlength.ge]
      · have hlength : (snap.perCore ++ [c.2.stats]).length =
            min (snap.coreCount + 1) maxCpus := by
          rw [List.length_append, hfilled, List.length_singleton]
          omega
        rw [if_neg hfull]
        refine (ih _ hlength).trans ?_
        simp only [List.length_cons, Nat.add_assoc, Nat.add_comm 1, List.append_assoc,
          List.singleton_append]

theorem readCpuStats_lines (p : ProcStat) :
    readCpuStats (some p.lines) =
      some
        { total := p.total.stats
          perCore := (p.online.map fun c => c.2.stats).take maxCpus
          coreCount := p.online.length
          valid := true } := by
  have honline := readCpuLines_online { CpuSnapshot.zero with total := p.total.stats } p.online
    rfl
  have hfields : ¬ (11 < 5) := by decide
  simp only [CpuSnapshot.zero, List.nil_append, Nat.zero_add] at honline
  simp only [readCpuStats, Option.map_some, ProcStat.lines, readCpuLines, if_neg hfields,
    if_true, CpuSnapshot.zero, honline]

theorem row_lines {p : ProcStat} {snap : CpuSnapshot}
    (h : readCpuStats (some p.lines) = some snap) (i : Nat) : snap.row i = p.rowAt i := by
  rw [readCpuStats_lines] at h
  cases h
  simp only [CpuSnapshot.row, ProcStat.rowAt, List.getD_eq_getElem?_getD, List.getElem?_take,
    List.getElem?_map]
  split
  · rfl
  · rfl

/-- What the second of two collections reports on two files. -/
def reportOn (before now : ProcStat) : CpuReport :=
  (leoMetricsCollect (leoMetricsInit (some before.lines)) (some now.lines)).1

theorem reportOn_eq (before now : ProcStat) :
    reportOn before now =
      { total := cpuUsage before.total.stats now.total.stats
        cores := (List.range (min now.online.length leoMaxCpuCores)).map fun i =>
          cpuUsage (before.rowAt i) (now.rowAt i) } := by
  have hbefore := row_lines (readCpuStats_lines before)
  have hnow := row_lines (readCpuStats_lines now)
  simp only [reportOn, leoMetricsInit, leoMetricsCollect, readCpuStats_lines, if_true,
    usageBetween, hbefore, hnow]

/-- Every value of a report is a percentage. -/
def CpuReport.Percentages (r : CpuReport) : Prop :=
  forall v, v = r.total ∨ v ∈ r.cores -> 0 ≤ v ∧ v ≤ 100

/-- The total and each reported position grow steadily, against the row that stood at the
same position before. -/
def SteadyRows (before now : ProcStat) : Prop :=
  Steady before.total.stats now.total.stats ∧
    forall i, i < now.online.length -> i < leoMaxCpuCores ->
      Steady (before.rowAt i) (now.rowAt i)

/-- The reported values are percentages exactly if no position of the file, whichever
CPUs stand there, has an idle and a busy growth that exceed `2 ^ 64` together. -/
theorem cpu_percentages_iff (before now : ProcStat) :
    (reportOn before now).Percentages <-> SteadyRows before now := by
  rw [reportOn_eq]
  constructor
  · intro h
    constructor
    · exact (cpuUsage_range_iff _ _).mp (h _ (Or.inl rfl))
    · intro i hi hmax
      have hmem : cpuUsage (before.rowAt i) (now.rowAt i) ∈
          (List.range (min now.online.length leoMaxCpuCores)).map fun i =>
            cpuUsage (before.rowAt i) (now.rowAt i) :=
        List.mem_map.mpr ⟨i, List.mem_range.mpr (lt_min hi hmax), rfl⟩
      exact (cpuUsage_range_iff _ _).mp (h _ (Or.inr hmem))
  · intro h v hv
    rcases hv with htotal | hcore
    · rw [htotal]
      exact (cpuUsage_range_iff _ _).mpr h.left
    · rcases List.mem_map.mp hcore with ⟨i, hi, heq⟩
      rcases lt_min_iff.mp (List.mem_range.mp hi) with ⟨honline, hmax⟩
      rw [← heq]
      exact (cpuUsage_range_iff _ _).mpr (h.right i honline hmax)

/-!
## Rows that stay in place, and rows that move
-/

def CpuTimes.idleTime (t : CpuTimes) : Nat :=
  t.idle + t.iowait

def CpuTimes.busyTime (t : CpuTimes) : Nat :=
  t.user + t.nice + t.system + t.irq + t.softirq + t.steal

/-- No counter has decreased. -/
structure CpuTimes.Grows (before now : CpuTimes) : Prop where
  user : before.user ≤ now.user
  nice : before.nice ≤ now.nice
  system : before.system ≤ now.system
  idle : before.idle ≤ now.idle
  iowait : before.iowait ≤ now.iowait
  irq : before.irq ≤ now.irq
  softirq : before.softirq ≤ now.softirq
  steal : before.steal ≤ now.steal

theorem idleTime_stats (t : CpuTimes) : t.stats.idleTime = UInt64.ofNat t.idleTime := by
  simp only [CpuStats.idleTime, CpuTimes.stats, CpuTimes.idleTime, UInt64.ofNat_add]

theorem busyTime_stats (t : CpuTimes) : t.stats.busyTime = UInt64.ofNat t.busyTime := by
  simp only [CpuStats.busyTime, CpuTimes.stats, CpuTimes.busyTime, UInt64.ofNat_add]

/-- A CPU that is compared with itself grows steadily, unless it grows by `2 ^ 64`. -/
theorem steady_of_grows {before now : CpuTimes} (h : before.Grows now)
    (hlt : now.idleTime + now.busyTime < before.idleTime + before.busyTime + 2 ^ 64) :
    Steady before.stats now.stats := by
  have hidle : before.idleTime ≤ now.idleTime := Nat.add_le_add h.idle h.iowait
  have hbusy : before.busyTime ≤ now.busyTime := by
    have huser := h.user
    have hnice := h.nice
    have hsystem := h.system
    have hirq := h.irq
    have hsoftirq := h.softirq
    have hsteal := h.steal
    unfold CpuTimes.busyTime
    omega
  rw [Steady, idleTime_stats, idleTime_stats, busyTime_stats, busyTime_stats,
    Growth.toNat_sub_ofNat hidle (by omega), Growth.toNat_sub_ofNat hbusy (by omega)]
  omega

/-- The counters of the total, and of every CPU that is online both times, have not
decreased. -/
def ProcStat.Grows (before now : ProcStat) : Prop :=
  before.total.Grows now.total ∧
    forall n t u, (n, t) ∈ before.online -> (n, u) ∈ now.online -> t.Grows u

/-- No row grows by `2 ^ 64` between the two files. -/
def ProcStat.WithinRange (before now : ProcStat) : Prop :=
  now.total.idleTime + now.total.busyTime <
      before.total.idleTime + before.total.busyTime + 2 ^ 64 ∧
    forall n t u, (n, t) ∈ before.online -> (n, u) ∈ now.online ->
      u.idleTime + u.busyTime < t.idleTime + t.busyTime + 2 ^ 64

theorem rowAt_of_getElem? {p : ProcStat} {i : Nat} {c : Nat × CpuTimes}
    (h : p.online[i]? = some c) (hi : i < maxCpus) : p.rowAt i = c.2.stats := by
  rw [ProcStat.rowAt, if_pos hi, h]
  rfl

/-- While the same CPUs are online, the reported values are percentages. -/
theorem percentages_of_same_cpus {before now : ProcStat} (hgrows : before.Grows now)
    (hrange : before.WithinRange now)
    (hsame : before.online.map Prod.fst = now.online.map Prod.fst) :
    (reportOn before now).Percentages := by
  apply (cpu_percentages_iff before now).mpr
  constructor
  · exact steady_of_grows hgrows.left hrange.left
  · intro i hi hmax
    have hlength : before.online.length = now.online.length := by
      rw [← List.length_map Prod.fst, hsame, List.length_map]
    have hbefore : before.online[i]? = some (before.online[i]) :=
      List.getElem?_eq_getElem (hlength ▸ hi)
    have hnow : now.online[i]? = some (now.online[i]) := List.getElem?_eq_getElem hi
    have hnumber : (before.online[i]).1 = (now.online[i]).1 := by
      have hpair := congrArg (fun xs => xs[i]?) hsame
      simp only [List.getElem?_map, hbefore, hnow, Option.map_some] at hpair
      exact Option.some.inj hpair
    have hmember : ((now.online[i]).1, (before.online[i]).2) ∈ before.online := by
      rw [← hnumber]
      exact List.mem_of_getElem? hbefore
    rw [rowAt_of_getElem? hbefore hmax, rowAt_of_getElem? hnow hmax]
    exact steady_of_grows (hgrows.right _ _ _ hmember (List.mem_of_getElem? hnow))
      (hrange.right _ _ _ hmember (List.mem_of_getElem? hnow))

/-- Times of a CPU that has only been idle or run user code. -/
def simpleTimes (user idle : Nat) : CpuTimes :=
  { user := user
    nice := 0
    system := 0
    idle := idle
    iowait := 0
    irq := 0
    softirq := 0
    steal := 0 }

/-- Three CPUs, of which number 1 has always been idle. -/
def threeOnline : ProcStat :=
  { total := simpleTimes 1900 1000
    online := [(0, simpleTimes 0 0), (1, simpleTimes 0 1000), (2, simpleTimes 1900 0)] }

/-- Number 1 has gone offline, so number 2 stands at its position. -/
def twoOnline : ProcStat :=
  { total := simpleTimes 2000 1000
    online := [(0, simpleTimes 0 0), (2, simpleTimes 2000 0)] }

theorem simpleTimes_grows {user user' idle idle' : Nat} (huser : user ≤ user')
    (hidle : idle ≤ idle') : (simpleTimes user idle).Grows (simpleTimes user' idle') :=
  ⟨huser, Nat.le_refl 0, Nat.le_refl 0, hidle, Nat.le_refl 0, Nat.le_refl 0, Nat.le_refl 0,
    Nat.le_refl 0⟩

theorem threeOnline_grows : threeOnline.Grows twoOnline := by
  constructor
  · exact simpleTimes_grows (by decide) (by decide)
  · intro n t u hbefore hnow
    simp only [threeOnline, List.mem_cons, Prod.mk.injEq, List.not_mem_nil, or_false] at hbefore
    simp only [twoOnline, List.mem_cons, Prod.mk.injEq, List.not_mem_nil, or_false] at hnow
    rcases hbefore with ⟨hn, ht⟩ | ⟨hn, ht⟩ | ⟨hn, ht⟩
    · rcases hnow with ⟨hn', hu⟩ | ⟨hn', hu⟩
      · rw [ht, hu]
        exact simpleTimes_grows (Nat.le_refl 0) (Nat.le_refl 0)
      · omega
    · omega
    · rcases hnow with ⟨hn', hu⟩ | ⟨hn', hu⟩
      · omega
      · rw [ht, hu]
        exact simpleTimes_grows (by decide) (Nat.le_refl 0)

/-- The CPU at the position of the one that went offline is reported at 200 percent. -/
theorem core_at_two_hundred_percent :
    (reportOn threeOnline twoOnline).cores = [0, 200] ∧
    ¬ forall before now : ProcStat, before.Grows now -> (reportOn before now).Percentages := by
  have hcores : (reportOn threeOnline twoOnline).cores = [0, 200] := by
    rw [reportOn_eq]
    decide +kernel
  constructor
  · exact hcores
  · intro hall
    have hmem : (200 : ℚ) ∈ (reportOn threeOnline twoOnline).cores := by
      rw [hcores]
      exact List.mem_cons_of_mem 0 List.mem_cons_self
    have hvalue := hall threeOnline twoOnline threeOnline_grows 200 (Or.inr hmem)
    exact absurd hvalue.right (by norm_num)

end Agent
end LeoOne
