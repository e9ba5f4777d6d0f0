import LeoOne.Agent.Reports
import LeoOne.Backend.Unmarshal

/-!
# Numbers from the agent to the backend

The dispatcher decodes the text of a report in two steps, first the envelope and then
the body of its type.  cJSON writes an integer beyond the range of `int` with `%1.15g`
when that text reads back as nearly the same double, and an integer from 10^15 on can
then end up with an exponent, which no integer field of the backend takes.
-/

namespace LeoOne
namespace Backend

open Wire

/-!
## The struct types of the dispatcher
-/

/-- `envelope`; a missing body is no JSON text. -/
structure ReportEnvelope where
  v : Int := 0
  type : Int := 0
  id : String := ""
  ts : Int := 0
  body : Option Raw := none

def ReportEnvelope.fields : List (Field ReportEnvelope) :=
  [⟨"v", fun b r => (storeInt b.v r).map fun x => { b with v := x }⟩,
    ⟨"type", fun b r => (storeInt b.type r).map fun x => { b with type := x }⟩,
    ⟨"id", fun b r => (storeString b.id r).map fun x => { b with id := x }⟩,
    ⟨"ts", fun b r => (storeInt b.ts r).map fun x => { b with ts := x }⟩,
    ⟨"body", fun b r => some { b with body := some r }⟩]

structure MetricsBody where
  cpuPercent : List UInt8 := utf8 "0"
  cpuPerCore : List (List UInt8) := []
  ramTotalBytes : Nat := 0
  ramUsedBytes : Nat := 0
  ramAvailableBytes : Nat := 0
  diskTotalBytes : Nat := 0
  diskUsedBytes : Nat := 0
  netBytesIn : Nat := 0
  netBytesOut : Nat := 0
  processCount : Nat := 0

def MetricsBody.fields : List (Field MetricsBody) :=
  [⟨"cpu_percent", fun b r => (storeFloat b.cpuPercent r).map fun x =>
      { b with cpuPercent := x }⟩,
    ⟨"cpu_per_core", fun b r => (storeSlice (storeFloat (utf8 "0")) r).map fun x =>
      { b with cpuPerCore := x }⟩,
    ⟨"ram_total_bytes", fun b r => (storeUint 64 b.ramTotalBytes r).map fun x =>
      { b with ramTotalBytes := x }⟩,
    ⟨"ram_used_bytes", fun b r => (storeUint 64 b.ramUsedBytes r).map fun x =>
      { b with ramUsedBytes := x }⟩,
    ⟨"ram_available_bytes", fun b r => (storeUint 64 b.ramAvailableBytes r).map fun x =>
      { b with ramAvailableBytes := x }⟩,
    ⟨"disk_total_bytes", fun b r => (storeUint 64 b.diskTotalBytes r).map fun x =>
      { b with diskTotalBytes := x }⟩,
    ⟨"disk_used_bytes", fun b r => (storeUint 64 b.diskUsedBytes r).map fun x =>
      { b with diskUsedBytes := x }⟩,
    ⟨"net_bytes_in", fun b r => (storeUint 64 b.netBytesIn r).map fun x =>
      { b with netBytesIn := x }⟩,
    ⟨"net_bytes_out", fun b r => (storeUint 64 b.netBytesOut r).map fun x =>
      { b with netBytesOut := x }⟩,
    ⟨"process_count", fun b r => (storeUint 32 b.processCount r).map fun x =>
      { b with processCount := x }⟩]

structure HardwareBody where
  cpuModel : String := ""
  cpuCores : Int := 0
  cpuThreads : Int := 0
  ramTotalBytes : Int := 0
  diskCount : Int := 0
  biosVersion : String := ""
  biosVendor : String := ""
  motherboard : String := ""
  serialNumber : String := ""

def HardwareBody.fields : List (Field HardwareBody) :=
  [⟨"cpu_model", fun b r => (storeString b.cpuModel r).map fun x =>
      { b with cpuModel := x }⟩,
    ⟨"cpu_cores", fun b r => (storeInt b.cpuCores r).map fun x => { b with cpuCores := x }⟩,
    ⟨"cpu_threads", fun b r => (storeInt b.cpuThreads r).map fun x =>
      { b with cpuThreads := x }⟩,
    ⟨"ram_total_bytes", fun b r => (storeInt b.ramTotalBytes r).map fun x =>
      { b with ramTotalBytes := x }⟩,
    ⟨"disk_count", fun b r => (storeInt b.diskCount r).map fun x =>
      { b with diskCount := x }⟩,
    ⟨"bios_version", fun b r => (storeString b.biosVersion r).map fun x =>
      { b with biosVersion := x }⟩,
    ⟨"bios_vendor", fun b r => (storeString b.biosVendor r).map fun x =>
      { b with biosVendor := x }⟩,
    ⟨"motherboard", fun b r => (storeString b.motherboard r).map fun x =>
      { b with motherboard := x }⟩,
    ⟨"serial_number", fun b r => (storeString b.serialNumber r).map fun x =>
      { b with serialNumber := x }⟩]

structure SoftwareBody where
  name : String := ""
  version : String := ""
  publisher : String := ""
  installPath : String := ""

def SoftwareBody.fields : List (Field SoftwareBody) :=
  [⟨"name", fun b r => (storeString b.name r).map fun x => { b with name := x }⟩,
    ⟨"version", fun b r => (storeString b.version r).map fun x => { b with version := x }⟩,
    ⟨"publisher", fun b r => (storeString b.publisher r).map fun x =>
      { b with publisher := x }⟩,
    ⟨"install_path", fun b r => (storeString b.installPath r).map fun x =>
      { b with installPath := x }⟩]

structure InventoryBody where
  hardware : HardwareBody := {}
  software : List SoftwareBody := []

def InventoryBody.fields : List (Field InventoryBody) :=
  [⟨"hardware", fun b r => (storeStruct HardwareBody.fields b.hardware r).map fun x =>
      { b with hardware := x }⟩,
    ⟨"software", fun b r => (storeSlice (storeStruct SoftwareBody.fields {}) r).map fun x =>
      { b with software := x }⟩]

def PatchItemBody.fields : List (Field PatchItemBody) :=
  [⟨"id", fun b r => (storeString b.id r).map fun x => { b with id := x }⟩,
    ⟨"title", fun b r => (storeString b.title r).map fun x => { b with title := x }⟩,
    ⟨"severity", fun b r => (storeString b.severity r).map fun x => { b with severity := x }⟩,
    ⟨"size_bytes", fun b r => (storeUint 64 b.sizeBytes.toNat r).map fun x =>
      { b with sizeBytes := UInt64.ofNat x }⟩]

structure PatchInventoryBody where
  patches : List PatchItemBody := []

def PatchInventoryBody.fields : List (Field PatchInventoryBody) :=
  [⟨"patches", fun b r => (storeSlice (storeStruct PatchItemBody.fields ⟨"", "", "", 0⟩) r).map
      fun x => { b with patches := x }⟩]

def FileTransferProgressBody.fields : List (Field FileTransferProgressBody) :=
  [⟨"command_id", fun b r => (storeString b.commandId r).map fun x =>
      { b with commandId := x }⟩,
    ⟨"status", fun b r => (storeString b.status r).map fun x => { b with status := x }⟩,
    ⟨"percent", fun b r => (storeInt b.percent r).map fun x => { b with percent := x }⟩,
    ⟨"bytes_received", fun b r => (storeUint 64 b.bytesReceived r).map fun x =>
      { b with bytesReceived := x }⟩,
    ⟨"bytes_total", fun b r => (storeUint 64 b.bytesTotal r).map fun x =>
      { b with bytesTotal := x }⟩,
    ⟨"error", fun b r => (storeString b.error r).map fun x => { b with error := x }⟩]

/-!
## The dispatcher
-/

/-- The decoded body of a report. -/
inductive ReportBody where
  | metrics (b : MetricsBody)
  | inventory (b : InventoryBody)
  | patchInventory (b : PatchInventoryBody)
  | fileTransferProgress (b : FileTransferProgressBody)

/-- The unmarshalling in `handleMetrics`, `handleInventory`, `handlePatchInventory` and
`handleFileTransferProgress`; the other types of messages have no such body. -/
def decodeBody (type : Int) (body : Raw) : Option ReportBody :=
  if type = 3 then (storeStruct MetricsBody.fields {} body).map ReportBody.metrics
  else if type = 4 then (storeStruct InventoryBody.fields {} body).map ReportBody.inventory
  else if type = 8 then
    (storeStruct PatchInventoryBody.fields {} body).map ReportBody.patchInventory
  else if type = 9 then
    (storeStruct FileTransferProgressBody.fields ⟨"", "", 0, 0, 0, ""⟩ body).map
      ReportBody.fileTransferProgress
  else none

/-- `Dispatch` up to the decoded body of a report, with the time of the envelope.  The
raw body is scanned once, in its place. -/
def decodeReport (text : List UInt8) : Option (Int × ReportBody) :=
  (unmarshal text).bind fun raw =>
    (storeStruct ReportEnvelope.fields {} raw).bind fun env =>
      env.body.bind fun body =>
        (decodeBody env.type body).map fun b => (env.ts, b)

/-- The integers of a decoded body, with their tags. -/
def ReportBody.integers : ReportBody -> List (String × Int)
  | metrics b =>
      [("ram_total_bytes", b.ramTotalBytes),
        ("ram_used_bytes", b.ramUsedBytes),
        ("ram_available_bytes", b.ramAvailableBytes),
        ("disk_total_bytes", b.diskTotalBytes),
        ("disk_used_bytes", b.diskUsedBytes),
        ("net_bytes_in", b.netBytesIn),
        ("net_bytes_out", b.netBytesOut),
        ("process_count", b.processCount)]
  | inventory b =>
      [("cpu_cores", b.hardware.cpuCores),
        ("cpu_threads", b.hardware.cpuThreads),
        ("ram_total_bytes", b.hardware.ramTotalBytes),
        ("disk_count", b.hardware.diskCount)]
  | patchInventory b =>
      b.patches.map fun p => ("size_bytes", (p.sizeBytes.toNat : Int))
  | fileTransferProgress b =>
      [("percent", b.percent),
        ("bytes_received", b.bytesReceived),
        ("bytes_total", b.bytesTotal)]

/-!
## Numbers that come back
-/

theorem storeUint_counter {v : UInt64} (h : (v.toNat : Int) < 2 ^ 53) (old : Nat) :
    storeUint 64 old (Printed.number (toDouble v.toNat)).raw =
      if writtenWithExponent v.toNat then none else some v.toNat := by
  rw [toDouble_exact (by omega)]
  exact parseUint_printNumber (by decide) (by omega)

theorem storeInt_counter {v : UInt64} (h : (v.toNat : Int) < 2 ^ 53) (old : Int) :
    storeInt old (Printed.number (toDouble v.toNat)).raw =
      if writtenWithExponent v.toNat then none else some (v.toNat : Int) := by
  rw [toDouble_exact (by omega)]
  exact parseInt_printNumber (by omega)

theorem storeUint_word (v : UInt32) (old : Nat) :
    storeUint 32 old (Printed.number v.toNat).raw = some v.toNat := by
  have hlt := v.toNat_lt
  show parseUint 32 (printNumber v.toNat) = some v.toNat
  rw [printNumber_small (by omega), parseUint_decimal (by omega)]

theorem fitsInt_toInt (v : Int32) : fitsInt v.toInt = true := by
  have hlo := v.le_toInt
  have hhi := v.toInt_lt
  rw [fitsInt, Bool.and_eq_true, decide_eq_true_eq, decide_eq_true_eq]
  omega

theorem storeInt_int (v : Int32) (old : Int) :
    storeInt old (Printed.number v.toInt).raw = some v.toInt :=
  parseInt_printNumber_int (fitsInt_toInt v)

/-- What is stored for a double. -/
def doubleLiteral (old : List UInt8) : Double -> List UInt8
  | Double.notFinite => old
  | Double.finite literal _ _ => literal

theorem storeFloat_double (d : Double) (old : List UInt8) :
    storeFloat old (Printed.double d).raw = some (doubleLiteral old d) := by
  cases d with
  | notFinite =>
      rfl
  | finite literal number range =>
      simp only [Printed.double, Printed.literal, storeFloat, range, if_true, doubleLiteral]

theorem guard_map {alpha beta : Type} (p : Bool) (x : alpha) (k : alpha -> beta) :
    (if p then none else some x).map k = if p then none else some (k x) := by
  cases p with
  | true =>
      rfl
  | false =>
      rfl

theorem guard_bind {alpha beta : Type} (p : Bool) (x : alpha) (k : alpha -> Option beta) :
    (if p then none else some x).bind k = if p then none else k x := by
  cases p with
  | true =>
      rfl
  | false =>
      rfl

theorem guard_guard {alpha : Type} (p q : Bool) (x : Option alpha) :
    (if p then none else if q then none else x) = if p || q then none else x := by
  cases p with
  | true =>
      rfl
  | false =>
      rfl

/-- An integer of a report is refused. -/
def refused (f : String × Int) : Bool :=
  writtenWithExponent f.2.toNat

theorem refused_natCast (key : String) (n : Nat) :
    refused (key, n) = writtenWithExponent n := rfl

theorem not_refused_word (v : UInt32) : writtenWithExponent v.toNat = false := by
  have hlt := v.toNat_lt
  exact not_writtenWithExponent (by omega)

theorem not_refused_int (key : String) (v : Int32) : refused (key, v.toInt) = false := by
  have hlt := v.toInt_lt
  apply not_writtenWithExponent
  show v.toInt.toNat < 10 ^ 15
  omega

/-!
## Bodies that come back
-/

/-- The string that the backend reads for a C string. -/
def readBack (bytes : List UInt8) : String :=
  unquote (escape bytes)

def metricsBack (m : Agent.LeoMetrics) : MetricsBody where
  cpuPercent := doubleLiteral (utf8 "0") m.cpuTotalPercent
  cpuPerCore :=
    (m.cpuPerCore.toList.take m.cpuCoreCount.toInt.toNat).map (doubleLiteral (utf8 "0"))
  ramTotalBytes := m.ramTotalBytes.toNat
  ramUsedBytes := m.ramUsedBytes.toNat
  ramAvailableBytes := m.ramAvailableBytes.toNat
  diskTotalBytes := m.diskTotalBytes.toNat
  diskUsedBytes := m.diskUsedBytes.toNat
  netBytesIn := m.netBytesIn.toNat
  netBytesOut := m.netBytesOut.toNat
  processCount := m.processCount.toNat

theorem store_metrics (m : Agent.LeoMetrics)
    (h : forall f, f ∈ (Agent.Report.metrics m).integers -> f.2 < 2 ^ 53) :
    storeStruct MetricsBody.fields {} (Printed.object (Agent.metricsMembers m)).raw =
      if (Agent.Report.metrics m).integers.any refused then none
      else some (metricsBack m) := by
  have hkeys : ((Agent.metricsMembers m).map Member.key).all isPlainKey = true := by
    simp only [Agent.metricsMembers, Agent.counter, List.map_cons, List.map_nil]
    decide
  have hcores := storeSlice_stored fun d => storeFloat_double d (utf8 "0")
  rw [storeStruct_printed (by decide) hkeys]
  simp only [Agent.Report.integers, List.mem_cons, List.not_mem_nil, or_false,
    forall_eq_or_imp, forall_eq] at h
  rcases h with ⟨hramTotal, hramUsed, hramAvailable, hdiskTotal, hdiskUsed, hin, hout, _⟩
  simp only [Agent.metricsMembers, Agent.counter, List.foldlM_cons, List.foldlM_nil,
    storeNamed, MetricsBody.fields, String.reduceEq, if_true, if_false, Option.map_some,
    Option.bind_eq_bind, Option.bind_some, Option.pure_def, storeFloat_double,
    hcores, storeUint_word, storeUint_counter hramTotal,
    storeUint_counter hramUsed, storeUint_counter hramAvailable,
    storeUint_counter hdiskTotal, storeUint_counter hdiskUsed, storeUint_counter hin,
    storeUint_counter hout, guard_map, guard_bind, guard_guard]
  simp only [Agent.Report.integers, List.any_cons, List.any_nil, refused_natCast,
    not_refused_word, Bool.or_false]
  rfl

theorem storeString_printed (bytes : List UInt8) (old : String) :
    storeString old (Printed.string bytes).raw = some (readBack bytes) := rfl

def hardwareBack (hw : Agent.LeoHwInventory) : HardwareBody where
  cpuModel := readBack hw.cpuModel
  cpuCores := hw.cpuCores.toInt
  cpuThreads := hw.cpuThreads.toInt
  ramTotalBytes := hw.ramTotalBytes.toNat
  diskCount := hw.diskCount.toInt
  biosVersion := readBack hw.biosVersion
  biosVendor := readBack hw.biosVendor
  motherboard := readBack hw.motherboard
  serialNumber := readBack hw.serialNumber

theorem store_hardware (hw : Agent.LeoHwInventory)
    (h : (hw.ramTotalBytes.toNat : Int) < 2 ^ 53) :
    storeStruct HardwareBody.fields {} (Printed.object (Agent.hardwareMembers hw)).raw =
      if writtenWithExponent hw.ramTotalBytes.toNat then none
      else some (hardwareBack hw) := by
  have hkeys : ((Agent.hardwareMembers hw).map Member.key).all isPlainKey = true := by
    simp only [Agent.hardwareMembers, Agent.counter, Agent.intNumber, Agent.string,
      List.map_cons, List.map_nil]
    decide
  rw [storeStruct_printed (by decide) hkeys]
  simp only [Agent.hardwareMembers, Agent.counter, Agent.intNumber, Agent.string,
    List.foldlM_cons, List.foldlM_nil, storeNamed, HardwareBody.fields, String.reduceEq,
    if_true, if_false, Option.map_some, Option.bind_eq_bind, Option.bind_some,
    Option.pure_def, storeString_printed, storeInt_int, storeInt_counter h, guard_map,
    guard_bind]
  rfl

def softwareBack (sw : Agent.LeoSwItem) : SoftwareBody where
  name := readBack sw.name
  version := readBack sw.version
  publisher := readBack sw.publisher
  installPath := readBack sw.installPath

theorem store_software (sw : Agent.LeoSwItem) :
    storeStruct SoftwareBody.fields {} (Printed.object (Agent.softwareMembers sw)).raw =
      some (softwareBack sw) := by
  have hkeys : ((Agent.softwareMembers sw).map Member.key).all isPlainKey = true := by
    simp only [Agent.softwareMembers, Agent.string, List.map_cons, List.map_nil]
    decide
  rw [storeStruct_printed (by decide) hkeys]
  simp only [Agent.softwareMembers, Agent.string, List.foldlM_cons, List.foldlM_nil,
    storeNamed, SoftwareBody.fields, String.reduceEq, if_true, if_false, Option.map_some,
    Option.bind_eq_bind, Option.bind_some, Option.pure_def, storeString_printed]
  rfl

def inventoryBack (hw : Agent.LeoHwInventory) (sw : List Agent.LeoSwItem) :
    InventoryBody where
  hardware := hardwareBack hw
  software := sw.map softwareBack

theorem store_inventory (hw : Agent.LeoHwInventory) (sw : List Agent.LeoSwItem)
    (h : forall f, f ∈ (Agent.Report.inventory hw sw).integers -> f.2 < 2 ^ 53) :
    storeStruct InventoryBody.fields {} (Printed.object (Agent.inventoryMembers hw sw)).raw =
      if (Agent.Report.inventory hw sw).integers.any refused then none
      else some (inventoryBack hw sw) := by
  have hkeys : ((Agent.inventoryMembers hw sw).map Member.key).all isPlainKey = true := by
    simp only [Agent.inventoryMembers, List.map_cons, List.map_nil]
    decide
  have hram : (hw.ramTotalBytes.toNat : Int) < 2 ^ 53 :=
    h ("ram_total_bytes", hw.ramTotalBytes.toNat) (by simp [Agent.Report.integers])
  have hsoftware := storeSlice_stored store_software sw
  rw [storeStruct_printed (by decide) hkeys]
  simp only [Agent.inventoryMembers, List.foldlM_cons, List.foldlM_nil, storeNamed,
    InventoryBody.fields, String.reduceEq, if_true, if_false, Option.map_some,
    Option.bind_eq_bind, Option.bind_some, Option.pure_def, store_hardware hw hram,
    hsoftware, guard_map, guard_bind]
  simp only [Agent.Report.integers, List.any_cons, List.any_nil, refused_natCast,
    not_refused_int, Bool.or_false, Bool.false_or]
  rfl

def patchBack (p : Agent.LeoPatch) : PatchItemBody where
  id := readBack p.id
  title := readBack p.title
  severity := readBack (utf8 (Agent.patchSeverityStr p.severity))
  sizeBytes := p.sizeBytes

theorem store_patch (p : Agent.LeoPatch) (h : (p.sizeBytes.toNat : Int) < 2 ^ 53) :
    storeStruct PatchItemBody.fields ⟨"", "", "", 0⟩
        (Printed.object (Agent.patchMembers p)).raw =
      if writtenWithExponent p.sizeBytes.toNat then none else some (patchBack p) := by
  have hkeys : ((Agent.patchMembers p).map Member.key).all isPlainKey = true := by
    simp only [Agent.patchMembers, Agent.counter, Agent.string, List.map_cons, List.map_nil]
    decide
  rw [storeStruct_printed (by decide) hkeys]
  simp only [Agent.patchMembers, Agent.counter, Agent.string, List.foldlM_cons,
    List.foldlM_nil, storeNamed, PatchItemBody.fields, String.reduceEq, if_true, if_false,
    Option.map_some, Option.bind_eq_bind, Option.bind_some, Option.pure_def,
    storeString_printed, storeUint_counter h, guard_map, guard_bind, UInt64.ofNat_toNat]
  rfl

theorem store_patchInventory (patches : List Agent.LeoPatch)
    (h : forall f, f ∈ (Agent.Report.patchInventory patches).integers -> f.2 < 2 ^ 53) :
    storeStruct PatchInventoryBody.fields {}
        (Printed.object (Agent.patchInventoryMembers patches)).raw =
      if (Agent.Report.patchInventory patches).integers.any refused then none
      else some ⟨patches.map patchBack⟩ := by
  have hkeys :
      ((Agent.patchInventoryMembers patches).map Member.key).all isPlainKey = true := by
    simp only [Agent.patchInventoryMembers, List.map_cons, List.map_nil]
    decide
  have hsize : forall p, p ∈ patches -> (p.sizeBytes.toNat : Int) < 2 ^ 53 := by
    intro p hp
    apply h ("size_bytes", p.sizeBytes.toNat)
    exact List.mem_map.mpr ⟨p, hp, rfl⟩
  have hpatches := storeSlice_printed (fun p => writtenWithExponent p.sizeBytes.toNat)
    patches fun p hp => store_patch p (hsize p hp)
  rw [storeStruct_printed (by decide) hkeys]
  simp only [Agent.patchInventoryMembers, List.foldlM_cons, List.foldlM_nil, storeNamed,
    PatchInventoryBody.fields, if_true, Option.bind_eq_bind, Option.pure_def, hpatches,
    guard_map, guard_bind]
  simp only [Agent.Report.integers, List.any_map]
  rfl

def progressBack (p : Agent.LeoFileTransferProgress) : FileTransferProgressBody where
  commandId := readBack p.cmdId
  status := readBack (utf8 (Agent.fileTransferStatusStr p.status))
  percent := p.percent.toInt
  bytesReceived := p.bytesReceived.toNat
  bytesTotal := p.bytesTotal.toNat
  error := (p.errorMsg.map readBack).getD ""

theorem store_progress (p : Agent.LeoFileTransferProgress)
    (h : forall f, f ∈ (Agent.Report.fileTransferProgress p).integers -> f.2 < 2 ^ 53) :
    storeStruct FileTransferProgressBody.fields ⟨"", "", 0, 0, 0, ""⟩
        (Printed.object (Agent.progressMembers p)).raw =
      if (Agent.Report.fileTransferProgress p).integers.any refused then none
      else some (progressBack p) := by
  simp only [Agent.Report.integers, List.mem_cons, List.not_mem_nil, or_false,
    forall_eq_or_imp, forall_eq] at h
  rcases h with ⟨_, hreceived, htotal⟩
  simp only [Agent.Report.integers, List.any_cons, List.any_nil, refused_natCast,
    not_refused_int, Bool.or_false, Bool.false_or]
  have hkeys : ((Agent.progressMembers p).map Member.key).all isPlainKey = true := by
    rw [Agent.progressMembers, List.map_append, List.all_append, Bool.and_eq_true]
    constructor
    · simp only [Agent.counter, Agent.intNumber, Agent.string, List.map_cons, List.map_nil]
      decide
    · apply List.all_eq_true.mpr
      intro key hkey
      simp only [List.map_map, List.mem_map] at hkey
      rcases hkey with ⟨_, _, rfl⟩
      show isPlainKey "error" = true
      decide
  rw [storeStruct_printed (by decide) hkeys, Agent.progressMembers, List.foldlM_append]
  simp only [Agent.counter, Agent.intNumber, Agent.string, List.foldlM_cons, List.foldlM_nil,
    storeNamed, FileTransferProgressBody.fields, String.reduceEq, if_true, if_false,
    Option.map_some, Option.bind_eq_bind, Option.bind_some, Option.pure_def,
    storeString_printed, storeInt_int, storeUint_counter hreceived,
    storeUint_counter htotal, guard_map, guard_bind, guard_guard]
  -- the last member is printed only with an error message
  rw [progressBack]
  cases p.errorMsg with
  | none =>
      rfl
  | some error =>
      rfl

/-!
## Messages that come back
-/

theorem store_envelope (type : Int) (htype : fitsInt type = true) (msgId : List UInt8)
    {ts : UInt64} (hts : (ts.toNat : Int) < 2 ^ 53) (body : Printed) :
    storeStruct ReportEnvelope.fields {}
        (Printed.object (Agent.Report.envelopeMembers type msgId ts body)).raw =
      if writtenWithExponent ts.toNat then none
      else some
        { v := 1, type := type, id := readBack msgId, ts := ts.toNat, body := some body.raw } := by
  have hkeys : ((Agent.Report.envelopeMembers type msgId ts body).map Member.key).all
      isPlainKey = true := by
    simp only [Agent.Report.envelopeMembers, Agent.counter, Agent.string, List.map_cons,
      List.map_nil]
    decide
  have hint : forall v, fitsInt v = true -> forall old,
      storeInt old (Printed.number v).raw = some v :=
    fun v hv _ => parseInt_printNumber_int hv
  rw [storeStruct_printed (by decide) hkeys]
  simp only [Agent.Report.envelopeMembers, Agent.counter, Agent.string, List.foldlM_cons,
    List.foldlM_nil, storeNamed, ReportEnvelope.fields, String.reduceEq, if_true, if_false,
    Option.map_some, Option.bind_eq_bind, Option.bind_some, Option.pure_def, hint 1 rfl,
    hint type htype, storeString_printed, storeInt_counter hts, guard_map, guard_bind]

/-- The body that the backend reads if nothing is refused. -/
def reportBack : Agent.Report -> ReportBody
  | Agent.Report.metrics m => ReportBody.metrics (metricsBack m)
  | Agent.Report.inventory hw sw => ReportBody.inventory (inventoryBack hw sw)
  | Agent.Report.patchInventory patches =>
      ReportBody.patchInventory ⟨patches.map patchBack⟩
  | Agent.Report.fileTransferProgress p =>
      ReportBody.fileTransferProgress (progressBack p)

theorem reportBack_integers (r : Agent.Report) : (reportBack r).integers = r.integers := by
  cases r with
  | metrics m =>
      rfl
  | inventory hw sw =>
      rfl
  | patchInventory patches =>
      simp only [reportBack, ReportBody.integers, Agent.Report.integers, List.map_map]
      rfl
  | fileTransferProgress p =>
      rfl

theorem decodeBody_printed (r : Agent.Report)
    (h : forall f, f ∈ r.integers -> f.2 < 2 ^ 53) :
    decodeBody r.type (Printed.object r.members).raw =
      if r.integers.any refused then none else some (reportBack r) := by
  cases r with
  | metrics m =>
      have hmap := congrArg (Option.map ReportBody.metrics) (store_metrics m h)
      rw [guard_map] at hmap
      exact hmap
  | inventory hw sw =>
      have hmap := congrArg (Option.map ReportBody.inventory) (store_inventory hw sw h)
      rw [guard_map] at hmap
      exact hmap
  | patchInventory patches =>
      have hmap := congrArg (Option.map ReportBody.patchInventory) (store_patchInventory patches h)
      rw [guard_map] at hmap
      exact hmap
  | fileTransferProgress p =>
      have hmap := congrArg (Option.map ReportBody.fileTransferProgress) (store_progress p h)
      rw [guard_map] at hmap
      exact hmap

/-- A report is decoded whole, or dropped for one of its integers. -/
theorem decodeReport_build {r : Agent.Report} {msgId : List UInt8} {ts : UInt64}
    {bufsz : Nat} {text : List UInt8} (hbuild : r.build msgId ts bufsz = some text)
    (hts : (ts.toNat : Int) < 2 ^ 53) (h : forall f, f ∈ r.integers -> f.2 < 2 ^ 53) :
    decodeReport text =
      if writtenWithExponent ts.toNat || r.integers.any refused then none
      else some ((ts.toNat : Int), reportBack r) := by
  have htype : fitsInt r.type = true := by
    cases r with
    | metrics m =>
        rfl
    | inventory hw sw =>
        rfl
    | patchInventory patches =>
        rfl
    | fileTransferProgress p =>
        rfl
  rw [Agent.Report.build, Agent.Report.serialize] at hbuild
  rcases Option.ite_none_right_eq_some.mp hbuild with ⟨_, htext⟩
  cases htext
  rw [decodeReport, unmarshal_printed, Option.bind_some,
    store_envelope r.type htype msgId hts, guard_bind]
  simp only [Option.bind_some]
  rw [decodeBody_printed r h, guard_map, guard_guard]

/-- The backend reads a built report with exactly its integers unless cJSON wrote one of
them with an exponent; then the whole message is dropped. -/
theorem report_integers_read_iff {r : Agent.Report} {msgId : List UInt8} {ts : UInt64}
    {bufsz : Nat} {text : List UInt8} (hbuild : r.build msgId ts bufsz = some text)
    (hts : (ts.toNat : Int) < 2 ^ 53) (h : forall f, f ∈ r.integers -> f.2 < 2 ^ 53) :
    (exists body, decodeReport text = some ((ts.toNat : Int), body) ∧
        body.integers = r.integers) <->
      forall v, v ∈ (ts.toNat : Int) :: r.integers.map Prod.snd ->
        writtenWithExponent v.toNat = false := by
  rw [decodeReport_build hbuild hts h]
  have hcond : (writtenWithExponent ts.toNat || r.integers.any refused) = false <->
      forall v, v ∈ (ts.toNat : Int) :: r.integers.map Prod.snd ->
        writtenWithExponent v.toNat = false := by
    rw [Bool.or_eq_false_iff, List.any_eq_false, List.forall_mem_cons, List.forall_mem_map]
    simp only [refused, Bool.not_eq_true, Int.toNat_natCast]
  rw [← hcond]
  constructor
  · rintro ⟨body, hdecode, _⟩
    exact Bool.eq_false_iff.mpr (Option.ite_none_left_eq_some.mp hdecode).left
  · intro hok
    refine ⟨reportBack r, ?_, reportBack_integers r⟩
    rw [hok]
    rfl

/-- A core without load. -/
def idle : Double :=
  Double.finite (utf8 "0") (by decide) (by decide +kernel)

/-- A machine with 16 GiB of memory and a disk of this size. -/
def sampleMetrics (diskTotalBytes : UInt64) : Agent.LeoMetrics where
  cpuTotalPercent := idle
  cpuPerCore := Vector.replicate 256 idle
  cpuCoreCount := 1
  ramTotalBytes := 17179869184
  ramUsedBytes := 4294967296
  ramAvailableBytes := 12884901888
  diskTotalBytes := diskTotalBytes
  diskUsedBytes := 250059350016
  netBytesIn := 4096
  netBytesOut := 1024
  processCount := 212

theorem sampleMetrics_integers {diskTotalBytes : UInt64}
    (h : diskTotalBytes.toNat < 2 ^ 53) :
    forall f, f ∈ (Agent.Report.metrics (sampleMetrics diskTotalBytes)).integers ->
      f.2 < 2 ^ 53 := by
  simp only [Agent.Report.integers, sampleMetrics, List.mem_cons, List.not_mem_nil, or_false,
    forall_eq_or_imp, forall_eq]
  exact ⟨by decide, by decide, by decide, by omega, by decide, by decide, by decide,
    by decide⟩

/-- The integers of a disk of half a terabyte come back. -/
theorem report_integers_read_iff_metrics :
    exists text,
      (Agent.Report.metrics (sampleMetrics 500107862016)).build
        (utf8 "5c0a2a5e-77f4-4b3e-9d0e-3b1d8a6f2c11") 1760000000000 65536 = some text ∧
      exists body, decodeReport text = some (1760000000000, body) ∧
        body.integers =
          (Agent.Report.metrics (sampleMetrics 500107862016)).integers := by
  have hfits : ((Agent.Report.metrics (sampleMetrics 500107862016)).build
      (utf8 "5c0a2a5e-77f4-4b3e-9d0e-3b1d8a6f2c11") 1760000000000 65536).isSome = true := by
    decide +kernel
  rcases Option.isSome_iff_exists.mp hfits with ⟨text, hbuild⟩
  refine ⟨text, hbuild, ?_⟩
  apply (report_integers_read_iff hbuild (by decide)
    (sampleMetrics_integers (by decide))).mpr
  decide

/-- A disk of one petabyte is written `1e+15`, and the message is dropped. -/
theorem petabyte_report_dropped :
    ¬ (forall (r : Agent.Report) (msgId : List UInt8) (ts : UInt64) (bufsz : Nat)
      (text : List UInt8), r.build msgId ts bufsz = some text ->
      (ts.toNat : Int) < 2 ^ 53 -> (forall f, f ∈ r.integers -> f.2 < 2 ^ 53) ->
      exists body, decodeReport text = some ((ts.toNat : Int), body) ∧
        body.integers = r.integers) := by
  intro hall
  have hfits : ((Agent.Report.metrics (sampleMetrics 1000000000000000)).build
      (utf8 "5c0a2a5e-77f4-4b3e-9d0e-3b1d8a6f2c11") 1760000000000 65536).isSome = true := by
    decide +kernel
  rcases Option.isSome_iff_exists.mp hfits with ⟨text, hbuild⟩
  have hints : forall f,
      f ∈ (Agent.Report.metrics (sampleMetrics 1000000000000000)).integers -> f.2 < 2 ^ 53 :=
    sampleMetrics_integers (by decide)
  rcases hall _ _ _ _ text hbuild (by decide) hints with ⟨body, hdecode, _⟩
  rw [decodeReport_build hbuild (by decide) hints, if_pos (by decide)] at hdecode
  cases hdecode

end Backend
end LeoOne
