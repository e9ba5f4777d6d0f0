import LeoOne.Wire.Text

/-!
# Reports of the agent

The messages METRICS, INVENTORY, PATCH_INVENTORY and FILE_TRANSFER_PROGRESS as
`protocol.c` builds them: the bodies are printed by cJSON without formatting, and the
text must fit into the caller's buffer.  The C strings are the bytes before their NUL.
-/

namespace LeoOne
namespace Agent

open Wire

/-!
## The collected data
-/

/-- `leo_metrics_t`. -/
structure LeoMetrics where
  cpuTotalPercent : Double
  cpuPerCore : Vector Double 256
  cpuCoreCount : Int32
  ramTotalBytes : UInt64
  ramUsedBytes : UInt64
  ramAvailableBytes : UInt64
  diskTotalBytes : UInt64
  diskUsedBytes : UInt64
  netBytesIn : UInt64
  netBytesOut : UInt64
  processCount : UInt32

/-- `leo_hw_inventory_t`. -/
structure LeoHwInventory where
  cpuModel : List UInt8
  cpuCores : Int32
  cpuThreads : Int32
  ramTotalBytes : UInt64
  diskCount : Int32
  biosVersion : List UInt8
  biosVendor : List UInt8
  motherboard : List UInt8
  serialNumber : List UInt8

/-- `leo_sw_item_t`. -/
structure LeoSwItem where
  name : List UInt8
  version : List UInt8
  publisher : List UInt8
  installPath : List UInt8

/-- `leo_patch_severity_t`. -/
inductive LeoPatchSeverity where
  | optional
  | important
  | critical
  deriving DecidableEq, Repr

/-- `leo_patch_t`. -/
structure LeoPatch where
  id : List UInt8
  title : List UInt8
  severity : LeoPatchSeverity
  sizeBytes : UInt64

/-- `leo_file_transfer_status_t`. -/
inductive LeoFileTransferStatus where
  | downloading
  | verifying
  | completed
  | failed
  deriving DecidableEq, Repr

/-- The arguments of `leo_proto_build_file_transfer_progress`. -/
structure LeoFileTransferProgress where
  cmdId : List UInt8
  status : LeoFileTransferStatus
  percent : Int32
  bytesReceived : UInt64
  bytesTotal : UInt64
  errorMsg : Option (List UInt8)

/-!
## Bodies
-/

/-- `cJSON_AddNumberToObject` of a 64-bit integer, which is converted to double. -/
def counter (key : String) (v : UInt64) : Member :=
  ⟨key, Printed.number (toDouble v.toNat)⟩

/-- `cJSON_AddNumberToObject` of an `int`. -/
def intNumber (key : String) (v : Int32) : Member :=
  ⟨key, Printed.number v.toInt⟩

/-- `cJSON_AddStringToObject`. -/
def string (key : String) (v : List UInt8) : Member :=
  ⟨key, Printed.string v⟩

def patchSeverityStr : LeoPatchSeverity -> String
  | LeoPatchSeverity.critical => "critical"
  | LeoPatchSeverity.important => "important"
  | LeoPatchSeverity.optional => "optional"

def fileTransferStatusStr : LeoFileTransferStatus -> String
  | LeoFileTransferStatus.downloading => "downloading"
  | LeoFileTransferStatus.verifying => "verifying"
  | LeoFileTransferStatus.completed => "completed"
  | LeoFileTransferStatus.failed => "failed"

def metricsMembers (m : LeoMetrics) : List Member :=
  [⟨"cpu_percent", Printed.double m.cpuTotalPercent⟩,
    counter "ram_total_bytes" m.ramTotalBytes,
    counter "ram_used_bytes" m.ramUsedBytes,
    counter "ram_available_bytes" m.ramAvailableBytes,
    counter "disk_total_bytes" m.diskTotalBytes,
    counter "disk_used_bytes" m.diskUsedBytes,
    counter "net_bytes_in" m.netBytesIn,
    counter "net_bytes_out" m.netBytesOut,
    ⟨"process_count", Printed.number m.processCount.toNat⟩,
    ⟨"cpu_per_core", Printed.array
      ((m.cpuPerCore.toList.take m.cpuCoreCount.toInt.toNat).map Printed.double)⟩]

def hardwareMembers (hw : LeoHwInventory) : List Member :=
  [string "cpu_model" hw.cpuModel,
    intNumber "cpu_cores" hw.cpuCores,
    intNumber "cpu_threads" hw.cpuThreads,
    counter "ram_total_bytes" hw.ramTotalBytes,
    intNumber "disk_count" hw.diskCount,
    string "bios_version" hw.biosVersion,
    string "bios_vendor" hw.biosVendor,
    string "motherboard" hw.motherboard,
    string "serial_number" hw.serialNumber]

def softwareMembers (sw : LeoSwItem) : List Member :=
  [string "name" sw.name,
    string "version" sw.version,
    string "publisher" sw.publisher,
    string "install_path" sw.installPath]

def inventoryMembers (hw : LeoHwInventory) (sw : List LeoSwItem) : List Member :=
  [⟨"hardware", Printed.object (hardwareMembers hw)⟩,
    ⟨"software",
      Printed.array (sw.map fun item => Printed.object (softwareMembers item))⟩]

def patchMembers (patch : LeoPatch) : List Member :=
  [string "id" patch.id,
    string "title" patch.title,
    string "severity" (utf8 (patchSeverityStr patch.severity)),
    counter "size_bytes" patch.sizeBytes]

def patchInventoryMembers (patches : List LeoPatch) : List Member :=
  [⟨"patches",
    Printed.array (patches.map fun patch => Printed.object (patchMembers patch))⟩]

def progressMembers (p : LeoFileTransferProgress) : List Member :=
  [string "command_id" p.cmdId,
    string "status" (utf8 (fileTransferStatusStr p.status)),
    intNumber "percent" p.percent,
    counter "bytes_received" p.bytesReceived,
    counter "bytes_total" p.bytesTotal] ++
    p.errorMsg.toList.map (string "error")

/-!
## Messages
-/

/-- The reports with their data. -/
inductive Report where
  | metrics (m : LeoMetrics)
  | inventory (hw : LeoHwInventory) (sw : List LeoSwItem)
  | patchInventory (patches : List LeoPatch)
  | fileTransferProgress (p : LeoFileTransferProgress)

namespace Report

/-- The `leo_msg_type_t` of the report. -/
def type : Report -> Int
  | metrics _ => 3
  | inventory _ _ => 4
  | patchInventory _ => 8
  | fileTransferProgress _ => 9

def members : Report -> List Member
  | metrics m => metricsMembers m
  | inventory hw sw => inventoryMembers hw sw
  | patchInventory patches => patchInventoryMembers patches
  | fileTransferProgress p => progressMembers p

/-- The members of the envelope that `_serialize` puts around a body. -/
def envelopeMembers (type : Int) (msgId : List UInt8) (ts : UInt64) (body : Printed) :
    List Member :=
  [⟨"v", Printed.number 1⟩,
    ⟨"type", Printed.number type⟩,
    string "id" msgId,
    counter "ts" ts,
    ⟨"body", body⟩]

/-- `_serialize`: `none` if the text and its NUL do not fit into the buffer. -/
def serialize (type : Int) (msgId : List UInt8) (ts : UInt64) (body : Printed)
    (bufsz : Nat) : Option (List UInt8) :=
  let text := (Printed.object (envelopeMembers type msgId ts body)).text
  if text.length < bufsz then some text else none

/-- `leo_proto_build_metrics`, `_inventory`, `_patch_inventory` and
`_file_transfer_progress`, with the fresh id and the time of the message. -/
def build (r : Report) (msgId : List UInt8) (ts : UInt64) (bufsz : Nat) :
    Option (List UInt8) :=
  serialize r.type msgId ts (Printed.object r.members) bufsz

/-- The integers that the agent encodes in the body, with their keys. -/
def integers : Report -> List (String × Int)
  | metrics m =>
      [("ram_total_bytes", m.ramTotalBytes.toNat),
        ("ram_used_bytes", m.ramUsedBytes.toNat),
        ("ram_available_bytes", m.ramAvailableBytes.toNat),
        ("disk_total_bytes", m.diskTotalBytes.toNat),
        ("disk_used_bytes", m.diskUsedBytes.toNat),
        ("net_bytes_in", m.netBytesIn.toNat),
        ("net_bytes_out", m.netBytesOut.toNat),
        ("process_count", m.processCount.toNat)]
  | inventory hw _ =>
      [("cpu_cores", hw.cpuCores.toInt),
        ("cpu_threads", hw.cpuThreads.toInt),
        ("ram_total_bytes", hw.ramTotalBytes.toNat),
        ("disk_count", hw.diskCount.toInt)]
  | patchInventory patches =>
      patches.map fun patch => ("size_bytes", patch.sizeBytes.toNat)
  | fileTransferProgress p =>
      [("percent", p.percent.toInt),
        ("bytes_received", p.bytesReceived.toNat),
        ("bytes_total", p.bytesTotal.toNat)]

end Report
end Agent
end LeoOne
