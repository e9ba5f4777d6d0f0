import LeoOne.Agent.Reports
import LeoOne.Wire.Sizes
import LeoOne.Agent.Protocol
import LeoOne.Websocket.Client

/-!
# Sizes of messages

`_serialize` writes a message into a buffer of `LEO_MAX_MSG_SIZE` bytes, and the callers
drop what does not fit.  The collected texts are bounded by the sizes of their own
buffers, but cJSON writes a byte with up to six bytes.
-/

namespace LeoOne
namespace Agent

open Wire

/-!
## Message ids
-/

/-- `%02x`. -/
def hexText (b : UInt8) : List UInt8 :=
  [hexByte (b.toNat / 16), hexByte (b.toNat % 16)]

/-- `_gen_uuid`, with the random bytes that it read. -/
def genUuid (rnd : Vector UInt8 16) : List UInt8 :=
  let rnd := (rnd.set 6 ((rnd[6] &&& 0x0F) ||| 0x40)).set 8 ((rnd[8] &&& 0x3F) ||| 0x80)
  (rnd.toList.take 4).flatMap hexText ++ 45 ::
    (((rnd.toList.drop 4).take 2).flatMap hexText ++ 45 ::
      (((rnd.toList.drop 6).take 2).flatMap hexText ++ 45 ::
        (((rnd.toList.drop 8).take 2).flatMap hexText ++ 45 ::
          (rnd.toList.drop 10).flatMap hexText)))

theorem byteSize_hexByte {n : Nat} (h : n < 16) : byteSize (hexByte n) = 1 := by
  have hall : forall d : Fin 16, byteSize (hexByte d.val) = 1 := by decide
  exact hall ⟨n, h⟩

theorem stringSize_hexText (b : UInt8) : stringSize (hexText b) = 2 := by
  have hlow : b.toNat % 16 < 16 := Nat.mod_lt _ (by decide)
  have hhigh : b.toNat / 16 < 16 := by
    have hb := b.toNat_lt
    omega
  rw [hexText, stringSize_cons, stringSize_cons, stringSize_nil, byteSize_hexByte hlow,
    byteSize_hexByte hhigh]

theorem stringSize_flatMap_hexText (bytes : List UInt8) :
    stringSize (bytes.flatMap hexText) = 2 * bytes.length := by
  induction bytes with
  | nil =>
      rfl
  | cons b bytes ih =>
      rw [List.flatMap_cons, stringSize_append, ih, stringSize_hexText, List.length_cons]
      omega

theorem stringSize_genUuid (rnd : Vector UInt8 16) : stringSize (genUuid rnd) = 36 := by
  have hhyphen : byteSize 45 = 1 := by decide
  unfold genUuid
  simp only [stringSize_append, stringSize_cons, stringSize_flatMap_hexText, hhyphen,
    List.length_take, List.length_drop, Vector.length_toList]
  decide

/-!
## Envelopes
-/

/-- The bytes of a message: 73 besides its type, its time and its body. -/
def messageSize (type : Int) (ts : UInt64) (body : Printed) : Nat :=
  73 + numberSize type + numberSize (toDouble ts.toNat) + body.size

theorem size_envelope (type : Int) (rnd : Vector UInt8 16) (ts : UInt64) (body : Printed) :
    (Printed.object (Report.envelopeMembers type (genUuid rnd) ts body)).size =
      messageSize type ts body := by
  have hv : stringSize (utf8 "v") = 1 := by decide
  have htype : stringSize (utf8 "type") = 4 := by decide
  have hid : stringSize (utf8 "id") = 2 := by decide
  have hts : stringSize (utf8 "ts") = 2 := by decide
  have hbody : stringSize (utf8 "body") = 4 := by decide
  have hone : numberSize 1 = 1 := by decide
  simp only [Report.envelopeMembers, string, counter, Printed.size_object, List.map_cons,
    List.map_nil, List.sum_cons, List.sum_nil, List.length_cons, List.length_nil, Member.size,
    Printed.size_number, Printed.size_string, stringSize_genUuid, hv, htype, hid, hts, hbody,
    hone, messageSize]
  omega

section

variable {type : Int} {ts : UInt64} {body : Printed} {bufsz : Nat}

/-- `_serialize` succeeds if the message and its NUL fit. -/
theorem serialize_of_fits (rnd : Vector UInt8 16) (h : messageSize type ts body < bufsz) :
    exists text, Report.serialize type (genUuid rnd) ts body bufsz = some text ∧
      text.length = messageSize type ts body := by
  have hsize := size_envelope type rnd ts body
  refine ⟨_, if_pos ?_, hsize⟩
  rw [← hsize] at h
  exact h

theorem fits_of_serialize {rnd : Vector UInt8 16} {text : List UInt8}
    (h : Report.serialize type (genUuid rnd) ts body bufsz = some text) :
    messageSize type ts body < bufsz := by
  rw [← size_envelope type rnd ts body]
  apply Decidable.byContradiction
  intro hlong
  have hnone : Report.serialize type (genUuid rnd) ts body bufsz = none := if_neg hlong
  rw [hnone] at h
  cases h

end

/-!
## Command results
-/

def cmdResultMembers (cmdId : Option (List UInt8)) (exitCode : Int32)
    (stdout stderr : Option (List UInt8)) : List Member :=
  [string "command_id" (cmdId.getD []),
    intNumber "exit_code" exitCode,
    string "stdout" (stdout.getD []),
    string "stderr" (stderr.getD [])]

/-- `leo_proto_build_cmd_result`; `none` stands for a null pointer. -/
def buildCmdResult (cmdId : Option (List UInt8)) (exitCode : Int32)
    (stdout stderr : Option (List UInt8)) (rnd : Vector UInt8 16) (ts : UInt64)
    (bufsz : Nat) : Option (List UInt8) :=
  Report.serialize 5 (genUuid rnd) ts
    (Printed.object (cmdResultMembers cmdId exitCode stdout stderr)) bufsz

/-- `LEO_EXEC_STDOUT_MAX`. -/
def execStdoutMax : Nat := 16384

/-- `LEO_EXEC_STDERR_MAX`. -/
def execStderrMax : Nat := 4096

/-- The end of `_exec_thread`: the messages that it hands to `leo_conn_send`. -/
def execThreadSends (cmdId : List UInt8) (exitCode : Int32) (stdout stderr : List UInt8)
    (rnd : Vector UInt8 16) (ts : UInt64) : List (List UInt8) :=
  match buildCmdResult (some cmdId) exitCode (some stdout) (some stderr) rnd ts maxMsgSize with
  | some text => if 0 < text.length then [text] else []
  | none => []

theorem size_cmdResult (cmdId : List UInt8) (exitCode : Int32)
    (stdout stderr : List UInt8) :
    (Printed.object (cmdResultMembers (some cmdId) exitCode (some stdout) (some stderr))).size =
      54 + stringSize cmdId + numberSize exitCode.toInt + stringSize stdout +
        stringSize stderr := by
  have hid : stringSize (utf8 "command_id") = 10 := by decide
  have hcode : stringSize (utf8 "exit_code") = 9 := by decide
  have hout : stringSize (utf8 "stdout") = 6 := by decide
  have herr : stringSize (utf8 "stderr") = 6 := by decide
  simp only [cmdResultMembers, string, intNumber, Option.getD_some, Printed.size_object,
    List.map_cons, List.map_nil, List.sum_cons, List.sum_nil, List.length_cons,
    List.length_nil, Member.size, Printed.size_number, Printed.size_string, hid, hcode, hout,
    herr]
  omega

/-- The result of a command is built and sent exactly if its texts, with the controls
written out, fit beside the 128 bytes of the message around them. -/
theorem cmd_result_sent_iff (cmdId : List UInt8) (exitCode : Int32)
    (stdout stderr : List UInt8) (rnd : Vector UInt8 16) (ts : UInt64) :
    (exists text,
      buildCmdResult (some cmdId) exitCode (some stdout) (some stderr) rnd ts maxMsgSize =
        some text ∧
      0 < text.length ∧ execThreadSends cmdId exitCode stdout stderr rnd ts = [text]) <->
    stringSize cmdId + stringSize stdout + stringSize stderr + numberSize exitCode.toInt +
      numberSize (toDouble ts.toNat) + 128 < 65536 := by
  have htype : numberSize 5 = 1 := by decide
  have hsize : messageSize 5 ts
      (Printed.object (cmdResultMembers (some cmdId) exitCode (some stdout) (some stderr))) =
      stringSize cmdId + stringSize stdout + stringSize stderr + numberSize exitCode.toInt +
        numberSize (toDouble ts.toNat) + 128 := by
    rw [messageSize, size_cmdResult, htype]
    omega
  rw [← hsize]
  constructor
  · rintro ⟨text, hbuilt, _, _⟩
    exact fits_of_serialize hbuilt
  · intro hfits
    rcases serialize_of_fits rnd hfits with ⟨text, hbuilt, hlength⟩
    have hpos : 0 < text.length := by
      rw [hlength, hsize]
      omega
    refine ⟨text, hbuilt, hpos, ?_⟩
    have hsame : buildCmdResult (some cmdId) exitCode (some stdout) (some stderr) rnd ts
        maxMsgSize = some text := hbuilt
    rw [execThreadSends, hsame]
    exact if_pos hpos

/-- A full standard output of control characters is not sent. -/
theorem control_output_not_sent :
    ¬ forall (cmdId : List UInt8) (exitCode : Int32) (stdout stderr : List UInt8)
      (rnd : Vector UInt8 16) (ts : UInt64),
      0 ∉ cmdId -> 0 ∉ stdout -> 0 ∉ stderr ->
      stdout.length < execStdoutMax -> stderr.length < execStderrMax ->
      exists text,
        buildCmdResult (some cmdId) exitCode (some stdout) (some stderr) rnd ts maxMsgSize =
          some text ∧
        0 < text.length := by
  intro hall
  have hone : (0 : UInt8) ∉ List.replicate 16383 1 := by
    intro hmem
    exact absurd (List.eq_of_mem_replicate hmem) (by decide)
  obtain ⟨text, hbuilt, _⟩ := hall [] 0 (List.replicate 16383 1) []
    (Vector.replicate 16 0) 0 List.not_mem_nil hone List.not_mem_nil
    (by rw [List.length_replicate]; decide) (by decide)
  have hbyte : byteSize 1 = 6 := by decide
  have hfits := fits_of_serialize hbuilt
  rw [messageSize, size_cmdResult, stringSize_replicate, hbyte, maxMsgSize] at hfits
  omega

/-- Texts whose controls are only the common ones are always sent: no byte of them is
written with more than two. -/
theorem text_result_sent {cmdId stdout stderr : List UInt8} (exitCode : Int32)
    (rnd : Vector UInt8 16) {ts : UInt64} (hts : ts.toNat < 10 ^ 15)
    (hid : cmdId.length ≤ 36) (hout : stdout.length < execStdoutMax)
    (herr : stderr.length < execStderrMax)
    (htext : forall b, b ∈ cmdId ++ stdout ++ stderr -> byteSize b ≤ 2) :
    exists text, execThreadSends cmdId exitCode stdout stderr rnd ts = [text] := by
  have hbytes := stringSize_le htext
  rw [stringSize_append, stringSize_append, List.length_append, List.length_append] at hbytes
  have hcode : numberSize exitCode.toInt ≤ 11 := by
    have hlow := exitCode.le_toInt
    have hhigh := exitCode.toInt_lt
    have hfits : fitsInt exitCode.toInt = true := by
      rw [fitsInt, Bool.and_eq_true, decide_eq_true_eq, decide_eq_true_eq]
      omega
    have hdigits : (decimal exitCode.toInt.natAbs).length ≤ 10 :=
      (length_decimal_le_iff (by decide)).mpr (by omega)
    rw [numberSize, printNumber, hfits, if_pos rfl, List.length_append]
    split
    · rw [List.length_singleton]
      omega
    · rw [List.length_nil]
      omega
  have htime : numberSize (toDouble ts.toNat) ≤ 15 := by
    rw [toDouble_exact (by omega), numberSize, printNumber_small hts]
    exact (length_decimal_le_iff (by decide)).mpr hts
  have hsize : messageSize 5 ts
      (Printed.object (cmdResultMembers (some cmdId) exitCode (some stdout) (some stderr))) <
      maxMsgSize := by
    have htype : numberSize 5 = 1 := by decide
    rw [messageSize, size_cmdResult, htype, maxMsgSize]
    unfold execStdoutMax at hout
    unfold execStderrMax at herr
    omega
  rcases serialize_of_fits rnd hsize with ⟨text, hbuilt, hlength⟩
  have hsame : buildCmdResult (some cmdId) exitCode (some stdout) (some stderr) rnd ts
      maxMsgSize = some text := hbuilt
  refine ⟨text, ?_⟩
  rw [execThreadSends, hsame]
  apply if_pos
  rw [hlength, messageSize]
  omega

/-!
## Inventories
-/

/-- A string that fits into a `char` array of this size. -/
def FitsField (size : Nat) (v : List UInt8) : Prop :=
  v.length < size ∧ 0 ∉ v

def LeoHwInventory.FitsFields (hw : LeoHwInventory) : Prop :=
  FitsField 128 hw.cpuModel ∧ FitsField 64 hw.biosVersion ∧ FitsField 64 hw.biosVendor ∧
    FitsField 128 hw.motherboard ∧ FitsField 128 hw.serialNumber

def LeoSwItem.FitsFields (item : LeoSwItem) : Prop :=
  FitsField 128 item.name ∧ FitsField 64 item.version ∧ FitsField 128 item.publisher ∧
    FitsField 256 item.installPath

def LeoPatch.FitsFields (patch : LeoPatch) : Prop :=
  FitsField 160 patch.id ∧ FitsField 256 patch.title

/-- `LEO_INVENTORY_MAX_SW_ITEMS`. -/
def inventoryMaxSwItems : Nat := 150

/-- `LEO_INVENTORY_MAX_PATCHES`. -/
def inventoryMaxPatches : Nat := 200

def hardwareSize (hw : LeoHwInventory) : Nat :=
  148 + stringSize hw.cpuModel + numberSize hw.cpuCores.toInt +
    numberSize hw.cpuThreads.toInt + numberSize (toDouble hw.ramTotalBytes.toNat) +
    numberSize hw.diskCount.toInt + stringSize hw.biosVersion + stringSize hw.biosVendor +
    stringSize hw.motherboard + stringSize hw.serialNumber

def softwareSize (item : LeoSwItem) : Nat :=
  57 + stringSize item.name + stringSize item.version + stringSize item.publisher +
    stringSize item.installPath

def patchSize (patch : LeoPatch) : Nat :=
  48 + stringSize patch.id + stringSize patch.title +
    (patchSeverityStr patch.severity).length + numberSize (toDouble patch.sizeBytes.toNat)

/-- The bytes of the body, with the commas between the items. -/
def inventorySize (hw : LeoHwInventory) (sw : List LeoSwItem) : Nat :=
  27 + hardwareSize hw + (sw.map softwareSize).sum + (sw.length - 1)

def patchInventorySize (patches : List LeoPatch) : Nat :=
  14 + (patches.map patchSize).sum + (patches.length - 1)

theorem size_hardware (hw : LeoHwInventory) :
    (Printed.object (hardwareMembers hw)).size = hardwareSize hw := by
  have hmodel : stringSize (utf8 "cpu_model") = 9 := by decide
  have hcores : stringSize (utf8 "cpu_cores") = 9 := by decide
  have hthreads : stringSize (utf8 "cpu_threads") = 11 := by decide
  have hram : stringSize (utf8 "ram_total_bytes") = 15 := by decide
  have hdisks : stringSize (utf8 "disk_count") = 10 := by decide
  have hversion : stringSize (utf8 "bios_version") = 12 := by decide
  have hvendor : stringSize (utf8 "bios_vendor") = 11 := by decide
  have hboard : stringSize (utf8 "motherboard") = 11 := by decide
  have hserial : stringSize (utf8 "serial_number") = 13 := by decide
  simp only [hardwareMembers, string, intNumber, counter, Printed.size_object, List.map_cons,
    List.map_nil, List.sum_cons, List.sum_nil, List.length_cons, List.length_nil, Member.size,
    Printed.size_number, Printed.size_string, hmodel, hcores, hthreads, hram, hdisks, hversion,
    hvendor, hboard, hserial, hardwareSize]
  omega

theorem size_software (item : LeoSwItem) :
    (Printed.object (softwareMembers item)).size = softwareSize item := by
  have hname : stringSize (utf8 "name") = 4 := by decide
  have hversion : stringSize (utf8 "version") = 7 := by decide
  have hpublisher : stringSize (utf8 "publisher") = 9 := by decide
  have hpath : stringSize (utf8 "install_path") = 12 := by decide
  simp only [softwareMembers, string, Printed.size_object, List.map_cons, List.map_nil,
    List.sum_cons, List.sum_nil, List.length_cons, List.length_nil, Member.size,
    Printed.size_string, hname, hversion, hpublisher, hpath, softwareSize]
  omega

theorem size_patch (patch : LeoPatch) :
    (Printed.object (patchMembers patch)).size = patchSize patch := by
  have hid : stringSize (utf8 "id") = 2 := by decide
  have htitle : stringSize (utf8 "title") = 5 := by decide
  have hseverity : stringSize (utf8 "severity") = 8 := by decide
  have hbytes : stringSize (utf8 "size_bytes") = 10 := by decide
  have hword : stringSize (utf8 (patchSeverityStr patch.severity)) =
      (patchSeverityStr patch.severity).length := by
    cases patch.severity with
    | optional => decide
    | important => decide
    | critical => decide
  simp only [patchMembers, string, counter, Printed.size_object, List.map_cons, List.map_nil,
    List.sum_cons, List.sum_nil, List.length_cons, List.length_nil, Member.size,
    Printed.size_number, Printed.size_string, hid, htitle, hseverity, hbytes, hword, patchSize]
  omega

theorem size_inventory (hw : LeoHwInventory) (sw : List LeoSwItem) :
    (Printed.object (inventoryMembers hw sw)).size = inventorySize hw sw := by
  have hhardware : stringSize (utf8 "hardware") = 8 := by decide
  have hsoftware : stringSize (utf8 "software") = 8 := by decide
  have hitems : (sw.map fun item => Printed.object (softwareMembers item)).map Printed.size =
      sw.map softwareSize := by
    rw [List.map_map]
    exact List.map_congr_left fun item _ => size_software item
  simp only [inventoryMembers, Printed.size_object (_ :: _), List.map_cons, List.map_nil,
    List.sum_cons, List.sum_nil, List.length_cons, List.length_nil, Member.size,
    Printed.size_array, List.length_map, hitems, hhardware, hsoftware, inventorySize]
  rw [size_hardware]
  omega

theorem size_patchInventory (patches : List LeoPatch) :
    (Printed.object (patchInventoryMembers patches)).size = patchInventorySize patches := by
  have hpatches : stringSize (utf8 "patches") = 7 := by decide
  have hitems : (patches.map fun patch => Printed.object (patchMembers patch)).map
      Printed.size = patches.map patchSize := by
    rw [List.map_map]
    exact List.map_congr_left fun patch _ => size_patch patch
  simp only [patchInventoryMembers, Printed.size_object, List.map_cons, List.map_nil,
    List.sum_cons, List.sum_nil, List.length_cons, List.length_nil, Member.size,
    Printed.size_array, List.length_map, hitems, hpatches, patchInventorySize]
  omega

/-- A message whose type has one digit. -/
theorem message_fits_iff {type : Int} (htype : numberSize type = 1) (rnd : Vector UInt8 16)
    (ts : UInt64) (body : Printed) :
    (exists text, Report.serialize type (genUuid rnd) ts body maxMsgSize = some text ∧
      0 < text.length ∧ text.length ≤ Websocket.maxMessageSize) <->
    body.size + numberSize (toDouble ts.toNat) + 74 < 65536 := by
  have hsize : messageSize type ts body =
      body.size + numberSize (toDouble ts.toNat) + 74 := by
    rw [messageSize, htype]
    omega
  rw [← hsize]
  constructor
  · rintro ⟨text, hbuilt, _, _⟩
    exact fits_of_serialize hbuilt
  · intro hfits
    rcases serialize_of_fits rnd hfits with ⟨text, hbuilt, hlength⟩
    refine ⟨text, hbuilt, ?_, ?_⟩
    · rw [hlength, hsize]
      omega
    · rw [hlength]
      exact Nat.le_of_lt hfits

/-- An inventory is built, within the limit of the server, exactly if its texts fit beside
the 74 bytes of the envelope. -/
theorem inventories_fit_iff (hw : LeoHwInventory) (sw : List LeoSwItem)
    (patches : List LeoPatch) (rnd : Vector UInt8 16) (ts : UInt64) :
    ((exists text,
        (Report.inventory hw sw).build (genUuid rnd) ts maxMsgSize = some text ∧
        0 < text.length ∧ text.length ≤ Websocket.maxMessageSize) <->
      inventorySize hw sw + numberSize (toDouble ts.toNat) + 74 < 65536) ∧
    ((exists text,
        (Report.patchInventory patches).build (genUuid rnd) ts maxMsgSize = some text ∧
        0 < text.length ∧ text.length ≤ Websocket.maxMessageSize) <->
      patchInventorySize patches + numberSize (toDouble ts.toNat) + 74 < 65536) := by
  have hfour : numberSize 4 = 1 := by decide
  have height : numberSize 8 = 1 := by decide
  constructor
  · rw [← size_inventory]
    exact message_fits_iff hfour rnd ts _
  · rw [← size_patchInventory]
    exact message_fits_iff height rnd ts _

namespace Sample

def letters (n : Nat) : List UInt8 :=
  List.replicate n 97

theorem stringSize_letters (n : Nat) : stringSize (letters n) = n := by
  have hbyte : byteSize 97 = 1 := by decide
  rw [letters, stringSize_replicate, hbyte, Nat.mul_one]

theorem letters_fit {n size : Nat} (h : n < size) : FitsField size (letters n) := by
  constructor
  · rw [letters, List.length_replicate]
    exact h
  · intro hmem
    exact absurd (List.eq_of_mem_replicate hmem) (by decide)

def plainHardware : LeoHwInventory where
  cpuModel := letters 0
  cpuCores := 0
  cpuThreads := 0
  ramTotalBytes := 0
  diskCount := 0
  biosVersion := letters 0
  biosVendor := letters 0
  motherboard := letters 0
  serialNumber := letters 0

/-- An item with full fields of plain letters. -/
def longItem : LeoSwItem where
  name := letters 127
  version := letters 63
  publisher := letters 127
  installPath := letters 255

def longPatch : LeoPatch where
  id := letters 159
  title := letters 255
  severity := LeoPatchSeverity.critical
  sizeBytes := 0

end Sample

/-- The caps of the two lists do not keep them within the buffer. -/
theorem capped_inventories_lost :
    (¬ forall (hw : LeoHwInventory) (sw : List LeoSwItem) (rnd : Vector UInt8 16)
      (ts : UInt64), hw.FitsFields -> (forall item, item ∈ sw -> item.FitsFields) ->
      sw.length ≤ inventoryMaxSwItems ->
      exists text, (Report.inventory hw sw).build (genUuid rnd) ts maxMsgSize = some text) ∧
    ¬ forall (patches : List LeoPatch) (rnd : Vector UInt8 16) (ts : UInt64),
      (forall patch, patch ∈ patches -> patch.FitsFields) ->
      patches.length ≤ inventoryMaxPatches ->
      exists text, (Report.patchInventory patches).build (genUuid rnd) ts maxMsgSize =
        some text := by
  constructor
  · intro hall
    have hhardware : Sample.plainHardware.FitsFields :=
      ⟨Sample.letters_fit (by decide), Sample.letters_fit (by decide),
        Sample.letters_fit (by decide), Sample.letters_fit (by decide),
        Sample.letters_fit (by decide)⟩
    have hitem : Sample.longItem.FitsFields :=
      ⟨Sample.letters_fit (by decide), Sample.letters_fit (by decide),
        Sample.letters_fit (by decide), Sample.letters_fit (by decide)⟩
    obtain ⟨text, hbuilt⟩ := hall Sample.plainHardware (List.replicate 150 Sample.longItem)
      (Vector.replicate 16 0) 0 hhardware
      (fun item hmem => (List.eq_of_mem_replicate hmem).symm ▸ hitem)
      (by rw [List.length_replicate]; decide)
    have hfits := fits_of_serialize hbuilt
    have hsize : softwareSize Sample.longItem = 629 := by
      simp only [softwareSize, Sample.longItem, Sample.stringSize_letters]
    have hsum : ((List.replicate 150 Sample.longItem).map softwareSize).sum = 150 * 629 := by
      rw [List.map_replicate, hsize, List.sum_replicate, smul_eq_mul]
    rw [messageSize, Report.members, size_inventory, inventorySize, hsum, maxMsgSize] at hfits
    omega
  · intro hall
    have hpatch : Sample.longPatch.FitsFields :=
      ⟨Sample.letters_fit (by decide), Sample.letters_fit (by decide)⟩
    obtain ⟨text, hbuilt⟩ := hall (List.replicate 200 Sample.longPatch)
      (Vector.replicate 16 0) 0
      (fun patch hmem => (List.eq_of_mem_replicate hmem).symm ▸ hpatch)
      (by rw [List.length_replicate]; decide)
    have hfits := fits_of_serialize hbuilt
    have hsize : patchSize Sample.longPatch = 471 := by
      have hzero : numberSize (toDouble (0 : UInt64).toNat) = 1 := by decide
      have hword : (patchSeverityStr LeoPatchSeverity.critical).length = 8 := by decide
      simp only [patchSize, Sample.longPatch, Sample.stringSize_letters, hzero, hword]
    have hsum : ((List.replicate 200 Sample.longPatch).map patchSize).sum = 200 * 471 := by
      rw [List.map_replicate, hsize, List.sum_replicate, smul_eq_mul]
    rw [messageSize, Report.members, size_patchInventory, patchInventorySize, hsum,
      maxMsgSize] at hfits
    omega

end Agent
end LeoOne
