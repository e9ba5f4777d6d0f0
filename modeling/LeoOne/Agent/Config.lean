import LeoOne.Agent.Strings

/-!
# The configuration of the agent

`config.c`: the file `agent.conf` with a line `key=value` for each setting, written by
`leo_config_save` and read by `leo_config_load`.
-/

namespace LeoOne
namespace Agent

open Foundation
open Foundation.Settings
open Wire

instance : NeZero uuidStrLen := ⟨by decide⟩

/-- `leo_config_t`. -/
@[ext]
structure LeoConfig where
  agentId : CField uuidStrLen
  tenantId : CField uuidStrLen
  wsEndpoint : CField 512
  hostname : CField 256
  osName : CField 32
  osVersion : CField 128
  arch : CField 16
  hardwareId : CField uuidStrLen
  caFingerprint : CField 65
  metricsIntervalSec : Int32
  heartbeatIntervalSec : Int32
  deriving DecidableEq

/-- `LEO_METRICS_INTERVAL_SEC`. -/
def metricsIntervalDefault : Int32 := 300

/-- `LEO_HEARTBEAT_INTERVAL_SEC`. -/
def heartbeatIntervalDefault : Int32 := 10800

/-- `INI_LINE_MAX`. -/
def iniLineMax : Nat := 1024

instance endpointSize : NeZero 512 := ⟨by decide⟩

instance fingerprintSize : NeZero 65 := ⟨by decide⟩

/-!
## Reading
-/

/-- `_set_field`. -/
def setField {size : Nat} [NeZero size] (key val : List UInt8) (targetKey : String)
    (dst : CField size) : CField size :=
  if key = utf8 targetKey then CField.copy val else dst

/-- The assignments for one line. -/
def setLine (out : LeoConfig) (entry : List UInt8 × List UInt8) : LeoConfig :=
  let key := entry.1
  let val := entry.2
  { agentId := setField key val "agent_id" out.agentId
    tenantId := setField key val "tenant_id" out.tenantId
    wsEndpoint := setField key val "ws_endpoint" out.wsEndpoint
    hostname := setField key val "hostname" out.hostname
    osName := setField key val "os_name" out.osName
    osVersion := setField key val "os_version" out.osVersion
    arch := setField key val "arch" out.arch
    hardwareId := setField key val "hardware_id" out.hardwareId
    caFingerprint := setField key val "ca_fingerprint" out.caFingerprint
    metricsIntervalSec :=
      if key = utf8 "metrics_interval_sec" then Int32.ofInt (atoi val)
      else out.metricsIntervalSec
    heartbeatIntervalSec :=
      if key = utf8 "heartbeat_interval_sec" then Int32.ofInt (atoi val)
      else out.heartbeatIntervalSec }

/-- The key and the value of a line, as far as it is a C string; nothing for a comment, an
empty line and a line without `=`. -/
def lineEntry (line : List UInt8) : Option (List UInt8 × List UInt8) :=
  let p := trim isSpace (line.takeWhile fun b => b ≠ 0)
  match p with
  | [] => none
  | c :: _ =>
      if c = 35 ∨ c = 59 then none
      else
        match p.dropWhile fun b => b ≠ 61 with
        | [] => none
        | _ :: val => some (trim isSpace (p.takeWhile fun b => b ≠ 61), trim isSpace val)

/-- The body of the loop. -/
def loadLine (out : LeoConfig) (line : List UInt8) : LeoConfig :=
  match lineEntry line with
  | none => out
  | some entry => setLine out entry

/-- The record before the first line: `memset`, and the defaults of the intervals. -/
def initialConfig : LeoConfig where
  agentId := CField.empty
  tenantId := CField.empty
  wsEndpoint := CField.empty
  hostname := CField.empty
  osName := CField.empty
  osVersion := CField.empty
  arch := CField.empty
  hardwareId := CField.empty
  caFingerprint := CField.empty
  metricsIntervalSec := metricsIntervalDefault
  heartbeatIntervalSec := heartbeatIntervalDefault

/-- `leo_config_is_valid`. -/
def leoConfigIsValid (cfg : LeoConfig) : Bool :=
  if cfg.caFingerprint.text.length ≠ 64 then false
  else cfg.agentId.text ≠ [] && cfg.tenantId.text ≠ [] && cfg.wsEndpoint.text ≠ []

/-- `leo_config_load`, of a file if there is one; `none` is `LEO_ERR_CONFIG`. -/
def leoConfigLoad (file : Option (List UInt8)) : Option LeoConfig :=
  match file with
  | none => none
  | some text =>
      let out := (lines 10 (iniLineMax - 1) text).foldl loadLine initialConfig
      if leoConfigIsValid out then some out else none

/-!
## Writing
-/

/-- `fprintf(fp, "key=%s\n", val)` -/
def printLine (key : String) (val : List UInt8) : List UInt8 :=
  utf8 key ++ 61 :: val ++ [10]

/-- `leo_config_save`: what it writes into the file. -/
def leoConfigSave (cfg : LeoConfig) : List UInt8 :=
  utf8 "# Leo-One Agent — configuration générée automatiquement\n" ++
    utf8 "# Ne pas modifier manuellement sauf agent_id et ws_endpoint\n\n" ++
    printLine "agent_id" cfg.agentId.text ++
    printLine "tenant_id" cfg.tenantId.text ++
    printLine "ws_endpoint" cfg.wsEndpoint.text ++
    printLine "hostname" cfg.hostname.text ++
    printLine "os_name" cfg.osName.text ++
    printLine "os_version" cfg.osVersion.text ++
    printLine "arch" cfg.arch.text ++
    printLine "hardware_id" cfg.hardwareId.text ++
    printLine "ca_fingerprint" cfg.caFingerprint.text ++
    printLine "metrics_interval_sec" (printInt cfg.metricsIntervalSec) ++
    printLine "heartbeat_interval_sec" (printInt cfg.heartbeatIntervalSec)

/-!
## What a file says
-/

/-- The settings of a file, line by line. -/
def fileEntries (text : List UInt8) : List (List UInt8 × List UInt8) :=
  (lines 10 (iniLineMax - 1) text).filterMap lineEntry

/-- The value that a file gives to a key. -/
def fileSetting (text : List UInt8) (key : String) : Option (List UInt8) :=
  lastValue (utf8 key) (fileEntries text)

/-- The record that settings describe. -/
def configOf (setting : String -> Option (List UInt8)) : LeoConfig :=
  let field {size : Nat} [NeZero size] (key : String) : CField size :=
    ((setting key).map CField.copy).getD CField.empty
  let interval (key : String) (default : Int32) : Int32 :=
    ((setting key).map fun val => Int32.ofInt (atoi val)).getD default
  { agentId := field "agent_id"
    tenantId := field "tenant_id"
    wsEndpoint := field "ws_endpoint"
    hostname := field "hostname"
    osName := field "os_name"
    osVersion := field "os_version"
    arch := field "arch"
    hardwareId := field "hardware_id"
    caFingerprint := field "ca_fingerprint"
    metricsIntervalSec := interval "metrics_interval_sec" metricsIntervalDefault
    heartbeatIntervalSec := interval "heartbeat_interval_sec" heartbeatIntervalDefault }

/-- In the order of the lines only the last one of each key counts. -/
theorem foldl_setLine (entries : List (List UInt8 × List UInt8)) :
    entries.foldl setLine initialConfig =
      configOf fun key => lastValue (utf8 key) entries := by
  apply LeoConfig.ext
  · exact foldl_lastValue LeoConfig.agentId (fun _ _ => rfl) entries initialConfig
  · exact foldl_lastValue LeoConfig.tenantId (fun _ _ => rfl) entries initialConfig
  · exact foldl_lastValue LeoConfig.wsEndpoint (fun _ _ => rfl) entries initialConfig
  · exact foldl_lastValue LeoConfig.hostname (fun _ _ => rfl) entries initialConfig
  · exact foldl_lastValue LeoConfig.osName (fun _ _ => rfl) entries initialConfig
  · exact foldl_lastValue LeoConfig.osVersion (fun _ _ => rfl) entries initialConfig
  · exact foldl_lastValue LeoConfig.arch (fun _ _ => rfl) entries initialConfig
  · exact foldl_lastValue LeoConfig.hardwareId (fun _ _ => rfl) entries initialConfig
  · exact foldl_lastValue LeoConfig.caFingerprint (fun _ _ => rfl) entries initialConfig
  · exact foldl_lastValue LeoConfig.metricsIntervalSec (fun _ _ => rfl) entries initialConfig
  · exact foldl_lastValue LeoConfig.heartbeatIntervalSec (fun _ _ => rfl) entries initialConfig

theorem foldl_loadLine (ls : List (List UInt8)) (out : LeoConfig) :
    ls.foldl loadLine out = (ls.filterMap lineEntry).foldl setLine out := by
  induction ls generalizing out with
  | nil =>
      rfl
  | cons line ls ih =>
      rw [List.foldl_cons, ih, loadLine, List.filterMap_cons]
      cases lineEntry line <;> rfl

/-- The file is read into the record that its settings describe. -/
theorem leoConfigLoad_eq (text : List UInt8) :
    leoConfigLoad (some text) =
      if leoConfigIsValid (configOf (fileSetting text)) then some (configOf (fileSetting text))
      else none := by
  have hloop : (lines 10 (iniLineMax - 1) text).foldl loadLine initialConfig =
      configOf (fileSetting text) := by
    rw [foldl_loadLine, foldl_setLine]
    rfl
  rw [leoConfigLoad, hloop]

/-!
## What is written for a record
-/

/-- A text that a line can hold as its value. -/
structure LineText (text : List UInt8) : Prop where
  newline : 10 ∉ text
  trimmed : Trimmed isSpace text

instance (text : List UInt8) : Decidable (LineText text) :=
  decidable_of_iff (10 ∉ text ∧ Trimmed isSpace text)
    ⟨fun h => ⟨h.left, h.right⟩, fun h => ⟨h.newline, h.trimmed⟩⟩

/-- The texts of a record. -/
def LeoConfig.texts (cfg : LeoConfig) : List (List UInt8) :=
  [cfg.agentId.text, cfg.tenantId.text, cfg.wsEndpoint.text, cfg.hostname.text,
    cfg.osName.text, cfg.osVersion.text, cfg.arch.text, cfg.hardwareId.text,
    cfg.caFingerprint.text]

/-- The settings of a record. -/
def savedEntries (cfg : LeoConfig) : List (List UInt8 × List UInt8) :=
  [(utf8 "agent_id", cfg.agentId.text),
    (utf8 "tenant_id", cfg.tenantId.text),
    (utf8 "ws_endpoint", cfg.wsEndpoint.text),
    (utf8 "hostname", cfg.hostname.text),
    (utf8 "os_name", cfg.osName.text),
    (utf8 "os_version", cfg.osVersion.text),
    (utf8 "arch", cfg.arch.text),
    (utf8 "hardware_id", cfg.hardwareId.text),
    (utf8 "ca_fingerprint", cfg.caFingerprint.text),
    (utf8 "metrics_interval_sec", printInt cfg.metricsIntervalSec),
    (utf8 "heartbeat_interval_sec", printInt cfg.heartbeatIntervalSec)]

def entryLine (entry : List UInt8 × List UInt8) : List UInt8 :=
  entry.1 ++ 61 :: entry.2

/-- The lines before the settings. -/
def headerLines : List (List UInt8) :=
  [utf8 "# Leo-One Agent — configuration générée automatiquement",
    utf8 "# Ne pas modifier manuellement sauf agent_id et ws_endpoint", []]

theorem unlines_headerLines :
    unlines 10 headerLines =
      utf8 "# Leo-One Agent — configuration générée automatiquement\n" ++
        utf8 "# Ne pas modifier manuellement sauf agent_id et ws_endpoint\n\n" := by
  decide

theorem leoConfigSave_eq (cfg : LeoConfig) :
    leoConfigSave cfg = unlines 10 (headerLines ++ (savedEntries cfg).map entryLine) := by
  rw [unlines, List.flatMap_append, ← unlines, unlines_headerLines, leoConfigSave]
  simp only [savedEntries, entryLine, printLine, List.map_cons, List.map_nil,
    List.flatMap_cons, List.flatMap_nil, List.append_assoc, List.append_nil]

/-- A key that begins a line. -/
def isKey (key : List UInt8) : Bool :=
  key.all (fun b => b ≠ 0 && b ≠ 10 && b ≠ 61 && !isSpace b) &&
    key ≠ [] && key.head? ≠ some 35 && key.head? ≠ some 59 && key.length < 64

/-- An entry whose line is read back. -/
structure EntryFits (entry : List UInt8 × List UInt8) : Prop where
  key : isKey entry.1 = true
  val : LineText entry.2
  terminated : 0 ∉ entry.2
  fits : entry.2.length < 512

theorem isKey_spec {key : List UInt8} (h : isKey key = true) :
    (forall b, b ∈ key -> b ≠ 0 ∧ b ≠ 10 ∧ b ≠ 61 ∧ isSpace b = false) ∧
      (exists c t, key = c :: t ∧ c ≠ 35 ∧ c ≠ 59) ∧ key.length < 64 := by
  simp only [isKey, Bool.and_eq_true, List.all_eq_true, decide_eq_true_eq,
    Bool.not_eq_true'] at h
  rcases h with ⟨⟨⟨⟨hall, hne⟩, hhash⟩, hsemi⟩, hlength⟩
  refine ⟨?_, ?_, hlength⟩
  · intro b hb
    rcases hall b hb with ⟨⟨⟨hnul, hnl⟩, heq⟩, hspace⟩
    exact ⟨hnul, hnl, heq, hspace⟩
  · cases key with
    | nil =>
        exact absurd rfl hne
    | cons c t =>
        exact ⟨c, t, rfl, fun h => hhash (congrArg some h), fun h => hsemi (congrArg some h)⟩

/-- A key and the line that it begins have no white space at their ends. -/
theorem trimmed_key {key : List UInt8} (h : isKey key = true) : Trimmed isSpace key := by
  rcases isKey_spec h with ⟨hall, _, _⟩
  constructor
  · intro b hb
    exact (hall b (List.mem_of_mem_head? hb)).right.right.right
  · intro b hb
    exact (hall b (List.mem_of_mem_getLast? hb)).right.right.right

theorem trimmed_entryLine {entry : List UInt8 × List UInt8} (h : EntryFits entry) :
    Trimmed isSpace (entryLine entry) := by
  rcases isKey_spec h.key with ⟨_, ⟨c, t, hkey, _, _⟩, _⟩
  constructor
  · intro b hb
    apply (trimmed_key h.key).head b
    rw [entryLine, hkey] at hb
    rw [hkey]
    exact hb
  · intro b hb
    rw [entryLine, List.getLast?_append_of_ne_nil _ (List.cons_ne_nil _ _)] at hb
    cases hval : entry.2 with
    | nil =>
        rw [hval] at hb
        cases hb
        decide
    | cons v vs =>
        rw [hval, List.getLast?_cons_cons, ← hval] at hb
        exact h.val.trimmed.last b hb

/-- The line of an entry is no comment, and its first `=` is the one after the key. -/
theorem lineEntry_entryLine {entry : List UInt8 × List UInt8} (h : EntryFits entry) :
    lineEntry (entryLine entry ++ [10]) = some entry := by
  rcases isKey_spec h.key with ⟨hall, ⟨c, t, hkey, hhash, hsemi⟩, _⟩
  have hline : (entryLine entry ++ [10]).takeWhile (fun b => decide (b ≠ 0)) =
      entryLine entry ++ [10] := by
    apply List.takeWhile_eq_self_iff.mpr
    intro b hb
    apply decide_eq_true
    rintro rfl
    rcases List.mem_append.mp hb with hmem | hmem
    · rcases List.mem_append.mp hmem with hmem | hmem
      · exact (hall 0 hmem).left rfl
      · rcases List.mem_cons.mp hmem with heq | hmem
        · cases heq
        · exact h.terminated hmem
    · cases List.mem_singleton.mp hmem
  have hne : entryLine entry ≠ [] := by
    rw [entryLine, hkey]
    exact List.cons_ne_nil _ _
  have htrim := (trimmed_entryLine h).trim_concat isSpace (by decide : isSpace 10 = true) hne
  have hsep : forall b, b ∈ entry.1 -> decide (b ≠ 61) = true :=
    fun b hb => decide_eq_true (hall b hb).right.right.left
  have hbefore : (entryLine entry).takeWhile (fun b => decide (b ≠ 61)) = entry.1 := by
    rw [entryLine, List.takeWhile_append_of_pos hsep]
    exact List.append_nil _
  have hafter : (entryLine entry).dropWhile (fun b => decide (b ≠ 61)) = 61 :: entry.2 := by
    rw [entryLine, List.dropWhile_append_of_pos hsep]
    rfl
  have hcons : entryLine entry = c :: (t ++ 61 :: entry.2) := by
    rw [entryLine, hkey]
    rfl
  simp only [lineEntry, hline, htrim, hbefore, hafter,
    (trimmed_key h.key).trim_eq, h.val.trimmed.trim_eq]
  rw [hcons]
  exact if_neg (not_or.mpr ⟨hhash, hsemi⟩)

theorem entryLine_fits {entry : List UInt8 × List UInt8} (h : EntryFits entry) :
    10 ∉ entryLine entry ∧ (entryLine entry).length < iniLineMax - 1 := by
  rcases isKey_spec h.key with ⟨hall, _, hlength⟩
  constructor
  · intro hmem
    rcases List.mem_append.mp hmem with hmem | hmem
    · exact (hall 10 hmem).right.left rfl
    · rcases List.mem_cons.mp hmem with heq | hmem
      · cases heq
      · exact h.val.newline hmem
  · have hval := h.fits
    rw [entryLine, List.length_append, List.length_cons, iniLineMax]
    omega

theorem entryFits_field {size : Nat} (hsize : size ≤ 512) (field : CField size)
    (h : LineText field.text) {key : List UInt8} (hkey : isKey key = true) :
    EntryFits (key, field.text) where
  key := hkey
  val := h
  terminated := field.terminated
  fits := Nat.lt_of_lt_of_le field.fits hsize

/-- The digits of a number are a text for a line. -/
theorem printInt_plain (n : Int32) {b : UInt8} (h : b ∈ printInt n) :
    isSpace b = false ∧ b ≠ 0 := by
  rw [printInt] at h
  have hdigit : b ∈ decimal n.toInt.natAbs -> isSpace b = false ∧ b ≠ 0 := by
    intro hmem
    refine ⟨isSpace_of_isDigit (isDigit_of_mem_decimal hmem), ?_⟩
    rintro rfl
    cases isDigit_of_mem_decimal hmem
  split at h
  · rcases List.mem_cons.mp h with rfl | hmem
    · decide
    · exact hdigit hmem
  · exact hdigit h

theorem length_printInt (n : Int32) : (printInt n).length ≤ 11 := by
  have hlo := n.le_toInt
  have hhi := n.toInt_lt
  have hdigits : (decimal n.toInt.natAbs).length ≤ 10 :=
    (length_decimal_le_iff (by decide)).mpr (by omega)
  rw [printInt]
  split
  · exact Nat.succ_le_succ hdigits
  · exact Nat.le_succ_of_le hdigits

theorem entryFits_interval (n : Int32) {key : List UInt8} (hkey : isKey key = true) :
    EntryFits (key, printInt n) where
  key := hkey
  val :=
    { newline := fun hmem => by cases (printInt_plain n hmem).left
      trimmed :=
        { head := fun _ hb => (printInt_plain n (List.mem_of_mem_head? hb)).left
          last := fun _ hb => (printInt_plain n (List.mem_of_mem_getLast? hb)).left } }
  terminated := fun hmem => (printInt_plain n hmem).right rfl
  fits := Nat.lt_of_le_of_lt (length_printInt n) (by decide)

theorem entryFits_saved {cfg : LeoConfig} (h : forall text, text ∈ cfg.texts -> LineText text) :
    forall entry, entry ∈ savedEntries cfg -> EntryFits entry := by
  simp only [LeoConfig.texts, List.forall_mem_cons] at h
  rcases h with ⟨h1, h2, h3, h4, h5, h6, h7, h8, h9, _⟩
  simp only [savedEntries, List.forall_mem_cons]
  refine ⟨?_, ?_, ?_, ?_, ?_, ?_, ?_, ?_, ?_, ?_, ?_, nofun⟩
  · exact entryFits_field (by decide) cfg.agentId h1 (by decide)
  · exact entryFits_field (by decide) cfg.tenantId h2 (by decide)
  · exact entryFits_field (by decide) cfg.wsEndpoint h3 (by decide)
  · exact entryFits_field (by decide) cfg.hostname h4 (by decide)
  · exact entryFits_field (by decide) cfg.osName h5 (by decide)
  · exact entryFits_field (by decide) cfg.osVersion h6 (by decide)
  · exact entryFits_field (by decide) cfg.arch h7 (by decide)
  · exact entryFits_field (by decide) cfg.hardwareId h8 (by decide)
  · exact entryFits_field (by decide) cfg.caFingerprint h9 (by decide)
  · exact entryFits_interval cfg.metricsIntervalSec (by decide)
  · exact entryFits_interval cfg.heartbeatIntervalSec (by decide)

/-!
## The round trip
-/

theorem headerLines_fit : forall line, line ∈ headerLines ->
    10 ∉ line ∧ line.length < iniLineMax - 1 := by
  decide

theorem lineEntries_entryLine {es : List (List UInt8 × List UInt8)}
    (h : forall entry, entry ∈ es -> EntryFits entry) :
    ((es.map entryLine).map fun line => line ++ [10]).filterMap lineEntry = es := by
  induction es with
  | nil =>
      rfl
  | cons entry es ih =>
      rw [List.forall_mem_cons] at h
      rw [List.map_cons, List.map_cons, List.filterMap_cons, lineEntry_entryLine h.left,
        ih h.right]

/-- The settings of the written file are those of the record. -/
theorem fileEntries_save {cfg : LeoConfig}
    (h : forall text, text ∈ cfg.texts -> LineText text) :
    fileEntries (leoConfigSave cfg) = savedEntries cfg := by
  have hentries := entryFits_saved h
  have hlines : forall line, line ∈ headerLines ++ (savedEntries cfg).map entryLine ->
      10 ∉ line ∧ line.length < iniLineMax - 1 := by
    intro line hline
    rcases List.mem_append.mp hline with hmem | hmem
    · exact headerLines_fit line hmem
    · rcases List.mem_map.mp hmem with ⟨entry, hentry, rfl⟩
      exact entryLine_fits (hentries entry hentry)
  have hheader : (headerLines.map fun line => line ++ [10]).filterMap lineEntry = [] := by
    rw [headerLines]
    decide
  rw [fileEntries, leoConfigSave_eq, lines_unlines 10 hlines, List.map_append,
    List.filterMap_append, hheader, lineEntries_entryLine hentries, List.nil_append]

/-- The keys of the file differ. -/
theorem nodup_savedKeys (cfg : LeoConfig) : ((savedEntries cfg).map Prod.fst).Nodup := by
  show [utf8 "agent_id", utf8 "tenant_id", utf8 "ws_endpoint", utf8 "hostname",
    utf8 "os_name", utf8 "os_version", utf8 "arch", utf8 "hardware_id",
    utf8 "ca_fingerprint", utf8 "metrics_interval_sec", utf8 "heartbeat_interval_sec"].Nodup
  decide

theorem lastValue_saved {cfg : LeoConfig} {key val : List UInt8}
    (h : (key, val) ∈ savedEntries cfg) : lastValue key (savedEntries cfg) = some val :=
  lastValue_of_mem (nodup_savedKeys cfg) h

theorem field_saved {cfg : LeoConfig} {size : Nat} [NeZero size] (key : String)
    (field : CField size) (h : (utf8 key, field.text) ∈ savedEntries cfg) :
    ((lastValue (utf8 key) (savedEntries cfg)).map CField.copy).getD CField.empty = field := by
  rw [lastValue_saved h]
  exact CField.copy_text field

theorem interval_saved {cfg : LeoConfig} (key : String) (n default : Int32)
    (h : (utf8 key, printInt n) ∈ savedEntries cfg) :
    ((lastValue (utf8 key) (savedEntries cfg)).map
      fun val => Int32.ofInt (atoi val)).getD default = n := by
  rw [lastValue_saved h, Option.map_some, Option.getD_some, atoi_printInt, Int32.ofInt_toInt]

/-- The settings of a record describe the record. -/
theorem configOf_saved (cfg : LeoConfig) :
    (configOf fun key => lastValue (utf8 key) (savedEntries cfg)) = cfg := by
  apply LeoConfig.ext
  · apply field_saved "agent_id"
    exact List.mem_cons_self
  · apply field_saved "tenant_id"
    simp only [savedEntries, List.mem_cons, true_or, or_true]
  · apply field_saved "ws_endpoint"
    simp only [savedEntries, List.mem_cons, true_or, or_true]
  · apply field_saved "hostname"
    simp only [savedEntries, List.mem_cons, true_or, or_true]
  · apply field_saved "os_name"
    simp only [savedEntries, List.mem_cons, true_or, or_true]
  · apply field_saved "os_version"
    simp only [savedEntries, List.mem_cons, true_or, or_true]
  · apply field_saved "arch"
    simp only [savedEntries, List.mem_cons, true_or, or_true]
  · apply field_saved "hardware_id"
    simp only [savedEntries, List.mem_cons, true_or, or_true]
  · apply field_saved "ca_fingerprint"
    simp only [savedEntries, List.mem_cons, true_or, or_true]
  · apply interval_saved "metrics_interval_sec" cfg.metricsIntervalSec metricsIntervalDefault
    simp only [savedEntries, List.mem_cons, true_or, or_true]
  · apply interval_saved "heartbeat_interval_sec" cfg.heartbeatIntervalSec heartbeatIntervalDefault
    simp only [savedEntries, List.mem_cons, true_or, or_true]

/-- A valid record, the texts of which are lines, is read back as it was written, whatever
else stands in the texts. -/
theorem config_round_trip (cfg : LeoConfig) (hvalid : leoConfigIsValid cfg = true)
    (htexts : forall text, text ∈ cfg.texts -> LineText text) :
    leoConfigLoad (some (leoConfigSave cfg)) = some cfg := by
  have hcfg : configOf (fileSetting (leoConfigSave cfg)) = cfg := by
    have hsettings : fileSetting (leoConfigSave cfg) =
        fun key => lastValue (utf8 key) (savedEntries cfg) := by
      funext key
      rw [fileSetting, fileEntries_save htexts]
    rw [hsettings, configOf_saved]
  rw [leoConfigLoad_eq, hcfg, if_pos hvalid]

/-- A record with texts that look like comments and like settings. -/
def sampleConfig : LeoConfig where
  agentId := CField.copy (utf8 "#1")
  tenantId := CField.copy (utf8 "tenant_id=;2")
  wsEndpoint := CField.copy (utf8 "wss://h/p?a=b#c")
  hostname := CField.copy (utf8 "=")
  osName := CField.empty
  osVersion := CField.copy (utf8 "6.1 ; x = y")
  arch := CField.empty
  hardwareId := CField.empty
  caFingerprint := CField.copy (List.replicate 64 97)
  metricsIntervalSec := -2147483648
  heartbeatIntervalSec := 2147483647

theorem config_round_trip_sample :
    leoConfigLoad (some (leoConfigSave sampleConfig)) = some sampleConfig := by
  apply config_round_trip sampleConfig (by decide)
  decide

end Agent
end LeoOne
