import LeoOne.Agent.Config
import LeoOne.Agent.CommandParameters
import LeoOne.Agent.Reports
import LeoOne.Foundation.Machine

/-!
# The first start

An agent without a configuration enrols: `leo_enroll` of `enroll.c`, as `leo_agent_start`
calls it.  It saves the certificate, the key and then the configuration, and removes the
bootstrap file last; the process may end between any two of these.  What the functions
that look at the machine find and what the backend answers are inputs.
-/

namespace LeoOne
namespace Agent

open Foundation
open Wire

/-!
## The enrolment
-/

instance archSize : NeZero 16 := ⟨by decide⟩

instance osNameSize : NeZero 32 := ⟨by decide⟩

instance tokenSize : NeZero 128 := ⟨by decide⟩

instance apiEndpointSize : NeZero 256 := ⟨by decide⟩

/-- `_bootstrap_t`. -/
structure Bootstrap where
  enrollmentToken : CField 128
  apiEndpoint : CField 256

/-- The body of the loop of `_load_bootstrap`. -/
def bootstrapLine (out : Bootstrap) (line : List UInt8) : Bootstrap :=
  match lineEntry line with
  | none => out
  | some (key, val) =>
      { enrollmentToken := setField key val "enrollment_token" out.enrollmentToken
        apiEndpoint := setField key val "api_endpoint" out.apiEndpoint }

/-- `_load_bootstrap`, of a file if there is one. -/
def loadBootstrap (file : Option (List UInt8)) : Option Bootstrap :=
  match file with
  | none => none
  | some text =>
      let out := (Settings.lines 10 511 text).foldl bootstrapLine
        { enrollmentToken := CField.empty, apiEndpoint := CField.empty }
      if out.enrollmentToken.text = [] || out.apiEndpoint.text = [] then none else some out

/-- What `_detect_hostname`, `_detect_os_version`, `_detect_arch` and `_detect_hardware_id`
find. -/
structure Host where
  hostname : CField 256
  osVersion : CField 128
  arch : CField 16
  hardwareId : Option (CField uuidStrLen)

/-- `_build_enroll_request`; `none` if it does not fit its buffer. -/
def buildEnrollRequest (token : List UInt8) (cfg : LeoConfig) : Option (List UInt8) :=
  let text := (Printed.object
    [string "enrollment_token" token,
      string "hostname" cfg.hostname.text,
      string "os" cfg.osName.text,
      string "os_version" cfg.osVersion.text,
      string "arch" cfg.arch.text,
      string "hardware_id" cfg.hardwareId.text,
      string "agent_version" (utf8 "1.0.0")]).text
  if text.length < 2048 then some text else none

/-- What `_http_post_json` brings back. -/
structure HttpReply where
  status : Int
  body : List UInt8

/-- `_copy_response_field`, before the copy. -/
def responseField (data : Json) (name : String) : Option (List UInt8) :=
  match stringItem data name with
  | some val => if val = [] then none else some val
  | none => none

/-- What an answer gives: the configuration, the certificate and the key. -/
structure Enrolled where
  config : LeoConfig
  cert : List UInt8
  key : List UInt8
  deriving DecidableEq

/-- `_parse_enroll_response`; the buffers of the two PEM texts have 8192 bytes. -/
def parseEnrollResponse (parse : List UInt8 -> Option Json) (reply : HttpReply)
    (cfg : LeoConfig) : Option Enrolled :=
  match parse ((reply.body.take (maxMsgSize - 1)).takeWhile fun b => b ≠ 0) with
  | none => none
  | some root =>
      if reply.status ≠ 200 && reply.status ≠ 201 then none
      else
        match root.getObjectItem "data" with
        | some (Json.obj fields) => do
            let data := Json.obj fields
            let agentId <- responseField data "agent_id"
            let tenantId <- responseField data "tenant_id"
            let wsEndpoint <- responseField data "ws_endpoint"
            let fingerprint <- responseField data "server_cert_fingerprint"
            let cert <- responseField data "client_cert_pem"
            let key <- responseField data "client_key_pem"
            some
              { config :=
                  { cfg with
                    agentId := CField.copy agentId
                    tenantId := CField.copy tenantId
                    wsEndpoint := CField.copy wsEndpoint
                    caFingerprint := CField.copy fingerprint }
                cert := strncpy cert 8192
                key := strncpy key 8192 }
        | _ => none

/-- The files of an agent. -/
structure AgentFiles where
  bootstrap : Option (List UInt8)
  config : Option (List UInt8)
  cert : Option (List UInt8)
  key : Option (List UInt8)

/-- How `_write_file` ends; after an error anything may be left. -/
inductive FileWrite where
  | written
  | failed (left : Option (List UInt8))

/-- What a start meets. -/
structure StartInput where
  host : Host
  reply : Option HttpReply
  certsDir : Bool
  certWrite : FileWrite
  keyWrite : FileWrite
  configOpens : Bool
  removes : Bool

/-- What a start does: the answer that it accepts, the files after each of its writes, and
the configuration with which it goes on. -/
structure StartRun where
  enrolled : Option Enrolled
  files : List AgentFiles
  config : Option LeoConfig

/-- `leo_crypto_save_cert_key`, `leo_config_save` and the removal of the bootstrap file. -/
def saveEnrolled (x : StartInput) (e : Enrolled) (files : AgentFiles) : StartRun :=
  let stops (after : List AgentFiles) : StartRun :=
    { enrolled := some e, files := after, config := none }
  if !x.certsDir then stops []
  else
    match x.certWrite with
    | FileWrite.failed left => stops [{ files with cert := left }]
    | FileWrite.written =>
        let first := { files with cert := some e.cert }
        match x.keyWrite with
        | FileWrite.failed left => stops [first, { first with key := left }]
        | FileWrite.written =>
            let second := { first with key := some e.key }
            if !x.configOpens then stops [first, second]
            else
              let third := { second with config := some (leoConfigSave e.config) }
              { enrolled := some e
                files :=
                  [first, second, third,
                    if x.removes then { third with bootstrap := none } else third]
                config := some e.config }

/-- The record before the request. -/
def hostConfig (host : Host) (hardwareId : CField uuidStrLen) : LeoConfig :=
  { initialConfig with
    hostname := host.hostname
    osName := CField.copy (utf8 "linux")
    osVersion := host.osVersion
    arch := host.arch
    hardwareId := hardwareId }

/-- The answer that `leo_enroll` accepts: everything up to the first write. -/
def enrollAnswer (parse : List UInt8 -> Option Json) (x : StartInput) (files : AgentFiles) :
    Option Enrolled := do
  let bootstrap <- loadBootstrap files.bootstrap
  let hardwareId <- x.host.hardwareId
  let cfg := hostConfig x.host hardwareId
  let _ <- buildEnrollRequest bootstrap.enrollmentToken.text cfg
  let _ <- leoHttpParseUrl bootstrap.apiEndpoint.text 256 0
  let reply <- x.reply
  parseEnrollResponse parse reply cfg

/-- `leo_enroll`. -/
def leoEnroll (parse : List UInt8 -> Option Json) (x : StartInput) (files : AgentFiles) :
    StartRun :=
  match enrollAnswer parse x files with
  | none => { enrolled := none, files := [], config := none }
  | some e => saveEnrolled x e files

/-- `leo_agent_start` up to its configuration. -/
def leoAgentStart (parse : List UInt8 -> Option Json) (x : StartInput) (files : AgentFiles) :
    StartRun :=
  match leoConfigLoad files.config with
  | some cfg => { enrolled := none, files := [], config := some cfg }
  | none => leoEnroll parse x files

/-!
## Starts and crashes
-/

inductive StartEvent where
  | start (x : StartInput)
  /-- The process ends after so many writes. -/
  | crash (x : StartInput) (writes : Nat)

/-- The files, the answers that were accepted, the newest first, and the configurations
with which a start went on. -/
structure StartState where
  files : AgentFiles
  answers : List Enrolled
  started : List LeoConfig

def StartState.step (parse : List UInt8 -> Option Json) (s : StartState) :
    StartEvent -> Option StartState
  | StartEvent.start x =>
      let r := leoAgentStart parse x s.files
      some
        { files := r.files.getLast?.getD s.files
          answers := r.enrolled.toList ++ s.answers
          started := r.config.toList ++ s.started }
  | StartEvent.crash x writes =>
      let r := leoAgentStart parse x s.files
      some
        { files := (r.files.take writes).getLast?.getD s.files
          answers := r.enrolled.toList ++ s.answers
          started := s.started }

def starts (parse : List UInt8 -> Option Json) : Machine StartState StartEvent where
  step := StartState.step parse

/-- A machine with its bootstrap file only. -/
def freshAgent (bootstrap : List UInt8) : StartState where
  files := { bootstrap := some bootstrap, config := none, cert := none, key := none }
  answers := []
  started := []

/-- The backend's answers: a valid configuration of one-line texts. -/
structure Enrolled.Sound (e : Enrolled) : Prop where
  valid : leoConfigIsValid e.config = true
  lines : forall text, text ∈ e.config.texts -> LineText text

/-- The files hold what one answer gave, all of it. -/
structure AgentFiles.Hold (files : AgentFiles) (e : Enrolled) : Prop where
  config : files.config = some (leoConfigSave e.config)
  cert : files.cert = some e.cert
  key : files.key = some e.key

/-!
## One start
-/

theorem load_saved {cfg : LeoConfig} (h : forall text, text ∈ cfg.texts -> LineText text) :
    leoConfigLoad (some (leoConfigSave cfg)) =
      if leoConfigIsValid cfg then some cfg else none := by
  have hcfg : configOf (fileSetting (leoConfigSave cfg)) = cfg := by
    have hsettings : fileSetting (leoConfigSave cfg) =
        fun key => Settings.lastValue (utf8 key) (savedEntries cfg) := by
      funext key
      rw [fileSetting, fileEntries_save h]
    rw [hsettings, configOf_saved]
  rw [leoConfigLoad_eq, hcfg]

theorem load_held {files : AgentFiles} {e : Enrolled} (h : files.Hold e) (he : e.Sound) :
    leoConfigLoad files.config = some e.config := by
  rw [h.config, load_saved he.lines, if_pos he.valid]

theorem saveEnrolled_enrolled (x : StartInput) (e : Enrolled) (files : AgentFiles) :
    (saveEnrolled x e files).enrolled = some e := by
  unfold saveEnrolled
  repeat' split
  all_goals rfl

/-- The configuration is written after the certificate and the key. -/
theorem saveEnrolled_files {x : StartInput} {e : Enrolled} {files after : AgentFiles}
    (h : after ∈ (saveEnrolled x e files).files) :
    after.config = files.config ∨ after.Hold e := by
  unfold saveEnrolled at h
  simp only at h
  split at h
  · cases h
  · split at h
    · rw [List.mem_singleton.mp h]
      exact Or.inl rfl
    · split at h
      · rcases List.mem_pair.mp h with rfl | rfl <;> exact Or.inl rfl
      · split at h
        · rcases List.mem_pair.mp h with rfl | rfl <;> exact Or.inl rfl
        · simp only [List.mem_cons, List.not_mem_nil, or_false] at h
          rcases h with rfl | rfl | rfl | rfl
          · exact Or.inl rfl
          · exact Or.inl rfl
          · exact Or.inr ⟨rfl, rfl, rfl⟩
          · right
            split <;> exact ⟨rfl, rfl, rfl⟩

/-- A start that goes on with an answer has written all of it. -/
theorem saveEnrolled_config {x : StartInput} {e : Enrolled} {files : AgentFiles}
    {cfg : LeoConfig} (h : (saveEnrolled x e files).config = some cfg) :
    cfg = e.config ∧
      exists after, (saveEnrolled x e files).files.getLast? = some after ∧ after.Hold e ∧
        (x.removes = true -> after.bootstrap = none) := by
  unfold saveEnrolled at h ⊢
  simp only at h ⊢
  split at h
  · cases h
  · rename_i hdir
    split at h
    · cases h
    · split at h
      · cases h
      · split at h
        · cases h
        · rename_i hopens
          refine ⟨(Option.some.inj h).symm, ?_⟩
          simp only [hdir, hopens]
          refine ⟨_, rfl, ?_⟩
          split
          · exact ⟨⟨rfl, rfl, rfl⟩, fun _ => rfl⟩
          · rename_i hkept
            exact ⟨⟨rfl, rfl, rfl⟩, fun hremoves => absurd hremoves hkept⟩

theorem start_loaded {parse : List UInt8 -> Option Json} {x : StartInput}
    {files : AgentFiles} {cfg : LeoConfig} (h : leoConfigLoad files.config = some cfg) :
    leoAgentStart parse x files = { enrolled := none, files := [], config := some cfg } := by
  rw [leoAgentStart, h]

/-- What a start without a configuration does. -/
theorem start_cases (parse : List UInt8 -> Option Json) (x : StartInput) {files : AgentFiles}
    (h : files.config = none) :
    leoAgentStart parse x files = { enrolled := none, files := [], config := none } ∨
      exists e, leoAgentStart parse x files = saveEnrolled x e files := by
  rw [leoAgentStart, h]
  simp only [leoConfigLoad, leoEnroll]
  cases enrollAnswer parse x files with
  | none => exact Or.inl rfl
  | some e => exact Or.inr ⟨e, rfl⟩

/-!
## Every run
-/

namespace StartState

/-- There is no configuration yet, or everything that the newest answer gave. -/
def Whole (s : StartState) : Prop :=
  (s.files.config = none ∧ s.started = []) ∨
    exists e, s.answers.head? = some e ∧ s.files.Hold e ∧
      forall cfg, cfg ∈ s.started -> cfg = e.config

/-- As long as the answers are sound, the files are whole. -/
def StartLaw (s : StartState) : Prop :=
  (forall e, e ∈ s.answers -> e.Sound) -> s.Whole

/-- Once the files hold an answer, a start or a crash leaves them as they are. -/
theorem step_held {parse : List UInt8 -> Option Json} {s s' : StartState} {ev : StartEvent}
    {e : Enrolled} (hheld : s.files.Hold e) (he : e.Sound)
    (hstep : s.step parse ev = some s') :
    s'.files = s.files ∧ s'.answers = s.answers ∧
      forall cfg, cfg ∈ s'.started -> cfg ∈ s.started ∨ cfg = e.config := by
  have hload := load_held hheld he
  cases ev with
  | start x =>
      rw [StartState.step, start_loaded hload] at hstep
      cases hstep
      refine ⟨rfl, rfl, fun cfg hcfg => ?_⟩
      rcases List.mem_cons.mp hcfg with heq | hmem
      · exact Or.inr heq
      · exact Or.inl hmem
  | crash x writes =>
      rw [StartState.step, start_loaded hload] at hstep
      cases hstep
      exact ⟨by rw [List.take_nil]; rfl, rfl, fun cfg hcfg => Or.inl hcfg⟩

/-- The files after some of the writes of an enrolment. -/
theorem whole_of_writes {x : StartInput} {e : Enrolled} {s s' : StartState}
    (hnone : s.files.config = none) {after : List AgentFiles}
    (hafter : forall files, files ∈ after -> files ∈ (saveEnrolled x e s.files).files)
    (hfiles : s'.files = after.getLast?.getD s.files) (hanswers : s'.answers.head? = some e)
    (hstarted : forall cfg, cfg ∈ s'.started -> cfg = e.config)
    (hnever : s'.files.config = none -> s'.started = []) : s'.Whole := by
  cases hlast : after.getLast? with
  | none =>
      rw [hlast, Option.getD_none] at hfiles
      have hconfig : s'.files.config = none := by rw [hfiles, hnone]
      exact Or.inl ⟨hconfig, hnever hconfig⟩
  | some files =>
      rw [hlast, Option.getD_some] at hfiles
      rcases saveEnrolled_files (hafter files (List.mem_of_getLast? hlast)) with hold | hheld
      · have hconfig : s'.files.config = none := by rw [hfiles, hold, hnone]
        exact Or.inl ⟨hconfig, hnever hconfig⟩
      · rw [← hfiles] at hheld
        exact Or.inr ⟨e, hanswers, hheld, hstarted⟩

theorem startLaw_preserved (parse : List UInt8 -> Option Json) :
    (starts parse).Preserves (fun _ _ => True) StartLaw := by
  intro s ev s' hlaw _ hstep hsound
  have hstep' : s.step parse ev = some s' := hstep
  have hbefore : forall e, e ∈ s.answers -> e.Sound := by
    intro e he
    apply hsound
    cases ev with
    | start x =>
        cases hstep'
        exact List.mem_append_right _ he
    | crash x writes =>
        cases hstep'
        exact List.mem_append_right _ he
  rcases hlaw hbefore with ⟨hnone, hstarted⟩ | ⟨e, hnewest, hheld, hstarted⟩
  · cases ev with
    | start x =>
        rcases start_cases parse x hnone with hrun | ⟨e, hrun⟩
        · rw [StartState.step, hrun] at hstep'
          cases hstep'
          exact Or.inl ⟨hnone, hstarted⟩
        · rw [StartState.step, hrun, saveEnrolled_enrolled] at hstep'
          cases hconfig : (saveEnrolled x e s.files).config with
          | none =>
              rw [hconfig, hstarted] at hstep'
              cases hstep'
              exact whole_of_writes hnone (fun files hfiles => hfiles) rfl rfl nofun
                fun _ => rfl
          | some cfg =>
              rcases saveEnrolled_config hconfig with ⟨rfl, files, hlast, hheld, _⟩
              rw [hconfig, hlast, hstarted] at hstep'
              cases hstep'
              exact Or.inr ⟨e, rfl, hheld, fun cfg hcfg => List.mem_singleton.mp hcfg⟩
    | crash x writes =>
        rcases start_cases parse x hnone with hrun | ⟨e, hrun⟩
        · rw [StartState.step, hrun] at hstep'
          cases hstep'
          refine Or.inl ⟨?_, hstarted⟩
          rw [List.take_nil]
          exact hnone
        · rw [StartState.step, hrun, saveEnrolled_enrolled] at hstep'
          cases hstep'
          refine whole_of_writes hnone (fun files => List.mem_of_mem_take) rfl rfl ?_ ?_
          · rw [hstarted]
            exact nofun
          · exact fun _ => hstarted
  · rcases step_held hheld (hbefore e (List.mem_of_mem_head? hnewest)) hstep' with
      ⟨hfiles, hanswers, hmore⟩
    refine Or.inr ⟨e, ?_, ?_, fun cfg hcfg => ?_⟩
    · rw [hanswers]
      exact hnewest
    · rw [hfiles]
      exact hheld
    · rcases hmore cfg hcfg with hmem | heq
      · exact hstarted cfg hmem
      · exact heq

theorem startLaw_fresh (bootstrap : List UInt8) : StartLaw (freshAgent bootstrap) :=
  fun _ => Or.inl ⟨rfl, rfl⟩

/-- What stays once the files hold an answer. -/
structure Later (s s' : StartState) (e : Enrolled) : Prop where
  files : s'.files = s.files
  answers : s'.answers = s.answers
  started : forall cfg, cfg ∈ s'.started -> cfg = e.config

theorem later_preserved (parse : List UInt8 -> Option Json) {s : StartState} {e : Enrolled}
    (hheld : s.files.Hold e) (he : e.Sound) :
    (starts parse).Preserves (fun _ _ => True) fun s' => s.Later s' e := by
  intro t ev t' ht _ hstep
  have hheld' : t.files.Hold e := by
    rw [ht.files]
    exact hheld
  rcases step_held hheld' he hstep with ⟨hfiles, hanswers, hmore⟩
  refine ⟨hfiles.trans ht.files, hanswers.trans ht.answers, fun cfg hcfg => ?_⟩
  rcases hmore cfg hcfg with hmem | heq
  · exact ht.started cfg hmem
  · exact heq

end StartState

namespace SampleStart

def host : Host where
  hostname := CField.copy (utf8 "pc")
  osVersion := CField.copy (utf8 "12")
  arch := CField.copy (utf8 "amd64")
  hardwareId := some (CField.copy (utf8 "0a1b"))

def bootstrap : List UInt8 :=
  utf8 "enrollment_token=t\napi_endpoint=http://h\n"

def fingerprint : String :=
  String.ofList (List.replicate 64 'a')

/-- The answer for agent `a` of tenant `t`. -/
def answer : Json :=
  Json.obj
    [("data",
      Json.obj
        [("agent_id", Json.str "a"),
          ("tenant_id", Json.str "t"),
          ("ws_endpoint", Json.str "wss://h"),
          ("server_cert_fingerprint", Json.str fingerprint),
          ("client_cert_pem", Json.str "c"),
          ("client_key_pem", Json.str "k")])]

def parse : List UInt8 -> Option Json :=
  fun _ => some answer

/-- The backend answers and everything is written. -/
def fine : StartInput where
  host := host
  reply := some { status := 201, body := [] }
  certsDir := true
  certWrite := FileWrite.written
  keyWrite := FileWrite.written
  configOpens := true
  removes := true

/-- Cut off after the certificate, then started again. -/
def events : List StartEvent :=
  [StartEvent.crash fine 1, StartEvent.start fine]

def enrolled : Enrolled where
  config :=
    { hostConfig host (CField.copy (utf8 "0a1b")) with
      agentId := CField.copy (utf8 "a")
      tenantId := CField.copy (utf8 "t")
      wsEndpoint := CField.copy (utf8 "wss://h")
      caFingerprint := CField.copy (utf8 fingerprint) }
  cert := utf8 "c"
  key := utf8 "k"

theorem enrollAnswer_fine : enrollAnswer parse fine (freshAgent bootstrap).files =
    some enrolled := by
  decide +kernel

theorem sound : enrolled.Sound where
  valid := by decide
  lines := by decide

/-- The files after the first write. -/
def cutOff : AgentFiles :=
  { (freshAgent bootstrap).files with cert := some enrolled.cert }

theorem start_fine {files : AgentFiles} (hconfig : files.config = none)
    (h : files.bootstrap = (freshAgent bootstrap).files.bootstrap) :
    leoAgentStart parse fine files = saveEnrolled fine enrolled files := by
  have hanswer : enrollAnswer parse fine files = some enrolled := by
    rw [enrollAnswer, h]
    exact enrollAnswer_fine
  rw [leoAgentStart, hconfig]
  simp only [leoConfigLoad, leoEnroll, hanswer]

/-- The agent after both. -/
def enrolledAgent : StartState where
  files :=
    { bootstrap := none
      config := some (leoConfigSave enrolled.config)
      cert := some enrolled.cert
      key := some enrolled.key }
  answers := [enrolled, enrolled]
  started := [enrolled.config]

theorem events_run : (starts parse).run (freshAgent bootstrap) events = some enrolledAgent := by
  have hfirst : leoAgentStart parse fine (freshAgent bootstrap).files =
      saveEnrolled fine enrolled (freshAgent bootstrap).files := start_fine rfl rfl
  have hsecond : leoAgentStart parse fine cutOff = saveEnrolled fine enrolled cutOff :=
    start_fine rfl rfl
  have hcrash : (freshAgent bootstrap).step parse (StartEvent.crash fine 1) =
      some { files := cutOff, answers := [enrolled], started := [] } := by
    rw [StartState.step, hfirst]
    rfl
  have hstart : StartState.step parse
      { files := cutOff, answers := [enrolled], started := [] } (StartEvent.start fine) =
      some enrolledAgent := by
    rw [StartState.step, hsecond]
    rfl
  simp only [events, Machine.run, starts, hcrash, hstart]

/-- The agent after one more start. -/
def restarted : StartState :=
  { enrolledAgent with started := [enrolled.config, enrolled.config] }

theorem restart_run :
    (starts parse).run enrolledAgent [StartEvent.start fine] = some restarted := by
  have hload : leoConfigLoad enrolledAgent.files.config = some enrolled.config :=
    load_held ⟨rfl, rfl, rfl⟩ sound
  have hstart : StartState.step parse enrolledAgent (StartEvent.start fine) =
      some restarted := by
    rw [StartState.step, start_loaded hload]
    rfl
  simp only [Machine.run, starts, hstart]

end SampleStart

end Agent
end LeoOne
