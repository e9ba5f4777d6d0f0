import LeoOne.Agent.Config
import LeoOne.Foundation.Machine

/-!
# The intervals of the periodic threads

The two intervals of the configuration come from the file at first and from the messages
HELLO_ACK and CONFIG_UPDATE later.  The threads of `agent.c` read them before each sleep.
-/

namespace LeoOne
namespace Agent

open Foundation
open Wire

/-!
## Messages
-/

/-- An interval of a body, between 1 and 86400, if it is a positive number. -/
def bodyInterval (body : Json) (key : String) (old : Int32) : Int32 :=
  match numberItem body key with
  | some v => if isAbove v 0 then Int32.ofInt (jsonNumberClamped v 1 86400) else old
  | none => old

/-- What `_on_message` makes of the configuration. -/
def configAfter (cfg : LeoConfig) (msg : IncomingMsg) : LeoConfig :=
  match branchOf msg.type, msg.body with
  | Branch.helloAck, some body =>
      { cfg with
        heartbeatIntervalSec :=
          bodyInterval body "heartbeat_interval_sec" cfg.heartbeatIntervalSec
        metricsIntervalSec := bodyInterval body "metrics_interval_sec" cfg.metricsIntervalSec }
  | Branch.configUpdate, some body =>
      { cfg with
        metricsIntervalSec := bodyInterval body "metrics_interval_sec" cfg.metricsIntervalSec }
  | _, _ => cfg

/-!
## Sleeps
-/

/-- A call of `_interruptible_sleep`: the time it begins, and the time at which it ends
unless it is woken. -/
structure Sleep where
  start : Int
  deadline : Int
  deriving DecidableEq

def interruptibleSleep (now : Int) (secs : Int32) : Sleep where
  start := now
  deadline := now + secs.toInt

/-- The configuration, and the sleeps that the two threads have begun. -/
structure AgentClock where
  config : LeoConfig
  sleeps : List Sleep
  deriving DecidableEq

inductive ClockEvent where
  | message (msg : IncomingMsg)
  | heartbeatThread (now : Int)
  | metricsThread (now : Int)

def clockStep (s : AgentClock) : ClockEvent -> AgentClock
  | ClockEvent.message msg => { s with config := configAfter s.config msg }
  | ClockEvent.heartbeatThread now =>
      { s with sleeps := interruptibleSleep now s.config.heartbeatIntervalSec :: s.sleeps }
  | ClockEvent.metricsThread now =>
      { s with sleeps := interruptibleSleep now s.config.metricsIntervalSec :: s.sleeps }

/-- The agent as far as its intervals go. -/
def agentClock : Machine AgentClock ClockEvent where
  step := fun s e => some (clockStep s e)

/-- The agent with the configuration that it has loaded. -/
def AgentClock.start (cfg : LeoConfig) : AgentClock where
  config := cfg
  sleeps := []

/-!
## Sane intervals
-/

/-- The range of `_json_number_clamped (v, 1, 86400)`. -/
def SaneInterval (secs : Int) : Prop :=
  1 ≤ secs ∧ secs ≤ 86400

instance (secs : Int) : Decidable (SaneInterval secs) :=
  inferInstanceAs (Decidable (_ ∧ _))

/-- Both intervals are sane, and no thread spins or sleeps for more than a day. -/
structure SaneClock (s : AgentClock) : Prop where
  heartbeat : SaneInterval s.config.heartbeatIntervalSec.toInt
  metrics : SaneInterval s.config.metricsIntervalSec.toInt
  sleeps : forall sleep, sleep ∈ s.sleeps ->
    sleep.start < sleep.deadline ∧ sleep.deadline ≤ sleep.start + 86400

/-- The last line of a key, if there is one, has a sane number. -/
def SaneSetting (text : List UInt8) (key : String) : Prop :=
  forall val, val ∈ fileSetting text key -> SaneInterval (atoi val)

theorem jsonNumberClamped_range (v : Decimal) {lo hi : Int} (h : lo ≤ hi) :
    lo ≤ jsonNumberClamped v lo hi ∧ jsonNumberClamped v lo hi ≤ hi := by
  have hpos : (0 : Int) < 10 ^ v.exponent := Int.pow_pos (by decide)
  rw [jsonNumberClamped]
  split
  · exact ⟨Int.le_refl lo, h⟩
  · rename_i hbelow
    split
    · exact ⟨h, Int.le_refl hi⟩
    · rename_i habove
      rw [isBelow, decide_eq_true_eq, Int.not_lt] at hbelow
      rw [isAbove, decide_eq_true_eq, Int.not_lt] at habove
      constructor
      · have hle := Int.tdiv_le_tdiv hpos hbelow
        rwa [Int.mul_tdiv_cancel _ (Int.ne_of_gt hpos)] at hle
      · have hle := Int.tdiv_le_tdiv hpos habove
        rwa [Int.mul_tdiv_cancel _ (Int.ne_of_gt hpos)] at hle

theorem bodyInterval_sane (body : Json) (key : String) {old : Int32}
    (h : SaneInterval old.toInt) : SaneInterval (bodyInterval body key old).toInt := by
  rw [bodyInterval]
  split
  · rename_i v _
    split
    · rcases jsonNumberClamped_range v (by decide : (1 : Int) ≤ 86400) with ⟨hlo, hhi⟩
      rw [Int32.toInt_ofInt_of_le (by omega) (by omega)]
      exact ⟨hlo, hhi⟩
    · exact h
  · exact h

theorem configAfter_sane {cfg : LeoConfig}
    (hheartbeat : SaneInterval cfg.heartbeatIntervalSec.toInt)
    (hmetrics : SaneInterval cfg.metricsIntervalSec.toInt) (msg : IncomingMsg) :
    SaneInterval (configAfter cfg msg).heartbeatIntervalSec.toInt ∧
      SaneInterval (configAfter cfg msg).metricsIntervalSec.toInt := by
  rw [configAfter]
  split
  · exact ⟨bodyInterval_sane _ _ hheartbeat, bodyInterval_sane _ _ hmetrics⟩
  · exact ⟨hheartbeat, bodyInterval_sane _ _ hmetrics⟩
  · exact ⟨hheartbeat, hmetrics⟩

theorem interruptibleSleep_sane (now : Int) {secs : Int32} (h : SaneInterval secs.toInt) :
    (interruptibleSleep now secs).start < (interruptibleSleep now secs).deadline ∧
      (interruptibleSleep now secs).deadline ≤
        (interruptibleSleep now secs).start + 86400 := by
  rcases h with ⟨hlo, hhi⟩
  show now < now + secs.toInt ∧ now + secs.toInt ≤ now + 86400
  omega

/-- No message and no sleep breaks sane intervals. -/
theorem saneClock_preserved : agentClock.Preserves (fun _ _ => True) SaneClock := by
  intro s e t hsane _ hstep
  cases hstep
  cases e with
  | message msg =>
      rcases configAfter_sane hsane.heartbeat hsane.metrics msg with ⟨hheartbeat, hmetrics⟩
      exact ⟨hheartbeat, hmetrics, hsane.sleeps⟩
  | heartbeatThread now =>
      refine ⟨hsane.heartbeat, hsane.metrics, ?_⟩
      exact List.forall_mem_cons.mpr
        ⟨interruptibleSleep_sane now hsane.heartbeat, hsane.sleeps⟩
  | metricsThread now =>
      refine ⟨hsane.heartbeat, hsane.metrics, ?_⟩
      exact List.forall_mem_cons.mpr
        ⟨interruptibleSleep_sane now hsane.metrics, hsane.sleeps⟩

/-- The intervals of a loaded configuration are those of the file, or the defaults. -/
theorem loaded_intervals {text : List UInt8} {cfg : LeoConfig}
    (h : leoConfigLoad (some text) = some cfg) :
    cfg.heartbeatIntervalSec =
        ((fileSetting text "heartbeat_interval_sec").map
          fun val => Int32.ofInt (atoi val)).getD heartbeatIntervalDefault ∧
      cfg.metricsIntervalSec =
        ((fileSetting text "metrics_interval_sec").map
          fun val => Int32.ofInt (atoi val)).getD metricsIntervalDefault := by
  rw [leoConfigLoad_eq] at h
  split at h
  · cases h
    exact ⟨rfl, rfl⟩
  · cases h

theorem saneSetting_iff (text : List UInt8) (key : String) {default : Int32}
    (h : SaneInterval default.toInt) :
    SaneInterval
        (((fileSetting text key).map fun val => Int32.ofInt (atoi val)).getD default).toInt <->
      SaneSetting text key := by
  rw [SaneSetting]
  cases fileSetting text key with
  | none =>
      exact ⟨fun _ _ hval => (by cases hval), fun _ => h⟩
  | some val =>
      have hread : (Int32.ofInt (atoi val)).toInt = atoi val :=
        congrArg Int32.toInt (Int32.ofInt_toInt _)
      rw [Option.map_some, Option.getD_some, hread]
      constructor
      · rintro hsane _ ⟨⟩
        exact hsane
      · intro hsane
        exact hsane val rfl

/-- Whatever messages arrive, the intervals of an agent stay sane exactly if those of its
file are. -/
theorem intervals_sane_iff {text : List UInt8} {cfg : LeoConfig}
    (hload : leoConfigLoad (some text) = some cfg) :
    (forall events s, agentClock.run (AgentClock.start cfg) events = some s -> SaneClock s) <->
      SaneSetting text "heartbeat_interval_sec" ∧ SaneSetting text "metrics_interval_sec" := by
  rcases loaded_intervals hload with ⟨hheartbeat, hmetrics⟩
  rw [← saneSetting_iff text "heartbeat_interval_sec"
      (by decide : SaneInterval heartbeatIntervalDefault.toInt), ← hheartbeat,
    ← saneSetting_iff text "metrics_interval_sec"
      (by decide : SaneInterval metricsIntervalDefault.toInt), ← hmetrics]
  constructor
  · intro hall
    have hstart := hall [] (AgentClock.start cfg) rfl
    exact ⟨hstart.heartbeat, hstart.metrics⟩
  · rintro ⟨hfirst, hsecond⟩ events s hrun
    have hstart : SaneClock (AgentClock.start cfg) := ⟨hfirst, hsecond, nofun⟩
    exact saneClock_preserved.run_all hstart hrun

/-- A file that is accepted, with a line for the interval of the heartbeat. -/
def heartbeatFile (val : String) : List UInt8 :=
  utf8 "ca_fingerprint=" ++ List.replicate 64 97 ++
    utf8 "\nagent_id=a\ntenant_id=b\nws_endpoint=c\nheartbeat_interval_sec=" ++ utf8 val

def heartbeatConfig (secs : Int32) : LeoConfig :=
  { initialConfig with
    agentId := CField.copy (utf8 "a")
    tenantId := CField.copy (utf8 "b")
    wsEndpoint := CField.copy (utf8 "c")
    caFingerprint := CField.copy (List.replicate 64 97)
    heartbeatIntervalSec := secs }

theorem intervals_sane_iff_sixty :
    leoConfigLoad (some (heartbeatFile "60")) = some (heartbeatConfig 60) ∧
      forall events s,
        agentClock.run (AgentClock.start (heartbeatConfig 60)) events = some s ->
          SaneClock s := by
  have hload : leoConfigLoad (some (heartbeatFile "60")) = some (heartbeatConfig 60) := by
    decide +kernel
  refine ⟨hload, (intervals_sane_iff hload).mpr ⟨?_, ?_⟩⟩
  · have hsetting : fileSetting (heartbeatFile "60") "heartbeat_interval_sec" =
        some (utf8 "60") := by
      decide +kernel
    rw [SaneSetting, hsetting]
    rintro _ ⟨⟩
    decide
  · have hsetting : fileSetting (heartbeatFile "60") "metrics_interval_sec" = none := by
      decide +kernel
    rw [SaneSetting, hsetting]
    rintro _ ⟨⟩

/-- With the interval 0 the heartbeat thread spins: its sleep ends when it begins. -/
theorem zero_interval_spins :
    leoConfigLoad (some (heartbeatFile "0")) = some (heartbeatConfig 0) ∧
      (exists s,
        agentClock.run (AgentClock.start (heartbeatConfig 0))
            [ClockEvent.heartbeatThread 100] = some s ∧
          { start := 100, deadline := 100 } ∈ s.sleeps) ∧
      ¬ forall text cfg events s, leoConfigLoad (some text) = some cfg ->
        agentClock.run (AgentClock.start cfg) events = some s -> SaneClock s := by
  have hload : leoConfigLoad (some (heartbeatFile "0")) = some (heartbeatConfig 0) := by
    decide +kernel
  refine ⟨hload, ⟨_, rfl, List.mem_cons_self⟩, ?_⟩
  intro hall
  have hsane := hall _ _ [] _ hload rfl
  exact absurd hsane.heartbeat (by decide)

end Agent
end LeoOne
