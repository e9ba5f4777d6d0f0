import LeoOne.Agent.RemoteDesktop
import LeoOne.Backend.Server
import LeoOne.RemoteDesktop.Pump

/-!
# Viewing sessions

A viewing session is kept from injecting input twice: the relay forwards no input
message, and the agent, which has learned the mode from REMOTE_DESKTOP_START,
calls no injection function, whatever it receives.
-/

namespace LeoOne
namespace RemoteDesktop

open Foundation
open Wire
open Agent
open Backend

/-!
## The agent
-/

@[simp] theorem sendFrame_controlMode (s : RdSession) (frame : FrameAttempt) :
    (sendFrame s frame).controlMode = s.controlMode := by
  cases frame with
  | grabFails =>
      simp only [sendFrame]
      split <;> rfl
  | _ =>
      rfl

@[simp] theorem establish_controlMode (captureOpens inputOpens : Bool)
    (s : RdSession) :
    (establish captureOpens inputOpens s).controlMode = s.controlMode := by
  unfold establish
  split
  · rfl
  · split
    · rfl
    · split <;> rfl

@[simp] theorem handleControlMessage_controlMode (parse : List UInt8 -> Option Json)
    (s : RdSession) (data : List UInt8) :
    (handleControlMessage parse s data).controlMode = s.controlMode := by
  unfold handleControlMessage
  split
  · rfl
  · split
    · rfl
    · split <;> rfl

theorem receive_view (parse : List UInt8 -> Option Json) {s : RdSession}
    (h : s.controlMode = false) (chunk : List UInt8) :
    (receive parse s chunk).1.controlMode = false ∧ (receive parse s chunk).2 = [] := by
  unfold receive
  split
  · exact ⟨h, rfl⟩
  · split
    · exact ⟨h, rfl⟩
    · split
      · exact ⟨(handleControlMessage_controlMode _ _ _).trans h, rfl⟩
      · exact ⟨h, by simp [handleInputMessage, h]⟩

/-- A callback of a session that may only view injects nothing and leaves it so. -/
theorem rdLwsCallback_view (parse : List UInt8 -> Option Json) {s : RdSession}
    (h : s.controlMode = false) (c : RdCallback) :
    (rdLwsCallback parse s c).1.controlMode = false ∧
      (rdLwsCallback parse s c).2 = [] := by
  cases c with
  | connectionError message =>
      exact ⟨h, rfl⟩
  | established captureOpens inputOpens =>
      exact ⟨(establish_controlMode _ _ _).trans h, rfl⟩
  | receive chunk =>
      exact receive_view parse h chunk
  | timer =>
      exact ⟨h, rfl⟩
  | writeable frame =>
      simp only [rdLwsCallback]
      split
      · exact ⟨(sendFrame_controlMode _ _).trans h, rfl⟩
      · exact ⟨h, rfl⟩
  | closed =>
      exact ⟨h, rfl⟩

theorem runCallbacks_view (parse : List UInt8 -> Option Json) {s : RdSession}
    (h : s.controlMode = false) (cs : List RdCallback) :
    (runCallbacks parse s cs).1.controlMode = false ∧
      (runCallbacks parse s cs).2 = [] := by
  induction cs generalizing s with
  | nil =>
      exact ⟨h, rfl⟩
  | cons c cs ih =>
      rcases rdLwsCallback_view parse h c with ⟨hmode, hnone⟩
      rcases ih hmode with ⟨hmode', hnone'⟩
      simp only [runCallbacks]
      refine ⟨hmode', ?_⟩
      rw [hnone, hnone']
      rfl

theorem sessionLoop_view (parse : List UInt8 -> Option Json) {s : RdSession}
    (h : s.controlMode = false) (turns : List RdTurn) :
    (sessionLoop parse s turns).2 = [] := by
  induction turns generalizing s with
  | nil =>
      rfl
  | cons t turns ih =>
      rcases runCallbacks_view parse h t.callbacks with ⟨hmode, hnone⟩
      simp only [sessionLoop]
      split
      · rfl
      · split
        · exact hnone
        · have hnext : (if t.overdue then expire (runCallbacks parse s t.callbacks).1
              else (runCallbacks parse s t.callbacks).1).controlMode = false := by
            split
            · exact hmode
            · exact hmode
          simp only
          rw [hnone, ih hnext]
          rfl

/-- The mode of a session is the one of its START message. -/
theorem leoRdStart_controlMode {host : RdHost} {sessionId wsUrl mode : List UInt8}
    {fps quality maxWidth maxHeight : Int} {s : RdSession}
    (h : leoRdStart host sessionId wsUrl mode fps quality maxWidth maxHeight = some s) :
    s.controlMode = decide (mode = utf8 "control") := by
  unfold leoRdStart at h
  split at h
  · cases h
  · split at h
    · cases h
    · split at h
      · cases h
      · split at h
        · cases h
        · cases h
          rfl

theorem start_controlMode {host : RdHost} {wsEndpoint : String} {id : Uuid}
    {mode : SessionMode} {agentToken : String} {ts : Nat} {s : RdSession}
    (h : dispatchRemoteDesktopStart host
      (dispatchedOf (startMessage wsEndpoint id mode agentToken ts)).body = some s) :
    s.controlMode = decide (mode = SessionMode.control) := by
  have hmode : stringItem (startMessage wsEndpoint id mode agentToken ts).body.value
      "mode" = some (utf8 (modeText mode)) := by
    cases mode <;> rfl
  simp only [dispatchRemoteDesktopStart, dispatchedOf] at h
  split at h
  · split at h
    · cases h
    · rw [hmode] at h
      rw [leoRdStart_controlMode h]
      cases mode <;> decide
  · cases h

def sampleSession : Uuid where
  text := "5e000000-0000-4000-8000-000000000004"
  canonical := by decide

/-- The START message of a session is one that the agent starts. -/
example (mode : SessionMode) :
    (dispatchRemoteDesktopStart { busy := false, allocates := true, spawns := true }
      (dispatchedOf (startMessage "wss://leo:8444/ws/remote-desktop" sampleSession
        mode "token" 0)).body).isSome = true := by
  cases mode <;> decide

/-!
## Agreement of the two sides
-/

theorem handleInputMessage_of_not_input {data : List UInt8}
    (h : isInputMessage data = false) (s : RdSession) :
    handleInputMessage s data = [] := by
  unfold handleInputMessage
  split
  · rfl
  · split
    · simp [isInputMessage, wireTypeInputMove] at h
    · simp [isInputMessage, wireTypeInputButton] at h
    · simp [isInputMessage, wireTypeInputScroll] at h
    · simp [isInputMessage, wireTypeInputKey] at h
    · rfl

/-- What the relay does not take for input, the agent does not inject. -/
theorem receive_of_not_input {payload : List UInt8}
    (h : isInputMessage payload = false) (parse : List UInt8 -> Option Json)
    (s : RdSession) : (receive parse s payload).2 = [] := by
  unfold receive
  split
  · rfl
  · split
    · rfl
    · split
      · rfl
      · exact handleInputMessage_of_not_input h s

/-- In a viewing session the relay forwards to the agent what the browser sends
up to the first error, less the input messages, unaltered and in order, and none
of that makes an agent inject input, whatever its state; in a controlling session
it forwards everything.  A session that the agent has started from the START
message of a viewing session injects nothing, and neither does any session
without control, whatever arrives on its connection and in whatever pieces. -/
theorem view_mode_is_safe (parse : List UInt8 -> Option Json) :
    (forall turns, pumpToAgent SessionMode.view turns =
      ((turns.takeWhile (CopyTurn.goesOn true)).filterMap CopyTurn.read).filter
        fun m => !isInputMessage m.payload) ∧
    (forall turns m s, m ∈ pumpToAgent SessionMode.view turns ->
      (receive parse s m.payload).2 = []) ∧
    (forall turns, pumpToAgent SessionMode.control turns =
      (turns.takeWhile (CopyTurn.goesOn false)).filterMap CopyTurn.read) ∧
    (forall host wsEndpoint id agentToken ts s turns,
      dispatchRemoteDesktopStart host
        (dispatchedOf
          (startMessage wsEndpoint id SessionMode.view agentToken ts)).body = some s ->
      (sessionLoop parse s turns).2 = []) ∧
    (forall s turns, s.controlMode = false -> (sessionLoop parse s turns).2 = []) := by
  refine ⟨?_, ?_, ?_, ?_, ?_⟩
  · intro turns
    exact copyOne_eq true turns
  · intro turns m s hm
    exact receive_of_not_input (pumpToAgent_view hm) parse s
  · intro turns
    have hall : pumpToAgent SessionMode.control turns = copyOne false turns := rfl
    rw [hall, copyOne_eq]
    exact List.filter_true _
  · intro host wsEndpoint id agentToken ts s turns hstart
    apply sessionLoop_view parse
    rw [start_controlMode hstart]
    rfl
  · intro s turns hmode
    exact sessionLoop_view parse hmode turns

end RemoteDesktop
end LeoOne
