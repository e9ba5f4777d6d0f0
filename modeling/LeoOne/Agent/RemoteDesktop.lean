import LeoOne.Agent.Strings

/-!
# Remote desktop on the agent

`remote_desktop.c`: a session is started by REMOTE_DESKTOP_START, opens its own
connection, and handles what arrives there chunk by chunk, as libwebsockets
delivers it.  The capture and the injection of input are platform code; here a
call of an injection function is an event of the model.
-/

namespace LeoOne
namespace Agent

open Wire

/-- `LEO_RD_WS_URL_MAX_LEN`. -/
def rdWsUrlMaxLen : Nat := 1024

/-- The size of the field `host`. -/
def rdHostLen : Nat := 256

/-!
## The URL of the dedicated connection
-/

/-- The host, the port and the path of a URL. -/
structure WsUrl where
  host : List UInt8
  port : Int
  path : List UInt8
  deriving DecidableEq

def stripScheme (url : List UInt8) : List UInt8 :=
  if (utf8 "wss://").isPrefixOf url then url.drop 6
  else if (utf8 "ws://").isPrefixOf url then url.drop 5
  else url

/-- `_parse_ws_url`. -/
def parseWsUrl (url : List UInt8) : Option WsUrl :=
  let p := stripScheme url
  let slash := p.findIdx? (· = 47)
  let colon := p.findIdx? (· = 58)
  let path :=
    strncpy
      (match slash with
        | some i => p.drop i
        | none => utf8 "/")
      rdWsUrlMaxLen
  let withPort (i : Nat) : Option WsUrl :=
    if i = 0 ∨ rdHostLen ≤ i then none
    else
      let port := atoi (p.drop (i + 1))
      if port ≤ 0 ∨ 65535 < port then none
      else some { host := p.take i, port := port, path := path }
  let withoutPort : Option WsUrl :=
    let n := slash.getD p.length
    if n = 0 ∨ rdHostLen ≤ n then none
    else some { host := p.take n, port := 443, path := path }
  match colon, slash with
  | some i, some j => if i < j then withPort i else withoutPort
  | some i, none => withPort i
  | none, _ => withoutPort

/-!
## Starting a session
-/

/-- `_rd_session_ctx_t`, less the handles of the libraries. -/
structure RdSession where
  sessionId : List UInt8
  wsUrl : List UInt8
  controlMode : Bool
  fps : Int
  quality : Int
  maxWidth : Int
  maxHeight : Int
  url : WsUrl
  capture : Bool
  input : Bool
  frameSeq : UInt32
  consecutiveCaptureFailures : Nat
  established : Bool
  done : Bool
  failReason : List UInt8

/-- `snprintf` into `fail_reason`. -/
def failText (text : String) : List UInt8 :=
  strncpy (utf8 text) 128

/-- The state of the process that `leo_rd_start` meets: whether a session is
running, and whether the allocation and the creation of the thread succeed. -/
structure RdHost where
  busy : Bool
  allocates : Bool
  spawns : Bool

/-- `leo_rd_start`; the session whose thread has been created. -/
def leoRdStart (host : RdHost) (sessionId wsUrl mode : List UInt8)
    (fps quality maxWidth maxHeight : Int) : Option RdSession :=
  if host.busy then none
  else if !host.allocates then none
  else
    match parseWsUrl wsUrl with
    | none => none
    | some url =>
        if !host.spawns then none
        else
          some
            { sessionId := strncpy sessionId uuidStrLen
              wsUrl := strncpy wsUrl rdWsUrlMaxLen
              controlMode := mode = utf8 "control"
              fps := if 0 < fps then fps else 8
              quality := if 0 < quality then quality else 60
              maxWidth := if 0 < maxWidth then maxWidth else 1920
              maxHeight := if 0 < maxHeight then maxHeight else 1080
              url := url
              capture := false
              input := false
              frameSeq := 0
              consecutiveCaptureFailures := 0
              established := false
              done := false
              failReason := [] }

/-- A bounded parameter of the session, with its default. -/
def rdNumber (body : Json) (key : String) (lo hi default : Int) : Int :=
  match numberItem body key with
  | some v => jsonNumberClamped v lo hi
  | none => default

/-- `_dispatch_remote_desktop_start`. -/
def dispatchRemoteDesktopStart (host : RdHost) (body : Option Json) :
    Option RdSession :=
  match body with
  | none => none
  | some b =>
      match stringItem b "session_id", stringItem b "ws_url" with
      | some session, some url =>
          if session = [] ∨ url = [] then none
          else
            leoRdStart host session url ((stringItem b "mode").getD (utf8 "view"))
              (rdNumber b "fps" 1 30 8) (rdNumber b "quality" 1 100 60)
              (rdNumber b "max_width" 1 7680 1920) (rdNumber b "max_height" 1 7680 1080)
      | _, _ => none

/-!
## Messages on the dedicated connection
-/

/-- A call of one of the functions `leo_rd_input_*`. -/
inductive Injection where
  | move (x y : Nat)
  | button (button : UInt8) (down : Bool)
  | scroll (delta : Int)
  | key (key : UInt8) (down : Bool)
  deriving DecidableEq

/-- Two bytes, the first one more significant. -/
def u16be (hi lo : UInt8) : Nat :=
  hi.toNat * 256 + lo.toNat

/-- `_handle_input_message`; a message that is too short for its type is
ignored. -/
def handleInputMessage (s : RdSession) (data : List UInt8) : List Injection :=
  if !s.controlMode || !s.input then []
  else
    match data with
    | 0x10 :: a :: b :: c :: d :: _ => [Injection.move (u16be a b) (u16be c d)]
    | 0x11 :: a :: b :: _ => [Injection.button a (b ≠ 0)]
    | 0x12 :: a :: b :: _ => [Injection.scroll (BitVec.ofNat 16 (u16be a b)).toInt]
    | 0x13 :: a :: b :: _ => [Injection.key a (b ≠ 0)]
    | _ => []

/-- `_handle_control_message`, with `cJSON_ParseWithLength` as a parameter. -/
def handleControlMessage (parse : List UInt8 -> Option Json) (s : RdSession)
    (data : List UInt8) : RdSession :=
  if data.length < 2 then s
  else
    match parse (data.drop 1) with
    | none => s
    | some root =>
        if stringItem root "type" = some (utf8 "stop") then { s with done := true }
        else s

/-- How far `_send_frame` gets. -/
inductive FrameAttempt where
  | grabFails
  | compressFails
  | allocationFails
  | written

/-- `_send_frame`, less the picture. -/
def sendFrame (s : RdSession) : FrameAttempt -> RdSession
  | FrameAttempt.grabFails =>
      let n := s.consecutiveCaptureFailures + 1
      if 20 ≤ n then
        { s with
          consecutiveCaptureFailures := n
          failReason := failText "Échecs de capture d'écran répétés"
          done := true }
      else { s with consecutiveCaptureFailures := n }
  | FrameAttempt.compressFails => { s with consecutiveCaptureFailures := 0 }
  | FrameAttempt.allocationFails => { s with consecutiveCaptureFailures := 0 }
  | FrameAttempt.written =>
      { s with consecutiveCaptureFailures := 0, frameSeq := s.frameSeq + 1 }

/-- The calls of `_rd_lws_callback` that touch the session. -/
inductive RdCallback where
  | connectionError (message : Option String)
  | established (captureOpens inputOpens : Bool)
  | receive (chunk : List UInt8)
  | timer
  | writeable (frame : FrameAttempt)
  | closed

def failConnection (message : Option String) (s : RdSession) : RdSession :=
  { s with
    failReason := failText ("Connexion dédiée échouée : " ++ message.getD "(inconnue)")
    done := true }

/-- `LWS_CALLBACK_CLIENT_ESTABLISHED`. -/
def establish (captureOpens inputOpens : Bool) (s : RdSession) : RdSession :=
  if !captureOpens then
    { s with failReason := failText "Capture d'écran indisponible", done := true }
  else if !s.controlMode then { s with capture := true, established := true }
  else if !inputOpens then
    { s with
      capture := true
      failReason := failText "Injection d'input indisponible"
      done := true }
  else { s with capture := true, input := true, established := true }

/-- `LWS_CALLBACK_CLIENT_RECEIVE`. -/
def receive (parse : List UInt8 -> Option Json) (s : RdSession) (chunk : List UInt8) :
    RdSession × List Injection :=
  if !s.established then (s, [])
  else
    match chunk with
    | [] => (s, [])
    | b :: _ =>
        if b = 0x20 then (handleControlMessage parse s chunk, [])
        else (s, handleInputMessage s chunk)

/-- `_rd_lws_callback`. -/
def rdLwsCallback (parse : List UInt8 -> Option Json) (s : RdSession) :
    RdCallback -> RdSession × List Injection
  | RdCallback.connectionError message => (failConnection message s, [])
  | RdCallback.established captureOpens inputOpens =>
      (establish captureOpens inputOpens s, [])
  | RdCallback.receive chunk => receive parse s chunk
  | RdCallback.timer => (s, [])
  | RdCallback.writeable frame =>
      if s.established && !s.done then (sendFrame s frame, []) else (s, [])
  | RdCallback.closed => ({ s with done := true }, [])

/-- The callbacks of one call of `lws_service`. -/
def runCallbacks (parse : List UInt8 -> Option Json) :
    RdSession -> List RdCallback -> RdSession × List Injection
  | s, [] => (s, [])
  | s, c :: cs =>
      let (s', injected) := rdLwsCallback parse s c
      let (s'', more) := runCallbacks parse s' cs
      (s'', injected ++ more)

/-- One turn of the session loop: whether a stop has been asked for, the callbacks
of `lws_service` and whether it fails, and whether the deadline has passed. -/
structure RdTurn where
  shouldStop : Bool
  callbacks : List RdCallback
  serviceFails : Bool
  overdue : Bool

def expire (s : RdSession) : RdSession :=
  { s with
    failReason := failText "Durée maximale de session atteinte (14400s)"
    done := true }

/-- The loop of `_rd_session_thread`, with the injections it makes. -/
def sessionLoop (parse : List UInt8 -> Option Json) :
    RdSession -> List RdTurn -> RdSession × List Injection
  | s, [] => (s, [])
  | s, t :: turns =>
      if s.done || t.shouldStop then (s, [])
      else
        let (s', injected) := runCallbacks parse s t.callbacks
        if t.serviceFails then (s', injected)
        else
          let (s'', more) :=
            sessionLoop parse (if t.overdue then expire s' else s') turns
          (s'', injected ++ more)

end Agent
end LeoOne
