import LeoOne.Foundation.Pool
import LeoOne.Websocket.Hub
import LeoOne.RemoteDesktop.Relay

/-!
# The server

The goroutines of the server over its three stores: the database, the Hub and
the relay.  A goroutine is the list of the atomic steps it still has to take:
one database statement, one section under the lock of the Hub or of the relay,
one operation on a connection.  What a step is followed by may depend on its
result, so the step itself yields its continuation.

The steps are grouped by the store they touch.  A statement changes only the
database, a Hub call only the Hub, and so on, which gives the frame conditions
of the whole development.
-/

namespace LeoOne
namespace Backend

open Foundation
open Wire
open Websocket
open RemoteDesktop

/-!
## Messages from the agents
-/

/-- `patchItemBody`. -/
structure PatchItemBody where
  id : String
  title : String
  severity : String
  sizeBytes : UInt64

/-- What `ReadMessage` returned, after the decoding of the envelope and of its
body; `none` and `false` are bodies that do not decode.  Metrics and inventories
go to tables of their own, and the status of a remote-desktop session is only
logged. -/
inductive Incoming where
  | malformed
  | hello (id : String) (decoded : Bool)
  | heartbeat
  | metrics
  | inventory
  | cmdResult (body : Option CmdResultBody)
  | patchInventory (body : Option (List PatchItemBody))
  | fileTransferProgress (body : Option FileTransferProgressBody)
  | remoteDesktopStatus
  | pong
  | unknown (type : Int)

/-- `normalizePatchSeverity`. -/
def normalizePatchSeverity (s : String) : PatchSeverity :=
  if s = "optional" then PatchSeverity.optional
  else if s = "critical" then PatchSeverity.critical
  else PatchSeverity.important

/-- The reports that `handlePatchInventory` stores. -/
def patchReports (items : List PatchItemBody) : List PatchReport :=
  (items.filter fun p => p.id ≠ "").map fun p =>
    { nativeId := p.id
      title := p.title
      severity := normalizePatchSeverity p.severity
      sizeBytes := p.sizeBytes }

/-- The folding of `encoding/json` for the names of struct fields. -/
def foldChar (c : Char) : Char :=
  if c.toNat = 383 then 's' else if c.toNat = 8490 then 'k' else c.toLower

/-- `json.Unmarshal` of the payload of an `install_patches` command into
`struct { PatchIDs []string }`; `none` is an error. -/
def patchIds : Json -> Option (List String)
  | Json.null => some []
  | Json.obj fields =>
      fields.foldl
        (fun acc f =>
          if f.1.toList.map foldChar = "patch_ids".toList then
            acc.bind fun _ => f.2.asStrings?
          else acc)
        (some [])
  | _ => none

/-!
## Messages to the agents
-/

/-- The HELLO_ACK of `handleHello`. -/
def helloAck (id : String) (ts : Nat) : Envelope where
  type := MsgType.helloAck
  id := id
  ts := ts
  body :=
    { text := utf8
        "\x7b\"heartbeat_interval_sec\":10800,\"metrics_interval_sec\":300\x7d"
      value := Json.obj
        [("heartbeat_interval_sec", Json.num (Decimal.ofNat 10800)),
          ("metrics_interval_sec", Json.num (Decimal.ofNat 300))] }

/-- The message of a command, on creation and on redelivery. -/
def commandMessage (id : Uuid) (type : CommandType) (payload : RawMessage)
    (ts : Nat) : Envelope where
  type := type.wsType
  id := id.text
  ts := ts
  body := payload

def modeText : SessionMode -> String
  | SessionMode.view => "view"
  | SessionMode.control => "control"

/-- The REMOTE_DESKTOP_START of `createSession`. -/
def startMessage (wsEndpoint : String) (id : Uuid) (mode : SessionMode)
    (agentToken : String) (ts : Nat) : Envelope where
  type := MsgType.remoteDesktopStart
  id := id.text
  ts := ts
  body :=
    { text := utf8 "\x7b\"fps\":8,\"max_height\":1080,\"max_width\":1920,\"mode\":" ++
        quote (modeText mode) ++ utf8 ",\"quality\":60,\"session_id\":" ++
        quote id.text ++ utf8 ",\"ws_url\":" ++
        quote (wsEndpoint ++ "?token=" ++ agentToken) ++ utf8 "\x7d"
      value := Json.obj
        [("fps", Json.num (Decimal.ofNat 8)),
          ("max_height", Json.num (Decimal.ofNat 1080)),
          ("max_width", Json.num (Decimal.ofNat 1920)),
          ("mode", Json.str (modeText mode)),
          ("quality", Json.num (Decimal.ofNat 60)),
          ("session_id", Json.str id.text),
          ("ws_url", Json.str (wsEndpoint ++ "?token=" ++ agentToken))] }

/-- The REMOTE_DESKTOP_STOP of `StopSession`. -/
def stopMessage (id : Uuid) (ts : Nat) : Envelope where
  type := MsgType.remoteDesktopStop
  id := id.text
  ts := ts
  body :=
    { text := utf8 "\x7b\"session_id\":" ++ quote id.text ++ utf8 "\x7d"
      value := Json.obj [("session_id", Json.str id.text)] }

/-- The FORCE_HEARTBEAT of `WakeUp`. -/
def wakeUpMessage (id : Uuid) (ts : Nat) : Envelope where
  type := MsgType.forceHeartbeat
  id := id.text
  ts := ts
  body := { text := utf8 "\x7b\x7d", value := Json.obj [] }

/-!
## Instructions
-/

/-- The arguments of `CreateAndDispatchCommand`. -/
structure CommandOrder where
  tenantId : String
  agentId : String
  createdBy : Option String
  scheduleId : Option String
  type : CommandType
  payload : RawMessage

/-- The arguments of `createSession`. -/
structure SessionOrder where
  tenantId : String
  agentId : String
  userId : Option String
  mode : SessionMode

/-- Who calls `Client.Send`; it decides what follows the call. -/
inductive Caller where
  | helloAck
  | redelivery (id : Uuid)
  | command (id : Uuid)
  | startSession (id : Uuid)
  | stopSession (id : Uuid)
  | wakeUp
  deriving DecidableEq

/-- The command that the caller marks as sent, whatever `Send` returned. -/
def Caller.marks : Caller -> Option Uuid
  | Caller.redelivery id => some id
  | Caller.command id => some id
  | _ => none

/-- One database statement. -/
inductive Statement where
  | checkNotRevoked (cert : Certificate) (agentId tenantId : String)
  | checkDesktopCert (cert : Certificate) (agentId token : String)
  | consumeToken (side : Side) (token : String) (agentId : Option String)
  | setOnline (agentId : String) (c : ClientId)
  | setOffline (agentId : String) (c : ClientId)
  | selectPending (agentId : String) (c : ClientId)
  | markSent (id : Uuid)
  | recordResult (agentId tenantId : String) (body : CmdResultBody)
  | markInstallResult (agentId tenantId : String) (nativeIds : List String)
      (success : Bool)
  | recordProgress (agentId tenantId : String) (body : FileTransferProgressBody)
  | upsertPatches (agentId tenantId : String) (reports : List PatchReport)
  | insertCommand (order : CommandOrder)
  | findForRevoke (agentId tenantId : String)
  | revokeCertificates (agent : Uuid) (agentId : String)
  | deleteAgent (agentId tenantId : String)
  | createAgent (tenant : Uuid)
  | insertCertificate (agent tenant : Uuid)
  | findForSession (order : SessionOrder)
  | activeForAgent (order : SessionOrder)
  | createSession (order : SessionOrder)
  | findForStop (agentId tenantId sessionId : String)
  | findForWakeUp (agentId tenantId : String)
  | markEnded (id : Uuid) (reason : String)

/-- One section under the lock of the Hub. -/
inductive HubCall where
  | register (agentId tenantId : String)
  | unregister (c : ClientId)
  | disconnect (agent : Uuid) (agentId : String)
  | lookup (agentId : String) (msg : Envelope) (caller : Caller)
  | isConnectedCommand (id : Uuid) (order : CommandOrder)
  | isConnectedSession (order : SessionOrder)
  | isConnectedWakeUp (agentId : String) (id : Uuid)

/-- One operation on a connection. -/
inductive ConnCall where
  | upgrade (agentId tenantId : String)
  | upgradeDesktop (side : Side) (row : SessionRow)
  | readPump (c : ClientId)
  | writePump (c : ClientId)
  | send (c : ClientId) (msg : Envelope) (caller : Caller)

/-- One section under the lock of the relay. -/
inductive RelayCall where
  | register (row : SessionRow) (agentId : String)
  | attach (side : Side) (row : SessionRow)
  | waitPairTimeout (ref : SessionRef)
  | pump (ref : SessionRef)
  | finish (ref : SessionRef) (reason : String) (origin : Option ClientId)
  | endSessionsForAgent (agentId : String) (origin : ClientId)
  | endSession (id : Uuid) (reason : String) (orMark : Bool)
  | expireTombstone (id : Uuid)

/-- A successful answer to the caller of the API. -/
inductive Reply where
  | revoked (agent : Uuid)
  | deleted (agentId : String)

inductive Instr where
  | sql (st : Statement)
  | hub (call : HubCall)
  | conn (call : ConnCall)
  | relay (call : RelayCall)
  | reply (r : Reply)

/-- What the environment decides about one step: the clock, whether a statement
or a network operation fails, the identifiers and tokens that are generated,
what `ReadMessage` returns (`none` is an error), and which case the `select` of
`WritePump` takes. -/
structure Input where
  now : Nat := 0
  fails : Bool := false
  id : Option Uuid := none
  serial : Nat := 0
  viewerToken : String := ""
  agentToken : String := ""
  message : Option Incoming := none
  choice : PumpChoice := PumpChoice.message

/-!
## Handlers
-/

/-- `Dispatcher.MarkOffline`, called for the connection `origin`. -/
def markOffline (agentId : String) (origin : ClientId) : List Instr :=
  [Instr.sql (Statement.setOffline agentId origin),
    Instr.relay (RelayCall.endSessionsForAgent agentId origin)]

/-- What the caller of `Send` or `SendToAgent` does with its result. -/
def afterSend (caller : Caller) (sent : Bool) : List Instr :=
  match caller with
  | Caller.helloAck => []
  | Caller.redelivery id => [Instr.sql (Statement.markSent id)]
  | Caller.command id => [Instr.sql (Statement.markSent id)]
  | Caller.startSession id =>
      if sent then []
      else [Instr.relay (RelayCall.endSession id "agent_offline" false)]
  | Caller.stopSession id =>
      [Instr.relay (RelayCall.endSession id "stopped_by_operator" true)]
  | Caller.wakeUp => []

/-- `Dispatcher.handleHello`. -/
def handleHello (c : ClientId) (agentId id : String) (decoded : Bool)
    (now : Nat) : List Instr :=
  if decoded then
    [Instr.sql (Statement.setOnline agentId c),
      Instr.conn (ConnCall.send c (helloAck id now) Caller.helloAck),
      Instr.sql (Statement.selectPending agentId c)]
  else []

/-- The loop of `redeliverPendingCommands`. -/
def redeliverPendingCommands (c : ClientId) (rows : List CommandRow) (now : Nat) :
    List Instr :=
  rows.map fun r =>
    Instr.conn (ConnCall.send c (commandMessage r.id r.type r.payload now)
      (Caller.redelivery r.id))

/-- `Dispatcher.handleCmdResult`, up to its first statement. -/
def handleCmdResult (agentId tenantId : String) :
    Option CmdResultBody -> List Instr
  | none => []
  | some body =>
      if body.commandId = "" then []
      else [Instr.sql (Statement.recordResult agentId tenantId body)]

/-- `Dispatcher.handleFileTransferProgress`. -/
def handleFileTransferProgress (agentId tenantId : String) :
    Option FileTransferProgressBody -> List Instr
  | none => []
  | some body =>
      if body.commandId = "" then []
      else [Instr.sql (Statement.recordProgress agentId tenantId body)]

/-- `Dispatcher.handlePatchInventory`. -/
def handlePatchInventory (agentId tenantId : String) :
    Option (List PatchItemBody) -> List Instr
  | none => []
  | some items =>
      [Instr.sql (Statement.upsertPatches agentId tenantId (patchReports items))]

/-- `Dispatcher.Dispatch`. -/
def dispatch (c : ClientId) (agentId tenantId : String) (now : Nat) :
    Incoming -> List Instr
  | Incoming.hello id decoded => handleHello c agentId id decoded now
  | Incoming.heartbeat => [Instr.sql (Statement.setOnline agentId c)]
  | Incoming.cmdResult body => handleCmdResult agentId tenantId body
  | Incoming.patchInventory body => handlePatchInventory agentId tenantId body
  | Incoming.fileTransferProgress body =>
      handleFileTransferProgress agentId tenantId body
  | Incoming.malformed => []
  | Incoming.metrics => []
  | Incoming.inventory => []
  | Incoming.remoteDesktopStatus => []
  | Incoming.pong => []
  | Incoming.unknown _ => []

theorem mem_markOffline {agentId : String} {origin : ClientId} {k : Instr}
    (h : k ∈ markOffline agentId origin) :
    k = Instr.sql (Statement.setOffline agentId origin) ∨
      k = Instr.relay (RelayCall.endSessionsForAgent agentId origin) := by
  simpa [markOffline] using h

theorem mem_afterSend {caller : Caller} {sent : Bool} {k : Instr}
    (h : k ∈ afterSend caller sent) :
    (exists id, caller.marks = some id ∧ k = Instr.sql (Statement.markSent id)) ∨
    (exists id reason orMark,
      k = Instr.relay (RelayCall.endSession id reason orMark)) := by
  cases caller with
  | helloAck =>
      cases h
  | redelivery id =>
      exact Or.inl ⟨id, rfl, by simpa [afterSend] using h⟩
  | command id =>
      exact Or.inl ⟨id, rfl, by simpa [afterSend] using h⟩
  | startSession id =>
      cases sent with
      | false =>
          exact Or.inr ⟨_, _, _, by simpa [afterSend] using h⟩
      | true =>
          cases h
  | stopSession id =>
      exact Or.inr ⟨_, _, _, by simpa [afterSend] using h⟩
  | wakeUp =>
      cases h

/-- What the handling of a message consists of. -/
inductive Handles (c : ClientId) (agentId tenantId : String) (now : Nat) :
    Incoming -> Instr -> Prop where
  | helloOnline {id : String} :
      Handles c agentId tenantId now (Incoming.hello id true)
        (Instr.sql (Statement.setOnline agentId c))
  | helloAck {id : String} :
      Handles c agentId tenantId now (Incoming.hello id true)
        (Instr.conn (ConnCall.send c (helloAck id now) Caller.helloAck))
  | helloPending {id : String} :
      Handles c agentId tenantId now (Incoming.hello id true)
        (Instr.sql (Statement.selectPending agentId c))
  | heartbeat :
      Handles c agentId tenantId now Incoming.heartbeat
        (Instr.sql (Statement.setOnline agentId c))
  | cmdResult {body : CmdResultBody} :
      Handles c agentId tenantId now (Incoming.cmdResult (some body))
        (Instr.sql (Statement.recordResult agentId tenantId body))
  | patchInventory {items : List PatchItemBody} :
      Handles c agentId tenantId now (Incoming.patchInventory (some items))
        (Instr.sql
          (Statement.upsertPatches agentId tenantId (patchReports items)))
  | progress {body : FileTransferProgressBody} :
      Handles c agentId tenantId now (Incoming.fileTransferProgress (some body))
        (Instr.sql (Statement.recordProgress agentId tenantId body))

theorem handles_of_mem_dispatch {c : ClientId} {agentId tenantId : String}
    {now : Nat} {msg : Incoming} {k : Instr}
    (h : k ∈ dispatch c agentId tenantId now msg) :
    Handles c agentId tenantId now msg k := by
  cases msg with
  | hello id decoded =>
      cases decoded with
      | false =>
          cases h
      | true =>
          simp only [dispatch, handleHello, if_true, List.mem_cons,
            List.not_mem_nil, or_false] at h
          rcases h with rfl | rfl | rfl
          · exact Handles.helloOnline
          · exact Handles.helloAck
          · exact Handles.helloPending
  | heartbeat =>
      simp only [dispatch, List.mem_singleton] at h
      subst h
      exact Handles.heartbeat
  | cmdResult body =>
      cases body with
      | none =>
          cases h
      | some b =>
          simp only [dispatch, handleCmdResult] at h
          split at h
          · cases h
          · rw [List.mem_singleton] at h
            subst h
            exact Handles.cmdResult
  | patchInventory body =>
      cases body with
      | none =>
          cases h
      | some items =>
          simp only [dispatch, handlePatchInventory, List.mem_singleton] at h
          subst h
          exact Handles.patchInventory
  | fileTransferProgress body =>
      cases body with
      | none =>
          cases h
      | some b =>
          simp only [dispatch, handleFileTransferProgress] at h
          split at h
          · cases h
          · rw [List.mem_singleton] at h
            subst h
            exact Handles.progress
  | _ =>
      cases h

/-- The statement that follows the `UPDATE commands` of `handleCmdResult`. -/
def afterResult (agentId tenantId : String) (body : CmdResultBody)
    (row : CommandRow) : List Instr :=
  if row.type = CommandType.installPatches then
    match patchIds row.payload.value with
    | none => []
    | some ids =>
        [Instr.sql
          (Statement.markInstallResult agentId tenantId ids (body.exitCode = 0))]
  else []

/-- `parseCert`. -/
def parseCert (cert : Certificate) : Option (String × String) :=
  if cert.commonName = "" then none
  else
    match cert.organizationalUnit with
    | [] => none
    | tenantId :: _ => some (cert.commonName, tenantId)

/-- `pki.IssueAgentCert`. -/
def issueAgentCert (agent tenant : Uuid) (serial : Nat) : Certificate where
  commonName := agent.text
  organizationalUnit := [tenant.text]
  serialNumber := serial

/-- The requests that start a goroutine.  `createCommand` is a call of
`CreateAndDispatchCommand`, whose callers have looked the agent up before;
`enroll` is a request whose enrolment token has been accepted. -/
inductive Request where
  | connect (cert : Certificate)
  | attachAgent (cert : Certificate) (token : String)
  | attachViewer (token : String)
  | enroll (tenant : Uuid)
  | createCommand (tenantId agentId : String)
      (createdBy scheduleId : Option String) (type : CommandType)
      (payload : Option RawMessage)
  | revokeCertificate (agentId tenantId : String)
  | delete (agentId tenantId : String)
  | createSession (order : SessionOrder)
  | stopSession (agentId tenantId sessionId : String)
  | wakeUp (agentId tenantId : String)

/-- The first step of the handler of a request. -/
def entry : Request -> List Instr
  | Request.connect cert =>
      match parseCert cert with
      | none => []
      | some (agentId, tenantId) =>
          [Instr.sql (Statement.checkNotRevoked cert agentId tenantId)]
  | Request.attachAgent cert token =>
      match parseCert cert with
      | none => []
      | some (agentId, _) =>
          if token = "" then []
          else [Instr.sql (Statement.checkDesktopCert cert agentId token)]
  | Request.attachViewer token =>
      if token = "" then []
      else [Instr.sql (Statement.consumeToken Side.viewer token none)]
  | Request.enroll tenant => [Instr.sql (Statement.createAgent tenant)]
  | Request.createCommand tenantId agentId createdBy scheduleId type payload =>
      [Instr.sql
        (Statement.insertCommand
          { tenantId := tenantId
            agentId := agentId
            createdBy := createdBy
            scheduleId := scheduleId
            type := type
            payload :=
              payload.getD { text := utf8 "\x7b\x7d", value := Json.obj [] } })]
  | Request.revokeCertificate agentId tenantId =>
      [Instr.sql (Statement.findForRevoke agentId tenantId)]
  | Request.delete agentId tenantId =>
      [Instr.sql (Statement.deleteAgent agentId tenantId)]
  | Request.createSession order => [Instr.sql (Statement.findForSession order)]
  | Request.stopSession agentId tenantId sessionId =>
      [Instr.sql (Statement.findForStop agentId tenantId sessionId)]
  | Request.wakeUp agentId tenantId =>
      [Instr.sql (Statement.findForWakeUp agentId tenantId)]

end Backend
end LeoOne
