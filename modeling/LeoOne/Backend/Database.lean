import Mathlib.Data.List.Sort
import LeoOne.Foundation.Table
import LeoOne.Foundation.Uuid
import LeoOne.Wire.Envelope

/-!
# The database

The tables behind the control channel, with the statements that the handlers
run on them.  Each statement is atomic.  A parameter that is compared with a
`uuid` column is a text, since this is what the handlers pass: a text that
denotes no UUID makes the statement fail, and for the statements here that has
the effect of selecting no row.

The `tenants` and `users` tables are not modelled; columns that no statement of
this development reads or compares are left out.
-/

namespace LeoOne
namespace Backend

open Foundation
open Wire

/-- `agent_status`. -/
inductive AgentStatus where
  | online
  | offline
  | maintenance
  | unresponsive
  deriving DecidableEq, Repr

/-- `command_status`. -/
inductive CommandStatus where
  | pending
  | running
  | success
  | failed
  | timeout
  deriving DecidableEq, Repr

/-- `command_type`, after all migrations. -/
inductive CommandType where
  | execScript
  | installPkg
  | reboot
  | collectInventory
  | ping
  | installPatches
  | fileTransfer
  deriving DecidableEq, Repr

/-- `commandWSType` and `pendingCommandWSType`, which have the same entries. -/
def CommandType.wsType : CommandType -> MsgType
  | execScript => MsgType.execScript
  | installPkg => MsgType.installPkg
  | reboot => MsgType.reboot
  | collectInventory => MsgType.collectInventory
  | ping => MsgType.ping
  | installPatches => MsgType.installPatches
  | fileTransfer => MsgType.fileTransfer

/-- `patch_severity`. -/
inductive PatchSeverity where
  | optional
  | important
  | critical
  deriving DecidableEq, Repr

/-- `patch_status`. -/
inductive PatchStatus where
  | available
  | installed
  | ignored
  | failed
  deriving DecidableEq, Repr

/-- `remote_desktop_mode`. -/
inductive SessionMode where
  | view
  | control
  deriving DecidableEq, Repr

/-- `remote_desktop_status`. -/
inductive SessionStatus where
  | pending
  | active
  | ended
  deriving DecidableEq, Repr

/-- The two ends of a remote-desktop session. -/
inductive Side where
  | agent
  | viewer
  deriving DecidableEq, Repr

structure AgentRow where
  id : Uuid
  tenantId : Uuid
  status : AgentStatus
  lastSeenAt : Option Nat
  updatedAt : Nat
  deriving DecidableEq

/-- The fields of a client certificate that the server looks at. -/
structure Certificate where
  commonName : String
  organizationalUnit : List String
  serialNumber : Nat
  deriving DecidableEq

/-- A row of `agent_certificates`.  The thumbprint is a SHA-256 digest of the
certificate; the certificate itself stands for it. -/
structure CertificateRow where
  agentId : Uuid
  thumbprint : Certificate
  revokedAt : Option Nat
  revokeReason : Option String
  deriving DecidableEq

structure CommandRow where
  id : Uuid
  tenantId : Uuid
  agentId : Uuid
  createdBy : Option String
  scheduleId : Option String
  type : CommandType
  payload : RawMessage
  status : CommandStatus
  stdout : Option String
  stderr : Option String
  exitCode : Option Int
  sentAt : Option Nat
  completedAt : Option Nat
  createdAt : Nat
  progressPercent : Option Int

structure PatchRow where
  tenantId : Uuid
  agentId : Uuid
  nativeId : String
  title : String
  severity : PatchSeverity
  sizeBytes : Int
  status : PatchStatus
  detectedAt : Nat
  installedAt : Option Nat
  deriving DecidableEq

/-- A row of `remote_desktop_sessions`.  The raw tokens stand for their SHA-256
digests. -/
structure SessionRow where
  id : Uuid
  tenantId : Uuid
  agentId : Uuid
  userId : Option String
  mode : SessionMode
  status : SessionStatus
  viewerToken : String
  agentToken : String
  expiresAt : Nat
  agentConnectedAt : Option Nat
  viewerConnectedAt : Option Nat
  endedAt : Option Nat
  endedReason : Option String
  createdAt : Nat
  deriving DecidableEq

def SessionRow.token (r : SessionRow) : Side -> String
  | Side.agent => r.agentToken
  | Side.viewer => r.viewerToken

def SessionRow.connectedAt (r : SessionRow) : Side -> Option Nat
  | Side.agent => r.agentConnectedAt
  | Side.viewer => r.viewerConnectedAt

def Side.other : Side -> Side
  | agent => viewer
  | viewer => agent

structure Database where
  agents : List AgentRow
  certificates : List CertificateRow
  commands : List CommandRow
  patches : List PatchRow
  sessions : List SessionRow

/-- `cmdResultBody`. -/
structure CmdResultBody where
  commandId : String
  exitCode : Int
  stdout : String
  stderr : String

/-- `fileTransferProgressBody`. -/
structure FileTransferProgressBody where
  commandId : String
  status : String
  percent : Int
  bytesReceived : Nat
  bytesTotal : Nat
  error : String

/-- `patchDomain.Report`. -/
structure PatchReport where
  nativeId : String
  title : String
  severity : PatchSeverity
  sizeBytes : UInt64

/-- The range of an `INTEGER` column. -/
def fitsInteger (n : Int) : Bool :=
  -2147483648 ≤ n && n ≤ 2147483647

/-- A `TEXT` column cannot hold the character NUL. -/
def fitsText (s : String) : Bool :=
  !s.toList.contains (Char.ofNat 0)

namespace Database

/-!
## Agents and certificates
-/

/-- `AgentRepo.FindByID`. -/
def findAgent (db : Database) (tenantId agentId : String) : Option AgentRow :=
  db.agents.find? fun r => r.id.named agentId && r.tenantId.named tenantId

/-- `AgentRepo.Create`, as `Enroll` calls it. -/
def createAgent (db : Database) (id tenantId : Uuid) (now : Nat) : Database :=
  { db with
    agents := db.agents ++
      [{ id := id
         tenantId := tenantId
         status := AgentStatus.offline
         lastSeenAt := none
         updatedAt := now }] }

/-- `AgentRepo.UpdateStatus`. -/
def updateStatus (db : Database) (agentId : String) (status : AgentStatus)
    (lastSeen : Option Nat) (now : Nat) : Database :=
  { db with
    agents := Table.updateWhere (fun r => r.id.named agentId)
      (fun r =>
        { r with
          status := status
          lastSeenAt := lastSeen.orElse fun _ => r.lastSeenAt
          updatedAt := now })
      db.agents }

/-- `AgentRepo.Delete`; the foreign keys on `agents` cascade. -/
def deleteAgent (db : Database) (tenantId agentId : String) : Database :=
  let selected : AgentRow -> Bool := fun r =>
    r.id.named agentId && r.tenantId.named tenantId
  let gone : Uuid -> Bool := fun id =>
    db.agents.any fun r => selected r && r.id = id
  { agents := Table.deleteWhere selected db.agents
    certificates := Table.deleteWhere (fun r => gone r.agentId) db.certificates
    commands := Table.deleteWhere (fun r => gone r.agentId) db.commands
    patches := Table.deleteWhere (fun r => gone r.agentId) db.patches
    sessions := Table.deleteWhere (fun r => gone r.agentId) db.sessions }

/-- The `INSERT INTO agent_certificates` of `Enroll`; `none` is a violated
constraint. -/
def insertCertificate (db : Database) (agentId : Uuid) (cert : Certificate) :
    Option Database :=
  if (db.agents.any fun r => r.id = agentId) &&
      !(db.certificates.any fun r =>
        r.thumbprint = cert || r.thumbprint.serialNumber = cert.serialNumber) then
    some
      { db with
        certificates := db.certificates ++
          [{ agentId := agentId
             thumbprint := cert
             revokedAt := none
             revokeReason := none }] }
  else none

/-- The `UPDATE agent_certificates` of `RevokeCertificate`. -/
def revokeCertificates (db : Database) (agentId : String) (now : Nat) :
    Database :=
  { db with
    certificates := Table.updateWhere
      (fun r => r.agentId.named agentId && r.revokedAt.isNone)
      (fun r =>
        { r with
          revokedAt := some now
          revokeReason := some "révoqué manuellement via l'API" })
      db.certificates }

/-- `checkNotRevoked`. -/
def checkNotRevoked (db : Database) (cert : Certificate) : Bool :=
  match db.certificates.find? fun r => r.thumbprint = cert with
  | none => false
  | some r => r.revokedAt.isNone

/-!
## Commands
-/

/-- A command as it is inserted. -/
def newCommand (id tenantId agentId : Uuid) (createdBy scheduleId : Option String)
    (type : CommandType) (payload : RawMessage) (now : Nat) : CommandRow where
  id := id
  tenantId := tenantId
  agentId := agentId
  createdBy := createdBy
  scheduleId := scheduleId
  type := type
  payload := payload
  status := CommandStatus.pending
  stdout := none
  stderr := none
  exitCode := none
  sentAt := none
  completedAt := none
  createdAt := now
  progressPercent := none

/-- The `INSERT INTO commands` of `CreateAndDispatchCommand`; `none` is a
violated constraint. -/
def insertCommand (db : Database) (id : Uuid) (tenantId agentId : String)
    (createdBy scheduleId : Option String) (type : CommandType)
    (payload : RawMessage) (now : Nat) : Option Database :=
  match db.agents.find? fun r => r.id.named agentId, Uuid.parse tenantId with
  | some agent, some tenant =>
      if db.commands.any fun r => r.id = id then none
      else
        some
          { db with
            commands := db.commands ++
              [newCommand id tenant agent.id createdBy scheduleId type payload now] }
  | _, _ => none

/-- The `WHERE` clause of `redeliverPendingCommands`. -/
def isPending (agentId : String) (r : CommandRow) : Bool :=
  r.agentId.named agentId && r.status = CommandStatus.pending && r.sentAt.isNone

/-- The `SELECT` of `redeliverPendingCommands`. -/
def pendingCommands (db : Database) (agentId : String) : List CommandRow :=
  (db.commands.filter (isPending agentId)).insertionSort
    fun r r' => r.createdAt ≤ r'.createdAt

/-- `UPDATE commands SET sent_at = NOW() WHERE id = $1`. -/
def markSent (db : Database) (id : Uuid) (now : Nat) : Database :=
  { db with
    commands := Table.updateWhere (fun r => r.id = id)
      (fun r => { r with sentAt := some now }) db.commands }

/-- The row a message names: `WHERE id = $5 AND tenant_id = $6`. -/
def isNamed (commandId tenantId : String) (r : CommandRow) : Bool :=
  r.id.named commandId && r.tenantId.named tenantId

/-- The `SET` clause of `handleCmdResult`. -/
def withResult (body : CmdResultBody) (now : Nat) (r : CommandRow) : CommandRow :=
  { r with
    status :=
      if body.exitCode = 0 then CommandStatus.success else CommandStatus.failed
    exitCode := some body.exitCode
    stdout := some body.stdout
    stderr := some body.stderr
    completedAt := some now }

/-- The `UPDATE commands` of `handleCmdResult`, with the row it returns; `none`
is an error of the statement or an empty result. -/
def recordResult (db : Database) (tenantId : String) (body : CmdResultBody)
    (now : Nat) : Option (Database × CommandRow) :=
  if fitsInteger body.exitCode && fitsText body.stdout && fitsText body.stderr then
    match db.commands.find? (isNamed body.commandId tenantId) with
    | none => none
    | some row =>
        some
          ({ db with
              commands := Table.updateWhere (isNamed body.commandId tenantId)
                (withResult body now) db.commands },
            row)
  else none

/-- The `UPDATE commands` of `handleFileTransferProgress`. -/
def recordProgress (db : Database) (tenantId : String)
    (body : FileTransferProgressBody) : Database :=
  if fitsInteger body.percent then
    { db with
      commands := Table.updateWhere (isNamed body.commandId tenantId)
        (fun r => { r with progressPercent := some body.percent }) db.commands }
  else db

/-!
## Patches
-/

/-- `PatchRepo.MarkInstallResult`. -/
def markInstallResult (db : Database) (tenantId agentId : String)
    (nativeIds : List String) (success : Bool) (now : Nat) : Database :=
  let selected : PatchRow -> Bool := fun r =>
    r.tenantId.named tenantId && r.agentId.named agentId &&
      nativeIds.contains r.nativeId
  if nativeIds.isEmpty || !nativeIds.all fitsText then db
  else
    { db with
      patches := Table.updateWhere selected
        (fun r =>
          if success then
            { r with status := PatchStatus.installed, installedAt := some now }
          else { r with status := PatchStatus.failed })
        db.patches }

/-- One statement of the batch of `PatchRepo.Upsert`; `none` is an error. -/
def upsertPatch (db : Database) (tenantId agentId : String)
    (rep : PatchReport) (now : Nat) : Option Database :=
  let conflict : PatchRow -> Bool := fun r =>
    r.agentId.named agentId && r.nativeId = rep.nativeId
  if !(fitsText rep.nativeId && fitsText rep.title) then none
  else if db.patches.any conflict then
    some
      { db with
        patches := Table.updateWhere conflict
          (fun r =>
            { r with
              title := rep.title
              severity := rep.severity
              sizeBytes := rep.sizeBytes.toInt64.toInt
              status := PatchStatus.available
              detectedAt := now
              installedAt := none })
          db.patches }
  else
    match db.agents.find? fun r => r.id.named agentId, Uuid.parse tenantId with
    | some agent, some tenant =>
        some
          { db with
            patches := db.patches ++
              [{ tenantId := tenant
                 agentId := agent.id
                 nativeId := rep.nativeId
                 title := rep.title
                 severity := rep.severity
                 sizeBytes := rep.sizeBytes.toInt64.toInt
                 status := PatchStatus.available
                 detectedAt := now
                 installedAt := none }] }
    | _, _ => none

/-- `PatchRepo.Upsert`: the batch is one transaction. -/
def upsertPatches (db : Database) (tenantId agentId : String)
    (reports : List PatchReport) (now : Nat) : Option Database :=
  match reports with
  | [] => some db
  | rep :: rest =>
      match db.upsertPatch tenantId agentId rep now with
      | none => none
      | some db' => db'.upsertPatches tenantId agentId rest now

/-!
## Remote-desktop sessions
-/

/-- `RemoteDesktopRepo.Create`; `none` is a violated constraint. -/
def createSession (db : Database) (id : Uuid) (tenantId agentId : String)
    (userId : Option String) (mode : SessionMode)
    (viewerToken agentToken : String) (ttl now : Nat) :
    Option (Database × SessionRow) :=
  match db.agents.find? fun r => r.id.named agentId, Uuid.parse tenantId with
  | some agent, some tenant =>
      if db.sessions.any fun r => r.id = id || r.viewerToken = viewerToken ||
          r.agentToken = agentToken then none
      else
        let row : SessionRow :=
          { id := id
            tenantId := tenant
            agentId := agent.id
            userId := userId
            mode := mode
            status := SessionStatus.pending
            viewerToken := viewerToken
            agentToken := agentToken
            expiresAt := now + ttl
            agentConnectedAt := none
            viewerConnectedAt := none
            endedAt := none
            endedReason := none
            createdAt := now }
        some ({ db with sessions := db.sessions ++ [row] }, row)
  | _, _ => none

/-- The `WHERE` clause of `consumeToken`. -/
def isConsumable (side : Side) (token : String) (now : Nat) (r : SessionRow) :
    Bool :=
  r.token side = token && (r.connectedAt side).isNone &&
    r.status ≠ SessionStatus.ended && now < r.expiresAt

/-- The `SET` clause of `consumeToken`. -/
def consumed (side : Side) (now : Nat) (r : SessionRow) : SessionRow :=
  let status :=
    if r.status = SessionStatus.pending && (r.connectedAt side.other).isSome then
      SessionStatus.active
    else r.status
  match side with
  | Side.agent => { r with agentConnectedAt := some now, status := status }
  | Side.viewer => { r with viewerConnectedAt := some now, status := status }

/-- `RemoteDesktopRepo.consumeToken`, with the session it returns. -/
def consumeToken (db : Database) (side : Side) (token : String) (now : Nat) :
    Option (Database × SessionRow) :=
  match db.sessions.find? (isConsumable side token now) with
  | none => none
  | some row =>
      some
        ({ db with
            sessions := Table.updateWhere (isConsumable side token now)
              (consumed side now) db.sessions },
          consumed side now row)

/-- `RemoteDesktopRepo.FindByID`. -/
def findSession (db : Database) (tenantId sessionId : String) :
    Option SessionRow :=
  db.sessions.find? fun r => r.id.named sessionId && r.tenantId.named tenantId

/-- `RemoteDesktopRepo.ActiveForAgent`, as far as its callers use it: whether
there is such a session. -/
def activeForAgent (db : Database) (agentId : String) (now : Nat) : Bool :=
  db.sessions.any fun r =>
    r.agentId.named agentId && r.status ≠ SessionStatus.ended &&
      (r.status ≠ SessionStatus.pending || now < r.expiresAt)

/-- `RemoteDesktopRepo.MarkEnded`. -/
def markEnded (db : Database) (id : Uuid) (reason : String) (now : Nat) :
    Database :=
  { db with
    sessions := Table.updateWhere
      (fun r => r.id = id && r.status ≠ SessionStatus.ended)
      (fun r =>
        { r with
          status := SessionStatus.ended
          endedAt := some now
          endedReason := some reason })
      db.sessions }

end Database

end Backend
end LeoOne
