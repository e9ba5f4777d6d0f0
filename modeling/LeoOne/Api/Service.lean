import LeoOne.Foundation.Parts
import LeoOne.Wire.Payload
import LeoOne.Backend.Steps
import LeoOne.Api.Library

/-!
# The handlers that create commands

`CreateCommand`, `BulkCreateCommand`, `Install`, `BulkInstall`, `DeployFile` and
`fireSchedule` look agents up, each with a query of its own, and call
`CreateAndDispatchCommand` for the agents they find.  They run beside the
handlers of the file library and the goroutines of the server, whose instructions
are instructions here; a call of `CreateAndDispatchCommand` is the instruction
`insertCommand` of the server with what follows it there.

Which workspace an agent is in, which schedules are due and what the scripts are
is decided by tables that nothing here writes: a step is given them.  The answer
202 and the results of the single agents of a bulk request are left out.
-/

namespace LeoOne
namespace Api

open Foundation
open Wire
open Backend (Server Instr Statement CommandOrder CommandType PatchSeverity PatchStatus Database)
open Scheduler (DueSchedule ScriptRow)

/-- `commandWSType`, as far as it is asked whether a key is there. -/
def commandType (type : String) : Option CommandType :=
  if type = "exec_script" then some CommandType.execScript
  else if type = "install_pkg" then some CommandType.installPkg
  else if type = "reboot" then some CommandType.reboot
  else if type = "collect_inventory" then some CommandType.collectInventory
  else if type = "ping" then some CommandType.ping
  else if type = "install_patches" then some CommandType.installPatches
  else if type = "file_transfer" then some CommandType.fileTransfer
  else none

/-- `createCommandRequest`. -/
structure CreateCommandRequest where
  type : String
  payload : Option RawMessage

/-- The fields `agent_ids` and `workspace_id` of a bulk request. -/
structure Targets where
  agentIds : List String
  workspaceId : Option String
  deriving DecidableEq

/-- `bulkCreateCommandRequest`. -/
structure BulkCreateCommandRequest extends Targets where
  type : String
  payload : Option RawMessage

/-- `installPatchesRequest`. -/
structure InstallPatchesRequest where
  patchIds : List String
  rebootAfter : Bool
  deriving DecidableEq

/-- `bulkInstallPatchesRequest`. -/
structure BulkInstallPatchesRequest extends Targets where
  minSeverity : String
  rebootAfter : Bool
  deriving DecidableEq

/-- The file that `DeployFile` found, the token it made, and when. -/
structure Deployment where
  file : FileRow
  token : String
  issuedAt : Nat
  deriving DecidableEq

/-- On whose behalf a command is created. -/
inductive Origin where
  | user (caller : Caller)
  | deploy (caller : Caller) (d : Deployment)
  | schedule (d : DueSchedule)
  deriving DecidableEq

/-- The tenant of the requester, or of the schedule. -/
def Origin.tenantId : Origin -> String
  | user caller => caller.tenantId
  | deploy caller _ => caller.tenantId
  | schedule d => d.tenantId.text

/-- What a step meets: what the server's part of it meets, the values that the
library draws, the workspaces of the agents and the script of a schedule. -/
structure Input where
  server : Backend.Input
  uuid : Uuid
  token : String
  bytes : Nat
  status : Nat
  otherBody : List UInt8
  workspaceOf : Uuid -> Option Uuid
  script : Option ScriptRow

def Input.file (x : Input) : FileInput where
  fails := x.server.fails
  now := x.server.now
  uuid := x.uuid
  token := x.token
  bytes := x.bytes
  status := x.status
  otherBody := x.otherBody

/-- The deployment of `DeployFile`, once the token is made. -/
def Input.deployment (x : Input) (f : FileRow) : Deployment where
  file := f
  token := x.token
  issuedAt := x.server.now

/-- The server and the library, with the origin of each command and the refusals. -/
structure Service where
  server : Server
  library : Library
  dispatched : List (Uuid × Origin)
  refusals : List (Nat × String × String)

inductive HandlerStep where
  | createCommand (caller : Caller) (agentId : String) (body : Option CreateCommandRequest)
  | bulkCreateCommand (caller : Caller) (body : Option BulkCreateCommandRequest)
  | install (caller : Caller) (agentId : String) (body : Option InstallPatchesRequest)
  | bulkInstall (caller : Caller) (body : Option BulkInstallPatchesRequest)
  | availableNativeIds (caller : Caller) (agentId : String) (minSeverity : PatchSeverity)
      (rebootAfter : Bool)
  | deployFile (caller : Caller) (agentId : String) (fileId : Option String)
  | findFile (caller : Caller) (agentId fileId : String)
  | createDownloadToken (caller : Caller) (agentId : String) (f : FileRow)
  | loadScript (d : DueSchedule)
  | resolveTargets (d : DueSchedule) (payload : RawMessage)

/-- An instruction of the server, a call of `CreateAndDispatchCommand`, or a step of
a handler. -/
inductive Step where
  | core (k : Instr)
  | insert (origin : Origin) (order : CommandOrder)
  | handler (h : HandlerStep)
  | file (f : FileStep)

/-!
## Payloads
-/

/-- `downloadURL`. -/
def FileConfig.downloadUrl (cfg : FileConfig) (d : Deployment) : String :=
  cfg.publicApiEndpoint ++ "/api/v1/files/" ++ d.file.id.text ++ "/download?token=" ++ d.token

/-- The payload of `DeployFile`. -/
def FileConfig.transferPayload (cfg : FileConfig) (d : Deployment) : RawMessage :=
  RawMessage.ofFields
    [("download_url", RawMessage.ofString (cfg.downloadUrl d)),
     ("filename", RawMessage.ofString d.file.name),
     ("sha256", RawMessage.ofString d.file.checksumSha256),
     ("size_bytes", RawMessage.ofInt d.file.sizeBytes)]

/-- The payload of `Install` and `BulkInstall`. -/
def patchPayload (patchIds : List String) (rebootAfter : Bool) : RawMessage :=
  RawMessage.ofFields
    [("patch_ids", RawMessage.ofStrings patchIds),
     ("reboot_after", RawMessage.ofBool rebootAfter)]

/-- The payload of `fireSchedule`. -/
def scriptPayload (script : ScriptRow) (d : DueSchedule) : RawMessage :=
  RawMessage.ofFields
    [("interpreter", RawMessage.ofString script.interpreter),
     ("script", RawMessage.ofString script.content),
     ("timeout_sec", RawMessage.ofInt d.timeoutSec)]

/-- A call of `CreateAndDispatchCommand` for a user. -/
def orderFor (caller : Caller) (agentId : String) (type : CommandType)
    (payload : Option RawMessage) : CommandOrder where
  tenantId := caller.tenantId
  agentId := agentId
  createdBy := some caller.userId
  scheduleId := none
  type := type
  payload := payload.getD RawMessage.empty

/-- The call of `fireSchedule`. -/
def orderOf (d : DueSchedule) (payload : RawMessage) (agentId : Uuid) : CommandOrder where
  tenantId := d.tenantId.text
  agentId := agentId.text
  createdBy := none
  scheduleId := some d.id.text
  type := CommandType.execScript
  payload := payload

/-!
## Queries
-/

/-- `AgentRepo.FindByID`; `none` is an error. -/
def findAgent (x : Input) (db : Database) (tenantId agentId : String) : Option Bool :=
  if x.server.fails || (Uuid.parse tenantId).isNone || (Uuid.parse agentId).isNone then none
  else some (db.findAgent tenantId agentId).isSome

/-- The agents, with the workspaces that they are in. -/
def targetRows (x : Input) (db : Database) : List Scheduler.TargetRow :=
  db.agents.map fun a => { id := a.id, tenantId := a.tenantId, workspaceId := x.workspaceOf a.id }

/-- `hasAgentIDs`. -/
def Targets.hasAgentIds (t : Targets) : Bool :=
  0 < t.agentIds.length

/-- `hasWorkspace`. -/
def Targets.hasWorkspace (t : Targets) : Bool :=
  Scheduler.given t.workspaceId

/-- The queries of the bulk handlers; `none` is an error. -/
def Targets.select (t : Targets) (x : Input) (db : Database) (tenantId : String) :
    Option (List Uuid) :=
  if x.server.fails then none
  else if t.hasAgentIds then
    match Uuid.parse tenantId, t.agentIds.mapM Uuid.parse with
    | some tenant, some ids =>
        some (((targetRows x db).filter fun a => a.tenantId = tenant && a.id ∈ ids).map
          Scheduler.TargetRow.id)
    | _, _ => none
  else
    match Uuid.parse tenantId, t.workspaceId.bind Uuid.parse with
    | some tenant, some workspace =>
        some (((targetRows x db).filter fun a =>
          a.tenantId = tenant && a.workspaceId = some workspace).map Scheduler.TargetRow.id)
    | _, _ => none

/-- `patch_severity` is ordered as it is declared. -/
def severityRank : PatchSeverity -> Nat
  | PatchSeverity.optional => 0
  | PatchSeverity.important => 1
  | PatchSeverity.critical => 2

/-- The `switch` of `BulkInstall`. -/
def minSeverity (text : String) : Option PatchSeverity :=
  if text = "" || text = "optional" then some PatchSeverity.optional
  else if text = "important" then some PatchSeverity.important
  else if text = "critical" then some PatchSeverity.critical
  else none

/-- `PatchRepo.AvailableNativeIDs`. -/
def availableNativeIds (db : Database) (tenantId agentId : String) (min : PatchSeverity) :
    List String :=
  ((db.patches.filter fun r =>
    r.tenantId.named tenantId && r.agentId.named agentId && r.status = PatchStatus.available &&
      severityRank min ≤ severityRank r.severity).map Backend.PatchRow.nativeId).insertionSort
    fun a b => a ≤ b

namespace Service

def reject (s : Service) (status : Nat) (code message : String) : Service × List Step :=
  ({ s with refusals := (status, code, message) :: s.refusals }, [])

end Service

/-!
## Handlers
-/

namespace HandlerStep

/-- One step: what it leaves, and the steps that follow it. -/
def exec (cfg : FileConfig) (x : Input) (s : Service) : HandlerStep -> Service × List Step
  | createCommand caller agentId body =>
      match findAgent x s.server.db caller.tenantId agentId with
      | none => s.reject 500 "INTERNAL_ERROR" "erreur de base de données"
      | some false => s.reject 404 "NOT_FOUND" "agent introuvable"
      | some true =>
          match body with
          | none => s.reject 400 "VALIDATION_ERROR" "corps de requête invalide"
          | some req =>
              match commandType req.type with
              | none =>
                  s.reject 400 "VALIDATION_ERROR" ("type de commande inconnu : " ++ req.type)
              | some type =>
                  (s, [Step.insert (Origin.user caller)
                    (orderFor caller agentId type req.payload)])
  | bulkCreateCommand _ none =>
      s.reject 400 "VALIDATION_ERROR" "corps de requête invalide"
  | bulkCreateCommand caller (some req) =>
      match commandType req.type with
      | none => s.reject 400 "VALIDATION_ERROR" ("type de commande inconnu : " ++ req.type)
      | some type =>
          if req.hasAgentIds = req.hasWorkspace then
            s.reject 400 "VALIDATION_ERROR"
              "préciser soit agent_ids, soit workspace_id (l'un des deux, pas les deux)"
          else
            match req.select x s.server.db caller.tenantId with
            | none => s.reject 500 "INTERNAL_ERROR" "erreur de base de données"
            | some [] => s.reject 400 "VALIDATION_ERROR" "aucun agent cible trouvé"
            | some ids =>
                (s, ids.map fun id => Step.insert (Origin.user caller)
                  (orderFor caller id.text type req.payload))
  | install caller agentId body =>
      match findAgent x s.server.db caller.tenantId agentId with
      | none => s.reject 500 "INTERNAL_ERROR" "erreur de base de données"
      | some false => s.reject 404 "NOT_FOUND" "agent introuvable"
      | some true =>
          match body with
          | none => s.reject 400 "VALIDATION_ERROR" "corps de requête invalide"
          | some req =>
              if req.patchIds = [] then s.reject 400 "VALIDATION_ERROR" "patch_ids est requis"
              else
                (s, [Step.insert (Origin.user caller)
                  (orderFor caller agentId CommandType.installPatches
                    (some (patchPayload req.patchIds req.rebootAfter)))])
  | bulkInstall _ none => s.reject 400 "VALIDATION_ERROR" "corps de requête invalide"
  | bulkInstall caller (some req) =>
      match Api.minSeverity req.minSeverity with
      | none => s.reject 400 "VALIDATION_ERROR" ("min_severity invalide : " ++ req.minSeverity)
      | some min =>
          if req.hasAgentIds = req.hasWorkspace then
            s.reject 400 "VALIDATION_ERROR"
              "préciser soit agent_ids, soit workspace_id (l'un des deux, pas les deux)"
          else
            match req.select x s.server.db caller.tenantId with
            | none => s.reject 500 "INTERNAL_ERROR" "erreur de base de données"
            | some [] => s.reject 400 "VALIDATION_ERROR" "aucun agent cible trouvé"
            | some ids =>
                (s, ids.map fun id =>
                  Step.handler (availableNativeIds caller id.text min req.rebootAfter))
  | availableNativeIds caller agentId min rebootAfter =>
      -- an agent without patches, or an error, leaves the other agents alone
      match if x.server.fails then []
          else Api.availableNativeIds s.server.db caller.tenantId agentId min with
      | [] => (s, [])
      | ids =>
          (s, [Step.insert (Origin.user caller)
            (orderFor caller agentId CommandType.installPatches
              (some (patchPayload ids rebootAfter)))])
  | deployFile caller agentId fileId =>
      match findAgent x s.server.db caller.tenantId agentId with
      | none => s.reject 500 "INTERNAL_ERROR" "erreur de base de données"
      -- the error `ErrNoRows` of the lookup is not told apart here
      | some false => s.reject 500 "INTERNAL_ERROR" "erreur de base de données"
      | some true =>
          if Scheduler.given fileId then
            (s, [Step.handler (findFile caller agentId (fileId.getD ""))])
          else s.reject 400 "VALIDATION_ERROR" "file_id est requis"
  | findFile caller agentId fileId =>
      match if x.server.fails then none else s.library.findById caller.tenantId fileId with
      | none => s.reject 500 "INTERNAL_ERROR" "erreur de base de données"
      | some none => s.reject 404 "NOT_FOUND" "fichier introuvable"
      | some (some f) => (s, [Step.handler (createDownloadToken caller agentId f)])
  | createDownloadToken caller agentId f =>
      match if x.server.fails then none
          else s.library.createDownloadToken f.id x.token cfg.downloadTtl x.server.now with
      | none =>
          s.reject 500 "INTERNAL_ERROR"
            "erreur lors de la génération du lien de téléchargement"
      | some library =>
          let d := x.deployment f
          ({ s with library := library },
            [Step.insert (Origin.deploy caller d)
              (orderFor caller agentId CommandType.fileTransfer (some (cfg.transferPayload d)))])
  | loadScript d =>
      match if x.server.fails then none else x.script with
      | none => (s, [])
      | some script => (s, [Step.handler (resolveTargets d (scriptPayload script d))])
  | resolveTargets d payload =>
      if x.server.fails then (s, [])
      else
        let tables : Scheduler.Tables :=
          { scripts := []
            agents := targetRows x s.server.db
            workspaces := []
            schedules := []
            commands := [] }
        (s, (tables.resolveTargets d).map fun id =>
          Step.insert (Origin.schedule d) (orderOf d payload id))

/-- The step draws a download token. -/
def drawsToken : HandlerStep -> Bool
  | createDownloadToken _ _ _ => true
  | _ => false

end HandlerStep

/-!
## The machine
-/

namespace Service

/-- The server after an instruction. -/
def withServer (s : Service) (server : Server) : Service :=
  { s with server := server }

/-- The server after a call of `CreateAndDispatchCommand`, with the command that it
has made, if any. -/
def dispatch (s : Service) (x : Input) (origin : Origin) (server : Server) : Service :=
  { s with
    server := server
    dispatched :=
      match x.server.fails, x.server.id with
      | false, some id => (id, origin) :: s.dispatched
      | _, _ => s.dispatched }

end Service

/-- One step of a goroutine. -/
def Step.perform (cfg : FileConfig) (k : Step) (x : Input) (s : Service) :
    Option (Outcome Service Step) :=
  match k with
  | core k => (Server.perform k x.server s.server).map (Outcome.embed s.withServer core)
  | insert origin order =>
      (Server.perform (Instr.sql (Statement.insertCommand order)) x.server s.server).map
        (Outcome.embed (s.dispatch x origin) core)
  | handler h =>
      if s.server.panicked || (h.drawsToken && x.token ∈ s.library.drawn) then none
      else
        some
          { shared := (h.exec cfg x s).1
            cont := (h.exec cfg x s).2
            spawned := [] }
  | file f =>
      if s.server.panicked || (f.drawsUuid && x.uuid ∈ s.library.names) then none
      else
        some
          { shared := { s with library := (f.exec cfg x.file s.library).1 }
            cont := (f.exec cfg x.file s.library).2.map file
            spawned := [] }

/-- The requests of the server, of the users and of the agents, and the schedules
that are due. -/
inductive Request where
  | server (r : Backend.Request)
  | createCommand (caller : Caller) (agentId : String) (body : Option CreateCommandRequest)
  | bulkCreateCommand (caller : Caller) (body : Option BulkCreateCommandRequest)
  | install (caller : Caller) (agentId : String) (body : Option InstallPatchesRequest)
  | bulkInstall (caller : Caller) (body : Option BulkInstallPatchesRequest)
  | deployFile (caller : Caller) (agentId : String) (fileId : Option String)
  | fireSchedule (d : DueSchedule)
  | createFile (caller : Caller) (form : Option UploadForm)
  | deleteFile (tenantId fileId : String)
  | download (fileId token : String)

/-- `CreateAndDispatchCommand` has no route of its own. -/
def isCommandCall : Backend.Request -> Bool
  | Backend.Request.createCommand _ _ _ _ _ _ => true
  | _ => false

def entry : Request -> List Step
  | Request.server r => if isCommandCall r then [] else (Backend.entry r).map Step.core
  | Request.createCommand caller agentId body =>
      [Step.handler (HandlerStep.createCommand caller agentId body)]
  | Request.bulkCreateCommand caller body =>
      [Step.handler (HandlerStep.bulkCreateCommand caller body)]
  | Request.install caller agentId body =>
      [Step.handler (HandlerStep.install caller agentId body)]
  | Request.bulkInstall caller body => [Step.handler (HandlerStep.bulkInstall caller body)]
  | Request.deployFile caller agentId fileId =>
      [Step.handler (HandlerStep.deployFile caller agentId fileId)]
  | Request.fireSchedule d => [Step.handler (HandlerStep.loadScript d)]
  | Request.createFile caller form => [Step.file (FileStep.create caller form)]
  | Request.deleteFile tenantId fileId => [Step.file (FileStep.findForDelete tenantId fileId)]
  | Request.download fileId token => [Step.file (FileStep.consumeToken fileId token)]

abbrev State := Pool Service Step

abbrev Event := PoolEvent Request Input

/-- Any number of requests, interleaved at their steps. -/
def api (cfg : FileConfig) : Machine State Event :=
  Pool.machine entry (Step.perform cfg)

/-- The API over a server that has just been started and a library. -/
def boot (server : Server) (library : Library) : State where
  shared := { server := server, library := library, dispatched := [], refusals := [] }
  procs := []

namespace Sample

def config : FileConfig where
  storageDir := "data/files"
  downloadTtl := 7200
  publicApiEndpoint := "https://leo"
  sha256 := fun content => toString content.length

def caller : Caller where
  userId := "user"
  tenantId := Backend.Sample.tenant.text

def diskName : Uuid where
  text := "f1000000-0000-4000-8000-000000000001"
  canonical := by decide

/-- A step in which nothing fails and nothing is drawn. -/
def input : Input where
  server := {}
  uuid := diskName
  token := ""
  bytes := 100
  status := 200
  otherBody := []
  workspaceOf := fun _ => none
  script := none

def go (i : Nat) : Event :=
  PoolEvent.exec i input

/-- The agent connects: goroutine `i` does the handshake and becomes the
`ReadPump`. -/
def connect (i : Nat) : List Event :=
  [PoolEvent.start (Request.server (Backend.Request.connect Backend.Sample.cert)),
    go i, go i, go i]

def library : Library where
  files := []
  tokens := []
  disk := { inodes := [], names := [] }
  names := []
  drawn := []
  uploaded := []
  served := []
  answers := []

def start : State :=
  boot Backend.Sample.start.shared library

end Sample

end Api
end LeoOne
