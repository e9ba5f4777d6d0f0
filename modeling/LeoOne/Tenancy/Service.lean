import LeoOne.Enrollment.Enroll
import LeoOne.Scheduler.Service
import LeoOne.Accounts.Users

/-!
# The tables of several tenants

The handlers that write references between rows, on one database: agents and
enrolment tokens refer to workspaces, schedules to scripts, agents and workspaces,
user roles to roles.  The registry of machines, the schedules and the directory of
users are the components of that database; the scheduler sees the agents and the
workspaces through a view of them.

Workspaces, scripts and roles are not created or deleted here.
-/

namespace LeoOne
namespace Tenancy

open Foundation
open Backend (fitsText)
open Enrollment (MachineRow TokenRow EnrollRequest EnrollStep Registry)
open Scheduler (Cron Statement uuidColumn)
open Accounts (UserStep UserState TextFunctions)

/-- A row of `workspaces`. -/
structure WorkspaceRow where
  id : Uuid
  tenantId : Uuid
  deriving DecidableEq

/-- `agentUpdateRequest`. -/
structure AgentUpdateRequest where
  hostname : Option String
  workspaceId : Option String
  deriving DecidableEq

/-- What a statement meets: whether it fails, the clock, the rows that cannot be
scanned, and the random values it draws. -/
structure Input where
  fails : Bool
  now : Nat
  uuid : Uuid
  serial : Nat
  token : String
  scanFails : Uuid -> Bool
  hash : Option String

def Input.enrollment (x : Input) : Enrollment.Input where
  fails := x.fails
  now := x.now
  uuid := x.uuid
  serial := x.serial
  token := x.token

def Input.scheduler (x : Input) : Scheduler.Input where
  fails := x.fails
  scanFails := x.scanFails
  now := x.now
  uuid := x.uuid

def Input.user (x : Input) : Accounts.UserInput where
  fails := x.fails
  uuid := x.uuid
  hash := x.hash

/-- The answers of `AgentHandler` and `EnrollmentHandler`. -/
inductive Answer where
  | error (status : Nat) (code message : String)
  | agent (row : MachineRow) (workspaceId : Option String)
  | token (id : Uuid) (token : String) (expiresAt : Nat)
  | noContent
  deriving DecidableEq

/-- The database.  `userIds` are the identifiers that users have had: the database
generates no identifier twice. -/
structure Service where
  workspaces : List WorkspaceRow
  enrollment : Enrollment.Service
  scheduler : Scheduler.Service
  accounts : UserState
  userIds : List Uuid
  answers : List Answer

/-- The statements, with the variables they read.  `updateAgent` has the row that
was found, with the changes of the request: the workspace is still a text. -/
inductive Step where
  | enroll (step : EnrollStep)
  | insertToken (tenantId workspaceId : String) (expiresAt : Nat)
  | findAgent (tenantId agentId : String) (body : Option AgentUpdateRequest)
  | updateAgent (agent : MachineRow) (workspaceId : Option String)
  | deleteAgent (tenantId agentId : String)
  | schedule (statement : Statement)
  | user (step : UserStep)

namespace Service

/-- The agents as the scheduler selects them. -/
def targets (s : Service) : List Scheduler.TargetRow :=
  s.enrollment.registry.agents.map fun a =>
    { id := a.id, tenantId := a.tenantId, workspaceId := a.workspaceId }

/-- The scheduler's tables, with the agents and the workspaces of the database. -/
def schedules (s : Service) : Scheduler.Service :=
  { s.scheduler with
    tables :=
      { s.scheduler.tables with
        agents := s.targets
        workspaces := s.workspaces.map WorkspaceRow.id } }

def setRegistry (s : Service) (registry : Registry) : Service :=
  { s with enrollment := { s.enrollment with registry := registry } }

def reply (s : Service) (answer : Answer) : Service × List Step :=
  ({ s with answers := answer :: s.answers }, [])

/-- The foreign key of a nullable reference to `workspaces`. -/
def hasWorkspace (s : Service) (workspace : Option Uuid) : Bool :=
  workspace.all fun id => s.workspaces.any fun w => w.id = id

/-- The row that `EnrollmentHandler.Create` inserts; `none` is an error.  An empty
`workspace_id` is `NULL`. -/
def newToken (s : Service) (x : Input) (tenantId workspaceId : String) (expiresAt : Nat) :
    Option TokenRow :=
  match Uuid.parse tenantId,
      uuidColumn (if workspaceId = "" then none else some workspaceId) with
  | some tenant, some workspace =>
      if s.hasWorkspace workspace then
        some
          { id := x.uuid
            tenantId := tenant
            workspaceId := workspace
            token := x.token
            usedAt := none
            usedBy := none
            expiresAt := expiresAt }
      else none
  | _, _ => none

/-- `AgentRepo.FindByID`; `none` is an error. -/
def findAgent (s : Service) (tenantId agentId : String) : Option (Option MachineRow) :=
  match Uuid.parse tenantId, Uuid.parse agentId with
  | some tenant, some id =>
      some (s.enrollment.registry.agents.find? fun a => a.id = id && a.tenantId = tenant)
  | _, _ => none

/-- `WHERE id = $6 AND tenant_id = $7`, with the values of the row that was found. -/
def isAgent (agent a : MachineRow) : Bool :=
  a.id = agent.id && a.tenantId = agent.tenantId

/-- `AgentRepo.Update`; `none` is an error.  The foreign key is checked on the row
that is found. -/
def updateAgent (s : Service) (agent : MachineRow) (workspaceId : Option String) (now : Nat) :
    Option Registry :=
  let agents := s.enrollment.registry.agents
  match uuidColumn workspaceId with
  | some workspace =>
      if fitsText agent.hostname && (s.hasWorkspace workspace || !agents.any (isAgent agent)) then
        some
          { s.enrollment.registry with
            agents := Table.updateWhere (isAgent agent)
              (fun a =>
                { a with
                  workspaceId := workspace
                  hostname := agent.hostname
                  fqdn := agent.fqdn
                  agentVersion := agent.agentVersion
                  updatedAt := now })
              agents }
      else none
  | none => none

/-- `AgentRepo.Delete`, with its cascade to the schedules. -/
def deleteAgent (s : Service) (tenantId agentId : String) : Service :=
  let gone : Uuid -> Bool := fun id => s.enrollment.registry.agents.any fun a =>
    a.id.named agentId && a.tenantId.named tenantId && a.id = id
  { s.setRegistry (s.enrollment.registry.deleteAgent tenantId agentId) with
    scheduler :=
      { s.scheduler with
        tables :=
          { s.scheduler.tables with
            schedules := Table.deleteWhere (fun r => r.target.agentId.any gone)
              s.scheduler.tables.schedules } } }

end Service

/-- One statement: what it leaves, and the statements that follow it. -/
def Step.exec (cron : Cron) (lib : TextFunctions) (x : Input) (s : Service) :
    Step -> Service × List Step
  | enroll step =>
      ({ s with enrollment := (step.exec x.enrollment s.enrollment).1 },
        (step.exec x.enrollment s.enrollment).2.toList.map enroll)
  | insertToken tenantId workspaceId expiresAt =>
      match if x.fails then none
          else (s.newToken x tenantId workspaceId expiresAt).bind
            s.enrollment.registry.insertToken with
      | none =>
          s.reply (Answer.error 500 "INTERNAL_ERROR" "erreur lors de la création du token")
      | some registry =>
          (s.setRegistry registry).reply (Answer.token x.uuid x.token expiresAt)
  | findAgent tenantId agentId body =>
      match if x.fails then none else s.findAgent tenantId agentId with
      | none => s.reply (Answer.error 500 "INTERNAL_ERROR" "erreur de base de données")
      | some none => s.reply (Answer.error 404 "NOT_FOUND" "agent introuvable")
      | some (some agent) =>
          match body with
          | none =>
              s.reply (Answer.error 400 "VALIDATION_ERROR" "corps de requête invalide")
          | some req =>
              (s, [updateAgent { agent with hostname := req.hostname.getD agent.hostname }
                (req.workspaceId.or (agent.workspaceId.map Uuid.text))])
  | updateAgent agent workspaceId =>
      match if x.fails then none else s.updateAgent agent workspaceId x.now with
      | none => s.reply (Answer.error 500 "INTERNAL_ERROR" "erreur lors de la mise à jour")
      | some registry => (s.setRegistry registry).reply (Answer.agent agent workspaceId)
  | deleteAgent tenantId agentId =>
      if x.fails || (Uuid.parse tenantId).isNone || (Uuid.parse agentId).isNone then
        s.reply (Answer.error 500 "INTERNAL_ERROR" "erreur lors de la suppression")
      else (s.deleteAgent tenantId agentId).reply Answer.noContent
  | schedule statement =>
      ({ s with scheduler := (statement.exec cron x.scheduler s.schedules).1 },
        (statement.exec cron x.scheduler s.schedules).2.map schedule)
  | user step =>
      ({ s with accounts := (step.exec lib x.user s.accounts).1 },
        (step.exec lib x.user s.accounts).2.toList.map user)

/-- The requests of the users, the polls of the scheduler and the enrolments. -/
inductive Request where
  | enroll (body : Option EnrollRequest)
  | createToken (tenantId workspaceId : String) (expiresAt : Nat)
  | updateAgent (tenantId agentId : String) (body : Option AgentUpdateRequest)
  | deleteAgent (tenantId agentId : String)
  | schedule (request : Scheduler.Request)
  | user (request : Accounts.UserRequest)

def entry : Request -> List Step
  | Request.enroll body => [Step.enroll (EnrollStep.decode body)]
  | Request.createToken tenantId workspaceId expiresAt =>
      [Step.insertToken tenantId workspaceId expiresAt]
  | Request.updateAgent tenantId agentId body => [Step.findAgent tenantId agentId body]
  | Request.deleteAgent tenantId agentId => [Step.deleteAgent tenantId agentId]
  | Request.schedule request => (Scheduler.entry request).map Step.schedule
  | Request.user request => request.entry.map Step.user

/-- The statement draws the identifier of a new user. -/
def Step.insertsUser : Step -> Bool
  | user (UserStep.insertUser _ _) => true
  | _ => false

/-- A statement in the pool.  The identifier of a new user is one that no user has
had. -/
def perform (cron : Cron) (lib : TextFunctions) (k : Step) (x : Input) (s : Service) :
    Option (Outcome Service Step) :=
  if k.insertsUser then
    if x.uuid ∈ s.userIds then none
    else
      some
        { shared := { (k.exec cron lib x s).1 with userIds := x.uuid :: s.userIds }
          cont := (k.exec cron lib x s).2
          spawned := [] }
  else
    some
      { shared := (k.exec cron lib x s).1
        cont := (k.exec cron lib x s).2
        spawned := [] }

abbrev State := Pool Service Step

abbrev Event := PoolEvent Request Input

/-- Any number of requests of any tenants, interleaved at their statements. -/
def service (cron : Cron) (lib : TextFunctions) : Machine State Event :=
  Pool.machine entry (perform cron lib)

/-- The service on the tables that it finds. -/
def boot (workspaces : List WorkspaceRow) (registry : Registry)
    (tables : Scheduler.Tables) (directory : Accounts.Directory) (now : Nat) : State where
  shared :=
    { workspaces := workspaces
      enrollment :=
        { wsEndpoint := ""
          serverFingerprint := ""
          registry := registry
          tokenIds := []
          enrolled := []
          answers := [] }
      scheduler := { tables := tables, clock := now, fired := [], answers := [] }
      accounts := { directory := directory, answers := [] }
      userIds := directory.users.map Accounts.UserRow.id
      answers := [] }
  procs := []

end Tenancy
end LeoOne
