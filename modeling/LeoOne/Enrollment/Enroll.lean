import LeoOne.Foundation.Pool
import LeoOne.Enrollment.Registry

/-!
# Enrolment

`AgentHandler.Enroll` is a sequence of separate statements: nothing keeps another
request from running between two of them, and the errors of three of them are
discarded.  A step below is one statement (or the issuance of the certificate)
together with the handler's code up to the next one.

The handler runs in two settings: alone, as a function of what each of its
statements meets (`enroll`), and as one goroutine of the service, interleaved
with any number of other requests (`service`).
-/

namespace LeoOne
namespace Enrollment

open Foundation
open Backend

/-- What a step meets: whether its statement (or the issuance) fails for a reason
outside the tables, the clock, and the random values it draws. -/
structure Input where
  fails : Bool
  now : Nat
  uuid : Uuid
  serial : Nat
  token : String

/-- The answer of `Enroll`.  The certificate stands for its PEM text; the key
that goes with it is left out. -/
inductive Answer where
  | error (status : Nat) (code message : String)
  | created (agentId tenantId : Uuid) (wsEndpoint : String)
      (clientCert : Certificate) (serverCertFingerprint : String)
  deriving DecidableEq

def Answer.isError : Answer -> Bool
  | error _ _ _ => true
  | created _ _ _ _ _ => false

/-- The handlers' fields, the tables, and what has happened: the identifiers
given to tokens, the token behind each agent that was inserted, the answers. -/
structure Service where
  wsEndpoint : String
  serverFingerprint : String
  registry : Registry
  tokenIds : List Uuid
  enrolled : List (Uuid × Uuid)
  answers : List Answer

/-- The statements of `Enroll`, with the variables they read. -/
inductive EnrollStep where
  | decode (body : Option EnrollRequest)
  | findToken (req : EnrollRequest)
  | findByHardwareId (req : EnrollRequest) (tok : TokenRow)
  | countByTenant (req : EnrollRequest) (tok : TokenRow)
  | maxAgents (req : EnrollRequest) (tok : TokenRow) (count : Nat)
  | createAgent (req : EnrollRequest) (tok : TokenRow)
  | markUsed (tok : TokenRow) (agentId : Uuid)
  | issueCert (tok : TokenRow) (agentId : Uuid)
  | insertCertificate (tok : TokenRow) (agentId : Uuid) (cert : Certificate)
  deriving DecidableEq

/-- The steps without their variables. -/
inductive Stage where
  | decode
  | findToken
  | findByHardwareId
  | countByTenant
  | maxAgents
  | createAgent
  | markUsed
  | issueCert
  | insertCertificate
  deriving DecidableEq

def EnrollStep.stage : EnrollStep -> Stage
  | decode _ => Stage.decode
  | findToken _ => Stage.findToken
  | findByHardwareId _ _ => Stage.findByHardwareId
  | countByTenant _ _ => Stage.countByTenant
  | maxAgents _ _ _ => Stage.maxAgents
  | createAgent _ _ => Stage.createAgent
  | markUsed _ _ => Stage.markUsed
  | issueCert _ _ => Stage.issueCert
  | insertCertificate _ _ _ => Stage.insertCertificate

namespace Service

/-- `response.Error`, followed by `return`. -/
def reject (s : Service) (status : Nat) (code message : String) :
    Service × Option EnrollStep :=
  ({ s with answers := Answer.error status code message :: s.answers }, none)

end Service

namespace EnrollStep

/-- One statement of `Enroll`: what it leaves, and the statement that follows. -/
def exec (x : Input) (s : Service) : EnrollStep -> Service × Option EnrollStep
  | decode none => s.reject 400 "VALIDATION_ERROR" "corps de requête invalide"
  | decode (some req) =>
      if req.enrollmentToken = "" || req.hostname = "" || req.hardwareId = "" then
        s.reject 400 "VALIDATION_ERROR" "champs obligatoires manquants"
      else (s, some (findToken req))
  | findToken req =>
      if x.fails then s.reject 500 "INTERNAL_ERROR" "erreur de base de données"
      else
        match s.registry.findToken req.enrollmentToken with
        | none => s.reject 401 "UNAUTHORIZED" "token d'enrollment invalide"
        | some tok =>
            if tok.usedAt.isSome then
              s.reject 401 "ENROLLMENT_TOKEN_USED" "token déjà utilisé"
            else if tok.expiresAt < x.now then
              s.reject 401 "ENROLLMENT_TOKEN_EXPIRED" "token expiré"
            else (s, some (findByHardwareId req tok))
  | findByHardwareId req tok =>
      -- the error of the lookup is discarded, as if there were no such machine
      match if x.fails then none
          else s.registry.findByHardwareId tok.tenantId req.hardwareId with
      | some (some _) =>
          s.reject 409 "AGENT_ALREADY_EXISTS"
            "un agent avec ce hardware_id existe déjà"
      | _ => (s, some (countByTenant req tok))
  | countByTenant req tok =>
      -- so is this one, which leaves the count at 0
      let count := if x.fails then 0 else s.registry.countByTenant tok.tenantId
      (s, some (maxAgents req tok count))
  | maxAgents req tok count =>
      let limit := if x.fails then 0 else (s.registry.maxAgents tok.tenantId).getD 0
      if 0 < limit && limit ≤ (count : Int) then
        s.reject 403 "TENANT_LIMIT_REACHED" "quota d'agents atteint"
      else (s, some (createAgent req tok))
  | createAgent req tok =>
      match if x.fails then none else s.registry.createAgent x.uuid tok req x.now with
      | none =>
          s.reject 500 "INTERNAL_ERROR" "erreur lors de la création de l'agent"
      | some registry =>
          ({ s with
              registry := registry
              enrolled := (tok.id, x.uuid) :: s.enrolled },
            some (markUsed tok x.uuid))
  | markUsed tok agentId =>
      -- the error of this `UPDATE` is discarded as well
      match if x.fails then none else s.registry.markUsed agentId tok.id x.now with
      | none => (s, some (issueCert tok agentId))
      | some registry =>
          ({ s with registry := registry }, some (issueCert tok agentId))
  | issueCert tok agentId =>
      if x.fails then
        s.reject 500 "INTERNAL_ERROR" "erreur lors de l'émission du certificat agent"
      else
        (s, some (insertCertificate tok agentId
          (issueAgentCert agentId tok.tenantId x.serial)))
  | insertCertificate tok agentId cert =>
      match if x.fails then none else s.registry.insertCertificate agentId cert with
      | none =>
          s.reject 500 "INTERNAL_ERROR"
            "erreur lors de l'enregistrement du certificat agent"
      | some registry =>
          ({ s with
              registry := registry
              answers :=
                Answer.created agentId tok.tenantId s.wsEndpoint cert
                  s.serverFingerprint :: s.answers },
            none)

end EnrollStep

/-!
## What a step does
-/

/-- The handler refuses the request, or goes on to its next statement. -/
inductive Moves (x : Input) (s : Service) :
    EnrollStep -> Service -> Option EnrollStep -> Prop where
  | rejected {k status code message} :
      k.stage ≠ Stage.markUsed ->
      Moves x s k (s.reject status code message).1 none
  | decoded {req} :
      Moves x s (EnrollStep.decode (some req)) s (some (EnrollStep.findToken req))
  | found {req tok} :
      s.registry.findToken req.enrollmentToken = some tok ->
      tok.usedAt = none ->
      Moves x s (EnrollStep.findToken req) s
        (some (EnrollStep.findByHardwareId req tok))
  | unknown {req tok} :
      Moves x s (EnrollStep.findByHardwareId req tok) s
        (some (EnrollStep.countByTenant req tok))
  | counted {req tok count} :
      (x.fails = false -> count = s.registry.countByTenant tok.tenantId) ->
      Moves x s (EnrollStep.countByTenant req tok) s
        (some (EnrollStep.maxAgents req tok count))
  | admitted {req tok} {count : Nat} :
      (x.fails = false -> forall {limit}, s.registry.maxAgents tok.tenantId = some limit ->
        0 < limit -> (count : Int) < limit) ->
      Moves x s (EnrollStep.maxAgents req tok count) s
        (some (EnrollStep.createAgent req tok))
  | inserted {req tok registry} :
      s.registry.createAgent x.uuid tok req x.now = some registry ->
      Moves x s (EnrollStep.createAgent req tok)
        { s with registry := registry, enrolled := (tok.id, x.uuid) :: s.enrolled }
        (some (EnrollStep.markUsed tok x.uuid))
  | marked {tok agentId registry} :
      s.registry.markUsed agentId tok.id x.now = some registry ->
      Moves x s (EnrollStep.markUsed tok agentId) { s with registry := registry }
        (some (EnrollStep.issueCert tok agentId))
  | unmarked {tok agentId} :
      x.fails = true ∨ s.registry.markUsed agentId tok.id x.now = none ->
      Moves x s (EnrollStep.markUsed tok agentId) s
        (some (EnrollStep.issueCert tok agentId))
  | issued {tok agentId} :
      Moves x s (EnrollStep.issueCert tok agentId) s
        (some (EnrollStep.insertCertificate tok agentId
          (issueAgentCert agentId tok.tenantId x.serial)))
  | certified {tok agentId cert registry} :
      s.registry.insertCertificate agentId cert = some registry ->
      Moves x s (EnrollStep.insertCertificate tok agentId cert)
        { s with
          registry := registry
          answers :=
            Answer.created agentId tok.tenantId s.wsEndpoint cert
              s.serverFingerprint :: s.answers }
        none

/-- A statement that can fail and succeeds. -/
theorem of_not_fails {α : Type} {b : Bool} {o : Option α} {a : α}
    (h : (if b then none else o) = some a) : b = false ∧ o = some a := by
  cases b with
  | true =>
      cases h
  | false =>
      exact ⟨rfl, h⟩

theorem moves_exec (x : Input) (s : Service) (k : EnrollStep) :
    Moves x s k (k.exec x s).1 (k.exec x s).2 := by
  cases k with
  | decode body =>
      cases body with
      | none =>
          exact Moves.rejected nofun
      | some req =>
          simp only [EnrollStep.exec]
          split
          · exact Moves.rejected nofun
          · exact Moves.decoded
  | findToken req =>
      simp only [EnrollStep.exec]
      split
      · exact Moves.rejected nofun
      · split
        · exact Moves.rejected nofun
        · rename_i tok hfind
          split
          · exact Moves.rejected nofun
          · rename_i hused
            split
            · exact Moves.rejected nofun
            · exact Moves.found hfind (by simpa using hused)
  | findByHardwareId req tok =>
      simp only [EnrollStep.exec]
      split
      · exact Moves.rejected nofun
      · exact Moves.unknown
  | countByTenant req tok =>
      simp only [EnrollStep.exec]
      apply Moves.counted
      intro hok
      rw [hok]
      rfl
  | maxAgents req tok count =>
      simp only [EnrollStep.exec]
      generalize hread : (if x.fails = true then 0
        else (s.registry.maxAgents tok.tenantId).getD 0) = limit
      split
      · exact Moves.rejected nofun
      · rename_i hbelow
        apply Moves.admitted
        intro hok limit' hmax hpos
        rw [hok, hmax] at hread
        have heq : limit' = limit := hread
        subst heq
        simpa [hpos] using hbelow
  | createAgent req tok =>
      simp only [EnrollStep.exec]
      split
      · exact Moves.rejected nofun
      · rename_i registry hcreate
        exact Moves.inserted (of_not_fails hcreate).right
  | markUsed tok agentId =>
      simp only [EnrollStep.exec]
      split
      · rename_i hnone
        apply Moves.unmarked
        cases hfails : x.fails with
        | true =>
            exact Or.inl rfl
        | false =>
            rw [hfails] at hnone
            exact Or.inr hnone
      · rename_i registry hmark
        exact Moves.marked (of_not_fails hmark).right
  | issueCert tok agentId =>
      simp only [EnrollStep.exec]
      split
      · exact Moves.rejected nofun
      · exact Moves.issued
  | insertCertificate tok agentId cert =>
      simp only [EnrollStep.exec]
      split
      · exact Moves.rejected nofun
      · rename_i registry hinsert
        exact Moves.certified (of_not_fails hinsert).right

/-!
## A request on its own
-/

/-- The steps from one on, with nothing in between; `none` is out of fuel. -/
def serve (x : Stage -> Input) : Nat -> EnrollStep -> Service -> Option Service
  | 0, _, _ => none
  | n + 1, k, s =>
      match k.exec (x k.stage) s with
      | (t, none) => some t
      | (t, some next) => serve x n next t

/-- `Enroll` on its own.  The environment decides what each step meets. -/
def enroll (x : Stage -> Input) (body : Option EnrollRequest) (s : Service) :
    Option Service :=
  serve x 9 (EnrollStep.decode body) s

/-!
## The service
-/

/-- The statements of all handlers. -/
inductive Task where
  | enroll (step : EnrollStep)
  | insertToken (tenantId : Uuid) (workspaceId : Option Uuid) (expiresAt : Nat)
  | findForRevoke (tenantId agentId : String)
  | revoke (agentId : String)
  | deleteAgent (tenantId agentId : String)
  deriving DecidableEq

/-- The requests.  The expiry that `EnrollmentHandler.Create` computes from the
lifetime asked for is part of its request. -/
inductive Request where
  | enroll (body : Option EnrollRequest)
  | createToken (tenantId : Uuid) (workspaceId : Option Uuid) (expiresAt : Nat)
  | revokeCertificate (tenantId agentId : String)
  | delete (tenantId agentId : String)

def entry : Request -> List Task
  | Request.enroll body => [Task.enroll (EnrollStep.decode body)]
  | Request.createToken tenantId workspaceId expiresAt =>
      [Task.insertToken tenantId workspaceId expiresAt]
  | Request.revokeCertificate tenantId agentId =>
      [Task.findForRevoke tenantId agentId]
  | Request.delete tenantId agentId => [Task.deleteAgent tenantId agentId]

/-- A statement that only changes the tables. -/
def done (s : Service) (registry : Registry) : Outcome Service Task where
  shared := { s with registry := registry }
  cont := []
  spawned := []

/-- One statement.  The identifier of a new token is one that no token has had. -/
def perform (k : Task) (x : Input) (s : Service) : Option (Outcome Service Task) :=
  match k with
  | Task.enroll step =>
      some
        { shared := (step.exec x s).1
          cont := (step.exec x s).2.toList.map Task.enroll
          spawned := [] }
  | Task.insertToken tenantId workspaceId expiresAt =>
      if x.uuid ∈ s.tokenIds then none
      else
        let tok : TokenRow :=
          { id := x.uuid
            tenantId := tenantId
            workspaceId := workspaceId
            token := x.token
            usedAt := none
            usedBy := none
            expiresAt := expiresAt }
        match if x.fails then none else s.registry.insertToken tok with
        | none => some (done s s.registry)
        | some registry =>
            some (done { s with tokenIds := x.uuid :: s.tokenIds } registry)
  | Task.findForRevoke tenantId agentId =>
      if x.fails || (s.registry.toDatabase.findAgent tenantId agentId).isNone then
        some (done s s.registry)
      else some { shared := s, cont := [Task.revoke agentId], spawned := [] }
  | Task.revoke agentId =>
      if x.fails then some (done s s.registry)
      else some (done s (s.registry.revokeCertificates agentId x.now))
  | Task.deleteAgent tenantId agentId =>
      if x.fails then some (done s s.registry)
      else some (done s (s.registry.deleteAgent tenantId agentId))

abbrev State := Pool Service Task

abbrev Event := PoolEvent Request Input

/-- Any number of requests, interleaved at their statements. -/
def service : Machine State Event :=
  Pool.machine entry perform

/-- The service when it starts, on the tables it finds. -/
def boot (wsEndpoint serverFingerprint : String) (registry : Registry) : State where
  shared :=
    { wsEndpoint := wsEndpoint
      serverFingerprint := serverFingerprint
      registry := registry
      tokenIds := registry.tokens.map TokenRow.id
      enrolled := []
      answers := [] }
  procs := []

/-- A request on its own is a run of the service in which no other goroutine is
scheduled. -/
theorem serve_run {x : Stage -> Input} {n : Nat} {k : EnrollStep} {s t : Service}
    (h : serve x n k s = some t) :
    exists es, service.run { shared := s, procs := [[Task.enroll k]] } es =
      some { shared := t, procs := [[]] } := by
  induction n generalizing k s with
  | zero =>
      cases h
  | succ n ih =>
      have hstep : service.step { shared := s, procs := [[Task.enroll k]] }
          (PoolEvent.exec 0 (x k.stage)) =
            some
              { shared := (k.exec (x k.stage) s).1
                procs := [(k.exec (x k.stage) s).2.toList.map Task.enroll ++ []] } := rfl
      rw [serve] at h
      generalize k.exec (x k.stage) s = result at h hstep
      rcases result with ⟨s', next⟩
      cases next with
      | none =>
          cases h
          refine ⟨[PoolEvent.exec 0 (x k.stage)], ?_⟩
          rw [Machine.run, hstep]
          rfl
      | some k' =>
          rcases ih h with ⟨es, hrun⟩
          refine ⟨PoolEvent.exec 0 (x k.stage) :: es, ?_⟩
          rw [Machine.run, hstep]
          exact hrun

/-!
## What the other handlers do
-/

/-- The other handlers create no agent, and give no token back. -/
structure Aside (s t : Service) : Prop where
  tenants : t.registry.tenants = s.registry.tenants
  agents : t.registry.agents.Sublist s.registry.agents
  enrolled : t.enrolled = s.enrolled
  tokenIds : forall {u}, u ∈ s.tokenIds -> u ∈ t.tokenIds
  tokens : forall {tok}, tok ∈ t.registry.tokens ->
    (exists old, old ∈ s.registry.tokens ∧ tok.id = old.id ∧ tok.usedAt = old.usedAt) ∨
      (tok.id ∉ s.tokenIds ∧ tok.id ∈ t.tokenIds)

theorem Aside.refl (s : Service) : Aside s s :=
  ⟨rfl, List.Sublist.refl _, rfl, fun hu => hu, fun htok => Or.inl ⟨_, htok, rfl, rfl⟩⟩

theorem aside_insertToken {s : Service} {tok : TokenRow} {registry : Registry}
    (hnew : tok.id ∉ s.tokenIds) (h : s.registry.insertToken tok = some registry) :
    Aside s { s with registry := registry, tokenIds := tok.id :: s.tokenIds } := by
  rw [Registry.insertToken_some h]
  refine ⟨rfl, List.Sublist.refl _, rfl, fun hu => List.mem_cons_of_mem _ hu, ?_⟩
  intro tok' htok'
  rcases List.mem_append.mp htok' with hold | hlast
  · exact Or.inl ⟨tok', hold, rfl, rfl⟩
  · rw [List.mem_singleton.mp hlast]
    exact Or.inr ⟨hnew, List.mem_cons_self⟩

theorem aside_revoke (s : Service) (agentId : String) (now : Nat) :
    Aside s { s with registry := s.registry.revokeCertificates agentId now } :=
  ⟨rfl, List.Sublist.refl _, rfl, fun hu => hu, fun htok => Or.inl ⟨_, htok, rfl, rfl⟩⟩

theorem aside_deleteAgent (s : Service) (tenantId agentId : String) :
    Aside s { s with registry := s.registry.deleteAgent tenantId agentId } := by
  refine ⟨rfl, Table.deleteWhere_sublist _ _, rfl, fun hu => hu, ?_⟩
  intro tok htok
  left
  rcases Table.mem_updateWhere.mp htok with ⟨old, hold, ⟨_, heq⟩ | ⟨_, heq⟩⟩
  · rw [heq]
    exact ⟨old, hold, rfl, rfl⟩
  · rw [heq]
    exact ⟨old, hold, rfl, rfl⟩

/-- The step of `Enroll` that a statement is. -/
def Task.step? : Task -> Option EnrollStep
  | enroll step => some step
  | _ => none

theorem perform_aside {k : Task} {x : Input} {s : Service} {o : Outcome Service Task}
    (h : perform k x s = some o) (hk : k.step? = none) :
    Aside s o.shared ∧ forall j, j ∈ o.created -> j.step? = none := by
  have hdone : forall s registry, forall j, j ∈ (done s registry).created ->
      j.step? = none := by
    intro s registry j hj
    cases hj
  cases k with
  | enroll step =>
      cases hk
  | insertToken tenantId workspaceId expiresAt =>
      simp only [perform] at h
      split at h
      · cases h
      · rename_i hnew
        split at h
        · cases h
          exact ⟨Aside.refl s, hdone _ _⟩
        · rename_i registry hinsert
          cases h
          exact ⟨aside_insertToken hnew (of_not_fails hinsert).right, hdone _ _⟩
  | findForRevoke tenantId agentId =>
      simp only [perform] at h
      split at h
      · cases h
        exact ⟨Aside.refl s, hdone _ _⟩
      · cases h
        refine ⟨Aside.refl s, ?_⟩
        intro j hj
        rw [List.mem_singleton.mp hj]
        rfl
  | revoke agentId =>
      simp only [perform] at h
      split at h
      · cases h
        exact ⟨Aside.refl s, hdone _ _⟩
      · cases h
        exact ⟨aside_revoke s agentId x.now, hdone _ _⟩
  | deleteAgent tenantId agentId =>
      simp only [perform] at h
      split at h
      · cases h
        exact ⟨Aside.refl s, hdone _ _⟩
      · cases h
        exact ⟨aside_deleteAgent s tenantId agentId, hdone _ _⟩

/-- What a statement does: a step of `Enroll`, or one that leaves the enrolments
as they are. -/
theorem perform_cases {k : Task} {x : Input} {s : Service} {o : Outcome Service Task}
    (h : perform k x s = some o) :
    (exists step next, k = Task.enroll step ∧ Moves x s step o.shared next ∧
      o.created = next.toList.map Task.enroll) ∨
    (k.step? = none ∧ Aside s o.shared ∧
      forall j, j ∈ o.created -> j.step? = none) := by
  cases hk : k.step? with
  | none =>
      right
      exact ⟨rfl, perform_aside h hk⟩
  | some step =>
      left
      cases k with
      | enroll step' =>
          cases h
          exact ⟨step', _, rfl, moves_exec x s step', List.append_nil _⟩
      | _ =>
          cases hk

/-!
## A small registry
-/

namespace Sample

def tenant : Uuid where
  text := "7e000000-0000-4000-8000-000000000002"
  canonical := by decide

def firstToken : Uuid where
  text := "70000000-0000-4000-8000-000000000001"
  canonical := by decide

def secondToken : Uuid where
  text := "70000000-0000-4000-8000-000000000002"
  canonical := by decide

def firstAgent : Uuid where
  text := "a0000000-0000-4000-8000-000000000003"
  canonical := by decide

def secondAgent : Uuid where
  text := "a0000000-0000-4000-8000-000000000004"
  canonical := by decide

def unusedToken (id : Uuid) (token : String) : TokenRow where
  id := id
  tenantId := tenant
  workspaceId := none
  token := token
  usedAt := none
  usedBy := none
  expiresAt := 24

/-- A tenant with a quota and two tokens. -/
def registry (maxAgents : Int) : Registry where
  tenants := [{ id := tenant, maxAgents := maxAgents }]
  tokens := [unusedToken firstToken "t1", unusedToken secondToken "t2"]
  agents := []
  certificates := []

def start (maxAgents : Int) : State :=
  boot "wss://leo/ws/agent" "deadbeef" (registry maxAgents)

def request (token hardwareId : String) : EnrollRequest where
  enrollmentToken := token
  hostname := "srv"
  os := "linux"
  osVersion := "24.04"
  arch := "amd64"
  hardwareId := hardwareId
  agentVersion := "1.0.0"
  fqdn := ""

/-- A step in which nothing fails. -/
def fine (agentId : Uuid) (serial : Nat) : Input where
  fails := false
  now := 0
  uuid := agentId
  serial := serial
  token := "t3"

/-- Goroutine `i` takes `n` steps. -/
def steps (i n : Nat) (x : Input) : List Event :=
  List.replicate n (PoolEvent.exec i x)

end Sample

end Enrollment
end LeoOne
