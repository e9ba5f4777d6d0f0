import LeoOne.Backend.Server

/-!
# The registry of machines

The tables that an enrolment reads and writes, with the statements that the
handlers run on them.  Each statement is atomic.  `none` is an error of the
statement, which then has no effect.

The control channel sees the same agents and certificates, without the columns
that describe the machine; `Registry.toDatabase` is that view.
-/

namespace LeoOne
namespace Enrollment

open Foundation
open Backend

/-- `agent_os`. -/
inductive AgentOs where
  | windows
  | linux
  | macos
  deriving DecidableEq, Repr

/-- The cast `$6::agent_os`. -/
def AgentOs.ofText (s : String) : Option AgentOs :=
  if s = "windows" then some windows
  else if s = "linux" then some linux
  else if s = "macos" then some macos
  else none

structure TenantRow where
  id : Uuid
  maxAgents : Int
  deriving DecidableEq

/-- A row of `enrollment_tokens`.  The raw token stands for its SHA-256 digest. -/
structure TokenRow where
  id : Uuid
  tenantId : Uuid
  workspaceId : Option Uuid
  token : String
  usedAt : Option Nat
  usedBy : Option Uuid
  expiresAt : Nat
  deriving DecidableEq

/-- A row of `agents`, with the columns that describe the machine. -/
structure MachineRow extends AgentRow where
  workspaceId : Option Uuid
  hostname : String
  fqdn : Option String
  os : AgentOs
  osVersion : String
  arch : String
  hardwareId : String
  agentVersion : String
  enrolledAt : Nat
  createdAt : Nat
  deriving DecidableEq

/-- `enrollRequest`.  The handler never reads `public_key`. -/
structure EnrollRequest where
  enrollmentToken : String
  hostname : String
  os : String
  osVersion : String
  arch : String
  hardwareId : String
  agentVersion : String
  fqdn : String
  deriving DecidableEq

structure Registry where
  tenants : List TenantRow
  tokens : List TokenRow
  agents : List MachineRow
  certificates : List CertificateRow

namespace Registry

/-- The tables as the control channel sees them. -/
def toDatabase (r : Registry) : Database where
  agents := r.agents.map MachineRow.toAgentRow
  certificates := r.certificates
  commands := []
  patches := []
  sessions := []

/-!
## Statements of `Enroll`
-/

/-- The lookup of the token, by its hash. -/
def findToken (r : Registry) (token : String) : Option TokenRow :=
  r.tokens.find? fun t => t.token = token

/-- The machine that the `UNIQUE(tenant_id, hardware_id)` of `agents` is about. -/
def isMachine (tenantId : Uuid) (hardwareId : String) (a : MachineRow) : Bool :=
  a.tenantId = tenantId && a.hardwareId = hardwareId

/-- `AgentRepo.FindByHardwareID`; `none` is an error. -/
def findByHardwareId (r : Registry) (tenantId : Uuid) (hardwareId : String) :
    Option (Option MachineRow) :=
  if fitsText hardwareId then some (r.agents.find? (isMachine tenantId hardwareId))
  else none

/-- `AgentRepo.CountByTenant`. -/
def countByTenant (r : Registry) (tenantId : Uuid) : Nat :=
  r.agents.countP fun a => a.tenantId = tenantId

/-- `SELECT max_agents FROM tenants WHERE id = $1`. -/
def maxAgents (r : Registry) (tenantId : Uuid) : Option Int :=
  (r.tenants.find? fun t => t.id = tenantId).map TenantRow.maxAgents

/-- The texts of a request that go into `agents`. -/
def fitsTexts (req : EnrollRequest) : Bool :=
  fitsText req.hostname && fitsText req.fqdn && fitsText req.osVersion &&
    fitsText req.arch && fitsText req.hardwareId && fitsText req.agentVersion

/-- `AgentRepo.Create`, with the row that `Enroll` builds. -/
def createAgent (r : Registry) (id : Uuid) (tok : TokenRow) (req : EnrollRequest)
    (now : Nat) : Option Registry :=
  match AgentOs.ofText req.os with
  | none => none
  | some os =>
      if fitsTexts req && (r.tenants.any fun t => t.id = tok.tenantId) &&
          !(r.agents.any fun a =>
            a.id = id || isMachine tok.tenantId req.hardwareId a) then
        some
          { r with
            agents := r.agents ++
              [{ id := id
                 tenantId := tok.tenantId
                 status := AgentStatus.offline
                 lastSeenAt := none
                 updatedAt := now
                 workspaceId := tok.workspaceId
                 hostname := req.hostname
                 fqdn := if req.fqdn = "" then none else some req.fqdn
                 os := os
                 osVersion := req.osVersion
                 arch := req.arch
                 hardwareId := req.hardwareId
                 agentVersion := req.agentVersion
                 enrolledAt := now
                 createdAt := now }] }
      else none

/-- `UPDATE enrollment_tokens SET used_at = NOW(), used_by = $1 WHERE id = $2`.
The column `used_by` references `agents`. -/
def markUsed (r : Registry) (agentId tokenId : Uuid) (now : Nat) :
    Option Registry :=
  if (r.agents.any fun a => a.id = agentId) ||
      !(r.tokens.any fun t => t.id = tokenId) then
    some
      { r with
        tokens := Table.updateWhere (fun t => t.id = tokenId)
          (fun t => { t with usedAt := some now, usedBy := some agentId }) r.tokens }
  else none

/-- The `INSERT INTO agent_certificates`. -/
def insertCertificate (r : Registry) (agentId : Uuid) (cert : Certificate) :
    Option Registry :=
  (r.toDatabase.insertCertificate agentId cert).map fun db =>
    { r with certificates := db.certificates }

/-!
## Statements of the other handlers
-/

/-- The `INSERT INTO enrollment_tokens` of `EnrollmentHandler.Create`. -/
def insertToken (r : Registry) (tok : TokenRow) : Option Registry :=
  if (r.tenants.any fun t => t.id = tok.tenantId) &&
      !(r.tokens.any fun t => t.id = tok.id || t.token = tok.token) then
    some { r with tokens := r.tokens ++ [tok] }
  else none

/-- The `UPDATE agent_certificates` of `RevokeCertificate`. -/
def revokeCertificates (r : Registry) (agentId : String) (now : Nat) : Registry :=
  { r with
    certificates := (r.toDatabase.revokeCertificates agentId now).certificates }

/-- `AgentRepo.Delete`.  The certificates go with the agent, and `used_by` is set
to `NULL`. -/
def deleteAgent (r : Registry) (tenantId agentId : String) : Registry :=
  let selected : MachineRow -> Bool := fun a =>
    a.id.named agentId && a.tenantId.named tenantId
  let gone : Uuid -> Bool := fun id => r.agents.any fun a => selected a && a.id = id
  { r with
    tokens := Table.updateWhere (fun t => t.usedBy.any gone)
      (fun t => { t with usedBy := none }) r.tokens
    agents := Table.deleteWhere selected r.agents
    certificates := Table.deleteWhere (fun c => gone c.agentId) r.certificates }

/-- The check of the WebSocket handshake: `parseCert`, then `checkNotRevoked`. -/
def accepts (r : Registry) (cert : Certificate) : Bool :=
  (parseCert cert).isSome && r.toDatabase.checkNotRevoked cert

/-!
## What the statements do
-/

theorem findToken_some {r : Registry} {token : String} {tok : TokenRow}
    (h : r.findToken token = some tok) : tok ∈ r.tokens ∧ tok.token = token := by
  refine ⟨List.mem_of_find?_eq_some h, ?_⟩
  have hfound := List.find?_some h
  exact of_decide_eq_true hfound

/-- A second machine with the same hardware is refused by the constraint. -/
theorem createAgent_of_mem {r : Registry} {a : MachineRow} (ha : a ∈ r.agents)
    {tok : TokenRow} {req : EnrollRequest} (htenant : tok.tenantId = a.tenantId)
    (hhardware : req.hardwareId = a.hardwareId) (id : Uuid) (now : Nat) :
    r.createAgent id tok req now = none := by
  unfold createAgent
  split
  · rfl
  · apply if_neg
    rw [Bool.and_eq_true, not_and]
    intro _
    rw [Bool.not_eq_true', Bool.not_eq_false, List.any_eq_true]
    refine ⟨a, ha, ?_⟩
    simp [isMachine, htenant, hhardware]

/-- The row that `createAgent` inserts. -/
structure Inserts (r r' : Registry) (id : Uuid) (tok : TokenRow)
    (req : EnrollRequest) (row : MachineRow) : Prop where
  agents : r'.agents = r.agents ++ [row]
  tenants : r'.tenants = r.tenants
  tokens : r'.tokens = r.tokens
  certificates : r'.certificates = r.certificates
  rowId : row.id = id
  rowTenant : row.tenantId = tok.tenantId
  rowHardware : row.hardwareId = req.hardwareId

theorem createAgent_some {r r' : Registry} {id : Uuid} {tok : TokenRow}
    {req : EnrollRequest} {now : Nat} (h : r.createAgent id tok req now = some r') :
    exists row, Inserts r r' id tok req row := by
  unfold createAgent at h
  split at h
  · cases h
  · split at h
    · cases h
      exact ⟨_, rfl, rfl, rfl, rfl, rfl, rfl, rfl⟩
    · cases h

/-- The control channel sees the creation of the agent. -/
theorem createAgent_toDatabase {r r' : Registry} {id : Uuid} {tok : TokenRow}
    {req : EnrollRequest} {now : Nat} (h : r.createAgent id tok req now = some r') :
    r'.toDatabase = r.toDatabase.createAgent id tok.tenantId now := by
  unfold createAgent at h
  split at h
  · cases h
  · split at h
    · cases h
      simp [toDatabase, Database.createAgent]
    · cases h

theorem Inserts.countByTenant {r r' : Registry} {id : Uuid} {tok : TokenRow}
    {req : EnrollRequest} {row : MachineRow} (h : Inserts r r' id tok req row)
    (tenantId : Uuid) :
    r'.countByTenant tenantId =
      r.countByTenant tenantId + if tok.tenantId = tenantId then 1 else 0 := by
  unfold Registry.countByTenant
  rw [h.agents, List.countP_append, List.countP_singleton, h.rowTenant]
  simp

/-- The certificate of an agent on record is refused only for its serial number. -/
theorem insertCertificate_isNone {r : Registry} {agentId : Uuid} {cert : Certificate}
    (hagent : exists a, a ∈ r.agents ∧ a.id = agentId) :
    (r.insertCertificate agentId cert).isNone =
      r.certificates.any fun c => c.thumbprint.serialNumber = cert.serialNumber := by
  have hknown : (r.toDatabase.agents.any fun a => a.id = agentId) = true := by
    rcases hagent with ⟨a, ha, hid⟩
    exact List.any_eq_true.mpr ⟨a.toAgentRow, List.mem_map_of_mem ha, decide_eq_true hid⟩
  have hserial : (r.certificates.any fun c =>
      c.thumbprint = cert || c.thumbprint.serialNumber = cert.serialNumber) =
      r.certificates.any fun c => c.thumbprint.serialNumber = cert.serialNumber := by
    apply congrArg (fun f => r.certificates.any f)
    funext c
    by_cases hc : c.thumbprint = cert
    · simp [hc]
    · simp [hc]
  unfold insertCertificate Database.insertCertificate
  rw [hknown]
  simp only [toDatabase, hserial, Bool.true_and]
  cases r.certificates.any fun c => c.thumbprint.serialNumber = cert.serialNumber with
  | true =>
      rfl
  | false =>
      rfl

theorem insertCertificate_some {r r' : Registry} {agentId : Uuid}
    {cert : Certificate} (h : r.insertCertificate agentId cert = some r') :
    r'.tenants = r.tenants ∧ r'.tokens = r.tokens ∧ r'.agents = r.agents := by
  rcases Option.map_eq_some_iff.mp h with ⟨db, _, heq⟩
  subst heq
  exact ⟨rfl, rfl, rfl⟩

theorem markUsed_some {r r' : Registry} {agentId tokenId : Uuid} {now : Nat}
    (h : r.markUsed agentId tokenId now = some r') :
    r' =
      { r with
        tokens := Table.updateWhere (fun t => t.id = tokenId)
          (fun t => { t with usedAt := some now, usedBy := some agentId })
          r.tokens } := by
  unfold markUsed at h
  split at h
  · exact (Option.some.inj h).symm
  · cases h

theorem insertToken_some {r r' : Registry} {tok : TokenRow}
    (h : r.insertToken tok = some r') : r' = { r with tokens := r.tokens ++ [tok] } := by
  unfold insertToken at h
  split at h
  · exact (Option.some.inj h).symm
  · cases h

end Registry

end Enrollment
end LeoOne
