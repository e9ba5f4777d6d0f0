import LeoOne.Enrollment.Enroll

/-!
# Enrolments that fail

`Enroll` runs without a transaction.  A request that is refused before the agent
is inserted leaves the tables alone; one that fails after it leaves the agent,
and the token it has marked, behind.  The second half of the module is about what
comes of that: a machine that has a row in `agents` is never enrolled again.
-/

namespace LeoOne
namespace Enrollment

open Foundation
open Backend

/-!
## The checks of `Enroll`

Each check as a condition on the request, the tables and what the statement
meets.
-/

def EnrollRequest.isComplete (req : EnrollRequest) : Bool :=
  !(req.enrollmentToken = "" || req.hostname = "" || req.hardwareId = "")

/-- The token of the request, if it is on record, unused and unexpired. -/
def Registry.validToken (r : Registry) (x : Input) (req : EnrollRequest) :
    Option TokenRow :=
  if x.fails then none
  else
    (r.findToken req.enrollmentToken).filter fun tok =>
      tok.usedAt.isNone && x.now ≤ tok.expiresAt

/-- The lookup of the machine fails or finds nothing. -/
def Registry.isNewMachine (r : Registry) (x : Input) (req : EnrollRequest)
    (tok : TokenRow) : Bool :=
  x.fails || !((r.findByHardwareId tok.tenantId req.hardwareId).join).isSome

/-- The quota is not reached, or the count or the quota cannot be read. -/
def Registry.hasRoom (r : Registry) (x : Stage -> Input) (tok : TokenRow) : Bool :=
  let count := if (x Stage.countByTenant).fails then 0 else r.countByTenant tok.tenantId
  let limit := if (x Stage.maxAgents).fails then 0 else (r.maxAgents tok.tenantId).getD 0
  !(0 < limit && limit ≤ (count : Int))

/-- The request passes all checks, and its agent is inserted. -/
def Registry.insertsAgent (r : Registry) (x : Stage -> Input)
    (body : Option EnrollRequest) : Bool :=
  body.any fun req =>
    req.isComplete &&
      (r.validToken (x Stage.findToken) req).any fun tok =>
        r.isNewMachine (x Stage.findByHardwareId) req tok && r.hasRoom x tok &&
          !(x Stage.createAgent).fails &&
          (r.createAgent (x Stage.createAgent).uuid tok req
            (x Stage.createAgent).now).isSome

/-- The certificate is issued and recorded: neither fails, and its serial number
is new. -/
def Registry.obtainsCert (r : Registry) (x : Stage -> Input) : Bool :=
  !(x Stage.issueCert).fails && !(x Stage.insertCertificate).fails &&
    !(r.certificates.any fun c =>
      c.thumbprint.serialNumber = (x Stage.issueCert).serial)

/-!
## The steps before the insertion
-/

/-- The request is answered with an error, and nothing else happens. -/
def Refuses (x : Stage -> Input) (n : Nat) (k : EnrollStep) (s : Service) : Prop :=
  exists status code message, serve x n k s =
    some { s with answers := Answer.error status code message :: s.answers }

theorem refuses_of_reject {x : Stage -> Input} {n : Nat} {k : EnrollStep} {s : Service}
    (h : exists status code message,
      k.exec (x k.stage) s = s.reject status code message) :
    Refuses x (n + 1) k s := by
  rcases h with ⟨status, code, message, hreject⟩
  refine ⟨status, code, message, ?_⟩
  rw [serve, hreject]
  rfl

theorem serve_next {x : Stage -> Input} {n : Nat} {k next : EnrollStep}
    {s t : Service} (h : k.exec (x k.stage) s = (t, some next)) :
    serve x (n + 1) k s = serve x n next t := by
  rw [serve, h]

theorem serve_last {x : Stage -> Input} {n : Nat} {k : EnrollStep} {s t : Service}
    (h : k.exec (x k.stage) s = (t, none)) : serve x (n + 1) k s = some t := by
  rw [serve, h]

section Checks

variable (x : Stage -> Input) (n : Nat) (s : Service) (req : EnrollRequest)
  (tok : TokenRow)

theorem serve_decode :
    (req.isComplete = false ∧
      Refuses x (n + 1) (EnrollStep.decode (some req)) s) ∨
    (req.isComplete = true ∧ serve x (n + 1) (EnrollStep.decode (some req)) s =
      serve x n (EnrollStep.findToken req) s) := by
  cases hmissing : (decide (req.enrollmentToken = "") || decide (req.hostname = "") ||
      decide (req.hardwareId = "")) with
  | true =>
      left
      exact ⟨by rw [EnrollRequest.isComplete, hmissing]; rfl,
        refuses_of_reject ⟨_, _, _, by rw [EnrollStep.exec, hmissing]; rfl⟩⟩
  | false =>
      right
      exact ⟨by rw [EnrollRequest.isComplete, hmissing]; rfl,
        serve_next (by rw [EnrollStep.exec, hmissing]; rfl)⟩

theorem serve_findToken :
    (s.registry.validToken (x Stage.findToken) req = none ∧
      Refuses x (n + 1) (EnrollStep.findToken req) s) ∨
    (exists tok, s.registry.validToken (x Stage.findToken) req = some tok ∧
      serve x (n + 1) (EnrollStep.findToken req) s =
        serve x n (EnrollStep.findByHardwareId req tok) s) := by
  unfold Registry.validToken
  cases hfails : (x Stage.findToken).fails with
  | true =>
      left
      refine ⟨rfl, refuses_of_reject ?_⟩
      simp only [EnrollStep.exec, EnrollStep.stage, hfails, if_true]
      exact ⟨_, _, _, rfl⟩
  | false =>
      cases hfind : s.registry.findToken req.enrollmentToken with
      | none =>
          left
          refine ⟨rfl, refuses_of_reject ?_⟩
          simp only [EnrollStep.exec, EnrollStep.stage, hfails, hfind, Bool.false_eq_true,
            if_false]
          exact ⟨_, _, _, rfl⟩
      | some tok =>
          cases hused : tok.usedAt with
          | some time =>
              left
              refine ⟨by simp [Option.filter, hused], refuses_of_reject ?_⟩
              simp only [EnrollStep.exec, EnrollStep.stage, hfails, hfind, hused,
                Bool.false_eq_true, if_false, Option.isSome_some, if_true]
              exact ⟨_, _, _, rfl⟩
          | none =>
              by_cases hvalid : (x Stage.findToken).now ≤ tok.expiresAt
              · right
                refine ⟨tok, by simp [Option.filter, hused, hvalid], serve_next ?_⟩
                simp [EnrollStep.exec, EnrollStep.stage, hfails, hfind, hused,
                  Nat.not_lt.mpr hvalid]
              · left
                refine ⟨by simp [Option.filter, hused, hvalid], refuses_of_reject ?_⟩
                simp only [EnrollStep.exec, EnrollStep.stage, hfails, hfind, hused,
                  Bool.false_eq_true, if_false, Option.isSome_none]
                exact ⟨_, _, _, if_pos (Nat.not_le.mp hvalid)⟩

theorem serve_findByHardwareId :
    (s.registry.isNewMachine (x Stage.findByHardwareId) req tok = false ∧
      Refuses x (n + 1) (EnrollStep.findByHardwareId req tok) s) ∨
    (s.registry.isNewMachine (x Stage.findByHardwareId) req tok = true ∧
      serve x (n + 1) (EnrollStep.findByHardwareId req tok) s =
        serve x n (EnrollStep.countByTenant req tok) s) := by
  unfold Registry.isNewMachine
  cases hfails : (x Stage.findByHardwareId).fails with
  | true =>
      right
      exact ⟨rfl, serve_next (by simp [EnrollStep.exec, EnrollStep.stage, hfails])⟩
  | false =>
      cases hfind : s.registry.findByHardwareId tok.tenantId req.hardwareId with
      | none =>
          right
          refine ⟨rfl, serve_next ?_⟩
          simp [EnrollStep.exec, EnrollStep.stage, hfails, hfind]
      | some found =>
          cases found with
          | none =>
              right
              refine ⟨rfl, serve_next ?_⟩
              simp [EnrollStep.exec, EnrollStep.stage, hfails, hfind]
          | some a =>
              left
              refine ⟨rfl, refuses_of_reject ?_⟩
              simp only [EnrollStep.exec, EnrollStep.stage, hfails, hfind,
                Bool.false_eq_true, if_false]
              exact ⟨_, _, _, rfl⟩

theorem serve_quota :
    (s.registry.hasRoom x tok = false ∧
      Refuses x (n + 2) (EnrollStep.countByTenant req tok) s) ∨
    (s.registry.hasRoom x tok = true ∧
      serve x (n + 2) (EnrollStep.countByTenant req tok) s =
        serve x n (EnrollStep.createAgent req tok) s) := by
  have hcounted := serve_next (x := x) (n := n + 1)
    (k := EnrollStep.countByTenant req tok) (s := s) rfl
  unfold Refuses
  rw [hcounted]
  cases hroom : s.registry.hasRoom x tok with
  | false =>
      left
      refine ⟨rfl, refuses_of_reject (n := n) ?_⟩
      rw [Registry.hasRoom, Bool.not_eq_false'] at hroom
      exact ⟨_, _, _, if_pos hroom⟩
  | true =>
      right
      refine ⟨rfl, serve_next ?_⟩
      rw [Registry.hasRoom, Bool.not_eq_true'] at hroom
      exact if_neg (Bool.not_eq_true _ ▸ hroom)

theorem serve_createAgent :
    (((x Stage.createAgent).fails = true ∨
        s.registry.createAgent (x Stage.createAgent).uuid tok req
          (x Stage.createAgent).now = none) ∧
      Refuses x (n + 1) (EnrollStep.createAgent req tok) s) ∨
    (exists registry, (x Stage.createAgent).fails = false ∧
      s.registry.createAgent (x Stage.createAgent).uuid tok req
        (x Stage.createAgent).now = some registry ∧
      serve x (n + 1) (EnrollStep.createAgent req tok) s =
        serve x n (EnrollStep.markUsed tok (x Stage.createAgent).uuid)
          { s with
            registry := registry
            enrolled := (tok.id, (x Stage.createAgent).uuid) :: s.enrolled }) := by
  cases hfails : (x Stage.createAgent).fails with
  | true =>
      left
      refine ⟨Or.inl rfl, refuses_of_reject ?_⟩
      simp only [EnrollStep.exec, EnrollStep.stage, hfails, if_true]
      exact ⟨_, _, _, rfl⟩
  | false =>
      cases hcreate : s.registry.createAgent (x Stage.createAgent).uuid tok req
          (x Stage.createAgent).now with
      | none =>
          left
          refine ⟨Or.inr rfl, refuses_of_reject ?_⟩
          simp only [EnrollStep.exec, EnrollStep.stage, hfails, hcreate,
            Bool.false_eq_true, if_false]
          exact ⟨_, _, _, rfl⟩
      | some registry =>
          right
          refine ⟨registry, rfl, rfl, serve_next ?_⟩
          simp [EnrollStep.exec, EnrollStep.stage, hfails, hcreate]

end Checks

/-- Up to the insertion: the request is refused and nothing is written, or its
agent is in the table and the token is about to be marked. -/
theorem enroll_cases (x : Stage -> Input) (body : Option EnrollRequest) (s : Service) :
    (s.registry.insertsAgent x body = false ∧
      Refuses x 9 (EnrollStep.decode body) s) ∨
    (s.registry.insertsAgent x body = true ∧ exists req tok registry,
      s.registry.createAgent (x Stage.createAgent).uuid tok req
        (x Stage.createAgent).now = some registry ∧
      enroll x body s = serve x 3 (EnrollStep.markUsed tok (x Stage.createAgent).uuid)
        { s with
          registry := registry
          enrolled := (tok.id, (x Stage.createAgent).uuid) :: s.enrolled }) := by
  cases body with
  | none =>
      exact Or.inl ⟨rfl, refuses_of_reject ⟨_, _, _, rfl⟩⟩
  | some req =>
      simp only [enroll, Registry.insertsAgent, Option.any_some, Refuses]
      rcases serve_decode x 8 s req with ⟨hcheck, hrefuses⟩ | ⟨hcheck, hnext⟩
      · exact Or.inl ⟨by simp [hcheck], hrefuses⟩
      · rw [hnext]
        rcases serve_findToken x 7 s req with ⟨htoken, hrefuses⟩ | ⟨tok, htoken, hnext⟩
        · exact Or.inl ⟨by simp [htoken], hrefuses⟩
        · rw [hnext]
          rcases serve_findByHardwareId x 6 s req tok with ⟨hnew, hrefuses⟩ | ⟨hnew, hnext⟩
          · exact Or.inl ⟨by simp [htoken, hnew], hrefuses⟩
          · rw [hnext]
            rcases serve_quota x 4 s req tok with ⟨hroom, hrefuses⟩ | ⟨hroom, hnext⟩
            · exact Or.inl ⟨by simp [htoken, hroom], hrefuses⟩
            · rw [hnext]
              rcases serve_createAgent x 3 s req tok with ⟨hfailed | hnone, hrefuses⟩ |
                ⟨registry, hok, hcreate, hnext⟩
              · exact Or.inl ⟨by simp [htoken, hfailed], hrefuses⟩
              · exact Or.inl ⟨by simp [htoken, hnone], hrefuses⟩
              · right
                refine ⟨?_, req, tok, registry, hcreate, hnext⟩
                simp [hcheck, htoken, hnew, hroom, hok, hcreate]

/-!
## The steps after the insertion
-/

/-- The mark, whether it succeeds or not, touches neither agents nor
certificates. -/
theorem serve_markUsed (x : Stage -> Input) (n : Nat) (s : Service) (tok : TokenRow)
    (agentId : Uuid) :
    exists t, t.registry.agents = s.registry.agents ∧
      t.registry.certificates = s.registry.certificates ∧ t.answers = s.answers ∧
      serve x (n + 1) (EnrollStep.markUsed tok agentId) s =
        serve x n (EnrollStep.issueCert tok agentId) t := by
  have hmoves := moves_exec (x Stage.markUsed) s (EnrollStep.markUsed tok agentId)
  generalize hexec :
    (EnrollStep.markUsed tok agentId).exec (x Stage.markUsed) s = result at hmoves
  rcases result with ⟨t, next⟩
  cases hmoves with
  | rejected hstage =>
      exact absurd rfl hstage
  | marked hmark =>
      rename_i registry
      refine ⟨{ s with registry := registry }, ?_, ?_, rfl, serve_next hexec⟩
      · rw [Registry.markUsed_some hmark]
      · rw [Registry.markUsed_some hmark]
  | unmarked _ =>
      exact ⟨t, rfl, rfl, rfl, serve_next hexec⟩

/-- The request is answered, with an error or not, and the agents stay. -/
def Answers (x : Stage -> Input) (n : Nat) (k : EnrollStep) (s : Service)
    (error : Bool) : Prop :=
  exists t answer, serve x n k s = some t ∧ t.answers = answer :: s.answers ∧
    answer.isError = error ∧ t.registry.agents = s.registry.agents

theorem Refuses.answers {x : Stage -> Input} {n : Nat} {k : EnrollStep} {s : Service}
    (h : Refuses x n k s) : Answers x n k s true := by
  rcases h with ⟨status, code, message, hserve⟩
  exact ⟨_, _, hserve, rfl, rfl, rfl⟩

theorem serve_insertCertificate (x : Stage -> Input) (n : Nat) (s : Service)
    (tok : TokenRow) (agentId : Uuid) (cert : Certificate) :
    Answers x (n + 1) (EnrollStep.insertCertificate tok agentId cert) s
      ((x Stage.insertCertificate).fails ||
        (s.registry.insertCertificate agentId cert).isNone) := by
  cases hstatement : (x Stage.insertCertificate).fails with
  | true =>
      apply Refuses.answers
      apply refuses_of_reject
      simp only [EnrollStep.exec, EnrollStep.stage, hstatement, if_true]
      exact ⟨_, _, _, rfl⟩
  | false =>
      cases hinsert : s.registry.insertCertificate agentId cert with
      | none =>
          apply Refuses.answers
          apply refuses_of_reject
          simp only [EnrollStep.exec, EnrollStep.stage, hstatement, hinsert,
            Bool.false_eq_true, if_false]
          exact ⟨_, _, _, rfl⟩
      | some registry =>
          have hlast : serve x (n + 1) (EnrollStep.insertCertificate tok agentId cert) s =
              some
                { s with
                  registry := registry
                  answers :=
                    Answer.created agentId tok.tenantId s.wsEndpoint cert
                      s.serverFingerprint :: s.answers } := by
            apply serve_last
            simp only [EnrollStep.exec, EnrollStep.stage, hstatement, hinsert,
              Bool.false_eq_true, if_false]
          exact ⟨_, _, hlast, rfl, rfl, (Registry.insertCertificate_some hinsert).right.right⟩

/-- From the mark on: the answer is the certificate or an error, and the agent
stays in either case. -/
theorem serve_inserted (x : Stage -> Input) (s : Service) (tok : TokenRow)
    {agentId : Uuid} (hagent : exists a, a ∈ s.registry.agents ∧ a.id = agentId) :
    Answers x 3 (EnrollStep.markUsed tok agentId) s (!s.registry.obtainsCert x) := by
  rcases serve_markUsed x 2 s tok agentId with ⟨t, hagents, hcerts, hanswers, hserve⟩
  unfold Answers
  rw [hserve, ← hagents, ← hanswers]
  show Answers x 2 (EnrollStep.issueCert tok agentId) t (!s.registry.obtainsCert x)
  unfold Registry.obtainsCert
  rw [← hcerts]
  cases hissue : (x Stage.issueCert).fails with
  | true =>
      apply Refuses.answers
      apply refuses_of_reject
      simp only [EnrollStep.exec, EnrollStep.stage, hissue, if_true]
      exact ⟨_, _, _, rfl⟩
  | false =>
      have hnext : serve x 2 (EnrollStep.issueCert tok agentId) t =
          serve x 1 (EnrollStep.insertCertificate tok agentId
            (issueAgentCert agentId tok.tenantId (x Stage.issueCert).serial)) t := by
        apply serve_next
        simp only [EnrollStep.exec, EnrollStep.stage, hissue, Bool.false_eq_true, if_false]
      unfold Answers
      rw [hnext]
      have hinserted := serve_insertCertificate x 0 t tok agentId
        (issueAgentCert agentId tok.tenantId (x Stage.issueCert).serial)
      rw [Registry.insertCertificate_isNone (by rwa [hagents])] at hinserted
      simp only [Bool.not_and, Bool.not_not, Bool.not_false, Bool.true_and]
      exact hinserted

/-!
## Errors that leave traces
-/

/-- The tables of an enrolment are the same. -/
def Registry.SameTables (r r' : Registry) : Prop :=
  r'.agents = r.agents ∧ r'.tokens = r.tokens ∧ r'.certificates = r.certificates

/-- `Enroll` always answers.  An error leaves the tables as they were, unless the
agent has been inserted and the certificate is then not issued or not recorded. -/
theorem enroll_error_atomic_iff (x : Stage -> Input) (body : Option EnrollRequest)
    (s : Service) :
    exists t answer, enroll x body s = some t ∧ t.answers = answer :: s.answers ∧
      ((answer.isError = true -> s.registry.SameTables t.registry) <->
        (s.registry.insertsAgent x body = true -> s.registry.obtainsCert x = true)) := by
  rcases enroll_cases x body s with ⟨hrefused, status, code, message, hserve⟩ |
    ⟨hinserts, req, tok, registry, hcreate, hserve⟩
  · refine ⟨_, _, hserve, rfl, ?_⟩
    rw [hrefused]
    constructor
    · intro _ hinserts
      cases hinserts
    · intro _ _
      exact ⟨rfl, rfl, rfl⟩
  · rcases Registry.createAgent_some hcreate with ⟨row, hrow⟩
    have hagent : exists a, a ∈ registry.agents ∧ a.id = (x Stage.createAgent).uuid := by
      refine ⟨row, ?_, hrow.rowId⟩
      rw [hrow.agents]
      exact List.mem_append.mpr (Or.inr List.mem_cons_self)
    have hobtains : registry.obtainsCert x = s.registry.obtainsCert x := by
      unfold Registry.obtainsCert
      rw [hrow.certificates]
    rcases serve_inserted x
        { s with
          registry := registry
          enrolled := (tok.id, (x Stage.createAgent).uuid) :: s.enrolled }
        tok hagent with ⟨t, answer, hend, hanswers, herror, hagents⟩
    refine ⟨t, answer, hserve.trans hend, hanswers, ?_⟩
    simp only [hobtains] at herror
    have hchanged : ¬ s.registry.SameTables t.registry := by
      rintro ⟨hsame, _, _⟩
      rw [hagents, hrow.agents] at hsame
      exact absurd hsame (by simp)
    rw [herror, hinserts]
    cases hcert : s.registry.obtainsCert x with
    | true =>
        constructor
        · intro _ _
          rfl
        · intro _ hfalse
          cases hfalse
    | false =>
        constructor
        · intro hsame
          exact absurd (hsame rfl) hchanged
        · intro hfalse
          cases hfalse rfl

namespace Sample

/-- Nothing fails. -/
def allFine (agentId : Uuid) (serial : Nat) : Stage -> Input :=
  fun _ => fine agentId serial

/-- Only the last statement fails. -/
def lastFails (agentId : Uuid) (serial : Nat) : Stage -> Input := fun stage =>
  { fine agentId serial with fails := stage = Stage.insertCertificate }

end Sample

/-- The certificate cannot be recorded: the answer is an error, but the agent is
in the table and the token is spent, so that the same request cannot be
repeated. -/
theorem error_spends_token :
    exists t, enroll (Sample.lastFails Sample.firstAgent 1)
        (some (Sample.request "t1" "hw-1")) (Sample.start 10).shared = some t ∧
      t.answers = [Answer.error 500 "INTERNAL_ERROR"
        "erreur lors de l'enregistrement du certificat agent"] ∧
      ¬ (Sample.registry 10).SameTables t.registry ∧
      t.registry.agents.length = 1 ∧ t.registry.certificates = [] ∧
      exists t', enroll (Sample.allFine Sample.secondAgent 2)
          (some (Sample.request "t1" "hw-1")) t = some t' ∧
        t'.answers = Answer.error 401 "ENROLLMENT_TOKEN_USED" "token déjà utilisé" ::
          t.answers := by
  refine ⟨_, rfl, rfl, ?_, rfl, rfl, _, rfl, rfl⟩
  rintro ⟨hagents, _, _⟩
  cases hagents

/-!
## Enrolling a machine again
-/

/-- The request is answered with a certificate that the handshake accepts. -/
def Reenrols (x : Stage -> Input) (s : Service) (req : EnrollRequest) : Prop :=
  exists t agentId tenantId wsEndpoint cert serverFingerprint,
    enroll x (some req) s = some t ∧
    t.answers =
      Answer.created agentId tenantId wsEndpoint cert serverFingerprint :: s.answers ∧
    t.registry.accepts cert = true

/-- No agent is inserted for a machine that has a row. -/
theorem insertsAgent_of_mem {r : Registry} {a : MachineRow} (ha : a ∈ r.agents)
    {req : EnrollRequest} {tok : TokenRow}
    (htok : r.findToken req.enrollmentToken = some tok)
    (htenant : tok.tenantId = a.tenantId) (hhardware : req.hardwareId = a.hardwareId)
    (x : Stage -> Input) : r.insertsAgent x (some req) = false := by
  have hvalid : forall tok', r.validToken (x Stage.findToken) req = some tok' ->
      tok' = tok := by
    intro tok' hsome
    have hfound := (of_not_fails hsome).right
    rw [htok] at hfound
    exact (Option.some.inj (Option.filter_eq_some_iff.mp hfound).left).symm
  cases htoken : r.validToken (x Stage.findToken) req with
  | none =>
      simp [Registry.insertsAgent, htoken]
  | some tok' =>
      rw [hvalid tok' htoken] at htoken
      simp [Registry.insertsAgent, htoken, Registry.createAgent_of_mem ha htenant hhardware]

/-- Whatever its certificates are worth, whatever the token and whichever
statements fail, a machine that has a row in `agents` is refused. -/
theorem never_reenrolled {s : Service} {a : MachineRow} (ha : a ∈ s.registry.agents)
    {req : EnrollRequest} {tok : TokenRow}
    (htok : s.registry.findToken req.enrollmentToken = some tok)
    (htenant : tok.tenantId = a.tenantId) (hhardware : req.hardwareId = a.hardwareId)
    (x : Stage -> Input) :
    (exists status code message, enroll x (some req) s =
      some { s with answers := Answer.error status code message :: s.answers }) ∧
    ¬ Reenrols x s req := by
  rcases enroll_cases x (some req) s with ⟨_, status, code, message, hserve⟩ |
    ⟨hinserts, _⟩
  · refine ⟨⟨status, code, message, hserve⟩, ?_⟩
    rintro ⟨t, agentId, tenantId, wsEndpoint, cert, fingerprint, hserve', hanswers, _⟩
    have heq := Option.some.inj (hserve.symm.trans hserve')
    subst heq
    cases (List.cons.inj hanswers).left
  · rw [insertsAgent_of_mem ha htok htenant hhardware x] at hinserts
    cases hinserts

namespace Sample

/-- A machine is enrolled, and its certificate is revoked. -/
def enrolledThenRevoked : List Event :=
  [PoolEvent.start (Request.enroll (some (request "t1" "hw-1")))] ++
    steps 0 9 (fine firstAgent 1) ++
    [PoolEvent.start (Request.revokeCertificate tenant.text firstAgent.text)] ++
    steps 1 2 (fine firstAgent 1)

end Sample

theorem never_reenrolled_revoked :
    exists q a tok, service.run (Sample.start 10) Sample.enrolledThenRevoked = some q ∧
      a ∈ q.shared.registry.agents ∧
      q.shared.registry.findToken "t2" = some tok ∧
      ¬ Reenrols (Sample.allFine Sample.secondAgent 2) q.shared
        (Sample.request "t2" "hw-1") := by
  obtain ⟨q, a, tok, hrun, ha, htok, htenant, hhardware⟩ : exists q a tok,
      service.run (Sample.start 10) Sample.enrolledThenRevoked = some q ∧
        a ∈ q.shared.registry.agents ∧
        q.shared.registry.findToken "t2" = some tok ∧ tok.tenantId = a.tenantId ∧
        "hw-1" = a.hardwareId :=
    ⟨_, _, _, rfl, List.mem_cons_self, rfl, rfl, rfl⟩
  exact ⟨q, a, tok, hrun, ha, htok, (never_reenrolled ha htok htenant hhardware _).right⟩

/-- An agent all of whose certificates are revoked, a fresh token of its tenant
and a quota that is far off: the request is refused with a conflict, although no
statement fails. -/
theorem revoked_agent_refused :
    exists q a tok, service.run (Sample.start 10) Sample.enrolledThenRevoked = some q ∧
      a ∈ q.shared.registry.agents ∧
      (q.shared.registry.certificates.all fun c => c.revokedAt.isSome) = true ∧
      q.shared.registry.findToken "t2" = some tok ∧ tok.usedAt = none ∧
      0 < tok.expiresAt ∧ tok.tenantId = a.tenantId ∧ a.hardwareId = "hw-1" ∧
      q.shared.registry.countByTenant Sample.tenant < 10 ∧
      exists t, enroll (Sample.allFine Sample.secondAgent 2)
          (some (Sample.request "t2" "hw-1")) q.shared = some t ∧
        t.answers = Answer.error 409 "AGENT_ALREADY_EXISTS"
          "un agent avec ce hardware_id existe déjà" :: q.shared.answers :=
  ⟨_, _, _, rfl, List.mem_cons_self, by decide, rfl, rfl, by decide, rfl, rfl, by decide,
    _, rfl, rfl⟩

end Enrollment
end LeoOne
