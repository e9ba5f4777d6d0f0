import Mathlib.Data.List.Nodup
import LeoOne.Accounts.Auth

/-!
# Who can log in

`users` is `UNIQUE(tenant_id, email)`, but `Login` looks an email up in all tenants and
takes the row that the database returns first.  A user gets their own tokens exactly if
that row is theirs.
-/

namespace LeoOne
namespace Accounts

open Foundation

/-- The answer to a request, with what each of its steps meets: the state may have been
changed by other requests since the step before. -/
def AuthStep.answer (cfg : AuthConfig) : List (AuthInput × AuthState) -> AuthStep ->
    Option AuthAnswer
  | [], _ => none
  | (x, s) :: rest, k =>
      match k.exec cfg x s with
      | (s', none) => s'.answers.head?
      | (_, some k') => k'.answer cfg rest

/-- The keys of `users`: the primary key and `UNIQUE(tenant_id, email)`. -/
structure Directory.UserKeys (d : Directory) : Prop where
  ids : (d.users.map fun u => u.id).Nodup
  emails : (d.users.map fun u => (u.tenantId, u.email)).Nodup

/-- Both tokens are those of the user. -/
structure OwnTokens (u : UserRow) (access refresh : Claims) : Prop where
  sub : access.sub = u.id.text
  tenantId : access.tenantId = u.tenantId.text
  refreshSub : refresh.sub = u.id.text
  refreshTenantId : refresh.tenantId = u.tenantId.text

/-- The answer has the user's tokens. -/
def LoggedIn (u : UserRow) (answer : Option AuthAnswer) : Prop :=
  exists access refresh, answer = some (AuthAnswer.session access refresh) ∧
    OwnTokens u access refresh

theorem not_loggedIn_error {u : UserRow} {status : Nat} {code message : String} :
    ¬ LoggedIn u (some (AuthAnswer.error status code message)) := by
  rintro ⟨access, refresh, hanswer, _⟩
  cases hanswer

section Steps

variable {cfg : AuthConfig} {x : AuthInput} {s s' : AuthState} {k k' : AuthStep}
variable {rest : List (AuthInput × AuthState)}

theorem answer_goes (h : k.exec cfg x s = (s', some k')) :
    k.answer cfg ((x, s) :: rest) = k'.answer cfg rest := by
  rw [AuthStep.answer, h]

theorem answer_replied (h : k.exec cfg x s = (s', none)) :
    k.answer cfg ((x, s) :: rest) = s'.answers.head? := by
  rw [AuthStep.answer, h]

/-- A failure that is recorded is answered with an error. -/
theorem recordFailure_answer {u : UserRow} (emailKey : String) (status : Nat)
    (code message : String) (met : List (AuthInput × AuthState)) :
    ¬ LoggedIn u ((AuthStep.recordFailure emailKey status code message).answer cfg met) := by
  cases met with
  | nil =>
      rintro ⟨access, refresh, hanswer, _⟩
      cases hanswer
  | cons first rest =>
      exact not_loggedIn_error

end Steps

section Login

variable {cfg : AuthConfig} {u v : UserRow} {isAdmin : Bool} {req : LoginRequest}
variable (x₁ x₂ x₃ x₄ x₅ : AuthInput) (s₂ s₃ s₄ s₅ : AuthState)

/-- The signatures: the tokens are those of the row that was found. -/
theorem signAccess_answer :
    LoggedIn u ((AuthStep.signAccess v isAdmin).answer cfg [(x₄, s₄), (x₅, s₅)]) <->
      (x₄.fails = false ∧ x₅.fails = false) ∧ v.id = u.id ∧ v.tenantId = u.tenantId := by
  cases h₄ : x₄.fails with
  | true =>
      have hexec : (AuthStep.signAccess v isAdmin).exec cfg x₄ s₄ =
          s₄.reject 500 "INTERNAL_ERROR" "erreur de génération du token" := by
        simp only [AuthStep.exec, h₄, if_true]
      rw [answer_replied hexec]
      exact ⟨fun h => absurd h not_loggedIn_error, fun h => Bool.noConfusion h.left.left⟩
  | false =>
      have hexec : exists s', (AuthStep.signAccess v isAdmin).exec cfg x₄ s₄ =
          (s', some (AuthStep.signSession v
            (cfg.accessClaims v.id.text v.tenantId.text isAdmin s₄.now) s₄.now)) := by
        simp only [AuthStep.exec, h₄, Bool.false_eq_true, if_false]
        exact ⟨_, rfl⟩
      rcases hexec with ⟨s', hexec⟩
      rw [answer_goes hexec]
      cases h₅ : x₅.fails with
      | true =>
          have hexec' : (AuthStep.signSession v
              (cfg.accessClaims v.id.text v.tenantId.text isAdmin s₄.now) s₄.now).exec cfg x₅ s₅ =
              s₅.reject 500 "INTERNAL_ERROR" "erreur de génération du refresh token" := by
            simp only [AuthStep.exec, h₅, if_true]
          rw [answer_replied hexec']
          exact ⟨fun h => absurd h not_loggedIn_error, fun h => Bool.noConfusion h.left.right⟩
      | false =>
          rw [AuthStep.answer]
          simp only [AuthStep.exec, h₅, Bool.false_eq_true, if_false, List.head?_cons]
          constructor
          · rintro ⟨access, refresh, hanswer, hown⟩
            cases hanswer
            exact ⟨⟨trivial, trivial⟩, Uuid.ext_text hown.sub, Uuid.ext_text hown.tenantId⟩
          · rintro ⟨_, hid, htenant⟩
            refine ⟨_, _, rfl, ?_⟩
            rw [hid, htenant]
            exact ⟨rfl, rfl, rfl, rfl⟩

/-- The verification: a wrong password is answered with an error. -/
theorem verify_answer :
    LoggedIn u ((AuthStep.verify req v isAdmin).answer cfg
        [(x₂, s₂), (x₃, s₃), (x₄, s₄), (x₅, s₅)]) <->
      cfg.verifyArgon2id req.password v.passwordHash = true ∧
        (x₄.fails = false ∧ x₅.fails = false) ∧ v.id = u.id ∧ v.tenantId = u.tenantId := by
  cases hverify : cfg.verifyArgon2id req.password v.passwordHash with
  | false =>
      have hexec : exists s' key code message,
          (AuthStep.verify req v isAdmin).exec cfg x₂ s₂ =
            (s', some (AuthStep.recordFailure key 401 code message)) := by
        simp only [AuthStep.exec, hverify, Bool.false_eq_true, if_false]
        exact ⟨_, _, _, _, rfl⟩
      rcases hexec with ⟨s', key, code, message, hexec⟩
      rw [answer_goes hexec]
      exact ⟨fun h => absurd h (recordFailure_answer _ _ _ _ _), fun h => Bool.noConfusion h.left⟩
  | true =>
      have hexec : (AuthStep.verify req v isAdmin).exec cfg x₂ s₂ =
          (s₂, some (AuthStep.reset (cfg.emailKey req.email) v isAdmin)) := by
        simp only [AuthStep.exec, hverify, if_true]
      have hreset : exists s', (AuthStep.reset (cfg.emailKey req.email) v isAdmin).exec cfg x₃ s₃ =
          (s', some (AuthStep.signAccess v isAdmin)) :=
        ⟨_, rfl⟩
      rcases hreset with ⟨s', hreset⟩
      rw [answer_goes hexec, answer_goes hreset, signAccess_answer]
      exact ⟨fun h => ⟨rfl, h⟩, fun h => h.right⟩

/-- From the lookup on: the user's tokens are answered exactly if the row is theirs. -/
theorem findLogin_answer {s₁ : AuthState} (hkeys : s₁.directory.UserKeys)
    (hu : u ∈ s₁.directory.users) (hactive : u.isActive = true)
    (hpassword : cfg.verifyArgon2id req.password u.passwordHash = true) :
    LoggedIn u ((AuthStep.findLogin req).answer cfg
        [(x₁, s₁), (x₂, s₂), (x₃, s₃), (x₄, s₄), (x₅, s₅)]) <->
      (x₁.fails = false ∧ x₄.fails = false ∧ x₅.fails = false) ∧
        s₁.directory.findLogin req.email x₁.pick = some u := by
  cases h₁ : x₁.fails with
  | true =>
      have hexec : (AuthStep.findLogin req).exec cfg x₁ s₁ =
          s₁.reject 500 "INTERNAL_ERROR" "erreur de base de données" := by
        simp only [AuthStep.exec, h₁, if_true]
      rw [answer_replied hexec]
      exact ⟨fun h => absurd h not_loggedIn_error, fun h => Bool.noConfusion h.left.left⟩
  | false =>
      cases hfind : s₁.directory.findLogin req.email x₁.pick with
      | none =>
          have hexec : exists key code message, (AuthStep.findLogin req).exec cfg x₁ s₁ =
              (s₁, some (AuthStep.recordFailure key 401 code message)) := by
            simp only [AuthStep.exec, h₁, hfind, Bool.false_eq_true, if_false]
            exact ⟨_, _, _, rfl⟩
          rcases hexec with ⟨key, code, message, hexec⟩
          rw [answer_goes hexec]
          refine ⟨fun h => absurd h (recordFailure_answer _ _ _ _ _), fun h => ?_⟩
          cases h.right
      | some v =>
          rcases Directory.findLogin_mem hfind with ⟨hv, _⟩
          cases hon : v.isActive with
          | false =>
              have hexec : exists key code message, (AuthStep.findLogin req).exec cfg x₁ s₁ =
                  (s₁, some (AuthStep.recordFailure key 403 code message)) := by
                simp only [AuthStep.exec, h₁, hfind, hon, Bool.false_eq_true, if_false]
                exact ⟨_, _, _, rfl⟩
              rcases hexec with ⟨key, code, message, hexec⟩
              rw [answer_goes hexec]
              refine ⟨fun h => absurd h (recordFailure_answer _ _ _ _ _), fun h => ?_⟩
              cases h.right
              cases hactive.symm.trans hon
          | true =>
              have hexec : (AuthStep.findLogin req).exec cfg x₁ s₁ =
                  (s₁, some (AuthStep.verify req v (s₁.directory.isAdmin v.id))) := by
                simp only [AuthStep.exec, h₁, hfind, hon, Bool.false_eq_true, if_false, if_true]
              rw [answer_goes hexec, verify_answer]
              constructor
              · rintro ⟨_, hruns, hid, _⟩
                refine ⟨⟨rfl, hruns⟩, congrArg some ?_⟩
                exact List.inj_on_of_nodup_map hkeys.ids hv hu hid
              · rintro ⟨⟨_, hruns⟩, hsame⟩
                cases hsame
                exact ⟨hpassword, hruns, rfl, rfl⟩

end Login

/-- Whichever row comes first is the user's exactly if no other tenant has the email. -/
theorem findLogin_own_iff {d : Directory} (hkeys : d.UserKeys) {u : UserRow}
    (hu : u ∈ d.users) :
    (forall pick, d.findLogin u.email pick = some u) <->
      forall v, v ∈ d.users -> v.email = u.email -> v.tenantId = u.tenantId := by
  constructor
  · intro hown v hv hemail
    have hrow : v ∈ d.users.filter fun w => w.email = u.email := by
      rw [List.mem_filter]
      exact ⟨hv, decide_eq_true hemail⟩
    rcases List.getElem?_of_mem hrow with ⟨pick, hget⟩
    have hfind := hown pick
    simp only [Directory.findLogin, hget, Option.some_or] at hfind
    rw [Option.some.inj hfind]
  · intro hsingle pick
    have hrows : u ∈ d.users.filter fun w => w.email = u.email := by
      rw [List.mem_filter]
      exact ⟨hu, decide_eq_true rfl⟩
    have hfound : exists v, d.findLogin u.email pick = some v := by
      rw [← Option.isSome_iff_exists]
      simp only [Directory.findLogin, Option.isSome_or, List.isSome_head?, Bool.or_eq_true]
      exact Or.inr (by simp [List.ne_nil_of_mem hrows])
    rcases hfound with ⟨v, hfind⟩
    rcases Directory.findLogin_mem hfind with ⟨hv, hemail⟩
    rw [hfind]
    refine congrArg some (List.inj_on_of_nodup_map hkeys.emails hv hu ?_)
    rw [hsingle v hv hemail, hemail]

/-- An active user who presents their email and password, and whose account is not
locked, gets their own tokens exactly if neither field is empty, no statement or
signature fails, and the row that the database returns for the email is theirs.  It is
theirs whatever the database returns if and only if no other tenant has the email. -/
theorem login_complete_iff (cfg : AuthConfig) (x₀ x₁ x₂ x₃ x₄ x₅ : AuthInput)
    (s₀ s₁ s₂ s₃ s₄ s₅ : AuthState) (hkeys : s₁.directory.UserKeys) {u : UserRow}
    (hu : u ∈ s₁.directory.users) (hactive : u.isActive = true) {req : LoginRequest}
    (hemail : req.email = u.email)
    (hpassword : cfg.verifyArgon2id req.password u.passwordHash = true)
    (hopen : (s₀.kept cfg (cfg.emailKey req.email)).length < cfg.max) :
    (LoggedIn u ((AuthStep.login (some req)).answer cfg
        [(x₀, s₀), (x₁, s₁), (x₂, s₂), (x₃, s₃), (x₄, s₄), (x₅, s₅)]) <->
      (req.email ≠ "" ∧ req.password ≠ "") ∧
        (x₁.fails = false ∧ x₄.fails = false ∧ x₅.fails = false) ∧
        s₁.directory.findLogin req.email x₁.pick = some u) ∧
    ((forall pick, s₁.directory.findLogin req.email pick = some u) <->
      forall v, v ∈ s₁.directory.users -> v.email = u.email -> v.tenantId = u.tenantId) := by
  constructor
  · by_cases hempty : req.email = "" ∨ req.password = ""
    · have hexec : (AuthStep.login (some req)).exec cfg x₀ s₀ =
          s₀.reject 400 "VALIDATION_ERROR" "email et mot de passe requis" := by
        simp [AuthStep.exec, hempty]
      rw [answer_replied hexec]
      refine ⟨fun h => absurd h not_loggedIn_error, fun h => ?_⟩
      exact (Or.elim hempty h.left.left h.left.right).elim
    · have hexec : exists s', (AuthStep.login (some req)).exec cfg x₀ s₀ =
          (s', some (AuthStep.findLogin req)) := by
        simp [AuthStep.exec, hempty, Nat.not_le.mpr hopen]
      rcases hexec with ⟨s', hexec⟩
      rw [answer_goes hexec, findLogin_answer _ _ _ _ _ _ _ _ _ hkeys hu hactive hpassword]
      exact ⟨fun h => ⟨not_or.mp hempty, h⟩, fun h => h.right⟩
  · rw [hemail]
    exact findLogin_own_iff hkeys hu

namespace SampleTwins

def tenant (i : Fin 2) : Uuid :=
  if i = 0 then { text := "54000000-0000-4000-8000-000000000000", canonical := by decide }
  else { text := "54000000-0000-4000-8000-000000000001", canonical := by decide }

/-- The same person in two tenants, with another password in each. -/
def user (i : Fin 2) : UserRow where
  id :=
    if i = 0 then { text := "54000000-0000-4000-8000-00000000000a", canonical := by decide }
    else { text := "54000000-0000-4000-8000-00000000000b", canonical := by decide }
  tenantId := tenant i
  email := "tech@msp"
  passwordHash := if i = 0 then "p0" else "p1"
  fullName := "Tech"
  isActive := true

def config : AuthConfig where
  accessTTL := 900000000000
  refreshTTL := 604800000000000
  max := 10
  window := 900000000000
  emailKey := fun email => email
  verifyArgon2id := fun password hash => password = hash

def state (users : List UserRow) : AuthState :=
  (authBoot 0 { users := users, roles := [], userRoles := [] }).shared

def input : AuthInput where
  fails := false
  pick := 0

def request : LoginRequest where
  email := "tech@msp"
  password := "p1"

/-- The login of the second user. -/
def answer (users : List UserRow) : Option AuthAnswer :=
  (AuthStep.login (some request)).answer config (List.replicate 6 (input, state users))

end SampleTwins

theorem login_complete_iff_alone :
    LoggedIn (SampleTwins.user 1) (SampleTwins.answer [SampleTwins.user 1]) := by
  have hiff := login_complete_iff SampleTwins.config SampleTwins.input SampleTwins.input
    SampleTwins.input SampleTwins.input SampleTwins.input SampleTwins.input
    (SampleTwins.state [SampleTwins.user 1]) (SampleTwins.state [SampleTwins.user 1])
    (SampleTwins.state [SampleTwins.user 1]) (SampleTwins.state [SampleTwins.user 1])
    (SampleTwins.state [SampleTwins.user 1]) (SampleTwins.state [SampleTwins.user 1])
    ⟨by decide, by decide⟩ (List.mem_singleton_self (SampleTwins.user 1)) rfl
    (show SampleTwins.request.email = (SampleTwins.user 1).email from rfl) (by decide)
    (by decide)
  exact hiff.left.mpr ⟨⟨by decide, by decide⟩, ⟨rfl, rfl, rfl⟩, rfl⟩

/-- The email is also that of a user of another tenant, whose row comes first: the second
user is refused. -/
theorem other_tenant_refuses_login :
    (SampleTwins.state [SampleTwins.user 0, SampleTwins.user 1]).directory.UserKeys ∧
      (SampleTwins.user 1).isActive = true ∧
      SampleTwins.request.email = (SampleTwins.user 1).email ∧
      SampleTwins.config.verifyArgon2id SampleTwins.request.password
        (SampleTwins.user 1).passwordHash = true ∧
      SampleTwins.answer [SampleTwins.user 0, SampleTwins.user 1] =
        some (AuthAnswer.error 401 "UNAUTHORIZED" "email ou mot de passe invalide") ∧
      ¬ LoggedIn (SampleTwins.user 1)
        (SampleTwins.answer [SampleTwins.user 0, SampleTwins.user 1]) := by
  have hrefused : SampleTwins.answer [SampleTwins.user 0, SampleTwins.user 1] =
      some (AuthAnswer.error 401 "UNAUTHORIZED" "email ou mot de passe invalide") := by
    decide
  refine ⟨⟨by decide, by decide⟩, rfl, rfl, by decide, hrefused, ?_⟩
  rw [hrefused]
  exact not_loggedIn_error

end Accounts
end LeoOne
