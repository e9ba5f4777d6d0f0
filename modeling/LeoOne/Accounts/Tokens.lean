import LeoOne.Accounts.Auth

/-!
# Tokens after a deactivation

Tokens are stateless: the middleware looks neither at the account nor at any list
of revoked tokens.  What bounds the access of a deactivated user is an invariant
of all tokens ever signed: an access token expires no later than `accessTTL`
after its signature, and both handlers sign only for accounts that they have seen
active.
-/

namespace LeoOne
namespace Accounts

open Foundation

/-- The account is inactive or deleted. -/
def Inactive (u : Uuid) (d : Directory) : Prop :=
  forall row, row ∈ d.users -> row.id = u -> row.isActive = false

instance (u : Uuid) (d : Directory) : Decidable (Inactive u d) :=
  inferInstanceAs (Decidable (forall row, row ∈ d.users -> row.id = u -> row.isActive = false))

namespace AuthStep

/-- A step of a `Login` or `Refresh` request. -/
def ofLogin : AuthStep -> Bool
  | authenticate _ => false
  | advance _ => false
  | change _ => false
  | _ => true

/-- A step that leads to an access token for the user. -/
def signsFor (u : Uuid) : AuthStep -> Bool
  | verify _ row _ => row.id = u
  | reset _ row _ => row.id = u
  | signAccess row _ => row.id = u
  | signRefresh userId _ _ => Uuid.named userId u
  | _ => false

theorem signsFor_of_not_ofLogin {k : AuthStep} (h : k.ofLogin = false) (u : Uuid) :
    k.signsFor u = false := by
  cases k <;> first | rfl | cases h

end AuthStep

/-!
## What a step does to the tokens
-/

/-- The effects of a step on the tokens. -/
inductive TokenMove (cfg : AuthConfig) (s : AuthState) (k : AuthStep) (s' : AuthState) :
    Prop where
  /-- An access token is signed. -/
  | access {sub tenantId : String} {isAdmin : Bool}
      (hissued : s'.issued = cfg.accessClaims sub tenantId isAdmin s.now :: s.issued)
      (haccepted : s'.accepted = s.accepted) (hrenewed : s'.renewed = s.renewed)
      (hnow : s'.now = s.now)
      (hfor : forall u, k.signsFor u = false -> Uuid.named sub u = false)
  /-- A refresh token is signed. -/
  | refresh {c : Claims} (hissued : s'.issued = c :: s.issued) (htype : c.type = "refresh")
      (haccepted : s'.accepted = s.accepted) (hrenewed : s'.renewed = s.renewed)
      (hnow : s'.now = s.now)
  /-- The middleware accepts a token. -/
  | accepts {c : Claims} (hmem : c ∈ s.issued) (hlive : s.now < c.exp * 1000000000)
      (htype : c.type = "" ∨ c.type = "access") (hissued : s'.issued = s.issued)
      (haccepted : s'.accepted = (s.now, c) :: s.accepted) (hrenewed : s'.renewed = s.renewed)
      (hnow : s'.now = s.now)
  /-- `Refresh` accepts a token. -/
  | renews {c : Claims} (hmem : c ∈ s.issued) (htype : c.type = "refresh")
      (hissued : s'.issued = s.issued) (haccepted : s'.accepted = s.accepted)
      (hrenewed : s'.renewed = c :: s.renewed) (hnow : s'.now = s.now)
  | other (hissued : s'.issued = s.issued) (haccepted : s'.accepted = s.accepted)
      (hrenewed : s'.renewed = s.renewed) (hnow : s.now ≤ s'.now)

namespace AuthState

theorem verifies_iff {s : AuthState} {c : Claims} (h : ¬ (!s.verifies c) = true) :
    c ∈ s.issued ∧ s.now < c.exp * 1000000000 := by
  simpa [verifies, Claims.unexpired] using h

end AuthState

theorem exec_tokenMove (cfg : AuthConfig) (x : AuthInput) (s : AuthState) (k : AuthStep) :
    TokenMove cfg s k (k.exec cfg x s).1 := by
  cases k with
  | login body =>
      cases body with
      | none =>
          exact TokenMove.other rfl rfl rfl (le_refl _)
      | some req =>
          simp only [AuthStep.exec]
          split
          · exact TokenMove.other rfl rfl rfl (le_refl _)
          · split
            · exact TokenMove.other rfl rfl rfl (le_refl _)
            · exact TokenMove.other rfl rfl rfl (le_refl _)
  | findLogin req =>
      simp only [AuthStep.exec]
      split
      · exact TokenMove.other rfl rfl rfl (le_refl _)
      · split
        · exact TokenMove.other rfl rfl rfl (le_refl _)
        · split
          · exact TokenMove.other rfl rfl rfl (le_refl _)
          · exact TokenMove.other rfl rfl rfl (le_refl _)
  | verify req u isAdmin =>
      simp only [AuthStep.exec]
      split
      · exact TokenMove.other rfl rfl rfl (le_refl _)
      · exact TokenMove.other rfl rfl rfl (le_refl _)
  | recordFailure emailKey status code message =>
      exact TokenMove.other rfl rfl rfl (le_refl _)
  | reset emailKey u isAdmin =>
      exact TokenMove.other rfl rfl rfl (le_refl _)
  | signAccess row isAdmin =>
      simp only [AuthStep.exec]
      split
      · exact TokenMove.other rfl rfl rfl (le_refl _)
      · refine TokenMove.access rfl rfl rfl rfl ?_
        intro u hu
        have hne : ¬ row.id = u := of_decide_eq_false hu
        rw [Bool.eq_false_iff]
        exact fun hnamed => hne (Uuid.named_text.mp hnamed)
  | signSession row access now =>
      simp only [AuthStep.exec]
      split
      · exact TokenMove.other rfl rfl rfl (le_refl _)
      · exact TokenMove.refresh rfl rfl rfl rfl rfl
  | refresh body =>
      cases body with
      | none =>
          exact TokenMove.other rfl rfl rfl (le_refl _)
      | some token =>
          simp only [AuthStep.exec]
          split
          · exact TokenMove.other rfl rfl rfl (le_refl _)
          · rename_i hverifies
            split
            · exact TokenMove.other rfl rfl rfl (le_refl _)
            · rename_i htype
              exact TokenMove.renews (AuthState.verifies_iff hverifies).left
                (not_not.mp htype) rfl rfl rfl rfl
  | findActive userId tenantId =>
      simp only [AuthStep.exec]
      split
      · exact TokenMove.other rfl rfl rfl (le_refl _)
      · split
        · exact TokenMove.other rfl rfl rfl (le_refl _)
        · exact TokenMove.other rfl rfl rfl (le_refl _)
  | signRefresh userId tenantId isAdmin =>
      simp only [AuthStep.exec]
      split
      · exact TokenMove.other rfl rfl rfl (le_refl _)
      · exact TokenMove.access rfl rfl rfl rfl fun u hu => hu
  | authenticate header =>
      cases header with
      | missing =>
          exact TokenMove.other rfl rfl rfl (le_refl _)
      | malformed =>
          exact TokenMove.other rfl rfl rfl (le_refl _)
      | bearer token =>
          simp only [AuthStep.exec]
          split
          · exact TokenMove.other rfl rfl rfl (le_refl _)
          · rename_i hverifies
            rcases AuthState.verifies_iff hverifies with ⟨hmem, hlive⟩
            split
            · exact TokenMove.other rfl rfl rfl (le_refl _)
            · rename_i htype
              refine TokenMove.accepts hmem hlive ?_ rfl rfl rfl rfl
              simp only [Bool.and_eq_true, decide_eq_true_eq, not_and, not_not] at htype
              by_cases hempty : token.type = ""
              · exact Or.inl hempty
              · exact Or.inr (htype hempty)
  | advance d =>
      refine TokenMove.other rfl rfl rfl ?_
      simp only [AuthStep.exec]
      omega
  | change directory =>
      exact TokenMove.other rfl rfl rfl (le_refl _)

/-- Neither handler goes on to a signature for an account it has seen inactive. -/
theorem exec_signsFor {cfg : AuthConfig} {x : AuthInput} {s : AuthState} {k k' : AuthStep}
    {u : Uuid} (hinactive : Inactive u s.directory) (hk : k.signsFor u = false)
    (hnext : (k.exec cfg x s).2 = some k') : k'.signsFor u = false := by
  cases k with
  | findLogin req =>
      simp only [AuthStep.exec] at hnext
      split at hnext
      · cases hnext
      · split at hnext
        · cases hnext
          rfl
        · rename_i row hrow
          split at hnext
          · rename_i hactive
            cases hnext
            refine decide_eq_false fun hid => ?_
            rw [hinactive row (Directory.findLogin_mem hrow).left hid] at hactive
            cases hactive
          · cases hnext
            rfl
  | findActive userId tenantId =>
      simp only [AuthStep.exec] at hnext
      split at hnext
      · cases hnext
      · split at hnext
        · cases hnext
        · rename_i row hrow
          cases hnext
          rcases Directory.findActive_some hrow with ⟨hmem, hnamed, hactive⟩
          rw [AuthStep.signsFor, Bool.eq_false_iff]
          intro hu
          rw [hinactive row hmem (Uuid.named_unique hnamed hu)] at hactive
          cases hactive
  | login body =>
      cases body with
      | none =>
          cases hnext
      | some req =>
          simp only [AuthStep.exec] at hnext
          split at hnext
          · cases hnext
          · split at hnext
            · cases hnext
            · cases hnext
              rfl
  | verify req row isAdmin =>
      simp only [AuthStep.exec] at hnext
      split at hnext
      · cases hnext
        exact hk
      · cases hnext
        rfl
  | recordFailure emailKey status code message =>
      cases hnext
  | reset emailKey row isAdmin =>
      cases hnext
      exact hk
  | signAccess row isAdmin =>
      simp only [AuthStep.exec] at hnext
      split at hnext
      · cases hnext
      · cases hnext
        rfl
  | signSession row access now =>
      simp only [AuthStep.exec] at hnext
      split at hnext
      · cases hnext
      · cases hnext
  | refresh body =>
      cases body with
      | none =>
          cases hnext
      | some token =>
          simp only [AuthStep.exec] at hnext
          split at hnext
          · cases hnext
          · split at hnext
            · cases hnext
            · cases hnext
              rfl
  | signRefresh userId tenantId isAdmin =>
      simp only [AuthStep.exec] at hnext
      split at hnext
      · cases hnext
      · cases hnext
  | authenticate header =>
      cases header with
      | missing =>
          cases hnext
      | malformed =>
          cases hnext
      | bearer token =>
          simp only [AuthStep.exec] at hnext
          split at hnext
          · cases hnext
          · split at hnext
            · cases hnext
            · cases hnext
  | advance d =>
      cases hnext
  | change directory =>
      cases hnext

/-!
## Every token that was ever signed
-/

/-- Access tokens are short-lived, and both sides accept only tokens of their type. -/
structure TokenLaw (cfg : AuthConfig) (s : AuthState) : Prop where
  issued : forall c, c ∈ s.issued ->
    (c.type = "access" ∧ c.exp * 1000000000 ≤ s.now + cfg.accessTTL) ∨ c.type = "refresh"
  accepted : forall t c, (t, c) ∈ s.accepted ->
    c ∈ s.issued ∧ c.type = "access" ∧ t < c.exp * 1000000000
  renewed : forall c, c ∈ s.renewed -> c.type = "refresh"

theorem accessClaims_expires (cfg : AuthConfig) (sub tenantId : String) (isAdmin : Bool)
    (now : Int) :
    (cfg.accessClaims sub tenantId isAdmin now).exp * 1000000000 ≤ now + cfg.accessTTL := by
  simp only [AuthConfig.accessClaims, unix]
  omega

/-- A token without a type would pass the middleware, but none is ever signed. -/
theorem TokenLaw.access_of_accepted {cfg : AuthConfig} {s : AuthState} (h : TokenLaw cfg s)
    {c : Claims} (hmem : c ∈ s.issued) (htype : c.type = "" ∨ c.type = "access") :
    c.type = "access" := by
  rcases htype with hempty | haccess
  · rcases h.issued c hmem with ⟨haccess, _⟩ | hrefresh
    · exact haccess
    · rw [hempty] at hrefresh
      exact absurd hrefresh (by decide)
  · exact haccess

theorem TokenMove.law {cfg : AuthConfig} {s s' : AuthState} {k : AuthStep}
    (h : TokenMove cfg s k s') (hlaw : TokenLaw cfg s) : TokenLaw cfg s' := by
  cases h with
  | access hissued haccepted hrenewed hnow hfor =>
      refine ⟨?_, ?_, ?_⟩
      · intro c hc
        rw [hissued] at hc
        rw [hnow]
        rcases List.mem_cons.mp hc with rfl | hold
        · exact Or.inl ⟨rfl, accessClaims_expires cfg _ _ _ s.now⟩
        · exact hlaw.issued c hold
      · intro t c hc
        rw [haccepted] at hc
        rcases hlaw.accepted t c hc with ⟨hmem, htype, hlive⟩
        rw [hissued]
        exact ⟨List.mem_cons_of_mem _ hmem, htype, hlive⟩
      · rw [hrenewed]
        exact hlaw.renewed
  | refresh hissued htype haccepted hrenewed hnow =>
      refine ⟨?_, ?_, ?_⟩
      · intro c hc
        rw [hissued] at hc
        rw [hnow]
        rcases List.mem_cons.mp hc with rfl | hold
        · exact Or.inr htype
        · exact hlaw.issued c hold
      · intro t c hc
        rw [haccepted] at hc
        rcases hlaw.accepted t c hc with ⟨hmem, haccess, hlive⟩
        rw [hissued]
        exact ⟨List.mem_cons_of_mem _ hmem, haccess, hlive⟩
      · rw [hrenewed]
        exact hlaw.renewed
  | accepts hmem hlive htype hissued haccepted hrenewed hnow =>
      refine ⟨?_, ?_, ?_⟩
      · rw [hissued, hnow]
        exact hlaw.issued
      · intro t c hc
        rw [haccepted] at hc
        rw [hissued]
        rcases List.mem_cons.mp hc with heq | hold
        · cases heq
          exact ⟨hmem, hlaw.access_of_accepted hmem htype, hlive⟩
        · exact hlaw.accepted t c hold
      · rw [hrenewed]
        exact hlaw.renewed
  | renews hmem htype hissued haccepted hrenewed hnow =>
      refine ⟨?_, ?_, ?_⟩
      · rw [hissued, hnow]
        exact hlaw.issued
      · rw [hissued, haccepted]
        exact hlaw.accepted
      · intro c hc
        rw [hrenewed] at hc
        rcases List.mem_cons.mp hc with rfl | hold
        · exact htype
        · exact hlaw.renewed c hold
  | other hissued haccepted hrenewed hnow =>
      refine ⟨?_, ?_, ?_⟩
      · intro c hc
        rw [hissued] at hc
        rcases hlaw.issued c hc with ⟨haccess, hexp⟩ | hrefresh
        · exact Or.inl ⟨haccess, by omega⟩
        · exact Or.inr hrefresh
      · rw [hissued, haccepted]
        exact hlaw.accepted
      · rw [hrenewed]
        exact hlaw.renewed

theorem tokenLaw_preserved (cfg : AuthConfig) :
    (authService cfg).Preserves (fun _ _ => True) fun p => TokenLaw cfg p.shared := by
  intro p e p' hlaw _ hstep
  rcases Pool.step_cases hstep with ⟨r, rfl, rfl⟩ |
    ⟨i, x, k, rest, o, rfl, hhead, hperform, rfl⟩
  · exact hlaw
  · rcases AuthStep.perform_created hperform with ⟨hshared, _⟩
    have hmove := exec_tokenMove cfg x p.shared k
    rw [← hshared] at hmove
    exact hmove.law hlaw

theorem tokenLaw_boot (cfg : AuthConfig) (now : Int) (directory : Directory) :
    TokenLaw cfg (authBoot now directory).shared where
  issued := fun _ h => absurd h List.not_mem_nil
  accepted := fun _ _ h => absurd h List.not_mem_nil
  renewed := fun _ h => absurd h List.not_mem_nil

/-!
## After the deactivation
-/

/-- The user's access tokens expire by a deadline, and no request in flight leads
to another one. -/
structure DeadlineLaw (cfg : AuthConfig) (u : Uuid) (deadline : Int)
    (p : Pool AuthState AuthStep) : Prop where
  tokens : TokenLaw cfg p.shared
  expire : forall c, c ∈ p.shared.issued -> c.type = "access" -> Uuid.named c.sub u = true ->
    c.exp * 1000000000 ≤ deadline
  idle : forall k, p.Pending k -> k.signsFor u = false

theorem TokenMove.expire {cfg : AuthConfig} {s s' : AuthState} {k : AuthStep}
    (h : TokenMove cfg s k s') {u : Uuid} {deadline : Int} (hk : k.signsFor u = false)
    (hold : forall c, c ∈ s.issued -> c.type = "access" -> Uuid.named c.sub u = true ->
      c.exp * 1000000000 ≤ deadline) :
    forall c, c ∈ s'.issued -> c.type = "access" -> Uuid.named c.sub u = true ->
      c.exp * 1000000000 ≤ deadline := by
  intro c hc htype hnamed
  cases h with
  | access hissued haccepted hrenewed hnow hfor =>
      rw [hissued] at hc
      rcases List.mem_cons.mp hc with rfl | hmem
      · have hother := hfor u hk
        rw [AuthConfig.accessClaims] at hnamed
        rw [hother] at hnamed
        cases hnamed
      · exact hold c hmem htype hnamed
  | refresh hissued hrefresh haccepted hrenewed hnow =>
      rw [hissued] at hc
      rcases List.mem_cons.mp hc with rfl | hmem
      · rw [hrefresh] at htype
        exact absurd htype (by decide)
      · exact hold c hmem htype hnamed
  | accepts hmem hlive haccess hissued haccepted hrenewed hnow =>
      rw [hissued] at hc
      exact hold c hc htype hnamed
  | renews hmem hrefresh hissued haccepted hrenewed hnow =>
      rw [hissued] at hc
      exact hold c hc htype hnamed
  | other hissued haccepted hrenewed hnow =>
      rw [hissued] at hc
      exact hold c hc htype hnamed

theorem entry_signsFor (u : Uuid) (r : AuthRequest) :
    forall k, k ∈ r.entry -> k.signsFor u = false := by
  intro k hk
  cases r <;> (cases List.mem_singleton.mp hk; rfl)

theorem deadlineLaw_preserved (cfg : AuthConfig) (u : Uuid) (deadline : Int) :
    (authService cfg).Preserves (fun p _ => Inactive u p.shared.directory)
      (DeadlineLaw cfg u deadline) := by
  intro p e p' hlaw hinactive hstep
  have htokens := tokenLaw_preserved cfg p e p' hlaw.tokens trivial hstep
  rcases Pool.step_cases hstep with ⟨r, rfl, rfl⟩ |
    ⟨i, x, k, rest, o, rfl, hhead, hperform, rfl⟩
  · refine ⟨htokens, hlaw.expire, fun k hk => ?_⟩
    rcases Pool.pending_start hk with hnew | hold
    · exact entry_signsFor u r k hnew
    · exact hlaw.idle k hold
  · rcases AuthStep.perform_created hperform with ⟨hshared, hcreated⟩
    have hk := hlaw.idle k (Pool.pending_of_head? hhead)
    refine ⟨htokens, ?_, ?_⟩
    · have hmove := exec_tokenMove cfg x p.shared k
      rw [← hshared] at hmove
      exact hmove.expire hk hlaw.expire
    · intro j hj
      rcases Pool.pending_exec hhead hj with hnew | hold
      · rw [hcreated, Option.mem_toList] at hnew
        exact exec_signsFor hinactive hk hnew
      · exact hlaw.idle j hold

/-- The law holds at the moment of the deactivation, with `accessTTL` to go. -/
theorem deadlineLaw_start {cfg : AuthConfig} {p : Pool AuthState AuthStep}
    (htokens : TokenLaw cfg p.shared) (hidle : forall k, p.Pending k -> k.ofLogin = false)
    (u : Uuid) : DeadlineLaw cfg u (p.shared.now + cfg.accessTTL) p where
  tokens := htokens
  expire := by
    intro c hc htype _
    rcases htokens.issued c hc with ⟨_, hexp⟩ | hrefresh
    · exact hexp
    · rw [htype] at hrefresh
      exact absurd hrefresh (by decide)
  idle := fun k hk => AuthStep.signsFor_of_not_ofLogin (hidle k hk) u

/-- A user who is inactive or deleted from some moment on, with no `Login` or
`Refresh` in flight at that moment, is not let through more than `accessTTL` after
it.  The middleware never takes a refresh token, nor `Refresh` an access token. -/
theorem inactive_user_locked_out (cfg : AuthConfig) (now : Int) (directory : Directory)
    {es es' : List AuthEvent} {p q : Pool AuthState AuthStep}
    (hbefore : (authService cfg).run (authBoot now directory) es = some p) (u : Uuid)
    (hidle : forall k, p.Pending k -> k.ofLogin = false)
    (hinactive : (authService cfg).Meets (fun p _ => Inactive u p.shared.directory) p es')
    (hafter : (authService cfg).run p es' = some q) :
    (forall t c, (t, c) ∈ q.shared.accepted -> Uuid.named c.sub u = true ->
      ¬ p.shared.now + cfg.accessTTL < t) ∧
    (forall t c, (t, c) ∈ q.shared.accepted -> c.type ≠ "refresh") ∧
    (forall c, c ∈ q.shared.renewed -> c.type ≠ "access") := by
  have htokens : TokenLaw cfg p.shared :=
    (tokenLaw_preserved cfg).run_all (tokenLaw_boot cfg now directory) hbefore
  have hlaw := (deadlineLaw_preserved cfg u (p.shared.now + cfg.accessTTL)).run
    (deadlineLaw_start htokens hidle u) hinactive hafter
  refine ⟨?_, ?_, ?_⟩
  · intro t c hc hnamed
    rcases hlaw.tokens.accepted t c hc with ⟨hmem, htype, hlive⟩
    have hexp := hlaw.expire c hmem htype hnamed
    omega
  · intro t c hc hrefresh
    rw [(hlaw.tokens.accepted t c hc).right.left] at hrefresh
    exact absurd hrefresh (by decide)
  · intro c hc haccess
    rw [hlaw.tokens.renewed c hc] at haccess
    exact absurd haccess (by decide)

namespace SampleSession

def config : AuthConfig where
  accessTTL := 900000000000
  refreshTTL := 86400000000000
  max := 5
  window := 60000000000
  emailKey := fun email => email
  verifyArgon2id := fun password hash => password = hash

def user : UserRow where
  id := { text := "37000000-0000-4000-8000-000000000001", canonical := by decide }
  tenantId := { text := "37000000-0000-4000-8000-000000000002", canonical := by decide }
  email := "a@leo"
  passwordHash := "right"
  fullName := "A"
  isActive := true

def directory (users : List UserRow) : Directory where
  users := users
  roles := []
  userRoles := []

def exec (i : Nat) : AuthEvent :=
  PoolEvent.exec i { fails := false, pick := 0 }

/-- The access token of the login at time 0. -/
def access : Claims :=
  config.accessClaims user.id.text user.tenantId.text false 0

/-- The user logs in and is deactivated. -/
def loggedIn : List AuthEvent :=
  [PoolEvent.start (AuthRequest.login (some { email := "a@leo", password := "right" })),
    exec 0, exec 0, exec 0, exec 0, exec 0, exec 0,
    PoolEvent.start (AuthRequest.change (directory [{ user with isActive := false }])), exec 1]

/-- The service after the deactivation. -/
def deactivated : Pool AuthState AuthStep :=
  ((authService config).run (authBoot 0 (directory [user])) loggedIn).get rfl

/-- The token is still good a minute later. -/
def used : List AuthEvent :=
  [PoolEvent.start (AuthRequest.advance 60000000000), exec 2,
    PoolEvent.start (AuthRequest.authenticate (Authorization.bearer access)), exec 3]

end SampleSession

theorem inactive_user_locked_out_session :
    exists q, (authService SampleSession.config).run SampleSession.deactivated
        SampleSession.used = some q ∧
      (60000000000, SampleSession.access) ∈ q.shared.accepted ∧
      forall t c, (t, c) ∈ q.shared.accepted ->
        Uuid.named c.sub SampleSession.user.id = true -> ¬ 900000000000 < t := by
  have hidle : forall k, SampleSession.deactivated.Pending k -> k.ofLogin = false := by
    rintro k ⟨proc, hproc, hk⟩
    have hprocs : SampleSession.deactivated.procs = [[], []] := rfl
    rw [hprocs] at hproc
    simp only [List.mem_cons, List.not_mem_nil, or_false, or_self] at hproc
    rw [hproc] at hk
    cases hk
  have hbefore : (authService SampleSession.config).run
      (authBoot 0 (SampleSession.directory [SampleSession.user])) SampleSession.loggedIn =
        some SampleSession.deactivated :=
    rfl
  have hinactive : (authService SampleSession.config).Meets
      (fun p _ => Inactive SampleSession.user.id p.shared.directory)
      SampleSession.deactivated SampleSession.used := by
    decide
  refine ⟨_, rfl, by decide, ?_⟩
  exact (inactive_user_locked_out SampleSession.config 0
    (SampleSession.directory [SampleSession.user]) hbefore SampleSession.user.id hidle
    hinactive rfl).left

end Accounts
end LeoOne
