import LeoOne.Foundation.Pool
import LeoOne.Accounts.Tables

/-!
# Authentication

`AuthHandler.Login`, `AuthHandler.Refresh` and `JWTMiddleware`, with the account
limiter.  A step is one critical section of the limiter, one statement, one
password verification or one signature, together with the handler's code up to
the next of these; any number of requests interleave between the steps.

Times are nanoseconds.  A token stands for its claims: the library is assumed to
accept exactly the tokens that `Sign` has made and that have not expired.
-/

namespace LeoOne
namespace Accounts

open Foundation

/-- The claims of a token; `type` is empty if the token has none. -/
structure Claims where
  sub : String
  tenantId : String
  isAdmin : Bool
  type : String
  iat : Int
  exp : Int
  deriving DecidableEq

/-- `time.Time.Unix`. -/
def unix (t : Int) : Int :=
  t / 1000000000

/-- The library accepts a token strictly before the second it expires in. -/
def Claims.unexpired (c : Claims) (now : Int) : Bool :=
  now < c.exp * 1000000000

structure LoginRequest where
  email : String
  password : String
  deriving DecidableEq

/-- The fields of the handler and of the limiter, and the functions from the
libraries: `strings.ToLower(strings.TrimSpace(email))` and `verifyArgon2id`. -/
structure AuthConfig where
  accessTTL : Int
  refreshTTL : Int
  max : Nat
  window : Int
  emailKey : String -> String
  verifyArgon2id : String -> String -> Bool

/-- The claims of an access token. -/
def AuthConfig.accessClaims (cfg : AuthConfig) (sub tenantId : String) (isAdmin : Bool)
    (now : Int) : Claims where
  sub := sub
  tenantId := tenantId
  isAdmin := isAdmin
  type := "access"
  iat := unix now
  exp := unix (now + cfg.accessTTL)

/-- The claims of a refresh token. -/
def AuthConfig.refreshClaims (cfg : AuthConfig) (sub tenantId : String) (now : Int) :
    Claims where
  sub := sub
  tenantId := tenantId
  isAdmin := false
  type := "refresh"
  iat := unix now
  exp := unix (now + cfg.refreshTTL)

/-- What `Login` and `Refresh` answer, and the requests that the middleware passes on. -/
inductive AuthAnswer where
  | error (status : Nat) (code message : String)
  | session (access refresh : Claims)
  | renewed (access : Claims)
  | passed (claims : Claims)
  deriving DecidableEq

/-- A password verification that failed, under the key of its account. -/
structure Failure where
  emailKey : String
  time : Int
  deriving DecidableEq

/-- The clock, the tables, the limiter's map, and what has happened: the tokens
signed, the tokens that the middleware and that `Refresh` accepted, and the
verifications that failed since the last `Reset` of their key. -/
structure AuthState where
  now : Int
  directory : Directory
  attempts : String -> List Int
  issued : List Claims
  accepted : List (Int × Claims)
  renewed : List Claims
  failures : List Failure
  answers : List AuthAnswer

/-- The header that the middleware reads. -/
inductive Authorization where
  | missing
  | malformed
  | bearer (token : Claims)

/-- The steps of the three handlers.  `advance` and `change` are not theirs: time
passes, and other requests change the accounts. -/
inductive AuthStep where
  | login (body : Option LoginRequest)
  | findLogin (req : LoginRequest)
  | verify (req : LoginRequest) (u : UserRow) (isAdmin : Bool)
  | recordFailure (emailKey : String) (status : Nat) (code message : String)
  | reset (emailKey : String) (u : UserRow) (isAdmin : Bool)
  | signAccess (u : UserRow) (isAdmin : Bool)
  | signSession (u : UserRow) (access : Claims) (now : Int)
  | refresh (body : Option Claims)
  | findActive (userId tenantId : String)
  | signRefresh (userId tenantId : String) (isAdmin : Bool)
  | authenticate (header : Authorization)
  | advance (d : Nat)
  | change (directory : Directory)

/-- What a step meets: whether its statement or signature fails, and the row that
the database returns first. -/
structure AuthInput where
  fails : Bool
  pick : Nat

namespace AuthState

/-- `Limiter.purgeLocked`: what it keeps for the key. -/
def kept (cfg : AuthConfig) (s : AuthState) (key : String) : List Int :=
  (s.attempts key).filter fun t => s.now - cfg.window < t

/-- The limiter's map with a new list for one key. -/
def setAttempts (s : AuthState) (key : String) (ts : List Int) : AuthState :=
  { s with attempts := fun k => if k = key then ts else s.attempts k }

/-- `JWTVerifier.Verify`. -/
def verifies (s : AuthState) (c : Claims) : Bool :=
  c ∈ s.issued && c.unexpired s.now

/-- `response.Error`, followed by `return`. -/
def reject (s : AuthState) (status : Nat) (code message : String) :
    AuthState × Option AuthStep :=
  ({ s with answers := AuthAnswer.error status code message :: s.answers }, none)

end AuthState

/-- One step: what it leaves, and the step that follows. -/
def AuthStep.exec (cfg : AuthConfig) (x : AuthInput) (s : AuthState) :
    AuthStep -> AuthState × Option AuthStep
  | login none => s.reject 400 "VALIDATION_ERROR" "corps de requête invalide"
  | login (some req) =>
      if req.email = "" || req.password = "" then
        s.reject 400 "VALIDATION_ERROR" "email et mot de passe requis"
      else
        let key := cfg.emailKey req.email
        let kept := s.kept cfg key
        let s := s.setAttempts key kept
        if cfg.max ≤ kept.length then
          s.reject 429 "RATE_LIMITED"
            "trop de tentatives échouées sur ce compte, réessayez plus tard"
        else (s, some (findLogin req))
  | findLogin req =>
      -- a failure of the database does not count against the account
      if x.fails then s.reject 500 "INTERNAL_ERROR" "erreur de base de données"
      else
        match s.directory.findLogin req.email x.pick with
        | none =>
            (s, some (recordFailure (cfg.emailKey req.email) 401 "UNAUTHORIZED"
              "email ou mot de passe invalide"))
        | some u =>
            if u.isActive then (s, some (verify req u (s.directory.isAdmin u.id)))
            else
              (s, some (recordFailure (cfg.emailKey req.email) 403 "FORBIDDEN"
                "compte désactivé"))
  | verify req u isAdmin =>
      if cfg.verifyArgon2id req.password u.passwordHash then
        (s, some (reset (cfg.emailKey req.email) u isAdmin))
      else
        ({ s with
            failures := { emailKey := cfg.emailKey req.email, time := s.now } :: s.failures },
          some (recordFailure (cfg.emailKey req.email) 401 "UNAUTHORIZED"
            "email ou mot de passe invalide"))
  | recordFailure key status code message =>
      (s.setAttempts key (s.kept cfg key ++ [s.now])).reject status code message
  | reset key u isAdmin =>
      ({ s.setAttempts key [] with
          failures := s.failures.filter fun f => f.emailKey ≠ key },
        some (signAccess u isAdmin))
  | signAccess u isAdmin =>
      if x.fails then s.reject 500 "INTERNAL_ERROR" "erreur de génération du token"
      else
        let access := cfg.accessClaims u.id.text u.tenantId.text isAdmin s.now
        ({ s with issued := access :: s.issued }, some (signSession u access s.now))
  | signSession u access now =>
      if x.fails then s.reject 500 "INTERNAL_ERROR" "erreur de génération du refresh token"
      else
        let refresh := cfg.refreshClaims u.id.text u.tenantId.text now
        ({ s with
            issued := refresh :: s.issued
            answers := AuthAnswer.session access refresh :: s.answers },
          none)
  | refresh none => s.reject 400 "VALIDATION_ERROR" "corps de requête invalide"
  | refresh (some token) =>
      if !s.verifies token then
        s.reject 401 "UNAUTHORIZED" "refresh token invalide ou expiré"
      else if token.type ≠ "refresh" then
        s.reject 401 "UNAUTHORIZED" "token de type incorrect"
      else
        ({ s with renewed := token :: s.renewed },
          some (findActive token.sub token.tenantId))
  | findActive userId tenantId =>
      if x.fails then s.reject 500 "INTERNAL_ERROR" "erreur de base de données"
      else
        match s.directory.findActive userId tenantId with
        | none => s.reject 401 "UNAUTHORIZED" "utilisateur introuvable ou inactif"
        | some u => (s, some (signRefresh userId tenantId (s.directory.isAdmin u.id)))
  | signRefresh userId tenantId isAdmin =>
      if x.fails then s.reject 500 "INTERNAL_ERROR" "erreur de génération du token"
      else
        let access := cfg.accessClaims userId tenantId isAdmin s.now
        ({ s with
            issued := access :: s.issued
            answers := AuthAnswer.renewed access :: s.answers },
          none)
  | authenticate Authorization.missing => s.reject 401 "UNAUTHORIZED" "token JWT manquant"
  | authenticate Authorization.malformed =>
      s.reject 401 "UNAUTHORIZED"
        "format Authorization invalide, attendu: Bearer <token>"
  | authenticate (Authorization.bearer token) =>
      if !s.verifies token then
        s.reject 401 "UNAUTHORIZED" "token JWT invalide ou expiré"
      else if token.type ≠ "" && token.type ≠ "access" then
        s.reject 401 "UNAUTHORIZED" "type de token incorrect"
      else
        ({ s with
            accepted := (s.now, token) :: s.accepted
            answers := AuthAnswer.passed token :: s.answers },
          none)
  | advance d => ({ s with now := s.now + d }, none)
  | change directory => ({ s with directory := directory }, none)

/-- What starts a goroutine. -/
inductive AuthRequest where
  | login (body : Option LoginRequest)
  | refresh (body : Option Claims)
  | authenticate (header : Authorization)
  | advance (d : Nat)
  | change (directory : Directory)

def AuthRequest.entry : AuthRequest -> List AuthStep
  | login body => [AuthStep.login body]
  | refresh body => [AuthStep.refresh body]
  | authenticate header => [AuthStep.authenticate header]
  | advance d => [AuthStep.advance d]
  | change directory => [AuthStep.change directory]

/-- A step in the pool: its goroutine goes on with the step that follows. -/
def AuthStep.perform (cfg : AuthConfig) (k : AuthStep) (x : AuthInput) (s : AuthState) :
    Option (Outcome AuthState AuthStep) :=
  some
    { shared := (k.exec cfg x s).1
      cont := (k.exec cfg x s).2.toList
      spawned := [] }

theorem AuthStep.perform_created {cfg : AuthConfig} {k : AuthStep} {x : AuthInput}
    {s : AuthState} {o : Outcome AuthState AuthStep} (h : k.perform cfg x s = some o) :
    o.shared = (k.exec cfg x s).1 ∧ o.created = (k.exec cfg x s).2.toList := by
  cases h
  refine ⟨rfl, ?_⟩
  simp only [Outcome.created, List.flatten_nil, List.append_nil]

abbrev AuthEvent := PoolEvent AuthRequest AuthInput

/-- The service: any number of requests, interleaved at the granularity of their steps. -/
def authService (cfg : AuthConfig) : Machine (Pool AuthState AuthStep) AuthEvent :=
  Pool.machine AuthRequest.entry (AuthStep.perform cfg)

/-- The service when it starts: no token has been signed with its secret. -/
def authBoot (now : Int) (directory : Directory) : Pool AuthState AuthStep where
  shared :=
    { now := now
      directory := directory
      attempts := fun _ => []
      issued := []
      accepted := []
      renewed := []
      failures := []
      answers := [] }
  procs := []

end Accounts
end LeoOne
