import LeoOne.Foundation.Pool
import LeoOne.Accounts.Tables

/-!
# The users of a tenant

`UserHandler.Create`, `Update` and `Delete`.  A step is one statement or
transaction of the repository, together with the handler's code up to the next
one.  The middleware has put the claims of the caller's token into the context;
which of its users may call the handlers is decided before them and not modelled,
so every authenticated user of a tenant may.
-/

namespace LeoOne
namespace Accounts

open Foundation

/-- `minPasswordLen`. -/
def minPasswordLen : Nat := 8

structure CreateUserRequest where
  email : String
  fullName : String
  password : String
  roleIds : List String
  deriving DecidableEq

structure UpdateUserRequest where
  fullName : Option String
  isActive : Option Bool
  roleIds : Option (List String)
  deriving DecidableEq

/-- The claims in the context of a request. -/
structure Caller where
  userId : String
  tenantId : String
  deriving DecidableEq

/-- The library functions that the handlers apply to texts. -/
structure TextFunctions where
  trimSpace : String -> String
  toLower : String -> String

/-- What a step meets: whether its statement fails, the id that the database
generates and the result of `hashArgon2id`. -/
structure UserInput where
  fails : Bool
  uuid : Uuid
  hash : Option String

inductive UserAnswer where
  | error (status : Nat) (code message : String)
  | user (status : Nat) (u : UserRow)
  | noContent
  deriving DecidableEq

structure UserState where
  directory : Directory
  answers : List UserAnswer

/-- The steps of the three handlers. -/
inductive UserStep where
  | create (caller : Caller) (body : Option CreateUserRequest)
  | insertUser (caller : Caller) (req : CreateUserRequest)
  | setRolesCreated (caller : Caller) (u : UserRow) (roleIds : List String)
  | reloadCreated (caller : Caller) (u : UserRow)
  | update (caller : Caller) (userId : String) (body : Option UpdateUserRequest)
  | updateUser (caller : Caller) (userId : String) (req : UpdateUserRequest) (current : UserRow)
  | setRolesUpdated (caller : Caller) (userId : String) (current : UserRow)
      (roleIds : List String)
  | reloadUpdated (caller : Caller) (userId : String) (current : UserRow)
  | delete (caller : Caller) (userId : String)

namespace UserState

/-- `response.Error`, followed by `return`. -/
def reject (s : UserState) (status : Nat) (code message : String) :
    UserState × Option UserStep :=
  ({ s with answers := UserAnswer.error status code message :: s.answers }, none)

def reply (s : UserState) (answer : UserAnswer) : UserState × Option UserStep :=
  ({ s with answers := answer :: s.answers }, none)

/-- The tenant and the user of a statement, read from the texts of the request;
`none` is an error of the statement. -/
def userParameters (x : UserInput) (tenantId userId : String) : Option (Uuid × Uuid) :=
  match x.fails, Uuid.parse tenantId, Uuid.parse userId with
  | false, some tenant, some user => some (tenant, user)
  | _, _, _ => none

/-- `repo.FindByID` with the texts of the request; `none` is an error. -/
def findById (x : UserInput) (s : UserState) (tenantId userId : String) :
    Option (Option UserRow) :=
  match userParameters x tenantId userId with
  | some (tenant, user) => some (s.directory.findById tenant user)
  | none => none

/-- The parameters of `SetRoles`, read from the texts of the request; `none` is an
error of the transaction. -/
def roleParameters (x : UserInput) (tenantId userId : String) (roleIds : List String) :
    Option (Uuid × Uuid × List Uuid) :=
  match x.fails, Uuid.parse tenantId, Uuid.parse userId, roleIds.mapM Uuid.parse with
  | false, some tenant, some user, some ids => some (tenant, user, ids)
  | _, _, _, _ => none

/-- `repo.SetRoles` with the texts of the request; after an error the transaction
is rolled back. -/
def setRoles (x : UserInput) (s : UserState) (tenantId userId : String)
    (roleIds : List String) : Option (Directory × Nat) :=
  match roleParameters x tenantId userId roleIds with
  | some (tenant, user, ids) => s.directory.setRoles tenant user ids
  | none => none

/-- `assignRoles`: the error answer, or the step that follows.  The transaction has
been committed when the number of roles is compared. -/
def assignRoles (x : UserInput) (s : UserState) (tenantId userId : String)
    (roleIds : List String) (next : UserStep) : UserState × Option UserStep :=
  match s.setRoles x tenantId userId roleIds with
  | none => s.reject 500 "INTERNAL_ERROR" "erreur lors de l'assignation des rôles"
  | some (directory, assigned) =>
      let s := { s with directory := directory }
      if assigned ≠ roleIds.length then
        s.reject 400 "VALIDATION_ERROR" "un ou plusieurs role_ids sont invalides"
      else (s, some next)

end UserState

/-- One step: what it leaves, and the step that follows. -/
def UserStep.exec (lib : TextFunctions) (x : UserInput) (s : UserState) :
    UserStep -> UserState × Option UserStep
  | create _ none => s.reject 400 "VALIDATION_ERROR" "corps de requête invalide"
  | create caller (some req) =>
      let req :=
        { req with
          email := lib.trimSpace (lib.toLower req.email)
          fullName := lib.trimSpace req.fullName }
      if req.email = "" || req.fullName = "" then
        s.reject 400 "VALIDATION_ERROR" "email et full_name sont requis"
      else if req.password.utf8ByteSize < minPasswordLen then
        s.reject 400 "VALIDATION_ERROR" "le mot de passe doit faire au moins 8 caractères"
      else
        match x.fails, Uuid.parse caller.tenantId with
        | false, some tenant =>
            match s.directory.findByEmail tenant req.email with
            | some _ =>
                s.reject 409 "USER_ALREADY_EXISTS" "un utilisateur avec cet email existe déjà"
            | none => (s, some (insertUser caller req))
        | _, _ => s.reject 500 "INTERNAL_ERROR" "erreur de base de données"
  | insertUser caller req =>
      match x.hash, x.fails, Uuid.parse caller.tenantId with
      | none, _, _ =>
          s.reject 500 "INTERNAL_ERROR" "erreur lors du hachage du mot de passe"
      | some hash, false, some tenant =>
          let u : UserRow :=
            { id := x.uuid
              tenantId := tenant
              email := req.email
              passwordHash := hash
              fullName := req.fullName
              isActive := true }
          match s.directory.create u with
          | none =>
              s.reject 500 "INTERNAL_ERROR" "erreur lors de la création de l'utilisateur"
          | some directory =>
              let s := { s with directory := directory }
              if req.roleIds.length > 0 then (s, some (setRolesCreated caller u req.roleIds))
              else s.reply (UserAnswer.user 201 u)
      | _, _, _ => s.reject 500 "INTERNAL_ERROR" "erreur lors de la création de l'utilisateur"
  | setRolesCreated caller u roleIds =>
      s.assignRoles x caller.tenantId u.id.text roleIds (reloadCreated caller u)
  | reloadCreated caller u =>
      match s.findById x caller.tenantId u.id.text with
      | some (some reloaded) => s.reply (UserAnswer.user 201 reloaded)
      | _ => s.reply (UserAnswer.user 201 u)
  | update _ _ none => s.reject 400 "VALIDATION_ERROR" "corps de requête invalide"
  | update caller userId (some req) =>
      match s.findById x caller.tenantId userId with
      | none => s.reject 500 "INTERNAL_ERROR" "erreur de base de données"
      | some none => s.reject 404 "NOT_FOUND" "utilisateur introuvable"
      | some (some current) =>
          if req.isActive = some false && userId = caller.userId then
            s.reject 400 "VALIDATION_ERROR" "impossible de désactiver son propre compte"
          else if (req.fullName.map lib.trimSpace) = some "" then
            s.reject 400 "VALIDATION_ERROR" "full_name ne peut pas être vide"
          else
            let current :=
              { current with
                fullName := (req.fullName.map lib.trimSpace).getD current.fullName
                isActive := req.isActive.getD current.isActive }
            (s, some (updateUser caller userId req current))
  | updateUser caller userId req current =>
      match if x.fails then none
          else s.directory.update current.id current.tenantId current.fullName
            current.isActive with
      | none => s.reject 500 "INTERNAL_ERROR" "erreur lors de la mise à jour"
      | some directory =>
          let s := { s with directory := directory }
          match req.roleIds with
          | some roleIds => (s, some (setRolesUpdated caller userId current roleIds))
          | none => (s, some (reloadUpdated caller userId current))
  | setRolesUpdated caller userId current roleIds =>
      s.assignRoles x caller.tenantId userId roleIds (reloadUpdated caller userId current)
  | reloadUpdated caller userId current =>
      match s.findById x caller.tenantId userId with
      | some (some updated) => s.reply (UserAnswer.user 200 updated)
      | _ => s.reply (UserAnswer.user 200 current)
  | delete caller userId =>
      if userId = caller.userId then
        s.reject 400 "VALIDATION_ERROR" "impossible de supprimer son propre compte"
      else
        match UserState.userParameters x caller.tenantId userId with
        | none => s.reject 500 "INTERNAL_ERROR" "erreur lors de la suppression"
        | some (tenant, user) =>
            match s.directory.delete tenant user with
            | none => s.reject 404 "NOT_FOUND" "utilisateur introuvable"
            | some directory =>
                { s with directory := directory }.reply UserAnswer.noContent

/-- The requests of authenticated users. -/
inductive UserRequest where
  | create (caller : Caller) (body : Option CreateUserRequest)
  | update (caller : Caller) (userId : String) (body : Option UpdateUserRequest)
  | delete (caller : Caller) (userId : String)

def UserRequest.entry : UserRequest -> List UserStep
  | create caller body => [UserStep.create caller body]
  | update caller userId body => [UserStep.update caller userId body]
  | delete caller userId => [UserStep.delete caller userId]

/-- A step in the pool: its goroutine goes on with the step that follows. -/
def UserStep.perform (lib : TextFunctions) (k : UserStep) (x : UserInput) (s : UserState) :
    Option (Outcome UserState UserStep) :=
  some
    { shared := (k.exec lib x s).1
      cont := (k.exec lib x s).2.toList
      spawned := [] }

abbrev UserEvent := PoolEvent UserRequest UserInput

/-- Any number of requests, interleaved at the granularity of their steps. -/
def userService (lib : TextFunctions) : Machine (Pool UserState UserStep) UserEvent :=
  Pool.machine UserRequest.entry (UserStep.perform lib)

def userBoot (directory : Directory) : Pool UserState UserStep where
  shared := { directory := directory, answers := [] }
  procs := []

end Accounts
end LeoOne
