import LeoOne.Accounts.Users

/-!
# The roles of a tenant

`RoleHandler.Create` and `Update`, each from its first statement to its answer.  A role
and its permissions are written by two statements, and read again for the answer.
-/

namespace LeoOne
namespace Accounts

open Foundation

/-- A row of `roles` with its description. -/
structure RoleRecord extends RoleRow where
  description : Option String
  deriving DecidableEq

/-- A row of `permissions`. -/
structure PermissionRow where
  id : Uuid
  resource : String
  action : String
  deriving DecidableEq

/-- A row of `role_permissions`. -/
structure RolePermissionRow where
  roleId : Uuid
  permissionId : Uuid
  deriving DecidableEq

structure RoleStore where
  roles : List RoleRecord
  permissions : List PermissionRow
  rolePermissions : List RolePermissionRow

structure CreateRoleRequest where
  name : String
  description : Option String
  permissionIds : List String

structure UpdateRoleRequest where
  name : Option String
  description : Option String
  permissionIds : Option (List String)

/-- What the statements of a request meet: the id that the database generates, and which
of them fail for a reason that is not in the tables. -/
structure RoleInput where
  uuid : Uuid
  findFails : Bool
  writeFails : Bool
  assignFails : Bool
  reloadFails : Bool
  permissionsFail : Bool

inductive RoleAnswer where
  | error (status : Nat) (code message : String)
  | role (status : Nat) (row : RoleRecord) (permissions : List PermissionRow)

/-- Why an `INSERT` or `UPDATE` fails. -/
inductive WriteError where
  | uniqueViolation
  | other

namespace RoleStore

/-!
## Statements
-/

/-- `UNIQUE(tenant_id, name)`. -/
def nameTaken (t : RoleStore) (tenantId : Uuid) (name : String) (id : Uuid) : Bool :=
  t.roles.any fun r => r.tenantId = tenantId && r.name = name && r.id ≠ id

/-- The `INSERT INTO roles` of `Create`, with the new row. -/
def insertRole (t : RoleStore) (x : RoleInput) (tenantId name : String)
    (description : Option String) : Except WriteError (RoleStore × RoleRecord) :=
  match x.writeFails, Uuid.parse tenantId with
  | false, some tenant =>
      if t.nameTaken tenant name x.uuid || t.roles.any (fun r => r.id = x.uuid) then
        Except.error WriteError.uniqueViolation
      else
        let row : RoleRecord :=
          { id := x.uuid
            tenantId := tenant
            name := name
            isSystem := false
            description := description }
        Except.ok ({ t with roles := t.roles ++ [row] }, row)
  | _, _ => Except.error WriteError.other

/-- The `SELECT` of `Update`; `none` is an error. -/
def findRole (t : RoleStore) (x : RoleInput) (tenantId roleId : String) :
    Option (Option RoleRecord) :=
  match x.findFails, Uuid.parse tenantId, Uuid.parse roleId with
  | false, some tenant, some role =>
      some (t.roles.find? fun r => r.id = role && r.tenantId = tenant)
  | _, _, _ => none

/-- The `UPDATE roles` of `Update`, for the row that was found. -/
def updateRole (t : RoleStore) (x : RoleInput) (row : RoleRecord) (name : String)
    (description : Option String) : Except WriteError RoleStore :=
  if x.writeFails then Except.error WriteError.other
  else if t.nameTaken row.tenantId name row.id then Except.error WriteError.uniqueViolation
  else
    Except.ok
      { t with
        roles := Table.updateWhere (fun r => r.id = row.id && r.tenantId = row.tenantId)
          (fun r => { r with name := name, description := description }) t.roles }

/-- The permissions that `setRolePermissions` inserts. -/
def grantable (t : RoleStore) (ids : List Uuid) : List PermissionRow :=
  t.permissions.filter fun p => p.id ∈ ids

/-- `setRolePermissions`, a transaction: the tables and the number of rows inserted;
after an error it is rolled back. -/
def setRolePermissions (t : RoleStore) (x : RoleInput) (roleId : Uuid)
    (permissionIds : List String) : Option (RoleStore × Nat) :=
  match x.assignFails, permissionIds.mapM Uuid.parse with
  | false, some ids =>
      some
        ({ t with
            rolePermissions :=
              Table.deleteWhere (fun rp => rp.roleId = roleId) t.rolePermissions ++
                (t.grantable ids).map fun p => { roleId := roleId, permissionId := p.id } },
          (t.grantable ids).length)
  | _, _ => none

/-!
## Handlers
-/

/-- `response.Error`, followed by `return`. -/
def reject (t : RoleStore) (status : Nat) (code message : String) : RoleStore × RoleAnswer :=
  (t, RoleAnswer.error status code message)

/-- `permissionsForRoles`, for one role; the order of the rows is not modelled. -/
def permissionsForRole (t : RoleStore) (roleId : Uuid) : List PermissionRow :=
  t.permissions.filter fun p =>
    t.rolePermissions.any fun rp => rp.roleId = roleId && rp.permissionId = p.id

/-- `respondRole`. -/
def respondRole (t : RoleStore) (x : RoleInput) (status : Nat) (roleId : Uuid) :
    RoleStore × RoleAnswer :=
  match x.reloadFails, t.roles.find? fun r => r.id = roleId with
  | false, some row =>
      if x.permissionsFail then
        t.reject 500 "INTERNAL_ERROR" "erreur de lecture des permissions"
      else (t, RoleAnswer.role status row (t.permissionsForRole roleId))
  | _, _ => t.reject 500 "INTERNAL_ERROR" "erreur de base de données"

/-- The end of `Create` and `Update`: the permissions, if they are to be set, and the
answer.  The transaction has been committed when the number of rows is compared. -/
def assignPermissions (t : RoleStore) (x : RoleInput) (status : Nat) (roleId : Uuid)
    (permissionIds : Option (List String)) : RoleStore × RoleAnswer :=
  match permissionIds with
  | none => t.respondRole x status roleId
  | some ids =>
      match t.setRolePermissions x roleId ids with
      | none =>
          t.reject 500 "INTERNAL_ERROR" "erreur lors de l'assignation des permissions"
      | some (t, assigned) =>
          if assigned ≠ ids.length then
            t.reject 400 "VALIDATION_ERROR" "un ou plusieurs permission_ids sont invalides"
          else t.respondRole x status roleId

/-- `RoleHandler.Create`. -/
def createRole (lib : TextFunctions) (t : RoleStore) (x : RoleInput) (caller : Caller) :
    Option CreateRoleRequest -> RoleStore × RoleAnswer
  | none => t.reject 400 "VALIDATION_ERROR" "corps de requête invalide"
  | some req =>
      let name := lib.trimSpace req.name
      if name = "" then t.reject 400 "VALIDATION_ERROR" "name est requis"
      else
        match t.insertRole x caller.tenantId name req.description with
        | Except.error WriteError.uniqueViolation =>
            t.reject 409 "ROLE_ALREADY_EXISTS" "un rôle avec ce nom existe déjà"
        | Except.error WriteError.other =>
            t.reject 500 "INTERNAL_ERROR" "erreur lors de la création du rôle"
        | Except.ok (t, row) =>
            t.assignPermissions x 201 row.id
              (if req.permissionIds.length > 0 then some req.permissionIds else none)

/-- `RoleHandler.Update`. -/
def updateRoleRequest (lib : TextFunctions) (t : RoleStore) (x : RoleInput)
    (caller : Caller) (roleId : String) :
    Option UpdateRoleRequest -> RoleStore × RoleAnswer
  | none => t.reject 400 "VALIDATION_ERROR" "corps de requête invalide"
  | some req =>
      match t.findRole x caller.tenantId roleId with
      | none => t.reject 500 "INTERNAL_ERROR" "erreur de base de données"
      | some none => t.reject 404 "NOT_FOUND" "rôle introuvable"
      | some (some row) =>
          if row.isSystem then
            t.reject 403 "SYSTEM_ROLE_IMMUTABLE" "les rôles système ne sont pas modifiables"
          else if req.name.map lib.trimSpace = some "" then
            t.reject 400 "VALIDATION_ERROR" "name ne peut pas être vide"
          else
            match t.updateRole x row ((req.name.map lib.trimSpace).getD row.name)
                (req.description.or row.description) with
            | Except.error WriteError.uniqueViolation =>
                t.reject 409 "ROLE_ALREADY_EXISTS" "un rôle avec ce nom existe déjà"
            | Except.error WriteError.other =>
                t.reject 500 "INTERNAL_ERROR" "erreur lors de la mise à jour"
            | Except.ok t => t.assignPermissions x 200 row.id req.permissionIds

end RoleStore

end Accounts
end LeoOne
