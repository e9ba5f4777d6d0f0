import LeoOne.Foundation.Table
import LeoOne.Foundation.Uuid

/-!
# Accounts

The tables `users`, `roles` and `user_roles`, with the statements that the
handlers run on them.  Each statement (and each transaction) is atomic.  A
parameter that is compared with a `uuid` column is a text.  Columns that only
describe an account are left out.
-/

namespace LeoOne
namespace Accounts

open Foundation

/-- A row of `users`. -/
structure UserRow where
  id : Uuid
  tenantId : Uuid
  email : String
  passwordHash : String
  fullName : String
  isActive : Bool
  deriving DecidableEq

/-- A row of `roles`. -/
structure RoleRow where
  id : Uuid
  tenantId : Uuid
  name : String
  isSystem : Bool
  deriving DecidableEq

/-- A row of `user_roles`. -/
structure UserRoleRow where
  userId : Uuid
  roleId : Uuid
  deriving DecidableEq

structure Directory where
  users : List UserRow
  roles : List RoleRow
  userRoles : List UserRoleRow

namespace Directory

/-- `ro.name = 'Admin' AND ro.is_system = true`. -/
def isAdminRole (ro : RoleRow) : Bool :=
  ro.name = "Admin" && ro.isSystem

/-- The `EXISTS` that `Login` and `Refresh` select as `is_admin`. -/
def isAdmin (d : Directory) (userId : Uuid) : Bool :=
  d.userRoles.any fun ur =>
    ur.userId = userId && d.roles.any fun ro => ro.id = ur.roleId && isAdminRole ro

/-- The lookup of `Login`.  An email may occur in several tenants; which of its
rows comes first is up to the database. -/
def findLogin (d : Directory) (email : String) (pick : Nat) : Option UserRow :=
  let rows := d.users.filter fun u => u.email = email
  rows[pick]?.or rows.head?

theorem findLogin_mem {d : Directory} {email : String} {pick : Nat} {u : UserRow}
    (h : d.findLogin email pick = some u) : u ∈ d.users ∧ u.email = email := by
  have hmem : u ∈ d.users.filter fun u => u.email = email := by
    unfold findLogin at h
    rcases Option.or_eq_some_iff.mp h with hget | ⟨_, hhead⟩
    · exact List.mem_of_getElem? hget
    · exact List.mem_of_head? hhead
  rw [List.mem_filter] at hmem
  exact ⟨hmem.left, of_decide_eq_true hmem.right⟩

/-- The lookup of `Refresh`. -/
def findActive (d : Directory) (userId tenantId : String) : Option UserRow :=
  d.users.find? fun u =>
    Uuid.named userId u.id && Uuid.named tenantId u.tenantId && u.isActive

theorem findActive_some {d : Directory} {userId tenantId : String} {u : UserRow}
    (h : d.findActive userId tenantId = some u) :
    u ∈ d.users ∧ Uuid.named userId u.id = true ∧ u.isActive = true := by
  have htest := List.find?_some h
  simp only [Bool.and_eq_true] at htest
  exact ⟨List.mem_of_find?_eq_some h, htest.left.left, htest.right⟩

/-!
## Statements of `UserRepo`
-/

/-- The row that `WHERE id = $1 AND tenant_id = $2` selects. -/
def isUser (userId tenantId : Uuid) (u : UserRow) : Bool :=
  u.id = userId && u.tenantId = tenantId

/-- `FindByID`, without the roles, which no handler reads. -/
def findById (d : Directory) (tenantId userId : Uuid) : Option UserRow :=
  d.users.find? (isUser userId tenantId)

/-- `FindByEmail`. -/
def findByEmail (d : Directory) (tenantId : Uuid) (email : String) : Option UserRow :=
  d.users.find? fun u => u.email = email && u.tenantId = tenantId

/-- `Create`; `none` is a violation of the primary key or of
`UNIQUE(tenant_id, email)`. -/
def create (d : Directory) (u : UserRow) : Option Directory :=
  if d.users.any fun v => v.id = u.id || (v.tenantId = u.tenantId && v.email = u.email) then none
  else some { d with users := d.users ++ [u] }

/-- `Update`; `none` if no row is affected. -/
def update (d : Directory) (userId tenantId : Uuid) (fullName : String) (isActive : Bool) :
    Option Directory :=
  if d.users.any (isUser userId tenantId) then
    some
      { d with
        users := Table.updateWhere (isUser userId tenantId)
          (fun u => { u with fullName := fullName, isActive := isActive }) d.users }
  else none

/-- `Delete`, with the cascade to `user_roles`; `none` if no row is affected. -/
def delete (d : Directory) (tenantId userId : Uuid) : Option Directory :=
  if d.users.any (isUser userId tenantId) then
    some
      { d with
        users := Table.deleteWhere (isUser userId tenantId) d.users
        userRoles := Table.deleteWhere (fun ur => ur.userId = userId) d.userRoles }
  else none

/-- The roles that `SetRoles` inserts. -/
def assignable (d : Directory) (tenantId : Uuid) (roleIds : List Uuid) : List RoleRow :=
  d.roles.filter fun ro => ro.id ∈ roleIds && ro.tenantId = tenantId

/-- `SetRoles`, a transaction: the directory and the number of roles assigned.
`none` is a violation of the foreign key to `users`. -/
def setRoles (d : Directory) (tenantId userId : Uuid) (roleIds : List Uuid) :
    Option (Directory × Nat) :=
  let roles := d.assignable tenantId roleIds
  if roles ≠ [] ∧ !(d.users.any fun u => u.id = userId) then none
  else
    some
      ({ d with
          userRoles := Table.deleteWhere (fun ur => ur.userId = userId) d.userRoles ++
            roles.map fun ro => { userId := userId, roleId := ro.id } },
        roles.length)

/-- The roles of one user are replaced. -/
structure RolesReplaced (d d' : Directory) (userId : Uuid) (new : List RoleRow) : Prop where
  roles : d'.roles = d.roles
  rows : d'.userRoles =
    Table.deleteWhere (fun ur => decide (ur.userId = userId)) d.userRoles ++
      new.map fun ro => { userId := userId, roleId := ro.id }

theorem delete_replaced {d d' : Directory} {userId tenantId : Uuid}
    (h : d.delete tenantId userId = some d') :
    RolesReplaced d d' userId [] ∧
      d'.users = Table.deleteWhere (isUser userId tenantId) d.users := by
  unfold delete at h
  split at h
  · cases h
    exact ⟨⟨rfl, (List.append_nil _).symm⟩, rfl⟩
  · cases h

theorem setRoles_replaced {d d' : Directory} {userId tenantId : Uuid} {roleIds : List Uuid}
    {assigned : Nat} (h : d.setRoles tenantId userId roleIds = some (d', assigned)) :
    RolesReplaced d d' userId (d.assignable tenantId roleIds) ∧ d'.users = d.users := by
  simp only [setRoles] at h
  split at h
  · cases h
  · cases h
    exact ⟨⟨rfl, rfl⟩, rfl⟩

end Directory

end Accounts
end LeoOne
