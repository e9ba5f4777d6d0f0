import LeoOne.Foundation.Machine
import LeoOne.Foundation.Uuid

/-!
# The system roles of a tenant

Migrations 003 to 008 each insert permissions and redefine `seed_system_roles`,
the function that a tenant creation calls.  `psql` commits the statements of a
migration one by one, so a tenant may also be created between two of them.

`UNIQUE(resource, action)` makes a permission's resource and action stand for
its id.  The other statements of the migrations touch no table that is modelled
here, and the roles that users create themselves are left out.
-/

namespace LeoOne
namespace Accounts

open Foundation

/-- The values of `permissions.resource`. -/
inductive Resource where
  | agents
  | metrics
  | alerts
  | users
  | inventory
  | workspaces
  | tenant
  | scripts
  | audit
  | patches
  | files
  | remoteDesktop
  deriving DecidableEq, Repr

/-- The values of `permissions.action`. -/
inductive Action where
  | read
  | write
  | delete
  | execute
  | acknowledge
  deriving DecidableEq, Repr

abbrev Permission := Resource × Action

/-- The names of the roles that `seed_system_roles` creates. -/
inductive SystemRole where
  | admin
  | technicien
  | lectureSeule
  deriving DecidableEq, Repr

/-- What differs between two versions of `seed_system_roles`: the conditions by
which the two restricted roles select their permissions. -/
structure SeedSystemRoles where
  technicien : List Permission
  lectureSeule : Permission -> Bool

/-- The `WHERE` of the `INSERT INTO role_permissions` for a role. -/
def SeedSystemRoles.selects (f : SeedSystemRoles) (role : SystemRole) (p : Permission) : Bool :=
  match role with
  | SystemRole.admin => true
  | SystemRole.technicien => p ∈ f.technicien
  | SystemRole.lectureSeule => f.lectureSeule p

/-- A statement of a migration. -/
inductive Statement where
  | insertPermissions (ps : List Permission)
  | replaceFunction (f : SeedSystemRoles)

namespace Migrations

open Accounts.Resource Accounts.Action

/-- `action = 'read'`. -/
def readOnly (p : Permission) : Bool :=
  p.2 = read

/-- `action = 'read' AND resource <> 'audit'`. -/
def readOnlyNotAudit (p : Permission) : Bool :=
  p.2 = read && p.1 ≠ audit

/-- `003_rbac_seed.sql`. -/
def rbacSeed : List Statement :=
  [Statement.insertPermissions
      [(agents, read), (agents, write), (agents, delete), (agents, execute),
       (metrics, read),
       (alerts, read), (alerts, acknowledge), (alerts, write), (alerts, delete),
       (users, read), (users, write), (users, delete),
       (inventory, read),
       (workspaces, read), (workspaces, write), (workspaces, delete),
       (tenant, read), (tenant, write)],
    Statement.replaceFunction
      { technicien :=
          [(agents, read), (agents, write), (agents, execute), (metrics, read),
           (alerts, read), (alerts, acknowledge), (alerts, write),
           (inventory, read), (workspaces, read)]
        lectureSeule := readOnly }]

/-- `004_scripts.sql`. -/
def scripts : List Statement :=
  [Statement.insertPermissions
      [(Resource.scripts, read), (Resource.scripts, write),
       (Resource.scripts, delete), (Resource.scripts, execute)],
    Statement.replaceFunction
      { technicien :=
          [(agents, read), (agents, write), (agents, execute), (metrics, read),
           (alerts, read), (alerts, acknowledge), (alerts, write),
           (inventory, read), (workspaces, read),
           (Resource.scripts, read), (Resource.scripts, write), (Resource.scripts, execute)]
        lectureSeule := readOnly }]

/-- `005_audit_log.sql`. -/
def auditLog : List Statement :=
  [Statement.insertPermissions [(audit, read)],
    Statement.replaceFunction
      { technicien :=
          [(agents, read), (agents, write), (agents, execute), (metrics, read),
           (alerts, read), (alerts, acknowledge), (alerts, write),
           (inventory, read), (workspaces, read),
           (Resource.scripts, read), (Resource.scripts, write), (Resource.scripts, execute)]
        lectureSeule := readOnlyNotAudit }]

/-- `006_patches.sql`. -/
def patches : List Statement :=
  [Statement.insertPermissions [(Resource.patches, read), (Resource.patches, execute)],
    Statement.replaceFunction
      { technicien :=
          [(agents, read), (agents, write), (agents, execute), (metrics, read),
           (alerts, read), (alerts, acknowledge), (alerts, write),
           (inventory, read), (workspaces, read),
           (Resource.scripts, read), (Resource.scripts, write), (Resource.scripts, execute),
           (Resource.patches, read), (Resource.patches, execute)]
        lectureSeule := readOnlyNotAudit }]

/-- `007_files.sql`. -/
def files : List Statement :=
  [Statement.insertPermissions
      [(Resource.files, read), (Resource.files, write), (Resource.files, execute)],
    Statement.replaceFunction
      { technicien :=
          [(agents, read), (agents, write), (agents, execute), (metrics, read),
           (alerts, read), (alerts, acknowledge), (alerts, write),
           (inventory, read), (workspaces, read),
           (Resource.scripts, read), (Resource.scripts, write), (Resource.scripts, execute),
           (Resource.patches, read), (Resource.patches, execute),
           (Resource.files, read), (Resource.files, write), (Resource.files, execute)]
        lectureSeule := readOnlyNotAudit }]

/-- `008_remote_desktop.sql`. -/
def remoteDesktop : List Statement :=
  [Statement.insertPermissions
      [(Resource.remoteDesktop, read), (Resource.remoteDesktop, execute)],
    Statement.replaceFunction
      { technicien :=
          [(agents, read), (agents, write), (agents, execute), (metrics, read),
           (alerts, read), (alerts, acknowledge), (alerts, write),
           (inventory, read), (workspaces, read),
           (Resource.scripts, read), (Resource.scripts, write), (Resource.scripts, execute),
           (Resource.patches, read), (Resource.patches, execute),
           (Resource.files, read), (Resource.files, write), (Resource.files, execute),
           (Resource.remoteDesktop, read), (Resource.remoteDesktop, execute)]
        lectureSeule := readOnlyNotAudit }]

/-- The migrations from 003 on, in the order of `migrate.sh`. -/
def all : List Statement :=
  rbacSeed ++ scripts ++ auditLog ++ patches ++ files ++ remoteDesktop

end Migrations

/-- A row of `roles`. -/
structure SystemRoleRow where
  id : Uuid
  tenantId : Uuid
  name : SystemRole
  deriving DecidableEq

structure RoleTables where
  tenants : List Uuid
  permissions : List Permission
  roles : List SystemRoleRow
  rolePermissions : List (Uuid × Permission)
  /-- The current `seed_system_roles`, once it exists. -/
  seed : Option SeedSystemRoles
  /-- The statements of the migrations that have not run yet. -/
  pending : List Statement

namespace RoleTables

/-- The permissions that the role of this name of a tenant has. -/
def permissionsOf (d : RoleTables) (tenantId : Uuid) (name : SystemRole) : List Permission :=
  (d.roles.filter fun r => r.tenantId = tenantId && r.name = name).flatMap fun r =>
    (d.rolePermissions.filter fun rp => rp.1 = r.id).map Prod.snd

/-- `INSERT INTO permissions ... ON CONFLICT (resource, action) DO NOTHING`. -/
def insertPermissions (d : RoleTables) (ps : List Permission) : RoleTables :=
  { d with
    permissions := ps.foldl (fun acc p => if p ∈ acc then acc else acc ++ [p]) d.permissions }

/-- Runs one statement of a migration. -/
def exec (d : RoleTables) : Statement -> RoleTables
  | Statement.insertPermissions ps => d.insertPermissions ps
  | Statement.replaceFunction f => { d with seed := some f }

/-- One role of `seed_system_roles`: the row, then its permissions.  `none` is
a violation of the primary key or of `UNIQUE(tenant_id, name)`. -/
def seedRole (d : RoleTables) (f : SeedSystemRoles) (tenantId id : Uuid) (name : SystemRole) :
    Option RoleTables :=
  if d.roles.any fun r => r.id = id || (r.tenantId = tenantId && r.name = name) then none
  else
    some
      { d with
        roles := d.roles ++ [{ id := id, tenantId := tenantId, name := name }]
        rolePermissions := d.rolePermissions ++
          (d.permissions.filter (f.selects name)).map fun p => (id, p) }

/-- `seed_system_roles(p_tenant_id)`, with the ids that the database generates.
An error undoes the whole call. -/
def seedSystemRoles (d : RoleTables) (f : SeedSystemRoles) (tenantId : Uuid)
    (roleAdminId roleTechId roleReadonlyId : Uuid) : Option RoleTables := do
  let d <- d.seedRole f tenantId roleAdminId SystemRole.admin
  let d <- d.seedRole f tenantId roleTechId SystemRole.technicien
  d.seedRole f tenantId roleReadonlyId SystemRole.lectureSeule

end RoleTables

inductive RoleEvent where
  /-- The next statement of the migrations. -/
  | migrate
  /-- A tenant is inserted and `seed_system_roles` is called for it. -/
  | createTenant (tenantId roleAdminId roleTechId roleReadonlyId : Uuid)

/-- A tenant cannot be created so before the function exists. -/
def RoleTables.step (d : RoleTables) : RoleEvent -> Option RoleTables
  | RoleEvent.migrate =>
      match d.pending with
      | [] => none
      | st :: rest => some { d.exec st with pending := rest }
  | RoleEvent.createTenant tenantId roleAdminId roleTechId roleReadonlyId =>
      match d.seed with
      | none => none
      | some f =>
          if tenantId ∈ d.tenants then none
          else
            { d with tenants := d.tenants ++ [tenantId] }.seedSystemRoles f tenantId
              roleAdminId roleTechId roleReadonlyId

def roleMachine : Machine RoleTables RoleEvent where
  step := RoleTables.step

/-- The tables after migrations 001 and 002. -/
def RoleTables.start : RoleTables where
  tenants := []
  permissions := []
  roles := []
  rolePermissions := []
  seed := none
  pending := Migrations.all

/-- The permissions of a role of a tenant that is created now. -/
def RoleTables.grantedNow (d : RoleTables) (name : SystemRole) : List Permission :=
  match d.seed with
  | none => []
  | some f => d.permissions.filter (f.selects name)

/-- Tenants are only created once the migrations are through. -/
def AfterMigrations (d : RoleTables) : RoleEvent -> Prop
  | RoleEvent.migrate => True
  | RoleEvent.createTenant _ _ _ _ => d.pending = []

instance (d : RoleTables) (e : RoleEvent) : Decidable (AfterMigrations d e) :=
  match e with
  | RoleEvent.migrate => isTrue trivial
  | RoleEvent.createTenant _ _ _ _ => decidable_of_iff (d.pending.isEmpty = true) List.isEmpty_iff

/-!
## What a creation does

`seed_system_roles` gives the new tenant what its conditions select now and
leaves every other role as it is.
-/

namespace RoleTables

/-- The foreign key of `role_permissions`. -/
def Referenced (d : RoleTables) : Prop :=
  forall rp, rp ∈ d.rolePermissions -> exists r, r ∈ d.roles ∧ r.id = rp.1

/-- What `seedRole` leaves alone. -/
theorem seedRole_frame {d d' : RoleTables} {f : SeedSystemRoles} {tenantId id : Uuid}
    {name : SystemRole} (h : d.seedRole f tenantId id name = some d') :
    d'.tenants = d.tenants ∧ d'.permissions = d.permissions ∧ d'.seed = d.seed ∧
      d'.pending = d.pending := by
  unfold seedRole at h
  split at h
  · cases h
  · cases h
    exact ⟨rfl, rfl, rfl, rfl⟩

theorem seedRole_referenced {d d' : RoleTables} {f : SeedSystemRoles} {tenantId id : Uuid}
    {name : SystemRole} (href : d.Referenced)
    (h : d.seedRole f tenantId id name = some d') : d'.Referenced := by
  unfold seedRole at h
  split at h
  · cases h
  · cases h
    intro rp hrp
    rcases List.mem_append.mp hrp with hold | hnew
    · rcases href rp hold with ⟨r, hr, hid⟩
      exact ⟨r, List.mem_append_left _ hr, hid⟩
    · rcases List.mem_map.mp hnew with ⟨p, _, rfl⟩
      exact ⟨_, List.mem_append_right _ (List.mem_singleton.mpr rfl), rfl⟩

/-- The entries of `role_permissions` that a row added for another role leaves. -/
theorem filter_append_other {rps : List (Uuid × Permission)} {ps : List Permission}
    {id other : Uuid} (h : id ≠ other) :
    (rps ++ ps.map fun p => (id, p)).filter (fun rp => decide (rp.1 = other)) =
      rps.filter fun rp => decide (rp.1 = other) := by
  rw [List.filter_append]
  have hnone : (ps.map fun p => (id, p)).filter (fun rp => decide (rp.1 = other)) = [] := by
    rw [List.filter_eq_nil_iff]
    intro rp hrp
    rcases List.mem_map.mp hrp with ⟨p, _, rfl⟩
    simpa using h
  rw [hnone, List.append_nil]

theorem seedRole_permissionsOf_new {d d' : RoleTables} {f : SeedSystemRoles}
    {tenantId id : Uuid} {name : SystemRole} (href : d.Referenced)
    (h : d.seedRole f tenantId id name = some d') :
    d'.permissionsOf tenantId name = d.permissions.filter (f.selects name) := by
  unfold seedRole at h
  split at h
  · cases h
  · rename_i hfree
    cases h
    have hrows : (d.roles.filter fun r => r.tenantId = tenantId && r.name = name) = [] := by
      rw [List.filter_eq_nil_iff]
      intro r hr hmatch
      exact hfree (List.any_eq_true.mpr ⟨r, hr, by rw [hmatch, Bool.or_true]⟩)
    have hold : (d.rolePermissions.filter fun rp => decide (rp.1 = id)) = [] := by
      rw [List.filter_eq_nil_iff]
      intro rp hrp hmatch
      rcases href rp hrp with ⟨r, hr, hid⟩
      have hsame : r.id = id := hid.trans (of_decide_eq_true hmatch)
      exact hfree (List.any_eq_true.mpr ⟨r, hr, by simp [hsame]⟩)
    simp [permissionsOf, List.filter_append, hrows, hold, List.filter_map, Function.comp_def]

theorem seedRole_permissionsOf_other {d d' : RoleTables} {f : SeedSystemRoles}
    {tenantId id : Uuid} {name : SystemRole}
    (h : d.seedRole f tenantId id name = some d') {tenantId' : Uuid} {name' : SystemRole}
    (hother : tenantId' ≠ tenantId ∨ name' ≠ name) :
    d'.permissionsOf tenantId' name' = d.permissionsOf tenantId' name' := by
  unfold seedRole at h
  split at h
  · cases h
  · rename_i hfree
    cases h
    have hnew : (tenantId = tenantId' && name = name') = false := by
      rw [Bool.and_eq_false_iff]
      rcases hother with ht | hn
      · exact Or.inl (decide_eq_false ht.symm)
      · exact Or.inr (decide_eq_false hn.symm)
    unfold permissionsOf
    simp only [List.filter_append, List.filter_cons, hnew, Bool.false_eq_true, if_false,
      List.filter_nil, List.append_nil]
    -- The rows are the same ones, and none of them has the id of the new row.
    refine List.flatMap_congr fun r hr => ?_
    have hid : id ≠ r.id := by
      intro heq
      exact hfree (List.any_eq_true.mpr ⟨r, List.mem_of_mem_filter hr, by simp [heq]⟩)
    rw [← List.filter_append, filter_append_other hid]

end RoleTables

namespace RoleTables

/-- The three calls of `seedRole`, taken apart. -/
theorem seedSystemRoles_parts {d d' : RoleTables} {f : SeedSystemRoles}
    {tenantId a t r : Uuid} (h : d.seedSystemRoles f tenantId a t r = some d') :
    exists d₁ d₂, d.seedRole f tenantId a SystemRole.admin = some d₁ ∧
      d₁.seedRole f tenantId t SystemRole.technicien = some d₂ ∧
      d₂.seedRole f tenantId r SystemRole.lectureSeule = some d' := by
  unfold seedSystemRoles at h
  rcases Option.bind_eq_some_iff.mp h with ⟨d₁, h₁, hrest⟩
  rcases Option.bind_eq_some_iff.mp hrest with ⟨d₂, h₂, h₃⟩
  exact ⟨d₁, d₂, h₁, h₂, h₃⟩

/-- What the tables hold after a creation. -/
structure Created (d : RoleTables) (f : SeedSystemRoles) (tenantId : Uuid) (d' : RoleTables) :
    Prop where
  tenants : d'.tenants = d.tenants
  permissions : d'.permissions = d.permissions
  seed : d'.seed = d.seed
  pending : d'.pending = d.pending
  referenced : d'.Referenced
  new : forall name, d'.permissionsOf tenantId name = d.permissions.filter (f.selects name)
  other : forall tenantId' name, tenantId' ≠ tenantId ->
    d'.permissionsOf tenantId' name = d.permissionsOf tenantId' name

theorem seedSystemRoles_created {d d' : RoleTables} {f : SeedSystemRoles}
    {tenantId a t r : Uuid} (href : d.Referenced)
    (h : d.seedSystemRoles f tenantId a t r = some d') : Created d f tenantId d' := by
  rcases seedSystemRoles_parts h with ⟨d₁, d₂, h₁, h₂, h₃⟩
  have href₁ := seedRole_referenced href h₁
  have href₂ := seedRole_referenced href₁ h₂
  rcases seedRole_frame h₁ with ⟨ht₁, hp₁, hs₁, hm₁⟩
  rcases seedRole_frame h₂ with ⟨ht₂, hp₂, hs₂, hm₂⟩
  rcases seedRole_frame h₃ with ⟨ht₃, hp₃, hs₃, hm₃⟩
  refine
    { tenants := by rw [ht₃, ht₂, ht₁]
      permissions := by rw [hp₃, hp₂, hp₁]
      seed := by rw [hs₃, hs₂, hs₁]
      pending := by rw [hm₃, hm₂, hm₁]
      referenced := seedRole_referenced href₂ h₃
      new := ?_
      other := ?_ }
  · intro name
    cases name with
    | admin =>
        have h₁₂ : SystemRole.admin ≠ SystemRole.technicien := by decide
        have h₁₃ : SystemRole.admin ≠ SystemRole.lectureSeule := by decide
        rw [seedRole_permissionsOf_other h₃ (Or.inr h₁₃),
          seedRole_permissionsOf_other h₂ (Or.inr h₁₂), seedRole_permissionsOf_new href h₁]
    | technicien =>
        have h₂₃ : SystemRole.technicien ≠ SystemRole.lectureSeule := by decide
        rw [seedRole_permissionsOf_other h₃ (Or.inr h₂₃),
          seedRole_permissionsOf_new href₁ h₂, hp₁]
    | lectureSeule =>
        rw [seedRole_permissionsOf_new href₂ h₃, hp₂, hp₁]
  · intro tenantId' name hne
    rw [seedRole_permissionsOf_other h₃ (Or.inl hne),
      seedRole_permissionsOf_other h₂ (Or.inl hne),
      seedRole_permissionsOf_other h₁ (Or.inl hne)]

/-- Everything a step can do. -/
theorem step_cases {d d' : RoleTables} {e : RoleEvent} (href : d.Referenced)
    (h : d.step e = some d') :
    (e = RoleEvent.migrate ∧ exists st rest, d.pending = st :: rest ∧
      d' = { d.exec st with pending := rest }) ∨
    (exists tenantId a t r f, e = RoleEvent.createTenant tenantId a t r ∧ d.seed = some f ∧
      tenantId ∉ d.tenants ∧
      Created { d with tenants := d.tenants ++ [tenantId] } f tenantId d') := by
  cases e with
  | migrate =>
      left
      refine ⟨rfl, ?_⟩
      simp only [step] at h
      split at h
      · cases h
      · rename_i st rest hpending
        exact ⟨st, rest, hpending, (Option.some.inj h).symm⟩
  | createTenant tenantId a t r =>
      right
      simp only [step] at h
      split at h
      · cases h
      · rename_i f hseed
        split at h
        · cases h
        · rename_i hnew
          exact ⟨tenantId, a, t, r, f, rfl, hseed, hnew, seedSystemRoles_created href h⟩

/-!
## Where a run stands

The permissions and the function are those of the statements that have run.
-/

/-- Runs a list of statements on empty tables. -/
def applied (done : List Statement) : RoleTables :=
  done.foldl exec start

/-- The statements that have run explain the permissions and the function. -/
structure Migrated (d : RoleTables) : Prop where
  referenced : d.Referenced
  applied : exists done, done ++ d.pending = Migrations.all ∧
    d.permissions = (applied done).permissions ∧ d.seed = (applied done).seed

theorem start_migrated : start.Migrated where
  referenced := fun _ h => absurd h List.not_mem_nil
  applied := ⟨[], rfl, rfl, rfl⟩

/-- A statement reads and writes only the permissions and the function. -/
theorem exec_congr {d e : RoleTables} (st : Statement) (hp : d.permissions = e.permissions)
    (hs : d.seed = e.seed) :
    (d.exec st).permissions = (e.exec st).permissions ∧ (d.exec st).seed = (e.exec st).seed := by
  cases st with
  | insertPermissions ps =>
      refine ⟨?_, hs⟩
      simp only [exec, insertPermissions, hp]
  | replaceFunction f =>
      exact ⟨hp, rfl⟩

theorem exec_frame (d : RoleTables) (st : Statement) :
    (d.exec st).tenants = d.tenants ∧ (d.exec st).roles = d.roles ∧
      (d.exec st).rolePermissions = d.rolePermissions := by
  cases st with
  | insertPermissions ps =>
      exact ⟨rfl, rfl, rfl⟩
  | replaceFunction f =>
      exact ⟨rfl, rfl, rfl⟩

theorem migrated_preserved : roleMachine.Preserves (fun _ _ => True) Migrated := by
  intro d e d' hd _ hstep
  rcases step_cases hd.referenced hstep with
    ⟨rfl, st, rest, hpending, rfl⟩ | ⟨tenantId, a, t, r, f, rfl, hseed, hnew, hcreated⟩
  · rcases d.exec_frame st with ⟨_, hroles, hrps⟩
    refine ⟨fun rp hrp => ?_, ?_⟩
    · simp only [hrps] at hrp
      simpa only [hroles] using hd.referenced rp hrp
    · rcases hd.applied with ⟨done, hall, hp, hs⟩
      rcases exec_congr st hp hs with ⟨hp', hs'⟩
      refine ⟨done ++ [st], ?_, ?_, ?_⟩
      · rw [← hall, hpending, List.append_assoc, List.singleton_append]
      · rw [applied, List.foldl_append]
        exact hp'
      · rw [applied, List.foldl_append]
        exact hs'
  · refine ⟨hcreated.referenced, ?_⟩
    rw [hcreated.pending, hcreated.permissions, hcreated.seed]
    exact hd.applied

/-- Until the last statement has run, a Technicien may not open a remote desktop. -/
theorem not_selects_remoteDesktop {d : RoleTables} (hd : d.Migrated) (hopen : d.pending ≠ [])
    {f : SeedSystemRoles} (hf : d.seed = some f) :
    f.selects SystemRole.technicien (Resource.remoteDesktop, Action.read) = false := by
  rcases hd.applied with ⟨done, hall, _, hs⟩
  have hlen : done.length < Migrations.all.length := by
    rw [← hall, List.length_append]
    exact Nat.lt_add_of_pos_right (List.length_pos_iff.mpr hopen)
  have htake : done = Migrations.all.take done.length := by
    rw [← hall, List.take_left]
  have hevery : forall k : Fin Migrations.all.length,
      ((applied (Migrations.all.take k)).seed.map fun f =>
        f.selects SystemRole.technicien (Resource.remoteDesktop, Action.read)) ≠ some true := by
    decide
  have hthis := hevery ⟨done.length, hlen⟩
  rw [← htake, ← hs, hf] at hthis
  simpa using hthis

theorem grantedNow_last {d : RoleTables} (hd : d.Migrated) (hdone : d.pending = []) :
    (Resource.remoteDesktop, Action.read) ∈ d.grantedNow SystemRole.technicien := by
  rcases hd.applied with ⟨done, hall, hp, hs⟩
  rw [hdone, List.append_nil] at hall
  subst hall
  unfold grantedNow
  rw [hp, hs]
  decide

end RoleTables

/-!
## Path independence
-/

namespace RoleTables

/-- Every tenant's roles have what a tenant created now gets. -/
def Agree (d : RoleTables) : Prop :=
  forall tenantId, tenantId ∈ d.tenants -> forall name p,
    p ∈ d.permissionsOf tenantId name <-> p ∈ d.grantedNow name

/-- A tenant whose Technicien role was created too early. -/
def Outdated (d : RoleTables) : Prop :=
  exists tenantId, tenantId ∈ d.tenants ∧
    (Resource.remoteDesktop, Action.read) ∉ d.permissionsOf tenantId SystemRole.technicien

/-- A migration changes no role. -/
theorem permissionsOf_exec (d : RoleTables) (st : Statement) (rest : List Statement)
    (tenantId : Uuid) (name : SystemRole) :
    ({ d.exec st with pending := rest } : RoleTables).permissionsOf tenantId name =
      d.permissionsOf tenantId name := by
  rcases d.exec_frame st with ⟨_, hroles, hrps⟩
  simp only [permissionsOf, hroles, hrps]

theorem outdated_of_early {d d' : RoleTables} {e : RoleEvent} (hd : d.Migrated)
    (hearly : ¬ AfterMigrations d e) (hstep : d.step e = some d') : d'.Outdated := by
  rcases step_cases hd.referenced hstep with
    ⟨rfl, _⟩ | ⟨tenantId, a, t, r, f, rfl, hseed, hnew, hcreated⟩
  · exact absurd trivial hearly
  · refine ⟨tenantId, ?_, ?_⟩
    · rw [hcreated.tenants]
      exact List.mem_append_right _ (List.mem_singleton.mpr rfl)
    · rw [hcreated.new, List.mem_filter, not_selects_remoteDesktop hd hearly hseed]
      intro hmem
      cases hmem.2

theorem outdated_preserved :
    roleMachine.Preserves (fun _ _ => True) fun d => d.Migrated ∧ d.Outdated := by
  intro d e d' ⟨hd, old, hold, hlacks⟩ htrue hstep
  refine ⟨migrated_preserved d e d' hd htrue hstep, old, ?_⟩
  rcases step_cases hd.referenced hstep with
    ⟨rfl, st, rest, hpending, rfl⟩ | ⟨tenantId, a, t, r, f, rfl, hseed, hnew, hcreated⟩
  · rw [permissionsOf_exec]
    exact ⟨(d.exec_frame st).left ▸ hold, hlacks⟩
  · have hne : old ≠ tenantId := fun heq => hnew (heq ▸ hold)
    rw [hcreated.tenants, hcreated.other old _ hne]
    exact ⟨List.mem_append_left _ hold, hlacks⟩

/-- Tenants that exist only once the migrations are through all agree. -/
theorem agree_preserved :
    roleMachine.Preserves AfterMigrations fun d =>
      d.Migrated ∧ (d.tenants = [] ∨ (d.pending = [] ∧ d.Agree)) := by
  intro d e d' ⟨hd, hagree⟩ hafter hstep
  refine ⟨migrated_preserved d e d' hd trivial hstep, ?_⟩
  rcases step_cases hd.referenced hstep with
    ⟨rfl, st, rest, hpending, rfl⟩ | ⟨tenantId, a, t, r, f, rfl, hseed, hnew, hcreated⟩
  · rcases hagree with hnone | ⟨hdone, _⟩
    · exact Or.inl ((d.exec_frame st).left.trans hnone)
    · rw [hdone] at hpending
      cases hpending
  · right
    refine ⟨hcreated.pending.trans hafter, fun t' ht' name p => ?_⟩
    have hnow : d'.grantedNow name = d.grantedNow name := by
      simp only [grantedNow, hcreated.seed, hcreated.permissions]
    rw [hnow]
    by_cases heq : t' = tenantId
    · subst heq
      rw [hcreated.new, grantedNow, hseed]
    · rw [hcreated.other t' name heq]
      rw [hcreated.tenants] at ht'
      rcases List.mem_append.mp ht' with hmem | hmem
      · rcases hagree with hnone | ⟨_, hagree⟩
        · rw [hnone] at hmem
          cases hmem
        · exact hagree t' hmem name p
      · exact absurd (List.mem_singleton.mp hmem) heq

theorem not_agree_of_outdated {d : RoleTables} (hd : d.Migrated) (hdone : d.pending = [])
    (hold : d.Outdated) : ¬ d.Agree := by
  rcases hold with ⟨tenantId, hmem, hlacks⟩
  intro hagree
  exact hlacks ((hagree tenantId hmem SystemRole.technicien _).mpr (grantedNow_last hd hdone))

/-- A tenant created now gets what `grantedNow` says. -/
theorem createTenant_permissionsOf {d d' : RoleTables} (hd : d.Migrated)
    {tenantId a t r : Uuid} (hstep : d.step (RoleEvent.createTenant tenantId a t r) = some d')
    (name : SystemRole) : d'.permissionsOf tenantId name = d.grantedNow name := by
  rcases step_cases hd.referenced hstep with
    ⟨heq, _⟩ | ⟨_, _, _, _, f, heq, hseed, _, hcreated⟩
  · cases heq
  · cases heq
    rw [hcreated.new, grantedNow, hseed]

end RoleTables

/-- Once the migrations are through, the roles of every tenant have what a new
tenant gets exactly if no tenant was created before the end of migration 008. -/
theorem system_roles_agree_iff {es : List RoleEvent} {d : RoleTables}
    (hrun : roleMachine.run RoleTables.start es = some d) (hdone : d.pending = []) :
    (forall tenantId a t r d', d.step (RoleEvent.createTenant tenantId a t r) = some d' ->
      forall name, d'.permissionsOf tenantId name = d.grantedNow name) ∧
    ((forall tenantId, tenantId ∈ d.tenants -> forall name p,
        p ∈ d.permissionsOf tenantId name <-> p ∈ d.grantedNow name) <->
      roleMachine.Meets AfterMigrations RoleTables.start es) := by
  have hd : d.Migrated :=
    RoleTables.migrated_preserved.run_all RoleTables.start_migrated hrun
  refine ⟨fun tenantId a t r d' hstep => RoleTables.createTenant_permissionsOf hd hstep, ?_⟩
  constructor
  · intro hagree
    rcases Machine.meets_or_occurs AfterMigrations RoleTables.start es with hmeets | hoccurs
    · exact hmeets
    · -- A tenant created too early stays behind to the end of the run.
      have hold := hoccurs.run RoleTables.migrated_preserved RoleTables.outdated_preserved
        (fun hs _ hearly hstep =>
          ⟨RoleTables.migrated_preserved _ _ _ hs trivial hstep,
            RoleTables.outdated_of_early hs hearly hstep⟩)
        RoleTables.start_migrated (Machine.meets_true _ _) hrun
      exact absurd hagree (RoleTables.not_agree_of_outdated hd hdone hold.right)
  · intro hmeets
    rcases (RoleTables.agree_preserved.run ⟨RoleTables.start_migrated, Or.inl rfl⟩
      hmeets hrun).right with hnone | ⟨_, hagree⟩
    · intro tenantId hmem
      rw [hnone] at hmem
      cases hmem
    · exact hagree

namespace SampleTenant

def tenantId : Uuid where
  text := "30000000-0000-4000-8000-000000000039"
  canonical := by decide

def roleAdminId : Uuid where
  text := "31000000-0000-4000-8000-000000000039"
  canonical := by decide

def roleTechId : Uuid where
  text := "32000000-0000-4000-8000-000000000039"
  canonical := by decide

def roleReadonlyId : Uuid where
  text := "33000000-0000-4000-8000-000000000039"
  canonical := by decide

def create : RoleEvent :=
  RoleEvent.createTenant tenantId roleAdminId roleTechId roleReadonlyId

/-- All statements of the six migrations. -/
def migrateAll : List RoleEvent :=
  List.replicate 12 RoleEvent.migrate

/-- The tenant is created right after migration 003. -/
def early : List RoleEvent :=
  [RoleEvent.migrate, RoleEvent.migrate, create] ++ List.replicate 10 RoleEvent.migrate

end SampleTenant

theorem system_roles_agree_iff_late :
    exists d, roleMachine.run RoleTables.start
        (SampleTenant.migrateAll ++ [SampleTenant.create]) = some d ∧
      SampleTenant.tenantId ∈ d.tenants ∧
      forall name p,
        p ∈ d.permissionsOf SampleTenant.tenantId name <-> p ∈ d.grantedNow name := by
  obtain ⟨d, hrun, hdone, htenants⟩ : exists d, roleMachine.run RoleTables.start
      (SampleTenant.migrateAll ++ [SampleTenant.create]) = some d ∧ d.pending = [] ∧
        d.tenants = [SampleTenant.tenantId] :=
    ⟨_, rfl, rfl, rfl⟩
  have hmem : SampleTenant.tenantId ∈ d.tenants := by
    rw [htenants]
    exact List.mem_singleton.mpr rfl
  have hmeets : roleMachine.Meets AfterMigrations RoleTables.start
      (SampleTenant.migrateAll ++ [SampleTenant.create]) := by
    decide
  exact ⟨d, hrun, hmem,
    (system_roles_agree_iff hrun hdone).right.mpr hmeets SampleTenant.tenantId hmem⟩

/-- A tenant of migration 003: after all migrations even its Admin role lacks the
permissions that a new tenant's Admin role has. -/
theorem early_tenant_lacks_permissions :
    exists d, roleMachine.run RoleTables.start SampleTenant.early = some d ∧ d.pending = [] ∧
      SampleTenant.tenantId ∈ d.tenants ∧
      forall name,
        (Resource.remoteDesktop, Action.read) ∈ d.grantedNow name ∧
        (Resource.remoteDesktop, Action.read) ∉ d.permissionsOf SampleTenant.tenantId name := by
  refine ⟨_, rfl, rfl, List.mem_singleton.mpr rfl, fun name => ?_⟩
  cases name <;> decide

end Accounts
end LeoOne
