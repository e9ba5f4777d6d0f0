import Mathlib.Data.List.Nodup
import LeoOne.Accounts.Atomicity

/-!
# Roles that are refused halfway

`RoleHandler.Create` and `Update` write the role and commit its permissions before they
compare the number of rows with the number of ids, and they answer an error if the role
cannot be read again.  The last theorem says of the four handlers which requests are
all-or-nothing.
-/

namespace LeoOne
namespace Accounts

open Foundation

/-!
## The ids of a request
-/

/-- Every text is the id of a permission. -/
def RoleStore.ValidPermissions (t : RoleStore) (permissionIds : List String) : Prop :=
  forall text, text ∈ permissionIds -> exists p, p ∈ t.permissions ∧ Uuid.named text p.id = true

/-- The ids that `setRolePermissions` takes without an error. -/
structure RoleStore.Grants (t : RoleStore) (x : RoleInput) (permissionIds : List String) :
    Prop where
  runs : x.assignFails = false
  valid : t.ValidPermissions permissionIds
  distinct : DistinctIds permissionIds

/-- `setRolePermissions` inserts as many rows as there are ids if and only if the ids are
distinct and those of permissions. -/
theorem length_grantable_iff {t : RoleStore}
    (hpermissions : (t.permissions.map PermissionRow.id).Nodup) {texts : List String}
    {ids : List Uuid} (hids : texts.mapM Uuid.parse = some ids) :
    (t.grantable ids).length = texts.length <->
      t.ValidPermissions texts ∧ DistinctIds texts := by
  have hnamed := named_of_mapM hids
  have hvalid : t.ValidPermissions texts <->
      forall i, i ∈ ids -> exists p, p ∈ t.permissions ∧ p.id = i ∧ true = true := by
    rw [← forall_named_iff hnamed]
    unfold RoleStore.ValidPermissions
    constructor
    · intro h text ht
      rcases h text ht with ⟨p, hp, hid⟩
      exact ⟨p.id, hid, p, hp, rfl, rfl⟩
    · intro h text ht
      rcases h text ht with ⟨i, hid, p, hp, rfl, _⟩
      exact ⟨p, hp, hid⟩
  rw [hnamed.length_eq, distinctIds_iff hids, hvalid, and_comm,
    ← Table.length_selected_iff hpermissions]
  simp only [RoleStore.grantable, Bool.and_true]

theorem parsed_of_valid {t : RoleStore} {texts : List String} (h : t.ValidPermissions texts) :
    exists ids, texts.mapM Uuid.parse = some ids := by
  apply mapM_of_named
  intro text ht
  rcases h text ht with ⟨p, _, hid⟩
  exact ⟨p.id, hid⟩

/-!
## All or nothing
-/

/-- The tables hold the same rows. -/
structure RoleStore.Same (t t' : RoleStore) : Prop where
  roles : forall r, r ∈ t'.roles <-> r ∈ t.roles
  rolePermissions : forall rp, rp ∈ t'.rolePermissions <-> rp ∈ t.rolePermissions

theorem RoleStore.Same.refl (t : RoleStore) : t.Same t :=
  ⟨fun _ => Iff.rfl, fun _ => Iff.rfl⟩

def RoleAnswer.isError : RoleAnswer -> Bool
  | error _ _ _ => true
  | role _ _ _ => false

/-- The answer to ids that are not all granted. -/
def RoleAnswer.invalidPermissions : RoleAnswer :=
  error 400 "VALIDATION_ERROR" "un ou plusieurs permission_ids sont invalides"

/-- After an error the tables are as before, and valid ids are accepted. -/
structure RoleAtomic (t : RoleStore) (permissionIds : List String)
    (e : RoleStore × RoleAnswer) : Prop where
  unchanged : e.2.isError = true -> t.Same e.1
  accepted : t.ValidPermissions permissionIds -> e.2 ≠ RoleAnswer.invalidPermissions

/-- A request that is refused before it writes. -/
theorem RoleAtomic.of_reject (t : RoleStore) (permissionIds : List String) {status : Nat}
    {code message : String}
    (hother : RoleAnswer.error status code message ≠ RoleAnswer.invalidPermissions) :
    RoleAtomic t permissionIds (t.reject status code message) :=
  ⟨fun _ => RoleStore.Same.refl t, fun _ => hother⟩

/-- The permissions are set, if they are to be, and the role is read for the answer. -/
structure RoleStore.Serves (t : RoleStore) (x : RoleInput)
    (permissionIds : Option (List String)) : Prop where
  granted : forall ids, permissionIds = some ids -> t.Grants x ids
  reloaded : x.reloadFails = false
  listed : x.permissionsFail = false

/-- The permissions of the role stay: they are not to be set, the transaction is rolled
back, or they are the permissions that the role has. -/
def RoleStore.KeepsPermissions (t : RoleStore) (x : RoleInput) (roleId : Uuid)
    (permissionIds : Option (List String)) : Prop :=
  forall texts ids, permissionIds = some texts -> x.assignFails = false ->
    texts.mapM Uuid.parse = some ids ->
    forall i, { roleId := roleId, permissionId := i } ∈ t.rolePermissions <->
      i ∈ ids ∧ exists p, p ∈ t.permissions ∧ p.id = i

/-- Ids that are valid are not given twice to a transaction that is committed. -/
def RoleStore.RepeatsNone (t : RoleStore) (x : RoleInput)
    (permissionIds : Option (List String)) : Prop :=
  forall texts, permissionIds = some texts -> t.ValidPermissions texts ->
    x.assignFails = false -> DistinctIds texts

theorem respondRole_isError {t : RoleStore} {x : RoleInput} {roleId : Uuid} {status : Nat}
    (hrole : exists r, r ∈ t.roles ∧ r.id = roleId) :
    (t.respondRole x status roleId).2.isError = false <->
      x.reloadFails = false ∧ x.permissionsFail = false := by
  rcases hrole with ⟨r, hr, hid⟩
  have hfound : exists row, (t.roles.find? fun r => r.id = roleId) = some row := by
    rw [← Option.isSome_iff_exists, List.find?_isSome]
    exact ⟨r, hr, decide_eq_true hid⟩
  rcases hfound with ⟨row, hfind⟩
  unfold RoleStore.respondRole
  rw [hfind]
  cases hreload : x.reloadFails with
  | true =>
      simp [RoleStore.reject, RoleAnswer.isError]
  | false =>
      cases hlist : x.permissionsFail with
      | true =>
          simp [RoleStore.reject, RoleAnswer.isError]
      | false =>
          simp [RoleAnswer.isError]

/-- `respondRole` writes nothing and refuses no ids. -/
theorem respondRole_ends (t : RoleStore) (x : RoleInput) (roleId : Uuid) (status : Nat) :
    (t.respondRole x status roleId).1 = t ∧
      (t.respondRole x status roleId).2 ≠ RoleAnswer.invalidPermissions := by
  unfold RoleStore.respondRole
  split
  · split
    · exact ⟨rfl, by simp [RoleStore.reject, RoleAnswer.invalidPermissions]⟩
    · exact ⟨rfl, by simp [RoleAnswer.invalidPermissions]⟩
  · exact ⟨rfl, by simp [RoleStore.reject, RoleAnswer.invalidPermissions]⟩

/-- The rows of a role are replaced by themselves. -/
theorem replaced_same_iff {t : RoleStore} {roleId : Uuid} {ids : List Uuid} :
    (forall rp, rp ∈ Table.deleteWhere (fun rp => rp.roleId = roleId) t.rolePermissions ++
        ((t.grantable ids).map fun p => { roleId := roleId, permissionId := p.id }) <->
      rp ∈ t.rolePermissions) <->
    forall i, { roleId := roleId, permissionId := i } ∈ t.rolePermissions <->
      i ∈ ids ∧ exists p, p ∈ t.permissions ∧ p.id = i := by
  have hnew : forall i, ({ roleId := roleId, permissionId := i } : RolePermissionRow) ∈
      Table.deleteWhere (fun rp => decide (rp.roleId = roleId)) t.rolePermissions ++
        ((t.grantable ids).map fun p => { roleId := roleId, permissionId := p.id }) <->
      i ∈ ids ∧ exists p, p ∈ t.permissions ∧ p.id = i := by
    intro i
    rw [List.mem_append, Table.mem_deleteWhere, List.mem_map]
    simp only [decide_true, Bool.true_eq_false, and_false, false_or, RoleStore.grantable,
      List.mem_filter, decide_eq_true_eq, RolePermissionRow.mk.injEq, true_and]
    constructor
    · rintro ⟨p, ⟨hp, hin⟩, rfl⟩
      exact ⟨hin, p, hp, rfl⟩
    · rintro ⟨hin, p, hp, rfl⟩
      exact ⟨p, ⟨hp, hin⟩, rfl⟩
  constructor
  · intro h i
    rw [← h, hnew]
  · intro h rp
    rcases rp with ⟨owner, i⟩
    by_cases howner : owner = roleId
    · subst howner
      rw [hnew, h]
    · rw [List.mem_append, Table.mem_deleteWhere, List.mem_map]
      simp [howner, Ne.symm howner]

/-- The end of a handler: the roles stay, and what becomes of the permissions and of the
answer. -/
structure AssignEnds (t : RoleStore) (x : RoleInput) (roleId : Uuid)
    (permissionIds : Option (List String)) (e : RoleStore × RoleAnswer) : Prop where
  roles : e.1.roles = t.roles
  kept : (forall rp, rp ∈ e.1.rolePermissions <-> rp ∈ t.rolePermissions) <->
    t.KeepsPermissions x roleId permissionIds
  served : e.2.isError = false <-> t.Serves x permissionIds
  accepted : (t.ValidPermissions (permissionIds.getD []) ->
    e.2 ≠ RoleAnswer.invalidPermissions) <-> t.RepeatsNone x permissionIds

/-- The permissions are not set: there are none, or the transaction is rolled back. -/
theorem AssignEnds.of_kept {t : RoleStore} {x : RoleInput} {roleId : Uuid}
    {permissionIds : Option (List String)} {e : RoleStore × RoleAnswer} (hsame : e.1 = t)
    (hnone : forall texts ids, permissionIds = some texts -> x.assignFails = false ->
      texts.mapM Uuid.parse ≠ some ids)
    (hserved : e.2.isError = false <-> t.Serves x permissionIds)
    (hother : e.2 ≠ RoleAnswer.invalidPermissions) :
    AssignEnds t x roleId permissionIds e := by
  constructor
  · rw [hsame]
  · rw [hsame]
    exact ⟨fun _ texts ids hsome hruns hids => absurd hids (hnone texts ids hsome hruns),
      fun _ _ => Iff.rfl⟩
  · exact hserved
  · refine ⟨fun _ texts hsome hvalid hruns => ?_, fun _ _ => hother⟩
    rcases parsed_of_valid hvalid with ⟨ids, hids⟩
    exact absurd hids (hnone texts ids hsome hruns)

/-- The transaction, when it is committed. -/
theorem setRolePermissions_some {t t' : RoleStore} {x : RoleInput} {roleId : Uuid}
    {texts : List String} {assigned : Nat}
    (h : t.setRolePermissions x roleId texts = some (t', assigned)) :
    x.assignFails = false ∧ exists ids, texts.mapM Uuid.parse = some ids ∧
      assigned = (t.grantable ids).length ∧
      t' = { t with
        rolePermissions :=
          Table.deleteWhere (fun rp => rp.roleId = roleId) t.rolePermissions ++
            (t.grantable ids).map fun p => { roleId := roleId, permissionId := p.id } } := by
  unfold RoleStore.setRolePermissions at h
  split at h
  · rename_i ids hruns hids
    cases h
    exact ⟨hruns, ids, hids, rfl, rfl⟩
  · cases h

theorem assignPermissions_ends {t : RoleStore} {x : RoleInput} {roleId : Uuid}
    (status : Nat) (hpermissions : (t.permissions.map PermissionRow.id).Nodup)
    (hrole : exists r, r ∈ t.roles ∧ r.id = roleId) (permissionIds : Option (List String)) :
    AssignEnds t x roleId permissionIds
      (t.assignPermissions x status roleId permissionIds) := by
  cases permissionIds with
  | none =>
      rcases respondRole_ends t x roleId status with ⟨hsame, hother⟩
      refine AssignEnds.of_kept hsame ?_ ?_ hother
      · intro texts ids hsome
        cases hsome
      · refine (respondRole_isError hrole).trans ⟨fun h => ⟨?_, h.left, h.right⟩,
          fun h => ⟨h.reloaded, h.listed⟩⟩
        intro ids hsome
        cases hsome
  | some texts =>
      cases hset : t.setRolePermissions x roleId texts with
      | none =>
          have hnone : forall ids, x.assignFails = false -> texts.mapM Uuid.parse ≠ some ids := by
            intro ids hruns hids
            simp only [RoleStore.setRolePermissions, hruns, hids] at hset
            cases hset
          simp only [RoleStore.assignPermissions, hset]
          refine AssignEnds.of_kept rfl ?_ ⟨fun h => ?_, fun h => ?_⟩ ?_
          · intro texts' ids hsome
            cases hsome
            exact hnone ids
          · cases h
          · have hgrants := h.granted texts rfl
            rcases parsed_of_valid hgrants.valid with ⟨ids, hids⟩
            exact absurd hids (hnone ids hgrants.runs)
          · simp [RoleStore.reject, RoleAnswer.invalidPermissions]
      | some result =>
          rcases result with ⟨t', assigned⟩
          rcases setRolePermissions_some hset with ⟨hruns, ids, hids, hcount, ht'⟩
          have hiff := length_grantable_iff hpermissions hids
          rw [← hcount] at hiff
          have hroles : t'.roles = t.roles := by
            rw [ht']
          have hkept : (forall rp, rp ∈ t'.rolePermissions <-> rp ∈ t.rolePermissions) <->
              t.KeepsPermissions x roleId (some texts) := by
            rw [ht', replaced_same_iff]
            constructor
            · rintro h _ ids' ⟨⟩ _ hids'
              cases hids.symm.trans hids'
              exact h
            · exact fun h => h texts ids rfl hruns hids
          by_cases hall : assigned = texts.length
          · have hrole' : exists r, r ∈ t'.roles ∧ r.id = roleId := by
              rw [hroles]
              exact hrole
            rcases respondRole_ends t' x roleId status with ⟨hsame, hother⟩
            rcases hiff.mp hall with ⟨hvalid, hdistinct⟩
            simp only [RoleStore.assignPermissions, hset, ne_eq, hall, not_true_eq_false,
              if_false]
            constructor
            · rw [hsame, hroles]
            · rw [hsame]
              exact hkept
            · refine (respondRole_isError hrole').trans ⟨fun h => ⟨?_, h.left, h.right⟩,
                fun h => ⟨h.reloaded, h.listed⟩⟩
              rintro _ ⟨⟩
              exact ⟨hruns, hvalid, hdistinct⟩
            · refine ⟨?_, fun _ _ => hother⟩
              rintro _ _ ⟨⟩ _ _
              exact hdistinct
          · simp only [RoleStore.assignPermissions, hset, ne_eq, hall, not_false_eq_true,
              if_true]
            constructor
            · exact hroles
            · exact hkept
            · refine ⟨fun h => ?_, fun h => ?_⟩
              · cases h
              · have hgrants := h.granted texts rfl
                exact absurd (hiff.mpr ⟨hgrants.valid, hgrants.distinct⟩) hall
            · refine ⟨fun h => ?_, fun h => ?_⟩
              · rintro _ ⟨⟩ hvalid _
                exact absurd rfl (h hvalid)
              · intro hvalid
                exact absurd (hiff.mpr ⟨hvalid, h texts rfl hvalid hruns⟩) hall

theorem RoleStore.serves_congr {t : RoleStore} {roles : List RoleRecord} {x : RoleInput}
    {permissionIds : Option (List String)} :
    ({ t with roles := roles } : RoleStore).Serves x permissionIds <->
      t.Serves x permissionIds := by
  constructor
  · intro h
    refine ⟨fun ids hsome => ?_, h.reloaded, h.listed⟩
    have hgrants := h.granted ids hsome
    exact ⟨hgrants.runs, hgrants.valid, hgrants.distinct⟩
  · intro h
    refine ⟨fun ids hsome => ?_, h.reloaded, h.listed⟩
    have hgrants := h.granted ids hsome
    exact ⟨hgrants.runs, hgrants.valid, hgrants.distinct⟩

/-- A handler that has written `roles` is atomic if it answers the role or leaves every
row as it was, and if the ids that it refuses are not valid. -/
theorem AssignEnds.atomic_iff {t : RoleStore} {roles : List RoleRecord} {x : RoleInput}
    {roleId : Uuid} {permissionIds : Option (List String)} {e : RoleStore × RoleAnswer}
    (h : AssignEnds { t with roles := roles } x roleId permissionIds e) :
    RoleAtomic t (permissionIds.getD []) e <->
      (t.Serves x permissionIds ∨
        (forall r, r ∈ roles <-> r ∈ t.roles) ∧ t.KeepsPermissions x roleId permissionIds) ∧
      t.RepeatsNone x permissionIds := by
  have hserved := h.served.trans RoleStore.serves_congr
  have hsame : t.Same e.1 <->
      (forall r, r ∈ roles <-> r ∈ t.roles) ∧ t.KeepsPermissions x roleId permissionIds := by
    constructor
    · intro hsame
      refine ⟨fun r => ?_, h.kept.mp hsame.rolePermissions⟩
      rw [← hsame.roles, h.roles]
    · rintro ⟨hroles, hkeeps⟩
      refine ⟨fun r => ?_, h.kept.mpr hkeeps⟩
      rw [h.roles]
      exact hroles r
  rw [← hsame, ← hserved]
  constructor
  · intro hatomic
    refine ⟨?_, h.accepted.mp hatomic.accepted⟩
    cases herror : e.2.isError with
    | false =>
        exact Or.inl rfl
    | true =>
        exact Or.inr (hatomic.unchanged herror)
  · rintro ⟨hends, hrepeats⟩
    refine ⟨fun herror => ?_, h.accepted.mpr hrepeats⟩
    rcases hends with hserves | hsame
    · cases hserves.symm.trans herror
    · exact hsame

/-!
## `Create`
-/

/-- `Create` inserts the role: it has a name that is free, and nothing fails. -/
def InsertsRole (lib : TextFunctions) (t : RoleStore) (x : RoleInput) (caller : Caller)
    (req : CreateRoleRequest) : Prop :=
  lib.trimSpace req.name ≠ "" ∧ x.writeFails = false ∧
    exists tenant, Uuid.parse caller.tenantId = some tenant ∧
      t.nameTaken tenant (lib.trimSpace req.name) x.uuid = false ∧
      forall r, r ∈ t.roles -> r.id ≠ x.uuid

/-- What `Create` hands to `setRolePermissions`. -/
def CreateRoleRequest.granted (req : CreateRoleRequest) : Option (List String) :=
  if req.permissionIds.length > 0 then some req.permissionIds else none

theorem CreateRoleRequest.granted_getD (req : CreateRoleRequest) :
    req.granted.getD [] = req.permissionIds := by
  unfold CreateRoleRequest.granted
  split
  · rfl
  · rename_i hnone
    rw [gt_iff_lt, List.length_pos_iff, not_not] at hnone
    rw [hnone]
    rfl

/-- The `INSERT` of `Create`: a new row, or an error. -/
theorem insertRole_cases (lib : TextFunctions) (t : RoleStore) (x : RoleInput)
    (caller : Caller) (req : CreateRoleRequest) (hname : lib.trimSpace req.name ≠ "") :
    (InsertsRole lib t x caller req ∧
      exists row, t.insertRole x caller.tenantId (lib.trimSpace req.name) req.description =
        Except.ok ({ t with roles := t.roles ++ [row] }, row) ∧ row ∉ t.roles) ∨
    (¬ InsertsRole lib t x caller req ∧
      exists error, t.insertRole x caller.tenantId (lib.trimSpace req.name) req.description =
        Except.error error) := by
  cases hfails : x.writeFails with
  | true =>
      refine Or.inr ⟨fun h => ?_, WriteError.other, ?_⟩
      · cases hfails.symm.trans h.right.left
      · simp only [RoleStore.insertRole, hfails]
  | false =>
      cases htenant : Uuid.parse caller.tenantId with
      | none =>
          refine Or.inr ⟨?_, WriteError.other, ?_⟩
          · rintro ⟨_, _, tenant, hsome, _⟩
            cases htenant.symm.trans hsome
          · simp only [RoleStore.insertRole, hfails, htenant]
      | some tenant =>
          simp only [RoleStore.insertRole, hfails, htenant]
          by_cases htaken : (t.nameTaken tenant (lib.trimSpace req.name) x.uuid ||
              t.roles.any fun r => r.id = x.uuid) = true
          · rw [if_pos htaken]
            refine Or.inr ⟨?_, _, rfl⟩
            rintro ⟨_, _, tenant', hsome, hfree, hnew⟩
            cases htenant.symm.trans hsome
            rw [hfree, Bool.false_or, List.any_eq_true] at htaken
            rcases htaken with ⟨r, hr, hid⟩
            exact hnew r hr (of_decide_eq_true hid)
          · rw [if_neg htaken]
            rw [Bool.or_eq_true, not_or, Bool.not_eq_true, List.any_eq_true, not_exists]
              at htaken
            have hnew : forall r, r ∈ t.roles -> r.id ≠ x.uuid := fun r hr hid =>
              htaken.right r ⟨hr, decide_eq_true hid⟩
            refine Or.inl ⟨⟨hname, hfails, tenant, htenant, htaken.left, hnew⟩, _, rfl, ?_⟩
            exact fun hrow => hnew _ hrow rfl

/-- `Create` is all or nothing exactly if, once the role is inserted, nothing after it
fails. -/
theorem createRole_atomic_iff (lib : TextFunctions) {t : RoleStore}
    (hpermissions : (t.permissions.map PermissionRow.id).Nodup) (x : RoleInput)
    (caller : Caller) (req : CreateRoleRequest) :
    RoleAtomic t req.permissionIds (t.createRole lib x caller (some req)) <->
      (InsertsRole lib t x caller req -> t.Serves x req.granted) := by
  simp only [RoleStore.createRole]
  by_cases hname : lib.trimSpace req.name = ""
  · rw [if_pos hname]
    refine ⟨fun _ h => absurd hname h.left, fun _ => RoleAtomic.of_reject t _ ?_⟩
    simp [RoleAnswer.invalidPermissions]
  rw [if_neg hname]
  rcases insertRole_cases lib t x caller req hname with
    ⟨hinserts, row, hinsert, hnew⟩ | ⟨hnot, error, hinsert⟩
  · have hmem : row ∈ t.roles ++ [row] :=
      List.mem_append_right t.roles (List.mem_singleton_self row)
    have hends := assignPermissions_ends (t := { t with roles := t.roles ++ [row] }) (x := x) 201
      hpermissions ⟨row, hmem, rfl⟩ req.granted
    have hiff := hends.atomic_iff
    rw [req.granted_getD] at hiff
    simp only [hinsert]
    refine Iff.trans hiff ?_
    refine ⟨fun h _ => ?_, fun h => ⟨Or.inl (h hinserts), ?_⟩⟩
    · rcases h.left with hserves | ⟨hroles, _⟩
      · exact hserves
      · exact absurd ((hroles row).mp hmem) hnew
    · exact fun texts hsome _ _ => ((h hinserts).granted texts hsome).distinct
  · simp only [hinsert]
    refine ⟨fun _ h => absurd h hnot, fun _ => ?_⟩
    cases error with
    | uniqueViolation =>
        exact RoleAtomic.of_reject t _ (by simp [RoleAnswer.invalidPermissions])
    | other =>
        exact RoleAtomic.of_reject t _ (by simp [RoleAnswer.invalidPermissions])

/-!
## `Update`
-/

/-- `Update` writes the row of a role: it is found and not a system role, the name is free
and not empty, and nothing fails. -/
def UpdatesRole (lib : TextFunctions) (t : RoleStore) (x : RoleInput) (caller : Caller)
    (roleId : String) (req : UpdateRoleRequest) (row : RoleRecord) : Prop :=
  t.findRole x caller.tenantId roleId = some (some row) ∧ row.isSystem = false ∧
    req.name.map lib.trimSpace ≠ some "" ∧ x.writeFails = false ∧
    t.nameTaken row.tenantId ((req.name.map lib.trimSpace).getD row.name) row.id = false

/-- The request names nothing that the row does not have. -/
def UpdateRoleRequest.KeepsRow (lib : TextFunctions) (req : UpdateRoleRequest)
    (row : RoleRecord) : Prop :=
  (req.name.map lib.trimSpace).getD row.name = row.name ∧
    req.description.or row.description = row.description

theorem findRole_mem {t : RoleStore} {x : RoleInput} {tenantId roleId : String}
    {row : RoleRecord} (h : t.findRole x tenantId roleId = some (some row)) :
    row ∈ t.roles := by
  unfold RoleStore.findRole at h
  split at h
  · exact List.mem_of_find?_eq_some (Option.some.inj h)
  · cases h

/-- The row that is written. -/
theorem mem_updated {roles : List RoleRecord} {row : RoleRecord} (hrow : row ∈ roles)
    (name : String) (description : Option String) :
    { row with name := name, description := description } ∈
      Table.updateWhere (fun r => r.id = row.id && r.tenantId = row.tenantId)
        (fun r => { r with name := name, description := description }) roles := by
  refine Table.mem_updateWhere.mpr ⟨row, hrow, Or.inl ⟨?_, rfl⟩⟩
  rw [decide_eq_true rfl, decide_eq_true rfl]
  rfl

/-- The rows of a table with one row for each id, after an `UPDATE` of one of them. -/
theorem updated_same_iff {t : RoleStore} (hroles : (t.roles.map fun r => r.id).Nodup)
    {row : RoleRecord} (hrow : row ∈ t.roles) (name : String) (description : Option String) :
    (forall r, r ∈ Table.updateWhere (fun r => r.id = row.id && r.tenantId = row.tenantId)
        (fun r => { r with name := name, description := description }) t.roles <->
      r ∈ t.roles) <->
    name = row.name ∧ description = row.description := by
  constructor
  · intro h
    have hnew := (h _).mp (mem_updated hrow name description)
    have heq := List.inj_on_of_nodup_map hroles hnew hrow rfl
    have hname := congrArg (fun r => r.name) heq
    exact ⟨hname, congrArg RoleRecord.description heq⟩
  · rintro ⟨rfl, rfl⟩ r
    have hid : forall old, old ∈ t.roles ->
        (decide (old.id = row.id) && decide (old.tenantId = row.tenantId)) = true ->
        old = row := by
      intro old hold hsame
      rw [Bool.and_eq_true, decide_eq_true_eq] at hsame
      exact List.inj_on_of_nodup_map hroles hold hrow hsame.left
    rw [Table.mem_updateWhere]
    constructor
    · rintro ⟨old, hold, ⟨hsame, rfl⟩ | ⟨_, rfl⟩⟩
      · cases hid old hold hsame
        exact hrow
      · exact hold
    · intro hr
      cases hsame : decide (r.id = row.id) && decide (r.tenantId = row.tenantId) with
      | true =>
          cases hid r hr hsame
          exact ⟨row, hrow, Or.inl ⟨hsame, rfl⟩⟩
      | false =>
          exact ⟨r, hr, Or.inr ⟨hsame, rfl⟩⟩

/-- `Update` is all or nothing exactly if, once the row is written, the role is answered
or no row has changed, and no valid id is given twice. -/
theorem updateRole_atomic_iff (lib : TextFunctions) {t : RoleStore}
    (hroles : (t.roles.map fun r => r.id).Nodup)
    (hpermissions : (t.permissions.map PermissionRow.id).Nodup) (x : RoleInput)
    (caller : Caller) (roleId : String) (req : UpdateRoleRequest) :
    RoleAtomic t (req.permissionIds.getD [])
        (t.updateRoleRequest lib x caller roleId (some req)) <->
      forall row, UpdatesRole lib t x caller roleId req row ->
        (t.Serves x req.permissionIds ∨
          req.KeepsRow lib row ∧ t.KeepsPermissions x row.id req.permissionIds) ∧
        t.RepeatsNone x req.permissionIds := by
  simp only [RoleStore.updateRoleRequest]
  cases hfind : t.findRole x caller.tenantId roleId with
  | none =>
      refine ⟨fun _ row h => ?_, fun _ => RoleAtomic.of_reject t _ ?_⟩
      · cases hfind.symm.trans h.left
      · simp [RoleAnswer.invalidPermissions]
  | some found =>
      cases found with
      | none =>
          refine ⟨fun _ row h => ?_, fun _ => RoleAtomic.of_reject t _ ?_⟩
          · cases hfind.symm.trans h.left
          · simp [RoleAnswer.invalidPermissions]
      | some row =>
          -- the row that the request writes is the row that was found
          have hfound : forall {p : RoleRecord -> Prop},
              (forall row', UpdatesRole lib t x caller roleId req row' -> p row') <->
                (UpdatesRole lib t x caller roleId req row -> p row) := by
            intro p
            refine ⟨fun h => h row, fun h row' hupdates => ?_⟩
            cases hfind.symm.trans hupdates.left
            exact h hupdates
          rw [hfound]
          simp only
          by_cases hsystem : row.isSystem = true
          · rw [if_pos hsystem]
            refine ⟨fun _ h => ?_, fun _ => RoleAtomic.of_reject t _ ?_⟩
            · cases hsystem.symm.trans h.right.left
            · simp [RoleAnswer.invalidPermissions]
          rw [if_neg hsystem]
          by_cases hname : req.name.map lib.trimSpace = some ""
          · rw [if_pos hname]
            refine ⟨fun _ h => absurd hname h.right.right.left, fun _ =>
              RoleAtomic.of_reject t _ ?_⟩
            simp [RoleAnswer.invalidPermissions]
          rw [if_neg hname]
          cases hfails : x.writeFails with
          | true =>
              simp only [RoleStore.updateRole, hfails, if_true]
              refine ⟨fun _ h => ?_, fun _ => RoleAtomic.of_reject t _ ?_⟩
              · cases hfails.symm.trans h.right.right.right.left
              · simp [RoleAnswer.invalidPermissions]
          | false =>
              cases htaken : t.nameTaken row.tenantId
                  ((req.name.map lib.trimSpace).getD row.name) row.id with
              | true =>
                  simp only [RoleStore.updateRole, hfails, htaken, Bool.false_eq_true,
                    if_false, if_true]
                  refine ⟨fun _ h => ?_, fun _ => RoleAtomic.of_reject t _ ?_⟩
                  · cases htaken.symm.trans h.right.right.right.right
                  · simp [RoleAnswer.invalidPermissions]
              | false =>
                  simp only [RoleStore.updateRole, hfails, htaken, Bool.false_eq_true,
                    if_false]
                  have hrow := findRole_mem hfind
                  have hupdates : UpdatesRole lib t x caller roleId req row :=
                    ⟨hfind, Bool.not_eq_true _ ▸ hsystem, hname, hfails, htaken⟩
                  have hends := assignPermissions_ends (t := { t with
                    roles := Table.updateWhere
                      (fun r => r.id = row.id && r.tenantId = row.tenantId)
                      (fun r => { r with
                        name := (req.name.map lib.trimSpace).getD row.name
                        description := req.description.or row.description }) t.roles })
                    (x := x) 200 hpermissions ⟨_, mem_updated hrow _ _, rfl⟩ req.permissionIds
                  refine hends.atomic_iff.trans ?_
                  rw [updated_same_iff hroles hrow]
                  exact ⟨fun h _ => h, fun h => h hupdates⟩

/-!
## The four handlers
-/

/-- A request whose body is not read writes nothing. -/
theorem alone_unread {lib : TextFunctions} {d : Directory} {x : UserInput}
    (xs : List UserInput) {k : UserStep} (hexec : k.exec lib x { directory := d, answers := [] } =
      UserState.reject { directory := d, answers := [] } 400 "VALIDATION_ERROR"
        "corps de requête invalide")
    (hstamps : k.stamps x { directory := d, answers := [] } = false) :
    exists e, k.alone lib (x :: xs) { directory := d, answers := [] } = some e ∧
      UserEnds d False True e := by
  refine ⟨_, alone_replied hexec, ?_⟩
  rw [hstamps]
  exact UserEnds.of_error not_false (by simp [UserAnswer.invalidRoles])

/-- The requests that leave the tables as they were when they answer an error, and that
refuse no valid ids: a user or a role that is written gets its roles or permissions
without an error.  That takes ids that are valid and distinct. -/
theorem requests_atomic_iff (lib : TextFunctions) {d : Directory} {t : RoleStore}
    (hroles : (d.roles.map RoleRow.id).Nodup) (hrecords : (t.roles.map fun r => r.id).Nodup)
    (hpermissions : (t.permissions.map PermissionRow.id).Nodup) (caller : Caller)
    (x y z w : UserInput) (v : RoleInput) :
    (forall body, exists e, (UserStep.create caller body).alone lib [x, y, z, w]
        { directory := d, answers := [] } = some e ∧
      (UserAtomic d caller.tenantId (body.elim [] fun req => req.roleIds) e <->
        forall req, body = some req -> InsertsUser lib d x y caller req ->
          req.roleIds = [] ∨ d.AssignsRoles z caller.tenantId req.roleIds)) ∧
    (forall userId body, exists e, (UserStep.update caller userId body).alone lib [x, y, z, w]
        { directory := d, answers := [] } = some e ∧
      (UserAtomic d caller.tenantId (body.elim [] fun req => req.roleIds.getD []) e <->
        forall req, body = some req -> UpdatesUser lib d x y caller userId req ->
          forall roleIds, req.roleIds = some roleIds ->
            d.AssignsRoles z caller.tenantId roleIds)) ∧
    (forall body, RoleAtomic t (body.elim [] fun req => req.permissionIds)
        (t.createRole lib v caller body) <->
      forall req, body = some req -> InsertsRole lib t v caller req ->
        t.Serves v req.granted) ∧
    (forall roleId body, RoleAtomic t (body.elim [] fun req => req.permissionIds.getD [])
        (t.updateRoleRequest lib v caller roleId body) <->
      forall req, body = some req -> forall row, UpdatesRole lib t v caller roleId req row ->
        (t.Serves v req.permissionIds ∨
          req.KeepsRow lib row ∧ t.KeepsPermissions v row.id req.permissionIds) ∧
        t.RepeatsNone v req.permissionIds) := by
  refine ⟨fun body => ?_, fun userId body => ?_, fun body => ?_, fun roleId body => ?_⟩
  · cases body with
    | none =>
        have hexec : (UserStep.create caller none).exec lib x
            { directory := d, answers := [] } = _ := rfl
        rcases alone_unread [y, z, w] hexec rfl with ⟨e, halone, hends⟩
        refine ⟨e, halone, hends.atomic_iff.trans ⟨fun _ req hsome => ?_, fun _ _ => trivial⟩⟩
        cases hsome
    | some req =>
        rcases create_ends lib hroles x y z w caller req with ⟨e, halone, hends⟩
        refine ⟨e, halone, hends.atomic_iff.trans ⟨?_, fun h => h req rfl⟩⟩
        rintro h _ ⟨⟩
        exact h
  · cases body with
    | none =>
        have hexec : (UserStep.update caller userId none).exec lib x
            { directory := d, answers := [] } = _ := rfl
        rcases alone_unread [y, z, w] hexec rfl with ⟨e, halone, hends⟩
        refine ⟨e, halone, hends.atomic_iff.trans ⟨fun _ req hsome => ?_, fun _ _ => trivial⟩⟩
        cases hsome
    | some req =>
        rcases update_ends lib hroles x y z w caller userId req with ⟨e, halone, hends⟩
        refine ⟨e, halone, hends.atomic_iff.trans ⟨?_, fun h => h req rfl⟩⟩
        rintro h _ ⟨⟩
        exact h
  · cases body with
    | none =>
        refine ⟨fun _ req hsome => ?_, fun _ => RoleAtomic.of_reject t _ ?_⟩
        · cases hsome
        · simp [RoleAnswer.invalidPermissions]
    | some req =>
        refine (createRole_atomic_iff lib hpermissions v caller req).trans
          ⟨?_, fun h => h req rfl⟩
        rintro h _ ⟨⟩
        exact h
  · cases body with
    | none =>
        refine ⟨fun _ req hsome => ?_, fun _ => RoleAtomic.of_reject t _ ?_⟩
        · cases hsome
        · simp [RoleAnswer.invalidPermissions]
    | some req =>
        refine (updateRole_atomic_iff lib hrecords hpermissions v caller roleId req).trans
          ⟨?_, fun h => h req rfl⟩
        rintro h _ ⟨⟩
        exact h

namespace SampleHalfway

def tenant : Uuid where
  text := "53000000-0000-4000-8000-000000000000"
  canonical := by decide

def technician : RoleRecord where
  id := { text := "53000000-0000-4000-8000-00000000000a", canonical := by decide }
  tenantId := tenant
  name := "Technicien"
  isSystem := false
  description := none

def viewAgents : PermissionRow where
  id := { text := "53000000-0000-4000-8000-00000000000b", canonical := by decide }
  resource := "agents"
  action := "read"

def directory : Directory where
  users := []
  roles := [technician.toRoleRow]
  userRoles := []

def tables : RoleStore where
  roles := [technician]
  permissions := [viewAgents]
  rolePermissions := []

def lib : TextFunctions where
  trimSpace := fun s => s
  toLower := fun s => s

def caller : Caller where
  userId := "53000000-0000-4000-8000-000000000001"
  tenantId := tenant.text

/-- Nothing fails. -/
def input : UserInput where
  fails := false
  uuid := { text := "53000000-0000-4000-8000-000000000002", canonical := by decide }
  hash := some "h"

def roleInput : RoleInput where
  uuid := { text := "53000000-0000-4000-8000-00000000000c", canonical := by decide }
  findFails := false
  writeFails := false
  assignFails := false
  reloadFails := false
  permissionsFail := false

/-- A user with the technician's role, given any number of times. -/
def newUser (times : Nat) : CreateUserRequest where
  email := "carol@leo"
  password := "12345678"
  fullName := "Carol"
  roleIds := List.replicate times technician.id.text

end SampleHalfway

theorem requests_atomic_iff_once :
    exists e, (UserStep.create SampleHalfway.caller (some (SampleHalfway.newUser 1))).alone
        SampleHalfway.lib (List.replicate 4 SampleHalfway.input)
        { directory := SampleHalfway.directory, answers := [] } = some e ∧
      UserAtomic SampleHalfway.directory SampleHalfway.caller.tenantId
        (SampleHalfway.newUser 1).roleIds e := by
  have hall := requests_atomic_iff SampleHalfway.lib (d := SampleHalfway.directory)
    (t := SampleHalfway.tables) (by decide) (by decide) (by decide) SampleHalfway.caller
    SampleHalfway.input SampleHalfway.input SampleHalfway.input SampleHalfway.input
    SampleHalfway.roleInput
  rcases hall.left (some (SampleHalfway.newUser 1)) with ⟨e, halone, hiff⟩
  refine ⟨e, halone, hiff.mpr ?_⟩
  rintro _ ⟨⟩ _
  refine Or.inr ⟨rfl, ?_, _, rfl, List.nodup_singleton _⟩
  intro text htext
  rw [List.mem_singleton.mp htext]
  exact ⟨_, List.mem_singleton_self _, by decide, by decide⟩

/-- The id of a role of the tenant, given twice, is refused, and the user is there. -/
theorem repeated_role_creates_user :
    exists e, (UserStep.create SampleHalfway.caller (some (SampleHalfway.newUser 2))).alone
        SampleHalfway.lib (List.replicate 4 SampleHalfway.input)
        { directory := SampleHalfway.directory, answers := [] } = some e ∧
      SampleHalfway.directory.ValidRoles SampleHalfway.caller.tenantId
        (SampleHalfway.newUser 2).roleIds ∧
      UserAnswer.invalidRoles ∈ e.1.answers ∧
      SampleHalfway.directory.users = [] ∧ e.1.directory.users.length = 1 := by
  refine ⟨_, rfl, ?_, ?_, rfl, rfl⟩
  · intro text htext
    rw [List.eq_of_mem_replicate htext]
    exact ⟨_, List.mem_singleton_self _, by decide, by decide⟩
  · exact List.mem_singleton_self _

end Accounts
end LeoOne
