import LeoOne.Accounts.Users
import LeoOne.Foundation.Reference

/-!
# The roles of a user are roles of their tenant

`SetRoles` only inserts roles of the caller's tenant, but it deletes and inserts
rows for whatever user it is given: that the user is one of the same tenant has
been checked by an earlier statement of the request.  Between the two statements
the user may be deleted.  The check still holds, as the identifier is not given to
another user.
-/

namespace LeoOne
namespace Accounts

open Foundation

/-- The tenant and the user that a later statement of a request works for. -/
def UserStep.subject : UserStep -> Option (String × String)
  | setRolesCreated caller u _ => some (caller.tenantId, u.id.text)
  | updateUser caller userId _ _ => some (caller.tenantId, userId)
  | setRolesUpdated caller userId _ _ => some (caller.tenantId, userId)
  | _ => none

/-- The arguments of the `SetRoles` of a statement. -/
def UserStep.assignment : UserStep -> Option (String × String × List String)
  | setRolesCreated caller u roleIds => some (caller.tenantId, u.id.text, roleIds)
  | setRolesUpdated caller userId _ roleIds => some (caller.tenantId, userId, roleIds)
  | _ => none

def UserStep.inserts : UserStep -> Bool
  | insertUser _ _ => true
  | _ => false

theorem UserStep.subject_of_assignment {k : UserStep} {tenantId userId : String}
    {roleIds : List String} (h : k.assignment = some (tenantId, userId, roleIds)) :
    k.subject = some (tenantId, userId) := by
  cases k with
  | setRolesCreated caller u roleIds =>
      cases h
      rfl
  | setRolesUpdated caller userId current roleIds =>
      cases h
      rfl
  | create | insertUser | reloadCreated | update | updateUser | reloadUpdated | delete =>
      cases h

/-!
## What a step does to the directory
-/

/-- Everything a step can do to the directory, and what follows it. -/
inductive UserMove (x : UserInput) (d : Directory) :
    UserStep -> Directory -> Option UserStep -> Prop where
  | stopped {k} : UserMove x d k d none
  | checked {caller body req} :
      UserMove x d (UserStep.create caller body) d (some (UserStep.insertUser caller req))
  | inserted {caller req u d' next} :
      u.id = x.uuid -> Uuid.parse caller.tenantId = some u.tenantId ->
      d.create u = some d' ->
      (next = none ∨ exists roleIds, next = some (UserStep.setRolesCreated caller u roleIds)) ->
      UserMove x d (UserStep.insertUser caller req) d' next
  | found {caller userId body req current tenant user u} :
      Uuid.parse caller.tenantId = some tenant -> Uuid.parse userId = some user ->
      d.findById tenant user = some u ->
      UserMove x d (UserStep.update caller userId body) d
        (some (UserStep.updateUser caller userId req current))
  | updated {caller userId req current tenant user fullName isActive d' next} :
      d.update user tenant fullName isActive = some d' ->
      (next = UserStep.reloadUpdated caller userId current ∨
        exists roleIds, next = UserStep.setRolesUpdated caller userId current roleIds) ->
      UserMove x d (UserStep.updateUser caller userId req current) d' (some next)
  | assigned {k tenantId userId roleIds tenant user ids d' n} {next : Option UserStep} :
      k.assignment = some (tenantId, userId, roleIds) ->
      Uuid.parse tenantId = some tenant -> Uuid.parse userId = some user ->
      d.setRoles tenant user ids = some (d', n) ->
      (forall j, j ∈ next -> j.subject = none) ->
      UserMove x d k d' next
  | deleted {caller userId tenant user d'} :
      d.delete tenant user = some d' ->
      UserMove x d (UserStep.delete caller userId) d' none

section Moves

variable {x : UserInput} {s : UserState} {tenantId userId : String}

theorem userParameters_some {tenant user : Uuid}
    (h : UserState.userParameters x tenantId userId = some (tenant, user)) :
    Uuid.parse tenantId = some tenant ∧ Uuid.parse userId = some user := by
  unfold UserState.userParameters at h
  split at h
  · rename_i htenant huser
    cases h
    exact ⟨htenant, huser⟩
  · cases h

theorem findById_some {u : UserRow} (h : s.findById x tenantId userId = some (some u)) :
    exists tenant user, Uuid.parse tenantId = some tenant ∧ Uuid.parse userId = some user ∧
      s.directory.findById tenant user = some u := by
  unfold UserState.findById at h
  split at h
  · rename_i tenant user hparams
    rcases userParameters_some hparams with ⟨htenant, huser⟩
    exact ⟨tenant, user, htenant, huser, Option.some.inj h⟩
  · cases h

theorem setRoles_some {roleIds : List String} {d : Directory} {n : Nat}
    (h : s.setRoles x tenantId userId roleIds = some (d, n)) :
    exists tenant user ids, Uuid.parse tenantId = some tenant ∧
      Uuid.parse userId = some user ∧
      s.directory.setRoles tenant user ids = some (d, n) := by
  unfold UserState.setRoles UserState.roleParameters at h
  split at h
  · rename_i tenant user ids hparams
    split at hparams
    · rename_i htenant huser _
      cases hparams
      exact ⟨tenant, user, ids, htenant, huser, h⟩
    · cases hparams
  · cases h

theorem assignRoles_moves {k next : UserStep} {roleIds : List String}
    (hk : k.assignment = some (tenantId, userId, roleIds)) (hnext : next.subject = none) :
    UserMove x s.directory k (s.assignRoles x tenantId userId roleIds next).1.directory
      (s.assignRoles x tenantId userId roleIds next).2 := by
  unfold UserState.assignRoles
  cases hset : s.setRoles x tenantId userId roleIds with
  | none =>
      exact UserMove.stopped
  | some result =>
      rcases setRoles_some hset with ⟨tenant, user, ids, htenant, huser, hd⟩
      simp only
      split
      · exact UserMove.assigned hk htenant huser hd (fun j hj => by cases hj)
      · refine UserMove.assigned hk htenant huser hd (fun j hj => ?_)
        cases hj
        exact hnext

end Moves

/-- The steps obey this description. -/
theorem UserStep.moves (lib : TextFunctions) (x : UserInput) (s : UserState) (k : UserStep) :
    UserMove x s.directory k (k.exec lib x s).1.directory (k.exec lib x s).2 := by
  cases k with
  | create caller body =>
      cases body with
      | none =>
          exact UserMove.stopped
      | some req =>
          simp only [exec]
          split
          · exact UserMove.stopped
          · split
            · exact UserMove.stopped
            · split
              · split
                · exact UserMove.stopped
                · exact UserMove.checked
              · exact UserMove.stopped
  | insertUser caller req =>
      simp only [exec]
      split
      · exact UserMove.stopped
      · rename_i hash tenant _ _ htenant
        split
        · exact UserMove.stopped
        · rename_i directory hcreate
          split
          · exact UserMove.inserted rfl htenant hcreate (Or.inr ⟨_, rfl⟩)
          · exact UserMove.inserted rfl htenant hcreate (Or.inl rfl)
      · exact UserMove.stopped
  | setRolesCreated caller u roleIds =>
      exact assignRoles_moves rfl rfl
  | reloadCreated caller u =>
      simp only [exec]
      split <;> exact UserMove.stopped
  | update caller userId body =>
      cases body with
      | none =>
          exact UserMove.stopped
      | some req =>
          simp only [exec]
          split
          · exact UserMove.stopped
          · exact UserMove.stopped
          · rename_i current hfound
            rcases findById_some hfound with ⟨tenant, user, htenant, huser, hrow⟩
            split
            · exact UserMove.stopped
            · split
              · exact UserMove.stopped
              · exact UserMove.found htenant huser hrow
  | updateUser caller userId req current =>
      simp only [exec]
      split
      · exact UserMove.stopped
      · rename_i directory hupdate
        split at hupdate
        · cases hupdate
        · split
          · exact UserMove.updated hupdate (Or.inr ⟨_, rfl⟩)
          · exact UserMove.updated hupdate (Or.inl rfl)
  | setRolesUpdated caller userId current roleIds =>
      exact assignRoles_moves rfl rfl
  | reloadUpdated caller userId current =>
      simp only [exec]
      split <;> exact UserMove.stopped
  | delete caller userId =>
      simp only [exec]
      split
      · exact UserMove.stopped
      · split
        · exact UserMove.stopped
        · split
          · exact UserMove.stopped
          · rename_i hdelete
            exact UserMove.deleted hdelete

/-!
## Users, their tenants and their roles
-/

namespace Directory

/-- The user of a row of `user_roles` belongs to the tenant. -/
def OfTenant (d : Directory) (ur : UserRoleRow) (tenant : Uuid) : Prop :=
  exists u, u ∈ d.users ∧ u.id = ur.userId ∧ u.tenantId = tenant

def roleKeys (d : Directory) : Keys Uuid Uuid :=
  d.roles.map fun ro => (ro.id, ro.tenantId)

/-- `user_roles.role_id` refers to a role of the user's tenant. -/
def RolesOwned (d : Directory) : Prop :=
  SameOwner (fun ur roleId => ur.roleId = roleId) d.OfTenant d.userRoles d.roleKeys

/-- The keys of the tables, with the identifiers that users have had: an
identifier has one tenant, and `user_roles` refers to users. -/
structure KeysHold (userIds : List Uuid) (d : Directory) : Prop where
  oneTenant : forall {u v}, u ∈ d.users -> v ∈ d.users -> u.id = v.id ->
    u.tenantId = v.tenantId
  known : forall {u}, u ∈ d.users -> u.id ∈ userIds
  held : forall {ur}, ur ∈ d.userRoles -> ur.userId ∈ userIds

/-- Whoever has the identifier belongs to the tenant, now and later. -/
def Belongs (userIds : List Uuid) (d : Directory) (tenantId userId : String) : Prop :=
  forall id, Uuid.parse userId = some id ->
    id ∈ userIds ∧ forall u, u ∈ d.users -> u.id = id -> Uuid.parse tenantId = some u.tenantId

/-- The users afterwards are users from before, or have a new identifier. -/
def UsersFrom (userIds : List Uuid) (d d' : Directory) : Prop :=
  forall v, v ∈ d'.users ->
    (exists u, u ∈ d.users ∧ u.id = v.id ∧ u.tenantId = v.tenantId) ∨ v.id ∉ userIds

variable {userIds userIds' : List Uuid} {d d' : Directory}

theorem UsersFrom.of_subset (h : d'.users ⊆ d.users) : UsersFrom userIds d d' :=
  fun _ hv => Or.inl ⟨_, h hv, rfl, rfl⟩

theorem Belongs.later {tenantId userId : String} (h : Belongs userIds d tenantId userId)
    (hids : userIds ⊆ userIds') (hfrom : UsersFrom userIds d d') :
    Belongs userIds' d' tenantId userId := by
  intro id hid
  rcases h id hid with ⟨hmem, htenant⟩
  refine ⟨hids hmem, ?_⟩
  intro v hv heq
  rcases hfrom v hv with ⟨u, hu, huid, hutenant⟩ | hnew
  · rw [← hutenant]
    exact htenant u hu (huid.trans heq)
  · rw [heq] at hnew
    exact absurd hmem hnew

/-- Without a new user, the users have the tenants they had. -/
theorem RolesOwned.shrink (h : RolesOwned d) (hroles : d'.roles = d.roles)
    (hrows : d'.userRoles ⊆ d.userRoles)
    (husers : forall {v}, v ∈ d'.users ->
      exists u, u ∈ d.users ∧ u.id = v.id ∧ u.tenantId = v.tenantId) :
    RolesOwned d' := by
  have hkeys : d'.roleKeys = d.roleKeys := by
    unfold roleKeys
    rw [hroles]
  unfold RolesOwned
  rw [hkeys]
  refine (SameOwner.subset h hrows).owner_mono ?_
  rintro ur _ tenant ⟨v, hv, hid, htenant⟩
  rcases husers hv with ⟨u, hu, huid, hutenant⟩
  exact ⟨u, hu, huid.trans hid, hutenant.trans htenant⟩

theorem KeysHold.shrink (h : KeysHold userIds d) (hrows : d'.userRoles ⊆ d.userRoles)
    (husers : forall {v}, v ∈ d'.users ->
      exists u, u ∈ d.users ∧ u.id = v.id ∧ u.tenantId = v.tenantId) :
    KeysHold userIds d' where
  oneTenant := by
    intro v w hv hw hid
    rcases husers hv with ⟨a, ha, haid, hatenant⟩
    rcases husers hw with ⟨b, hb, hbid, hbtenant⟩
    rw [← hatenant, ← hbtenant]
    exact h.oneTenant ha hb (by rw [haid, hbid, hid])
  known := by
    intro v hv
    rcases husers hv with ⟨u, hu, hid, _⟩
    rw [← hid]
    exact h.known hu
  held := fun hur => h.held (hrows hur)

theorem update_users {userId tenantId : Uuid} {fullName : String} {isActive : Bool}
    (h : d.update userId tenantId fullName isActive = some d') :
    d'.roles = d.roles ∧ d'.userRoles = d.userRoles ∧
      forall {v}, v ∈ d'.users ->
        exists u, u ∈ d.users ∧ u.id = v.id ∧ u.tenantId = v.tenantId := by
  unfold update at h
  split at h
  · cases h
    refine ⟨rfl, rfl, ?_⟩
    intro v hv
    rcases Table.mem_updateWhere.mp hv with ⟨old, hold, ⟨_, heq⟩ | ⟨_, heq⟩⟩
    · rw [heq]
      exact ⟨old, hold, rfl, rfl⟩
    · rw [heq]
      exact ⟨old, hold, rfl, rfl⟩
  · cases h

theorem create_users {u : UserRow} (h : d.create u = some d') :
    d' = { d with users := d.users ++ [u] } := by
  unfold create at h
  split at h
  · cases h
  · exact (Option.some.inj h).symm

theorem KeysHold.mono (h : KeysHold userIds d) (hids : userIds ⊆ userIds') :
    KeysHold userIds' d where
  oneTenant := h.oneTenant
  known := fun hu => hids (h.known hu)
  held := fun hur => hids (h.held hur)

/-- A user with an identifier of their own. -/
theorem KeysHold.create {u : UserRow} (h : KeysHold userIds d) (hcreate : d.create u = some d')
    (hnew : u.id ∉ userIds) (hids : userIds ⊆ userIds') (hmem : u.id ∈ userIds') :
    KeysHold userIds' d' := by
  have hother : forall {v}, v ∈ d.users -> v.id ≠ u.id := by
    intro v hv heq
    exact hnew (heq ▸ h.known hv)
  rw [create_users hcreate]
  constructor
  · intro v w hv hw hid
    rcases List.mem_append.mp hv with hv | hv
    · rcases List.mem_append.mp hw with hw | hw
      · exact h.oneTenant hv hw hid
      · rw [List.mem_singleton.mp hw] at hid
        exact absurd hid (hother hv)
    · rcases List.mem_append.mp hw with hw | hw
      · rw [List.mem_singleton.mp hv] at hid
        exact absurd hid.symm (hother hw)
      · rw [List.mem_singleton.mp hv, List.mem_singleton.mp hw]
  · intro v hv
    rcases List.mem_append.mp hv with hv | hv
    · exact hids (h.known hv)
    · rw [List.mem_singleton.mp hv]
      exact hmem
  · intro ur hur
    exact hids (h.held hur)

/-- The new user has no roles yet. -/
theorem RolesOwned.create {u : UserRow} (h : RolesOwned d) (hkeys : KeysHold userIds d)
    (hcreate : d.create u = some d') (hnew : u.id ∉ userIds) : RolesOwned d' := by
  rw [create_users hcreate]
  refine SameOwner.owner_mono h ?_
  rintro ur hur tenant ⟨v, hv, hid, htenant⟩
  rcases List.mem_append.mp hv with hv | hv
  · exact ⟨v, hv, hid, htenant⟩
  · rw [List.mem_singleton.mp hv] at hid
    rw [hid] at hnew
    exact absurd (hkeys.held hur) hnew

section SetRoles

variable {tenant user : Uuid} {ids : List Uuid} {n : Nat}

/-- `SetRoles` on a user of its tenant. -/
theorem RolesOwned.setRoles (h : RolesOwned d) (hset : d.setRoles tenant user ids = some (d', n))
    (htenant : forall u, u ∈ d.users -> u.id = user -> u.tenantId = tenant) :
    RolesOwned d' := by
  rcases setRoles_replaced hset with ⟨hreplaced, husers⟩
  have howner : d'.OfTenant = d.OfTenant := by
    unfold OfTenant
    rw [husers]
  have hkeys : d'.roleKeys = d.roleKeys := by
    unfold roleKeys
    rw [hreplaced.roles]
  unfold RolesOwned
  rw [howner, hkeys, hreplaced.rows]
  refine SameOwner.insert (SameOwner.subset h (Table.deleteWhere_sublist _ _).subset) ?_
  rintro ur hur roleId t hrole ⟨u, hu, hid, hut⟩
  rcases List.mem_map.mp hur with ⟨ro, hro, rfl⟩
  have hassignable := List.mem_filter.mp hro
  simp only [Bool.and_eq_true, decide_eq_true_eq] at hassignable
  have ht : t = tenant := hut.symm.trans (htenant u hu hid)
  subst hrole
  rw [ht, ← hassignable.right.right]
  exact List.mem_map_of_mem hassignable.left

theorem KeysHold.setRoles (h : KeysHold userIds d)
    (hset : d.setRoles tenant user ids = some (d', n)) (hmem : user ∈ userIds) :
    KeysHold userIds d' := by
  rcases setRoles_replaced hset with ⟨hreplaced, husers⟩
  constructor
  · rw [husers]
    exact h.oneTenant
  · rw [husers]
    exact h.known
  · intro ur hur
    rw [hreplaced.rows] at hur
    rcases List.mem_append.mp hur with hold | hlast
    · exact h.held (Table.mem_deleteWhere.mp hold).left
    · rcases List.mem_map.mp hlast with ⟨ro, _, rfl⟩
      exact hmem

end SetRoles

end Directory

/-!
## One step
-/

/-- The user of a pending statement has been checked. -/
def UserStep.Lawful (userIds : List Uuid) (d : Directory) (k : UserStep) : Prop :=
  forall tenantId userId, k.subject = some (tenantId, userId) ->
    d.Belongs userIds tenantId userId

theorem UserStep.lawful_of_none {userIds : List Uuid} {d : Directory} {k : UserStep}
    (h : k.subject = none) : k.Lawful userIds d := by
  intro tenantId userId hsubject
  rw [h] at hsubject
  cases hsubject

/-- What a step keeps. -/
structure UsersKept (userIds userIds' : List Uuid) (d d' : Directory)
    (next : Option UserStep) : Prop where
  roles : d'.roles = d.roles
  keys : d'.KeysHold userIds'
  owned : d'.RolesOwned
  users : d.UsersFrom userIds d'
  lawful : forall j, j ∈ next -> j.Lawful userIds' d'

section Keeps

variable {x : UserInput} {d d' : Directory} {userIds userIds' : List Uuid}

theorem UsersKept.shrink {next : Option UserStep} (hkeys : d.KeysHold userIds)
    (howned : d.RolesOwned) (hids : userIds ⊆ userIds') (hroles : d'.roles = d.roles)
    (hrows : d'.userRoles ⊆ d.userRoles)
    (husers : forall {v}, v ∈ d'.users ->
      exists u, u ∈ d.users ∧ u.id = v.id ∧ u.tenantId = v.tenantId)
    (hlawful : forall j, j ∈ next -> j.Lawful userIds' d') :
    UsersKept userIds userIds' d d' next :=
  ⟨hroles, (hkeys.shrink hrows husers).mono hids, howned.shrink hroles hrows husers,
    fun _ hv => Or.inl (husers hv), hlawful⟩

/-- A user that was found belongs to the tenant it was looked for in. -/
theorem belongs_of_find (hkeys : d.KeysHold userIds) {tenantId userId : String}
    {tenant user : Uuid} {u : UserRow} (htenant : Uuid.parse tenantId = some tenant)
    (huser : Uuid.parse userId = some user) (hfind : d.findById tenant user = some u) :
    d.Belongs userIds tenantId userId := by
  have hu := List.mem_of_find?_eq_some hfind
  have htest := List.find?_some hfind
  simp only [Directory.isUser, Bool.and_eq_true, decide_eq_true_eq] at htest
  intro id hid
  rw [huser] at hid
  cases hid
  refine ⟨htest.left ▸ hkeys.known hu, ?_⟩
  intro v hv heq
  rw [htenant, ← htest.right, hkeys.oneTenant hu hv (htest.left.trans heq.symm)]

theorem UserMove.keeps {k : UserStep} {next : Option UserStep} (h : UserMove x d k d' next)
    (hkeys : d.KeysHold userIds) (howned : d.RolesOwned) (hk : k.Lawful userIds d)
    (hids : userIds ⊆ userIds')
    (hfresh : k.inserts = true -> x.uuid ∉ userIds ∧ x.uuid ∈ userIds') :
    UsersKept userIds userIds' d d' next := by
  have hsame : forall {v}, v ∈ d.users ->
      exists u, u ∈ d.users ∧ u.id = v.id ∧ u.tenantId = v.tenantId :=
    fun hv => ⟨_, hv, rfl, rfl⟩
  have hrefl : d.UsersFrom userIds d := Directory.UsersFrom.of_subset (List.Subset.refl _)
  cases h with
  | stopped =>
      exact UsersKept.shrink hkeys howned hids rfl (List.Subset.refl _) hsame
        (fun j hj => by cases hj)
  | checked =>
      refine UsersKept.shrink hkeys howned hids rfl (List.Subset.refl _) hsame ?_
      intro j hj
      cases hj
      exact UserStep.lawful_of_none rfl
  | @inserted caller req u _ _ huuid htenant hcreate hnext =>
      rcases hfresh rfl with ⟨hnew, hmem⟩
      rw [← huuid] at hnew hmem
      have hkeys' := hkeys.create hcreate hnew hids hmem
      refine ⟨by rw [Directory.create_users hcreate], hkeys',
        howned.create hkeys hcreate hnew, ?_, ?_⟩
      · intro v hv
        rw [Directory.create_users hcreate] at hv
        rcases List.mem_append.mp hv with hv | hv
        · exact Or.inl (hsame hv)
        · rw [List.mem_singleton.mp hv]
          exact Or.inr hnew
      · intro j hj
        rcases hnext with rfl | ⟨roleIds, rfl⟩
        · cases hj
        · cases hj
          intro tenantId userId hsubject
          cases hsubject
          intro id hid
          rw [Uuid.parse_of_named (Uuid.named_text.mpr rfl)] at hid
          cases hid
          refine ⟨hmem, ?_⟩
          intro v hv heq
          have hu : u ∈ d'.users := by
            rw [Directory.create_users hcreate]
            exact List.mem_append_right _ (List.mem_singleton_self u)
          rw [htenant, hkeys'.oneTenant hu hv heq.symm]
  | found htenant huser hfind =>
      refine UsersKept.shrink hkeys howned hids rfl (List.Subset.refl _) hsame ?_
      intro j hj
      cases hj
      intro tenantId userId hsubject
      cases hsubject
      exact (belongs_of_find hkeys htenant huser hfind).later hids hrefl
  | @updated caller userId _ _ _ _ _ _ _ _ hupdate hnext =>
      rcases Directory.update_users hupdate with ⟨hroles, hrows, husers⟩
      refine UsersKept.shrink hkeys howned hids hroles (hrows ▸ List.Subset.refl _) husers ?_
      intro j hj
      cases hj
      rcases hnext with rfl | ⟨roleIds, rfl⟩
      · exact UserStep.lawful_of_none rfl
      · intro tenantId userId' hsubject
        cases hsubject
        exact (hk _ _ rfl).later hids fun _ hv => Or.inl (husers hv)
  | assigned hassign htenant huser hset hnext =>
      rcases Directory.setRoles_replaced hset with ⟨hreplaced, husers⟩
      rcases hk _ _ (UserStep.subject_of_assignment hassign) _ huser with ⟨hmem, hbelongs⟩
      refine ⟨hreplaced.roles, (hkeys.setRoles hset hmem).mono hids,
        howned.setRoles hset ?_, Directory.UsersFrom.of_subset (husers ▸ List.Subset.refl _), ?_⟩
      · intro u hu hid
        have hparse := hbelongs u hu hid
        rw [htenant] at hparse
        exact (Option.some.inj hparse).symm
      · intro j hj
        exact UserStep.lawful_of_none (hnext j hj)
  | deleted hdelete =>
      rcases Directory.delete_replaced hdelete with ⟨hreplaced, husers⟩
      refine UsersKept.shrink hkeys howned hids hreplaced.roles ?_ ?_ (fun j hj => by cases hj)
      · rw [hreplaced.rows, List.map_nil, List.append_nil]
        exact (Table.deleteWhere_sublist _ _).subset
      · intro v hv
        rw [husers] at hv
        exact hsame (Table.mem_deleteWhere.mp hv).left

end Keeps

end Accounts
end LeoOne
