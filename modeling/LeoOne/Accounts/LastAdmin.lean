import LeoOne.Accounts.Users

/-!
# The last administrator of a tenant

The handlers refuse that a caller deactivates or deletes the account of the token,
compared as texts.  Nothing keeps two administrators from acting on each other, a
caller from replacing roles (their own included), or a role assignment that is
answered with an error from having removed the old roles.  A tenant keeps an
active administrator exactly as long as no statement takes this away from the only
one.
-/

namespace LeoOne
namespace Accounts

open Foundation

namespace Directory

/-- An active user of the tenant who holds a system Admin role. -/
def activeAdmin (d : Directory) (tenantId : Uuid) (u : UserRow) : Bool :=
  u.tenantId = tenantId && u.isActive && d.isAdmin u.id

def hasAdmin (d : Directory) (tenantId : Uuid) : Bool :=
  d.users.any (d.activeAdmin tenantId)

/-- An active administrator other than the given user. -/
def hasOtherAdmin (d : Directory) (tenantId userId : Uuid) : Bool :=
  d.users.any fun u => u.id ≠ userId && d.activeAdmin tenantId u

/-- Some role that `SetRoles` would assign is a system Admin role. -/
def grantsAdmin (d : Directory) (tenantId : Uuid) (roleIds : List Uuid) : Bool :=
  (d.assignable tenantId roleIds).any fun r =>
    d.roles.any fun ro => ro.id = r.id && isAdminRole ro

theorem hasAdmin_iff {d : Directory} {tenantId : Uuid} :
    d.hasAdmin tenantId = true <->
      exists u, u ∈ d.users ∧ u.tenantId = tenantId ∧ u.isActive = true ∧
        d.isAdmin u.id = true := by
  simp only [hasAdmin, activeAdmin, List.any_eq_true, Bool.and_eq_true, decide_eq_true_eq,
    and_assoc]

theorem hasOtherAdmin_iff {d : Directory} {tenantId userId : Uuid} :
    d.hasOtherAdmin tenantId userId = true <->
      exists u, u ∈ d.users ∧ u.id ≠ userId ∧ u.tenantId = tenantId ∧ u.isActive = true ∧
        d.isAdmin u.id = true := by
  simp only [hasOtherAdmin, activeAdmin, List.any_eq_true, Bool.and_eq_true, decide_eq_true_eq,
    and_assoc]

/-!
## What the statements do to the administrators
-/

/-- Whether a user is an administrator depends only on the user's own rows. -/
theorem isAdmin_congr {d d' : Directory} {userId : Uuid} (hroles : d'.roles = d.roles)
    (hrows : forall ur, ur.userId = userId -> (ur ∈ d'.userRoles <-> ur ∈ d.userRoles)) :
    d'.isAdmin userId = d.isAdmin userId := by
  rw [Bool.eq_iff_iff]
  simp only [isAdmin, List.any_eq_true, Bool.and_eq_true, decide_eq_true_eq, hroles]
  constructor
  · rintro ⟨ur, hur, hid, hadmin⟩
    exact ⟨ur, (hrows ur hid).mp hur, hid, hadmin⟩
  · rintro ⟨ur, hur, hid, hadmin⟩
    exact ⟨ur, (hrows ur hid).mpr hur, hid, hadmin⟩

theorem update_hasAdmin {d d' : Directory} {userId tenantId : Uuid} {fullName : String}
    {isActive : Bool} (h : d.update userId tenantId fullName isActive = some d')
    (tenant : Uuid) :
    (isActive = true -> d.hasAdmin tenant = true -> d'.hasAdmin tenant = true) ∧
      (isActive = false -> tenantId = tenant ->
        d'.hasAdmin tenant = d.hasOtherAdmin tenant userId) ∧
      (tenantId ≠ tenant -> d.hasAdmin tenant = true -> d'.hasAdmin tenant = true) := by
  unfold update at h
  split at h
  · cases h
    refine ⟨?_, ?_, ?_⟩
    · intro hactive hadmin
      rcases hasAdmin_iff.mp hadmin with ⟨u, hu, htenant, hon, hrole⟩
      rw [hasAdmin_iff]
      cases hsel : isUser userId tenantId u with
      | true =>
          exact ⟨_, Table.mem_updateWhere.mpr ⟨u, hu, Or.inl ⟨hsel, rfl⟩⟩, htenant, hactive,
            hrole⟩
      | false =>
          exact ⟨u, Table.mem_updateWhere_of_not hu hsel, htenant, hon, hrole⟩
    · intro hinactive htenantId
      subst htenantId hinactive
      rw [Bool.eq_iff_iff, hasAdmin_iff, hasOtherAdmin_iff]
      constructor
      · rintro ⟨u, hu, htenant, hon, hrole⟩
        rcases Table.mem_updateWhere.mp hu with ⟨old, hold, ⟨hsel, rfl⟩ | ⟨hsel, rfl⟩⟩
        · cases hon
        · refine ⟨u, hold, fun hid => ?_, htenant, hon, hrole⟩
          simp [isUser, hid, htenant] at hsel
      · rintro ⟨u, hu, hne, htenant, hon, hrole⟩
        refine ⟨u, Table.mem_updateWhere_of_not hu ?_, htenant, hon, hrole⟩
        simp [isUser, hne]
    · intro hother hadmin
      rcases hasAdmin_iff.mp hadmin with ⟨u, hu, htenant, hon, hrole⟩
      rw [hasAdmin_iff]
      refine ⟨u, Table.mem_updateWhere_of_not hu ?_, htenant, hon, hrole⟩
      have hne : u.tenantId ≠ tenantId := fun heq => hother (heq.symm.trans htenant)
      simp [isUser, hne]
  · cases h

/-- Nobody else changes. -/
theorem RolesReplaced.other {d d' : Directory} {userId : Uuid} {roles : List RoleRow}
    (h : RolesReplaced d d' userId roles) {other : Uuid} (hne : other ≠ userId) :
    d'.isAdmin other = d.isAdmin other := by
  refine isAdmin_congr h.roles fun ur hur => ?_
  rw [h.rows, List.mem_append, Table.mem_deleteWhere]
  constructor
  · rintro (⟨hmem, _⟩ | hnew)
    · exact hmem
    · rcases List.mem_map.mp hnew with ⟨ro, _, rfl⟩
      exact absurd hur.symm hne
  · intro hmem
    exact Or.inl ⟨hmem, decide_eq_false (hur ▸ hne)⟩

/-- The user is an administrator exactly if one of the new roles makes them one. -/
theorem RolesReplaced.self {d d' : Directory} {userId : Uuid} {roles : List RoleRow}
    (h : RolesReplaced d d' userId roles) :
    d'.isAdmin userId =
      roles.any fun r => d.roles.any fun ro => ro.id = r.id && isAdminRole ro := by
  have hold : (Table.deleteWhere (fun ur => decide (ur.userId = userId)) d.userRoles).any
      (fun ur => decide (ur.userId = userId) &&
        d.roles.any fun ro => decide (ro.id = ur.roleId) && isAdminRole ro) = false := by
    rw [List.any_eq_false]
    intro ur hur
    simp [(Table.mem_deleteWhere.mp hur).right]
  unfold isAdmin
  rw [h.roles, h.rows, List.any_append, hold, Bool.false_or, List.any_map]
  simp [Function.comp_def]

/-- If the user is left without an Admin role, the administrators are the others. -/
theorem RolesReplaced.hasAdmin {d d' : Directory} {tenantId userId : Uuid}
    {roles : List RoleRow} (h : RolesReplaced d d' userId roles)
    (husers : forall u, u.id ≠ userId -> (u ∈ d'.users <-> u ∈ d.users))
    (hnone : d'.isAdmin userId = false) :
    d'.hasAdmin tenantId = d.hasOtherAdmin tenantId userId := by
  rw [Bool.eq_iff_iff, hasAdmin_iff, hasOtherAdmin_iff]
  constructor
  · rintro ⟨u, hu, htenant, hon, hrole⟩
    have hne : u.id ≠ userId := by
      intro hid
      rw [hid, hnone] at hrole
      cases hrole
    rw [h.other hne] at hrole
    exact ⟨u, (husers u hne).mp hu, hne, htenant, hon, hrole⟩
  · rintro ⟨u, hu, hne, htenant, hon, hrole⟩
    rw [← h.other hne] at hrole
    exact ⟨u, (husers u hne).mpr hu, htenant, hon, hrole⟩

theorem delete_hasAdmin {d d' : Directory} {userId tenantId : Uuid}
    (h : d.delete tenantId userId = some d') (tenant : Uuid) :
    d'.hasAdmin tenant = d.hasOtherAdmin tenant userId := by
  rcases delete_replaced h with ⟨hreplaced, husers⟩
  refine hreplaced.hasAdmin (fun u hne => ?_) hreplaced.self
  rw [husers, Table.mem_deleteWhere, and_iff_left_iff_imp]
  intro _
  simp [isUser, hne]

theorem setRoles_hasAdmin {d d' : Directory} {userId tenantId : Uuid} {roleIds : List Uuid}
    {assigned : Nat} (h : d.setRoles tenantId userId roleIds = some (d', assigned))
    (tenant : Uuid) :
    (d.grantsAdmin tenantId roleIds = true -> d.hasAdmin tenant = true ->
      d'.hasAdmin tenant = true) ∧
    (d.grantsAdmin tenantId roleIds = false ->
      d'.hasAdmin tenant = d.hasOtherAdmin tenant userId) := by
  rcases setRoles_replaced h with ⟨hreplaced, husers⟩
  refine ⟨fun hgrants hadmin => ?_, fun hnone => ?_⟩
  · rcases hasAdmin_iff.mp hadmin with ⟨u, hu, htenant, hon, hrole⟩
    rw [hasAdmin_iff, husers]
    refine ⟨u, hu, htenant, hon, ?_⟩
    by_cases hid : u.id = userId
    · rw [hid, hreplaced.self]
      exact hgrants
    · rw [hreplaced.other hid]
      exact hrole
  · refine hreplaced.hasAdmin (fun u _ => by rw [husers]) ?_
    rw [hreplaced.self]
    exact hnone

theorem create_hasAdmin {d d' : Directory} {u : UserRow} (h : d.create u = some d')
    {tenant : Uuid} (hadmin : d.hasAdmin tenant = true) : d'.hasAdmin tenant = true := by
  unfold create at h
  split at h
  · cases h
  · cases h
    rcases hasAdmin_iff.mp hadmin with ⟨v, hv, htenant, hon, hrole⟩
    rw [hasAdmin_iff]
    exact ⟨v, List.mem_append_left _ hv, htenant, hon, hrole⟩

end Directory

/-!
## The condition
-/

/-- The user whom an assignment of roles leaves without an Admin role. -/
def demotesByRoles (x : UserInput) (d : Directory) (tenantId userId : String)
    (roleIds : List String) : Option Uuid :=
  match UserState.roleParameters x tenantId userId roleIds with
  | some (tenant, user, ids) =>
      if (d.users.any fun u => u.id = user) && !d.grantsAdmin tenant ids then some user else none
  | none => none

/-- The user who cannot be an active administrator of the tenant after the step. -/
def UserStep.demotes (tenant : Uuid) (x : UserInput) (d : Directory) : UserStep -> Option Uuid
  | updateUser _ _ _ current =>
      if !x.fails && d.users.any (Directory.isUser current.id current.tenantId) &&
          current.tenantId = tenant && !current.isActive then some current.id
      else none
  | setRolesCreated caller u roleIds => demotesByRoles x d caller.tenantId u.id.text roleIds
  | setRolesUpdated caller userId _ roleIds => demotesByRoles x d caller.tenantId userId roleIds
  | delete caller userId =>
      if userId = caller.userId then none
      else
        match UserState.userParameters x caller.tenantId userId with
        | none => none
        | some (tenantId, user) =>
            if d.users.any (Directory.isUser user tenantId) then some user else none
  | _ => none

/-- The user whom the step demotes is not an active administrator of the tenant,
or there is another one. -/
def sparesLastAdmin (tenant : Uuid) (p : Pool UserState UserStep) (k : UserStep)
    (x : UserInput) : Bool :=
  let d := p.shared.directory
  match k.demotes tenant x d with
  | none => true
  | some userId =>
      !(d.users.any fun u => u.id = userId && d.activeAdmin tenant u) ||
        d.hasOtherAdmin tenant userId

/-!
## One step
-/

theorem hasOtherAdmin_of_absent {d : Directory} {tenant userId : Uuid}
    (habsent : forall u, u ∈ d.users -> u.id ≠ userId) (h : d.hasAdmin tenant = true) :
    d.hasOtherAdmin tenant userId = true := by
  rcases Directory.hasAdmin_iff.mp h with ⟨u, hu, hadmin⟩
  exact Directory.hasOtherAdmin_iff.mpr ⟨u, hu, habsent u hu, hadmin⟩

section AssignRoles

variable {x : UserInput} {s : UserState} {tenantId userId : String} {roleIds : List String}
  {next : UserStep} {tenant : Uuid}

/-- An assignment of roles replaces the directory by the one `SetRoles` commits,
whatever it answers. -/
theorem assignRoles_directory :
    (s.assignRoles x tenantId userId roleIds next).1.directory =
      match s.setRoles x tenantId userId roleIds with
      | none => s.directory
      | some (directory, _) => directory := by
  unfold UserState.assignRoles
  cases s.setRoles x tenantId userId roleIds with
  | none =>
      rfl
  | some result =>
      simp only
      split <;> rfl

theorem assignRoles_keeps (hnone : demotesByRoles x s.directory tenantId userId roleIds = none)
    (hadmin : s.directory.hasAdmin tenant = true) :
    (s.assignRoles x tenantId userId roleIds next).1.directory.hasAdmin tenant = true := by
  rw [assignRoles_directory, UserState.setRoles]
  unfold demotesByRoles at hnone
  cases hparams : UserState.roleParameters x tenantId userId roleIds with
  | none =>
      exact hadmin
  | some params =>
      rcases params with ⟨t, user, ids⟩
      simp only [hparams] at hnone ⊢
      cases hset : s.directory.setRoles t user ids with
      | none =>
          exact hadmin
      | some result =>
          rcases Directory.setRoles_hasAdmin hset tenant with ⟨hgrants, hother⟩
          cases hg : s.directory.grantsAdmin t ids with
          | true =>
              exact hgrants hg hadmin
          | false =>
              -- nobody has this id, so nobody loses a role
              rw [hother hg]
              refine hasOtherAdmin_of_absent (fun u hu hid => ?_) hadmin
              have hexists : (s.directory.users.any fun u => u.id = user) = true :=
                List.any_eq_true.mpr ⟨u, hu, decide_eq_true hid⟩
              simp [hexists, hg] at hnone

theorem assignRoles_demotes {id : Uuid}
    (hsome : demotesByRoles x s.directory tenantId userId roleIds = some id) :
    (s.assignRoles x tenantId userId roleIds next).1.directory.hasAdmin tenant =
      s.directory.hasOtherAdmin tenant id := by
  rw [assignRoles_directory, UserState.setRoles]
  unfold demotesByRoles at hsome
  cases hparams : UserState.roleParameters x tenantId userId roleIds with
  | none =>
      rw [hparams] at hsome
      cases hsome
  | some params =>
      rcases params with ⟨t, user, ids⟩
      simp only [hparams] at hsome ⊢
      split at hsome
      · rename_i hcond
        cases hsome
        simp only [Bool.and_eq_true, Bool.not_eq_true'] at hcond
        cases hset : s.directory.setRoles t id ids with
        | none =>
            -- the foreign key is satisfied
            simp [Directory.setRoles, hcond.left] at hset
        | some result =>
            exact (Directory.setRoles_hasAdmin hset tenant).right hcond.right
      · cases hsome

end AssignRoles

section Exec

variable {lib : TextFunctions} {x : UserInput} {s : UserState} {tenant : Uuid}

/-- The statements of a request that only read leave the directory as it is. -/
theorem exec_reads {k : UserStep}
    (hk : match k with
      | UserStep.create _ _ | UserStep.reloadCreated _ _ | UserStep.update _ _ _
      | UserStep.reloadUpdated _ _ _ => True
      | _ => False) :
    (k.exec lib x s).1.directory = s.directory := by
  cases k with
  | create caller body =>
      cases body with
      | none =>
          rfl
      | some req =>
          simp only [UserStep.exec]
          split
          · rfl
          · split
            · rfl
            · split
              · split <;> rfl
              · rfl
  | reloadCreated caller u =>
      simp only [UserStep.exec]
      split <;> rfl
  | update caller userId body =>
      cases body with
      | none =>
          rfl
      | some req =>
          simp only [UserStep.exec]
          split
          · rfl
          · rfl
          · split
            · rfl
            · split <;> rfl
  | reloadUpdated caller userId current =>
      simp only [UserStep.exec]
      split <;> rfl
  | insertUser caller req =>
      cases hk
  | setRolesCreated caller u roleIds =>
      cases hk
  | updateUser caller userId req current =>
      cases hk
  | setRolesUpdated caller userId current roleIds =>
      cases hk
  | delete caller userId =>
      cases hk

theorem exec_insertUser {caller : Caller} {req : CreateUserRequest}
    (hadmin : s.directory.hasAdmin tenant = true) :
    ((UserStep.insertUser caller req).exec lib x s).1.directory.hasAdmin tenant = true := by
  simp only [UserStep.exec]
  split
  · exact hadmin
  · split
    · exact hadmin
    · rename_i hcreate
      split <;> exact Directory.create_hasAdmin hcreate hadmin
  · exact hadmin

/-- After an update, the directory is the one that the statement leaves. -/
theorem exec_updateUser {caller : Caller} {userId : String} {req : UpdateUserRequest}
    {current : UserRow} :
    ((UserStep.updateUser caller userId req current).exec lib x s).1.directory =
      (if x.fails then none
        else s.directory.update current.id current.tenantId current.fullName
          current.isActive).getD s.directory := by
  simp only [UserStep.exec]
  split
  · rename_i hnone
    rw [hnone]
    rfl
  · rename_i hsome
    rw [hsome]
    split <;> rfl

/-- The deletion that the handler attempts, if any. -/
theorem exec_delete {caller : Caller} {userId : String} :
    ((UserStep.delete caller userId).exec lib x s).1.directory =
      (if userId = caller.userId then none
        else (UserState.userParameters x caller.tenantId userId).bind fun r =>
          s.directory.delete r.1 r.2).getD s.directory := by
  simp only [UserStep.exec]
  split
  · rfl
  · cases UserState.userParameters x caller.tenantId userId with
    | none =>
        rfl
    | some params =>
        simp only [Option.bind_some]
        cases s.directory.delete params.1 params.2 with
        | none =>
            rfl
        | some directory =>
            rfl

theorem exec_keeps {k : UserStep} (hnone : k.demotes tenant x s.directory = none)
    (hadmin : s.directory.hasAdmin tenant = true) :
    (k.exec lib x s).1.directory.hasAdmin tenant = true := by
  cases k with
  | create caller body =>
      rw [exec_reads trivial]
      exact hadmin
  | insertUser caller req =>
      exact exec_insertUser hadmin
  | setRolesCreated caller u roleIds =>
      exact assignRoles_keeps hnone hadmin
  | reloadCreated caller u =>
      rw [exec_reads trivial]
      exact hadmin
  | update caller userId body =>
      rw [exec_reads trivial]
      exact hadmin
  | updateUser caller userId req current =>
      rw [exec_updateUser]
      split
      · exact hadmin
      · rename_i hfails
        cases hupdate : s.directory.update current.id current.tenantId current.fullName
            current.isActive with
        | none =>
            exact hadmin
        | some d' =>
            rcases Directory.update_hasAdmin hupdate tenant with ⟨hactive, _, hother⟩
            by_cases htenant : current.tenantId = tenant
            · cases hcurrent : current.isActive with
              | true =>
                  exact hactive hcurrent hadmin
              | false =>
                  have hexists : s.directory.users.any
                      (Directory.isUser current.id current.tenantId) = true := by
                    unfold Directory.update at hupdate
                    split at hupdate
                    · assumption
                    · cases hupdate
                  have hcond : (!x.fails &&
                      s.directory.users.any (Directory.isUser current.id current.tenantId) &&
                      decide (current.tenantId = tenant) && !current.isActive) = true := by
                    rw [hexists, hcurrent]
                    simp [hfails, htenant]
                  rw [UserStep.demotes, if_pos hcond] at hnone
                  cases hnone
            · exact hother htenant hadmin
  | setRolesUpdated caller userId current roleIds =>
      exact assignRoles_keeps hnone hadmin
  | reloadUpdated caller userId current =>
      rw [exec_reads trivial]
      exact hadmin
  | delete caller userId =>
      rw [exec_delete]
      simp only [UserStep.demotes] at hnone
      split at hnone
      · rename_i hself
        rw [if_pos hself]
        exact hadmin
      · rename_i hself
        rw [if_neg hself]
        cases hparams : UserState.userParameters x caller.tenantId userId with
        | none =>
            exact hadmin
        | some params =>
            simp only [hparams] at hnone
            split at hnone
            · cases hnone
            · rename_i hexists
              simp only [Option.bind_some, Directory.delete, hexists]
              exact hadmin

theorem exec_demotes {k : UserStep} {id : Uuid}
    (hsome : k.demotes tenant x s.directory = some id) :
    (k.exec lib x s).1.directory.hasAdmin tenant = s.directory.hasOtherAdmin tenant id := by
  cases k with
  | setRolesCreated caller u roleIds =>
      exact assignRoles_demotes hsome
  | setRolesUpdated caller userId current roleIds =>
      exact assignRoles_demotes hsome
  | updateUser caller userId req current =>
      rw [exec_updateUser]
      simp only [UserStep.demotes] at hsome
      split at hsome
      · rename_i hcond
        cases hsome
        simp only [Bool.and_eq_true, Bool.not_eq_true', decide_eq_true_eq] at hcond
        rcases hcond with ⟨⟨⟨hfails, hexists⟩, htenant⟩, hactive⟩
        rw [hfails]
        simp only [Bool.false_eq_true, if_false]
        cases hupdate : s.directory.update current.id current.tenantId current.fullName
            current.isActive with
        | none =>
            simp [Directory.update, hexists] at hupdate
        | some d' =>
            exact (Directory.update_hasAdmin hupdate tenant).right.left hactive htenant
      · cases hsome
  | delete caller userId =>
      rw [exec_delete]
      simp only [UserStep.demotes] at hsome
      split at hsome
      · cases hsome
      · rename_i hself
        rw [if_neg hself]
        cases hparams : UserState.userParameters x caller.tenantId userId with
        | none =>
            rw [hparams] at hsome
            cases hsome
        | some params =>
            simp only [hparams] at hsome
            split at hsome
            · rename_i hexists
              cases hsome
              rw [Option.bind_some]
              cases hdelete : s.directory.delete params.1 params.2 with
              | none =>
                  simp [Directory.delete, hexists] at hdelete
              | some d' =>
                  exact Directory.delete_hasAdmin hdelete tenant
            · cases hsome
  | create caller body =>
      cases hsome
  | insertUser caller req =>
      cases hsome
  | reloadCreated caller u =>
      cases hsome
  | update caller userId body =>
      cases hsome
  | reloadUpdated caller userId current =>
      cases hsome

end Exec

/-- From a state with an active administrator, a step leaves one exactly if it
meets the condition. -/
theorem exec_hasAdmin_iff {lib : TextFunctions} {tenant : Uuid}
    {p : Pool UserState UserStep} (k : UserStep) (x : UserInput)
    (hadmin : p.shared.directory.hasAdmin tenant = true) :
    (k.exec lib x p.shared).1.directory.hasAdmin tenant = true <->
      sparesLastAdmin tenant p k x = true := by
  cases hdemotes : k.demotes tenant x p.shared.directory with
  | none =>
      simp only [sparesLastAdmin, hdemotes]
      exact iff_of_true (exec_keeps hdemotes hadmin) trivial
  | some id =>
      rw [exec_demotes hdemotes]
      simp only [sparesLastAdmin, hdemotes, Bool.or_eq_true, Bool.not_eq_true']
      constructor
      · exact Or.inr
      · rintro (hnot | hother)
        · rcases Directory.hasAdmin_iff.mp hadmin with ⟨u, hu, hrest⟩
          refine Directory.hasOtherAdmin_iff.mpr ⟨u, hu, fun hid => ?_, hrest⟩
          have hfalse := List.any_eq_false.mp hnot u hu
          simp [Directory.activeAdmin, hid, hrest] at hfalse
          rw [← hid, hrest.right.right] at hfalse
          cases hfalse
        · exact hother

/-!
## Whole runs
-/

theorem step_hasAdmin_iff {lib : TextFunctions} {tenant : Uuid} {p p' : Pool UserState UserStep}
    {e : UserEvent} (hadmin : p.shared.directory.hasAdmin tenant = true)
    (hstep : (userService lib).step p e = some p') :
    p'.shared.directory.hasAdmin tenant = true <->
      Pool.guarded (sparesLastAdmin tenant) p e = true := by
  rcases Pool.step_cases hstep with ⟨r, rfl, rfl⟩ |
    ⟨i, x, k, rest, o, rfl, hhead, hperform, rfl⟩
  · exact iff_of_true hadmin rfl
  · cases hperform
    simp only [Pool.guarded, hhead]
    exact exec_hasAdmin_iff k x hadmin

theorem hasAdmin_preserved (lib : TextFunctions) (tenant : Uuid) :
    (userService lib).Preserves (fun p e => Pool.guarded (sparesLastAdmin tenant) p e = true)
      fun p => p.shared.directory.hasAdmin tenant = true :=
  fun _ _ _ hadmin hguard hstep => (step_hasAdmin_iff hadmin hstep).mpr hguard

/-- In a run that starts with an active administrator of the tenant, there is one
at every moment exactly if no statement takes away the only one. -/
theorem last_admin_kept_iff (lib : TextFunctions) (tenant : Uuid) (directory : Directory)
    (hadmin : directory.hasAdmin tenant = true) {es : List UserEvent}
    {q : Pool UserState UserStep}
    (hrun : (userService lib).run (userBoot directory) es = some q) :
    (forall xs ys p, es = xs ++ ys -> (userService lib).run (userBoot directory) xs = some p ->
        p.shared.directory.hasAdmin tenant = true) <->
      (userService lib).Meets (fun p e => Pool.guarded (sparesLastAdmin tenant) p e = true)
        (userBoot directory) es := by
  constructor
  · intro hkept
    rcases Machine.meets_or_occurs
      (fun p e => Pool.guarded (sparesLastAdmin tenant) p e = true) (userBoot directory) es
      with hmeets | hoccurs
    · exact hmeets
    · rcases hoccurs.split hrun with ⟨xs, e, ys, p, p', heq, hpre, hstep, hlast, hbad⟩
      have hbefore := hkept xs (e :: ys) p heq hpre
      have hafter : p'.shared.directory.hasAdmin tenant = true := by
        refine hkept (xs ++ [e]) ys p' ?_ hlast
        rw [heq, List.append_assoc, List.singleton_append]
      exact absurd ((step_hasAdmin_iff hbefore hstep).mp hafter) hbad
  · intro hmeets xs ys p heq hpre
    rw [heq] at hmeets
    exact (hasAdmin_preserved lib tenant).run hadmin hmeets.append_left hpre

namespace SampleAdmins

def tenant : Uuid where
  text := "38000000-0000-4000-8000-000000000000"
  canonical := by decide

def adminRole : RoleRow where
  id := { text := "38000000-0000-4000-8000-00000000000a", canonical := by decide }
  tenantId := tenant
  name := "Admin"
  isSystem := true

def alice : UserRow where
  id := { text := "38000000-0000-4000-8000-000000000001", canonical := by decide }
  tenantId := tenant
  email := "alice@leo"
  passwordHash := "h"
  fullName := "Alice"
  isActive := true

def bob : UserRow where
  id := { text := "38000000-0000-4000-8000-000000000002", canonical := by decide }
  tenantId := tenant
  email := "bob@leo"
  passwordHash := "h"
  fullName := "Bob"
  isActive := true

/-- Both users are administrators. -/
def directory : Directory where
  users := [alice, bob]
  roles := [adminRole]
  userRoles :=
    [{ userId := alice.id, roleId := adminRole.id }, { userId := bob.id, roleId := adminRole.id }]

def lib : TextFunctions where
  trimSpace := fun s => s
  toLower := fun s => s

def caller (u : UserRow) : Caller where
  userId := u.id.text
  tenantId := tenant.text

def exec (i : Nat) : UserEvent :=
  PoolEvent.exec i { fails := false, uuid := tenant, hash := none }

/-- One deactivates the other. -/
def deactivate (u v : UserRow) : UserEvent :=
  PoolEvent.start (UserRequest.update (caller u) v.id.text
    (some { fullName := none, isActive := some false, roleIds := none }))

/-- Alice deactivates Bob. -/
def oneSided : List UserEvent :=
  [deactivate alice bob, exec 0, exec 0, exec 0]

/-- Each deactivates the other; both lookups come before both updates. -/
def eachOther : List UserEvent :=
  [deactivate alice bob, deactivate bob alice, exec 0, exec 1, exec 0, exec 1, exec 0, exec 1]

end SampleAdmins

theorem last_admin_kept_iff_oneSided :
    exists q, (userService SampleAdmins.lib).run (userBoot SampleAdmins.directory)
        SampleAdmins.oneSided = some q ∧
      q.shared.answers.length = 1 ∧ q.shared.directory.hasAdmin SampleAdmins.tenant = true := by
  obtain ⟨q, hrun, hanswers⟩ : exists q, (userService SampleAdmins.lib).run
      (userBoot SampleAdmins.directory) SampleAdmins.oneSided = some q ∧
        q.shared.answers.length = 1 :=
    ⟨_, rfl, rfl⟩
  have hkept := (last_admin_kept_iff SampleAdmins.lib SampleAdmins.tenant
    SampleAdmins.directory (by decide) hrun).mpr (by decide)
  exact ⟨q, hrun, hanswers, hkept SampleAdmins.oneSided [] q (List.append_nil _).symm hrun⟩

/-- Both requests are answered with success, and the tenant has no active
administrator left. -/
theorem mutual_deactivation_leaves_none :
    SampleAdmins.directory.hasAdmin SampleAdmins.tenant = true ∧
      exists q, (userService SampleAdmins.lib).run (userBoot SampleAdmins.directory)
          SampleAdmins.eachOther = some q ∧
        q.shared.directory.hasAdmin SampleAdmins.tenant = false :=
  ⟨by decide, _, rfl, by decide⟩

end Accounts
end LeoOne
