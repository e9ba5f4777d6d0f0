import LeoOne.Accounts.Roles

/-!
# Requests that are refused halfway

`UserHandler.Create` and `Update` write the user first and the roles after it, and the
ids of the roles are only checked by the number of rows that were inserted, when the
transaction is committed; `RoleHandler` does the same with a role and its permissions.
Here each request runs alone, from its first statement to its answer.
-/

namespace LeoOne
namespace Accounts

open Foundation

/-!
## The ids of a request
-/

/-- Every text is the id of a role of the tenant. -/
def Directory.ValidRoles (d : Directory) (tenantId : String) (roleIds : List String) : Prop :=
  forall text, text ∈ roleIds -> exists ro, ro ∈ d.roles ∧ Uuid.named text ro.id = true ∧
    Uuid.named tenantId ro.tenantId = true

/-- No two of the texts are the same id. -/
def DistinctIds (texts : List String) : Prop :=
  exists ids, texts.mapM Uuid.parse = some ids ∧ ids.Nodup

/-- The ids of the tenant's roles that a `SetRoles` takes without an error. -/
structure Directory.AssignsRoles (d : Directory) (x : UserInput) (tenantId : String)
    (roleIds : List String) : Prop where
  runs : x.fails = false
  valid : d.ValidRoles tenantId roleIds
  distinct : DistinctIds roleIds

theorem named_of_mapM {texts : List String} {ids : List Uuid}
    (h : texts.mapM Uuid.parse = some ids) :
    List.Forall₂ (fun text i => Uuid.named text i = true) texts ids := by
  induction texts generalizing ids with
  | nil =>
      cases h
      exact List.Forall₂.nil
  | cons text texts ih =>
      rw [List.mapM_cons, Option.bind_eq_bind, Option.bind_eq_some_iff] at h
      rcases h with ⟨i, hparse, hrest⟩
      rw [Option.bind_eq_bind, Option.bind_eq_some_iff] at hrest
      rcases hrest with ⟨rest, hmap, hids⟩
      cases hids
      exact List.Forall₂.cons (Uuid.named_of_parse hparse) (ih hmap)

/-- Texts that all denote ids are read. -/
theorem mapM_of_named {texts : List String}
    (h : forall text, text ∈ texts -> exists i, Uuid.named text i = true) :
    exists ids, texts.mapM Uuid.parse = some ids := by
  induction texts with
  | nil =>
      exact ⟨[], rfl⟩
  | cons text texts ih =>
      rw [List.forall_mem_cons] at h
      rcases h with ⟨⟨i, hnamed⟩, hrest⟩
      rcases ih hrest with ⟨ids, hmap⟩
      refine ⟨i :: ids, ?_⟩
      rw [List.mapM_cons, Uuid.parse_of_named hnamed, hmap]
      rfl

/-- What holds of the ids that the texts denote. -/
theorem forall_named_iff {texts : List String} {ids : List Uuid}
    (h : List.Forall₂ (fun text i => Uuid.named text i = true) texts ids) {p : Uuid -> Prop} :
    (forall text, text ∈ texts -> exists i, Uuid.named text i = true ∧ p i) <->
      forall i, i ∈ ids -> p i := by
  induction h with
  | nil =>
      exact ⟨fun _ i hi => absurd hi List.not_mem_nil, fun _ t ht => absurd ht List.not_mem_nil⟩
  | cons hnamed _ ih =>
      rw [List.forall_mem_cons, List.forall_mem_cons, ih]
      refine and_congr_left fun _ => ⟨?_, fun hp => ⟨_, hnamed, hp⟩⟩
      rintro ⟨j, hj, hp⟩
      rw [Uuid.named_unique hnamed hj]
      exact hp

theorem distinctIds_iff {texts : List String} {ids : List Uuid}
    (h : texts.mapM Uuid.parse = some ids) : DistinctIds texts <-> ids.Nodup := by
  constructor
  · rintro ⟨ids', hids, hnodup⟩
    rw [h] at hids
    cases hids
    exact hnodup
  · intro hnodup
    exact ⟨ids, h, hnodup⟩

/-- `SetRoles` assigns as many roles as there are ids if and only if the ids are distinct
and those of roles of the tenant. -/
theorem length_assignable_iff {d : Directory} (hroles : (d.roles.map RoleRow.id).Nodup)
    {tenantId : String} {tenant : Uuid} {texts : List String} {ids : List Uuid}
    (htenant : Uuid.parse tenantId = some tenant) (hids : texts.mapM Uuid.parse = some ids) :
    (d.assignable tenant ids).length = texts.length <->
      d.ValidRoles tenantId texts ∧ DistinctIds texts := by
  have hnamed := named_of_mapM hids
  have hvalid : d.ValidRoles tenantId texts <->
      forall i, i ∈ ids -> exists ro, ro ∈ d.roles ∧ ro.id = i ∧
        decide (ro.tenantId = tenant) = true := by
    rw [← forall_named_iff hnamed]
    unfold Directory.ValidRoles
    constructor
    · intro h text ht
      rcases h text ht with ⟨ro, hro, hid, hof⟩
      have hsame := Uuid.named_unique hof (Uuid.named_of_parse htenant)
      exact ⟨ro.id, hid, ro, hro, rfl, decide_eq_true hsame⟩
    · intro h text ht
      rcases h text ht with ⟨i, hid, ro, hro, rfl, hof⟩
      refine ⟨ro, hro, hid, ?_⟩
      rw [of_decide_eq_true hof]
      exact Uuid.named_of_parse htenant
  rw [hnamed.length_eq, distinctIds_iff hids, hvalid, and_comm]
  exact Table.length_selected_iff hroles

/-!
## Requests for users
-/

/-- The statement of the step sets the `updated_at` of a row of `users`. -/
def UserStep.stamps (x : UserInput) (s : UserState) : UserStep -> Bool
  | updateUser _ _ _ current =>
      !x.fails && (s.directory.update current.id current.tenantId current.fullName
        current.isActive).isSome
  | _ => false

/-- A request that runs alone, with what its steps meet: what it leaves, and whether an
`updated_at` was set. -/
def UserStep.alone (lib : TextFunctions) :
    List UserInput -> UserStep -> UserState -> Option (UserState × Bool)
  | [], _, _ => none
  | x :: xs, k, s =>
      match k.exec lib x s with
      | (s', none) => some (s', k.stamps x s)
      | (s', some k') => (alone lib xs k' s').map fun e => (e.1, k.stamps x s || e.2)

/-- The tables hold the same rows. -/
structure Directory.Same (d d' : Directory) : Prop where
  users : forall u, u ∈ d'.users <-> u ∈ d.users
  roles : forall ro, ro ∈ d'.roles <-> ro ∈ d.roles
  userRoles : forall ur, ur ∈ d'.userRoles <-> ur ∈ d.userRoles

theorem Directory.Same.refl (d : Directory) : d.Same d :=
  ⟨fun _ => Iff.rfl, fun _ => Iff.rfl, fun _ => Iff.rfl⟩

def UserAnswer.isError : UserAnswer -> Bool
  | error _ _ _ => true
  | _ => false

/-- The answer to ids that are not all assigned. -/
def UserAnswer.invalidRoles : UserAnswer :=
  error 400 "VALIDATION_ERROR" "un ou plusieurs role_ids sont invalides"

/-- After an error the tables are as before, and valid ids are accepted. -/
structure UserAtomic (d : Directory) (tenantId : String) (roleIds : List String)
    (e : UserState × Bool) : Prop where
  unchanged : forall a, a ∈ e.1.answers -> a.isError = true ->
    d.Same e.1.directory ∧ e.2 = false
  accepted : d.ValidRoles tenantId roleIds -> UserAnswer.invalidRoles ∉ e.1.answers

/-- The ends of a request that writes something and grants something after it. -/
inductive UserEnds (d : Directory) (wrote granted : Prop) (e : UserState × Bool) : Prop where
  | refused (hwrote : ¬ wrote) (hsame : e.1.directory = d) (hstamped : e.2 = false)
      (hanswers : UserAnswer.invalidRoles ∉ e.1.answers)
  | served (hgranted : granted) (hanswers : forall a, a ∈ e.1.answers -> a.isError = false)
  | halfway (hwrote : wrote) (hgranted : ¬ granted)
      (hanswers : exists a, a ∈ e.1.answers ∧ a.isError = true)
      (hchanged : ¬ (d.Same e.1.directory ∧ e.2 = false))

theorem UserEnds.atomic_iff {d : Directory} {wrote granted : Prop} {e : UserState × Bool}
    (h : UserEnds d wrote granted e) {tenantId : String} {roleIds : List String} :
    UserAtomic d tenantId roleIds e <-> (wrote -> granted) := by
  cases h with
  | refused hwrote hsame hstamped hanswers =>
      refine ⟨fun _ hw => absurd hw hwrote, fun _ => ⟨fun _ _ _ => ?_, fun _ => hanswers⟩⟩
      rw [hsame]
      exact ⟨Directory.Same.refl d, hstamped⟩
  | served hgranted hanswers =>
      refine ⟨fun _ _ => hgranted, fun _ => ⟨fun a ha herror => ?_, fun _ hinvalid => ?_⟩⟩
      · exact absurd ((hanswers a ha).symm.trans herror) Bool.false_ne_true
      · cases hanswers _ hinvalid
  | halfway hwrote hgranted hanswers hchanged =>
      refine ⟨fun hatomic => ?_, fun h => absurd (h hwrote) hgranted⟩
      rcases hanswers with ⟨a, ha, herror⟩
      exact absurd (hatomic.unchanged a ha herror) hchanged

theorem Directory.AssignsRoles.congr {d d' : Directory} {x : UserInput} {tenantId : String}
    {roleIds : List String} (hsame : d'.roles = d.roles) :
    d'.AssignsRoles x tenantId roleIds <-> d.AssignsRoles x tenantId roleIds := by
  have hvalid : d'.ValidRoles tenantId roleIds <-> d.ValidRoles tenantId roleIds := by
    unfold Directory.ValidRoles
    rw [hsame]
  exact ⟨fun h => ⟨h.runs, hvalid.mp h.valid, h.distinct⟩,
    fun h => ⟨h.runs, hvalid.mpr h.valid, h.distinct⟩⟩

/-- `assignRoles` for a user that exists: the ids are granted, or an error is answered. -/
theorem assignRoles_cases (s : UserState) (x : UserInput) {tenantId userId : String}
    {tenant user : Uuid} (roleIds : List String) (next : UserStep)
    (hroles : (s.directory.roles.map RoleRow.id).Nodup)
    (htenant : Uuid.parse tenantId = some tenant) (huser : Uuid.parse userId = some user)
    (hexists : (s.directory.users.any fun u => u.id = user) = true) :
    (s.directory.AssignsRoles x tenantId roleIds ∧
      exists d, s.assignRoles x tenantId userId roleIds next =
        ({ s with directory := d }, some next)) ∨
    (¬ s.directory.AssignsRoles x tenantId roleIds ∧
      exists d a, s.assignRoles x tenantId userId roleIds next =
          ({ s with directory := d, answers := a :: s.answers }, none) ∧
        a.isError = true ∧ d.users = s.directory.users) := by
  cases hfails : x.fails with
  | true =>
      refine Or.inr ⟨fun h => Bool.false_ne_true (h.runs.symm.trans hfails), ?_⟩
      simp only [UserState.assignRoles, UserState.setRoles, UserState.roleParameters, hfails]
      exact ⟨_, _, rfl, rfl, rfl⟩
  | false =>
      cases hids : roleIds.mapM Uuid.parse with
      | none =>
          refine Or.inr ⟨fun h => ?_, ?_⟩
          · rcases h.distinct with ⟨ids, hsome, _⟩
            rw [hids] at hsome
            cases hsome
          · simp only [UserState.assignRoles, UserState.setRoles, UserState.roleParameters,
              hfails, htenant, huser, hids]
            exact ⟨_, _, rfl, rfl, rfl⟩
      | some ids =>
          have hset : s.setRoles x tenantId userId roleIds =
              some
                ({ s.directory with
                    userRoles :=
                      Table.deleteWhere (fun ur => ur.userId = user) s.directory.userRoles ++
                        (s.directory.assignable tenant ids).map fun ro =>
                          { userId := user, roleId := ro.id } },
                  (s.directory.assignable tenant ids).length) := by
            simp only [UserState.setRoles, UserState.roleParameters, hfails, htenant, huser,
              hids, Directory.setRoles, hexists, Bool.not_true, Bool.false_eq_true, and_false,
              if_false]
          have hcount := length_assignable_iff hroles htenant hids
          by_cases hall : (s.directory.assignable tenant ids).length = roleIds.length
          · rcases hcount.mp hall with ⟨hvalid, hdistinct⟩
            refine Or.inl ⟨⟨hfails, hvalid, hdistinct⟩, ?_⟩
            simp only [UserState.assignRoles, hset, hall, ne_eq, not_true_eq_false, if_false]
            exact ⟨_, rfl⟩
          · refine Or.inr ⟨fun h => hall (hcount.mpr ⟨h.valid, h.distinct⟩), ?_⟩
            simp only [UserState.assignRoles, hset, ne_eq, hall, not_false_eq_true, if_true]
            exact ⟨_, _, rfl, rfl, rfl⟩

/-- The request with its texts as `Create` reads them. -/
def CreateUserRequest.trimmed (lib : TextFunctions) (req : CreateUserRequest) :
    CreateUserRequest :=
  { req with
    email := lib.trimSpace (lib.toLower req.email)
    fullName := lib.trimSpace req.fullName }

/-- The row that `Create` inserts. -/
def CreateUserRequest.newUser (req : CreateUserRequest) (tenant id : Uuid)
    (hash : String) : UserRow where
  id := id
  tenantId := tenant
  email := req.email
  passwordHash := hash
  fullName := req.fullName
  isActive := true

/-- `Create` inserts the user: the body is valid, the email is free, and nothing fails. -/
def InsertsUser (lib : TextFunctions) (d : Directory) (x y : UserInput) (caller : Caller)
    (req : CreateUserRequest) : Prop :=
  (req.trimmed lib).email ≠ "" ∧ (req.trimmed lib).fullName ≠ "" ∧
    minPasswordLen ≤ req.password.utf8ByteSize ∧ x.fails = false ∧
    exists tenant, Uuid.parse caller.tenantId = some tenant ∧
      d.findByEmail tenant (req.trimmed lib).email = none ∧ y.fails = false ∧
      exists hash, y.hash = some hash ∧
        (d.create ((req.trimmed lib).newUser tenant y.uuid hash)).isSome = true

/-- `Update` writes the user: it is found, the body is valid, and nothing fails. -/
def UpdatesUser (lib : TextFunctions) (d : Directory) (x y : UserInput) (caller : Caller)
    (userId : String) (req : UpdateUserRequest) : Prop :=
  x.fails = false ∧ y.fails = false ∧
    (exists tenant user current, Uuid.parse caller.tenantId = some tenant ∧
      Uuid.parse userId = some user ∧ d.findById tenant user = some current) ∧
    ¬ (req.isActive = some false ∧ userId = caller.userId) ∧
    req.fullName.map lib.trimSpace ≠ some ""

theorem alone_goes {lib : TextFunctions} {x : UserInput} {xs : List UserInput}
    {k k' : UserStep} {s s' : UserState} (h : k.exec lib x s = (s', some k')) :
    k.alone lib (x :: xs) s =
      (k'.alone lib xs s').map fun e => (e.1, k.stamps x s || e.2) := by
  rw [UserStep.alone, h]

theorem alone_replied {lib : TextFunctions} {x : UserInput} {xs : List UserInput}
    {k : UserStep} {s s' : UserState} (h : k.exec lib x s = (s', none)) :
    k.alone lib (x :: xs) s = some (s', k.stamps x s) := by
  rw [UserStep.alone, h]

/-- A request that is refused before it writes. -/
theorem UserEnds.of_error {d : Directory} {status : Nat} {code message : String}
    {wrote granted : Prop} (hwrote : ¬ wrote)
    (hother : UserAnswer.error status code message ≠ UserAnswer.invalidRoles) :
    UserEnds d wrote granted
      ({ directory := d, answers := [UserAnswer.error status code message] }, false) := by
  refine UserEnds.refused hwrote rfl rfl ?_
  rw [List.mem_singleton]
  exact hother.symm

theorem UserEnds.congr {d : Directory} {wrote wrote' granted granted' : Prop}
    {e : UserState × Bool} (h : UserEnds d wrote granted e) (hwrote : wrote <-> wrote')
    (hgranted : granted <-> granted') : UserEnds d wrote' granted' e := by
  rw [← hwrote, ← hgranted]
  exact h

/-- The reload answers the user, whatever it finds. -/
theorem alone_reloadCreated (lib : TextFunctions) (x : UserInput) (caller : Caller)
    (u : UserRow) (d : Directory) :
    exists v, (UserStep.reloadCreated caller u).alone lib [x] { directory := d, answers := [] } =
      some ({ directory := d, answers := [UserAnswer.user 201 v] }, false) := by
  rw [UserStep.alone]
  simp only [UserStep.exec]
  split
  · rename_i s' hexec
    split at hexec
    · cases hexec
      exact ⟨_, rfl⟩
    · cases hexec
      exact ⟨_, rfl⟩
  · rename_i s' k' hexec
    split at hexec
    · cases hexec
    · cases hexec

theorem create_new {d d' : Directory} {u : UserRow} (h : d.create u = some d') :
    d' = { d with users := d.users ++ [u] } ∧ u ∉ d.users := by
  unfold Directory.create at h
  split at h
  · cases h
  · rename_i hfree
    cases h
    refine ⟨rfl, fun hu => hfree (List.any_eq_true.mpr ⟨u, hu, ?_⟩)⟩
    rw [decide_eq_true rfl, Bool.true_or]

/-- The roles of a user that exists are set, and the user is answered or an error. -/
theorem setRolesCreated_ends (lib : TextFunctions) {d : Directory}
    (hroles : (d.roles.map RoleRow.id).Nodup) (z t : UserInput) {caller : Caller}
    {tenant : Uuid} (htenant : Uuid.parse caller.tenantId = some tenant) {u : UserRow}
    (hu : u ∈ d.users) (roleIds : List String) :
    exists e, (UserStep.setRolesCreated caller u roleIds).alone lib [z, t]
      { directory := d, answers := [] } = some e ∧ e.2 = false ∧
      ((d.AssignsRoles z caller.tenantId roleIds ∧
          forall a, a ∈ e.1.answers -> a.isError = false) ∨
        (¬ d.AssignsRoles z caller.tenantId roleIds ∧ u ∈ e.1.directory.users ∧
          exists a, a ∈ e.1.answers ∧ a.isError = true)) := by
  have hexists : (d.users.any fun v => v.id = u.id) = true :=
    List.any_eq_true.mpr ⟨u, hu, decide_eq_true rfl⟩
  have huser : Uuid.parse u.id.text = some u.id :=
    Uuid.parse_of_named (Uuid.named_text.mpr rfl)
  rcases assignRoles_cases { directory := d, answers := [] } z roleIds
      (UserStep.reloadCreated caller u) hroles htenant huser hexists with
    ⟨hgranted, d', hassign⟩ | ⟨hnot, d', a, hassign, herror, husers⟩
  · have hexec : (UserStep.setRolesCreated caller u roleIds).exec lib z
        { directory := d, answers := [] } =
        ({ directory := d', answers := [] }, some (UserStep.reloadCreated caller u)) := hassign
    rcases alone_reloadCreated lib t caller u d' with ⟨v, hreload⟩
    refine ⟨_, (alone_goes hexec).trans (congrArg _ hreload), rfl, Or.inl ⟨hgranted, ?_⟩⟩
    intro a ha
    rw [List.mem_singleton.mp ha]
    rfl
  · have hexec : (UserStep.setRolesCreated caller u roleIds).exec lib z
        { directory := d, answers := [] } = ({ directory := d', answers := [a] }, none) :=
      hassign
    refine ⟨_, alone_replied hexec, rfl, Or.inr ⟨hnot, ?_, a, List.mem_singleton_self a,
      herror⟩⟩
    rw [husers]
    exact hu

theorem insertUser_exec (lib : TextFunctions) {d : Directory} {y : UserInput} {caller : Caller}
    {tenant : Uuid} {hash : String} (req : CreateUserRequest) (hhash : y.hash = some hash)
    (hfails : y.fails = false) (htenant : Uuid.parse caller.tenantId = some tenant) :
    (UserStep.insertUser caller req).exec lib y { directory := d, answers := [] } =
      match d.create (req.newUser tenant y.uuid hash) with
      | none =>
          UserState.reject { directory := d, answers := [] } 500 "INTERNAL_ERROR"
            "erreur lors de la création de l'utilisateur"
      | some d' =>
          if req.roleIds.length > 0 then
            ({ directory := d', answers := [] },
              some (UserStep.setRolesCreated caller (req.newUser tenant y.uuid hash)
                req.roleIds))
          else
            UserState.reply { directory := d', answers := [] }
              (UserAnswer.user 201 (req.newUser tenant y.uuid hash)) := by
  simp only [UserStep.exec, hhash, hfails, htenant]
  rfl

/-- `Create` from its insertion on. -/
theorem insertUser_ends (lib : TextFunctions) {d : Directory}
    (hroles : (d.roles.map RoleRow.id).Nodup) (y z t : UserInput) {caller : Caller}
    {tenant : Uuid} (htenant : Uuid.parse caller.tenantId = some tenant)
    (req : CreateUserRequest) :
    exists e, (UserStep.insertUser caller req).alone lib [y, z, t]
      { directory := d, answers := [] } = some e ∧
      UserEnds d
        (y.fails = false ∧ exists hash, y.hash = some hash ∧
          (d.create (req.newUser tenant y.uuid hash)).isSome = true)
        (req.roleIds = [] ∨ d.AssignsRoles z caller.tenantId req.roleIds) e := by
  cases hhash : y.hash with
  | none =>
      rw [UserStep.alone]
      simp only [UserStep.exec, hhash]
      refine ⟨_, rfl, UserEnds.of_error ?_ ?_⟩
      · rintro ⟨_, hash, hsome, _⟩
        cases hsome
      · simp [UserAnswer.invalidRoles]
  | some hash =>
      cases hfails : y.fails with
      | true =>
          rw [UserStep.alone]
          simp only [UserStep.exec, hhash, hfails]
          refine ⟨_, rfl, UserEnds.of_error ?_ ?_⟩
          · rintro ⟨hruns, _⟩
            cases hruns
          · simp [UserAnswer.invalidRoles]
      | false =>
          have hexec := insertUser_exec lib (d := d) req hhash hfails htenant
          cases hcreate : d.create (req.newUser tenant y.uuid hash) with
          | none =>
              rw [hcreate] at hexec
              refine ⟨_, alone_replied hexec, UserEnds.of_error ?_ ?_⟩
              · rintro ⟨_, hash', hsome, hcreated⟩
                cases hsome
                rw [hcreate] at hcreated
                cases hcreated
              · simp [UserAnswer.invalidRoles]
          | some d' =>
              rcases create_new hcreate with ⟨hd', hnew⟩
              simp only [hcreate] at hexec
              by_cases hids : req.roleIds = []
              · have hnone : ¬ req.roleIds.length > 0 := by
                  rw [hids]
                  exact Nat.lt_irrefl 0
                rw [if_neg hnone] at hexec
                refine ⟨_, alone_replied hexec, UserEnds.served (Or.inl hids) ?_⟩
                intro a ha
                rw [List.mem_singleton.mp ha]
                rfl
              · rw [if_pos (List.length_pos_iff.mpr hids)] at hexec
                have hsame : d'.roles = d.roles := by
                  rw [hd']
                have hmem : req.newUser tenant y.uuid hash ∈ d'.users := by
                  rw [hd']
                  exact List.mem_append_right d.users (List.mem_singleton_self _)
                rw [← hsame] at hroles
                rcases setRolesCreated_ends lib hroles z t htenant hmem req.roleIds with
                  ⟨e, halone, _, ⟨hgranted, hanswers⟩ | ⟨hnot, hu, herror⟩⟩
                · rw [Directory.AssignsRoles.congr hsame] at hgranted
                  exact ⟨_, (alone_goes hexec).trans (congrArg _ halone),
                    UserEnds.served (Or.inr hgranted) hanswers⟩
                · rw [Directory.AssignsRoles.congr hsame] at hnot
                  refine ⟨_, (alone_goes hexec).trans (congrArg _ halone),
                    UserEnds.halfway ?_ ?_ herror ?_⟩
                  · refine ⟨rfl, hash, rfl, ?_⟩
                    rw [hcreate]
                    rfl
                  · exact fun h => Or.elim h hids hnot
                  · exact fun h => hnew ((h.left.users _).mp hu)

/-- `Create` leaves nothing behind, or the user without the roles. -/
theorem create_ends (lib : TextFunctions) {d : Directory}
    (hroles : (d.roles.map RoleRow.id).Nodup) (x y z t : UserInput) (caller : Caller)
    (req : CreateUserRequest) :
    exists e, (UserStep.create caller (some req)).alone lib [x, y, z, t]
      { directory := d, answers := [] } = some e ∧
      UserEnds d (InsertsUser lib d x y caller req)
        (req.roleIds = [] ∨ d.AssignsRoles z caller.tenantId req.roleIds) e := by
  unfold InsertsUser
  by_cases hempty : (req.trimmed lib).email = "" ∨ (req.trimmed lib).fullName = ""
  · have hexec : (UserStep.create caller (some req)).exec lib x
        { directory := d, answers := [] } =
        UserState.reject { directory := d, answers := [] } 400 "VALIDATION_ERROR"
          "email et full_name sont requis" := by
      simp only [CreateUserRequest.trimmed] at hempty
      simp [UserStep.exec, hempty]
    refine ⟨_, alone_replied hexec, UserEnds.of_error ?_ ?_⟩
    · rintro ⟨hemail, hname, _⟩
      exact Or.elim hempty hemail hname
    · simp [UserAnswer.invalidRoles]
  rw [not_or] at hempty
  rcases hempty with ⟨hemail, hname⟩
  by_cases hshort : req.password.utf8ByteSize < minPasswordLen
  · have hexec : (UserStep.create caller (some req)).exec lib x
        { directory := d, answers := [] } =
        UserState.reject { directory := d, answers := [] } 400 "VALIDATION_ERROR"
          "le mot de passe doit faire au moins 8 caractères" := by
      simp only [CreateUserRequest.trimmed] at hemail hname
      simp [UserStep.exec, hemail, hname, hshort]
    refine ⟨_, alone_replied hexec, UserEnds.of_error ?_ ?_⟩
    · rintro ⟨_, _, hlong, _⟩
      exact Nat.not_lt.mpr hlong hshort
    · simp [UserAnswer.invalidRoles]
  have hemail' := hemail
  have hname' := hname
  simp only [CreateUserRequest.trimmed] at hemail' hname'
  cases hfails : x.fails with
  | true =>
      have hexec : (UserStep.create caller (some req)).exec lib x
          { directory := d, answers := [] } =
          UserState.reject { directory := d, answers := [] } 500 "INTERNAL_ERROR"
            "erreur de base de données" := by
        simp [UserStep.exec, hemail', hname', hshort, hfails]
      refine ⟨_, alone_replied hexec, UserEnds.of_error ?_ ?_⟩
      · rintro ⟨_, _, _, hruns, _⟩
        cases hruns
      · simp [UserAnswer.invalidRoles]
  | false =>
      cases htenant : Uuid.parse caller.tenantId with
      | none =>
          have hexec : (UserStep.create caller (some req)).exec lib x
              { directory := d, answers := [] } =
              UserState.reject { directory := d, answers := [] } 500 "INTERNAL_ERROR"
                "erreur de base de données" := by
            simp [UserStep.exec, hemail', hname', hshort, hfails, htenant]
          refine ⟨_, alone_replied hexec, UserEnds.of_error ?_ ?_⟩
          · rintro ⟨_, _, _, _, tenant, hsome, _⟩
            cases hsome
          · simp [UserAnswer.invalidRoles]
      | some tenant =>
          cases hfind : d.findByEmail tenant (req.trimmed lib).email with
          | some v =>
              have hexec : (UserStep.create caller (some req)).exec lib x
                  { directory := d, answers := [] } =
                  UserState.reject { directory := d, answers := [] } 409
                    "USER_ALREADY_EXISTS" "un utilisateur avec cet email existe déjà" := by
                simp only [CreateUserRequest.trimmed] at hfind
                simp [UserStep.exec, hemail', hname', hshort, hfails, htenant, hfind]
              refine ⟨_, alone_replied hexec, UserEnds.of_error ?_ ?_⟩
              · rintro ⟨_, _, _, _, tenant', hsome, hfree, _⟩
                cases hsome
                cases hfind.symm.trans hfree
              · simp [UserAnswer.invalidRoles]
          | none =>
              have hexec : (UserStep.create caller (some req)).exec lib x
                  { directory := d, answers := [] } =
                  ({ directory := d, answers := [] },
                    some (UserStep.insertUser caller (req.trimmed lib))) := by
                simp only [CreateUserRequest.trimmed] at hfind
                simp [UserStep.exec, hemail', hname', hshort, hfails, htenant, hfind,
                  CreateUserRequest.trimmed]
              rcases insertUser_ends lib hroles y z t htenant (req.trimmed lib) with
                ⟨e, halone, hends⟩
              refine ⟨_, (alone_goes hexec).trans (congrArg _ halone),
                hends.congr ⟨?_, ?_⟩ Iff.rfl⟩
              · rintro ⟨hruns, hcreated⟩
                exact ⟨hemail, hname, Nat.not_lt.mp hshort, rfl, tenant, rfl, hfind, hruns,
                  hcreated⟩
              · rintro ⟨_, _, _, _, tenant', hsome, _, hruns, hcreated⟩
                cases hsome
                exact ⟨hruns, hcreated⟩

/-- The reload of `Update` answers the user, whatever it finds. -/
theorem alone_reloadUpdated (lib : TextFunctions) (x : UserInput) (xs : List UserInput)
    (caller : Caller) (userId : String) (u : UserRow) (d : Directory) :
    exists v, (UserStep.reloadUpdated caller userId u).alone lib (x :: xs)
        { directory := d, answers := [] } =
      some ({ directory := d, answers := [UserAnswer.user 200 v] }, false) := by
  rw [UserStep.alone]
  simp only [UserStep.exec]
  split
  · rename_i s' hexec
    split at hexec
    · cases hexec
      exact ⟨_, rfl⟩
    · cases hexec
      exact ⟨_, rfl⟩
  · rename_i s' k' hexec
    split at hexec
    · cases hexec
    · cases hexec

/-- The row that was found is written, and stays. -/
theorem update_found {d : Directory} {tenant user : Uuid} {current : UserRow}
    (h : d.findById tenant user = some current) (fullName : String) (isActive : Bool) :
    exists d', d.update current.id current.tenantId fullName isActive = some d' ∧
      d'.roles = d.roles ∧ (d'.users.any fun u => u.id = user) = true := by
  have hmem := List.mem_of_find?_eq_some h
  have hself : Directory.isUser current.id current.tenantId current = true := by
    simp [Directory.isUser]
  have hid : current.id = user := by
    have htest := List.find?_some h
    simp only [Directory.isUser, Bool.and_eq_true, decide_eq_true_eq] at htest
    exact htest.left
  have hany : d.users.any (Directory.isUser current.id current.tenantId) = true :=
    List.any_eq_true.mpr ⟨current, hmem, hself⟩
  refine ⟨_, if_pos hany, rfl, List.any_eq_true.mpr ?_⟩
  refine ⟨{ current with fullName := fullName, isActive := isActive }, ?_, decide_eq_true hid⟩
  exact Table.mem_updateWhere.mpr ⟨current, hmem, Or.inl ⟨hself, rfl⟩⟩

/-- The row that `Update` writes. -/
def UpdateUserRequest.applied (lib : TextFunctions) (req : UpdateUserRequest)
    (current : UserRow) : UserRow :=
  { current with
    fullName := (req.fullName.map lib.trimSpace).getD current.fullName
    isActive := req.isActive.getD current.isActive }

/-- The write of `Update` fails. -/
theorem updateUser_fails (lib : TextFunctions) {d : Directory} {y : UserInput}
    (hfails : y.fails = true) (xs : List UserInput) (caller : Caller) (userId : String)
    (req : UpdateUserRequest) (current : UserRow) :
    (UserStep.updateUser caller userId req current).alone lib (y :: xs)
        { directory := d, answers := [] } =
      some ({ directory := d, answers := [UserAnswer.error 500 "INTERNAL_ERROR"
        "erreur lors de la mise à jour"] }, false) := by
  rw [UserStep.alone]
  simp only [UserStep.exec, UserStep.stamps, hfails, if_true]
  rfl

/-- `Update` from its first write on: the row is written, whatever follows. -/
theorem updateUser_ends (lib : TextFunctions) {d d' : Directory} {y : UserInput}
    (hfails : y.fails = false) (z t : UserInput) {caller : Caller} {tenant user : Uuid}
    {userId : String} (htenant : Uuid.parse caller.tenantId = some tenant)
    (huser : Uuid.parse userId = some user) {current : UserRow}
    (hupdate : d.update current.id current.tenantId current.fullName current.isActive = some d')
    (hroles : (d'.roles.map RoleRow.id).Nodup)
    (hexists : (d'.users.any fun u => u.id = user) = true) (req : UpdateUserRequest) :
    exists e, (UserStep.updateUser caller userId req current).alone lib [y, z, t]
      { directory := d, answers := [] } = some e ∧ e.2 = true ∧
      ((forall roleIds, req.roleIds = some roleIds ->
          d'.AssignsRoles z caller.tenantId roleIds) ∧
          (forall a, a ∈ e.1.answers -> a.isError = false) ∨
        ¬ (forall roleIds, req.roleIds = some roleIds ->
          d'.AssignsRoles z caller.tenantId roleIds) ∧
          exists a, a ∈ e.1.answers ∧ a.isError = true) := by
  have hstamps : (UserStep.updateUser caller userId req current).stamps y
      { directory := d, answers := [] } = true := by
    simp only [UserStep.stamps, hfails, hupdate]
    rfl
  cases hids : req.roleIds with
  | none =>
      have hexec : (UserStep.updateUser caller userId req current).exec lib y
          { directory := d, answers := [] } = ({ directory := d', answers := [] },
            some (UserStep.reloadUpdated caller userId current)) := by
        simp only [UserStep.exec, hfails, hupdate, hids, Bool.false_eq_true, if_false]
      rcases alone_reloadUpdated lib z [t] caller userId current d' with ⟨v, hreload⟩
      refine ⟨_, (alone_goes hexec).trans (congrArg _ hreload), ?_, Or.inl ⟨?_, ?_⟩⟩
      · rw [hstamps]
        rfl
      · intro roleIds hsome
        cases hsome
      · intro a ha
        rw [List.mem_singleton.mp ha]
        rfl
  | some roleIds =>
      have hexec : (UserStep.updateUser caller userId req current).exec lib y
          { directory := d, answers := [] } = ({ directory := d', answers := [] },
            some (UserStep.setRolesUpdated caller userId current roleIds)) := by
        simp only [UserStep.exec, hfails, hupdate, hids, Bool.false_eq_true, if_false]
      rcases assignRoles_cases { directory := d', answers := [] } z roleIds
          (UserStep.reloadUpdated caller userId current) hroles htenant huser hexists with
        ⟨hgranted, d'', hassign⟩ | ⟨hnot, d'', a, hassign, herror, _⟩
      · have hset : (UserStep.setRolesUpdated caller userId current roleIds).exec lib z
            { directory := d', answers := [] } = ({ directory := d'', answers := [] },
              some (UserStep.reloadUpdated caller userId current)) := hassign
        rcases alone_reloadUpdated lib t [] caller userId current d'' with ⟨v, hreload⟩
        refine ⟨_, (alone_goes hexec).trans (congrArg _
          ((alone_goes hset).trans (congrArg _ hreload))), ?_, Or.inl ⟨?_, ?_⟩⟩
        · rw [hstamps]
          rfl
        · rintro _ ⟨⟩
          exact hgranted
        · intro a ha
          rw [List.mem_singleton.mp ha]
          rfl
      · have hset : (UserStep.setRolesUpdated caller userId current roleIds).exec lib z
            { directory := d', answers := [] } = ({ directory := d'', answers := [a] }, none) :=
          hassign
        refine ⟨_, (alone_goes hexec).trans (congrArg _ (alone_replied hset)), ?_,
          Or.inr ⟨fun h => hnot (h roleIds rfl), a, List.mem_singleton_self a, herror⟩⟩
        rw [hstamps]
        rfl

/-- `Update` leaves nothing behind, or the row that it has written. -/
theorem update_ends (lib : TextFunctions) {d : Directory}
    (hroles : (d.roles.map RoleRow.id).Nodup) (x y z t : UserInput) (caller : Caller)
    (userId : String) (req : UpdateUserRequest) :
    exists e, (UserStep.update caller userId (some req)).alone lib [x, y, z, t]
      { directory := d, answers := [] } = some e ∧
      UserEnds d (UpdatesUser lib d x y caller userId req)
        (forall roleIds, req.roleIds = some roleIds ->
          d.AssignsRoles z caller.tenantId roleIds) e := by
  unfold UpdatesUser
  cases hparameters : UserState.userParameters x caller.tenantId userId with
  | none =>
      have hexec : (UserStep.update caller userId (some req)).exec lib x
          { directory := d, answers := [] } =
          UserState.reject { directory := d, answers := [] } 500 "INTERNAL_ERROR"
            "erreur de base de données" := by
        simp only [UserStep.exec, UserState.findById, hparameters]
      refine ⟨_, alone_replied hexec, UserEnds.of_error ?_ ?_⟩
      · rintro ⟨hruns, _, ⟨tenant, user, current, htenant, huser, _⟩, _⟩
        simp only [UserState.userParameters, hruns, htenant, huser] at hparameters
        cases hparameters
      · simp [UserAnswer.invalidRoles]
  | some ids =>
      rcases ids with ⟨tenant, user⟩
      have hread : x.fails = false ∧ Uuid.parse caller.tenantId = some tenant ∧
          Uuid.parse userId = some user := by
        unfold UserState.userParameters at hparameters
        split at hparameters
        · rename_i hruns htenant huser
          cases hparameters
          exact ⟨hruns, htenant, huser⟩
        · cases hparameters
      rcases hread with ⟨hruns, htenant, huser⟩
      cases hfind : d.findById tenant user with
      | none =>
          have hexec : (UserStep.update caller userId (some req)).exec lib x
              { directory := d, answers := [] } =
              UserState.reject { directory := d, answers := [] } 404 "NOT_FOUND"
                "utilisateur introuvable" := by
            simp only [UserStep.exec, UserState.findById, hparameters, hfind]
          refine ⟨_, alone_replied hexec, UserEnds.of_error ?_ ?_⟩
          · rintro ⟨_, _, ⟨tenant', user', current, htenant', huser', hfind'⟩, _⟩
            cases htenant.symm.trans htenant'
            cases huser.symm.trans huser'
            cases hfind.symm.trans hfind'
          · simp [UserAnswer.invalidRoles]
      | some current =>
          have hentry : (UserStep.update caller userId (some req)).exec lib x
              { directory := d, answers := [] } =
              if req.isActive = some false && userId = caller.userId then
                UserState.reject { directory := d, answers := [] } 400 "VALIDATION_ERROR"
                  "impossible de désactiver son propre compte"
              else if (req.fullName.map lib.trimSpace) = some "" then
                UserState.reject { directory := d, answers := [] } 400 "VALIDATION_ERROR"
                  "full_name ne peut pas être vide"
              else
                ({ directory := d, answers := [] },
                  some (UserStep.updateUser caller userId req (req.applied lib current))) := by
            simp only [UserStep.exec, UserState.findById, hparameters, hfind]
            rfl
          by_cases hself : req.isActive = some false ∧ userId = caller.userId
          · rw [if_pos (by simp [hself])] at hentry
            refine ⟨_, alone_replied hentry, UserEnds.of_error ?_ ?_⟩
            · rintro ⟨_, _, _, hother, _⟩
              exact hother hself
            · simp [UserAnswer.invalidRoles]
          rw [if_neg (by simpa using hself)] at hentry
          by_cases hname : req.fullName.map lib.trimSpace = some ""
          · rw [if_pos hname] at hentry
            refine ⟨_, alone_replied hentry, UserEnds.of_error ?_ ?_⟩
            · rintro ⟨_, _, _, _, hnamed⟩
              exact hnamed hname
            · simp [UserAnswer.invalidRoles]
          rw [if_neg hname] at hentry
          cases hfails : y.fails with
          | true =>
              have hfailed := updateUser_fails lib (d := d) hfails [z, t] caller userId req
                (req.applied lib current)
              refine ⟨_, (alone_goes hentry).trans (congrArg _ hfailed), UserEnds.of_error ?_ ?_⟩
              · rintro ⟨_, hfree, _⟩
                cases hfree
              · simp [UserAnswer.invalidRoles]
          | false =>
              rcases update_found hfind (req.applied lib current).fullName
                (req.applied lib current).isActive with ⟨d', hupdate, hsame, hexists⟩
              rw [← hsame] at hroles
              rcases updateUser_ends lib hfails z t htenant huser
                  (show d.update (req.applied lib current).id (req.applied lib current).tenantId
                    _ _ = some d' from hupdate) hroles hexists req with
                ⟨e, halone, hstamped, ⟨hgranted, hanswers⟩ | ⟨hnot, herror⟩⟩
              · simp only [Directory.AssignsRoles.congr hsame] at hgranted
                exact ⟨_, (alone_goes hentry).trans (congrArg _ halone),
                  UserEnds.served hgranted hanswers⟩
              · simp only [Directory.AssignsRoles.congr hsame] at hnot
                refine ⟨_, (alone_goes hentry).trans (congrArg _ halone),
                  UserEnds.halfway ?_ hnot herror ?_⟩
                · exact ⟨hruns, rfl, ⟨tenant, user, current, htenant, huser, hfind⟩, hself,
                    hname⟩
                · rintro ⟨_, hclear⟩
                  have hfalse : e.2 = false := hclear
                  cases hstamped.symm.trans hfalse

end Accounts
end LeoOne
