import LeoOne.Backend.Statements

/-!
# The rows of the patches

`PatchRepo.Upsert` and `PatchRepo.MarkInstallResult` write `status` and `installed_at`.
A report and a successful installation set both columns; a failed installation sets only
the status, and leaves the time of an earlier success.  Here the statements of the server
run one after the other on the tables, in any order.
-/

namespace LeoOne
namespace Backend

open Foundation

/-- The statements of the server, in any order; one that fails changes nothing. -/
def statements (ttl : Nat) : Machine Database (Statement × Input) where
  step db e := some (if e.2.fails then db else (e.1.exec ttl e.2 db).1)

/-- `installed_at IS NOT NULL` if and only if `status = 'installed'`. -/
def PatchRow.Consistent (r : PatchRow) : Prop :=
  r.installedAt ≠ none <-> r.status = PatchStatus.installed

def PatchesConsistent (db : Database) : Prop :=
  forall r, r ∈ db.patches -> r.Consistent

/-- The row is one that `MarkInstallResult` is called for. -/
def PatchRow.isNamed (agentId tenantId : String) (nativeIds : List String)
    (r : PatchRow) : Bool :=
  r.tenantId.named tenantId && r.agentId.named agentId && nativeIds.contains r.nativeId

/-- A failed installation is recorded for a patch that is installed. -/
def failsInstalled (db : Database) (e : Statement × Input) : Bool :=
  match e.1 with
  | Statement.markInstallResult agentId tenantId nativeIds false =>
      !e.2.fails && nativeIds.all fitsText &&
        db.patches.any fun r =>
          r.isNamed agentId tenantId nativeIds && r.status = PatchStatus.installed
  | _ => false

/-!
## One statement
-/

theorem consistent_available {r : PatchRow} (hstatus : r.status = PatchStatus.available)
    (hinstalled : r.installedAt = none) : r.Consistent := by
  unfold PatchRow.Consistent
  rw [hstatus, hinstalled]
  exact ⟨fun h => absurd rfl h, fun h => PatchStatus.noConfusion h⟩

theorem PatchesConsistent.subset {db db' : Database} (h : PatchesConsistent db)
    (hsubset : forall r, r ∈ db'.patches -> r ∈ db.patches) : PatchesConsistent db' :=
  fun r hr => h r (hsubset r hr)

theorem PatchesConsistent.upsertPatch {db db' : Database} {tenantId agentId : String}
    {rep : PatchReport} {now : Nat} (h : PatchesConsistent db)
    (hup : db.upsertPatch tenantId agentId rep now = some db') : PatchesConsistent db' := by
  unfold Database.upsertPatch at hup
  simp only at hup
  split at hup
  · cases hup
  · split at hup
    · cases hup
      intro r hr
      rcases Table.mem_updateWhere.mp hr with ⟨old, hold, ⟨_, rfl⟩ | ⟨_, rfl⟩⟩
      · exact consistent_available rfl rfl
      · exact h r hold
    · split at hup
      · cases hup
        intro r hr
        rcases List.mem_append.mp hr with hold | hnew
        · exact h r hold
        · rw [List.mem_singleton.mp hnew]
          exact consistent_available rfl rfl
      · cases hup

theorem PatchesConsistent.upsertPatches {db db' : Database} {tenantId agentId : String}
    {reports : List PatchReport} {now : Nat} (h : PatchesConsistent db)
    (hup : db.upsertPatches tenantId agentId reports now = some db') :
    PatchesConsistent db' := by
  induction reports generalizing db with
  | nil =>
      cases hup
      exact h
  | cons rep rest ih =>
      unfold Database.upsertPatches at hup
      split at hup
      · cases hup
      · rename_i mid hmid
        exact ih (h.upsertPatch hmid) hup

/-- The patches after `MarkInstallResult`. -/
theorem mem_markInstallResult {db : Database} {tenantId agentId : String}
    {nativeIds : List String} {success : Bool} {now : Nat} {r : PatchRow}
    (hr : r ∈ (db.markInstallResult tenantId agentId nativeIds success now).patches) :
    r ∈ db.patches ∨
    exists old, old ∈ db.patches ∧ old.isNamed agentId tenantId nativeIds = true ∧
      nativeIds.all fitsText = true ∧
      r = if success then
        { old with status := PatchStatus.installed, installedAt := some now }
      else { old with status := PatchStatus.failed } := by
  unfold Database.markInstallResult at hr
  simp only at hr
  split at hr
  · exact Or.inl hr
  · rename_i hruns
    rw [Bool.or_eq_true, not_or, Bool.not_eq_true', Bool.not_eq_false] at hruns
    rcases Table.mem_updateWhere.mp hr with ⟨old, hold, ⟨hnamed, rfl⟩ | ⟨_, rfl⟩⟩
    · exact Or.inr ⟨old, hold, hnamed, hruns.right, rfl⟩
    · exact Or.inl hold

theorem PatchesConsistent.markInstallResult {db : Database} {tenantId agentId : String}
    {nativeIds : List String} {success : Bool} {now : Nat} (h : PatchesConsistent db)
    (hkept : success = false -> nativeIds.all fitsText = true -> forall r, r ∈ db.patches ->
      r.isNamed agentId tenantId nativeIds = true -> r.status ≠ PatchStatus.installed) :
    PatchesConsistent (db.markInstallResult tenantId agentId nativeIds success now) := by
  intro r hr
  rcases mem_markInstallResult hr with hold | ⟨old, hold, hnamed, hfits, rfl⟩
  · exact h r hold
  · cases success with
    | true =>
        exact ⟨fun _ => rfl, fun _ => Option.some_ne_none _⟩
    | false =>
        -- the row was not installed, so it has no time
        have hnot := hkept rfl hfits old hold hnamed
        refine ⟨fun hsome => absurd ((h old hold).mp hsome) hnot, fun hstatus => ?_⟩
        cases hstatus

/-- The installed row that a failed installation is recorded for keeps its time. -/
theorem markInstallResult_breaks {db : Database} {tenantId agentId : String}
    {nativeIds : List String} {now : Nat} (h : PatchesConsistent db)
    (hfits : nativeIds.all fitsText = true) {r : PatchRow} (hr : r ∈ db.patches)
    (hnamed : r.isNamed agentId tenantId nativeIds = true)
    (hstatus : r.status = PatchStatus.installed) :
    ¬ PatchesConsistent (db.markInstallResult tenantId agentId nativeIds false now) := by
  intro hconsistent
  have hne : nativeIds.isEmpty = false := by
    cases nativeIds with
    | nil =>
        rw [PatchRow.isNamed, List.contains_nil, Bool.and_false] at hnamed
        cases hnamed
    | cons id rest =>
        rfl
  have hmem : { r with status := PatchStatus.failed } ∈
      (db.markInstallResult tenantId agentId nativeIds false now).patches := by
    unfold Database.markInstallResult
    rw [hne, hfits]
    exact Table.mem_updateWhere.mpr ⟨r, hr, Or.inl ⟨hnamed, rfl⟩⟩
  have hsome : r.installedAt ≠ none := (h r hr).mpr hstatus
  cases (hconsistent _ hmem).mp hsome

/-!
## Every sequence of statements
-/

theorem failsInstalled_iff {db : Database} {agentId tenantId : String}
    {nativeIds : List String} {x : Input} :
    failsInstalled db (Statement.markInstallResult agentId tenantId nativeIds false, x) = true <->
      x.fails = false ∧ nativeIds.all fitsText = true ∧
        exists r, r ∈ db.patches ∧ r.isNamed agentId tenantId nativeIds = true ∧
          r.status = PatchStatus.installed := by
  simp only [failsInstalled, Bool.and_eq_true, Bool.not_eq_true', List.any_eq_true,
    decide_eq_true_eq, and_assoc]

theorem consistent_preserved (ttl : Nat) :
    (statements ttl).Preserves (fun db e => failsInstalled db e = false) PatchesConsistent := by
  intro db e db' h hguard hstep
  rcases e with ⟨st, x⟩
  cases hstep
  cases hfails : x.fails with
  | true =>
      exact h
  | false =>
      rw [if_neg Bool.false_ne_true]
      cases hwrites : st.writes TableName.patches with
      | false =>
          have hsame := (exec_frames st ttl x db).patches hwrites
          exact h.subset fun r hr => hsame ▸ hr
      | true =>
          cases st with
          | markInstallResult agentId tenantId nativeIds success =>
              apply h.markInstallResult
              intro hsuccess hfits r hr hnamed hstatus
              subst hsuccess
              have hbad := failsInstalled_iff.mpr ⟨hfails, hfits, r, hr, hnamed, hstatus⟩
              exact absurd (hguard.symm.trans hbad) Bool.false_ne_true
          | upsertPatches agentId tenantId reports =>
              simp only [Statement.exec]
              cases hup : db.upsertPatches tenantId agentId reports x.now with
              | none => exact h
              | some db' => exact h.upsertPatches hup
          | deleteAgent agentId tenantId =>
              exact h.subset fun r hr => List.mem_of_mem_filter hr
          | _ => cases hwrites

theorem consistent_broken (ttl : Nat) (db : Database) (e : Statement × Input) (db' : Database)
    (h : PatchesConsistent db) (hguard : ¬ failsInstalled db e = false)
    (hstep : (statements ttl).step db e = some db') : ¬ PatchesConsistent db' := by
  rcases e with ⟨st, x⟩
  rw [Bool.not_eq_false] at hguard
  cases st with
  | markInstallResult agentId tenantId nativeIds success =>
      cases success with
      | true =>
          cases hguard
      | false =>
          rcases failsInstalled_iff.mp hguard with ⟨hruns, hfits, r, hr, hnamed, hstatus⟩
          cases hstep
          rw [hruns]
          exact markInstallResult_breaks h hfits hr hnamed hstatus
  | _ => cases hguard

theorem statements_total (ttl : Nat) (db : Database) (es : List (Statement × Input)) :
    exists db', (statements ttl).run db es = some db' := by
  induction es generalizing db with
  | nil => exact ⟨db, rfl⟩
  | cons e es ih => exact ih _

/-- In every sequence of statements all states are consistent if and only if no failed
installation is recorded for a patch that is installed. -/
theorem patch_rows_consistent_iff (ttl : Nat) (db : Database) (es : List (Statement × Input))
    (hstart : PatchesConsistent db) :
    (forall xs ys db', es = xs ++ ys -> (statements ttl).run db xs = some db' ->
      PatchesConsistent db') <->
    (statements ttl).Meets (fun db e => failsInstalled db e = false) db es := by
  rcases statements_total ttl db es with ⟨db', hrun⟩
  exact Machine.always_iff_meets (consistent_preserved ttl) (consistent_broken ttl) hstart hrun

namespace Sample

/-- An agent that has reported no patch. -/
def oneAgent : Database where
  agents :=
    [{ id := agent
       tenantId := tenant
       status := AgentStatus.online
       lastSeenAt := none
       updatedAt := 0 }]
  certificates := []
  commands := []
  patches := []
  sessions := []

def reported : Statement :=
  Statement.upsertPatches agent.text tenant.text
    [{ nativeId := "vim", title := "vim", severity := PatchSeverity.important, sizeBytes := 1 }]

def attempted (success : Bool) : Statement :=
  Statement.markInstallResult agent.text tenant.text ["vim"] success

/-- Reported, then installed with this result, and then with that one. -/
def installedTwice (first second : Bool) : List (Statement × Input) :=
  [(reported, { now := 1 }), (attempted first, { now := 2 }), (attempted second, { now := 3 })]

end Sample

/-- A failure before the success. -/
theorem patch_rows_consistent_iff_retried :
    PatchesConsistent Sample.oneAgent ∧
    forall xs ys db', Sample.installedTwice false true = xs ++ ys ->
      (statements 0).run Sample.oneAgent xs = some db' -> PatchesConsistent db' := by
  have hstart : PatchesConsistent Sample.oneAgent := fun r hr => absurd hr List.not_mem_nil
  have hmeets : (statements 0).Meets (fun db e => failsInstalled db e = false) Sample.oneAgent
      (Sample.installedTwice false true) := by
    decide +kernel
  exact ⟨hstart, (patch_rows_consistent_iff 0 Sample.oneAgent _ hstart).mpr hmeets⟩

/-- A failure after the success leaves the time of the success in a failed row. -/
theorem failed_row_with_time :
    ¬ forall (ttl : Nat) (db : Database) (es : List (Statement × Input)) (db' : Database),
      PatchesConsistent db -> (statements ttl).run db es = some db' -> PatchesConsistent db' := by
  intro hall
  have heval : ((statements 0).run Sample.oneAgent (Sample.installedTwice true false)).map
      (fun db => db.patches.map fun r => (r.status, r.installedAt)) =
      some [(PatchStatus.failed, some 2)] := by
    decide +kernel
  rcases Option.map_eq_some_iff.mp heval with ⟨db, hrun, hrows⟩
  have hconsistent := hall 0 Sample.oneAgent _ db (fun r hr => absurd hr List.not_mem_nil) hrun
  rcases List.map_eq_singleton_iff.mp hrows with ⟨r, hr, hrow⟩
  have hmem : r ∈ db.patches := by
    rw [hr]
    exact List.mem_singleton_self r
  have hsome : r.installedAt ≠ none := by
    rw [(Prod.mk.inj hrow).right]
    exact Option.some_ne_none 2
  have hinstalled := (hconsistent r hmem).mp hsome
  rw [(Prod.mk.inj hrow).left] at hinstalled
  cases hinstalled

end Backend
end LeoOne
