import Mathlib.Logic.Basic
import Mathlib.Data.List.Basic
import Mathlib.Data.List.Perm.Subperm

/-!
# Tables

A relational table is the list of its rows.  One `UPDATE`, `DELETE` or `SELECT`
statement is one of the operations below; each of them is atomic.
-/

namespace LeoOne
namespace Foundation
namespace Table

variable {ρ κ : Type}

/-- `UPDATE t SET ... WHERE p`. -/
def updateWhere (p : ρ -> Bool) (f : ρ -> ρ) (t : List ρ) : List ρ :=
  t.map fun r => if p r then f r else r

/-- `DELETE FROM t WHERE p`. -/
def deleteWhere (p : ρ -> Bool) (t : List ρ) : List ρ :=
  t.filter fun r => !p r

theorem mem_updateWhere {p : ρ -> Bool} {f : ρ -> ρ} {t : List ρ} {r : ρ} :
    r ∈ updateWhere p f t <->
      exists old, old ∈ t ∧
        ((p old = true ∧ r = f old) ∨ (p old = false ∧ r = old)) := by
  unfold updateWhere
  rw [List.mem_map]
  constructor
  · rintro ⟨old, hold, heq⟩
    refine ⟨old, hold, ?_⟩
    cases hp : p old with
    | true =>
        left
        exact ⟨rfl, by simpa [hp] using heq.symm⟩
    | false =>
        right
        exact ⟨rfl, by simpa [hp] using heq.symm⟩
  · rintro ⟨old, hold, ⟨hp, heq⟩ | ⟨hp, heq⟩⟩
    · exact ⟨old, hold, by simp [hp, heq]⟩
    · exact ⟨old, hold, by simp [hp, heq]⟩

/-- A row the condition does not select stays as it is. -/
theorem mem_updateWhere_of_not {p : ρ -> Bool} {f : ρ -> ρ} {t : List ρ}
    {r : ρ} (h : r ∈ t) (hp : p r = false) : r ∈ updateWhere p f t :=
  mem_updateWhere.mpr ⟨r, h, Or.inr ⟨hp, rfl⟩⟩

/-- A row that only one of the two contents of a table has: an old value that is
gone or a new one. -/
def Changed (t t' : List ρ) (r : ρ) : Prop :=
  (r ∈ t ∧ r ∉ t') ∨ (r ∈ t' ∧ r ∉ t)

theorem not_changed {t : List ρ} {r : ρ} : ¬ Changed t t r := by
  rintro (⟨hr, hnot⟩ | ⟨hr, hnot⟩)
  · exact hnot hr
  · exact hnot hr

/-- An `UPDATE` changes only rows that its condition selects. -/
theorem changed_updateWhere {p : ρ -> Bool} {f : ρ -> ρ} {t : List ρ} {r : ρ}
    (h : Changed t (updateWhere p f t) r) :
    exists old, old ∈ t ∧ p old = true ∧ (r = old ∨ r = f old) := by
  rcases h with ⟨hr, hgone⟩ | ⟨hr, hnew⟩
  · cases hp : p r with
    | true =>
        exact ⟨r, hr, hp, Or.inl rfl⟩
    | false =>
        exact absurd (mem_updateWhere_of_not hr hp) hgone
  · rcases mem_updateWhere.mp hr with ⟨old, hold, ⟨hp, heq⟩ | ⟨_, heq⟩⟩
    · exact ⟨old, hold, hp, Or.inr heq⟩
    · subst heq
      exact absurd hold hnew

/-- A column that the assignment does not touch keeps its values. -/
theorem map_updateWhere {p : ρ -> Bool} {f : ρ -> ρ} (key : ρ -> κ)
    (hkey : forall r, key (f r) = key r) (t : List ρ) :
    (updateWhere p f t).map key = t.map key := by
  unfold updateWhere
  rw [List.map_map]
  apply List.map_congr_left
  intro r _
  cases hp : p r with
  | true =>
      simp [hp, hkey]
  | false =>
      simp [hp]

/-- An `UPDATE` that makes no new row of a kind leaves no more of them. -/
theorem countP_updateWhere_le {p q : ρ -> Bool} {f : ρ -> ρ}
    {t : List ρ} (h : forall r, r ∈ t -> p r = true -> q (f r) = true -> q r = true) :
    (updateWhere p f t).countP q ≤ t.countP q := by
  unfold updateWhere
  rw [List.countP_map]
  apply List.countP_mono_left
  intro r hr hq
  simp only [Function.comp] at hq
  split at hq
  · rename_i hp
    exact h r hr hp hq
  · exact hq

/-- An `UPDATE` whose rows lose a property takes away those that had it. -/
theorem countP_updateWhere_lost {p q : ρ -> Bool} {f : ρ -> ρ}
    (h : forall r, p r = true -> q (f r) = false) (t : List ρ) :
    (updateWhere p f t).countP q + t.countP (fun r => p r && q r) = t.countP q := by
  unfold updateWhere
  induction t with
  | nil =>
      rfl
  | cons r t ih =>
      rw [List.map_cons, List.countP_cons, List.countP_cons, List.countP_cons, ← ih]
      cases hp : p r with
      | true =>
          simp only [if_true, h r hp, Bool.true_and, Bool.false_eq_true, if_false]
          omega
      | false =>
          simp only [Bool.false_and, Bool.false_eq_true, if_false]
          omega

theorem mem_deleteWhere {p : ρ -> Bool} {t : List ρ} {r : ρ} :
    r ∈ deleteWhere p t <-> r ∈ t ∧ p r = false := by
  simp [deleteWhere]

theorem deleteWhere_sublist (p : ρ -> Bool) (t : List ρ) :
    (deleteWhere p t).Sublist t :=
  List.filter_sublist

/-- `INSERT ... SELECT ... WHERE key = ANY(ids) AND p` inserts as many rows as there are
ids if and only if the ids are distinct and every one of them is the key of such a row. -/
theorem length_selected_iff [DecidableEq κ] {t : List ρ} {key : ρ -> κ} {p : ρ -> Bool}
    {ids : List κ} (hkeys : (t.map key).Nodup) :
    (t.filter fun r => decide (key r ∈ ids) && p r).length = ids.length <->
      ids.Nodup ∧ forall i, i ∈ ids -> exists r, r ∈ t ∧ key r = i ∧ p r = true := by
  have hnodup : ((t.filter fun r => decide (key r ∈ ids) && p r).map key).Nodup :=
    hkeys.sublist (List.filter_sublist.map key)
  have hsubset : (t.filter fun r => decide (key r ∈ ids) && p r).map key ⊆ ids := by
    intro i hi
    rcases List.mem_map.mp hi with ⟨r, hr, rfl⟩
    rw [List.mem_filter, Bool.and_eq_true, decide_eq_true_eq] at hr
    exact hr.right.left
  rw [← List.length_map key]
  constructor
  · intro hlength
    -- the keys are distinct and among the ids, and there are as many
    have hperm :=
      (List.subperm_of_subset hnodup hsubset).perm_of_length_le (Nat.le_of_eq hlength.symm)
    refine ⟨hperm.nodup_iff.mp hnodup, ?_⟩
    intro i hi
    rcases List.mem_map.mp (hperm.mem_iff.mpr hi) with ⟨r, hr, rfl⟩
    rw [List.mem_filter, Bool.and_eq_true] at hr
    exact ⟨r, hr.left, rfl, hr.right.right⟩
  · rintro ⟨hids, hall⟩
    apply List.Perm.length_eq
    rw [List.perm_ext_iff_of_nodup hnodup hids]
    intro i
    refine ⟨fun hi => hsubset hi, fun hi => ?_⟩
    rcases hall i hi with ⟨r, hr, rfl, hp⟩
    apply List.mem_map_of_mem
    rw [List.mem_filter, hp, decide_eq_true hi]
    exact ⟨hr, rfl⟩

end Table
end Foundation
end LeoOne
