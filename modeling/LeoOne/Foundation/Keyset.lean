import Mathlib.Data.List.Sort
import Mathlib.Order.Defs.LinearOrder

/-!
# Keyset pagination

A list that is sorted by a key is served in pages, each with the key of its last row as
the cursor of the next.  What remains after a row is the list behind it, so the pages are
the list.
-/

namespace LeoOne
namespace Foundation
namespace Keyset

variable {ρ κ γ : Type}

section Sorted

variable [LinearOrder κ] {key : ρ -> κ}

/-- The keys increase along the list. -/
def Increasing (key : ρ -> κ) (rows : List ρ) : Prop :=
  rows.Pairwise fun a b => key a < key b

/-- The rows, in the order of their keys. -/
def orderBy (key : ρ -> κ) (rows : List ρ) : List ρ :=
  rows.insertionSort fun a b => key a ≤ key b

theorem mem_orderBy {rows : List ρ} {r : ρ} : r ∈ orderBy key rows <-> r ∈ rows :=
  (List.perm_insertionSort _ rows).mem_iff

/-- Rows with distinct keys are put in strictly increasing order. -/
theorem increasing_orderBy {rows : List ρ} (h : (rows.map key).Nodup) :
    Increasing key (orderBy key rows) := by
  have hnodup : ((orderBy key rows).map key).Nodup :=
    ((List.perm_insertionSort _ rows).map key).nodup_iff.mpr h
  have htotal : Std.Total (fun a b : ρ => key a ≤ key b) := ⟨fun a b => le_total (key a) (key b)⟩
  have htrans : IsTrans ρ (fun a b : ρ => key a ≤ key b) := ⟨fun _ _ _ => le_trans⟩
  have hsorted := List.pairwise_insertionSort (fun a b : ρ => key a ≤ key b) rows
  have hne := List.pairwise_map.mp hnodup
  exact (hsorted.and hne).imp fun h => lt_of_le_of_ne h.left h.right

theorem Increasing.nodup {rows : List ρ} (h : Increasing key rows) : rows.Nodup := by
  refine List.Pairwise.imp ?_ h
  rintro a b hlt rfl
  exact lt_irrefl _ hlt

/-- There is one increasing list of given rows. -/
theorem Increasing.eq_of_mem_iff {rows rows' : List ρ} (h : Increasing key rows)
    (h' : Increasing key rows') (hmem : forall r, r ∈ rows <-> r ∈ rows') : rows = rows' := by
  refine List.Perm.eq_of_pairwise ?_ h h'
    ((List.perm_ext_iff_of_nodup h.nodup h'.nodup).mpr hmem)
  intro a b _ _ hab hba
  exact absurd hab (lt_asymm hba)

theorem Increasing.filter {rows : List ρ} (h : Increasing key rows) (p : ρ -> Bool) :
    Increasing key (rows.filter p) :=
  List.Pairwise.filter p h

/-- Filtering and ordering commute. -/
theorem orderBy_filter {rows : List ρ} (h : (rows.map key).Nodup) (p : ρ -> Bool) :
    orderBy key (rows.filter p) = (orderBy key rows).filter p := by
  have hsub : ((rows.filter p).map key).Nodup := h.sublist (List.filter_sublist.map key)
  refine (increasing_orderBy hsub).eq_of_mem_iff ((increasing_orderBy h).filter p) ?_
  intro r
  rw [mem_orderBy, List.mem_filter, List.mem_filter, mem_orderBy]

/-- The rows after a row of an increasing list are those behind it. -/
theorem Increasing.filter_after {rows : List ρ} (h : Increasing key rows) {i : Nat}
    (hi : i < rows.length) :
    rows.filter (fun r => key rows[i] < key r) = rows.drop (i + 1) := by
  induction rows generalizing i with
  | nil =>
      cases hi
  | cons a rows ih =>
      rcases List.pairwise_cons.mp h with ⟨hfirst, hrest⟩
      cases i with
      | zero =>
          rw [List.getElem_cons_zero, List.filter_cons_of_neg (by simp), List.drop_succ_cons,
            List.drop_zero, List.filter_eq_self]
          intro r hr
          exact decide_eq_true (hfirst r hr)
      | succ i =>
          have hi' : i < rows.length := Nat.lt_of_succ_lt_succ hi
          have hlt := hfirst rows[i] (List.getElem_mem hi')
          rw [List.getElem_cons_succ, List.drop_succ_cons,
            List.filter_cons_of_neg (by simpa using le_of_lt hlt)]
          exact ih hrest hi'

end Sorted

/-!
## Following the cursors
-/

/-- The pages from a cursor on, each with the cursor of the next; `none` if a page fails or
the pages do not end in time. -/
def follow (list : γ -> Option (List ρ × Option γ)) : Nat -> γ -> Option (List (List ρ))
  | 0, _ => none
  | fuel + 1, c =>
      match list c with
      | none => none
      | some (page, none) => some [page]
      | some (page, some c') => (follow list fuel c').map fun pages => page :: pages

/-- A page of `n` rows of what remains from a cursor on, and the cursor behind it. -/
inductive Serves (list : γ -> Option (List ρ × Option γ)) (rest : γ -> List ρ) (n : Nat)
    (known : γ -> Prop) (c : γ) : Prop where
  | last (hlist : list c = some (rest c, none)) (hlength : (rest c).length ≤ n)
  | more (c' : γ) (hlist : list c = some ((rest c).take n, some c'))
      (hlength : n < (rest c).length) (hrest : rest c' = (rest c).drop n) (hknown : known c')

/-- The pages end, and they are what remains. -/
theorem follow_eq {list : γ -> Option (List ρ × Option γ)} {rest : γ -> List ρ} {n : Nat}
    {known : γ -> Prop} (hn : 0 < n)
    (hserves : forall c, known c -> Serves list rest n known c) {c : γ} (hc : known c)
    {fuel : Nat} (hfuel : (rest c).length < fuel) :
    exists pages, follow list fuel c = some pages ∧ pages.flatten = rest c ∧
      forall page, page ∈ pages -> page.length ≤ n := by
  induction fuel generalizing c with
  | zero =>
      cases hfuel
  | succ fuel ih =>
      cases hserves c hc with
      | last hlist hlength =>
          refine ⟨[rest c], ?_, List.flatten_singleton, ?_⟩
          · simp only [follow, hlist]
          · intro page hpage
            rw [List.mem_singleton.mp hpage]
            exact hlength
      | more c' hlist hlength hrest hknown =>
          have hless : (rest c').length < fuel := by
            rw [hrest, List.length_drop]
            omega
          rcases ih hknown hless with ⟨pages, hpages, hflatten, hsizes⟩
          refine ⟨(rest c).take n :: pages, ?_, ?_, ?_⟩
          · simp only [follow, hlist, hpages, Option.map_some]
          · rw [List.flatten_cons, hflatten, hrest, List.take_append_drop]
          · intro page hpage
            rcases List.mem_cons.mp hpage with rfl | hpage
            · exact List.length_take_le n (rest c)
            · exact hsizes page hpage

end Keyset
end Foundation
end LeoOne
