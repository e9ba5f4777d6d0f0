import Mathlib.Order.Lattice
import Mathlib.Data.List.Induction

/-!
# A cell that only newer values replace

Values with a key are offered to a cell one after another, in an order that nobody
controls.  An offer is taken if its key is larger than the key held so far, and dropped
otherwise.  What is taken has increasing keys, and what is held in the end does not depend
on the order.
-/

namespace LeoOne
namespace Foundation
namespace Newest

variable {α κ : Type} [LinearOrder κ] (key : α -> κ)

/-- The offers that are taken, in order. -/
def taken : κ -> List α -> List α
  | _, [] => []
  | last, a :: as => if key a ≤ last then taken last as else a :: taken (key a) as

/-- The key held after the offers. -/
def held : κ -> List α -> κ
  | last, [] => last
  | last, a :: as => if key a ≤ last then held last as else held (key a) as

theorem taken_cons (last : κ) (a : α) (as : List α) :
    taken key last (a :: as) =
      if key a ≤ last then taken key last as else a :: taken key (key a) as := rfl

theorem held_cons (last : κ) (a : α) (as : List α) :
    held key last (a :: as) = if key a ≤ last then held key last as else held key (key a) as :=
  rfl

theorem held_concat (last : κ) (as : List α) (a : α) :
    held key last (as ++ [a]) =
      if key a ≤ held key last as then held key last as else key a := by
  induction as generalizing last with
  | nil => rfl
  | cons b bs ih =>
      simp only [List.cons_append, held_cons]
      split
      · exact ih last
      · exact ih (key b)

theorem taken_concat (last : κ) (as : List α) (a : α) :
    taken key last (as ++ [a]) =
      if key a ≤ held key last as then taken key last as else taken key last as ++ [a] := by
  induction as generalizing last with
  | nil => rfl
  | cons b bs ih =>
      simp only [List.cons_append, held_cons, taken_cons]
      split
      · exact ih last
      · rw [ih (key b)]
        split
        · rfl
        · rfl

theorem lt_of_mem_taken (last : κ) {as : List α} {a : α} (h : a ∈ taken key last as) :
    last < key a := by
  induction as generalizing last with
  | nil =>
      cases h
  | cons b bs ih =>
      rw [taken_cons] at h
      split at h
      · exact ih last h
      · rename_i hnew
        rcases List.mem_cons.mp h with hhead | htail
        · rw [hhead]
          exact not_le.mp hnew
        · exact lt_trans (not_le.mp hnew) (ih (key b) htail)

/-- What is taken has increasing keys. -/
theorem taken_increasing (last : κ) (as : List α) :
    (taken key last as).Pairwise fun a b => key a < key b := by
  induction as generalizing last with
  | nil => exact List.Pairwise.nil
  | cons b bs ih =>
      rw [taken_cons]
      split
      · exact ih last
      · exact List.Pairwise.cons (fun a ha => lt_of_mem_taken key (key b) ha) (ih (key b))

theorem mem_of_taken {last : κ} {as : List α} {a : α} (h : a ∈ taken key last as) :
    a ∈ as := by
  induction as generalizing last with
  | nil =>
      cases h
  | cons b bs ih =>
      rw [taken_cons] at h
      split at h
      · exact List.mem_cons_of_mem b (ih h)
      · rcases List.mem_cons.mp h with hhead | htail
        · rw [hhead]
          exact List.mem_cons_self
        · exact List.mem_cons_of_mem b (ih htail)

theorem le_held (last : κ) (as : List α) : last ≤ held key last as := by
  induction as generalizing last with
  | nil => exact le_refl last
  | cons b bs ih =>
      rw [held_cons]
      split
      · exact ih last
      · rename_i hnew
        exact le_trans (le_of_lt (not_le.mp hnew)) (ih (key b))

theorem key_le_held (last : κ) {as : List α} {a : α} (h : a ∈ as) :
    key a ≤ held key last as := by
  induction as generalizing last with
  | nil =>
      cases h
  | cons b bs ih =>
      rw [held_cons]
      rcases List.mem_cons.mp h with hhead | htail
      · rw [hhead]
        split
        · rename_i hold
          exact le_trans hold (le_held key last bs)
        · exact le_held key (key b) bs
      · split
        · exact ih last htail
        · exact ih (key b) htail

/-- The key held is that of the last offer taken. -/
theorem held_eq (last : κ) (as : List α) :
    held key last as = ((taken key last as).getLast?.map key).getD last := by
  induction as using List.reverseRecOn with
  | nil => rfl
  | append_singleton as a ih =>
      rw [held_concat, taken_concat]
      split
      · exact ih
      · rw [List.getLast?_concat]
        rfl

/-- An offer whose key is the largest is the last one taken, if no other offer shares
its key. -/
theorem getLast_taken {last : κ} {as : List α} {a : α} (hmem : a ∈ as) (hnew : last < key a)
    (hmax : forall b, b ∈ as -> key b ≤ key a)
    (hunique : forall b, b ∈ as -> key b = key a -> b = a) :
    (taken key last as).getLast? = some a := by
  have hheld := held_eq key last as
  have hreached : key a ≤ held key last as := key_le_held key last hmem
  cases hlast : (taken key last as).getLast? with
  | none =>
      rw [hlast] at hheld
      rw [hheld] at hreached
      exact absurd hnew (not_lt.mpr hreached)
  | some b =>
      rw [hlast] at hheld
      have hoffered : b ∈ as := mem_of_taken key (List.mem_of_getLast? hlast)
      have hsame : key b = key a := by
        apply le_antisymm (hmax b hoffered)
        calc key a ≤ held key last as := hreached
          _ = key b := hheld
      rw [hunique b hoffered hsame]

end Newest
end Foundation
end LeoOne
