import LeoOne.Foundation.Table

/-!
# References between tables

A foreign key demands that the key a row refers to exists.  Where rows have
owners, a reference should also stay with one owner: the row that is referred to
belongs to the owner of the row that refers to it.
-/

namespace LeoOne
namespace Foundation

/-- The keys of a table, each with the owner of its row. -/
abbrev Keys (κ ω : Type) := List (κ × ω)

/-- Every key that a row refers to is, in the other table, a key of the row's
owner. -/
def SameOwner {ρ κ ω : Type} (ref : ρ -> κ -> Prop) (owner : ρ -> ω -> Prop)
    (rows : List ρ) (targets : Keys κ ω) : Prop :=
  forall r, r ∈ rows -> forall k o, ref r k -> owner r o -> (k, o) ∈ targets

namespace SameOwner

variable {ρ κ ω : Type} {ref : ρ -> κ -> Prop} {owner owner' : ρ -> ω -> Prop}
  {rows rows' : List ρ} {targets targets' : Keys κ ω}

/-- An `INSERT` of rows that refer to rows of their owner. -/
theorem insert (h : SameOwner ref owner rows targets)
    (hnew : SameOwner ref owner rows' targets) :
    SameOwner ref owner (rows ++ rows') targets := by
  intro r hr k o hk ho
  rcases List.mem_append.mp hr with hold | hlast
  · exact h _ hold _ _ hk ho
  · exact hnew _ hlast _ _ hk ho

/-- An `UPDATE` whose new rows refer to rows of their owner. -/
theorem update (h : SameOwner ref owner rows targets) {p : ρ -> Bool} {f : ρ -> ρ}
    (hnew : forall {r}, r ∈ rows -> p r = true -> forall {k o}, ref (f r) k ->
      owner (f r) o -> (k, o) ∈ targets) :
    SameOwner ref owner (Table.updateWhere p f rows) targets := by
  intro r hr k o hk ho
  rcases Table.mem_updateWhere.mp hr with ⟨old, hold, ⟨hp, heq⟩ | ⟨_, heq⟩⟩
  · rw [heq] at hk ho
    exact hnew hold hp hk ho
  · rw [heq] at hk ho
    exact h _ hold _ _ hk ho

/-- A `DELETE` of rows that refer. -/
theorem subset (h : SameOwner ref owner rows targets) (hsub : rows' ⊆ rows) :
    SameOwner ref owner rows' targets :=
  fun _ hr _ _ hk ho => h _ (hsub hr) _ _ hk ho

/-- More rows to refer to. -/
theorem targets_mono (h : SameOwner ref owner rows targets) (hsub : targets ⊆ targets') :
    SameOwner ref owner rows targets' :=
  fun _ hr _ _ hk ho => hsub (h _ hr _ _ hk ho)

/-- A `DELETE` of rows that are referred to, with its cascade: what is left refers
to none of them. -/
theorem cascade (h : SameOwner ref owner rows targets) (hsub : rows' ⊆ rows)
    (hkept : forall {r}, r ∈ rows' -> forall {k o}, ref r k -> (k, o) ∈ targets ->
      (k, o) ∈ targets') :
    SameOwner ref owner rows' targets' :=
  fun _ hr _ _ hk ho => hkept hr hk (h _ (hsub hr) _ _ hk ho)

/-- Owners that were owners before. -/
theorem owner_mono (h : SameOwner ref owner rows targets)
    (hold : forall {r}, r ∈ rows -> forall {o}, owner' r o -> owner r o) :
    SameOwner ref owner' rows targets :=
  fun _ hr _ _ hk ho => h _ hr _ _ hk (hold hr ho)

end SameOwner

end Foundation
end LeoOne
