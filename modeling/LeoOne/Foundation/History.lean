import Mathlib.Data.List.Induction
import LeoOne.Foundation.Machine

/-!
# What has happened in a run

Laws that relate the state to the steps that have led to it, by induction on the run
from its end.
-/

namespace LeoOne
namespace Foundation
namespace Machine

variable {σ ε : Type} {M : Machine σ ε}

/-- The last step of a run. -/
theorem run_concat {s t : σ} {xs : List ε} {e : ε} (h : M.run s (xs ++ [e]) = some t) :
    exists r, M.run s xs = some r ∧ M.step r e = some t := by
  induction xs generalizing s with
  | nil =>
      rcases run_cons h with ⟨r, hstep, htail⟩
      cases htail
      exact ⟨s, rfl, hstep⟩
  | cons x xs ih =>
      rcases run_cons h with ⟨r, hstep, htail⟩
      rcases ih htail with ⟨u, hrun, hlast⟩
      exact ⟨u, by rw [run_step hstep, hrun], hlast⟩

/-- What has happened at the end of a run: it had before, or the last step did it. -/
theorem occurs_concat {happens : σ -> ε -> Prop} {s r : σ} {xs : List ε} {e : ε}
    (hrun : M.run s xs = some r) :
    M.Occurs happens s (xs ++ [e]) <-> M.Occurs happens s xs ∨ happens r e := by
  induction xs generalizing s with
  | nil =>
      cases hrun
      constructor
      · rintro (hnow | ⟨t, _, hlater⟩)
        · exact Or.inr hnow
        · cases hlater
      · rintro (hearlier | hnow)
        · cases hearlier
        · exact Or.inl hnow
  | cons x xs ih =>
      rcases run_cons hrun with ⟨u, hstep, htail⟩
      constructor
      · rintro (hnow | ⟨v, hstep', hlater⟩)
        · exact Or.inl (Or.inl hnow)
        · rw [hstep] at hstep'
          cases hstep'
          rcases (ih htail).mp hlater with hearlier | hlast
          · exact Or.inl (Or.inr ⟨u, hstep, hearlier⟩)
          · exact Or.inr hlast
      · rintro ((hnow | ⟨v, hstep', hlater⟩) | hlast)
        · exact Or.inl hnow
        · rw [hstep] at hstep'
          cases hstep'
          exact Or.inr ⟨u, hstep, (ih htail).mpr (Or.inl hlater)⟩
        · exact Or.inr ⟨u, hstep, (ih htail).mpr (Or.inr hlast)⟩

/-- The rule for laws about a run and the state that it reaches. -/
theorem run_induction {s : σ} {law : List ε -> σ -> Prop} (hinit : law [] s)
    (hstep : forall {xs e r t}, M.run s xs = some r -> law xs r -> M.step r e = some t ->
      law (xs ++ [e]) t)
    {es : List ε} {t : σ} (hrun : M.run s es = some t) : law es t := by
  induction es using List.reverseRecOn generalizing t with
  | nil =>
      cases hrun
      exact hinit
  | append_singleton xs e ih =>
      rcases run_concat hrun with ⟨r, hbefore, hlast⟩
      exact hstep hbefore (ih hbefore) hlast

end Machine
end Foundation
end LeoOne
