import Mathlib.Logic.Basic
import LeoOne.Foundation.Machine

/-!
# Reaching a goal

A state is within reach if some run with a condition on its steps leads there.  A goal
is within reach of every state of an invariant when, short of the goal, some run makes
a rank smaller.
-/

namespace LeoOne
namespace Foundation
namespace Machine

variable {σ ε : Type} {M : Machine σ ε} {guard : σ -> ε -> Prop}

/-- Some run that meets the guard leads from the one state to the other. -/
def Reaches (M : Machine σ ε) (guard : σ -> ε -> Prop) (s t : σ) : Prop :=
  exists es, M.Meets guard s es ∧ M.run s es = some t

theorem Reaches.refl (s : σ) : M.Reaches guard s s :=
  ⟨[], trivial, rfl⟩

theorem Reaches.step {s t u : σ} {e : ε} (hguard : guard s e) (hstep : M.step s e = some t)
    (h : M.Reaches guard t u) : M.Reaches guard s u := by
  rcases h with ⟨es, hmeets, hrun⟩
  refine ⟨e :: es, ⟨hguard, ?_⟩, ?_⟩
  · intro r hr
    rw [hstep] at hr
    cases hr
    exact hmeets
  · rw [run_step hstep]
    exact hrun

theorem Reaches.trans {s t u : σ} (h : M.Reaches guard s t) (h' : M.Reaches guard t u) :
    M.Reaches guard s u := by
  rcases h with ⟨es, hmeets, hrun⟩
  induction es generalizing s with
  | nil =>
      cases hrun
      exact h'
  | cons e es ih =>
      rcases run_cons hrun with ⟨r, hstep, htail⟩
      exact Reaches.step hmeets.left hstep (ih (hmeets.right r hstep) htail)

theorem Reaches.inv {inv : σ -> Prop} {s t : σ} (h : M.Reaches guard s t)
    (hinv : M.Preserves guard inv) (hs : inv s) : inv t := by
  rcases h with ⟨es, hmeets, hrun⟩
  exact hinv.run hs hmeets hrun

/-- The rule for goals. -/
theorem reaches_of_rank {inv goal : σ -> Prop} (rank : σ -> Nat)
    (hstep : forall s, inv s -> ¬ goal s ->
      exists t, M.Reaches guard s t ∧ inv t ∧ rank t < rank s)
    {s : σ} (hs : inv s) : exists t, M.Reaches guard s t ∧ inv t ∧ goal t := by
  induction hrank : rank s using Nat.strongRecOn generalizing s with
  | ind n ih =>
      by_cases hgoal : goal s
      · exact ⟨s, Reaches.refl s, hs, hgoal⟩
      · rcases hstep s hs hgoal with ⟨t, hreach, ht, hless⟩
        rcases ih (rank t) (hrank ▸ hless) ht rfl with ⟨u, hrest, hu, hend⟩
        exact ⟨u, hreach.trans hrest, hu, hend⟩

end Machine
end Foundation
end LeoOne
