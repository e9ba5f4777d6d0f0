import Mathlib.Logic.Basic

/-!
# Deterministic machines over events

A machine takes one event at a time; the event carries every choice the
environment makes (which goroutine runs, what a read returns, whether a
statement fails), so the step itself is a partial function.  Runs are event
lists, and an invariant is established by one step lemma.  Guarded runs restrict
the steps of a run by a condition on the state before each of them.
-/

namespace LeoOne
namespace Foundation

/-- A partial step function; `none` means that the event is not enabled. -/
structure Machine (σ ε : Type) where
  step : σ -> ε -> Option σ

namespace Machine

variable {σ ε : Type} (M : Machine σ ε)

/-- The state reached by taking the events in order. -/
def run : σ -> List ε -> Option σ
  | s, [] => some s
  | s, e :: es =>
      match M.step s e with
      | none => none
      | some t => run t es

/-- Every step of the run satisfies the guard in the state it starts from. -/
def Meets (guard : σ -> ε -> Prop) : σ -> List ε -> Prop
  | _, [] => True
  | s, e :: es => guard s e ∧ forall t, M.step s e = some t -> Meets guard t es

/-- Some step of the run satisfies the condition in the state it starts from. -/
def Occurs (happens : σ -> ε -> Prop) : σ -> List ε -> Prop
  | _, [] => False
  | s, e :: es =>
      happens s e ∨ exists t, M.step s e = some t ∧ Occurs happens t es

variable {M}

theorem run_cons {s u : σ} {e : ε} {es : List ε}
    (h : M.run s (e :: es) = some u) :
    exists t, M.step s e = some t ∧ M.run t es = some u := by
  unfold run at h
  cases hstep : M.step s e with
  | none =>
      rw [hstep] at h
      cases h
  | some t =>
      rw [hstep] at h
      exact ⟨t, rfl, h⟩

theorem run_step {s t : σ} {e : ε} (h : M.step s e = some t) (es : List ε) :
    M.run s (e :: es) = M.run t es := by
  simp only [run, h]

theorem Meets.append_right {guard : σ -> ε -> Prop} {s t : σ} {xs ys : List ε}
    (h : M.Meets guard s (xs ++ ys)) (hrun : M.run s xs = some t) :
    M.Meets guard t ys := by
  induction xs generalizing s with
  | nil =>
      cases hrun
      exact h
  | cons e es ih =>
      rcases run_cons hrun with ⟨r, hstep, htail⟩
      exact ih (h.right r hstep) htail

theorem Meets.append_left {guard : σ -> ε -> Prop} {s : σ} {xs ys : List ε}
    (h : M.Meets guard s (xs ++ ys)) : M.Meets guard s xs := by
  induction xs generalizing s with
  | nil =>
      exact trivial
  | cons e es ih =>
      exact ⟨h.left, fun t hstep => ih (h.right t hstep)⟩

theorem Meets.mono {guard weaker : σ -> ε -> Prop} {s : σ} {es : List ε}
    (h : M.Meets guard s es) (hle : forall s e, guard s e -> weaker s e) :
    M.Meets weaker s es := by
  induction es generalizing s with
  | nil =>
      exact trivial
  | cons e es ih =>
      exact ⟨hle s e h.left, fun t hstep => ih (h.right t hstep)⟩

theorem Meets.both {guard other : σ -> ε -> Prop} {s : σ} {es : List ε}
    (h : M.Meets guard s es) (h' : M.Meets other s es) :
    M.Meets (fun s e => guard s e ∧ other s e) s es := by
  induction es generalizing s with
  | nil =>
      exact trivial
  | cons e es ih =>
      exact ⟨⟨h.left, h'.left⟩, fun t hstep => ih (h.right t hstep) (h'.right t hstep)⟩

/-- A guard that can be evaluated can be evaluated along a run. -/
instance Meets.decidable (guard : σ -> ε -> Prop)
    [forall s e, Decidable (guard s e)] :
    forall (s : σ) (es : List ε), Decidable (M.Meets guard s es)
  | _, [] => isTrue trivial
  | s, e :: es =>
      match hstep : M.step s e with
      | none =>
          decidable_of_iff (guard s e)
            ⟨fun h => ⟨h, fun t ht => by rw [hstep] at ht; cases ht⟩,
              fun h => h.left⟩
      | some t =>
          have := Meets.decidable guard t es
          decidable_of_iff (guard s e ∧ M.Meets guard t es)
            ⟨fun h => ⟨h.left, fun r hr => by
                rw [hstep] at hr
                cases hr
                exact h.right⟩,
              fun h => ⟨h.left, h.right t hstep⟩⟩

/-!
## Invariants

The rule used throughout: a predicate that holds initially and that every
guarded step preserves holds in every state a guarded run reaches.
-/

/-- The predicate is preserved by every step that meets the guard. -/
def Preserves (M : Machine σ ε) (guard : σ -> ε -> Prop) (inv : σ -> Prop) :
    Prop :=
  forall s e t, inv s -> guard s e -> M.step s e = some t -> inv t

theorem Preserves.run {guard : σ -> ε -> Prop} {inv : σ -> Prop}
    (h : M.Preserves guard inv) {s t : σ} {es : List ε}
    (hinit : inv s) (hmeets : M.Meets guard s es)
    (hrun : M.run s es = some t) : inv t := by
  induction es generalizing s with
  | nil =>
      cases hrun
      exact hinit
  | cons e es ih =>
      rcases run_cons hrun with ⟨r, hstep, htail⟩
      exact ih (h s e r hinit hmeets.left hstep) (hmeets.right r hstep) htail

theorem meets_true (s : σ) (es : List ε) :
    M.Meets (fun _ _ => True) s es := by
  induction es generalizing s with
  | nil =>
      exact trivial
  | cons e es ih =>
      exact ⟨trivial, fun t _ => ih t⟩

theorem Preserves.run_all {inv : σ -> Prop}
    (h : M.Preserves (fun _ _ => True) inv) {s t : σ} {es : List ε}
    (hinit : inv s) (hrun : M.run s es = some t) : inv t :=
  h.run hinit (meets_true s es) hrun

/-- A step that occurs establishes what the later steps preserve. -/
theorem Occurs.run {guard happens : σ -> ε -> Prop} {base inv : σ -> Prop}
    (hbase : M.Preserves guard base) (hinv : M.Preserves guard inv)
    (hstep : forall {s e t}, base s -> guard s e -> happens s e ->
      M.step s e = some t -> inv t)
    {s t : σ} {es : List ε} (hoccurs : M.Occurs happens s es) (hinit : base s)
    (hmeets : M.Meets guard s es) (hrun : M.run s es = some t) : inv t := by
  induction es generalizing s with
  | nil =>
      cases hoccurs
  | cons e es ih =>
      rcases run_cons hrun with ⟨r, htaken, htail⟩
      rcases hoccurs with hnow | ⟨r', htaken', hlater⟩
      · have hfirst := hstep hinit hmeets.left hnow htaken
        exact hinv.run hfirst (hmeets.right r htaken) htail
      · rw [htaken] at htaken'
        cases htaken'
        exact ih hlater (hbase s e r hinit hmeets.left htaken)
          (hmeets.right r htaken) htail

/-- A step that occurs splits the run. -/
theorem Occurs.split {happens : σ -> ε -> Prop} {s t : σ} {es : List ε}
    (h : M.Occurs happens s es) (hrun : M.run s es = some t) :
    exists xs e ys r r', es = xs ++ e :: ys ∧ M.run s xs = some r ∧ M.step r e = some r' ∧
      M.run s (xs ++ [e]) = some r' ∧ happens r e := by
  induction es generalizing s with
  | nil =>
      cases h
  | cons e es ih =>
      rcases run_cons hrun with ⟨r, hstep, htail⟩
      rcases h with hnow | ⟨r', hstep', hlater⟩
      · exact ⟨[], e, es, s, r, rfl, rfl, hstep, run_step hstep [], hnow⟩
      · rw [hstep] at hstep'
        cases hstep'
        rcases ih hlater htail with ⟨xs, e', ys, u, u', heq, hpre, htaken, hlast, hhappens⟩
        refine ⟨e :: xs, e', ys, u, u', by rw [heq, List.cons_append], ?_, htaken, ?_, hhappens⟩
        · rw [run_step hstep, hpre]
        · rw [List.cons_append, run_step hstep, hlast]

/-- A run meets a guard, or one of its steps does not. -/
theorem meets_or_occurs (guard : σ -> ε -> Prop) (s : σ) (es : List ε) :
    M.Meets guard s es ∨ M.Occurs (fun s e => ¬ guard s e) s es := by
  induction es generalizing s with
  | nil =>
      exact Or.inl trivial
  | cons e es ih =>
      by_cases hguard : guard s e
      · cases hstep : M.step s e with
        | none =>
            left
            refine ⟨hguard, fun t ht => ?_⟩
            rw [hstep] at ht
            cases ht
        | some t =>
            rcases ih t with hmeets | hoccurs
            · left
              refine ⟨hguard, fun r hr => ?_⟩
              rw [hstep] at hr
              cases hr
              exact hmeets
            · exact Or.inr (Or.inr ⟨t, hstep, hoccurs⟩)
      · exact Or.inr (Or.inl hguard)

/-- A predicate that every guarded step preserves and every other step breaks holds in
every state of a run if and only if all its steps meet the guard. -/
theorem always_iff_meets {guard : σ -> ε -> Prop} {inv : σ -> Prop}
    (hkeeps : M.Preserves guard inv)
    (hbreaks : forall s e t, inv s -> ¬ guard s e -> M.step s e = some t -> ¬ inv t)
    {s t : σ} {es : List ε} (hinit : inv s) (hrun : M.run s es = some t) :
    (forall xs ys r, es = xs ++ ys -> M.run s xs = some r -> inv r) <->
      M.Meets guard s es := by
  constructor
  · intro halways
    rcases meets_or_occurs guard s es with hmeets | hoccurs
    · exact hmeets
    · rcases hoccurs.split hrun with ⟨xs, e, ys, r, r', heq, hpre, hstep, hlast, hnot⟩
      have hbefore := halways xs (e :: ys) r heq hpre
      have hsplit : es = (xs ++ [e]) ++ ys := by
        rw [heq, List.append_assoc, List.singleton_append]
      have hafter := halways (xs ++ [e]) ys r' hsplit hlast
      exact absurd hafter (hbreaks r e r' hbefore hnot hstep)
  · intro hmeets xs ys r heq hpre
    rw [heq] at hmeets
    exact hkeeps.run hinit hmeets.append_left hpre

end Machine

end Foundation
end LeoOne
