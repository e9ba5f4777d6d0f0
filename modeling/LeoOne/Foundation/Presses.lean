import Mathlib.Data.List.Basic

/-!
# Logs of presses and releases

A log says, entry by entry, which switch went down or up.  A switch may go down
several times before it goes up: what counts is the last entry about it.
-/

namespace LeoOne
namespace Foundation
namespace Presses

variable {α : Type} [DecidableEq α]

/-- Whether a switch is down after the log, from what it was before. -/
def down (x : α) : Bool -> List (α × Bool) -> Bool
  | b, [] => b
  | b, e :: es => down x (if e.1 = x then e.2 else b) es

theorem down_append (x : α) (b : Bool) (es fs : List (α × Bool)) :
    down x b (es ++ fs) = down x (down x b es) fs := by
  induction es generalizing b with
  | nil => rfl
  | cons e es ih =>
      exact ih (if e.1 = x then e.2 else b)

theorem down_singleton (x y : α) (b pressed : Bool) :
    down x b [(y, pressed)] = if y = x then pressed else b := rfl

/-- Without a release of it, a switch that is down stays down. -/
theorem down_of_no_release {x : α} {es : List (α × Bool)} (h : (x, false) ∉ es) :
    down x true es = true := by
  induction es with
  | nil => rfl
  | cons e es ih =>
      have hrest : (x, false) ∉ es := fun hmem => h (List.mem_cons_of_mem e hmem)
      have hfirst : (if e.1 = x then e.2 else true) = true := by
        split
        · rename_i hsame
          cases hpressed : e.2 with
          | true => rfl
          | false =>
              have heq : e = (x, false) := Prod.ext hsame hpressed
              rw [heq] at h
              exact absurd List.mem_cons_self h
        · rfl
      rw [down, hfirst]
      exact ih hrest

/-- After a log of releases a switch is down only if it was, and was not released. -/
theorem down_releases {x : α} {b : Bool} {es : List (α × Bool)}
    (hreleases : forall e, e ∈ es -> e.2 = false) (h : down x b es = true) :
    b = true ∧ (x, false) ∉ es := by
  induction es generalizing b with
  | nil =>
      constructor
      · exact h
      · intro hmem
        cases hmem
  | cons e es ih =>
      have hrest := ih (fun f hf => hreleases f (List.mem_cons_of_mem e hf)) h
      have hfirst := hreleases e List.mem_cons_self
      rcases hrest with ⟨hb, hnot⟩
      split at hb
      · rw [hfirst] at hb
        cases hb
      · rename_i hother
        constructor
        · exact hb
        · intro hmem
          rcases List.mem_cons.mp hmem with hhead | htail
          · rw [← hhead] at hother
            exact hother rfl
          · exact hnot htail

/-- A switch that is not down at the end has been released after each press. -/
theorem released_of_not_down {x : α} {es pre post : List (α × Bool)}
    (h : down x false es = false) (hsplit : es = pre ++ (x, true) :: post) :
    (x, false) ∈ post := by
  by_contra hnever
  have hheld : down x false es = true := by
    calc down x false es
        = down x (down x false pre) ((x, true) :: post) := by
          rw [hsplit, down_append]
      _ = down x true post := by
        rw [down, if_pos rfl]
      _ = true := down_of_no_release hnever
  rw [h] at hheld
  cases hheld

/-- A switch that goes down and up again is as it was, or up. -/
theorem down_click {x y : α} {b : Bool} {n : Nat}
    (h : down x b (List.replicate n [(y, true), (y, false)]).flatten = true) :
    b = true ∧ (0 < n -> y ≠ x) := by
  induction n generalizing b with
  | zero =>
      constructor
      · exact h
      · intro hpos
        exact absurd hpos (Nat.lt_irrefl 0)
  | succ n ih =>
      rw [List.replicate_succ, List.flatten_cons, down_append] at h
      have hrest := (ih h).left
      by_cases hsame : y = x
      · simp [down, hsame] at hrest
      · simp only [down, hsame, if_false] at hrest
        exact ⟨hrest, fun _ => hsame⟩

end Presses
end Foundation
end LeoOne
