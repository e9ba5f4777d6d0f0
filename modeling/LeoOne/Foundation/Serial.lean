import LeoOne.Foundation.Pool

/-!
# Goroutines that run alone

A request is often considered on its own: its goroutine executes every
instruction it has, with nothing in between.  The input of each instruction is
given in order, so the execution is a function of the inputs.  A sequence of such
requests is a run of the serial machine.
-/

namespace LeoOne
namespace Foundation
namespace Pool

variable {σ ι ρ ξ : Type}

/-- Executes the instructions to the end, one input for each of them. -/
def complete (perform : ι -> ξ -> σ -> Option (Outcome σ ι)) :
    List ξ -> List ι -> σ -> Option σ
  | [], [], s => some s
  | x :: xs, k :: rest, s =>
      match perform k x s with
      | none => none
      | some o => complete perform xs (o.cont ++ rest) o.shared
  | _, _, _ => none

/-- One request after the other; each event is a request with the inputs of its
instructions. -/
def serial (entry : ρ -> List ι) (perform : ι -> ξ -> σ -> Option (Outcome σ ι)) :
    Machine σ (ρ × List ξ) where
  step s e := complete perform e.2 (entry e.1) s

variable {entry : ρ -> List ι} {perform : ι -> ξ -> σ -> Option (Outcome σ ι)}

/-- Every instruction of the goroutine meets the guard in the state it starts
from. -/
def Along (perform : ι -> ξ -> σ -> Option (Outcome σ ι))
    (guard : σ -> ι -> ξ -> Prop) : List ξ -> List ι -> σ -> Prop
  | x :: xs, k :: rest, s =>
      guard s k x ∧ forall o, perform k x s = some o ->
        Along perform guard xs (o.cont ++ rest) o.shared
  | _, _, _ => True

/-- A guard that can be evaluated can be evaluated along the goroutine. -/
instance Along.decidable (guard : σ -> ι -> ξ -> Prop)
    [forall s k x, Decidable (guard s k x)] :
    forall (xs : List ξ) (ks : List ι) (s : σ),
      Decidable (Along perform guard xs ks s)
  | [], _, _ => isTrue trivial
  | _ :: _, [], _ => isTrue trivial
  | x :: xs, k :: rest, s =>
      match hperform : perform k x s with
      | none =>
          decidable_of_iff (guard s k x)
            ⟨fun h => ⟨h, fun o ho => by rw [hperform] at ho; cases ho⟩,
              fun h => h.left⟩
      | some o =>
          have := Along.decidable guard xs (o.cont ++ rest) o.shared
          decidable_of_iff
            (guard s k x ∧ Along perform guard xs (o.cont ++ rest) o.shared)
            ⟨fun h => ⟨h.left, fun o' ho => by
                rw [hperform] at ho
                cases ho
                exact h.right⟩,
              fun h => ⟨h.left, h.right o hperform⟩⟩

/-- A property of the state and of the instructions that are left, kept by every
instruction that meets the guard, holds at the end. -/
theorem complete_induction {P : List ι -> σ -> Prop} {guard : σ -> ι -> ξ -> Prop}
    (hstep : forall k rest x s o, guard s k x -> P (k :: rest) s ->
      perform k x s = some o -> P (o.cont ++ rest) o.shared)
    {xs : List ξ} {ks : List ι} {s t : σ} (hP : P ks s)
    (halong : Along perform guard xs ks s)
    (h : complete perform xs ks s = some t) : P [] t := by
  induction xs generalizing ks s with
  | nil =>
      cases ks with
      | nil =>
          cases h
          exact hP
      | cons k rest =>
          cases h
  | cons x xs ih =>
      cases ks with
      | nil =>
          cases h
      | cons k rest =>
          simp only [complete] at h
          cases hperform : perform k x s with
          | none =>
              rw [hperform] at h
              cases h
          | some o =>
              rw [hperform] at h
              exact ih (hstep k rest x s o halong.left hP hperform)
                (halong.right o hperform) h

/-- A goroutine that runs alone and starts no other one is a run of the pool. -/
theorem complete_run {xs : List ξ} {ks : List ι} {s t : σ}
    (hspawned : forall k x s o, perform k x s = some o -> o.spawned = [])
    (h : complete perform xs ks s = some t) :
    (machine entry perform).run { shared := s, procs := [ks] }
      (xs.map (PoolEvent.exec 0)) = some { shared := t, procs := [[]] } := by
  induction xs generalizing ks s with
  | nil =>
      cases ks with
      | nil =>
          cases h
          rfl
      | cons k rest =>
          cases h
  | cons x xs ih =>
      cases ks with
      | nil =>
          cases h
      | cons k rest =>
          simp only [complete] at h
          cases hperform : perform k x s with
          | none =>
              rw [hperform] at h
              cases h
          | some o =>
              rw [hperform] at h
              have hstep : (machine entry perform).step
                  { shared := s, procs := [k :: rest] } (PoolEvent.exec 0 x) =
                  some { shared := o.shared, procs := [o.cont ++ rest] } := by
                simp [machine, head?, hperform, hspawned k x s o hperform]
              simp only [List.map_cons, Machine.run, hstep]
              exact ih h

end Pool
end Foundation
end LeoOne
