import Mathlib.Data.Prod.Basic
import LeoOne.Foundation.Pool

/-!
# Instructions with an owner

To follow one request through a pool, every instruction is given the request it
works for, and what an instruction does is entered in a journal under that owner.
Both are for the proofs alone: without them a run is a run of the pool, and every
run of the pool can be annotated.
-/

namespace LeoOne
namespace Foundation
namespace Pool

variable {σ ι ρ ξ τ μ : Type}

/-- What the pool shares, with the journal. -/
structure Journaled (σ τ μ : Type) where
  state : σ
  journal : List (τ × μ)

/-- Executes an instruction for its owner.  An instruction may choose the owner of
what follows it; `mark` says what is entered in the journal. -/
def owned (perform : ι -> ξ -> σ -> Option (Outcome σ ι)) (owner : τ -> ι -> σ -> τ)
    (mark : ι -> ξ -> σ -> List μ) (k : τ × ι) (x : ξ) (s : Journaled σ τ μ) :
    Option (Outcome (Journaled σ τ μ) (τ × ι)) :=
  match perform k.2 x s.state with
  | none => none
  | some o =>
      let n := owner k.1 k.2 s.state
      some
        { shared :=
            { state := o.shared
              journal := (mark k.2 x s.state).map (Prod.mk n) ++ s.journal }
          cont := o.cont.map (Prod.mk n)
          spawned := o.spawned.map (List.map (Prod.mk n)) }

/-- The annotated pool; a request starts with the owner `none₀`. -/
def ownedMachine (none₀ : τ) (entry : ρ -> List ι)
    (perform : ι -> ξ -> σ -> Option (Outcome σ ι)) (owner : τ -> ι -> σ -> τ)
    (mark : ι -> ξ -> σ -> List μ) :
    Machine (Pool (Journaled σ τ μ) (τ × ι)) (PoolEvent ρ ξ) :=
  machine (fun r => (entry r).map (Prod.mk none₀)) (owned perform owner mark)

/-- The pool without the annotation. -/
def forget (p : Pool (Journaled σ τ μ) (τ × ι)) : Pool σ ι where
  shared := p.shared.state
  procs := p.procs.map (List.map Prod.snd)

/-- The pool with an annotation in which everything has the same owner. -/
def annotate (none₀ : τ) (p : Pool σ ι) : Pool (Journaled σ τ μ) (τ × ι) where
  shared := { state := p.shared, journal := [] }
  procs := p.procs.map (List.map (Prod.mk none₀))

variable {none₀ : τ} {entry : ρ -> List ι}
  {perform : ι -> ξ -> σ -> Option (Outcome σ ι)} {owner : τ -> ι -> σ -> τ}
  {mark : ι -> ξ -> σ -> List μ}

theorem forget_annotate (p : Pool σ ι) :
    (annotate none₀ p : Pool (Journaled σ τ μ) (τ × ι)).forget = p := by
  cases p with
  | mk shared procs =>
      simp [forget, annotate]

theorem head?_forget (p : Pool (Journaled σ τ μ) (τ × ι)) (i : Nat) :
    p.forget.head? i = (p.head? i).map fun k => (k.1.2, k.2.map Prod.snd) := by
  simp only [head?, forget, List.getElem?_map]
  cases p.procs[i]? with
  | none =>
      rfl
  | some q =>
      cases q with
      | nil => rfl
      | cons k rest => rfl

/-- A step of the annotated pool is a step of the pool. -/
theorem forget_step (p : Pool (Journaled σ τ μ) (τ × ι)) (e : PoolEvent ρ ξ) :
    ((ownedMachine none₀ entry perform owner mark).step p e).map forget =
      (machine entry perform).step p.forget e := by
  cases e with
  | start r =>
      simp [ownedMachine, machine, forget]
  | exec i x =>
      simp only [ownedMachine, machine, head?_forget]
      cases hhead : p.head? i with
      | none =>
          rfl
      | some k =>
          rcases k with ⟨⟨n, k⟩, rest⟩
          have hstate : p.forget.shared = p.shared.state := rfl
          simp only [Option.map_some, owned, hstate]
          cases perform k x p.shared.state with
          | none =>
              rfl
          | some o =>
              simp [forget, List.map_set]

/-- A run of the annotated pool is a run of the pool, and every run of the pool
can be annotated. -/
theorem forget_run (p : Pool (Journaled σ τ μ) (τ × ι)) (es : List (PoolEvent ρ ξ)) :
    ((ownedMachine none₀ entry perform owner mark).run p es).map forget =
      (machine entry perform).run p.forget es := by
  induction es generalizing p with
  | nil =>
      rfl
  | cons e es ih =>
      have hstep : ((ownedMachine none₀ entry perform owner mark).step p e).map forget =
          (machine entry perform).step p.forget e := forget_step p e
      simp only [Machine.run]
      cases hnext : (ownedMachine none₀ entry perform owner mark).step p e with
      | none =>
          rw [hnext] at hstep
          rw [← hstep]
          rfl
      | some q =>
          rw [hnext] at hstep
          rw [← hstep]
          exact ih q

end Pool
end Foundation
end LeoOne
