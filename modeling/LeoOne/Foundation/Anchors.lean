import LeoOne.Foundation.Pool

/-!
# Goroutines that end in an anchor

Some instructions are only ever executed on behalf of what follows them in their
goroutine.  The last instruction of a goroutine is then of one of a few kinds, the
anchors, and a pool in which no anchor is pending has nothing left to do.
-/

namespace LeoOne
namespace Foundation
namespace Pool

variable {σ ι ρ ξ : Type}

/-- The goroutine is over, or its last instruction is an anchor. -/
def AnchoredProc (a : ι -> Bool) (q : List ι) : Prop :=
  forall k, q.getLast? = some k -> a k = true

def Anchored (a : ι -> Bool) (p : Pool σ ι) : Prop :=
  forall q, q ∈ p.procs -> AnchoredProc a q

variable {a : ι -> Bool}

theorem anchoredProc_nil : AnchoredProc a [] := by
  intro k hk
  cases hk

theorem anchoredProc_concat {q : List ι} {k : ι} (h : a k = true) :
    AnchoredProc a (q ++ [k]) := by
  intro j hj
  rw [List.getLast?_concat] at hj
  cases hj
  exact h

/-- What stands in front of an anchored rest does not matter. -/
theorem AnchoredProc.append {q rest : List ι} (h : AnchoredProc a rest)
    (hne : rest ≠ []) : AnchoredProc a (q ++ rest) := by
  intro k hk
  apply h k
  rw [List.getLast?_append_of_ne_nil _ hne] at hk
  exact hk

theorem AnchoredProc.tail {k : ι} {rest : List ι} (h : AnchoredProc a (k :: rest)) :
    AnchoredProc a rest := by
  cases rest with
  | nil =>
      exact anchoredProc_nil
  | cons j rest =>
      intro i hi
      apply h i
      rw [List.getLast?_cons_cons]
      exact hi

variable {entry : ρ -> List ι} {perform : ι -> ξ -> σ -> Option (Outcome σ ι)}

/-- An anchor is replaced by a list that ends in an anchor; the other instructions
leave the end of their goroutine alone. -/
theorem anchored_preserved {guard : Pool σ ι -> PoolEvent ρ ξ -> Prop}
    (hentry : forall r, AnchoredProc a (entry r))
    (hcont : forall k x s o, perform k x s = some o -> a k = true ->
      AnchoredProc a o.cont)
    (hspawned : forall k x s o, perform k x s = some o ->
      forall q, q ∈ o.spawned -> AnchoredProc a q) :
    (machine entry perform).Preserves guard (Anchored a) := by
  intro p e p' h _ hstep
  rcases step_cases hstep with ⟨r, rfl, rfl⟩ |
    ⟨i, x, k, rest, o, rfl, hhead, hperform, rfl⟩
  · intro q hq
    rcases List.mem_append.mp hq with hold | hnew
    · exact h q hold
    · rw [List.mem_singleton.mp hnew]
      exact hentry r
  · intro q hq
    rcases mem_procs_exec hhead hq with ⟨rfl, hmem⟩ | hold | hnew
    · have hproc := h _ hmem
      cases rest with
      | nil =>
          rw [List.append_nil]
          exact hcont k x p.shared o hperform (hproc k rfl)
      | cons j rest =>
          exact hproc.tail.append (List.cons_ne_nil j rest)
    · exact h q hold
    · exact hspawned k x p.shared o hperform q hnew

/-- Without an anchor, nothing is pending. -/
theorem Anchored.none_pending {p : Pool σ ι} (h : Anchored a p)
    (hnone : pendingCount a p = 0) (k : ι) : ¬ p.Pending k := by
  rintro ⟨q, hq, hk⟩
  cases hlast : q.getLast? with
  | none =>
      rw [List.getLast?_eq_none_iff.mp hlast] at hk
      cases hk
  | some j =>
      have hj := pendingCount_pos ⟨q, hq, List.mem_of_getLast? hlast⟩ (h q hq j hlast)
      rw [hnone] at hj
      cases hj

/-- A pool with nothing pending executes nothing. -/
theorem step_of_none_pending {p : Pool σ ι} (h : forall k, ¬ p.Pending k) (i : Nat)
    (x : ξ) : (machine entry perform).step p (PoolEvent.exec i x) = none := by
  cases hhead : p.head? i with
  | none =>
      simp [machine, hhead]
  | some k =>
      exact absurd (pending_of_head? hhead) (h k.1)

end Pool
end Foundation
end LeoOne
