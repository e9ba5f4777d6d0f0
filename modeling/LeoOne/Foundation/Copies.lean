import Mathlib.Data.List.Nodup

/-!
# Sequences of memory copies

A loop that only moves bytes from one buffer to another is the list of the copies it
makes, in their order.  The list says which addresses are read and written, and running
it gives the contents of the destination.
-/

namespace LeoOne
namespace Foundation

/-- One call of `memcpy`: offsets into the two buffers, and a length. -/
structure Copy where
  dst : Nat
  src : Nat
  len : Nat

namespace Copy

variable {β : Type}

/-- The contents of the destination afterwards. -/
def run (source : Nat -> β) (c : Copy) (m : Nat -> β) : Nat -> β :=
  fun a => if c.dst ≤ a ∧ a < c.dst + c.len then source (c.src + (a - c.dst)) else m a

theorem run_inside (source : Nat -> β) (c : Copy) (m : Nat -> β) {i : Nat}
    (h : i < c.len) : c.run source m (c.dst + i) = source (c.src + i) := by
  have hinside : c.dst ≤ c.dst + i ∧ c.dst + i < c.dst + c.len := by omega
  rw [run, if_pos hinside, Nat.add_sub_cancel_left]

theorem run_outside (source : Nat -> β) (c : Copy) (m : Nat -> β) {a : Nat}
    (h : a ∉ List.range' c.dst c.len) : c.run source m a = m a := by
  rw [List.mem_range'_1] at h
  rw [run, if_neg h]

end Copy

namespace Copies

variable {β : Type}

/-- The addresses that are read, in order. -/
def reads (cs : List Copy) : List Nat :=
  cs.flatMap fun c => List.range' c.src c.len

/-- The addresses that are written, in order. -/
def writes (cs : List Copy) : List Nat :=
  cs.flatMap fun c => List.range' c.dst c.len

/-- The contents of the destination after all copies. -/
def run (source : Nat -> β) : List Copy -> (Nat -> β) -> Nat -> β
  | [], m => m
  | c :: cs, m => run source cs (c.run source m)

theorem run_append (source : Nat -> β) (cs ds : List Copy) (m : Nat -> β) :
    run source (cs ++ ds) m = run source ds (run source cs m) := by
  induction cs generalizing m with
  | nil => rfl
  | cons c cs ih =>
      exact ih (c.run source m)

theorem run_singleton (source : Nat -> β) (c : Copy) (m : Nat -> β) :
    run source [c] m = c.run source m := rfl

/-- What is not written keeps its contents. -/
theorem run_of_not_mem (source : Nat -> β) {cs : List Copy} (m : Nat -> β) {a : Nat}
    (h : a ∉ writes cs) : run source cs m a = m a := by
  induction cs generalizing m with
  | nil => rfl
  | cons c cs ih =>
      have hnot : a ∉ List.range' c.dst c.len ∧ a ∉ writes cs := by
        constructor
        · intro hmem
          exact h (List.mem_append_left _ hmem)
        · intro hmem
          exact h (List.mem_append_right _ hmem)
      calc run source (c :: cs) m a
          = c.run source m a := ih (c.run source m) hnot.right
        _ = m a := c.run_outside source m hnot.left

/-- Where no address is written twice, each copy leaves what it has copied. -/
theorem run_of_mem (source : Nat -> β) {cs : List Copy} (m : Nat -> β)
    (hnodup : (writes cs).Nodup) {c : Copy} (hmem : c ∈ cs) {i : Nat} (hi : i < c.len) :
    run source cs m (c.dst + i) = source (c.src + i) := by
  induction cs generalizing m with
  | nil =>
      cases hmem
  | cons d ds ih =>
      have hparts : (List.range' d.dst d.len ++ writes ds).Nodup := hnodup
      rw [List.nodup_append] at hparts
      rcases hparts with ⟨_, hrest, hdisjoint⟩
      rcases List.mem_cons.mp hmem with hhead | htail
      · have hwritten : c.dst + i ∈ List.range' d.dst d.len := by
          rw [← hhead, List.mem_range'_1]
          omega
        have hlater : c.dst + i ∉ writes ds := by
          intro hagain
          exact hdisjoint (c.dst + i) hwritten (c.dst + i) hagain rfl
        calc run source (d :: ds) m (c.dst + i)
            = d.run source m (c.dst + i) := run_of_not_mem source (d.run source m) hlater
          _ = source (c.src + i) := by
            rw [← hhead, c.run_inside source m hi]
      · exact ih (d.run source m) hrest htail

/-!
## Loops over blocks
-/

/-- Consecutive blocks of one length make up an interval. -/
theorem range'_blocks (base k n : Nat) :
    ((List.range n).flatMap fun i => List.range' (base + i * k) k) =
      List.range' base (n * k) := by
  induction n with
  | zero =>
      rw [Nat.zero_mul]
      rfl
  | succ n ih =>
      rw [List.range_succ, List.flatMap_append, ih, List.flatMap_singleton,
        List.range'_append_1, Nat.succ_mul]

theorem range_blocks (k n : Nat) :
    ((List.range n).flatMap fun i => List.range' (i * k) k) = List.range (n * k) := by
  have hblocks := range'_blocks 0 k n
  simp only [Nat.zero_add] at hblocks
  rw [hblocks, List.range_eq_range']

/-- Copying consecutive blocks in order is one copy of the whole. -/
theorem run_blocks (source : Nat -> β) (dst src k n : Nat) (m : Nat -> β) :
    run source ((List.range n).map fun i =>
        ({ dst := dst + i * k, src := src + i * k, len := k } : Copy)) m =
      Copy.run source { dst := dst, src := src, len := n * k } m := by
  induction n with
  | zero =>
      funext a
      have hempty : ¬ (dst ≤ a ∧ a < dst + 0 * k) := by omega
      show m a = if dst ≤ a ∧ a < dst + 0 * k then source (src + (a - dst)) else m a
      rw [if_neg hempty]
  | succ n ih =>
      rw [List.range_succ, List.map_append, run_append, ih, List.map_singleton, run_singleton]
      funext a
      have hwhole : (n + 1) * k = n * k + k := Nat.succ_mul n k
      simp only [Copy.run]
      by_cases hlast : dst + n * k ≤ a ∧ a < dst + n * k + k
      · have hinside : dst ≤ a ∧ a < dst + (n + 1) * k := by omega
        have hoffset : src + n * k + (a - (dst + n * k)) = src + (a - dst) := by omega
        rw [if_pos hlast, if_pos hinside, hoffset]
      · rw [if_neg hlast]
        by_cases hearlier : dst ≤ a ∧ a < dst + n * k
        · have hinside : dst ≤ a ∧ a < dst + (n + 1) * k := by omega
          rw [if_pos hearlier, if_pos hinside]
        · have houtside : ¬ (dst ≤ a ∧ a < dst + (n + 1) * k) := by omega
          rw [if_neg hearlier, if_neg houtside]

/-- Two loops whose bodies have the same effect have the same effect. -/
theorem run_flatMap_congr {ι : Type} (source : Nat -> β) (is : List ι)
    (f g : ι -> List Copy)
    (h : forall i, i ∈ is -> forall m, run source (f i) m = run source (g i) m)
    (m : Nat -> β) : run source (is.flatMap f) m = run source (is.flatMap g) m := by
  induction is generalizing m with
  | nil => rfl
  | cons i is ih =>
      have hrest := fun j hj => h j (List.mem_cons_of_mem i hj)
      rw [List.flatMap_cons, List.flatMap_cons, run_append, run_append,
        h i List.mem_cons_self m, ih hrest]

end Copies
end Foundation
end LeoOne
