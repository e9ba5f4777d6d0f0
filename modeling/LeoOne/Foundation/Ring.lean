import Mathlib.Data.List.Basic
import Mathlib.Data.Nat.ModEq
import Mathlib.Logic.Basic

/-!
# Ring buffers

An array of `cap` slots with a head, a tail and a count.  The head and the tail move
around the array, and the list of the elements, from the head on, is a queue: `push`
appends to it and `pop` takes its first element.
-/

namespace LeoOne
namespace Foundation

variable {α : Type} {cap : Nat}

/-- The slots beyond the count hold old values. -/
structure Ring (α : Type) (cap : Nat) where
  slot : Nat -> α
  head : Nat
  tail : Nat
  count : Nat
  head_lt : head < cap
  count_le : count ≤ cap
  tail_eq : tail = (head + count) % cap

namespace Ring

/-- An empty ring, with the value that its memory is filled with. -/
def empty (fill : α) (hcap : 0 < cap) : Ring α cap where
  slot _ := fill
  head := 0
  tail := 0
  count := 0
  head_lt := hcap
  count_le := Nat.zero_le cap
  tail_eq := (Nat.zero_mod cap).symm

/-- Stores an element at the tail, if there is room. -/
def push (r : Ring α cap) (x : α) : Option (Ring α cap) :=
  if hroom : r.count < cap then
    some
      { slot := fun i => if i = r.tail then x else r.slot i
        head := r.head
        tail := (r.tail + 1) % cap
        count := r.count + 1
        head_lt := r.head_lt
        count_le := hroom
        tail_eq := by rw [r.tail_eq, Nat.mod_add_mod, Nat.add_assoc] }
  else none

/-- Takes the element at the head. -/
def pop (r : Ring α cap) : Option (α × Ring α cap) :=
  if hsome : 0 < r.count then
    some
      (r.slot r.head,
        { slot := r.slot
          head := (r.head + 1) % cap
          tail := r.tail
          count := r.count - 1
          head_lt := Nat.mod_lt _ (Nat.zero_lt_of_lt r.head_lt)
          count_le := Nat.le_trans (Nat.sub_le _ _) r.count_le
          tail_eq := by
            rw [r.tail_eq, Nat.mod_add_mod]
            congr 1
            omega })
  else none

/-- The elements, in the order in which they are taken. -/
def contents (r : Ring α cap) : List α :=
  (List.range r.count).map fun i => r.slot ((r.head + i) % cap)

theorem length_contents (r : Ring α cap) : r.contents.length = r.count := by
  simp [contents]

theorem contents_eq_nil {r : Ring α cap} (h : r.count = 0) : r.contents = [] := by
  apply List.length_eq_zero_iff.mp
  rw [length_contents, h]

/-- Two places less than a full turn apart are different slots. -/
theorem slot_ne (head : Nat) {i n : Nat} (hi : i < n) (hn : n < cap) :
    (head + i) % cap ≠ (head + n) % cap := by
  intro heq
  have hmod : i % cap = n % cap := Nat.ModEq.add_left_cancel' head heq
  rw [Nat.mod_eq_of_lt (Nat.lt_trans hi hn), Nat.mod_eq_of_lt hn] at hmod
  exact absurd hmod (Nat.ne_of_lt hi)

theorem push_some {r r' : Ring α cap} {x : α} (h : r.push x = some r') :
    r.count < cap ∧ r'.contents = r.contents ++ [x] := by
  unfold push at h
  split at h
  · rename_i hroom
    cases h
    refine ⟨hroom, ?_⟩
    simp only [contents, List.range_succ, List.map_append, List.map_singleton]
    congr 1
    · apply List.map_congr_left
      intro i hi
      have hne := slot_ne r.head (List.mem_range.mp hi) hroom
      rw [if_neg (by rw [r.tail_eq]; exact hne)]
    · rw [if_pos r.tail_eq.symm]
  · cases h

theorem push_none {r : Ring α cap} {x : α} (h : r.push x = none) : r.count = cap := by
  unfold push at h
  split at h
  · cases h
  · rename_i hfull
    exact Nat.le_antisymm r.count_le (Nat.not_lt.mp hfull)

theorem pop_some {r r' : Ring α cap} {x : α} (h : r.pop = some (x, r')) :
    r.contents = x :: r'.contents := by
  unfold pop at h
  split at h
  · rename_i hsome
    cases h
    obtain ⟨n, hn⟩ : exists n, r.count = n + 1 := ⟨r.count - 1, by omega⟩
    simp only [contents, hn, List.range_succ_eq_map, List.map_cons, List.map_map,
      Nat.add_sub_cancel, Nat.add_zero, Nat.mod_eq_of_lt r.head_lt]
    congr 1
    apply List.map_congr_left
    intro i _
    simp only [Function.comp_apply, Nat.mod_add_mod]
    rw [Nat.add_assoc, Nat.add_comm 1 i]
  · cases h

end Ring
end Foundation
end LeoOne
