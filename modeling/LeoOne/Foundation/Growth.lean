import Mathlib.Algebra.Order.Field.Basic
import Mathlib.Algebra.Order.Ring.Rat
import Mathlib.Data.Nat.Cast.Order.Ring
import Mathlib.Tactic.Linarith

/-!
# Growth of counters that wrap

Counters that only grow are kept modulo `2 ^ 64`, and their growth is a difference
modulo `2 ^ 64`.  The growth of a whole is the sum of the growths of its parts, and a
part is a share of the whole only as long as this sum does not wrap.
-/

namespace LeoOne
namespace Foundation
namespace Growth

/-- The growth of a counter is exact if it is smaller than `2 ^ 64`. -/
theorem toNat_sub_ofNat {before now : Nat} (hle : before ≤ now)
    (hlt : now - before < 2 ^ 64) :
    (UInt64.ofNat now - UInt64.ofNat before).toNat = now - before := by
  rw [← UInt64.ofNat_sub hle, UInt64.toNat_ofNat_of_lt' hlt]

/-- The part `b` of the whole `a + b`, which counts as nothing if the whole is zero. -/
def percentage (a b : UInt64) : ℚ :=
  if a + b = 0 then 0 else (b.toNat : ℚ) / (a + b).toNat * 100

theorem percentage_nonneg (a b : UInt64) : 0 ≤ percentage a b := by
  unfold percentage
  split
  · exact le_refl 0
  · exact mul_nonneg (div_nonneg (Nat.cast_nonneg _) (Nat.cast_nonneg _)) (by norm_num)

theorem percentage_eq_zero_iff (a b : UInt64) :
    percentage a b = 0 <-> a + b = 0 ∨ b = 0 := by
  unfold percentage
  split
  · rename_i hwhole
    simp only [hwhole, true_or]
  · rename_i hwhole
    have hpos : ((a + b).toNat : ℚ) ≠ 0 := by
      intro hzero
      apply hwhole
      apply UInt64.toNat_inj.mp
      exact_mod_cast hzero
    constructor
    · intro h
      right
      apply UInt64.toNat_inj.mp
      rcases mul_eq_zero.mp h with hshare | hhundred
      · rcases div_eq_zero_iff.mp hshare with hpart | hempty
        · exact_mod_cast hpart
        · exact absurd hempty hpos
      · norm_num at hhundred
    · intro h
      rcases h with hzero | hzero
      · exact absurd hzero hwhole
      · rw [hzero]
        norm_num

/-- A percentage is at most 100 exactly if the two parts do not exceed `2 ^ 64`. -/
theorem percentage_le_iff (a b : UInt64) :
    percentage a b ≤ 100 <-> a.toNat + b.toNat ≤ 2 ^ 64 := by
  have hsum : (a + b).toNat = (a.toNat + b.toNat) % 2 ^ 64 := UInt64.toNat_add a b
  have ha : a.toNat < 2 ^ 64 := a.toNat_lt
  have hb : b.toNat < 2 ^ 64 := b.toNat_lt
  unfold percentage
  split
  · rename_i hwhole
    rw [hwhole] at hsum
    constructor
    · intro _
      simp only [UInt64.toNat_zero] at hsum
      omega
    · intro _
      norm_num
  · rename_i hwhole
    have hne : (a + b).toNat ≠ 0 := by
      intro hzero
      exact hwhole (UInt64.toNat_inj.mp hzero)
    have hpos : (0 : ℚ) < (a + b).toNat := by
      exact_mod_cast Nat.pos_of_ne_zero hne
    have hshare : (b.toNat : ℚ) / (a + b).toNat * 100 ≤ 100 <->
        b.toNat ≤ (a + b).toNat := by
      rw [← Nat.cast_le (α := ℚ), ← div_le_one hpos]
      constructor
      · intro h
        linarith
      · intro h
        linarith
    rw [hshare]
    omega

end Growth
end Foundation
end LeoOne
