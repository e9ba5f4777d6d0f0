import Mathlib.Algebra.Order.Ring.Nat
import Mathlib.Data.Rat.Floor
import Mathlib.Tactic.FieldSimp
import Mathlib.Tactic.Linarith
import Mathlib.Tactic.Ring

/-!
# Positions rescaled and scaled back

A position among `W` places is sent as the nearest of `N + 1` steps, as if the places
were `W` steps of the whole, and is read back with `W - 1` steps of the whole, rounded
down.  The two roundings and the two scales together move a position by at most two
places, and never to the right.
-/

namespace LeoOne
namespace Foundation
namespace Rescale

/-- The nearest integer to a quotient, a half rounded up. -/
def nearest (n d : Nat) : Nat :=
  (2 * n + d) / (2 * d)

theorem nearest_mul_le (n d : Nat) : nearest n d * (2 * d) ≤ 2 * n + d :=
  Nat.div_mul_le_self (2 * n + d) (2 * d)

theorem lt_nearest_mul (n : Nat) {d : Nat} (hd : 0 < d) :
    2 * n + d < nearest n d * (2 * d) + 2 * d :=
  Nat.lt_div_mul_add (by omega)

theorem nearest_mono {n m : Nat} (h : n ≤ m) (d : Nat) : nearest n d ≤ nearest m d :=
  Nat.div_le_div_right (by omega)

theorem floor_nearest (n : Nat) {d : Nat} (hd : 0 < d) :
    ⌊(n : ℚ) / d + 1 / 2⌋ = (nearest n d : Int) := by
  have hpos : (d : ℚ) ≠ 0 := by
    exact_mod_cast hd.ne'
  have hquotient : (n : ℚ) / d + 1 / 2 = ((2 * n + d : Int) : ℚ) / ((2 * d : Nat) : ℚ) := by
    push_cast
    field_simp
  rw [hquotient, Rat.floor_intCast_div_natCast]
  rfl

/-- A place among `V + 1` places, sent over `N` steps and scaled back with `V` steps. -/
def place (N V p : Nat) : Nat :=
  nearest (p * N) (V + 1) * V / N

variable {N V p : Nat}

theorem place_mono {q : Nat} (h : p ≤ q) : place N V p ≤ place N V q := by
  have hsteps : nearest (p * N) (V + 1) ≤ nearest (q * N) (V + 1) :=
    nearest_mono (Nat.mul_le_mul_right N h) (V + 1)
  exact Nat.div_le_div_right (Nat.mul_le_mul_right V hsteps)

/-- A place never moves to the right. -/
theorem place_le (hN : 0 < N) (hV : V + 1 ≤ 2 * N) : place N V p ≤ p := by
  by_contra hlt
  have hback : (p + 1) * N ≤ nearest (p * N) (V + 1) * V :=
    (Nat.le_div_iff_mul_le hN).mp (Nat.not_le.mp hlt)
  have hsent : nearest (p * N) (V + 1) * (2 * (V + 1)) ≤ 2 * (p * N) + (V + 1) :=
    nearest_mul_le (p * N) (V + 1)
  have hboth : (p + 1) * N * (2 * (V + 1)) ≤ (2 * (p * N) + (V + 1)) * V := by
    calc (p + 1) * N * (2 * (V + 1))
        ≤ nearest (p * N) (V + 1) * V * (2 * (V + 1)) := Nat.mul_le_mul_right _ hback
      _ = nearest (p * N) (V + 1) * (2 * (V + 1)) * V := Nat.mul_right_comm _ _ _
      _ ≤ (2 * (p * N) + (V + 1)) * V := Nat.mul_le_mul_right V hsent
  have hscale : (V + 1) * V ≤ 2 * N * V := Nat.mul_le_mul_right V hV
  nlinarith

/-- What is lost on the way is less than `k` places if the second rounding, the shorter
scale and the first rounding together lose less. -/
theorem le_place_add (hN : 0 < N) {k : Nat}
    (hk : 2 * N * p + V * (V + 1) ≤ 2 * N * (k * (V + 1))) : p ≤ place N V p + k := by
  by_contra hlt
  have hback : nearest (p * N) (V + 1) * V < (place N V p + 1) * N := by
    rw [Nat.mul_comm (place N V p + 1) N]
    exact Nat.lt_mul_div_succ _ hN
  have hsent : 2 * (p * N) + (V + 1) < nearest (p * N) (V + 1) * (2 * (V + 1)) + 2 * (V + 1) :=
    lt_nearest_mul (p * N) (Nat.succ_pos V)
  have hbefore : (place N V p + 1) * N ≤ (p - k) * N := by
    apply Nat.mul_le_mul_right
    omega
  have hexact : (p - k) * N + k * N = p * N := by
    rw [← Nat.add_mul]
    congr 1
    omega
  have hboth : nearest (p * N) (V + 1) * V * (2 * (V + 1)) + 2 * (V + 1) ≤
      (p * N - k * N) * (2 * (V + 1)) := by
    calc nearest (p * N) (V + 1) * V * (2 * (V + 1)) + 2 * (V + 1)
        = (nearest (p * N) (V + 1) * V + 1) * (2 * (V + 1)) := by ring
      _ ≤ (p * N - k * N) * (2 * (V + 1)) := by
        apply Nat.mul_le_mul_right
        omega
  have hsteps : (2 * (p * N)) * V ≤
      (nearest (p * N) (V + 1) * (2 * (V + 1)) + (V + 1)) * V := by
    apply Nat.mul_le_mul_right
    omega
  have hsub : p * N - k * N + k * N = p * N := by omega
  nlinarith

end Rescale
end Foundation
end LeoOne
