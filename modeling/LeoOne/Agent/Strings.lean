import LeoOne.Agent.Body
import LeoOne.Foundation.Settings
import LeoOne.Wire.Numbers

/-!
# C strings on the agent

Text fields of a fixed size, and the functions of the C library with which the agent reads
and writes numbers in a text.
-/

namespace LeoOne
namespace Agent

open Foundation
open Wire

/-!
## Fields of a fixed size
-/

/-- What a `char[size]` holds: a text that ends within it. -/
structure CField (size : Nat) where
  text : List UInt8
  fits : text.length < size
  terminated : 0 ∉ text
  deriving DecidableEq

namespace CField

variable {size : Nat}

theorem ext {a b : CField size} (h : a.text = b.text) : a = b := by
  cases a
  cases b
  cases h
  rfl

def empty [NeZero size] : CField size where
  text := []
  fits := NeZero.pos size
  terminated := List.not_mem_nil

/-- `strncpy` of `size - 1` bytes and a NUL after them. -/
def copy [NeZero size] (val : List UInt8) : CField size where
  text := strncpy (val.takeWhile fun b => b ≠ 0) size
  fits := by
    have hpos := NeZero.pos size
    have htake := List.length_take_le (size - 1) (val.takeWhile fun b => b ≠ 0)
    rw [strncpy]
    omega
  terminated := by
    intro hmem
    have hnul := List.mem_takeWhile_imp (List.mem_of_mem_take hmem)
    exact absurd rfl (of_decide_eq_true hnul)

theorem copy_text [NeZero size] (field : CField size) : copy field.text = field := by
  apply ext
  have hwhole : (field.text.takeWhile fun b => b ≠ 0) = field.text := by
    apply List.takeWhile_eq_self_iff.mpr
    intro b hb
    apply decide_eq_true
    intro h
    exact field.terminated (h ▸ hb)
  show strncpy (field.text.takeWhile fun b => b ≠ 0) size = field.text
  rw [hwhole]
  exact List.take_of_length_le (Nat.le_sub_one_of_lt field.fits)

end CField

/-!
## Numbers in a text
-/

/-- The characters that `isspace` accepts in the C locale. -/
def isSpace (b : UInt8) : Bool :=
  b = 32 || (9 ≤ b && b ≤ 13)

/-- `strtol` to the base 10, with a `long` of 64 bits: white space, a sign and the digits up
to something else. -/
def strtol (s : List UInt8) : Int :=
  let digits (t : List UInt8) : Int := decimalValue (t.takeWhile isDigit)
  let n :=
    match s.dropWhile isSpace with
    | 45 :: t => -digits t
    | 43 :: t => digits t
    | t => digits t
  max (-2 ^ 63) (min n (2 ^ 63 - 1))

/-- `atoi`, which is `(int) strtol`. -/
def atoi (s : List UInt8) : Int :=
  (Int32.ofInt (strtol s)).toInt

/-- `%d` -/
def printInt (n : Int32) : List UInt8 :=
  if n.toInt < 0 then 45 :: decimal n.toInt.natAbs else decimal n.toInt.natAbs

theorem isSpace_of_isDigit {b : UInt8} (h : isDigit b = true) : isSpace b = false := by
  rw [isDigit, Bool.and_eq_true, decide_eq_true_eq, decide_eq_true_eq] at h
  rw [isSpace, Bool.or_eq_false_iff, Bool.and_eq_false_iff, decide_eq_false_iff_not,
    decide_eq_false_iff_not, decide_eq_false_iff_not]
  constructor
  · rintro rfl
    exact absurd h.left (by decide)
  · right
    intro hle
    have hnat : b.toNat ≤ 13 := hle
    omega

theorem isDigit_ne_sign {b : UInt8} (h : isDigit b = true) : b ≠ 45 ∧ b ≠ 43 := by
  constructor <;>
    · rintro rfl
      cases h

/-- White space in front does not count. -/
theorem strtol_space {b : UInt8} (h : isSpace b = true) (t : List UInt8) :
    strtol (b :: t) = strtol t := by
  rw [strtol, strtol, List.dropWhile_cons_of_pos h]

/-- Without white space and without a sign the digits are at the start. -/
theorem strtol_plain {b : UInt8} (hspace : isSpace b = false) (hminus : b ≠ 45)
    (hplus : b ≠ 43) (t : List UInt8) :
    strtol (b :: t) =
      max (-2 ^ 63) (min ((decimalValue ((b :: t).takeWhile isDigit) : Nat) : Int)
        (2 ^ 63 - 1)) := by
  have hstay : (b :: t).dropWhile isSpace = b :: t :=
    List.dropWhile_cons_of_neg (by rw [hspace]; exact Bool.false_ne_true)
  rw [strtol, hstay]
  split
  · rename_i heq
    exact absurd (List.cons.inj heq).left hminus
  · rename_i heq
    exact absurd (List.cons.inj heq).left hplus
  · rfl

theorem takeWhile_digits {t : List UInt8} (h : t.all isDigit = true) :
    t.takeWhile isDigit = t :=
  List.takeWhile_eq_self_iff.mpr (List.all_eq_true.mp h)

/-- The number of a text of digits. -/
theorem strtol_digits {t : List UInt8} (h : t.all isDigit = true)
    (hvalue : decimalValue t < 2 ^ 63) : strtol t = decimalValue t := by
  cases t with
  | nil =>
      rfl
  | cons b t =>
      have hb : isDigit b = true := List.all_eq_true.mp h b List.mem_cons_self
      rcases isDigit_ne_sign hb with ⟨hminus, hplus⟩
      rw [strtol_plain (isSpace_of_isDigit hb) hminus hplus, takeWhile_digits h]
      omega

theorem atoi_digits {t : List UInt8} (h : t.all isDigit = true)
    (hvalue : decimalValue t < 2 ^ 31) : atoi t = decimalValue t := by
  rw [atoi, strtol_digits h (by omega)]
  exact Int32.toInt_ofInt_of_le (by omega) (by omega)

theorem atoi_printInt (n : Int32) : atoi (printInt n) = n.toInt := by
  have hlo := n.le_toInt
  have hhi := n.toInt_lt
  have hread : strtol (printInt n) = n.toInt := by
    rw [printInt]
    split
    · rename_i hneg
      have hminus : (45 :: decimal n.toInt.natAbs : List UInt8).dropWhile isSpace =
          45 :: decimal n.toInt.natAbs :=
        List.dropWhile_cons_of_neg (by decide)
      rw [strtol, hminus]
      have habs : (n.toInt.natAbs : Int) = -n.toInt := Int.ofNat_natAbs_of_nonpos (by omega)
      simp only [takeWhile_digits (all_decimal n.toInt.natAbs), decimalValue_decimal, habs,
        Int.neg_neg]
      omega
    · rw [strtol_digits (all_decimal _) (by rw [decimalValue_decimal]; omega),
        decimalValue_decimal]
      omega
  rw [atoi, hread, Int32.ofInt_toInt]

end Agent
end LeoOne
