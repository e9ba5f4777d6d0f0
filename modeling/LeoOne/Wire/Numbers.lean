import Mathlib.Algebra.Group.Int.Defs
import Mathlib.Algebra.GroupWithZero.Nat
import Mathlib.Data.List.DropRight
import LeoOne.Wire.Json

/-!
# Numbers as text

The agent writes numbers with `print_number` of cJSON: a value that is an `int` with
`%d`, another one with `%1.15g` if that reads back as nearly the same value, and else
with `%1.17g`.  The backend reads the fields of integer types with `strconv`, which takes
digits only.  The numbers here are integers: a C integer below 2^53 is a `double`
exactly, and so is what `%1.15g` prints for it.
-/

namespace LeoOne
namespace Wire

/-!
## Decimal digits
-/

/-- The decimal digits of a number (`%d`). -/
def decimal (n : Nat) : List UInt8 :=
  (Nat.toDigits 10 n).map fun c => UInt8.ofNat c.toNat

def isDigit (b : UInt8) : Bool :=
  48 ≤ b.toNat && b.toNat ≤ 57

/-- The number that the digits denote. -/
def decimalValue (text : List UInt8) : Nat :=
  text.foldl (fun n b => 10 * n + (b.toNat - 48)) 0

theorem toNat_digit {c : Char} (h : c.isDigit = true) :
    (UInt8.ofNat c.toNat).toNat = c.toNat ∧ 48 ≤ c.toNat ∧ c.toNat ≤ 57 := by
  rw [Char.isDigit, Bool.and_eq_true, decide_eq_true_eq, decide_eq_true_eq] at h
  have hlo : 48 ≤ c.toNat := UInt32.le_iff_toNat_le.mp h.left
  have hhi : c.toNat ≤ 57 := UInt32.le_iff_toNat_le.mp h.right
  refine ⟨?_, hlo, hhi⟩
  rw [UInt8.toNat_ofNat', Nat.mod_eq_of_lt (by omega)]

theorem decimal_ne_nil (n : Nat) : decimal n ≠ [] := by
  rw [decimal, Ne, List.map_eq_nil_iff]
  exact Nat.toDigits_ne_nil

theorem isDigit_of_mem_decimal {n : Nat} {b : UInt8} (h : b ∈ decimal n) :
    isDigit b = true := by
  rcases List.mem_map.mp h with ⟨c, hc, rfl⟩
  have hdigit := Nat.isDigit_of_mem_toDigits (by decide) (by decide) hc
  rcases toNat_digit hdigit with ⟨hnat, hlo, hhi⟩
  rw [isDigit, hnat, Bool.and_eq_true, decide_eq_true_eq, decide_eq_true_eq]
  exact ⟨hlo, hhi⟩

theorem all_decimal (n : Nat) : (decimal n).all isDigit = true := by
  apply List.all_eq_true.mpr
  intro b hb
  exact isDigit_of_mem_decimal hb

theorem decimalValue_decimal (n : Nat) : decimalValue (decimal n) = n := by
  have hfold : forall (cs : List Char) (k : Nat), (forall c, c ∈ cs -> c.isDigit = true) ->
      (cs.map fun c => UInt8.ofNat c.toNat).foldl (fun n b => 10 * n + (b.toNat - 48)) k =
        Nat.ofDigitChars 10 cs k := by
    intro cs
    induction cs with
    | nil =>
        intro k _
        rfl
    | cons c cs ih =>
        intro k h
        have hc := toNat_digit (h c List.mem_cons_self)
        rw [List.map_cons, List.foldl_cons, hc.left, Nat.ofDigitChars_cons]
        exact ih _ fun c' hc' => h c' (List.mem_cons_of_mem c hc')
  have hdigits : forall c, c ∈ Nat.toDigits 10 n -> c.isDigit = true := by
    intro c hc
    exact Nat.isDigit_of_mem_toDigits (by decide) (by decide) hc
  rw [decimalValue, decimal, hfold _ 0 hdigits]
  exact Nat.ofDigitChars_toDigits (by decide) (by decide)

theorem length_decimal_le_iff {n k : Nat} (h : 0 < k) :
    (decimal n).length ≤ k <-> n < 10 ^ k := by
  rw [decimal, List.length_map]
  exact Nat.length_toDigits_le_iff (by decide) h

/-- A positive number is written without leading zeros. -/
theorem head_decimal {n : Nat} (h : 0 < n) : (decimal n).head? ≠ some 48 := by
  induction n using Nat.strong_induction_on with
  | _ n ih =>
      by_cases hlt : n < 10
      · rw [decimal, Nat.toDigits_of_lt_base hlt]
        have hcases : forall d : Fin 10, 0 < d.val ->
            ([d.val.digitChar].map fun c => UInt8.ofNat c.toNat).head? ≠ some 48 := by
          decide
        exact hcases ⟨n, hlt⟩ h
      · rw [decimal, Nat.toDigits_of_base_le (by decide) (by omega), List.map_append]
        have hquot := ih (n / 10) (by omega) (by omega)
        have hne := decimal_ne_nil (n / 10)
        rw [decimal] at hquot hne
        rw [List.head?_append_of_ne_nil _ hne]
        exact hquot

/-!
## `print_number`
-/

/-- The quotient rounded to the nearest integer, ties to even. -/
def roundHalfEven (n d : Nat) : Nat :=
  if 2 * (n % d) < d then n / d
  else if d < 2 * (n % d) then n / d + 1
  else if (n / d) % 2 = 0 then n / d
  else n / d + 1

/-- The nearest double, ties to even. -/
def toDouble (n : Nat) : Nat :=
  let unit := 2 ^ (n.log2 - 52)
  roundHalfEven n unit * unit

/-- The integer part of the double nearest to `m / d`, ties to even. -/
def doubleFloor (m d : Nat) : Nat :=
  let q := m / d
  if 2 ^ 52 ≤ q then
    let unit := 2 ^ (q.log2 - 52)
    roundHalfEven m (d * unit) * unit
  else
    -- the doubles around the quotient are multiples of `1 / scale`
    let scale := 2 ^ (if q = 0 then 53 else 52 - q.log2)
    roundHalfEven (m * scale) d / scale

/-- `m.mmme+xx` without trailing zeros, for the digits of the significand.  The exponent
is at least the precision and so has two digits. -/
def exponentText (digits : List UInt8) (exponent : Nat) : List UInt8 :=
  match digits with
  | [] => []
  | d :: ds =>
      let fraction := ds.rdropWhile fun b => b = 48
      [d] ++ (if fraction = [] then [] else 46 :: fraction) ++ [101, 43] ++
        decimal exponent

/-- `%1.Pg` of a natural number: all digits if there are at most `precision`, else the
exponent form of the rounded number. -/
def formatG (precision n : Nat) : List UInt8 :=
  let length := (decimal n).length
  if length ≤ precision then decimal n
  else
    let m := roundHalfEven n (10 ^ (length - precision))
    if m = 10 ^ precision then exponentText (decimal m) length
    else exponentText (decimal m) (length - 1)

/-- What `sscanf` reads from that text. -/
def rereadG (precision n : Nat) : Nat :=
  let length := (decimal n).length
  if length ≤ precision then n
  else toDouble (roundHalfEven n (10 ^ (length - precision)) * 10 ^ (length - precision))

/-- `compare_double`: a relative difference of at most `DBL_EPSILON`, which is 2^-52. -/
def compareDouble (a b : Nat) : Bool :=
  (max a b - min a b) * 2 ^ 52 ≤ max a b

/-- The text of a number that is no `int`. -/
def printDouble (n : Nat) : List UInt8 :=
  if compareDouble (rereadG 15 n) n then formatG 15 n else formatG 17 n

/-- The range of a C `int`. -/
def fitsInt (v : Int) : Bool :=
  -2147483648 ≤ v && v ≤ 2147483647

/-- `print_number` for an integer. -/
def printNumber (v : Int) : List UInt8 :=
  (if v < 0 then [45] else []) ++
    if fitsInt v then decimal v.natAbs else printDouble v.natAbs

/-!
## Reading integers
-/

/-- `strconv.ParseUint(text, 10, bits)`. -/
def parseUint (bits : Nat) (text : List UInt8) : Option Nat :=
  if text ≠ [] ∧ text.all isDigit ∧ decimalValue text < 2 ^ bits then
    some (decimalValue text)
  else none

/-- `strconv.ParseInt(text, 10, 64)`. -/
def parseInt (text : List UInt8) : Option Int :=
  match text with
  | 45 :: digits =>
      if digits ≠ [] ∧ digits.all isDigit ∧ decimalValue digits ≤ 2 ^ 63 then
        some (-(decimalValue digits : Int))
      else none
  | _ => (parseUint 63 text).map Int.ofNat

theorem parseUint_decimal {bits n : Nat} (h : n < 2 ^ bits) :
    parseUint bits (decimal n) = some n := by
  rw [parseUint, decimalValue_decimal]
  exact if_pos ⟨decimal_ne_nil n, all_decimal n, h⟩

theorem parseUint_of_not_digit {bits : Nat} {text : List UInt8} {b : UInt8}
    (hmem : b ∈ text) (hb : isDigit b = false) : parseUint bits text = none := by
  rw [parseUint, if_neg]
  rintro ⟨_, hall, _⟩
  rw [List.all_eq_true.mp hall b hmem] at hb
  cases hb

/-!
## Which integers come back
-/

/-- The numbers that are written with an exponent: from 10^15 on the multiples of ten,
and from 2^52 on also their neighbours. -/
def writtenWithExponent (n : Nat) : Bool :=
  10 ^ 15 ≤ n && (n % 10 = 0 || (2 ^ 52 ≤ n && (n % 10 = 1 || n % 10 = 9)))

theorem formatG_of_lt {precision n : Nat} (hpos : 0 < precision) (h : n < 10 ^ precision) :
    formatG precision n = decimal n := by
  rw [formatG]
  exact if_pos ((length_decimal_le_iff hpos).mpr h)

theorem toDouble_exact {n : Nat} (h : n < 2 ^ 53) : toDouble n = n := by
  by_cases hzero : n = 0
  · rw [hzero]
    rfl
  · have hlog : n.log2 < 53 := (Nat.log2_lt hzero).mpr h
    have hunit : n.log2 - 52 = 0 := by omega
    rw [toDouble, hunit]
    simp [roundHalfEven, Nat.mod_one]

theorem roundHalfEven_mul (n d : Nat) {k : Nat} (hk : 0 < k) :
    roundHalfEven (k * n) (k * d) = roundHalfEven n d := by
  have hbelow : 2 * (k * (n % d)) < k * d <-> 2 * (n % d) < d := by
    rw [Nat.mul_left_comm]
    exact Nat.mul_lt_mul_left hk
  have habove : k * d < 2 * (k * (n % d)) <-> d < 2 * (n % d) := by
    rw [Nat.mul_left_comm]
    exact Nat.mul_lt_mul_left hk
  unfold roundHalfEven
  rw [Nat.mul_mod_mul_left, Nat.mul_div_mul_left _ _ hk]
  simp only [hbelow, habove]

/-- An integer is rounded as such. -/
theorem doubleFloor_mul (n : Nat) {d : Nat} (hd : 0 < d) :
    doubleFloor (n * d) d = toDouble n := by
  unfold doubleFloor
  rw [Nat.mul_div_cancel n hd]
  by_cases hlarge : 2 ^ 52 ≤ n
  · simp only [if_pos hlarge]
    rw [Nat.mul_comm n d, roundHalfEven_mul n _ hd]
    rfl
  · simp only [if_neg hlarge]
    generalize hscale : 2 ^ (if n = 0 then 53 else 52 - n.log2) = scale
    have hpos : 0 < scale := hscale ▸ Nat.two_pow_pos _
    have hround : roundHalfEven (n * d * scale) d = n * scale := by
      rw [Nat.mul_right_comm, Nat.mul_comm (n * scale) d]
      unfold roundHalfEven
      rw [Nat.mul_mod_right, if_pos hd, Nat.mul_div_cancel_left _ hd]
    rw [hround, Nat.mul_div_cancel n hpos, toDouble_exact (by omega)]

theorem length_decimal_sixteen {n : Nat} (hlo : 10 ^ 15 ≤ n) (hhi : n < 10 ^ 16) :
    (decimal n).length = 16 := by
  have hle := (length_decimal_le_iff (by decide)).mpr hhi
  have hnot : ¬ (decimal n).length ≤ 15 := by
    rw [length_decimal_le_iff (by decide)]
    omega
  omega

/-- The text with an exponent reads back as nearly the same number exactly for these. -/
theorem compareDouble_reread {n : Nat} (hlo : 10 ^ 15 ≤ n) (hhi : n < 2 ^ 53) :
    compareDouble (rereadG 15 n) n = writtenWithExponent n := by
  have hlength := length_decimal_sixteen hlo (by omega)
  have hround : roundHalfEven n 10 * 10 < 2 ^ 53 := by
    rw [roundHalfEven]
    split_ifs <;> omega
  have hreread : rereadG 15 n = roundHalfEven n 10 * 10 := by
    rw [rereadG, hlength]
    exact toDouble_exact hround
  rw [hreread, Bool.eq_iff_iff, compareDouble, writtenWithExponent, roundHalfEven]
  simp only [Bool.and_eq_true, Bool.or_eq_true, decide_eq_true_eq]
  split
  · omega
  · split
    · omega
    · split <;> omega

theorem printDouble_small {n : Nat} (h : n < 10 ^ 15) : printDouble n = decimal n := by
  have hlength : (decimal n).length ≤ 15 := (length_decimal_le_iff (by decide)).mpr h
  have hreread : rereadG 15 n = n := by
    rw [rereadG]
    exact if_pos hlength
  have hequal : compareDouble n n = true := by
    simp [compareDouble]
  rw [printDouble, hreread, if_pos hequal, formatG_of_lt (by decide) h]

theorem mem_exponentText {digits : List UInt8} (h : digits ≠ []) (exponent : Nat) :
    101 ∈ exponentText digits exponent := by
  cases digits with
  | nil =>
      exact absurd rfl h
  | cons d ds =>
      simp [exponentText]

theorem not_writtenWithExponent {n : Nat} (h : n < 10 ^ 15) :
    writtenWithExponent n = false := by
  have hlo : ¬ 10 ^ 15 ≤ n := by omega
  rw [writtenWithExponent, decide_eq_false hlo]
  rfl

/-- A number below 2^53 that is no `int` comes back, or is refused. -/
theorem parseUint_printDouble {bits n : Nat} (hbits : 53 ≤ bits) (h : n < 2 ^ 53) :
    parseUint bits (printDouble n) = if writtenWithExponent n then none else some n := by
  have hrange : n < 2 ^ bits := Nat.lt_of_lt_of_le h (Nat.pow_le_pow_right (by decide) hbits)
  by_cases hlo : 10 ^ 15 ≤ n
  · rw [printDouble, compareDouble_reread hlo h]
    split
    · have hlength := length_decimal_sixteen hlo (by omega)
      apply parseUint_of_not_digit (b := 101) ?_ (by decide)
      rw [formatG, hlength]
      simp only [Nat.reduceLeDiff, if_false]
      split <;> exact mem_exponentText (decimal_ne_nil _) _
    · rw [formatG_of_lt (by decide) (by omega)]
      exact parseUint_decimal hrange
  · rw [printDouble_small (by omega), not_writtenWithExponent (by omega)]
    exact parseUint_decimal hrange

theorem fitsInt_natCast (n : Nat) : fitsInt n = decide (n ≤ 2147483647) := by
  rw [Bool.eq_iff_iff, fitsInt, Bool.and_eq_true, decide_eq_true_eq, decide_eq_true_eq,
    decide_eq_true_eq]
  omega

theorem printNumber_natCast (n : Nat) :
    printNumber n = if n ≤ 2147483647 then decimal n else printDouble n := by
  have hsign : ¬ (n : Int) < 0 := by omega
  rw [printNumber, if_neg hsign, List.nil_append, fitsInt_natCast, Int.natAbs_natCast]
  simp only [decide_eq_true_eq]

theorem printNumber_small {n : Nat} (h : n < 10 ^ 15) : printNumber n = decimal n := by
  rw [printNumber_natCast]
  split
  · rfl
  · exact printDouble_small h

/-- An integer below 2^53 comes back from an unsigned field, or is refused. -/
theorem parseUint_printNumber {bits n : Nat} (hbits : 53 ≤ bits) (h : n < 2 ^ 53) :
    parseUint bits (printNumber n) = if writtenWithExponent n then none else some n := by
  by_cases hsmall : n < 10 ^ 15
  · have hrange : n < 2 ^ bits :=
      Nat.lt_of_lt_of_le h (Nat.pow_le_pow_right (by decide) hbits)
    rw [printNumber_small hsmall, not_writtenWithExponent hsmall]
    exact parseUint_decimal hrange
  · rw [printNumber_natCast, if_neg (by omega)]
    exact parseUint_printDouble hbits h

/-!
## Number literals
-/

def isExponent : List UInt8 -> Bool
  | [] => true
  | b :: 43 :: digits => (b = 101 || b = 69) && digits ≠ [] && digits.all isDigit
  | b :: 45 :: digits => (b = 101 || b = 69) && digits ≠ [] && digits.all isDigit
  | b :: digits => (b = 101 || b = 69) && digits ≠ [] && digits.all isDigit

def isFraction : List UInt8 -> Bool
  | 46 :: rest => rest.takeWhile isDigit ≠ [] && isExponent (rest.dropWhile isDigit)
  | rest => isExponent rest

def isUnsigned (text : List UInt8) : Bool :=
  (text.takeWhile isDigit = [48] ||
    (text.takeWhile isDigit ≠ [] && text.head? ≠ some 48)) &&
    isFraction (text.dropWhile isDigit)

/-- The number literals of JSON. -/
def isNumber : List UInt8 -> Bool
  | 45 :: text => isUnsigned text
  | text => isUnsigned text

/-- The longest part of a text whose bytes satisfy a test. -/
theorem takeWhile_of_all {p : UInt8 -> Bool} (bs rest : List UInt8) (h : bs.all p = true)
    (hrest : forall b, rest.head? = some b -> p b = false) :
    (bs ++ rest).takeWhile p = bs ∧ (bs ++ rest).dropWhile p = rest := by
  have hall : forall b, b ∈ bs -> p b = true := List.all_eq_true.mp h
  rw [List.takeWhile_append_of_pos hall, List.dropWhile_append_of_pos hall]
  cases rest with
  | nil =>
      exact ⟨List.append_nil bs, rfl⟩
  | cons b rest =>
      have hb := hrest b rfl
      rw [List.takeWhile_cons_of_neg (by simp [hb]), List.dropWhile_cons_of_neg (by simp [hb])]
      exact ⟨List.append_nil bs, rfl⟩

theorem isUnsigned_decimal (n : Nat) : isUnsigned (decimal n) = true := by
  have hspan := takeWhile_of_all _ [] (all_decimal n) nofun
  rw [List.append_nil] at hspan
  rw [isUnsigned, hspan.left, hspan.right]
  rcases Nat.eq_zero_or_pos n with rfl | hpos
  · rfl
  · have hhead := head_decimal hpos
    have hne := decimal_ne_nil n
    simp [hhead, hne, isFraction, isExponent]

/-- The exponent form of a positive number is a literal. -/
theorem isUnsigned_exponentText {m : Nat} (hpos : 0 < m) (exponent : Nat) :
    isUnsigned (exponentText (decimal m) exponent) = true := by
  have hhead := head_decimal hpos
  have hall := all_decimal m
  cases hdigits : decimal m with
  | nil =>
      exact absurd hdigits (decimal_ne_nil m)
  | cons d ds =>
      rw [hdigits, List.head?_cons] at hhead
      rw [hdigits, List.all_cons, Bool.and_eq_true] at hall
      have hd : d ≠ 48 := fun heq => hhead (congrArg some heq)
      have hexponent : isExponent (101 :: 43 :: decimal exponent) = true := by
        simp [isExponent, decimal_ne_nil, all_decimal]
      have hfraction : (ds.rdropWhile fun b => b = 48).all isDigit = true := by
        apply List.all_eq_true.mpr
        intro b hb
        exact List.all_eq_true.mp hall.right b
          ((List.rdropWhile_prefix _ _).subset hb)
      simp only [exponentText]
      split
      · have hspan := takeWhile_of_all (p := isDigit) [d] (101 :: 43 :: decimal exponent)
          (by simp [hall.left]) (by simp [isDigit])
        simp only [List.append_nil, List.cons_append, List.nil_append]
        rw [List.singleton_append] at hspan
        rw [isUnsigned, hspan.left, hspan.right]
        simp [hd, isFraction, hexponent]
      · rename_i hne
        have hspan := takeWhile_of_all (p := isDigit) [d]
          (46 :: ((ds.rdropWhile fun b => b = 48) ++ 101 :: 43 :: decimal exponent))
          (by simp [hall.left]) (by simp [isDigit])
        have hspan' := takeWhile_of_all _ (101 :: 43 :: decimal exponent) hfraction
          (by simp [isDigit])
        simp only [List.append_assoc, List.cons_append, List.nil_append]
        rw [List.singleton_append] at hspan
        rw [isUnsigned, hspan.left, hspan.right]
        simp [hd, isFraction, hspan'.left, hspan'.right, hexponent, hne]

theorem roundHalfEven_pos {n d : Nat} (hd : 0 < d) (h : d ≤ n) : 0 < roundHalfEven n d := by
  have hquot : 0 < n / d := Nat.div_pos h hd
  rw [roundHalfEven]
  split
  · exact hquot
  · split
    · exact Nat.succ_pos _
    · split
      · exact hquot
      · exact Nat.succ_pos _

theorem isUnsigned_formatG {precision : Nat} (hpos : 0 < precision) (n : Nat) :
    isUnsigned (formatG precision n) = true := by
  rw [formatG]
  simp only
  split
  · exact isUnsigned_decimal n
  · rename_i hlong
    -- the number has more digits than are dropped
    have hle : 10 ^ ((decimal n).length - precision) ≤ n := by
      apply Nat.le_of_not_lt
      intro hlt
      have hshort := (length_decimal_le_iff (by omega)).mpr hlt
      omega
    have hm := roundHalfEven_pos (Nat.pow_pos (by decide)) hle
    split <;> exact isUnsigned_exponentText hm _

theorem isUnsigned_printDouble (n : Nat) : isUnsigned (printDouble n) = true := by
  rw [printDouble]
  split <;> exact isUnsigned_formatG (by decide) n

/-- An unsigned literal begins with a digit. -/
theorem isDigit_head {text : List UInt8} (h : isUnsigned text = true) {b : UInt8}
    (hb : text.head? = some b) : isDigit b = true := by
  cases text with
  | nil =>
      cases hb
  | cons b' rest =>
      cases hb
      cases hdigit : isDigit b with
      | true =>
          rfl
      | false =>
          rw [isUnsigned, List.takeWhile_cons_of_neg (by simp [hdigit])] at h
          simp at h

theorem isNumber_of_isUnsigned {text : List UInt8} (h : isUnsigned text = true) :
    isNumber text = true := by
  unfold isNumber
  split
  · have hminus := isDigit_head h rfl
    exact absurd hminus (by decide)
  · exact h

/-- `print_number` writes number literals. -/
theorem isNumber_printNumber (v : Int) : isNumber (printNumber v) = true := by
  have hunsigned : isUnsigned
      (if fitsInt v then decimal v.natAbs else printDouble v.natAbs) = true := by
    split
    · exact isUnsigned_decimal _
    · exact isUnsigned_printDouble _
  rw [printNumber]
  split
  · exact hunsigned
  · exact isNumber_of_isUnsigned hunsigned

/-!
## Signed fields
-/

theorem parseInt_of_isUnsigned {text : List UInt8} (h : isUnsigned text = true) :
    parseInt text = (parseUint 63 text).map Int.ofNat := by
  unfold parseInt
  split
  · have hminus := isDigit_head h rfl
    exact absurd hminus (by decide)
  · rfl

/-- An integer below 2^53 comes back from a signed field, or is refused. -/
theorem parseInt_printNumber {n : Nat} (h : n < 2 ^ 53) :
    parseInt (printNumber n) =
      if writtenWithExponent n then none else some (n : Int) := by
  have hunsigned : isUnsigned (printNumber n) = true := by
    rw [printNumber_natCast]
    split
    · exact isUnsigned_decimal n
    · exact isUnsigned_printDouble n
  rw [parseInt_of_isUnsigned hunsigned, parseUint_printNumber (by decide) h]
  split <;> rfl

/-- An `int` always comes back. -/
theorem parseInt_printNumber_int {v : Int} (h : fitsInt v = true) :
    parseInt (printNumber v) = some v := by
  have hrange := h
  rw [fitsInt, Bool.and_eq_true, decide_eq_true_eq, decide_eq_true_eq] at hrange
  rw [printNumber, if_pos h]
  split
  · have hvalue : -(v.natAbs : Int) = v := by omega
    rw [List.singleton_append]
    simp only [parseInt]
    rw [decimalValue_decimal, if_pos ⟨decimal_ne_nil _, all_decimal _, by omega⟩, hvalue]
  · have hvalue : (v.natAbs : Int) = v := by omega
    rw [List.nil_append, parseInt_of_isUnsigned (isUnsigned_decimal _),
      parseUint_decimal (by omega)]
    exact congrArg some hvalue

end Wire
end LeoOne
