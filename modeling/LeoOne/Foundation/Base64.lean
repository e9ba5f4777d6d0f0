import Mathlib.Data.List.Basic
import Mathlib.Data.Nat.Notation

/-!
# Base64

The standard alphabet without padding.  A decoder that is not strict drops line ends and
the bits that are left over.
-/

namespace LeoOne
namespace Foundation
namespace Base64

/-- The symbol of six bits. -/
def symbol (n : Nat) : UInt8 :=
  if n < 26 then UInt8.ofNat (n + 65)
  else if n < 52 then UInt8.ofNat (n - 26 + 97)
  else if n < 62 then UInt8.ofNat (n - 52 + 48)
  else if n = 62 then 43
  else 47

/-- The six bits of a symbol. -/
def value (c : UInt8) : Option Nat :=
  if 65 ≤ c.toNat ∧ c.toNat ≤ 90 then some (c.toNat - 65)
  else if 97 ≤ c.toNat ∧ c.toNat ≤ 122 then some (c.toNat - 97 + 26)
  else if 48 ≤ c.toNat ∧ c.toNat ≤ 57 then some (c.toNat - 48 + 52)
  else if c.toNat = 43 then some 62
  else if c.toNat = 47 then some 63
  else none

/-- The bits of the bytes, six at a time; the last of them are filled up with zeros. -/
def sextets : List UInt8 -> List Nat
  | [] => []
  | [a] => [a.toNat / 4, a.toNat % 4 * 16]
  | [a, b] => [a.toNat / 4, a.toNat % 4 * 16 + b.toNat / 16, b.toNat % 16 * 4]
  | a :: b :: c :: rest =>
      a.toNat / 4 :: (a.toNat % 4 * 16 + b.toNat / 16) :: (b.toNat % 16 * 4 + c.toNat / 64) ::
        c.toNat % 64 :: sextets rest

/-- The bytes of the bits; one symbol is no byte. -/
def bytes : List Nat -> Option (List UInt8)
  | [] => some []
  | [_] => none
  | [v, w] => some [UInt8.ofNat (v * 4 + w / 16)]
  | [v, w, x] => some [UInt8.ofNat (v * 4 + w / 16), UInt8.ofNat (w % 16 * 16 + x / 4)]
  | v :: w :: x :: y :: rest =>
      (bytes rest).map fun bs =>
        UInt8.ofNat (v * 4 + w / 16) :: UInt8.ofNat (w % 16 * 16 + x / 4) ::
          UInt8.ofNat (x % 4 * 64 + y) :: bs

def encode (data : List UInt8) : List UInt8 :=
  (sextets data).map symbol

def isLineEnd (c : UInt8) : Bool :=
  c = 10 || c = 13

def decode (text : List UInt8) : Option (List UInt8) :=
  ((text.filter fun c => !isLineEnd c).mapM value).bind bytes

theorem value_symbol : forall n, n < 64 -> value (symbol n) = some n := by
  decide

theorem sextets_lt (data : List UInt8) : forall n, n ∈ sextets data -> n < 64 := by
  induction data using sextets.induct with
  | case1 =>
      intro n hn
      cases hn
  | case2 a =>
      have ha := a.toNat_lt
      simp only [sextets, List.mem_cons, List.not_mem_nil, or_false]
      rintro n (rfl | rfl)
      · omega
      · omega
  | case3 a b =>
      have ha := a.toNat_lt
      have hb := b.toNat_lt
      simp only [sextets, List.mem_cons, List.not_mem_nil, or_false]
      rintro n (rfl | rfl | rfl)
      · omega
      · omega
      · omega
  | case4 a b c rest ih =>
      have ha := a.toNat_lt
      have hb := b.toNat_lt
      have hc := c.toNat_lt
      simp only [sextets, List.mem_cons]
      rintro n (rfl | rfl | rfl | rfl | hn)
      · omega
      · omega
      · omega
      · omega
      · exact ih n hn

theorem ofNat_toNat {a : UInt8} {n : Nat} (h : n = a.toNat) : UInt8.ofNat n = a := by
  rw [h, UInt8.ofNat_toNat]

/-- The bits of bytes are theirs. -/
theorem bytes_sextets (data : List UInt8) : bytes (sextets data) = some data := by
  induction data using sextets.induct with
  | case1 =>
      rfl
  | case2 a =>
      have ha := a.toNat_lt
      rw [sextets, bytes, ofNat_toNat (by omega : _ = a.toNat)]
  | case3 a b =>
      have ha := a.toNat_lt
      have hb := b.toNat_lt
      rw [sextets, bytes, ofNat_toNat (by omega : _ = a.toNat),
        ofNat_toNat (by omega : _ = b.toNat)]
  | case4 a b c rest ih =>
      have ha := a.toNat_lt
      have hb := b.toNat_lt
      have hc := c.toNat_lt
      rw [sextets, bytes, ih, Option.map_some, ofNat_toNat (by omega : _ = a.toNat),
        ofNat_toNat (by omega : _ = b.toNat), ofNat_toNat (by omega : _ = c.toNat)]

/-- A byte that is no symbol does not occur in an encoding. -/
theorem not_mem_encode {c : UInt8} (h : value c = none) (data : List UInt8) :
    c ∉ encode data := by
  intro hc
  rcases List.mem_map.mp hc with ⟨n, hn, rfl⟩
  rw [value_symbol n (sextets_lt data n hn)] at h
  cases h

theorem decode_encode (data : List UInt8) : decode (encode data) = some data := by
  have hkept : (encode data).filter (fun c => !isLineEnd c) = encode data := by
    rw [List.filter_eq_self]
    intro c hc
    cases hend : isLineEnd c with
    | false =>
        rfl
    | true =>
        have hnone : value c = none := by
          simp only [isLineEnd, Bool.or_eq_true, decide_eq_true_eq] at hend
          rcases hend with rfl | rfl
          · decide
          · decide
        exact absurd hc (not_mem_encode hnone data)
  have hvalues : (encode data).mapM value = some (sextets data) := by
    have hall := sextets_lt data
    rw [encode, List.mapM_map]
    generalize sextets data = ns at hall
    induction ns with
    | nil =>
        rfl
    | cons n ns ih =>
        rw [List.forall_mem_cons] at hall
        rw [List.mapM_cons, Function.comp, value_symbol n hall.left, ih hall.right]
        rfl
  rw [decode, hkept, hvalues, Option.bind_some, bytes_sextets]

end Base64
end Foundation
end LeoOne
