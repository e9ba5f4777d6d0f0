import Mathlib.Algebra.Order.BigOperators.Group.List
import Mathlib.Algebra.Order.Ring.Nat
import Mathlib.Algebra.Group.Action.Defs
import LeoOne.Wire.Text

/-!
# Sizes of printed texts

How many bytes cJSON writes for a value, from the bytes of its strings and the digits of
its numbers.
-/

namespace LeoOne
namespace Wire

/-!
## Strings
-/

/-- The bytes that stand for one byte of a string: quotes, backslashes and the common
controls are written with two bytes, the other controls with six. -/
def byteSize (b : UInt8) : Nat :=
  if [34, 92, 8, 9, 10, 12, 13].contains b then 2
  else if b.toNat < 32 then 6
  else 1

/-- The bytes between the quotes of a string. -/
def stringSize (bytes : List UInt8) : Nat :=
  (bytes.map byteSize).sum

@[simp]
theorem stringSize_nil : stringSize [] = 0 := rfl

@[simp]
theorem stringSize_cons (b : UInt8) (bytes : List UInt8) :
    stringSize (b :: bytes) = byteSize b + stringSize bytes := rfl

@[simp]
theorem stringSize_append (bytes bytes' : List UInt8) :
    stringSize (bytes ++ bytes') = stringSize bytes + stringSize bytes' := by
  rw [stringSize, List.map_append, List.sum_append]
  rfl

theorem stringSize_replicate (n : Nat) (b : UInt8) :
    stringSize (List.replicate n b) = n * byteSize b := by
  rw [stringSize, List.map_replicate, List.sum_replicate, smul_eq_mul]

/-- A string takes at most `k` times its length if each byte takes at most `k`. -/
theorem stringSize_le {bytes : List UInt8} {k : Nat}
    (h : forall b, b ∈ bytes -> byteSize b ≤ k) : stringSize bytes ≤ bytes.length * k := by
  have hsum := List.sum_le_card_nsmul (bytes.map byteSize) k (by
    intro n hn
    rcases List.mem_map.mp hn with ⟨b, hb, rfl⟩
    exact h b hb)
  rwa [List.length_map, smul_eq_mul] at hsum

theorem length_escapeByte (b : UInt8) : (escapeByte b).length = byteSize b := by
  unfold escapeByte byteSize
  by_cases hshort : [34, 92, 8, 9, 10, 12, 13].contains b = true
  · rw [if_pos hshort]
    simp only [List.contains_eq_mem, decide_eq_true_eq, List.mem_cons, List.not_mem_nil,
      or_false] at hshort
    rcases hshort with rfl | rfl | rfl | rfl | rfl | rfl | rfl
    all_goals rfl
  · rw [if_neg hshort]
    simp only [List.contains_eq_mem, decide_eq_true_eq, List.mem_cons, List.not_mem_nil,
      or_false, not_or] at hshort
    rcases hshort with ⟨hquote, hslash, hback, htab, hline, hpage, hreturn⟩
    rw [if_neg hquote, if_neg hslash, if_neg hback, if_neg hpage, if_neg hline,
      if_neg hreturn, if_neg htab]
    split
    · rfl
    · rfl

theorem length_escape (bytes : List UInt8) : (escape bytes).length = stringSize bytes := by
  induction bytes with
  | nil =>
      rfl
  | cons b bytes ih =>
      have hcons : escape (b :: bytes) = escapeByte b ++ escape bytes := rfl
      rw [hcons, List.length_append, length_escapeByte, ih, stringSize_cons]

/-!
## Values
-/

/-- The bytes of a number. -/
def numberSize (v : Int) : Nat :=
  (printNumber v).length

namespace Printed

/-- The bytes of a printed value. -/
def size (p : Printed) : Nat :=
  p.text.length

@[simp]
theorem size_number (v : Int) : (Printed.number v).size = numberSize v := rfl

@[simp]
theorem size_string (bytes : List UInt8) :
    (Printed.string bytes).size = stringSize bytes + 2 := by
  show (34 :: escape bytes ++ [34]).length = stringSize bytes + 2
  rw [List.length_append, List.length_cons, length_escape]
  rfl

end Printed

theorem length_itemsText (items : List Printed) :
    (itemsText items).length = (items.map Printed.size).sum + (items.length - 1) := by
  induction items with
  | nil =>
      rfl
  | cons p items ih =>
      cases items with
      | nil =>
          rfl
      | cons p' items =>
          rw [itemsText_cons_cons, List.length_append, List.length_cons, ih]
          simp only [List.map_cons, List.sum_cons, List.length_cons, Printed.size]
          omega

@[simp]
theorem Printed.size_array (items : List Printed) :
    (Printed.array items).size =
      (items.map Printed.size).sum + (items.length - 1) + 2 := by
  show (91 :: itemsText items ++ [93]).length = _
  rw [List.length_append, List.length_cons, length_itemsText]
  rfl

/-- The bytes of a member: its key with two quotes and a colon, and its value. -/
def Member.size (m : Member) : Nat :=
  stringSize (utf8 m.key) + 3 + m.value.size

theorem length_memberText (m : Member) : m.text.length = m.size := by
  rw [Member.text, List.length_append, List.length_cons, List.length_cons, List.length_cons,
    length_escape, Member.size, Printed.size]
  omega

theorem length_membersText (members : List Member) :
    (membersText members).length = (members.map Member.size).sum + (members.length - 1) := by
  induction members with
  | nil =>
      rfl
  | cons m members ih =>
      cases members with
      | nil =>
          rw [membersText_single, length_memberText]
          rfl
      | cons m' members =>
          rw [membersText_cons_cons, List.length_append, List.length_cons, ih,
            length_memberText]
          simp only [List.map_cons, List.sum_cons, List.length_cons]
          omega

@[simp]
theorem Printed.size_object (members : List Member) :
    (Printed.object members).size =
      (members.map Member.size).sum + (members.length - 1) + 2 := by
  show (123 :: membersText members ++ [125]).length = _
  rw [List.length_append, List.length_cons, length_membersText]
  rfl

end Wire
end LeoOne
