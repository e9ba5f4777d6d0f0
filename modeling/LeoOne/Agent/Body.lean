import Mathlib.Data.List.TakeWhile
import LeoOne.Agent.Protocol
import LeoOne.Wire.Runes
import LeoOne.Foundation.Uuid

/-!
# Bodies of messages on the agent

The accessors with which `agent.c` reads the members of a message body.  Strings
are C strings: a value with a NUL in it ends there.
-/

namespace LeoOne
namespace Agent

open Foundation
open Wire

/-- The `valuestring` of a member, if it is a string. -/
def stringItem (body : Json) (key : String) : Option (List UInt8) :=
  match body.getObjectItem key with
  | some (Json.str s) => some (cString s)
  | _ => none

/-- The `valuedouble` of a member, if it is a number. -/
def numberItem (body : Json) (key : String) : Option Decimal :=
  match body.getObjectItem key with
  | some (Json.num n) => some n
  | _ => none

/-- The comparison `v < n`. -/
def isBelow (v : Decimal) (n : Int) : Bool :=
  v.mantissa < n * 10 ^ v.exponent

/-- The comparison `v > n`. -/
def isAbove (v : Decimal) (n : Int) : Bool :=
  n * 10 ^ v.exponent < v.mantissa

/-- `_json_number_clamped`; a JSON text denotes no NaN. -/
def jsonNumberClamped (v : Decimal) (lo hi : Int) : Int :=
  if isBelow v lo then lo else if isAbove v hi then hi else v.toInt

/-- `strncpy` into a buffer of `size` bytes that is zero at its end. -/
def strncpy (s : List UInt8) (size : Nat) : List UInt8 :=
  s.take (size - 1)

theorem utf8_plain {cs : List Char} (h : cs.all UuidText.isPlain = true) :
    (cs.flatMap String.utf8EncodeChar).length = cs.length ∧
      forall b, b ∈ cs.flatMap String.utf8EncodeChar -> b ≠ 0 := by
  induction cs with
  | nil =>
      exact ⟨rfl, nofun⟩
  | cons c cs ih =>
      rw [List.all_cons, Bool.and_eq_true] at h
      have hplain := h.left
      rw [UuidText.isPlain, Bool.and_eq_true, decide_eq_true_eq, decide_eq_true_eq] at hplain
      rcases utf8EncodeChar_ascii hplain.left hplain.right with ⟨b, hb, hne, _⟩
      rcases ih h.right with ⟨hlength, hbytes⟩
      rw [List.flatMap_cons, hb]
      refine ⟨congrArg (· + 1) hlength, ?_⟩
      intro b' hb'
      rcases List.mem_cons.mp hb' with rfl | hmem
      · exact hne
      · exact hbytes b' hmem

/-- The id field of a message holds a UUID whole. -/
theorem cString_uuid (u : Uuid) :
    (cString u.text).take (uuidStrLen - 1) = utf8 u.text := by
  rcases UuidText.normalize_some u.canonical with ⟨hlength, hplain⟩
  rcases utf8_plain hplain with ⟨hsize, hbytes⟩
  have hwhole : cString u.text = utf8 u.text := by
    apply List.takeWhile_eq_self_iff.mpr
    intro b hb
    exact decide_eq_true (hbytes b hb)
  rw [hwhole]
  apply List.take_of_length_le
  show (u.text.toList.flatMap String.utf8EncodeChar).length ≤ 36
  rw [hsize, hlength]

end Agent
end LeoOne
