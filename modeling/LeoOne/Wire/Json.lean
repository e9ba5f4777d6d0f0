import Mathlib.Algebra.Group.Int.Defs
import Mathlib.Logic.Basic
import Mathlib.Data.List.Basic

/-!
# JSON values

Both ends of the control channel exchange JSON.  This module has the values and
the accessors the two programs use on them: the lookups of cJSON on the agent
side, and the decoding of string arrays on the backend side.
-/

namespace LeoOne
namespace Wire

/-- A JSON number, `mantissa * 10 ^ (-exponent)`. -/
structure Decimal where
  mantissa : Int
  exponent : Nat
  deriving DecidableEq, Repr

inductive Json where
  | null
  | bool (b : Bool)
  | num (value : Decimal)
  | str (s : String)
  | arr (items : List Json)
  | obj (fields : List (String × Json))
  deriving Repr

/-- The bytes of a string, as both programs hold them. -/
def utf8 (s : String) : List UInt8 :=
  s.toList.flatMap String.utf8EncodeChar

namespace Decimal

def ofNat (n : Nat) : Decimal where
  mantissa := n
  exponent := 0

/-- `(int)item->valuedouble`: the fraction is cut off. -/
def toInt (d : Decimal) : Int :=
  d.mantissa.tdiv (10 ^ d.exponent)

@[simp] theorem toInt_ofNat (n : Nat) : (ofNat n).toInt = n := by
  simp [toInt, ofNat]

end Decimal

namespace Json

/-- `cJSON_GetObjectItemCaseSensitive`: the first member of that name. -/
def getObjectItem (key : String) : Json -> Option Json
  | obj fields => (fields.find? fun f => f.1 = key).map Prod.snd
  | _ => none

/-- `json.Unmarshal` of one array element into a Go string: `null` leaves the
zero value, another kind of value is an error. -/
def asString? : Json -> Option String
  | str s => some s
  | null => some ""
  | _ => none

/-- `json.Unmarshal` into a `[]string`. -/
def asStrings? : Json -> Option (List String)
  | arr items => items.mapM asString?
  | null => some []
  | _ => none

end Json

end Wire
end LeoOne
