import LeoOne.Wire.Envelope

/-!
# Payloads

What `json.Marshal` makes of the maps that the handlers build: a text, with the
value that it denotes.  The fields of an object are given in the order in which
`json.Marshal` writes them, that of their names.
-/

namespace LeoOne
namespace Wire
namespace RawMessage

/-- A comma between two texts. -/
def commas : List (List UInt8) -> List UInt8
  | [] => []
  | [t] => t
  | t :: ts => t ++ utf8 "," ++ commas ts

def ofString (s : String) : RawMessage where
  text := quote s
  value := Json.str s

def ofInt (n : Int) : RawMessage where
  text := utf8 (toString n)
  value := Json.num { mantissa := n, exponent := 0 }

def ofBool (b : Bool) : RawMessage where
  text := utf8 (if b then "true" else "false")
  value := Json.bool b

def ofStrings (items : List String) : RawMessage where
  text := utf8 "[" ++ commas (items.map quote) ++ utf8 "]"
  value := Json.arr (items.map Json.str)

def ofFields (fields : List (String × RawMessage)) : RawMessage where
  text := utf8 "\x7b" ++
    commas (fields.map fun f => quote f.1 ++ utf8 ":" ++ f.2.text) ++ utf8 "\x7d"
  value := Json.obj (fields.map fun f => (f.1, f.2.value))

/-- The text `{}`, which stands for an absent payload. -/
def empty : RawMessage :=
  ofFields []

end RawMessage
end Wire
end LeoOne
