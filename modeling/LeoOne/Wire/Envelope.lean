import LeoOne.Wire.Json

/-!
# Outgoing envelopes

Every message the backend sends to an agent is a map with the keys `v`, `type`,
`id`, `ts` and `body`.  `json.Marshal` writes the keys of a map in increasing
order, escapes strings for HTML, and copies a raw message after removing its
insignificant blanks, so that the text of an envelope holds no line feed.
-/

namespace LeoOne
namespace Wire

/-- A compact JSON text (`json.RawMessage`) with the value it denotes. -/
structure RawMessage where
  text : List UInt8
  value : Json

/-- The message types of `leo_agent.h` that the backend sends. -/
inductive MsgType where
  | helloAck
  | execScript
  | installPkg
  | reboot
  | collectInventory
  | ping
  | forceHeartbeat
  | installPatches
  | fileTransfer
  | remoteDesktopStart
  | remoteDesktopStop
  deriving DecidableEq, Repr

/-- The number that stands for the type on the wire. -/
def MsgType.code : MsgType -> Nat
  | helloAck => 100
  | execScript => 101
  | installPkg => 102
  | reboot => 103
  | collectInventory => 104
  | ping => 105
  | forceHeartbeat => 107
  | installPatches => 108
  | fileTransfer => 109
  | remoteDesktopStart => 110
  | remoteDesktopStop => 111

/-- `map[string]any{"v": 1, "type": ..., "id": ..., "ts": ..., "body": ...}`. -/
structure Envelope where
  type : MsgType
  id : String
  ts : Nat
  body : RawMessage

/-!
## Text of an envelope
-/

/-- Four lower-case hexadecimal digits, as in the escape `\u00XX`. -/
def hex4 (n : Nat) : List UInt8 :=
  let digits := (Nat.toDigits 16 n).flatMap String.utf8EncodeChar
  List.replicate (4 - digits.length) 48 ++ digits

/-- One character inside a string literal written by `json.Marshal`. -/
def quoteChar (c : Char) : List UInt8 :=
  if c = '"' then [92, 34]
  else if c = '\\' then [92, 92]
  else if c.toNat = 8 then [92, 98]
  else if c.toNat = 12 then [92, 102]
  else if c.toNat = 10 then [92, 110]
  else if c.toNat = 13 then [92, 114]
  else if c.toNat = 9 then [92, 116]
  else if c.toNat < 32 ∨ c = '<' ∨ c = '>' ∨ c = '&' ∨ c.toNat = 8232 ∨
      c.toNat = 8233 then
    [92, 117] ++ hex4 c.toNat
  else String.utf8EncodeChar c

def quote (s : String) : List UInt8 :=
  [34] ++ s.toList.flatMap quoteChar ++ [34]

namespace Envelope

/-- `json.Marshal` of the envelope. -/
def marshal (m : Envelope) : List UInt8 :=
  utf8 "\x7b\"body\":" ++ m.body.text ++ utf8 ",\"id\":" ++ quote m.id ++
    utf8 ",\"ts\":" ++ utf8 (toString m.ts) ++
    utf8 ",\"type\":" ++ utf8 (toString m.type.code) ++ utf8 ",\"v\":1\x7d"

theorem marshal_ne_nil (m : Envelope) : m.marshal ≠ [] := by
  simp [marshal, quote]

/-- The JSON value that the text of the envelope denotes. -/
def tree (m : Envelope) : Json :=
  Json.obj
    [("body", m.body.value), ("id", Json.str m.id),
      ("ts", Json.num (Decimal.ofNat m.ts)),
      ("type", Json.num (Decimal.ofNat m.type.code)),
      ("v", Json.num (Decimal.ofNat 1))]

@[simp] theorem tree_type (m : Envelope) :
    m.tree.getObjectItem "type" = some (Json.num (Decimal.ofNat m.type.code)) := rfl

@[simp] theorem tree_id (m : Envelope) :
    m.tree.getObjectItem "id" = some (Json.str m.id) := rfl

@[simp] theorem tree_body (m : Envelope) :
    m.tree.getObjectItem "body" = some m.body.value := rfl

end Envelope

end Wire
end LeoOne
