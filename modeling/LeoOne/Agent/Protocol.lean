import LeoOne.Wire.Envelope

/-!
# Incoming messages on the agent

The receive side of `connection.c`, `protocol.c` and `agent.c`: libwebsockets
hands a frame over in chunks of at most `rx_buffer_size` bytes, the callback
copies each chunk into a terminated buffer, `leo_proto_parse` reads one JSON
value from it, and `_on_message` switches on its type.

The JSON parser itself is `cJSON_Parse`; it is a parameter here.
-/

namespace LeoOne
namespace Agent

open Wire

/-- `LEO_MAX_MSG_SIZE`, also the `rx_buffer_size` of the protocol. -/
def maxMsgSize : Nat := 65536

/-- `LEO_UUID_STR_LEN`. -/
def uuidStrLen : Nat := 37

/-- A NUL-terminated copy of a string ends at its first NUL. -/
def cString (s : String) : List UInt8 :=
  (utf8 s).takeWhile fun b => b ≠ 0

/-- `leo_incoming_msg_t`. -/
structure IncomingMsg where
  type : Int
  id : List UInt8
  body : Option Json

/-- `leo_proto_parse`; `none` is `LEO_ERR_PROTOCOL`. -/
def leoProtoParse (cJSONParse : List UInt8 -> Option Json)
    (jsonStr : List UInt8) : Option IncomingMsg :=
  match cJSONParse jsonStr with
  | none => none
  | some root =>
      match root.getObjectItem "type" with
      | some (Json.num n) =>
          some
            { type := n.toInt
              -- strncpy into a zeroed char[LEO_UUID_STR_LEN]
              id :=
                match root.getObjectItem "id" with
                | some (Json.str s) => (cString s).take (uuidStrLen - 1)
                | _ => []
              body := root.getObjectItem "body" }
      | _ => none

/-!
## The switch of `_on_message`
-/

/-- The branches of the switch. -/
inductive Branch where
  | helloAck
  | ping
  | execScript
  | installPkg
  | reboot
  | collectInventory
  | installPatches
  | fileTransfer
  | remoteDesktopStart
  | remoteDesktopStop
  | forceHeartbeat
  | configUpdate
  | unknown
  deriving DecidableEq, Repr

def branchOf (type : Int) : Branch :=
  if type = 100 then Branch.helloAck
  else if type = 105 then Branch.ping
  else if type = 101 then Branch.execScript
  else if type = 102 then Branch.installPkg
  else if type = 103 then Branch.reboot
  else if type = 104 then Branch.collectInventory
  else if type = 108 then Branch.installPatches
  else if type = 109 then Branch.fileTransfer
  else if type = 110 then Branch.remoteDesktopStart
  else if type = 111 then Branch.remoteDesktopStop
  else if type = 107 then Branch.forceHeartbeat
  else if type = 106 then Branch.configUpdate
  else Branch.unknown

/-- What one call of `_on_message` hands to a branch of its switch. -/
structure Dispatched where
  branch : Branch
  id : List UInt8
  body : Option Json

def onMessage (cJSONParse : List UInt8 -> Option Json)
    (jsonStr : List UInt8) : List Dispatched :=
  match leoProtoParse cJSONParse jsonStr with
  | none => []
  | some msg =>
      [{ branch := branchOf msg.type, id := msg.id, body := msg.body }]

/-- The branch that the agent has for each type the backend sends. -/
def branchFor : MsgType -> Branch
  | MsgType.helloAck => Branch.helloAck
  | MsgType.execScript => Branch.execScript
  | MsgType.installPkg => Branch.installPkg
  | MsgType.reboot => Branch.reboot
  | MsgType.collectInventory => Branch.collectInventory
  | MsgType.ping => Branch.ping
  | MsgType.forceHeartbeat => Branch.forceHeartbeat
  | MsgType.installPatches => Branch.installPatches
  | MsgType.fileTransfer => Branch.fileTransfer
  | MsgType.remoteDesktopStart => Branch.remoteDesktopStart
  | MsgType.remoteDesktopStop => Branch.remoteDesktopStop

/-- The two tables of message types agree. -/
theorem branchOf_code (t : MsgType) : branchOf t.code = branchFor t := by
  cases t <;> rfl

/-- The dispatch an envelope asks for: its branch, its id as far as the agent's
id field holds it, and its body. -/
def dispatchedOf (m : Envelope) : Dispatched where
  branch := branchFor m.type
  id := (cString m.id).take (uuidStrLen - 1)
  body := some m.body.value

theorem onMessage_of_parse {cJSONParse : List UInt8 -> Option Json}
    {text : List UInt8} {m : Envelope} (h : cJSONParse text = some m.tree) :
    onMessage cJSONParse text = [dispatchedOf m] := by
  have hbranch := branchOf_code m.type
  simp [onMessage, leoProtoParse, h, dispatchedOf, hbranch]

/-!
## The receive callback
-/

/-- `LWS_CALLBACK_CLIENT_RECEIVE`. -/
def clientReceive (cJSONParse : List UInt8 -> Option Json)
    (chunk : List UInt8) : List Dispatched :=
  if chunk.length = 0 then []
  else onMessage cJSONParse (chunk.take maxMsgSize)

/-- The chunks in which a frame reaches the callback. -/
def rxChunksAux : Nat -> List UInt8 -> List (List UInt8)
  | 0, frame => [frame]
  | fuel + 1, frame =>
      if frame.length ≤ maxMsgSize then [frame]
      else frame.take maxMsgSize :: rxChunksAux fuel (frame.drop maxMsgSize)

def rxChunks (frame : List UInt8) : List (List UInt8) :=
  rxChunksAux frame.length frame

/-- What the agent dispatches for one received frame. -/
def receiveFrame (cJSONParse : List UInt8 -> Option Json)
    (frame : List UInt8) : List Dispatched :=
  (rxChunks frame).flatMap (clientReceive cJSONParse)

theorem rxChunks_of_le {frame : List UInt8} (h : frame.length ≤ maxMsgSize) :
    rxChunks frame = [frame] := by
  unfold rxChunks
  cases frame.length with
  | zero => rfl
  | succ n => simp [rxChunksAux, h]

/-- A frame that fits one callback and starts with the text of an envelope is
dispatched as that envelope, whatever follows it. -/
theorem receiveFrame_of_parse {cJSONParse : List UInt8 -> Option Json}
    {frame : List UInt8} {m : Envelope} (hle : frame.length ≤ maxMsgSize)
    (hne : frame ≠ []) (h : cJSONParse frame = some m.tree) :
    receiveFrame cJSONParse frame = [dispatchedOf m] := by
  have hlen : frame.length ≠ 0 := by
    intro hzero
    exact hne (List.length_eq_zero_iff.mp hzero)
  simp only [receiveFrame, rxChunks_of_le hle, List.flatMap_cons,
    List.flatMap_nil, List.append_nil, clientReceive, hlen, if_false,
    List.take_of_length_le hle]
  exact onMessage_of_parse h

end Agent
end LeoOne
