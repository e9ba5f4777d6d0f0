import LeoOne.Backend.Server
import LeoOne.Agent.Body
import LeoOne.Agent.Protocol
import LeoOne.Wire.Payload

/-!
# Frames of commands

The server puts no bound on the payload of a command, and the agent takes what one
callback hands it for one message.  libwebsockets hands a frame over in chunks of
`rx_buffer_size` bytes, so a longer frame comes in several calls.
-/

namespace LeoOne
namespace Wire

/-!
## Nesting
-/

mutual

/-- The levels of arrays and objects in a value. -/
def Json.depth : Json -> Nat
  | Json.arr items => Json.depthItems items + 1
  | Json.obj fields => Json.depthFields fields + 1
  | _ => 0

def Json.depthItems : List Json -> Nat
  | [] => 0
  | item :: items => max item.depth (Json.depthItems items)

def Json.depthFields : List (String × Json) -> Nat
  | [] => 0
  | (_, value) :: fields => max value.depth (Json.depthFields fields)

end

theorem Envelope.depth_tree (m : Envelope) : m.tree.depth = m.body.value.depth + 1 := by
  simp [Envelope.tree, Json.depth, Json.depthFields]

/-!
## Lengths
-/

theorem length_quote_uuid (u : Foundation.Uuid) : (quote u.text).length = 38 := by
  rcases Foundation.UuidText.normalize_chars u.canonical with ⟨hlength, hchars⟩
  have hplain : forall c, Foundation.UuidText.isUuidChar c = true ->
      (quoteChar c).length = 1 := by
    have hall : "0123456789abcdef-".toList.all (fun c => (quoteChar c).length == 1) = true := by
      decide
    intro c hc
    rw [Foundation.UuidText.isUuidChar, List.contains_eq_mem, decide_eq_true_eq] at hc
    exact beq_iff_eq.mp (List.all_eq_true.mp hall c hc)
  have hsum : forall cs : List Char, cs.all Foundation.UuidText.isUuidChar = true ->
      (cs.flatMap quoteChar).length = cs.length := by
    intro cs
    induction cs with
    | nil =>
        intro _
        rfl
    | cons c cs ih =>
        intro hcs
        rw [List.all_cons, Bool.and_eq_true] at hcs
        rw [List.flatMap_cons, List.length_append, hplain c hcs.left, ih hcs.right,
          List.length_cons]
        omega
  rw [quote, List.length_append, List.length_append, hsum _ hchars, hlength]
  rfl

end Wire

namespace Agent

open Wire

/-!
## Chunks
-/

theorem rxChunksAux_flatten (fuel : Nat) (frame : List UInt8) :
    (rxChunksAux fuel frame).flatten = frame := by
  induction fuel generalizing frame with
  | zero =>
      exact List.flatten_singleton
  | succ fuel ih =>
      rw [rxChunksAux]
      by_cases hshort : frame.length ≤ maxMsgSize
      · rw [if_pos hshort]
        exact List.flatten_singleton
      · rw [if_neg hshort, List.flatten_cons, ih]
        exact List.take_append_drop maxMsgSize frame

/-- The calls of `leo_proto_parse` for one received frame, with what they return. -/
def parseCalls (cJSONParse : List UInt8 -> Option Json) (frame : List UInt8) :
    List (Option IncomingMsg) :=
  ((rxChunks frame).filter fun chunk => chunk ≠ []).map fun chunk =>
    leoProtoParse cJSONParse (chunk.take maxMsgSize)

/-- What is dispatched are the results of these calls. -/
theorem receiveFrame_parseCalls (cJSONParse : List UInt8 -> Option Json)
    (frame : List UInt8) :
    receiveFrame cJSONParse frame =
      (parseCalls cJSONParse frame).flatMap fun result =>
        result.toList.map fun msg =>
          { branch := branchOf msg.type, id := msg.id, body := msg.body } := by
  rw [receiveFrame, parseCalls, List.flatMap_map]
  generalize rxChunks frame = chunks
  induction chunks with
  | nil =>
      rfl
  | cons chunk chunks ih =>
      rw [List.flatMap_cons, ih, clientReceive]
      by_cases hempty : chunk = []
      · subst hempty
        rfl
      · have hlength : chunk.length ≠ 0 := fun h => hempty (List.length_eq_zero_iff.mp h)
        rw [if_neg hlength, List.filter_cons_of_pos (by simpa using hempty),
          List.flatMap_cons, onMessage]
        cases leoProtoParse cJSONParse (chunk.take maxMsgSize) with
        | none => rfl
        | some msg => rfl

theorem parseCalls_of_le {cJSONParse : List UInt8 -> Option Json} {frame : List UInt8}
    (hle : frame.length ≤ maxMsgSize) (hne : frame ≠ []) :
    parseCalls cJSONParse frame = [leoProtoParse cJSONParse frame] := by
  rw [parseCalls, rxChunks_of_le hle, List.filter_cons_of_pos (by simpa using hne)]
  show [leoProtoParse cJSONParse (frame.take maxMsgSize)] = _
  rw [List.take_of_length_le hle]

/-- A longer frame is parsed more than once. -/
theorem length_parseCalls (cJSONParse : List UInt8 -> Option Json) {frame : List UInt8}
    (hlong : maxMsgSize < frame.length) : 1 < (parseCalls cJSONParse frame).length := by
  rw [parseCalls, List.length_map, rxChunks]
  cases hlength : frame.length with
  | zero =>
      rw [hlength] at hlong
      exact absurd hlong (Nat.not_lt_zero _)
  | succ fuel =>
      have hfirst : frame.take maxMsgSize ≠ [] := by
        intro hnil
        have hzero := congrArg List.length hnil
        rw [List.length_take, List.length_nil, maxMsgSize] at hzero
        unfold maxMsgSize at hlong
        omega
      have hrest : frame.drop maxMsgSize ≠ [] := by
        intro hnil
        have hzero := congrArg List.length hnil
        rw [List.length_drop, List.length_nil] at hzero
        omega
      rw [rxChunksAux, if_neg (Nat.not_le.mpr hlong),
        List.filter_cons_of_pos (by simpa using hfirst), List.length_cons]
      apply Nat.succ_lt_succ
      apply List.length_pos_iff.mpr
      intro hnone
      apply hrest
      rw [← rxChunksAux_flatten fuel (frame.drop maxMsgSize)]
      apply List.flatten_eq_nil_iff.mpr
      intro chunk hchunk
      have hnot := List.filter_eq_nil_iff.mp hnone chunk hchunk
      simpa using hnot

end Agent
namespace Backend

open Wire Foundation

/-!
## Commands
-/

/-- `CJSON_NESTING_LIMIT`. -/
def cjsonNestingLimit : Nat := 1000

/-- `cJSON_Parse` reads the text of this message, unless it is nested too deeply. -/
def ReadsNested (cJSONParse : List UInt8 -> Option Json) (m : Envelope) : Prop :=
  cJSONParse m.marshal = if m.tree.depth ≤ cjsonNestingLimit then some m.tree else none

/-- The message of `CreateAndDispatchCommand`; an absent payload is `{}`. -/
def dispatchedMessage (id : Uuid) (type : CommandType) (payload : Option RawMessage)
    (ts : Nat) : Envelope :=
  commandMessage id type (payload.getD RawMessage.empty) ts

/-- A frame has 76 bytes besides the payload and the digits of the time. -/
theorem length_commandMessage (id : Uuid) (type : CommandType) (payload : RawMessage)
    (ts : Nat) :
    (commandMessage id type payload ts).marshal.length =
      payload.text.length + (utf8 (toString ts)).length + 76 := by
  have hcode : (utf8 (toString type.wsType.code)).length = 3 := by
    cases type <;> decide
  have hbody : (utf8 "\x7b\"body\":").length = 8 := by decide
  have hid : (utf8 ",\"id\":").length = 6 := by decide
  have hts : (utf8 ",\"ts\":").length = 6 := by decide
  have htype : (utf8 ",\"type\":").length = 8 := by decide
  have hv : (utf8 ",\"v\":1\x7d").length = 7 := by decide
  rw [Envelope.marshal]
  simp only [commandMessage, List.length_append, length_quote_uuid, hcode, hbody, hid, hts,
    htype, hv]
  omega

namespace Sample

/-- `cJSON_Parse`, as far as the text of one message is concerned. -/
def parserOf (m : Envelope) (text : List UInt8) : Option Json :=
  if text = m.marshal then some m.tree else none

def frameCommand : Uuid where
  text := "3d1cfe3b-2f55-4c9e-b8a6-64b5a3f60147"
  canonical := by decide

/-- The payload of `fireSchedule` for a script of `n` letters. -/
def lettersPayload (n : Nat) : RawMessage :=
  RawMessage.ofFields
    [("interpreter", RawMessage.ofString "bash"),
      ("script", RawMessage.ofString (String.ofList (List.replicate n 'a'))),
      ("timeout_sec", RawMessage.ofInt 60)]

theorem lettersPayload_long (n : Nat) : n ≤ (lettersPayload n).text.length := by
  have hquote : (quote (String.ofList (List.replicate n 'a'))).length = n + 2 := by
    have hchar : (quoteChar 'a').length = 1 := by decide
    rw [quote, String.toList_ofList, List.length_append, List.length_append,
      List.length_flatMap, List.map_replicate, List.sum_replicate_nat, hchar]
    show 1 + n * 1 + 1 = n + 2
    omega
  simp only [lettersPayload, RawMessage.ofFields, RawMessage.ofString, List.map_cons,
    List.map_nil, RawMessage.commas, List.length_append, hquote]
  omega

end Sample

end Backend
end LeoOne
