import LeoOne.Backend.Database

/-!
# The copying loops

`copyOne` reads messages from one connection and writes them to the other one.
Towards the agent it leaves out input messages when the session is for viewing
only.  A turn of the loop carries what the two connections do in it.
-/

namespace LeoOne
namespace RemoteDesktop

open Backend

/-- A message as `ReadMessage` returns it and `WriteMessage` takes it. -/
structure WsMessage where
  msgType : Nat
  payload : List UInt8
  deriving DecidableEq

def wireTypeInputMove : UInt8 := 0x10
def wireTypeInputButton : UInt8 := 0x11
def wireTypeInputScroll : UInt8 := 0x12
def wireTypeInputKey : UInt8 := 0x13

def maxRemoteDesktopMessageBytes : Nat := 8 * 2 ^ 20

def isInputMessage (payload : List UInt8) : Bool :=
  match payload with
  | [] => false
  | b :: _ =>
      b = wireTypeInputMove || b = wireTypeInputButton || b = wireTypeInputScroll ||
        b = wireTypeInputKey

/-- What the peer has sent by the time of this turn, `none` if the read fails
(the peer has gone, the deadline has passed), and whether a write would fail. -/
structure CopyTurn where
  sent : Option WsMessage
  writeFails : Bool

namespace CopyTurn

/-- `ReadMessage` under `SetReadLimit`: `none` is an error. -/
def read (t : CopyTurn) : Option WsMessage :=
  match t.sent with
  | none => none
  | some m =>
      if m.payload.length ≤ maxRemoteDesktopMessageBytes then some m else none

end CopyTurn

/-- `copyOne`: the messages it writes, until it returns. -/
def copyOne (filterInput : Bool) : List CopyTurn -> List WsMessage
  | [] => []
  | t :: turns =>
      match t.read with
      | none => []
      | some m =>
          if filterInput && isInputMessage m.payload then copyOne filterInput turns
          else if t.writeFails then []
          else m :: copyOne filterInput turns

/-- The loop of `pump` from the viewer to the agent. -/
def pumpToAgent (mode : SessionMode) (turns : List CopyTurn) : List WsMessage :=
  copyOne (mode = SessionMode.view) turns

/-!
## What is forwarded
-/

/-- The loop has no reason to return in this turn. -/
def CopyTurn.goesOn (filterInput : Bool) (t : CopyTurn) : Bool :=
  match t.read with
  | none => false
  | some m => (filterInput && isInputMessage m.payload) || !t.writeFails

/-- The loop forwards what it reads before the first error, less the messages it
filters, unaltered and in order. -/
theorem copyOne_eq (filterInput : Bool) (turns : List CopyTurn) :
    copyOne filterInput turns =
      ((turns.takeWhile (CopyTurn.goesOn filterInput)).filterMap CopyTurn.read).filter
        fun m => !(filterInput && isInputMessage m.payload) := by
  induction turns with
  | nil =>
      rfl
  | cons t turns ih =>
      cases hread : t.read with
      | none =>
          have hstop : t.goesOn filterInput = false := by
            simp [CopyTurn.goesOn, hread]
          rw [List.takeWhile_cons_of_neg (by simp [hstop])]
          simp [copyOne, hread]
      | some m =>
          cases hfilter : filterInput && isInputMessage m.payload with
          | true =>
              have hgoes : t.goesOn filterInput = true := by
                simp [CopyTurn.goesOn, hread, hfilter]
              rw [List.takeWhile_cons_of_pos hgoes, List.filterMap_cons_some hread]
              simp only [copyOne, hread, hfilter, if_true]
              rw [ih, List.filter_cons_of_neg (by simp [hfilter])]
          | false =>
              cases hfails : t.writeFails with
              | true =>
                  have hstop : t.goesOn filterInput = false := by
                    simp [CopyTurn.goesOn, hread, hfilter, hfails]
                  rw [List.takeWhile_cons_of_neg (by simp [hstop])]
                  simp [copyOne, hread, hfilter, hfails]
              | false =>
                  have hgoes : t.goesOn filterInput = true := by
                    simp [CopyTurn.goesOn, hread, hfails]
                  rw [List.takeWhile_cons_of_pos hgoes, List.filterMap_cons_some hread]
                  simp only [copyOne, hread, hfilter, hfails, Bool.false_eq_true, if_false]
                  rw [ih, List.filter_cons_of_pos (by simp [hfilter])]

/-- Nothing that is forwarded in a viewing session is an input message. -/
theorem pumpToAgent_view {turns : List CopyTurn} {m : WsMessage}
    (h : m ∈ pumpToAgent SessionMode.view turns) : isInputMessage m.payload = false := by
  unfold pumpToAgent at h
  rw [copyOne_eq] at h
  simpa using (List.mem_filter.mp h).right

end RemoteDesktop
end LeoOne
