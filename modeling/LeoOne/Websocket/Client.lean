import LeoOne.Foundation.Channel

/-!
# Agent connections

One `Client` of the Hub: its send channel and the place where its `WritePump`
stands.  The payload type is a parameter, because `Send` only moves the
marshalled message around.
-/

namespace LeoOne
namespace Websocket

open Foundation

/-- `sendChanSize`. -/
def sendChanSize : Nat := 64

/-- `maxMessageSize`, the longest message that `ReadPump` takes. -/
def maxMessageSize : Nat := 64 * 1024

/-- Where a `WritePump` stands: at its `select`, between the receive of the
first message of a frame and the reading of `len(c.send)`, or with `n` more
messages to move into the open frame. -/
inductive PumpState (δ : Type) where
  | idle
  | taken (first : δ)
  | draining (frame : List δ) (n : Nat)
  | stopped

namespace PumpState

variable {δ : Type}

/-- The messages received from the channel whose frame is not yet flushed. -/
def held : PumpState δ -> List δ
  | idle => []
  | taken first => [first]
  | draining frame _ => frame
  | stopped => []

end PumpState

structure Client (δ : Type) where
  agentId : String
  tenantId : String
  sendChan : Chan δ
  pump : PumpState δ

/-- `NewClient`. -/
def newClient {δ : Type} (agentId tenantId : String) : Client δ where
  agentId := agentId
  tenantId := tenantId
  sendChan := Chan.make sendChanSize
  pump := PumpState.idle

/-- The ready case that the `select` of `WritePump` takes. -/
inductive PumpChoice where
  | message
  | tick
  deriving DecidableEq, Repr

namespace Client

variable {δ : Type}

/-- `Client.Send` of a marshalled message; `none` is the panic of a send on a
closed channel, `false` a message dropped because the channel is full. -/
def send (c : Client δ) (data : δ) : Option (Client δ × Bool) :=
  match c.sendChan.trySend data with
  | SendResult.accepted ch => some ({ c with sendChan := ch }, true)
  | SendResult.full => some (c, false)
  | SendResult.panicked => none

/-- What a call of `Send` that returns does. -/
theorem send_cases {c c' : Client δ} {data : δ} {ok : Bool}
    (h : c.send data = some (c', ok)) :
    (ok = true ∧ c.sendChan.closed = false ∧
      c.sendChan.buf.length < c.sendChan.cap ∧
      exists ch, ch.buf = c.sendChan.buf ++ [data] ∧ ch.closed = false ∧
        ch.cap = c.sendChan.cap ∧ c' = { c with sendChan := ch }) ∨
    (ok = false ∧ c.sendChan.buf.length = c.sendChan.cap ∧ c' = c) := by
  unfold send at h
  split at h
  · rename_i ch hsend
    cases h
    rcases Chan.trySend_accepted hsend with ⟨hopen, hroom, hbuf, hstill, hcap⟩
    exact Or.inl ⟨rfl, hopen, hroom, ch, hbuf, hstill, hcap, rfl⟩
  · rename_i hfull
    cases h
    exact Or.inr ⟨rfl, Chan.trySend_full hfull, rfl⟩
  · cases h

theorem send_none {c : Client δ} {data : δ} (h : c.send data = none) :
    c.sendChan.closed = true := by
  unfold send at h
  split at h
  · cases h
  · cases h
  · rename_i hpanic
    exact Chan.trySend_panicked hpanic

/-- `WritePump` returns. -/
def stopPump (c : Client δ) : Client δ :=
  { c with pump := PumpState.stopped }

/-- One step of `WritePump`.  The second component is the frame that is flushed,
as the list of the messages in it; `err` is a failing write. -/
def writePump (choice : PumpChoice) (err : Bool) (c : Client δ) :
    Option (Client δ × Option (List δ)) :=
  match c.pump with
  | PumpState.idle =>
      match choice with
      | PumpChoice.message =>
          match c.sendChan.recv with
          | RecvResult.value x ch =>
              if err then
                -- NextWriter failed: the message is dropped with the connection
                some (stopPump { c with sendChan := ch }, none)
              else
                some ({ c with sendChan := ch, pump := PumpState.taken x }, none)
          | RecvResult.closed => some (stopPump c, none)
          | RecvResult.blocked => none
      | PumpChoice.tick => if err then some (stopPump c, none) else some (c, none)
  | PumpState.taken x =>
      some ({ c with pump := PumpState.draining [x] c.sendChan.buf.length }, none)
  | PumpState.draining frame 0 =>
      if err then some (stopPump c, none)
      else some ({ c with pump := PumpState.idle }, some frame)
  | PumpState.draining frame (n + 1) =>
      match c.sendChan.recv with
      | RecvResult.value x ch =>
          some
            ({ c with sendChan := ch, pump := PumpState.draining (frame ++ [x]) n },
              none)
      | _ => none
  | PumpState.stopped => none

/-- What a step of `WritePump` never touches. -/
theorem writePump_frame {choice : PumpChoice} {err : Bool} {c c' : Client δ}
    {out : Option (List δ)} (h : c.writePump choice err = some (c', out)) :
    c'.agentId = c.agentId ∧ c'.tenantId = c.tenantId ∧
      c'.sendChan.closed = c.sendChan.closed := by
  unfold writePump at h
  split at h
  · split at h
    · split at h
      · rename_i hrecv
        have hclosed := (Chan.recv_value hrecv).right
        split at h <;> cases h <;> exact ⟨rfl, rfl, hclosed⟩
      · cases h
        exact ⟨rfl, rfl, rfl⟩
      · cases h
    · split at h <;> cases h <;> exact ⟨rfl, rfl, rfl⟩
  · cases h
    exact ⟨rfl, rfl, rfl⟩
  · split at h <;> cases h <;> exact ⟨rfl, rfl, rfl⟩
  · split at h
    · rename_i hrecv
      have hclosed := (Chan.recv_value hrecv).right
      cases h
      exact ⟨rfl, rfl, hclosed⟩
    · cases h
  · cases h

/-- The moves of a `WritePump` none of whose writes fail. -/
inductive PumpMove (c : Client δ) : Client δ -> Option (List δ) -> Prop where
  | take {x : δ} {ch : Chan δ} :
      c.pump = PumpState.idle -> c.sendChan.buf = x :: ch.buf ->
      ch.closed = c.sendChan.closed ->
      PumpMove c { c with sendChan := ch, pump := PumpState.taken x } none
  | close : c.pump = PumpState.idle -> c.sendChan.closed = true ->
      PumpMove c (stopPump c) none
  | ping : c.pump = PumpState.idle -> PumpMove c c none
  | count {x : δ} : c.pump = PumpState.taken x ->
      PumpMove c
        { c with pump := PumpState.draining [x] c.sendChan.buf.length } none
  | join {frame : List δ} {n : Nat} {x : δ} {ch : Chan δ} :
      c.pump = PumpState.draining frame (n + 1) ->
      c.sendChan.buf = x :: ch.buf -> ch.closed = c.sendChan.closed ->
      PumpMove c
        { c with sendChan := ch, pump := PumpState.draining (frame ++ [x]) n }
        none
  | flush {frame : List δ} : c.pump = PumpState.draining frame 0 ->
      PumpMove c { c with pump := PumpState.idle } (some frame)

theorem writePump_move {choice : PumpChoice} {c c' : Client δ}
    {out : Option (List δ)} (h : c.writePump choice false = some (c', out)) :
    PumpMove c c' out := by
  unfold writePump at h
  split at h
  · rename_i hidle
    split at h
    · split at h
      · rename_i hrecv
        rcases Chan.recv_value hrecv with ⟨hbuf, hclosed⟩
        cases h
        exact PumpMove.take hidle hbuf hclosed
      · rename_i hrecv
        cases h
        exact PumpMove.close hidle (Chan.recv_closed hrecv).right
      · cases h
    · cases h
      exact PumpMove.ping hidle
  · rename_i htaken
    cases h
    exact PumpMove.count htaken
  · rename_i hdrain
    cases h
    exact PumpMove.flush hdrain
  · rename_i hdrain
    split at h
    · rename_i hrecv
      rcases Chan.recv_value hrecv with ⟨hbuf, hclosed⟩
      cases h
      exact PumpMove.join hdrain hbuf hclosed
    · cases h
  · cases h

end Client

end Websocket
end LeoOne
