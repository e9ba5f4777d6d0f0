import LeoOne.Foundation.Pool
import LeoOne.Foundation.Ring
import LeoOne.Agent.Protocol

/-!
# The control connection on the agent

`connection.c`: other threads put messages into the ring `send_queue` with
`leo_conn_send`, and the thread of libwebsockets writes one of them in each WRITEABLE
callback.  The ring outlives the connection.  When a connection is established the
callback sets `connected` and puts the HELLO of that connection into the ring.

A step is the reading of `connected` by `leo_conn_send`, a section under
`queue_mutex`, or one of the callbacks.  The callbacks are called one after the other
by one thread; which one comes next and what it meets is the input of the step.
-/

namespace LeoOne
namespace Agent

open Foundation

/-- `LEO_SEND_QUEUE_DEPTH`. -/
def sendQueueDepth : Nat := 32

/-- `queued_msg_t`.  The field `hello` is for the proofs alone: the number of the
connection whose HELLO the message is. -/
structure QueuedMsg where
  data : List UInt8
  hello : Option Nat
  deriving DecidableEq

/-- The state of a `leo_conn_t`, with the number of connections that were established
and the messages that were written, each with its connection. -/
structure ConnState where
  connected : Bool
  queue : Ring QueuedMsg sendQueueDepth
  connections : Nat
  written : List (Nat × QueuedMsg)

/-- The steps: the thread of libwebsockets before its next callback, and the two parts
of `leo_conn_send`. -/
inductive ConnTask where
  | callback
  | send (m : QueuedMsg)
  | enqueue (m : QueuedMsg)

/-- The callbacks: a connection is established, and `leo_proto_build_hello` builds the
given text; a message arrives, and the handler sends the given replies; the socket is
writeable, and `lws_write` fails or not; the connection is closed, or could not be
made. -/
inductive ConnCallback where
  | established (hello : Option (List UInt8))
  | receive (replies : List (List UInt8))
  | writeable (fails : Bool)
  | closed
  | connectionError

def connThen (s : ConnState) (tasks : List ConnTask) : Outcome ConnState ConnTask where
  shared := s
  cont := tasks
  spawned := []

/-- The mutex section of `LWS_CALLBACK_CLIENT_WRITEABLE`: the message leaves the ring
even when the write fails. -/
def writeHead (fails : Bool) (s : ConnState) : ConnState :=
  match s.queue.pop with
  | none => s
  | some (m, queue) =>
      { s with
        queue := queue
        written := if fails then s.written else s.written ++ [(s.connections, m)] }

/-- `_lws_callback`; `none` if libwebsockets does not call it in this state. -/
def lwsCallback (x : ConnCallback) (s : ConnState) : Option (Outcome ConnState ConnTask) :=
  match x with
  | ConnCallback.established hello =>
      if s.connected then none
      else
        let n := s.connections + 1
        some
          (connThen { s with connected := true, connections := n }
            ((hello.map fun text => ConnTask.send { data := text, hello := some n }).toList ++
              [ConnTask.callback]))
  | ConnCallback.receive replies =>
      if s.connected then
        some
          (connThen s
            ((replies.map fun text => ConnTask.send { data := text, hello := none }) ++
              [ConnTask.callback]))
      else none
  | ConnCallback.writeable fails =>
      if s.connected then some (connThen (writeHead fails s) [ConnTask.callback])
      else none
  | ConnCallback.closed =>
      if s.connected then some (connThen { s with connected := false } [ConnTask.callback])
      else none
  | ConnCallback.connectionError =>
      if s.connected then none
      else some (connThen { s with connected := false } [ConnTask.callback])

/-- One step of the connection. -/
def connPerform (k : ConnTask) (x : ConnCallback) (s : ConnState) :
    Option (Outcome ConnState ConnTask) :=
  match k with
  | ConnTask.callback => lwsCallback x s
  | ConnTask.send m =>
      if m.data = [] then some (connThen s [])
      else if !s.connected then some (connThen s [])
      else
        some (connThen s [ConnTask.enqueue { m with data := m.data.take maxMsgSize }])
  | ConnTask.enqueue m =>
      -- a full ring: `LEO_ERR_QUEUE_FULL`
      match s.queue.push m with
      | none => some (connThen s [])
      | some queue => some (connThen { s with queue := queue } [])

abbrev ConnPool := Pool ConnState ConnTask

abbrev ConnEvent := PoolEvent (List UInt8) ConnCallback

/-- The connection: other threads call `leo_conn_send` at any time. -/
def connection : Machine ConnPool ConnEvent :=
  Pool.machine (fun text => [ConnTask.send { data := text, hello := none }]) connPerform

/-- `leo_conn_create`. -/
def connStart : ConnPool where
  shared :=
    { connected := false
      queue := Ring.empty { data := [], hello := none } (by decide)
      connections := 0
      written := [] }
  procs := [[ConnTask.callback]]

/-- The messages written on a connection, in order. -/
def ConnState.writtenOn (s : ConnState) (n : Nat) : List QueuedMsg :=
  (s.written.filter fun e => e.1 = n).map Prod.snd

/-- The step carries a HELLO that is not in the ring yet. -/
def ConnTask.isHello : ConnTask -> Bool
  | callback => false
  | send m | enqueue m => m.hello.isSome

/-- When a connection is established the ring is empty and the HELLO is built; no other
message enters the ring before the HELLO; the first write on a connection does not fail,
and no connection is closed before it. -/
def greets (p : ConnPool) (k : ConnTask) (x : ConnCallback) : Bool :=
  match k with
  | ConnTask.callback =>
      match x with
      | ConnCallback.established hello =>
          p.shared.queue.count = 0 && hello.any fun text => text ≠ []
      | ConnCallback.writeable fails =>
          !fails || (p.shared.writtenOn p.shared.connections).length ≠ 0
      | ConnCallback.closed => (p.shared.writtenOn p.shared.connections).length ≠ 0
      | _ => true
  | ConnTask.send _ => true
  | ConnTask.enqueue m => m.hello.isSome || !p.anyPending ConnTask.isHello

end Agent
end LeoOne
