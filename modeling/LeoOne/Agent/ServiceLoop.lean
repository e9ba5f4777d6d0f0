import LeoOne.Agent.SendQueue
import LeoOne.Foundation.Gather

/-!
# The service loop

`_lws_thread` creates a context of libwebsockets, connects, and calls `lws_service`
until the connection fails; then it destroys the context, waits and starts again.
`_lws_callback` is called from inside `lws_service`, on the same thread.  Other threads
call `leo_conn_send`, which puts a message into the queue and wakes `lws_service` up,
and `leo_conn_destroy`.

A step is a section under `queue_mutex`, or one reading or writing of a field that
another thread uses, with the statements around it that no other thread can see.  The
sizes of the steps follow `lws_ctx` and `connected`, which are read and written without
a lock.
-/

namespace LeoOne
namespace Agent

open Foundation

def reconnectInitMs : Nat := 5000
def reconnectStepMs : Nat := 5000
def reconnectMaxMs : Nat := 60000

/-!
## libwebsockets
-/

/-- What libwebsockets knows.  Contexts are numbered in the order of their creation.
`_lws_thread` makes one connection in a context, and its `struct lws` is known by the
same number.  `armed`: a WRITEABLE callback was asked for on the connection;
`cancelled`: an event of `lws_cancel_service` waits for its callback. -/
structure Lws where
  contexts : Nat
  context : Option Nat
  connecting : Bool
  established : Bool
  armed : Bool
  cancelled : Bool
  deriving DecidableEq

namespace Lws

def createContext (l : Lws) : Lws where
  contexts := l.contexts + 1
  context := some (l.contexts + 1)
  connecting := false
  established := false
  armed := false
  cancelled := false

def contextDestroy (l : Lws) : Lws where
  contexts := l.contexts
  context := none
  connecting := false
  established := false
  armed := false
  cancelled := false

/-- The connection is closed, or could not be made. -/
def dropConnection (l : Lws) : Lws :=
  { l with connecting := false, established := false, armed := false }

/-- `lws_cancel_service`; the event of a context that is gone is lost. -/
def cancelService (ctx : Nat) (l : Lws) : Lws :=
  if l.context = some ctx then { l with cancelled := true } else l

/-- `lws_callback_on_writable`. -/
def callbackOnWritable (wsi : Nat) (l : Lws) : Lws :=
  if l.established ∧ l.context = some wsi then { l with armed := true } else l

end Lws

/-!
## The connection
-/

/-- `leo_conn_t`, with libwebsockets, the messages that `leo_conn_send` has accepted as
their callers gave them, and the bytes of the calls of `lws_write`. -/
structure LoopState where
  lwsCtx : Option Nat
  wsi : Option Nat
  queue : SendQueue
  connected : Bool
  shouldStop : Bool
  attemptFailed : Bool
  reconnectDelayMs : Nat
  threadExited : Bool
  lws : Lws
  accepted : List (List UInt8)
  passed : List (List UInt8)

/-- Who wakes `lws_service` up. -/
inductive Waker where
  | send
  | destroy
  deriving DecidableEq

/-- The steps.  Those of `_lws_thread` in their order: the head of the outer loop, the
context, the connection, the head of the inner loop, inside `lws_service`, and what
follows the inner loop; `greeted` is the last statement of the ESTABLISHED callback, and
`wake` what follows the section of EVENT_WAIT_CANCELLED.  `destroy` and `clearCtx` carry
whether a connection was begun.  Then the steps of `leo_conn_send`; those that read
`lws_ctx` are also in `leo_conn_destroy`, which starts with `stop`. -/
inductive LoopTask where
  | again
  | create
  | connect
  | loop
  | service
  | greeted (wsi : Nat)
  | wake (hasPending : Bool)
  | destroy (begun : Bool)
  | clearCtx (begun : Bool)
  | clearConnected
  | checkStop
  | reconnect
  | exit
  | send (data : List UInt8)
  | enqueue (data : List UInt8) (len : Nat)
  | checkCtx (waker : Waker)
  | cancel (waker : Waker)
  | stop
  deriving DecidableEq

/-- What libwebsockets does in a step of `_lws_thread`: a context is created or not; a
connection is begun or not, after a call of CONNECTION_ERROR or not; `lws_service` calls
a callback, where `leo_proto_build_hello` and the handler give the messages to send; it
returns; the context is destroyed, after a last callback for its connection or not. -/
inductive LwsChoice where
  | context (created : Bool)
  | connect (error : Bool) (begun : Bool)
  | established (hello : Option (List UInt8))
  | receive (replies : List (List UInt8))
  | writeable
  | waitCancelled
  | closed
  | connectionError
  | returned (rc : Int)
  | destroyed (closed : Bool)
  deriving DecidableEq

def loopThen (s : LoopState) (tasks : List LoopTask) : Outcome LoopState LoopTask where
  shared := s
  cont := tasks
  spawned := []

/-- The callbacks CLOSED and CONNECTION_ERROR. -/
def LoopState.fail (s : LoopState) : LoopState :=
  { s with
    connected := false
    wsi := none
    attemptFailed := true
    lws := s.lws.dropConnection }

/-- The section of the WRITEABLE callback.  The result of `lws_write` is only logged. -/
def LoopState.write (s : LoopState) (wsi : Nat) : LoopState :=
  let lws := { s.lws with armed := false }
  match s.queue.dequeue with
  | none => { s with lws := lws }
  | some (text, queue) =>
      { s with
        queue := queue
        passed := s.passed ++ [text]
        lws := if queue.queueCount > 0 then lws.callbackOnWritable wsi else lws }

/-- Inside `lws_service`; `none` if libwebsockets does not do this in this state.  It
calls WRITEABLE and EVENT_WAIT_CANCELLED also without being asked to. -/
def lwsService (x : LwsChoice) (s : LoopState) : Option (Outcome LoopState LoopTask) :=
  match x, s.lws.context with
  | LwsChoice.established hello, some ctx =>
      if s.lws.connecting then
        some
          (loopThen
            { s with
              wsi := some ctx
              connected := true
              reconnectDelayMs := reconnectInitMs
              lws := { s.lws with connecting := false, established := true } }
            ((hello.map LoopTask.send).toList ++ [LoopTask.greeted ctx]))
      else none
  | LwsChoice.receive replies, some _ =>
      if s.lws.established then
        some (loopThen s (replies.map LoopTask.send ++ [LoopTask.service]))
      else none
  | LwsChoice.writeable, some ctx =>
      if s.lws.established then some (loopThen (s.write ctx) [LoopTask.service]) else none
  | LwsChoice.waitCancelled, some _ =>
      some
        (loopThen { s with lws := { s.lws with cancelled := false } }
          [LoopTask.wake (decide (s.queue.queueCount > 0))])
  | LwsChoice.closed, some _ =>
      if s.lws.established then some (loopThen s.fail [LoopTask.service]) else none
  | LwsChoice.connectionError, some _ =>
      if s.lws.connecting then some (loopThen s.fail [LoopTask.service]) else none
  | LwsChoice.returned rc, some _ =>
      if rc < 0 then some (loopThen s [LoopTask.destroy true])
      else if s.attemptFailed then some (loopThen s [LoopTask.destroy true])
      else some (loopThen s [LoopTask.loop])
  | _, _ => none

/-- One step. -/
def loopPerform (k : LoopTask) (x : LwsChoice) (s : LoopState) :
    Option (Outcome LoopState LoopTask) :=
  match k with
  | LoopTask.again =>
      some (loopThen s [if s.shouldStop then LoopTask.exit else LoopTask.create])
  | LoopTask.create =>
      match x with
      | LwsChoice.context true =>
          let lws := s.lws.createContext
          some (loopThen { s with lws := lws, lwsCtx := lws.context } [LoopTask.connect])
      | LwsChoice.context false =>
          some (loopThen { s with lwsCtx := none } [LoopTask.reconnect])
      | _ => none
  | LoopTask.connect =>
      match x with
      | LwsChoice.connect error begun =>
          let s := { s with attemptFailed := false }
          let s := if error then s.fail else s
          if begun then
            some
              (loopThen { s with lws := { s.lws with connecting := !error } }
                [LoopTask.loop])
          else some (loopThen s [LoopTask.destroy false])
      | _ => none
  | LoopTask.loop =>
      some
        (loopThen s [if s.shouldStop then LoopTask.destroy true else LoopTask.service])
  | LoopTask.service => lwsService x s
  | LoopTask.greeted wsi =>
      some (loopThen { s with lws := s.lws.callbackOnWritable wsi } [LoopTask.service])
  | LoopTask.wake hasPending =>
      match s.wsi, hasPending with
      | some wsi, true =>
          some (loopThen { s with lws := s.lws.callbackOnWritable wsi } [LoopTask.service])
      | _, _ => some (loopThen s [LoopTask.service])
  | LoopTask.destroy begun =>
      match x with
      | LwsChoice.destroyed closed =>
          let s := if closed then s.fail else s
          some (loopThen { s with lws := s.lws.contextDestroy } [LoopTask.clearCtx begun])
      | _ => none
  | LoopTask.clearCtx begun =>
      some
        (loopThen { s with lwsCtx := none }
          [if begun then LoopTask.clearConnected else LoopTask.reconnect])
  | LoopTask.clearConnected =>
      some (loopThen { s with connected := false } [LoopTask.checkStop])
  | LoopTask.checkStop =>
      some (loopThen s [if s.shouldStop then LoopTask.exit else LoopTask.reconnect])
  | LoopTask.reconnect =>
      some
        (loopThen
          { s with
            reconnectDelayMs := min (s.reconnectDelayMs + reconnectStepMs) reconnectMaxMs }
          [LoopTask.again])
  | LoopTask.exit => some (loopThen { s with threadExited := true } [])
  | LoopTask.send data =>
      if data = [] then some (loopThen s [])
      else if !s.connected then some (loopThen s [])
      else some (loopThen s [LoopTask.enqueue data (min data.length maxMsgSize)])
  | LoopTask.enqueue data len =>
      match s.queue.enqueue data len with
      | none => some (loopThen s [])
      | some queue =>
          -- from here on the call returns `LEO_OK`
          some
            (loopThen { s with queue := queue, accepted := s.accepted ++ [data] }
              [LoopTask.checkCtx Waker.send])
  | LoopTask.checkCtx waker =>
      some (loopThen s (if s.lwsCtx.isSome then [LoopTask.cancel waker] else []))
  | LoopTask.cancel _ =>
      -- `lws_ctx` is read a second time
      match s.lwsCtx with
      | none => some (loopThen s [])
      | some ctx => some (loopThen { s with lws := s.lws.cancelService ctx } [])
  | LoopTask.stop =>
      some (loopThen { s with shouldStop := true } [LoopTask.checkCtx Waker.destroy])

theorem loopPerform_service (x : LwsChoice) (s : LoopState) :
    loopPerform LoopTask.service x s = lwsService x s := by
  simp only [loopPerform]

/-- The calls from other threads. -/
inductive ConnCall where
  | send (data : List UInt8)
  | destroy
  deriving DecidableEq

def ConnCall.entry : ConnCall -> List LoopTask
  | send data => [LoopTask.send data]
  | destroy => [LoopTask.stop]

abbrev LoopPool := Pool LoopState LoopTask

abbrev LoopEvent := PoolEvent ConnCall LwsChoice

def serviceLoop : Machine LoopPool LoopEvent :=
  Pool.machine ConnCall.entry loopPerform

/-- `leo_conn_create`. -/
def loopStart : LoopPool where
  shared :=
    { lwsCtx := none
      wsi := none
      queue := SendQueue.zeroed
      connected := false
      shouldStop := false
      attemptFailed := false
      reconnectDelayMs := reconnectInitMs
      threadExited := false
      lws :=
        { contexts := 0
          context := none
          connecting := false
          established := false
          armed := false
          cancelled := false }
      accepted := []
      passed := [] }
  procs := [[LoopTask.again]]

end Agent
end LeoOne
