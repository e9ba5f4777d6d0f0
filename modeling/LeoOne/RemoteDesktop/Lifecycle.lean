import LeoOne.Foundation.Pool
import LeoOne.RemoteDesktop.Relay

/-!
# The relay with its sockets

The goroutines of the relay, one instruction for each section under its lock and
for each action between two of them: closing a socket, starting the pumps, the
end of a copying loop, `MarkEnded`.  The state has the sockets that the live
sessions point to and a history of what has been done with them.
-/

namespace LeoOne
namespace RemoteDesktop

open Foundation
open Backend

/-- A WebSocket connection; each upgrade makes a new one. -/
abbrev ConnId := Nat

/-- What has happened: the connections stored in live sessions, the pumps started
and the connections they were started on, the sessions ended with the reason and
whether both sides were attached, the calls of `MarkEnded`, the connections that
were attached after the end of their session, and the tombstones removed. -/
structure RelayHistory where
  stored : List (SessionRef × Side × ConnId)
  pumped : List (SessionRef × (Side -> Option ConnId))
  ended : List (SessionRef × String × Bool)
  marked : List (SessionRef × String)
  late : List ConnId
  forgotten : List Uuid

/-- `conns` holds the fields `agentConn` and `viewerConn` of the live sessions,
`done` the number of copying loops that have stopped. -/
structure RelayState where
  relay : Relay
  conns : SessionRef -> Side -> Option ConnId
  closed : ConnId -> Bool
  done : SessionRef -> Nat
  nextConn : ConnId
  log : RelayHistory

inductive RelayTask where
  | register (id : Uuid) (agentId : String) (mode : SessionMode)
  | attach (side : Side) (id : Uuid) (agentId : String) (mode : SessionMode)
  | refuse (conn : ConnId)
  | waitPairTimeout (ref : SessionRef)
  | pump (ref : SessionRef)
  | copyOne (ref : SessionRef) (source : Side)
  | awaitDone (ref : SessionRef)
  | finish (ref : SessionRef) (reason : String)
  | closeConn (ref : SessionRef) (side : Side) (reason : String)
  | markEnded (ref : SessionRef) (reason : String)
  | expireTombstone (id : Uuid)
  | endSession (id : Uuid) (reason : String)
  | endSessionsForAgent (agentId : String)
  deriving DecidableEq

/-- The callers of the relay: `createSession`, the two upgrade handlers,
`createSession` again when the START message could not be sent, `StopSession`,
and `MarkOffline`. -/
inductive RelayRequest where
  | register (id : Uuid) (agentId : String) (mode : SessionMode)
  | attach (side : Side) (id : Uuid) (agentId : String) (mode : SessionMode)
  | startNotSent (id : Uuid)
  | stopSession (id : Uuid)
  | markOffline (agentId : String)

def relayEntry : RelayRequest -> List RelayTask
  | RelayRequest.register id agentId mode => [RelayTask.register id agentId mode]
  | RelayRequest.attach side id agentId mode =>
      [RelayTask.attach side id agentId mode]
  | RelayRequest.startNotSent id => [RelayTask.endSession id "agent_offline"]
  | RelayRequest.stopSession id => [RelayTask.endSession id "stopped_by_operator"]
  | RelayRequest.markOffline agentId => [RelayTask.endSessionsForAgent agentId]

/-- Some live session of that id has been ended. -/
def Relay.hasEnded (r : Relay) (id : Uuid) : Bool :=
  r.heap.any fun ls => ls.sessionId = id && ls.ended

namespace RelayState

def start : RelayState where
  relay := Relay.new
  conns := fun _ _ => none
  closed := fun _ => false
  done := fun _ => 0
  nextConn := 0
  log :=
    { stored := []
      pumped := []
      ended := []
      marked := []
      late := []
      forgotten := [] }

/-- A step that changes nothing but the program of its goroutine. -/
def goOn (s : RelayState) (cont : List RelayTask) : Outcome RelayState RelayTask where
  shared := s
  cont := cont
  spawned := []

/-- The state after the locked section of `attach` on a new connection. -/
def enter (s : RelayState) (id : Uuid) (r : Relay) : RelayState :=
  { s with
    relay := r
    nextConn := s.nextConn + 1
    log :=
      { s.log with
        late :=
          if s.relay.hasEnded id then s.log.late ++ [s.nextConn] else s.log.late } }

/-- The live session points to the connection. -/
def store (s : RelayState) (ref : SessionRef) (side : Side) (c : ConnId) :
    RelayState :=
  { s with
    conns := Function.update s.conns ref (Function.update (s.conns ref) side (some c))
    log := { s.log with stored := s.log.stored ++ [(ref, side, c)] } }

/-- `Close` on a connection, if there is one. -/
def close (s : RelayState) : Option ConnId -> RelayState
  | none => s
  | some c => { s with closed := Function.update s.closed c true }

/-- `attach`: the connection is stored, or closed outside the lock. -/
def performAttach (s : RelayState) (side : Side) (id : Uuid) (agentId : String)
    (mode : SessionMode) : Outcome RelayState RelayTask :=
  let c := s.nextConn
  let (r, result) := s.relay.attach side id agentId mode
  match result with
  | Attached.refused => (s.enter id r).goOn [RelayTask.refuse c]
  | Attached.duplicate => (s.enter id r).goOn [RelayTask.refuse c]
  | Attached.waiting ref created =>
      { shared := (s.enter id r).store ref side c
        cont := []
        spawned := if created then [[RelayTask.waitPairTimeout ref]] else [] }
  | Attached.ready ref =>
      { shared := (s.enter id r).store ref side c
        cont := []
        spawned := [[RelayTask.pump ref]] }

/-- `end`: the first call takes the session out of the registry, then closes the
connection of the agent, that of the viewer, and calls `MarkEnded`. -/
def performFinish (s : RelayState) (ref : SessionRef) (reason : String) :
    Outcome RelayState RelayTask :=
  match s.relay.finish ref with
  | none => s.goOn []
  | some (r, ls) =>
      { shared :=
          { s with
            relay := r
            log := { s.log with ended := s.log.ended ++ [(ref, reason, ls.ready)] } }
        cont := [RelayTask.closeConn ref Side.agent reason]
        spawned := [[RelayTask.expireTombstone ls.sessionId]] }

/-- One step of a goroutine of the relay; `awaitDone` waits for the first copying
loop to stop. -/
def perform (task : RelayTask) (_ : Unit) (s : RelayState) :
    Option (Outcome RelayState RelayTask) :=
  match task with
  | RelayTask.register id agentId mode =>
      match s.relay.register id agentId mode with
      | none => some (s.goOn [])
      | some (r, ref) =>
          some
            { shared := { s with relay := r }
              cont := []
              spawned := [[RelayTask.waitPairTimeout ref]] }
  | RelayTask.attach side id agentId mode =>
      some (s.performAttach side id agentId mode)
  | RelayTask.refuse c => some ((s.close (some c)).goOn [])
  | RelayTask.waitPairTimeout ref =>
      some
        (s.goOn
          (if s.relay.stillWaiting ref then [RelayTask.finish ref "pair_timeout"]
          else []))
  | RelayTask.pump ref =>
      some
        { shared :=
            { s with log := { s.log with pumped := s.log.pumped ++ [(ref, s.conns ref)] } }
          cont := [RelayTask.awaitDone ref]
          spawned :=
            [[RelayTask.copyOne ref Side.agent], [RelayTask.copyOne ref Side.viewer]] }
  | RelayTask.copyOne ref _ =>
      some
        (goOn { s with done := Function.update s.done ref (s.done ref + 1) } [])
  | RelayTask.awaitDone ref =>
      if s.done ref = 0 then none
      else some (s.goOn [RelayTask.finish ref "connection_closed"])
  | RelayTask.finish ref reason => some (s.performFinish ref reason)
  | RelayTask.closeConn ref Side.agent reason =>
      some
        ((s.close (s.conns ref Side.agent)).goOn
          [RelayTask.closeConn ref Side.viewer reason])
  | RelayTask.closeConn ref Side.viewer reason =>
      some
        ((s.close (s.conns ref Side.viewer)).goOn [RelayTask.markEnded ref reason])
  | RelayTask.markEnded ref reason =>
      some
        (goOn { s with log := { s.log with marked := s.log.marked ++ [(ref, reason)] } } [])
  | RelayTask.expireTombstone id =>
      some
        (goOn
          { s with
            relay := s.relay.expireTombstone id
            log := { s.log with forgotten := id :: s.log.forgotten } } [])
  | RelayTask.endSession id reason =>
      some
        (s.goOn
          (match s.relay.sessions id with
            | some ref => [RelayTask.finish ref reason]
            | none => []))
  | RelayTask.endSessionsForAgent agentId =>
      some
        (s.goOn
          ((s.relay.sessionsForAgent agentId).map fun ref =>
            RelayTask.finish ref "agent_offline"))

end RelayState

abbrev RelayPool := Pool RelayState RelayTask

abbrev RelayEvent := PoolEvent RelayRequest Unit

/-- Any caller may come at any time, and any goroutine may take the next step. -/
def relayMachine : Machine RelayPool RelayEvent :=
  Pool.machine relayEntry RelayState.perform

/-- `NewRelay`, before any call. -/
def relayStart : RelayPool where
  shared := RelayState.start
  procs := []

/-!
## Steps
-/

/-- What a task may do to the state, and the tasks it makes pending. -/
inductive Acts (s : RelayState) :
    RelayTask -> RelayState -> List RelayTask -> Prop where
  | registered {id : Uuid} {a : String} {mode : SessionMode} :
      s.relay.sessions id = none ->
      Acts s (RelayTask.register id a mode)
        { s with relay := (s.relay.allocate (LiveSession.start id a mode)).1 }
        [RelayTask.waitPairTimeout s.relay.heap.length]
  | known {id : Uuid} {a : String} {mode : SessionMode} :
      Acts s (RelayTask.register id a mode) s []
  | refused {side : Side} {id : Uuid} {a : String} {mode : SessionMode} :
      s.relay.endedSessions id = true ->
      Acts s (RelayTask.attach side id a mode) (s.enter id s.relay)
        [RelayTask.refuse s.nextConn]
  | duplicate {side : Side} {id : Uuid} {a : String} {mode : SessionMode} :
      s.relay.endedSessions id = false ->
      Acts s (RelayTask.attach side id a mode) (s.enter id s.relay)
        [RelayTask.refuse s.nextConn]
  | joined {side : Side} {id : Uuid} {a : String} {mode : SessionMode}
      {ref : SessionRef} {ls : LiveSession} :
      s.relay.endedSessions id = false -> s.relay.sessions id = some ref ->
      s.relay.heap[ref]? = some ls -> ls.conn side = false ->
      Acts s (RelayTask.attach side id a mode)
        ((s.enter id
          { s.relay with
            heap := s.relay.heap.set ref (ls.attachConn side) }).store
          ref side s.nextConn)
        (if (ls.attachConn side).ready then [RelayTask.pump ref] else [])
  | created {side : Side} {id : Uuid} {a : String} {mode : SessionMode} :
      s.relay.endedSessions id = false -> s.relay.sessions id = none ->
      Acts s (RelayTask.attach side id a mode)
        ((s.enter id
          (s.relay.allocate
            ((LiveSession.start id a mode).attachConn side)).1).store
          s.relay.heap.length side s.nextConn)
        [RelayTask.waitPairTimeout s.relay.heap.length]
  | refuse {c : ConnId} :
      Acts s (RelayTask.refuse c) (s.close (some c)) []
  | pairTimeout {ref : SessionRef} :
      s.relay.stillWaiting ref = true ->
      Acts s (RelayTask.waitPairTimeout ref) s [RelayTask.finish ref "pair_timeout"]
  | paired {ref : SessionRef} :
      Acts s (RelayTask.waitPairTimeout ref) s []
  | pump {ref : SessionRef} :
      Acts s (RelayTask.pump ref)
        { s with log := { s.log with pumped := s.log.pumped ++ [(ref, s.conns ref)] } }
        [RelayTask.awaitDone ref, RelayTask.copyOne ref Side.agent,
          RelayTask.copyOne ref Side.viewer]
  | copyOne {ref : SessionRef} {side : Side} :
      Acts s (RelayTask.copyOne ref side)
        { s with done := Function.update s.done ref (s.done ref + 1) } []
  | awaitDone {ref : SessionRef} :
      Acts s (RelayTask.awaitDone ref) s [RelayTask.finish ref "connection_closed"]
  | finish {ref : SessionRef} {reason : String} {r : Relay} {ls : LiveSession} :
      s.relay.finish ref = some (r, ls) ->
      Acts s (RelayTask.finish ref reason)
        { s with
          relay := r
          log := { s.log with ended := s.log.ended ++ [(ref, reason, ls.ready)] } }
        [RelayTask.closeConn ref Side.agent reason,
          RelayTask.expireTombstone ls.sessionId]
  | finished {ref : SessionRef} {reason : String} :
      Acts s (RelayTask.finish ref reason) s []
  | closeAgent {ref : SessionRef} {reason : String} :
      Acts s (RelayTask.closeConn ref Side.agent reason)
        (s.close (s.conns ref Side.agent))
        [RelayTask.closeConn ref Side.viewer reason]
  | closeViewer {ref : SessionRef} {reason : String} :
      Acts s (RelayTask.closeConn ref Side.viewer reason)
        (s.close (s.conns ref Side.viewer)) [RelayTask.markEnded ref reason]
  | markEnded {ref : SessionRef} {reason : String} :
      Acts s (RelayTask.markEnded ref reason)
        { s with log := { s.log with marked := s.log.marked ++ [(ref, reason)] } } []
  | expire {id : Uuid} :
      Acts s (RelayTask.expireTombstone id)
        { s with
          relay := s.relay.expireTombstone id
          log := { s.log with forgotten := id :: s.log.forgotten } } []
  | endSession {id : Uuid} {reason : String} {ref : SessionRef} :
      Acts s (RelayTask.endSession id reason) s [RelayTask.finish ref reason]
  | endUnknown {id : Uuid} {reason : String} :
      Acts s (RelayTask.endSession id reason) s []
  | endSessionsForAgent {a : String} :
      Acts s (RelayTask.endSessionsForAgent a) s
        ((s.relay.sessionsForAgent a).map fun ref =>
          RelayTask.finish ref "agent_offline")

theorem created_goOn (s : RelayState) (tasks : List RelayTask) :
    (s.goOn tasks).created = tasks := by
  simp [RelayState.goOn, Outcome.created]

theorem acts_performAttach {s : RelayState} (hs : s.relay.Sound) (side : Side)
    (id : Uuid) (a : String) (mode : SessionMode) :
    Acts s (RelayTask.attach side id a mode)
      (s.performAttach side id a mode).shared
      (s.performAttach side id a mode).created := by
  have hcases := Relay.attaches hs side id a mode
  unfold RelayState.performAttach
  generalize hout : s.relay.attach side id a mode = out at hcases
  rcases out with ⟨r, result⟩
  simp only at hcases ⊢
  cases hcases with
  | tombstone htomb =>
      simp only [created_goOn]
      exact Acts.refused htomb
  | duplicate htomb _ _ _ =>
      simp only [created_goOn]
      exact Acts.duplicate htomb
  | joined htomb hreg hget hconn =>
      rename_i ref ls
      have hjoined : Acts s (RelayTask.attach side id a mode) _ _ :=
        Acts.joined htomb hreg hget hconn
      cases hready : (ls.attachConn side).ready with
      | true =>
          rw [if_pos hready] at hjoined
          exact hjoined
      | false =>
          rw [if_neg (Bool.eq_false_iff.mp hready)] at hjoined
          exact hjoined
  | created htomb hnone =>
      exact Acts.created htomb hnone

theorem acts_of_perform {s : RelayState} (hs : s.relay.Sound) {k : RelayTask}
    {x : Unit} {o : Outcome RelayState RelayTask}
    (h : RelayState.perform k x s = some o) : Acts s k o.shared o.created := by
  cases k with
  | register id a mode =>
      simp only [RelayState.perform] at h
      split at h
      · cases h
        exact Acts.known
      · rename_i r ref hreg
        rcases Relay.register_some hreg with ⟨hnone, rfl, rfl⟩
        cases h
        exact Acts.registered hnone
  | attach side id a mode =>
      cases h
      exact acts_performAttach hs side id a mode
  | refuse c =>
      cases h
      exact Acts.refuse
  | waitPairTimeout ref =>
      cases h
      rw [created_goOn]
      split
      · rename_i hwaits
        exact Acts.pairTimeout hwaits
      · exact Acts.paired
  | pump ref =>
      cases h
      exact Acts.pump
  | copyOne ref side =>
      cases h
      exact Acts.copyOne
  | awaitDone ref =>
      simp only [RelayState.perform] at h
      split at h
      · cases h
      · cases h
        exact Acts.awaitDone
  | finish ref reason =>
      cases h
      unfold RelayState.performFinish
      split
      · exact Acts.finished
      · rename_i r ls hfin
        exact Acts.finish hfin
  | closeConn ref side reason =>
      cases side with
      | agent =>
          cases h
          exact Acts.closeAgent
      | viewer =>
          cases h
          exact Acts.closeViewer
  | markEnded ref reason =>
      cases h
      exact Acts.markEnded
  | expireTombstone id =>
      cases h
      exact Acts.expire
  | endSession id reason =>
      cases h
      rw [created_goOn]
      split
      · exact Acts.endSession
      · exact Acts.endUnknown
  | endSessionsForAgent a =>
      cases h
      rw [created_goOn]
      exact Acts.endSessionsForAgent

@[simp] theorem close_relay (s : RelayState) (c : Option ConnId) :
    (s.close c).relay = s.relay := by
  cases c <;> rfl

@[simp] theorem close_log (s : RelayState) (c : Option ConnId) :
    (s.close c).log = s.log := by
  cases c <;> rfl

@[simp] theorem close_conns (s : RelayState) (c : Option ConnId) :
    (s.close c).conns = s.conns := by
  cases c <;> rfl

@[simp] theorem close_nextConn (s : RelayState) (c : Option ConnId) :
    (s.close c).nextConn = s.nextConn := by
  cases c <;> rfl

/-- Every step keeps the registry consistent. -/
theorem Acts.sound {s t : RelayState} {k : RelayTask} {made : List RelayTask}
    (hs : s.relay.Sound) (hacts : Acts s k t made) : t.relay.Sound := by
  cases hacts with
  | registered _ =>
      exact hs.allocate rfl rfl
  | joined _ _ hget _ =>
      exact hs.set hget (LiveSession.attachConn_sessionId _ _)
        (LiveSession.attachConn_ended _ _) (LiveSession.attachConn_once _ _)
  | created _ _ =>
      exact hs.allocate (LiveSession.attachConn_ended _ _)
        (LiveSession.attachConn_once _ _)
  | finish hfin =>
      exact hs.finish hfin
  | expire =>
      exact hs.expireTombstone _
  | closeAgent =>
      rw [close_relay]
      exact hs
  | closeViewer =>
      rw [close_relay]
      exact hs
  | _ =>
      exact hs

end RemoteDesktop
end LeoOne
