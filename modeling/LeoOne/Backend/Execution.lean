import LeoOne.Backend.Server

/-!
# Execution of the server

What each instruction does to the store it touches, and the interleaving of the
goroutines.  The state also carries a history, which no instruction reads except
for the freshness of generated identifiers.
-/

namespace LeoOne
namespace Backend

open Foundation
open Wire
open Websocket
open RemoteDesktop

/-- What has happened in a run: the messages that `Send` accepted, the clients
on which a HELLO or a heartbeat was handled, the number of clients registered
before each live session was made, the identifiers generated, the commands as
they were inserted, and the agents for which `RevokeCertificate` and `Delete`
have answered with success. -/
structure History where
  accepted : List (ClientId × Envelope × Caller)
  greeted : List ClientId
  born : List ClientId
  issued : List Uuid
  commands : List CommandRow
  revoked : List Uuid
  deleted : List String

structure Server where
  wsEndpoint : String
  sessionTTL : Nat
  db : Database
  hub : Hub Envelope
  relay : Relay
  nextClient : ClientId
  panicked : Bool
  log : History

/-!
## Statements
-/

/-- The statement inserts a row under a generated identifier. -/
def Statement.generatesId : Statement -> Bool
  | Statement.insertCommand _ => true
  | Statement.createAgent _ => true
  | Statement.createSession _ => true
  | Statement.findForWakeUp _ _ => true
  | _ => false

/-- The effect of a statement that does not fail, with its continuation. -/
def Statement.exec (ttl : Nat) (x : Input) (db : Database) :
    Statement -> Database × List Instr
  | Statement.checkNotRevoked cert agentId tenantId =>
      (db,
        if db.checkNotRevoked cert then
          [Instr.conn (ConnCall.upgrade agentId tenantId)]
        else [])
  | Statement.checkDesktopCert cert agentId token =>
      (db,
        if db.checkNotRevoked cert then
          [Instr.sql (Statement.consumeToken Side.agent token (some agentId))]
        else [])
  | Statement.consumeToken side token agentId =>
      match db.consumeToken side token x.now with
      | none => (db, [])
      | some (db', row) =>
          (db',
            match agentId with
            | none => [Instr.conn (ConnCall.upgradeDesktop side row)]
            | some a =>
                if row.agentId.text = a then
                  [Instr.conn (ConnCall.upgradeDesktop side row)]
                else [])
  | Statement.setOnline agentId _ =>
      (db.updateStatus agentId AgentStatus.online (some x.now) x.now, [])
  | Statement.setOffline agentId _ =>
      (db.updateStatus agentId AgentStatus.offline none x.now, [])
  | Statement.selectPending agentId c =>
      (db, redeliverPendingCommands c (db.pendingCommands agentId) x.now)
  | Statement.markSent id => (db.markSent id x.now, [])
  | Statement.recordResult agentId tenantId body =>
      match db.recordResult tenantId body x.now with
      | none => (db, [])
      | some (db', row) => (db', afterResult agentId tenantId body row)
  | Statement.markInstallResult agentId tenantId nativeIds success =>
      (db.markInstallResult tenantId agentId nativeIds success x.now, [])
  | Statement.recordProgress _ tenantId body =>
      (db.recordProgress tenantId body, [])
  | Statement.upsertPatches agentId tenantId reports =>
      ((db.upsertPatches tenantId agentId reports x.now).getD db, [])
  | Statement.insertCommand order =>
      match x.id with
      | none => (db, [])
      | some id =>
          match db.insertCommand id order.tenantId order.agentId order.createdBy
              order.scheduleId order.type order.payload x.now with
          | none => (db, [])
          | some db' => (db', [Instr.hub (HubCall.isConnectedCommand id order)])
  | Statement.findForRevoke agentId tenantId =>
      match db.findAgent tenantId agentId with
      | none => (db, [])
      | some row =>
          (db, [Instr.sql (Statement.revokeCertificates row.id agentId)])
  | Statement.revokeCertificates agent agentId =>
      (db.revokeCertificates agentId x.now,
        [Instr.hub (HubCall.disconnect agent agentId)])
  | Statement.deleteAgent agentId tenantId =>
      (db.deleteAgent tenantId agentId,
        if (Uuid.parse agentId).isSome && (Uuid.parse tenantId).isSome then
          [Instr.reply (Reply.deleted agentId)]
        else [])
  | Statement.createAgent tenant =>
      match x.id with
      | none => (db, [])
      | some id =>
          (db.createAgent id tenant x.now,
            [Instr.sql (Statement.insertCertificate id tenant)])
  | Statement.insertCertificate agent tenant =>
      ((db.insertCertificate agent (issueAgentCert agent tenant x.serial)).getD db,
        [])
  | Statement.findForSession order =>
      match db.findAgent order.tenantId order.agentId with
      | none => (db, [])
      | some _ => (db, [Instr.hub (HubCall.isConnectedSession order)])
  | Statement.activeForAgent order =>
      (db,
        if db.activeForAgent order.agentId x.now then []
        else [Instr.sql (Statement.createSession order)])
  | Statement.createSession order =>
      match x.id with
      | none => (db, [])
      | some id =>
          match db.createSession id order.tenantId order.agentId order.userId
              order.mode x.viewerToken x.agentToken ttl x.now with
          | none => (db, [])
          | some (db', row) =>
              (db', [Instr.relay (RelayCall.register row order.agentId)])
  | Statement.findForStop agentId tenantId sessionId =>
      match db.findSession tenantId sessionId with
      | none => (db, [])
      | some row =>
          (db,
            if row.agentId.text = agentId ∧ row.status ≠ SessionStatus.ended then
              [Instr.hub (HubCall.lookup agentId (stopMessage row.id x.now)
                (Caller.stopSession row.id))]
            else [])
  | Statement.findForWakeUp agentId tenantId =>
      match db.findAgent tenantId agentId, x.id with
      | some _, some id => (db, [Instr.hub (HubCall.isConnectedWakeUp agentId id)])
      | _, _ => (db, [])
  | Statement.markEnded id reason => (db.markEnded id reason x.now, [])

namespace Server

/-- A step that ends in a panic. -/
def panic (s : Server) : Outcome Server Instr where
  shared := { s with panicked := true }
  cont := []
  spawned := []

/-- A step that changes nothing but the program of its goroutine. -/
def goOn (s : Server) (cont : List Instr) : Outcome Server Instr where
  shared := s
  cont := cont
  spawned := []

/-- The history after a statement that generated `id`. -/
def insertion (s : Server) (id : Uuid) (db : Database) : Server :=
  { s with
    db := db
    log :=
      { s.log with
        issued := id :: s.log.issued
        commands := s.log.commands ++ db.commands.filter fun r => r.id = id } }

/-- The history after another statement. -/
def update (s : Server) (st : Statement) (db : Database) : Server :=
  { s with
    db := db
    log :=
      match st with
      | Statement.setOnline _ c => { s.log with greeted := c :: s.log.greeted }
      | _ => s.log }

/-- A failing statement has no effect, and its handler stops or goes on with its
next step; an identifier is generated at most once. -/
def performSql (st : Statement) (x : Input) (s : Server) :
    Option (Outcome Server Instr) :=
  if x.fails then some (s.goOn [])
  else if st.generatesId then
    match x.id with
    | none => none
    | some id =>
        if id ∈ s.log.issued then none
        else
          some
            { shared := s.insertion id (st.exec s.sessionTTL x s.db).1
              cont := (st.exec s.sessionTTL x s.db).2
              spawned := [] }
  else
    some
      { shared := s.update st (st.exec s.sessionTTL x s.db).1
        cont := (st.exec s.sessionTTL x s.db).2
        spawned := [] }

/-!
## Hub calls
-/

/-- `NewClient` and `Register`; the `ReadPump` goes on in the goroutine of the
handler, the `WritePump` gets one of its own. -/
def performRegister (agentId tenantId : String) (s : Server) :
    Outcome Server Instr :=
  let c := s.nextClient
  match (s.hub.setClient c (newClient agentId tenantId)).register c with
  | none => s.panic
  | some hub =>
      { shared := { s with hub := hub, nextClient := c + 1 }
        cont := [Instr.conn (ConnCall.readPump c)]
        spawned := [[Instr.conn (ConnCall.writePump c)]] }

def performUnregister (c : ClientId) (s : Server) : Outcome Server Instr :=
  match s.hub.unregister c with
  | none => s.panic
  | some (hub, wasCurrent) =>
      { shared := { s with hub := hub }
        cont := if wasCurrent then markOffline (s.hub.heap c).agentId c else []
        spawned := [] }

/-- `Disconnect`, and the answer of `RevokeCertificate` that follows it. -/
def performDisconnect (agent : Uuid) (agentId : String) (s : Server) :
    Outcome Server Instr :=
  match s.hub.disconnect agentId with
  | none => s.panic
  | some (hub, _) =>
      { shared := { s with hub := hub }
        cont :=
          (match s.hub.clients agentId with
            | none => []
            | some c => markOffline agentId c) ++
            [Instr.reply (Reply.revoked agent)]
        spawned := [] }

def performHub (x : Input) (s : Server) : HubCall -> Outcome Server Instr
  | HubCall.register agentId tenantId => performRegister agentId tenantId s
  | HubCall.unregister c => performUnregister c s
  | HubCall.disconnect agent agentId => performDisconnect agent agentId s
  | HubCall.lookup agentId msg caller =>
      s.goOn
        (match s.hub.clients agentId with
          | some c => [Instr.conn (ConnCall.send c msg caller)]
          | none => afterSend caller false)
  | HubCall.isConnectedCommand id order =>
      s.goOn
        (if s.hub.isConnected order.agentId then
          [Instr.hub (HubCall.lookup order.agentId
            (commandMessage id order.type order.payload x.now)
            (Caller.command id))]
        else [])
  | HubCall.isConnectedSession order =>
      s.goOn
        (if s.hub.isConnected order.agentId then
          [Instr.sql (Statement.activeForAgent order)]
        else [])
  | HubCall.isConnectedWakeUp agentId id =>
      s.goOn
        (if s.hub.isConnected agentId then
          [Instr.hub (HubCall.lookup agentId (wakeUpMessage id x.now)
            Caller.wakeUp)]
        else [])

/-!
## Operations on connections
-/

/-- `Client.Send`. -/
def performSend (c : ClientId) (msg : Envelope) (caller : Caller) (s : Server) :
    Outcome Server Instr :=
  match (s.hub.heap c).send msg with
  | none => s.panic
  | some (client, sent) =>
      { shared :=
          { s with
            hub := s.hub.setClient c client
            log :=
              if sent then
                { s.log with accepted := s.log.accepted ++ [(c, msg, caller)] }
              else s.log }
        cont := afterSend caller sent
        spawned := [] }

/-- One step of `WritePump`, which returns when its pump has stopped. -/
def performWritePump (c : ClientId) (x : Input) (s : Server) :
    Option (Outcome Server Instr) :=
  match (s.hub.heap c).writePump x.choice x.fails with
  | none => none
  | some (client, _) =>
      some
        { shared := { s with hub := s.hub.setClient c client }
          cont :=
            match client.pump with
            | PumpState.stopped => []
            | _ => [Instr.conn (ConnCall.writePump c)]
          spawned := [] }

def performConn (x : Input) (s : Server) :
    ConnCall -> Option (Outcome Server Instr)
  | ConnCall.upgrade agentId tenantId =>
      some
        (s.goOn
          (if x.fails then []
          else [Instr.hub (HubCall.register agentId tenantId)]))
  | ConnCall.upgradeDesktop side row =>
      some
        (s.goOn
          (if x.fails then [] else [Instr.relay (RelayCall.attach side row)]))
  | ConnCall.readPump c =>
      some
        (s.goOn
          (match x.message with
            | none => [Instr.hub (HubCall.unregister c)]
            | some msg =>
                dispatch c (s.hub.heap c).agentId (s.hub.heap c).tenantId x.now msg ++
                  [Instr.conn (ConnCall.readPump c)]))
  | ConnCall.writePump c => performWritePump c x s
  | ConnCall.send c msg caller => some (performSend c msg caller s)

/-!
## Relay calls
-/

/-- A new state of the relay; the sessions it has made are born now. -/
def setRelay (s : Server) (r : Relay) : Server :=
  { s with
    relay := r
    log :=
      { s.log with
        born := s.log.born ++
          List.replicate (r.heap.length - s.relay.heap.length) s.nextClient } }

def performRelay (x : Input) (s : Server) : RelayCall -> Outcome Server Instr
  | RelayCall.register row agentId =>
      match s.relay.register row.id agentId row.mode with
      | none =>
          s.goOn [Instr.sql (Statement.markEnded row.id "relay_registration_failed")]
      | some (r, ref) =>
          { shared := s.setRelay r
            cont :=
              [Instr.hub (HubCall.lookup agentId
                (startMessage s.wsEndpoint row.id row.mode row.agentToken x.now)
                (Caller.startSession row.id))]
            spawned := [[Instr.relay (RelayCall.waitPairTimeout ref)]] }
  | RelayCall.attach side row =>
      let (r, result) := s.relay.attach side row.id row.agentId.text row.mode
      { shared := s.setRelay r
        cont := []
        spawned :=
          match result with
          | Attached.ready ref => [[Instr.relay (RelayCall.pump ref)]]
          | Attached.waiting ref true =>
              [[Instr.relay (RelayCall.waitPairTimeout ref)]]
          | _ => [] }
  | RelayCall.waitPairTimeout ref =>
      s.goOn
        (if s.relay.stillWaiting ref then
          [Instr.relay (RelayCall.finish ref "pair_timeout" none)]
        else [])
  | RelayCall.pump ref =>
      s.goOn [Instr.relay (RelayCall.finish ref "connection_closed" none)]
  | RelayCall.finish ref reason _ =>
      match s.relay.finish ref with
      | none => s.goOn []
      | some (r, ls) =>
          { shared := s.setRelay r
            cont := [Instr.sql (Statement.markEnded ls.sessionId reason)]
            spawned :=
              [[Instr.relay (RelayCall.expireTombstone ls.sessionId)]] }
  | RelayCall.endSessionsForAgent agentId origin =>
      s.goOn
        ((s.relay.sessionsForAgent agentId).map fun ref =>
          Instr.relay (RelayCall.finish ref "agent_offline" (some origin)))
  | RelayCall.endSession id reason orMark =>
      s.goOn
        (match s.relay.sessions id with
          | some ref => [Instr.relay (RelayCall.finish ref reason none)]
          | none =>
              if orMark then [Instr.sql (Statement.markEnded id reason)] else [])
  | RelayCall.expireTombstone id =>
      { shared := s.setRelay (s.relay.expireTombstone id)
        cont := []
        spawned := [] }

def performReply (s : Server) : Reply -> Outcome Server Instr
  | Reply.revoked agent =>
      { shared :=
          { s with log := { s.log with revoked := agent :: s.log.revoked } }
        cont := []
        spawned := [] }
  | Reply.deleted agentId =>
      { shared :=
          { s with log := { s.log with deleted := agentId :: s.log.deleted } }
        cont := []
        spawned := [] }

/-- One step of a goroutine; a panic stops the server. -/
def perform (k : Instr) (x : Input) (s : Server) :
    Option (Outcome Server Instr) :=
  if s.panicked then none
  else
    match k with
    | Instr.sql st => performSql st x s
    | Instr.hub call => some (performHub x s call)
    | Instr.conn call => performConn x s call
    | Instr.relay call => some (performRelay x s call)
    | Instr.reply r => some (performReply s r)

end Server

abbrev State := Pool Server Instr

abbrev Event := PoolEvent Request Input

/-- The server: any goroutine may take the next step, and requests may come at
any time. -/
def server : Machine State Event :=
  Pool.machine entry Server.perform

/-- A server that has just been started over an existing database. -/
def boot (wsEndpoint : String) (sessionTTL : Nat) (db : Database)
    (issued : List Uuid) : State where
  shared :=
    { wsEndpoint := wsEndpoint
      sessionTTL := sessionTTL
      db := db
      hub := { clients := fun _ => none, heap := fun _ => newClient "" "" }
      relay := Relay.new
      nextClient := 0
      panicked := false
      log :=
        { accepted := []
          greeted := []
          born := []
          issued := issued
          commands := db.commands
          revoked := []
          deleted := [] } }
  procs := []

/-!
## An installation with one agent

The concrete runs of the later modules start from it.
-/

namespace Sample

def tenant : Uuid where
  text := "7e000000-0000-4000-8000-000000000001"
  canonical := by decide

def agent : Uuid where
  text := "a0000000-0000-4000-8000-000000000001"
  canonical := by decide

def cert : Certificate := issueAgentCert agent tenant 1

def database : Database where
  agents :=
    [{ id := agent
       tenantId := tenant
       status := AgentStatus.offline
       lastSeenAt := none
       updatedAt := 0 }]
  certificates :=
    [{ agentId := agent
       thumbprint := cert
       revokedAt := none
       revokeReason := none }]
  commands := []
  patches := []
  sessions := []

def start : State :=
  boot "wss://leo/ws/remote-desktop" 60 database [tenant, agent]

/-- Goroutine `i` takes a step in which nothing fails. -/
def go (i : Nat) : Event :=
  PoolEvent.exec i {}

/-- The agent connects: goroutine `i` does the handshake and becomes the
`ReadPump`. -/
def connect (i : Nat) : List Event :=
  [PoolEvent.start (Request.connect cert), go i, go i, go i]

/-- The `ReadPump` in goroutine `i` reads a message. -/
def receive (i : Nat) (msg : Incoming) : Event :=
  PoolEvent.exec i { message := some msg }

def command : Uuid where
  text := "c0000000-0000-4000-8000-000000000001"
  canonical := by decide

/-- A reboot is ordered: goroutine `i` inserts the command. -/
def order (i : Nat) : List Event :=
  [PoolEvent.start
      (Request.createCommand tenant.text agent.text none none CommandType.reboot
        none),
    PoolEvent.exec i { id := some command }]

end Sample

end Backend
end LeoOne
