import LeoOne.Backend.Execution

/-!
# What a step of the server can do

Two relations say once and for all what executing an instruction does: `Leads`
lists the instructions it may make pending, and `Effect` the ways in which it
may change the stores.  Every invariant of the server is derived from these two,
by cases on them.
-/

namespace LeoOne
namespace Backend

open Foundation
open Wire
open Websocket
open RemoteDesktop

/-!
## First instructions of a handler
-/

/-- The handler of the request starts with that instruction. -/
inductive Enters : Request -> Instr -> Prop where
  | connect {cert : Certificate} {tenantId : String} :
      Enters (Request.connect cert)
        (Instr.sql (Statement.checkNotRevoked cert cert.commonName tenantId))
  | attachAgent {cert : Certificate} {token : String} :
      Enters (Request.attachAgent cert token)
        (Instr.sql (Statement.checkDesktopCert cert cert.commonName token))
  | attachViewer {token : String} :
      Enters (Request.attachViewer token)
        (Instr.sql (Statement.consumeToken Side.viewer token none))
  | enroll {tenant : Uuid} :
      Enters (Request.enroll tenant) (Instr.sql (Statement.createAgent tenant))
  | createCommand {tenantId agentId : String}
      {createdBy scheduleId : Option String} {type : CommandType}
      {payload : Option RawMessage} {order : CommandOrder} :
      Enters
        (Request.createCommand tenantId agentId createdBy scheduleId type payload)
        (Instr.sql (Statement.insertCommand order))
  | revokeCertificate {a t : String} :
      Enters (Request.revokeCertificate a t)
        (Instr.sql (Statement.findForRevoke a t))
  | delete {a t : String} :
      Enters (Request.delete a t) (Instr.sql (Statement.deleteAgent a t))
  | createSession {order : SessionOrder} :
      Enters (Request.createSession order)
        (Instr.sql (Statement.findForSession order))
  | stopSession {a t sid : String} :
      Enters (Request.stopSession a t sid)
        (Instr.sql (Statement.findForStop a t sid))
  | wakeUp {a t : String} :
      Enters (Request.wakeUp a t) (Instr.sql (Statement.findForWakeUp a t))

theorem parseCert_agentId {cert : Certificate} {a t : String}
    (h : parseCert cert = some (a, t)) : a = cert.commonName := by
  unfold parseCert at h
  split at h
  · cases h
  · split at h
    · cases h
    · cases h
      rfl

theorem enters_of_mem_entry {r : Request} {j : Instr} (h : j ∈ entry r) :
    Enters r j := by
  cases r with
  | connect cert =>
      simp only [entry] at h
      split at h
      · cases h
      · rename_i a t hparse
        rw [List.mem_singleton] at h
        subst h
        rw [parseCert_agentId hparse]
        exact Enters.connect
  | attachAgent cert token =>
      simp only [entry] at h
      split at h
      · cases h
      · rename_i a t hparse
        split at h
        · cases h
        · rw [List.mem_singleton] at h
          subst h
          rw [parseCert_agentId hparse]
          exact Enters.attachAgent
  | attachViewer token =>
      simp only [entry] at h
      split at h
      · cases h
      · rw [List.mem_singleton] at h
        subst h
        exact Enters.attachViewer
  | enroll tenant =>
      simp only [entry, List.mem_singleton] at h
      subst h
      exact Enters.enroll
  | createCommand tenantId agentId createdBy scheduleId type payload =>
      simp only [entry, List.mem_singleton] at h
      subst h
      exact Enters.createCommand
  | revokeCertificate a t =>
      simp only [entry, List.mem_singleton] at h
      subst h
      exact Enters.revokeCertificate
  | delete a t =>
      simp only [entry, List.mem_singleton] at h
      subst h
      exact Enters.delete
  | createSession order =>
      simp only [entry, List.mem_singleton] at h
      subst h
      exact Enters.createSession
  | stopSession a t sid =>
      simp only [entry, List.mem_singleton] at h
      subst h
      exact Enters.stopSession
  | wakeUp a t =>
      simp only [entry, List.mem_singleton] at h
      subst h
      exact Enters.wakeUp

/-!
## Successors of an instruction
-/

/-- In server state `s`, executing the first instruction may make the second one
pending. -/
inductive Leads (s : Server) (x : Input) : Instr -> Instr -> Prop where
  | upgrade {cert : Certificate} {a t : String} :
      s.db.checkNotRevoked cert = true ->
      Leads s x (Instr.sql (Statement.checkNotRevoked cert a t))
        (Instr.conn (ConnCall.upgrade a t))
  | consume {cert : Certificate} {a token : String} :
      s.db.checkNotRevoked cert = true ->
      Leads s x (Instr.sql (Statement.checkDesktopCert cert a token))
        (Instr.sql (Statement.consumeToken Side.agent token (some a)))
  | upgradeDesktop {side : Side} {token : String} {a : Option String}
      {db : Database} {row : SessionRow} :
      s.db.consumeToken side token x.now = some (db, row) ->
      Leads s x (Instr.sql (Statement.consumeToken side token a))
        (Instr.conn (ConnCall.upgradeDesktop side row))
  | redeliver {a : String} {c : ClientId} {r : CommandRow} :
      r ∈ s.db.pendingCommands a ->
      Leads s x (Instr.sql (Statement.selectPending a c))
        (Instr.conn (ConnCall.send c (commandMessage r.id r.type r.payload x.now)
          (Caller.redelivery r.id)))
  | installResult {a t : String} {body : CmdResultBody} {db : Database}
      {row : CommandRow} {ids : List String} :
      x.fails = false ->
      s.db.recordResult t body x.now = some (db, row) ->
      row.type = CommandType.installPatches ->
      patchIds row.payload.value = some ids ->
      Leads s x (Instr.sql (Statement.recordResult a t body))
        (Instr.sql (Statement.markInstallResult a t ids (body.exitCode = 0)))
  | created {order : CommandOrder} {id : Uuid} :
      x.fails = false -> x.id = some id ->
      Leads s x (Instr.sql (Statement.insertCommand order))
        (Instr.hub (HubCall.isConnectedCommand id order))
  | revoke {a t : String} {row : AgentRow} :
      s.db.findAgent t a = some row ->
      Leads s x (Instr.sql (Statement.findForRevoke a t))
        (Instr.sql (Statement.revokeCertificates row.id a))
  | disconnect {agent : Uuid} {a : String} :
      x.fails = false ->
      Leads s x (Instr.sql (Statement.revokeCertificates agent a))
        (Instr.hub (HubCall.disconnect agent a))
  | deleted {a t : String} :
      x.fails = false ->
      Leads s x (Instr.sql (Statement.deleteAgent a t))
        (Instr.reply (Reply.deleted a))
  | certify {tenant id : Uuid} :
      x.fails = false -> x.id = some id ->
      Leads s x (Instr.sql (Statement.createAgent tenant))
        (Instr.sql (Statement.insertCertificate id tenant))
  | sessionFound {order : SessionOrder} {row : AgentRow} :
      s.db.findAgent order.tenantId order.agentId = some row ->
      Leads s x (Instr.sql (Statement.findForSession order))
        (Instr.hub (HubCall.isConnectedSession order))
  | noActiveSession {order : SessionOrder} :
      Leads s x (Instr.sql (Statement.activeForAgent order))
        (Instr.sql (Statement.createSession order))
  | sessionCreated {order : SessionOrder} {db : Database} {id : Uuid}
      {row : SessionRow} :
      s.db.createSession id order.tenantId order.agentId order.userId order.mode
        x.viewerToken x.agentToken s.sessionTTL x.now = some (db, row) ->
      Leads s x (Instr.sql (Statement.createSession order))
        (Instr.relay (RelayCall.register row order.agentId))
  | stop {a t sid : String} {row : SessionRow} :
      s.db.findSession t sid = some row -> row.agentId.text = a ->
      Leads s x (Instr.sql (Statement.findForStop a t sid))
        (Instr.hub (HubCall.lookup a (stopMessage row.id x.now)
          (Caller.stopSession row.id)))
  | wakeUpFound {a t : String} {row : AgentRow} {id : Uuid} :
      s.db.findAgent t a = some row ->
      Leads s x (Instr.sql (Statement.findForWakeUp a t))
        (Instr.hub (HubCall.isConnectedWakeUp a id))
  | startReadPump {a t : String} :
      Leads s x (Instr.hub (HubCall.register a t))
        (Instr.conn (ConnCall.readPump s.nextClient))
  | startWritePump {a t : String} :
      Leads s x (Instr.hub (HubCall.register a t))
        (Instr.conn (ConnCall.writePump s.nextClient))
  | unregisteredOffline {c : ClientId} :
      s.hub.clients (s.hub.heap c).agentId = some c ->
      Leads s x (Instr.hub (HubCall.unregister c))
        (Instr.sql (Statement.setOffline (s.hub.heap c).agentId c))
  | unregisteredSessions {c : ClientId} :
      s.hub.clients (s.hub.heap c).agentId = some c ->
      Leads s x (Instr.hub (HubCall.unregister c))
        (Instr.relay (RelayCall.endSessionsForAgent (s.hub.heap c).agentId c))
  | disconnectedOffline {agent : Uuid} {a : String} {c : ClientId} :
      s.hub.clients a = some c ->
      Leads s x (Instr.hub (HubCall.disconnect agent a))
        (Instr.sql (Statement.setOffline a c))
  | disconnectedSessions {agent : Uuid} {a : String} {c : ClientId} :
      s.hub.clients a = some c ->
      Leads s x (Instr.hub (HubCall.disconnect agent a))
        (Instr.relay (RelayCall.endSessionsForAgent a c))
  | revoked {agent : Uuid} {a : String} :
      Leads s x (Instr.hub (HubCall.disconnect agent a))
        (Instr.reply (Reply.revoked agent))
  | found {a : String} {msg : Envelope} {caller : Caller} {c : ClientId} :
      s.hub.clients a = some c ->
      Leads s x (Instr.hub (HubCall.lookup a msg caller))
        (Instr.conn (ConnCall.send c msg caller))
  | notFoundMark {a : String} {msg : Envelope} {caller : Caller} {id : Uuid} :
      s.hub.clients a = none -> caller.marks = some id ->
      Leads s x (Instr.hub (HubCall.lookup a msg caller))
        (Instr.sql (Statement.markSent id))
  | notFoundEnd {a : String} {msg : Envelope} {caller : Caller} {id : Uuid}
      {reason : String} {orMark : Bool} :
      Leads s x (Instr.hub (HubCall.lookup a msg caller))
        (Instr.relay (RelayCall.endSession id reason orMark))
  | commandConnected {id : Uuid} {order : CommandOrder} :
      s.hub.isConnected order.agentId = true ->
      Leads s x (Instr.hub (HubCall.isConnectedCommand id order))
        (Instr.hub (HubCall.lookup order.agentId
          (commandMessage id order.type order.payload x.now)
          (Caller.command id)))
  | sessionConnected {order : SessionOrder} :
      s.hub.isConnected order.agentId = true ->
      Leads s x (Instr.hub (HubCall.isConnectedSession order))
        (Instr.sql (Statement.activeForAgent order))
  | wakeUpConnected {a : String} {id : Uuid} :
      s.hub.isConnected a = true ->
      Leads s x (Instr.hub (HubCall.isConnectedWakeUp a id))
        (Instr.hub (HubCall.lookup a (wakeUpMessage id x.now) Caller.wakeUp))
  | upgraded {a t : String} :
      Leads s x (Instr.conn (ConnCall.upgrade a t))
        (Instr.hub (HubCall.register a t))
  | upgradedDesktop {side : Side} {row : SessionRow} :
      Leads s x (Instr.conn (ConnCall.upgradeDesktop side row))
        (Instr.relay (RelayCall.attach side row))
  | readError {c : ClientId} :
      Leads s x (Instr.conn (ConnCall.readPump c))
        (Instr.hub (HubCall.unregister c))
  | read {c : ClientId} {msg : Incoming} {k : Instr} :
      x.message = some msg ->
      Handles c (s.hub.heap c).agentId (s.hub.heap c).tenantId x.now msg k ->
      Leads s x (Instr.conn (ConnCall.readPump c)) k
  | readNext {c : ClientId} :
      Leads s x (Instr.conn (ConnCall.readPump c))
        (Instr.conn (ConnCall.readPump c))
  | writeNext {c : ClientId} :
      Leads s x (Instr.conn (ConnCall.writePump c))
        (Instr.conn (ConnCall.writePump c))
  | sentMark {c : ClientId} {msg : Envelope} {caller : Caller} {id : Uuid}
      {client : Client Envelope} {ok : Bool} :
      (s.hub.heap c).send msg = some (client, ok) -> caller.marks = some id ->
      Leads s x (Instr.conn (ConnCall.send c msg caller))
        (Instr.sql (Statement.markSent id))
  | sentEnd {c : ClientId} {msg : Envelope} {caller : Caller} {id : Uuid}
      {reason : String} {orMark : Bool} :
      Leads s x (Instr.conn (ConnCall.send c msg caller))
        (Instr.relay (RelayCall.endSession id reason orMark))
  | sessionRefused {row : SessionRow} {a : String} :
      Leads s x (Instr.relay (RelayCall.register row a))
        (Instr.sql (Statement.markEnded row.id "relay_registration_failed"))
  | sessionStart {row : SessionRow} {a : String} :
      Leads s x (Instr.relay (RelayCall.register row a))
        (Instr.hub (HubCall.lookup a
          (startMessage s.wsEndpoint row.id row.mode row.agentToken x.now)
          (Caller.startSession row.id)))
  | sessionWait {row : SessionRow} {a : String} {ref : SessionRef} :
      Leads s x (Instr.relay (RelayCall.register row a))
        (Instr.relay (RelayCall.waitPairTimeout ref))
  | attachedPump {side : Side} {row : SessionRow} {ref : SessionRef} :
      Leads s x (Instr.relay (RelayCall.attach side row))
        (Instr.relay (RelayCall.pump ref))
  | attachedWait {side : Side} {row : SessionRow} {ref : SessionRef} :
      Leads s x (Instr.relay (RelayCall.attach side row))
        (Instr.relay (RelayCall.waitPairTimeout ref))
  | pairTimeout {ref : SessionRef} :
      Leads s x (Instr.relay (RelayCall.waitPairTimeout ref))
        (Instr.relay (RelayCall.finish ref "pair_timeout" none))
  | connectionClosed {ref : SessionRef} :
      Leads s x (Instr.relay (RelayCall.pump ref))
        (Instr.relay (RelayCall.finish ref "connection_closed" none))
  | finished {ref : SessionRef} {reason : String} {origin : Option ClientId}
      {id : Uuid} :
      Leads s x (Instr.relay (RelayCall.finish ref reason origin))
        (Instr.sql (Statement.markEnded id reason))
  | tombstone {ref : SessionRef} {reason : String} {origin : Option ClientId}
      {id : Uuid} :
      Leads s x (Instr.relay (RelayCall.finish ref reason origin))
        (Instr.relay (RelayCall.expireTombstone id))
  | agentOffline {a : String} {origin : ClientId} {ref : SessionRef} :
      ref ∈ s.relay.sessionsForAgent a ->
      Leads s x (Instr.relay (RelayCall.endSessionsForAgent a origin))
        (Instr.relay (RelayCall.finish ref "agent_offline" (some origin)))
  | endKnown {id : Uuid} {reason : String} {orMark : Bool} {ref : SessionRef} :
      Leads s x (Instr.relay (RelayCall.endSession id reason orMark))
        (Instr.relay (RelayCall.finish ref reason none))
  | endUnknown {id : Uuid} {reason : String} {orMark : Bool} :
      Leads s x (Instr.relay (RelayCall.endSession id reason orMark))
        (Instr.sql (Statement.markEnded id reason))

theorem leads_exec {s : Server} {x : Input} {st : Statement} {j : Instr}
    (hok : x.fails = false) (hj : j ∈ (st.exec s.sessionTTL x s.db).2) :
    Leads s x (Instr.sql st) j := by
  cases st with
  | checkNotRevoked cert a t =>
      simp only [Statement.exec] at hj
      split at hj
      · rename_i hcheck
        rw [List.mem_singleton] at hj
        subst hj
        exact Leads.upgrade hcheck
      · cases hj
  | checkDesktopCert cert a token =>
      simp only [Statement.exec] at hj
      split at hj
      · rename_i hcheck
        rw [List.mem_singleton] at hj
        subst hj
        exact Leads.consume hcheck
      · cases hj
  | consumeToken side token a =>
      simp only [Statement.exec] at hj
      split at hj
      · cases hj
      · rename_i db row hconsume
        have heq : j = Instr.conn (ConnCall.upgradeDesktop side row) := by
          cases a with
          | none =>
              simpa using hj
          | some b =>
              simp only at hj
              split at hj
              · simpa using hj
              · cases hj
        subst heq
        exact Leads.upgradeDesktop hconsume
  | setOnline a c =>
      cases hj
  | setOffline a c =>
      cases hj
  | selectPending a c =>
      simp only [Statement.exec, redeliverPendingCommands, List.mem_map] at hj
      rcases hj with ⟨r, hr, rfl⟩
      exact Leads.redeliver hr
  | markSent id =>
      cases hj
  | recordResult a t body =>
      simp only [Statement.exec] at hj
      split at hj
      · cases hj
      · rename_i db row hresult
        unfold afterResult at hj
        split at hj
        · rename_i htype
          split at hj
          · cases hj
          · rename_i ids hids
            rw [List.mem_singleton] at hj
            subst hj
            exact Leads.installResult hok hresult htype hids
        · cases hj
  | markInstallResult a t ids ok =>
      cases hj
  | recordProgress a t body =>
      cases hj
  | upsertPatches a t reports =>
      cases hj
  | insertCommand order =>
      simp only [Statement.exec] at hj
      split at hj
      · cases hj
      · rename_i id hid
        split at hj
        · cases hj
        · rw [List.mem_singleton] at hj
          subst hj
          exact Leads.created hok hid
  | findForRevoke a t =>
      simp only [Statement.exec] at hj
      split at hj
      · cases hj
      · rename_i row hfind
        rw [List.mem_singleton] at hj
        subst hj
        exact Leads.revoke hfind
  | revokeCertificates agent a =>
      simp only [Statement.exec, List.mem_singleton] at hj
      subst hj
      exact Leads.disconnect hok
  | deleteAgent a t =>
      simp only [Statement.exec] at hj
      split at hj
      · rw [List.mem_singleton] at hj
        subst hj
        exact Leads.deleted hok
      · cases hj
  | createAgent tenant =>
      simp only [Statement.exec] at hj
      split at hj
      · cases hj
      · rename_i id hid
        rw [List.mem_singleton] at hj
        subst hj
        exact Leads.certify hok hid
  | insertCertificate agent tenant =>
      cases hj
  | findForSession order =>
      simp only [Statement.exec] at hj
      split at hj
      · cases hj
      · rename_i row hfind
        rw [List.mem_singleton] at hj
        subst hj
        exact Leads.sessionFound hfind
  | activeForAgent order =>
      simp only [Statement.exec] at hj
      split at hj
      · cases hj
      · rw [List.mem_singleton] at hj
        subst hj
        exact Leads.noActiveSession
  | createSession order =>
      simp only [Statement.exec] at hj
      split at hj
      · cases hj
      · split at hj
        · cases hj
        · rename_i hcreate
          rw [List.mem_singleton] at hj
          subst hj
          exact Leads.sessionCreated hcreate
  | findForStop a t sid =>
      simp only [Statement.exec] at hj
      split at hj
      · cases hj
      · rename_i row hfind
        split at hj
        · rename_i hcond
          rw [List.mem_singleton] at hj
          subst hj
          exact Leads.stop hfind hcond.left
        · cases hj
  | findForWakeUp a t =>
      simp only [Statement.exec] at hj
      split at hj
      · rename_i row id hfind hid
        rw [List.mem_singleton] at hj
        subst hj
        exact Leads.wakeUpFound hfind
      · cases hj
  | markEnded id reason =>
      cases hj

theorem leads_performSql {s : Server} {x : Input} {st : Statement}
    {o : Outcome Server Instr} (h : Server.performSql st x s = some o) {j : Instr}
    (hj : j ∈ o.created) : Leads s x (Instr.sql st) j := by
  unfold Server.performSql at h
  split at h
  · cases h
    cases hj
  · rename_i hfails
    have hok : x.fails = false := by simpa using hfails
    split at h
    · split at h
      · cases h
      · split at h
        · cases h
        · cases h
          rw [Outcome.created, List.flatten_nil, List.append_nil] at hj
          exact leads_exec hok hj
    · cases h
      rw [Outcome.created, List.flatten_nil, List.append_nil] at hj
      exact leads_exec hok hj

@[simp] theorem created_goOn (s : Server) (ks : List Instr) :
    (s.goOn ks).created = ks := by
  simp [Server.goOn, Outcome.created]

theorem leads_performHub {s : Server} {x : Input} {call : HubCall} {j : Instr}
    (hj : j ∈ (Server.performHub x s call).created) :
    Leads s x (Instr.hub call) j := by
  cases call with
  | register a t =>
      simp only [Server.performHub, Server.performRegister] at hj
      split at hj
      · cases hj
      · simp only [Outcome.created, List.flatten_cons, List.flatten_nil,
          List.append_nil, List.mem_append, List.mem_singleton] at hj
        rcases hj with rfl | rfl
        · exact Leads.startReadPump
        · exact Leads.startWritePump
  | unregister c =>
      simp only [Server.performHub, Server.performUnregister] at hj
      split at hj
      · cases hj
      · rename_i hub wasCurrent hunreg
        simp only [Outcome.created, List.flatten_nil, List.append_nil] at hj
        split at hj
        · rename_i htrue
          subst htrue
          have hcur : s.hub.clients (s.hub.heap c).agentId = some c := by
            unfold Hub.unregister at hunreg
            split at hunreg
            · assumption
            · cases hunreg
          rcases mem_markOffline hj with rfl | rfl
          · exact Leads.unregisteredOffline hcur
          · exact Leads.unregisteredSessions hcur
        · cases hj
  | disconnect agent a =>
      simp only [Server.performHub, Server.performDisconnect] at hj
      split at hj
      · cases hj
      · simp only [Outcome.created, List.flatten_nil, List.append_nil,
          List.mem_append, List.mem_singleton] at hj
        rcases hj with hj | rfl
        · split at hj
          · cases hj
          · rename_i c hcur
            rcases mem_markOffline hj with rfl | rfl
            · exact Leads.disconnectedOffline hcur
            · exact Leads.disconnectedSessions hcur
        · exact Leads.revoked
  | lookup a msg caller =>
      simp only [Server.performHub, created_goOn] at hj
      split at hj
      · rename_i c hcur
        rw [List.mem_singleton] at hj
        subst hj
        exact Leads.found hcur
      · rename_i hnone
        rcases mem_afterSend hj with ⟨id, hid, rfl⟩ | ⟨id, reason, orMark, rfl⟩
        · exact Leads.notFoundMark hnone hid
        · exact Leads.notFoundEnd
  | isConnectedCommand id order =>
      simp only [Server.performHub, created_goOn] at hj
      split at hj
      · rename_i hconn
        rw [List.mem_singleton] at hj
        subst hj
        exact Leads.commandConnected hconn
      · cases hj
  | isConnectedSession order =>
      simp only [Server.performHub, created_goOn] at hj
      split at hj
      · rename_i hconn
        rw [List.mem_singleton] at hj
        subst hj
        exact Leads.sessionConnected hconn
      · cases hj
  | isConnectedWakeUp a id =>
      simp only [Server.performHub, created_goOn] at hj
      split at hj
      · rename_i hconn
        rw [List.mem_singleton] at hj
        subst hj
        exact Leads.wakeUpConnected hconn
      · cases hj

theorem leads_performConn {s : Server} {x : Input} {call : ConnCall}
    {o : Outcome Server Instr} (h : Server.performConn x s call = some o)
    {j : Instr} (hj : j ∈ o.created) : Leads s x (Instr.conn call) j := by
  cases call with
  | upgrade a t =>
      cases h
      rw [created_goOn] at hj
      split at hj
      · cases hj
      · rw [List.mem_singleton] at hj
        subst hj
        exact Leads.upgraded
  | upgradeDesktop side row =>
      cases h
      rw [created_goOn] at hj
      split at hj
      · cases hj
      · rw [List.mem_singleton] at hj
        subst hj
        exact Leads.upgradedDesktop
  | readPump c =>
      cases h
      rw [created_goOn] at hj
      split at hj
      · rw [List.mem_singleton] at hj
        subst hj
        exact Leads.readError
      · rename_i msg hmsg
        rcases List.mem_append.mp hj with hdispatch | hnext
        · exact Leads.read hmsg (handles_of_mem_dispatch hdispatch)
        · rw [List.mem_singleton] at hnext
          subst hnext
          exact Leads.readNext
  | writePump c =>
      simp only [Server.performConn, Server.performWritePump] at h
      split at h
      · cases h
      · cases h
        simp only [Outcome.created, List.flatten_nil, List.append_nil] at hj
        split at hj
        · cases hj
        · rw [List.mem_singleton] at hj
          subst hj
          exact Leads.writeNext
  | send c msg caller =>
      simp only [Server.performConn, Server.performSend] at h
      cases h
      split at hj
      · cases hj
      · rename_i client ok hsend
        simp only [Outcome.created, List.flatten_nil, List.append_nil] at hj
        rcases mem_afterSend hj with ⟨id, hid, rfl⟩ | ⟨id, reason, orMark, rfl⟩
        · exact Leads.sentMark hsend hid
        · exact Leads.sentEnd

theorem leads_performRelay {s : Server} {x : Input} {call : RelayCall} {j : Instr}
    (hj : j ∈ (Server.performRelay x s call).created) :
    Leads s x (Instr.relay call) j := by
  cases call with
  | register row a =>
      simp only [Server.performRelay] at hj
      split at hj
      · rw [created_goOn, List.mem_singleton] at hj
        subst hj
        exact Leads.sessionRefused
      · simp only [Outcome.created, List.flatten_cons, List.flatten_nil,
          List.append_nil, List.mem_append, List.mem_singleton] at hj
        rcases hj with rfl | rfl
        · exact Leads.sessionStart
        · exact Leads.sessionWait
  | attach side row =>
      simp only [Server.performRelay, Outcome.created, List.nil_append] at hj
      split at hj
      · simp only [List.flatten_cons, List.flatten_nil, List.append_nil,
          List.mem_singleton] at hj
        subst hj
        exact Leads.attachedPump
      · simp only [List.flatten_cons, List.flatten_nil, List.append_nil,
          List.mem_singleton] at hj
        subst hj
        exact Leads.attachedWait
      · cases hj
  | waitPairTimeout ref =>
      simp only [Server.performRelay, created_goOn] at hj
      split at hj
      · rw [List.mem_singleton] at hj
        subst hj
        exact Leads.pairTimeout
      · cases hj
  | pump ref =>
      simp only [Server.performRelay, created_goOn, List.mem_singleton] at hj
      subst hj
      exact Leads.connectionClosed
  | finish ref reason origin =>
      simp only [Server.performRelay] at hj
      split at hj
      · cases hj
      · simp only [Outcome.created, List.flatten_cons, List.flatten_nil,
          List.append_nil, List.mem_append, List.mem_singleton] at hj
        rcases hj with rfl | rfl
        · exact Leads.finished
        · exact Leads.tombstone
  | endSessionsForAgent a origin =>
      simp only [Server.performRelay, created_goOn, List.mem_map] at hj
      rcases hj with ⟨ref, href, rfl⟩
      exact Leads.agentOffline href
  | endSession id reason orMark =>
      simp only [Server.performRelay, created_goOn] at hj
      split at hj
      · rw [List.mem_singleton] at hj
        subst hj
        exact Leads.endKnown
      · split at hj
        · rw [List.mem_singleton] at hj
          subst hj
          exact Leads.endUnknown
        · cases hj
  | expireTombstone id =>
      cases hj

/-- Every instruction that a step makes pending is listed by `Leads`. -/
theorem leads_of_perform {s : Server} {x : Input} {k : Instr}
    {o : Outcome Server Instr} (h : Server.perform k x s = some o) {j : Instr}
    (hj : j ∈ o.created) : Leads s x k j := by
  unfold Server.perform at h
  split at h
  · cases h
  · cases k with
    | sql st =>
        exact leads_performSql h hj
    | hub call =>
        cases h
        exact leads_performHub hj
    | conn call =>
        exact leads_performConn h hj
    | relay call =>
        cases h
        exact leads_performRelay hj
    | reply r =>
        cases h
        cases r <;> cases hj

/-!
## Effects of an instruction
-/

/-- Instructions that never change a store. -/
def Instr.quiet : Instr -> Bool
  | Instr.hub (HubCall.lookup _ _ _) => true
  | Instr.hub (HubCall.isConnectedCommand _ _) => true
  | Instr.hub (HubCall.isConnectedSession _) => true
  | Instr.hub (HubCall.isConnectedWakeUp _ _) => true
  | Instr.conn (ConnCall.upgrade _ _) => true
  | Instr.conn (ConnCall.upgradeDesktop _ _) => true
  | Instr.conn (ConnCall.readPump _) => true
  | Instr.relay (RelayCall.waitPairTimeout _) => true
  | Instr.relay (RelayCall.pump _) => true
  | Instr.relay (RelayCall.endSessionsForAgent _ _) => true
  | Instr.relay (RelayCall.endSession _ _ _) => true
  | _ => false

/-- The registry of the server agrees with its channels. -/
def Server.HubSound (s : Server) : Prop :=
  s.hub.Consistent (fun c => c < s.nextClient)

/-- The server after a message has been accepted by `Send`. -/
def Server.accept (s : Server) (c : ClientId) (msg : Envelope) (caller : Caller)
    (client : Client Envelope) : Server :=
  { s with
    hub := s.hub.setClient c client
    log := { s.log with accepted := s.log.accepted ++ [(c, msg, caller)] } }

/-- Executing the instruction in server state `s` may lead to that state. -/
inductive Effect (s : Server) (x : Input) : Instr -> Server -> Prop where
  | quiet {k : Instr} : k.quiet = true -> Effect s x k s
  | failed {st : Statement} : x.fails = true -> Effect s x (Instr.sql st) s
  | statement {st : Statement} :
      x.fails = false -> st.generatesId = false ->
      Effect s x (Instr.sql st) (s.update st (st.exec s.sessionTTL x s.db).1)
  | insertion {st : Statement} {id : Uuid} :
      x.fails = false -> st.generatesId = true -> x.id = some id ->
      id ∉ s.log.issued ->
      Effect s x (Instr.sql st) (s.insertion id (st.exec s.sessionTTL x s.db).1)
  | register {a t : String} :
      Effect s x (Instr.hub (HubCall.register a t))
        { s with
          hub := s.hub.addClient s.nextClient a t
          nextClient := s.nextClient + 1 }
  | unregister {c : ClientId} :
      s.hub.clients (s.hub.heap c).agentId = some c ->
      Effect s x (Instr.hub (HubCall.unregister c))
        { s with hub := s.hub.evict (s.hub.heap c).agentId c }
  | superseded {c : ClientId} :
      s.hub.clients (s.hub.heap c).agentId ≠ some c ->
      Effect s x (Instr.hub (HubCall.unregister c)) s
  | disconnect {agent : Uuid} {a : String} {c : ClientId} :
      s.hub.clients a = some c ->
      Effect s x (Instr.hub (HubCall.disconnect agent a))
        { s with hub := s.hub.evict a c }
  | notConnected {agent : Uuid} {a : String} :
      s.hub.clients a = none ->
      Effect s x (Instr.hub (HubCall.disconnect agent a)) s
  | write {c : ClientId} {client : Client Envelope} :
      client.agentId = (s.hub.heap c).agentId ->
      client.tenantId = (s.hub.heap c).tenantId ->
      client.sendChan.closed = (s.hub.heap c).sendChan.closed ->
      Effect s x (Instr.conn (ConnCall.writePump c))
        { s with hub := s.hub.setClient c client }
  | panicked {c : ClientId} {msg : Envelope} {caller : Caller} :
      (s.hub.heap c).sendChan.closed = true ->
      Effect s x (Instr.conn (ConnCall.send c msg caller))
        { s with panicked := true }
  | accept {c : ClientId} {msg : Envelope} {caller : Caller}
      {client : Client Envelope} :
      (s.hub.heap c).send msg = some (client, true) ->
      Effect s x (Instr.conn (ConnCall.send c msg caller))
        (s.accept c msg caller client)
  | full {c : ClientId} {msg : Envelope} {caller : Caller} :
      (s.hub.heap c).sendChan.buf.length = (s.hub.heap c).sendChan.cap ->
      Effect s x (Instr.conn (ConnCall.send c msg caller)) s
  | relayRegister {row : SessionRow} {a : String} {r : Relay} {ref : SessionRef} :
      s.relay.register row.id a row.mode = some (r, ref) ->
      Effect s x (Instr.relay (RelayCall.register row a)) (s.setRelay r)
  | relayRefused {row : SessionRow} {a : String} :
      Effect s x (Instr.relay (RelayCall.register row a)) s
  | attach {side : Side} {row : SessionRow} :
      Effect s x (Instr.relay (RelayCall.attach side row))
        (s.setRelay (s.relay.attach side row.id row.agentId.text row.mode).1)
  | finish {ref : SessionRef} {reason : String} {origin : Option ClientId}
      {r : Relay} {ls : LiveSession} :
      s.relay.finish ref = some (r, ls) ->
      Effect s x (Instr.relay (RelayCall.finish ref reason origin)) (s.setRelay r)
  | finished {ref : SessionRef} {reason : String} {origin : Option ClientId} :
      Effect s x (Instr.relay (RelayCall.finish ref reason origin)) s
  | expire {id : Uuid} :
      Effect s x (Instr.relay (RelayCall.expireTombstone id))
        (s.setRelay (s.relay.expireTombstone id))
  | revoked {agent : Uuid} :
      Effect s x (Instr.reply (Reply.revoked agent))
        { s with log := { s.log with revoked := agent :: s.log.revoked } }
  | deleted {a : String} :
      Effect s x (Instr.reply (Reply.deleted a))
        { s with log := { s.log with deleted := a :: s.log.deleted } }

theorem effect_performSql {s : Server} {x : Input} {st : Statement}
    {o : Outcome Server Instr} (h : Server.performSql st x s = some o) :
    Effect s x (Instr.sql st) o.shared := by
  unfold Server.performSql at h
  split at h
  · rename_i hfails
    cases h
    exact Effect.failed hfails
  · rename_i hfails
    have hok : x.fails = false := by simpa using hfails
    split at h
    · rename_i hgen
      split at h
      · cases h
      · rename_i id hid
        split at h
        · cases h
        · rename_i hnew
          cases h
          exact Effect.insertion hok hgen hid hnew
    · rename_i hgen
      cases h
      exact Effect.statement hok (by simpa using hgen)

/-- A statement that does not fail is executed. -/
theorem Effect.of_statement {s t : Server} {x : Input} {st : Statement}
    (h : Effect s x (Instr.sql st) t) (hok : x.fails = false)
    (hgen : st.generatesId = false) :
    t = s.update st (st.exec s.sessionTTL x s.db).1 := by
  cases h with
  | quiet hquiet =>
      cases hquiet
  | failed hfails =>
      rw [hok] at hfails
      cases hfails
  | statement _ _ =>
      rfl
  | insertion _ hgen' _ _ =>
      rw [hgen] at hgen'
      cases hgen'

/-- So is one that generates an identifier, and the identifier is new. -/
theorem Effect.of_insertion {s t : Server} {x : Input} {st : Statement} {id : Uuid}
    (h : Effect s x (Instr.sql st) t) (hok : x.fails = false)
    (hgen : st.generatesId = true) (hid : x.id = some id) :
    id ∉ s.log.issued ∧ t = s.insertion id (st.exec s.sessionTTL x s.db).1 := by
  cases h with
  | quiet hquiet =>
      cases hquiet
  | failed hfails =>
      rw [hok] at hfails
      cases hfails
  | statement _ hgen' =>
      rw [hgen] at hgen'
      cases hgen'
  | insertion _ _ hid' hnew =>
      rw [hid] at hid'
      cases hid'
      exact ⟨hnew, rfl⟩

theorem effect_performHub {s : Server} (hs : s.HubSound) (x : Input)
    (call : HubCall) :
    Effect s x (Instr.hub call) (Server.performHub x s call).shared := by
  cases call with
  | register a t =>
      have hadd := (Hub.Consistent.addClient hs (Nat.lt_irrefl s.nextClient) a t).left
      simp only [Server.performHub, Server.performRegister, hadd]
      exact Effect.register
  | unregister c =>
      by_cases hcur : s.hub.clients (s.hub.heap c).agentId = some c
      · have hunreg := Hub.unregister_of_current hcur (hs.isOpen hcur)
        simp only [Server.performHub, Server.performUnregister, hunreg]
        exact Effect.unregister hcur
      · have hunreg := Hub.unregister_of_superseded hcur
        simp only [Server.performHub, Server.performUnregister, hunreg]
        exact Effect.superseded hcur
  | disconnect agent a =>
      cases hcur : s.hub.clients a with
      | none =>
          have hdisc := Hub.disconnect_of_none hcur
          simp only [Server.performHub, Server.performDisconnect, hdisc]
          exact Effect.notConnected hcur
      | some c =>
          have hdisc := Hub.disconnect_of_some hcur (hs.isOpen hcur)
          simp only [Server.performHub, Server.performDisconnect, hdisc]
          exact Effect.disconnect hcur
  | lookup a msg caller =>
      exact Effect.quiet rfl
  | isConnectedCommand id order =>
      exact Effect.quiet rfl
  | isConnectedSession order =>
      exact Effect.quiet rfl
  | isConnectedWakeUp a id =>
      exact Effect.quiet rfl

theorem effect_performSend {s : Server} (x : Input) (c : ClientId)
    (msg : Envelope) (caller : Caller) :
    Effect s x (Instr.conn (ConnCall.send c msg caller))
      (Server.performSend c msg caller s).shared := by
  unfold Server.performSend
  split
  · rename_i hpanic
    exact Effect.panicked (Client.send_none hpanic)
  · rename_i client ok hsend
    rcases Client.send_cases hsend with ⟨rfl, _⟩ | ⟨rfl, hfull, rfl⟩
    · exact Effect.accept hsend
    · have hsame : s.hub.setClient c (s.hub.heap c) = s.hub := by
        simp [Hub.setClient]
      simp only [hsame]
      exact Effect.full hfull

theorem effect_performConn {s : Server} {x : Input} {call : ConnCall}
    {o : Outcome Server Instr} (h : Server.performConn x s call = some o) :
    Effect s x (Instr.conn call) o.shared := by
  cases call with
  | upgrade a t =>
      cases h
      exact Effect.quiet rfl
  | upgradeDesktop side row =>
      cases h
      exact Effect.quiet rfl
  | readPump c =>
      cases h
      exact Effect.quiet rfl
  | writePump c =>
      simp only [Server.performConn, Server.performWritePump] at h
      split at h
      · cases h
      · rename_i client out hpump
        cases h
        rcases Client.writePump_frame hpump with ⟨hagent, htenant, hclosed⟩
        exact Effect.write hagent htenant hclosed
  | send c msg caller =>
      cases h
      exact effect_performSend x c msg caller

theorem effect_performRelay {s : Server} (x : Input) (call : RelayCall) :
    Effect s x (Instr.relay call) (Server.performRelay x s call).shared := by
  cases call with
  | register row a =>
      simp only [Server.performRelay]
      split
      · exact Effect.relayRefused
      · rename_i r ref hreg
        exact Effect.relayRegister hreg
  | attach side row =>
      exact Effect.attach
  | waitPairTimeout ref =>
      exact Effect.quiet rfl
  | pump ref =>
      exact Effect.quiet rfl
  | finish ref reason origin =>
      simp only [Server.performRelay]
      split
      · exact Effect.finished
      · rename_i r ls hfin
        exact Effect.finish hfin
  | endSessionsForAgent a origin =>
      exact Effect.quiet rfl
  | endSession id reason orMark =>
      exact Effect.quiet rfl
  | expireTombstone id =>
      exact Effect.expire

/-- Every change of the stores is listed by `Effect`. -/
theorem effect_of_perform {s : Server} (hs : s.HubSound) {x : Input} {k : Instr}
    {o : Outcome Server Instr} (h : Server.perform k x s = some o) :
    s.panicked = false ∧ Effect s x k o.shared := by
  unfold Server.perform at h
  split at h
  · cases h
  · rename_i halive
    refine ⟨by simpa using halive, ?_⟩
    cases k with
    | sql st =>
        exact effect_performSql h
    | hub call =>
        cases h
        exact effect_performHub hs x call
    | conn call =>
        exact effect_performConn h
    | relay call =>
        cases h
        exact effect_performRelay x call
    | reply r =>
        cases h
        cases r with
        | revoked agent =>
            exact Effect.revoked
        | deleted a =>
            exact Effect.deleted

/-!
## The registry

The registry invariant needs no condition on the run, so every other invariant
may rely on it.
-/

theorem Effect.hubSound {s t : Server} {x : Input} {k : Instr}
    (h : Effect s x k t) (hs : s.HubSound) : t.HubSound := by
  cases h with
  | register =>
      rename_i a tenant
      have hcons := (Hub.Consistent.addClient hs (Nat.lt_irrefl s.nextClient) a tenant).right
      have hsame : (fun c => c < s.nextClient ∨ c = s.nextClient) =
          fun c => c < s.nextClient + 1 := by
        funext c
        exact propext Nat.lt_succ_iff_lt_or_eq.symm
      rw [hsame] at hcons
      exact hcons
  | unregister hcur =>
      exact Hub.Consistent.evict hs hcur
  | disconnect hcur =>
      exact Hub.Consistent.evict hs hcur
  | write hagent _ hclosed =>
      exact Hub.Consistent.setClient hs hagent hclosed
  | accept hsend =>
      rcases Client.send_cases hsend with ⟨_, hopen, _, ch, _, hstill, _, heq⟩ | ⟨hno, _⟩
      · subst heq
        exact Hub.Consistent.setClient hs rfl (hstill.trans hopen.symm)
      · cases hno
  | _ =>
      exact hs

/-- A client keeps its agent and its tenant. -/
theorem Effect.identity {s t : Server} {x : Input} {k : Instr}
    (h : Effect s x k t) {c : ClientId} (hc : c < s.nextClient) :
    (t.hub.heap c).agentId = (s.hub.heap c).agentId ∧
      (t.hub.heap c).tenantId = (s.hub.heap c).tenantId := by
  cases h with
  | register =>
      have hne : c ≠ s.nextClient := Nat.ne_of_lt hc
      simp [Hub.addClient_agentId, Hub.addClient_tenantId, hne]
  | write hagent htenant hclosed =>
      rename_i d client
      by_cases hd : c = d
      · subst hd
        simpa [Hub.setClient] using ⟨hagent, htenant⟩
      · simp [Hub.setClient, hd]
  | accept hsend =>
      rename_i d msg caller client
      by_cases hd : c = d
      · subst hd
        rcases Client.send_cases hsend with ⟨_, _, _, ch, _, _, _, heq⟩ | ⟨hno, _⟩
        · subst heq
          simp [Server.accept, Hub.setClient]
        · cases hno
      · simp [Server.accept, Hub.setClient, hd]
  | _ =>
      simp [Server.update, Server.insertion, Server.setRelay]

theorem Effect.nextClient_mono {s t : Server} {x : Input} {k : Instr}
    (h : Effect s x k t) : s.nextClient ≤ t.nextClient := by
  cases h with
  | register =>
      exact Nat.le_succ s.nextClient
  | _ =>
      exact Nat.le_refl s.nextClient

/-- A client that a step adds is the next one, for the agent that registers. -/
theorem Effect.newClient {s t : Server} {x : Input} {k : Instr}
    (h : Effect s x k t) {c : ClientId} (hc : c < t.nextClient) :
    c < s.nextClient ∨
      (c = s.nextClient ∧ exists a tenant,
        k = Instr.hub (HubCall.register a tenant) ∧
        (t.hub.heap c).agentId = a) := by
  cases h with
  | register =>
      rename_i a tenant
      rcases Nat.lt_succ_iff_lt_or_eq.mp hc with hlt | heq
      · exact Or.inl hlt
      · refine Or.inr ⟨heq, a, tenant, rfl, ?_⟩
        simp [Hub.addClient_agentId, heq]
  | _ =>
      exact Or.inl hc

/-!
## The history
-/

/-- What has been accepted stays accepted. -/
theorem Effect.accepted {s t : Server} {x : Input} {k : Instr}
    (heffect : Effect s x k t) :
    t.log.accepted = s.log.accepted ∨
      exists c msg caller client, k = Instr.conn (ConnCall.send c msg caller) ∧
        (s.hub.heap c).send msg = some (client, true) ∧
        t = s.accept c msg caller client := by
  cases heffect with
  | statement hok hgen =>
      rename_i st
      left
      cases st <;> rfl
  | accept hsend =>
      exact Or.inr ⟨_, _, _, _, rfl, hsend, rfl⟩
  | _ =>
      exact Or.inl rfl

theorem Effect.issued {s t : Server} {x : Input} {k : Instr}
    (heffect : Effect s x k t) :
    t.log.issued = s.log.issued ∨
      exists id, x.id = some id ∧ id ∉ s.log.issued ∧
        t.log.issued = id :: s.log.issued := by
  cases heffect with
  | statement hok hgen =>
      rename_i st
      left
      cases st <;> rfl
  | insertion _ _ hid hnew =>
      exact Or.inr ⟨_, hid, hnew, rfl⟩
  | _ =>
      exact Or.inl rfl

theorem Effect.issued_mono {s t : Server} {x : Input} {k : Instr}
    (heffect : Effect s x k t) {id : Uuid} (h : id ∈ s.log.issued) :
    id ∈ t.log.issued := by
  rcases heffect.issued with heq | ⟨new, _, _, heq⟩
  · rw [heq]
    exact h
  · rw [heq]
    exact List.mem_cons_of_mem new h

theorem Effect.accepted_mono {s t : Server} {x : Input} {k : Instr}
    (heffect : Effect s x k t) {e : ClientId × Envelope × Caller}
    (h : e ∈ s.log.accepted) : e ∈ t.log.accepted := by
  rcases heffect.accepted with heq | ⟨c, msg, caller, client, _, _, rfl⟩
  · rw [heq]
    exact h
  · exact List.mem_append.mpr (Or.inl h)

/-- A command that has been inserted stays in the history. -/
theorem Effect.ordered_mono {s t : Server} {x : Input} {k : Instr}
    (heffect : Effect s x k t) {r : CommandRow} (h : r ∈ s.log.commands) :
    r ∈ t.log.commands := by
  cases heffect with
  | statement hok hgen =>
      rename_i st
      cases st <;> exact h
  | insertion _ _ _ _ =>
      exact List.mem_append.mpr (Or.inl h)
  | _ =>
      exact h

/-!
## Runs of the server
-/

/-- A step that starts a handler. -/
structure Starts (p p' : State) (r : Request) : Prop where
  shared : p'.shared = p.shared
  pending : forall {j}, p'.Pending j -> Enters r j ∨ p.Pending j
  kept : forall {j}, p.Pending j -> p'.Pending j
  count : forall f, Pool.pendingCount f p' =
    Pool.pendingCount f p + (entry r).countP f

/-- A step that executes an instruction. -/
structure Executes (p p' : State) (x : Input) (k : Instr)
    (o : Outcome Server Instr) : Prop where
  running : p.Pending k
  alive : p.shared.panicked = false
  perform : Server.perform k x p.shared = some o
  executed : Pool.Executed p p' k o
  effect : Effect p.shared x k p'.shared
  pending : forall {j}, p'.Pending j -> Leads p.shared x k j ∨ p.Pending j
  kept : forall {j}, p.Pending j -> j ≠ k -> p'.Pending j
  made : forall {j}, j ∈ o.cont -> p'.Pending j
  count : forall f, Pool.pendingCount f p' + [k].countP f =
    Pool.pendingCount f p + o.created.countP f

theorem starts_of_step {p p' : State} {r : Request}
    (h : p' = { p with procs := p.procs ++ [entry r] }) : Starts p p' r := by
  subst h
  refine ⟨rfl, ?_, fun hj => hj.start (entry r),
    fun f => Pool.pendingCount_start f p (entry r)⟩
  intro j hj
  rcases Pool.pending_start hj with hnew | hold
  · exact Or.inl (enters_of_mem_entry hnew)
  · exact Or.inr hold

theorem executes_of_perform {p p' : State} (hs : p.shared.HubSound) {i : Nat}
    {x : Input} {k : Instr} {rest : List Instr} {o : Outcome Server Instr}
    (hhead : p.head? i = some (k, rest))
    (hperform : Server.perform k x p.shared = some o)
    (h : p' = { shared := o.shared
                procs := p.procs.set i (o.cont ++ rest) ++ o.spawned }) :
    Executes p p' x k o := by
  subst h
  rcases effect_of_perform hs hperform with ⟨halive, heffect⟩
  refine ⟨Pool.pending_of_head? hhead, halive, hperform, Pool.executed hhead o,
    heffect, ?_, ?_, ?_, ?_⟩
  · intro j hj
    rcases Pool.pending_exec hhead hj with hnew | hold
    · exact Or.inl (leads_of_perform hperform hnew)
    · exact Or.inr hold
  · intro j hj hne
    exact hj.exec hhead hne o
  · intro j hj
    exact Pool.pending_cont hhead o (List.mem_append.mpr (Or.inl hj))
  · intro f
    rw [Pool.pendingCount_exec f hhead o, Outcome.created, List.countP_append]
    omega

/-- The rule for invariants of the server: handlers that start keep the
invariant, and so does every instruction executed under the condition. -/
theorem server_preserves {g : State -> Instr -> Input -> Bool}
    {inv : State -> Prop}
    (hstart : forall {p p' r}, inv p -> Starts p p' r -> inv p')
    (hexec : forall {p p' x k o}, p.shared.HubSound -> inv p ->
      g p k x = true -> Executes p p' x k o -> inv p') :
    server.Preserves (fun p e => Pool.guarded g p e = true)
      (fun p => p.shared.HubSound ∧ inv p) := by
  intro p e p' hinv hguard hstep
  rcases hinv with ⟨hs, hp⟩
  rcases Pool.step_cases hstep with ⟨r, rfl, hp'⟩ |
    ⟨i, x, k, rest, o, rfl, hhead, hperform, hp'⟩
  · have hstarts := starts_of_step hp'
    refine ⟨?_, hstart hp hstarts⟩
    rw [hstarts.shared]
    exact hs
  · have hexecutes := executes_of_perform hs hhead hperform hp'
    refine ⟨hexecutes.effect.hubSound hs, ?_⟩
    exact hexec hs hp (Pool.guarded_exec hguard hhead) hexecutes

theorem boot_hubSound (wsEndpoint : String) (sessionTTL : Nat) (db : Database)
    (issued : List Uuid) : (boot wsEndpoint sessionTTL db issued).shared.HubSound := by
  constructor
  · intro a c hc
    cases hc
  · intro a c hc
    cases hc
  · intro a c hc
    cases hc
  · intro c hc
    exact absurd hc (Nat.not_lt_zero c)
  · intro c _
    rfl

theorem boot_pending {wsEndpoint : String} {sessionTTL : Nat} {db : Database}
    {issued : List Uuid} {j : Instr} :
    ¬ (boot wsEndpoint sessionTTL db issued).Pending j := by
  rintro ⟨q, hq, _⟩
  cases hq

end Backend
end LeoOne
