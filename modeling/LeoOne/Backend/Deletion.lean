import LeoOne.Backend.CommandTable
import LeoOne.Backend.Identity

/-!
# Deletion

`Delete` removes the row of the agent, and the foreign keys remove its
certificates, commands and sessions with it.  It touches neither the Hub nor the
relay, so a connection or a live session of the agent goes on.  The agent is gone
from every store in the runs in which agents are deleted while they are neither
connected nor about to be.
-/

namespace LeoOne
namespace Backend

open Foundation
open Wire
open Websocket
open RemoteDesktop

/-- The goroutine exchanges messages with the agent, is about to connect it, or
is about to make a live session for it. -/
def engages (s : Server) (u : Uuid) : Instr -> Bool
  | Instr.conn (ConnCall.upgrade a _) => u.named a
  | Instr.hub (HubCall.register a _) => u.named a
  | Instr.conn (ConnCall.readPump c) => u.named (s.hub.heap c).agentId
  | Instr.conn (ConnCall.writePump c) => u.named (s.hub.heap c).agentId
  | Instr.conn (ConnCall.send c _ _) => u.named (s.hub.heap c).agentId
  | Instr.conn (ConnCall.upgradeDesktop _ row) => row.agentId = u
  | Instr.relay (RelayCall.attach _ row) => row.agentId = u
  | Instr.relay (RelayCall.register _ a) => u.named a
  | _ => false

/-- The agent is connected, or engaged in a session or in a goroutine. -/
def inUse (p : State) (u : Uuid) : Bool :=
  p.shared.hub.isConnected u.text || p.shared.relay.hasSession u ||
    p.anyPending (engages p.shared u)

/-- An agent is deleted by its own tenant, and while it is not in use. -/
def deletesUnused (p : State) (k : Instr) (x : Input) : Bool :=
  match k with
  | Instr.sql (Statement.deleteAgent a t) =>
      x.fails ||
        ((p.shared.db.agents.any fun r => r.id.named a) &&
          p.shared.db.agents.all fun r =>
            !r.id.named a || (r.tenantId.named t && !inUse p r.id))
  | _ => true

/-- The agent is gone from the database, the Hub and the relay, and no goroutine
exchanges messages with it or is about to. -/
structure Gone (p : State) (u : Uuid) : Prop where
  issued : u ∈ p.shared.log.issued
  agents : forall {r}, r ∈ p.shared.db.agents -> r.id ≠ u
  certificates : forall {r}, r ∈ p.shared.db.certificates -> r.agentId ≠ u
  commands : forall {r}, r ∈ p.shared.db.commands -> r.agentId ≠ u
  sessions : forall {r}, r ∈ p.shared.db.sessions -> r.agentId ≠ u
  hub : forall {a}, u.named a = true -> p.shared.hub.clients a = none
  relay : forall ref, ¬ p.shared.relay.Live u ref
  unused : forall {j}, p.Pending j -> engages p.shared u j = false

structure DeletionLaw (p : State) : Prop where
  identity : IdentityLaw p
  issued : forall {r}, r ∈ p.shared.db.agents -> r.id ∈ p.shared.log.issued
  gone : forall {u a}, a ∈ p.shared.log.deleted ∨
      p.Pending (Instr.reply (Reply.deleted a)) ->
    u.named a = true -> Gone p u

/-!
## What is gone stays away
-/

theorem engages_frame {p : State} (hinv : ClientsKnown p) {x : Input}
    {k j : Instr} {t : Server} (heffect : Effect p.shared x k t) (u : Uuid)
    (hj : p.Pending j) : engages t u j = engages p.shared u j := by
  have hsame : forall {c}, client? j = some c ->
      (t.hub.heap c).agentId = (p.shared.hub.heap c).agentId :=
    fun hc => (heffect.identity (hinv.known hj hc)).left
  cases j with
  | conn call =>
      cases call with
      | readPump c =>
          simp only [engages, hsame rfl]
      | writePump c =>
          simp only [engages, hsame rfl]
      | send c msg caller =>
          simp only [engages, hsame rfl]
      | _ =>
          rfl
  | hub call =>
      cases call <;> rfl
  | relay call =>
      cases call <;> rfl
  | sql st =>
      rfl
  | reply r =>
      rfl

/-- A live session that a step adds belongs to the agent it was asked for. -/
theorem Effect.live {s t : Server} {x : Input} {k : Instr}
    (heffect : Effect s x k t) {u : Uuid} {ref : SessionRef}
    (h : t.relay.Live u ref) :
    s.relay.Live u ref ∨ engages s u k = true := by
  cases heffect with
  | relayRegister hreg =>
      exact Relay.live_register hreg h
  | attach =>
      rename_i side row
      rcases Relay.live_attach h with hold | hnamed
      · exact Or.inl hold
      · exact Or.inr (decide_eq_true (Uuid.named_text.mp hnamed))
  | finish hfin =>
      exact Or.inl (Relay.live_finish hfin h)
  | _ =>
      exact Or.inl h

theorem Effect.registered {s t : Server} {x : Input} {a tenant : String}
    (heffect : Effect s x (Instr.hub (HubCall.register a tenant)) t) :
    (t.hub.heap s.nextClient).agentId = a := by
  cases heffect with
  | quiet hquiet =>
      cases hquiet
  | register =>
      simp [Hub.addClient_agentId]

/-- No goroutine comes to be engaged with an agent that is gone. -/
theorem Gone.leads {p : State} {x : Input} {k j : Instr} {u : Uuid}
    (hs : p.shared.HubSound) (hlaw : IdentityLaw p) (hinv : Gone p u)
    (hk : p.Pending k) (hleads : Leads p.shared x k j) {t : Server}
    (heffect : Effect p.shared x k t) : engages t u j = false := by
  have hidle := hinv.unused hk
  by_contra hj
  rw [Bool.not_eq_false] at hj
  cases hleads with
  | upgrade hcheck =>
      -- the certificate would have to be one of the agent
      have hname := hlaw.checking hk
      rcases checkNotRevoked_some hcheck with ⟨r, hr, hthumb, _⟩
      rcases hlaw.certificates r hr with ⟨hcommon, _⟩
      simp only [engages, hname, ← hthumb, hcommon] at hj
      exact hinv.certificates hr (Uuid.named_text.mp hj)
  | upgradeDesktop hconsume =>
      rcases (consumeToken_some hconsume).right with ⟨old, hold, _, heq⟩
      have hrow := of_decide_eq_true hj
      rw [heq, consumed_agentId] at hrow
      exact hinv.sessions hold hrow
  | redeliver hrow =>
      rename_i a c r
      have hknown := hlaw.clientsKnown.known hk rfl
      have hagent := hlaw.clientsKnown.agent hk rfl rfl
      simp only [engages, (heffect.identity hknown).left, hagent] at hj
      rcases mem_pendingCommands.mp hrow with ⟨hr, hpending⟩
      simp only [Database.isPending, Bool.and_eq_true] at hpending
      exact hinv.commands hr (Uuid.named_unique hpending.left.left hj)
  | sessionCreated hcreate =>
      rcases createSession_some hcreate with ⟨_, _, owner, howner, hnamed, _⟩
      exact hinv.agents howner (Uuid.named_unique hnamed hj)
  | startReadPump =>
      simp only [engages, heffect.registered] at hidle hj
      rw [hidle] at hj
      cases hj
  | startWritePump =>
      simp only [engages, heffect.registered] at hidle hj
      rw [hidle] at hj
      cases hj
  | found hcur =>
      have hagent := (heffect.identity (hs.known hcur)).left.trans (hs.agent hcur)
      simp only [engages, hagent] at hj
      rw [hinv.hub hj] at hcur
      cases hcur
  | upgraded =>
      simp only [engages] at hidle hj
      rw [hidle] at hj
      cases hj
  | upgradedDesktop =>
      simp only [engages] at hidle hj
      rw [hidle] at hj
      cases hj
  | read hmsg hhandles =>
      cases hhandles with
      | helloAck =>
          have hagent := (heffect.identity (hlaw.clientsKnown.known hk rfl)).left
          simp only [engages, hagent] at hidle hj
          rw [hidle] at hj
          cases hj
      | _ =>
          cases hj
  | readNext =>
      rw [engages_frame hlaw.clientsKnown heffect u hk, hidle] at hj
      cases hj
  | writeNext =>
      rw [engages_frame hlaw.clientsKnown heffect u hk, hidle] at hj
      cases hj
  | _ =>
      cases hj

theorem Gone.step {p p' : State} {x : Input} {k : Instr}
    {o : Outcome Server Instr} {u : Uuid} (hs : p.shared.HubSound)
    (hlaw : IdentityLaw p) (hinv : Gone p u) (hexec : Executes p p' x k o) :
    Gone p' u := by
  have heffect := hexec.effect
  have hidle := hinv.unused hexec.running
  refine ⟨heffect.issued_mono hinv.issued, ?_, ?_, ?_, ?_, ?_, ?_, ?_⟩
  · intro r hr
    rcases heffect.agents hr with ⟨old, _, hold, hchange, _⟩ | ⟨hfresh, _, _⟩
    · rw [hchange.id_eq]
      exact hinv.agents hold
    · intro heq
      rw [heq] at hfresh
      exact hfresh hinv.issued
  · intro r hr
    rcases heffect.certificates hr with ⟨old, hold, hkept⟩ |
      ⟨_, _, _, _, _, hagent, _, owner, howner, hid⟩
    · rw [hkept.agentId]
      exact hinv.certificates hold
    · rw [hagent, ← hid]
      exact hinv.agents howner
  · intro r hr
    rcases heffect.commands hr with ⟨old, _, hold, hchange, _⟩ | ⟨_, _, hinsert, _⟩
    · rw [hchange.agentId_eq]
      exact hinv.commands hold
    · cases hinsert with
      | command _ howner _ =>
          exact hinv.agents howner
  · intro r hr
    rcases heffect.sessions hr with ⟨old, hold, hagent⟩ | ⟨owner, howner, hagent⟩
    · rw [hagent]
      exact hinv.sessions hold
    · rw [hagent]
      exact hinv.agents howner
  · intro a hnamed
    by_contra hcur
    rcases Option.ne_none_iff_exists'.mp hcur with ⟨c, hc⟩
    rcases heffect.current hc with hold | ⟨_, t, rfl⟩
    · rw [hinv.hub hnamed] at hold
      cases hold
    · simp only [engages] at hidle
      rw [hidle] at hnamed
      cases hnamed
  · intro ref hlive
    rcases heffect.live hlive with hold | hengages
    · exact hinv.relay ref hold
    · rw [hidle] at hengages
      cases hengages
  · intro j hj
    rcases hexec.pending hj with hleads | hold
    · exact hinv.leads hs hlaw hexec.running hleads heffect
    · rw [engages_frame hlaw.clientsKnown heffect u hold]
      exact hinv.unused hold

theorem Gone.start {p p' : State} {r : Request} {u : Uuid} (hinv : Gone p u)
    (hstarts : Starts p p' r) : Gone p' u := by
  have hshared := hstarts.shared
  refine ⟨hshared ▸ hinv.issued, hshared ▸ hinv.agents, hshared ▸ hinv.certificates,
    hshared ▸ hinv.commands, hshared ▸ hinv.sessions, hshared ▸ hinv.hub,
    hshared ▸ hinv.relay, ?_⟩
  intro j hj
  rw [hshared]
  rcases hstarts.pending hj with henters | hold
  · cases henters <;> rfl
  · exact hinv.unused hold

/-!
## The deletion itself
-/

/-- An unused agent that its own tenant deletes is gone. -/
theorem gone_of_delete {p p' : State} {x : Input} {a t : String}
    {o : Outcome Server Instr} {u : Uuid} (hs : p.shared.HubSound)
    (hlaw : DeletionLaw p) (hok : x.fails = false)
    (hguard : deletesUnused p (Instr.sql (Statement.deleteAgent a t)) x = true)
    (hexec : Executes p p' x (Instr.sql (Statement.deleteAgent a t)) o)
    (hnamed : u.named a = true) : Gone p' u := by
  simp only [deletesUnused, hok, Bool.false_or, Bool.and_eq_true,
    List.any_eq_true, List.all_eq_true] at hguard
  rcases hguard with ⟨⟨owner, howner, hownerNamed⟩, hall⟩
  have hid : owner.id = u := Uuid.named_unique hownerNamed hnamed
  have hmine : forall {r}, r ∈ p.shared.db.agents -> r.id = u ->
      r.tenantId.named t = true ∧ inUse p u = false := by
    intro r hr hru
    have hcond := hall r hr
    rw [hru, hnamed] at hcond
    simpa using hcond
  have hunused := (hmine howner hid).right
  simp only [inUse, Bool.or_eq_false_iff] at hunused
  rcases hunused with ⟨⟨hhub, hrelay⟩, hpending⟩
  have hdb : p'.shared.db = p.shared.db.deleteAgent t a ∧
      p'.shared.hub = p.shared.hub ∧ p'.shared.relay = p.shared.relay := by
    rw [hexec.effect.of_statement hok rfl]
    exact ⟨rfl, rfl, rfl⟩
  rcases hdb with ⟨hdb, hhub', hrelay'⟩
  have hrows := deleteAgent_rows hnamed ⟨owner, howner, hid⟩
    fun r hr hru => (hmine hr hru).left
  rw [← hdb] at hrows
  rcases hrows with ⟨hagents, hcerts, hcommands, hsessions⟩
  refine ⟨?_, fun {r} => hagents r, fun {r} => hcerts r, fun {r} => hcommands r,
    fun {r} => hsessions r, ?_, ?_, ?_⟩
  · rw [← hid]
    exact hexec.effect.issued_mono (hlaw.issued howner)
  · intro b hb
    rw [hhub']
    by_contra hcur
    rcases Option.ne_none_iff_exists'.mp hcur with ⟨c, hc⟩
    have htext := ((hlaw.identity.registered hs hc).eq_text hb).left
    rw [Hub.isConnected, ← htext, hc] at hhub
    cases hhub
  · rw [hrelay']
    exact Relay.not_live_of_hasSession hrelay
  · intro j hj
    have hfree := Pool.anyPending_eq_false.mp hpending
    rcases hexec.pending hj with hleads | hold
    · cases hleads
      rfl
    · rw [engages_frame hlaw.identity.clientsKnown hexec.effect u hold]
      exact hfree j hold

theorem Effect.deletedLog {s t : Server} {x : Input} {k : Instr}
    (heffect : Effect s x k t) {a : String} (h : a ∈ t.log.deleted) :
    a ∈ s.log.deleted ∨ k = Instr.reply (Reply.deleted a) := by
  cases heffect with
  | statement hok hgen =>
      rename_i st
      cases st <;> exact Or.inl h
  | deleted =>
      rcases List.mem_cons.mp h with rfl | hold
      · exact Or.inr rfl
      · exact Or.inl hold
  | _ =>
      exact Or.inl h

theorem DeletionLaw.gone_step {p p' : State} {x : Input} {k : Instr}
    {o : Outcome Server Instr} (hs : p.shared.HubSound) (hlaw : DeletionLaw p)
    (hguard : deletesUnused p k x = true) (hexec : Executes p p' x k o)
    {u : Uuid} {a : String}
    (h : a ∈ p'.shared.log.deleted ∨ p'.Pending (Instr.reply (Reply.deleted a)))
    (hnamed : u.named a = true) : Gone p' u := by
  have hrunning := hexec.running
  rcases h with hlog | hreply
  · rcases hexec.effect.deletedLog hlog with hold | rfl
    · exact (hlaw.gone (Or.inl hold) hnamed).step hs hlaw.identity hexec
    · exact (hlaw.gone (Or.inr hrunning) hnamed).step hs hlaw.identity hexec
  · rcases hexec.pending hreply with hleads | hold
    · generalize hdeleted : Instr.reply (Reply.deleted a) = j at hleads
      cases hleads with
      | deleted hok =>
          cases hdeleted
          exact gone_of_delete hs hlaw hok hguard hexec hnamed
      | read _ hhandles =>
          subst hdeleted
          cases hhandles
      | _ =>
          cases hdeleted
    · exact (hlaw.gone (Or.inr hold) hnamed).step hs hlaw.identity hexec

theorem DeletionLaw.step {p p' : State} {x : Input} {k : Instr}
    {o : Outcome Server Instr} (hs : p.shared.HubSound) (hlaw : DeletionLaw p)
    (hguard : deletesUnused p k x = true) (hexec : Executes p p' x k o) :
    DeletionLaw p' := by
  refine ⟨hlaw.identity.step hs hexec, ?_,
    fun h hnamed => hlaw.gone_step hs hguard hexec h hnamed⟩
  intro r hr
  rcases hexec.effect.agents hr with ⟨old, _, hold, hchange, _⟩ | ⟨_, hissued, _⟩
  · rw [hchange.id_eq]
    exact hexec.effect.issued_mono (hlaw.issued hold)
  · exact hissued

theorem DeletionLaw.start {p p' : State} {r : Request} (hlaw : DeletionLaw p)
    (hstarts : Starts p p' r) : DeletionLaw p' := by
  refine ⟨hlaw.identity.start hstarts, ?_, ?_⟩
  · rw [hstarts.shared]
    exact hlaw.issued
  · intro u a h hnamed
    rw [hstarts.shared] at h
    have hbefore : a ∈ p.shared.log.deleted ∨
        p.Pending (Instr.reply (Reply.deleted a)) := by
      rcases h with hlog | hreply
      · exact Or.inl hlog
      · rcases hstarts.pending hreply with henters | hold
        · cases henters
        · exact Or.inr hold
    exact (hlaw.gone hbefore hnamed).start hstarts

theorem deletion_preserved :
    server.Preserves (fun p e => Pool.guarded deletesUnused p e = true)
      (fun p => p.shared.HubSound ∧ DeletionLaw p) := by
  apply server_preserves
  · intro p p' r hinv hstarts
    exact hinv.start hstarts
  · intro p p' x k o hs hinv hguard hexec
    exact hinv.step hs hguard hexec

/-- In every run in which agents are deleted by their tenants and while they are
not in use, an agent for which `Delete` has answered with success is in every
later state gone: its row, its certificates, its commands and its sessions are
no longer there, no client of it is in the Hub, none of its sessions is live in
the relay, and no goroutine reads from it, writes to it or is about to. -/
theorem deleted_agents_are_gone (wsEndpoint : String) (sessionTTL : Nat)
    (db : Database) (issued : List Uuid) (hcerts : CertificatesSound db issued)
    (hids : forall r, r ∈ db.agents -> r.id ∈ issued) {es : List Event} {q : State}
    (hrun : server.run (boot wsEndpoint sessionTTL db issued) es = some q)
    (hmeets : server.Meets (fun p e => Pool.guarded deletesUnused p e = true)
      (boot wsEndpoint sessionTTL db issued) es) :
    forall u a, a ∈ q.shared.log.deleted -> u.named a = true -> Gone q u := by
  have hboot : DeletionLaw (boot wsEndpoint sessionTTL db issued) := by
    refine ⟨identityLaw_boot hcerts, fun hr => hids _ hr, ?_⟩
    rintro u a (hlog | hreply) _
    · cases hlog
    · exact absurd hreply boot_pending
  have hinv := (deletion_preserved.run ⟨boot_hubSound _ _ _ _, hboot⟩ hmeets
    hrun).right
  intro u a ha hnamed
  exact hinv.gone (Or.inl ha) hnamed

namespace Sample

/-- Goroutine `i` deletes the agent. -/
def delete (i : Nat) : List Event :=
  [PoolEvent.start (Request.delete agent.text tenant.text), go i, go i]

/-- The agent is deleted and tries to connect. -/
def connectsAfterDeletion : List Event :=
  delete 0 ++ [PoolEvent.start (Request.connect cert), go 1]

/-- The agent is deleted while it is connected, and sends a heartbeat. -/
def deletedWhileConnected : List Event :=
  connect 0 ++ delete 2 ++ [receive 0 Incoming.heartbeat, go 0]

end Sample

theorem deleted_agents_are_gone_offline :
    exists q, server.run Sample.start Sample.connectsAfterDeletion = some q ∧
      Sample.agent.text ∈ q.shared.log.deleted ∧ Gone q Sample.agent := by
  obtain ⟨q, hrun, hdeleted⟩ : exists q,
      server.run Sample.start Sample.connectsAfterDeletion = some q ∧
        Sample.agent.text ∈ q.shared.log.deleted :=
    ⟨_, rfl, by decide⟩
  have hids : forall r, r ∈ Sample.database.agents ->
      r.id ∈ [Sample.tenant, Sample.agent] := by
    decide
  refine ⟨q, hrun, hdeleted, ?_⟩
  exact deleted_agents_are_gone _ _ _ _ sample_certificates hids hrun (by decide)
    _ _ hdeleted (Uuid.named_text.mpr rfl)

/-- `Delete` has answered with success, and the agent is still in the Hub and
exchanges messages. -/
theorem deleted_and_connected :
    exists q, server.run Sample.start Sample.deletedWhileConnected = some q ∧
      Sample.agent.text ∈ q.shared.log.deleted ∧
      q.shared.hub.clients Sample.agent.text = some 0 ∧
      q.anyPending (engages q.shared Sample.agent) = true :=
  ⟨_, rfl, by decide, rfl, by decide⟩

end Backend
end LeoOne
