import LeoOne.Backend.Identity

/-!
# Presence

`MarkOffline` runs after the lock of the Hub has been released, so that the
`Register` and the HELLO of a new connection may overtake it, and the `ReadPump`
of a connection that has been cut may still handle a heartbeat.  The status in
the database agrees with the registry in the runs in which neither of them
writes against the registry, and the sessions that `MarkOffline` ends are old
ones when its snapshot of the relay holds no session of a newer connection.
-/

namespace LeoOne
namespace Backend

open Foundation
open Wire
open Websocket
open RemoteDesktop

/-- The updates of the status succeed. -/
def statusSucceeds (_ : State) (k : Instr) (x : Input) : Bool :=
  match k with
  | Instr.sql (Statement.setOnline _ _) => !x.fails
  | Instr.sql (Statement.setOffline _ _) => !x.fails
  | _ => true

/-- The instruction is going to mark the agent as offline. -/
def marksOffline (a : String) : Instr -> Bool
  | Instr.sql (Statement.setOffline b _) => b = a
  | _ => false

theorem eq_of_marksOffline {a : String} {j : Instr}
    (h : marksOffline a j = true) :
    exists c, j = Instr.sql (Statement.setOffline a c) := by
  cases j with
  | sql st =>
      cases st with
      | setOffline b c =>
          have hb := of_decide_eq_true h
          subst hb
          exact ⟨c, rfl⟩
      | _ =>
          cases h
  | _ =>
      cases h

/-- A connection of the agent later than `origin` was registered among the first
`n` ones. -/
def replacedBefore (s : Server) (a : String) (origin n : ClientId) : Bool :=
  (List.range n).any fun c => origin < c && (s.hub.heap c).agentId = a

/-- A HELLO or heartbeat is recorded only while its agent is registered or going
to be marked as offline, the agent is marked as offline only while no HELLO or
heartbeat has been handled on its current connection, and the sessions that are
ended with an old connection were made before the next one was registered. -/
def ordersPresence (p : State) (k : Instr) (_ : Input) : Bool :=
  match k with
  | Instr.sql (Statement.setOnline a _) =>
      p.shared.hub.isConnected a || p.anyPending (marksOffline a)
  | Instr.sql (Statement.setOffline a _) =>
      match p.shared.hub.clients a with
      | none => true
      | some c => c ∉ p.shared.log.greeted
  | Instr.relay (RelayCall.endSessionsForAgent a origin) =>
      (p.shared.relay.sessionsForAgent a).all fun ref =>
        !replacedBefore p.shared a origin (p.shared.log.born.getD ref 0)
  | _ => true

/-!
## Changes of the registry
-/

theorem offline_of_unregister {s : Server} {x : Input} {c : ClientId}
    {o : Outcome Server Instr} (hs : s.HubSound)
    (hcur : s.hub.clients (s.hub.heap c).agentId = some c)
    (h : Server.perform (Instr.hub (HubCall.unregister c)) x s = some o) :
    Instr.sql (Statement.setOffline (s.hub.heap c).agentId c) ∈ o.cont := by
  unfold Server.perform at h
  split at h
  · cases h
  · simp only [Server.performHub, Server.performUnregister,
      Hub.unregister_of_current hcur (hs.isOpen hcur)] at h
    cases h
    exact List.mem_cons_self

theorem offline_of_disconnect {s : Server} {x : Input} {agent : Uuid}
    {a : String} {c : ClientId} {o : Outcome Server Instr} (hs : s.HubSound)
    (hcur : s.hub.clients a = some c)
    (h : Server.perform (Instr.hub (HubCall.disconnect agent a)) x s = some o) :
    Instr.sql (Statement.setOffline a c) ∈ o.cont := by
  unfold Server.perform at h
  split at h
  · cases h
  · simp only [Server.performHub, Server.performDisconnect,
      Hub.disconnect_of_some hcur (hs.isOpen hcur), hcur] at h
    cases h
    exact List.mem_append.mpr (Or.inl List.mem_cons_self)

/-- Whoever takes an agent out of the registry is going to mark it as offline. -/
theorem offline_of_gone {p p' : State} {x : Input} {k : Instr}
    {o : Outcome Server Instr} (hs : p.shared.HubSound)
    (hexec : Executes p p' x k o) {a : String}
    (hcur : p.shared.hub.clients a ≠ none)
    (hgone : p'.shared.hub.clients a = none) :
    exists c, p'.Pending (Instr.sql (Statement.setOffline a c)) := by
  have heffect := hexec.effect
  have hperform := hexec.perform
  generalize p'.shared = t at heffect hgone
  cases heffect with
  | register =>
      rename_i b tenant
      rw [Hub.addClient_clients] at hgone
      by_cases hab : a = b
      · rw [hab, Function.update_self] at hgone
        cases hgone
      · rw [Function.update_of_ne hab] at hgone
        exact absurd hgone hcur
  | unregister hcur' =>
      rename_i d
      rw [Hub.evict_clients] at hgone
      by_cases hab : a = (p.shared.hub.heap d).agentId
      · subst hab
        exact ⟨d, hexec.made (offline_of_unregister hs hcur' hperform)⟩
      · rw [Function.update_of_ne hab] at hgone
        exact absurd hgone hcur
  | disconnect hcur' =>
      rename_i agent b d
      rw [Hub.evict_clients] at hgone
      by_cases hab : a = b
      · subst hab
        exact ⟨d, hexec.made (offline_of_disconnect hs hcur' hperform)⟩
      · rw [Function.update_of_ne hab] at hgone
        exact absurd hgone hcur
  | _ =>
      exact absurd hgone hcur

theorem Effect.greeted {s t : Server} {x : Input} {k : Instr}
    (heffect : Effect s x k t) :
    t.log.greeted = s.log.greeted ∨
      exists a c, k = Instr.sql (Statement.setOnline a c) ∧
        t.log.greeted = c :: s.log.greeted ∧
        t.db.agents = (s.db.updateStatus a AgentStatus.online (some x.now)
          x.now).agents := by
  cases heffect with
  | statement hok hgen =>
      rename_i st
      cases st with
      | setOnline a c =>
          exact Or.inr ⟨a, c, rfl, rfl, rfl⟩
      | _ =>
          exact Or.inl rfl
  | _ =>
      exact Or.inl rfl

/-- `MarkOffline` leaves no row of the agent online. -/
theorem status_of_setOffline {s t : Server} {x : Input} {a : String}
    {c : ClientId} (heffect : Effect s x (Instr.sql (Statement.setOffline a c)) t)
    (hok : x.fails = false) {r : AgentRow} (hr : r ∈ t.db.agents)
    (hnamed : r.id.named a = true) : r.status = AgentStatus.offline := by
  rw [heffect.of_statement hok rfl] at hr
  exact status_of_updateStatus hr hnamed

/-!
## The status of an agent
-/

structure PresenceLaw (p : State) : Prop where
  identity : IdentityLaw p
  greeted : forall {c}, c ∈ p.shared.log.greeted -> c < p.shared.nextClient
  online : forall {r}, r ∈ p.shared.db.agents -> r.status = AgentStatus.online ->
    p.shared.hub.clients r.id.text ≠ none ∨
      exists c, p.Pending (Instr.sql (Statement.setOffline r.id.text c))
  connected : forall {a c r}, p.shared.hub.clients a = some c ->
    c ∈ p.shared.log.greeted -> r ∈ p.shared.db.agents -> r.id.named a = true ->
    r.status = AgentStatus.online

theorem PresenceLaw.start {p p' : State} {r : Request} (hinv : PresenceLaw p)
    (hstarts : Starts p p' r) : PresenceLaw p' := by
  refine ⟨hinv.identity.start hstarts, ?_, ?_, ?_⟩
  · rw [hstarts.shared]
    exact hinv.greeted
  · intro row hrow hstatus
    rw [hstarts.shared] at hrow ⊢
    rcases hinv.online hrow hstatus with hcur | ⟨c, hpending⟩
    · exact Or.inl hcur
    · exact Or.inr ⟨c, hstarts.kept hpending⟩
  · rw [hstarts.shared]
    exact hinv.connected

theorem PresenceLaw.greeted_step {p p' : State} {x : Input} {k : Instr}
    {o : Outcome Server Instr} (hinv : PresenceLaw p)
    (hexec : Executes p p' x k o) {c : ClientId}
    (hc : c ∈ p'.shared.log.greeted) : c < p'.shared.nextClient := by
  have hmono := hexec.effect.nextClient_mono
  rcases hexec.effect.greeted with hsame | ⟨a, d, rfl, hnew, _⟩
  · rw [hsame] at hc
    exact Nat.lt_of_lt_of_le (hinv.greeted hc) hmono
  · rw [hnew] at hc
    rcases List.mem_cons.mp hc with rfl | hold
    · exact Nat.lt_of_lt_of_le
        (hinv.identity.clientsKnown.known hexec.running rfl) hmono
    · exact Nat.lt_of_lt_of_le (hinv.greeted hold) hmono

/-- An agent that was registered, or going to be marked as offline, still is,
unless the mark has just been set. -/
theorem PresenceLaw.awaited {p p' : State} {x : Input} {k : Instr}
    {o : Outcome Server Instr} (hs : p.shared.HubSound)
    (hstatus : statusSucceeds p k x = true) (hexec : Executes p p' x k o)
    {r : AgentRow} (hr : r ∈ p'.shared.db.agents)
    (honline : r.status = AgentStatus.online)
    (h : p.shared.hub.clients r.id.text ≠ none ∨
      exists c, p.Pending (Instr.sql (Statement.setOffline r.id.text c))) :
    p'.shared.hub.clients r.id.text ≠ none ∨
      exists c, p'.Pending (Instr.sql (Statement.setOffline r.id.text c)) := by
  rcases h with hcur | ⟨c, hpending⟩
  · by_cases hgone : p'.shared.hub.clients r.id.text = none
    · exact Or.inr (offline_of_gone hs hexec hcur hgone)
    · exact Or.inl hgone
  · by_cases hk : Instr.sql (Statement.setOffline r.id.text c) = k
    · subst hk
      have hok : x.fails = false := by simpa [statusSucceeds] using hstatus
      have hoffline := status_of_setOffline hexec.effect hok hr
        (Uuid.named_text.mpr rfl)
      rw [honline] at hoffline
      cases hoffline
    · exact Or.inr ⟨c, hexec.kept hpending hk⟩

theorem PresenceLaw.online_step {p p' : State} {x : Input} {k : Instr}
    {o : Outcome Server Instr} (hs : p.shared.HubSound) (hinv : PresenceLaw p)
    (hstatus : statusSucceeds p k x = true)
    (hguard : ordersPresence p k x = true) (hexec : Executes p p' x k o)
    {r : AgentRow} (hr : r ∈ p'.shared.db.agents)
    (honline : r.status = AgentStatus.online) :
    p'.shared.hub.clients r.id.text ≠ none ∨
      exists c, p'.Pending (Instr.sql (Statement.setOffline r.id.text c)) := by
  apply PresenceLaw.awaited hs hstatus hexec hr honline
  rcases hexec.effect.agents hr with ⟨old, st, hold, hchange, hk⟩ | ⟨_, _, hoffline⟩
  · have hbefore : r = old -> p.shared.hub.clients r.id.text ≠ none ∨
        exists c, p.Pending (Instr.sql (Statement.setOffline r.id.text c)) := by
      intro hsame
      subst hsame
      exact hinv.online hold honline
    rcases hk with ⟨rfl, hok⟩ | hsame
    · cases hchange with
      | same =>
          exact hbefore rfl
      | online hnamed hid _ =>
          have hworking := hinv.identity.working hexec.running rfl rfl
          rw [← hid] at hnamed
          rw [← (hworking.eq_text hnamed).left]
          rcases Bool.or_eq_true_iff.mp hguard with hconn | hmark
          · exact Or.inl (Option.isSome_iff_ne_none.mp hconn)
          · rcases Pool.pending_of_anyPending hmark with ⟨j, hj, hmarks⟩
            rcases eq_of_marksOffline hmarks with ⟨c, rfl⟩
            exact Or.inr ⟨c, hj⟩
      | offline _ _ hoffline =>
          rw [honline] at hoffline
          cases hoffline
    · exact hbefore hsame
  · rw [honline] at hoffline
    cases hoffline

theorem PresenceLaw.connected_step {p p' : State} {x : Input} {k : Instr}
    {o : Outcome Server Instr} (hs : p.shared.HubSound) (hinv : PresenceLaw p)
    (hguard : ordersPresence p k x = true) (hexec : Executes p p' x k o)
    {a : String} {c : ClientId} {r : AgentRow}
    (hcur : p'.shared.hub.clients a = some c)
    (hgreeted : c ∈ p'.shared.log.greeted) (hr : r ∈ p'.shared.db.agents)
    (hnamed : r.id.named a = true) : r.status = AgentStatus.online := by
  have heffect := hexec.effect
  -- a new connection is registered before anything is handled on it
  have hold : c < p.shared.nextClient := by
    rcases heffect.greeted with hsame | ⟨b, d, rfl, hnew, _⟩
    · rw [hsame] at hgreeted
      exact hinv.greeted hgreeted
    · rw [hnew] at hgreeted
      rcases List.mem_cons.mp hgreeted with rfl | hmem
      · exact hinv.identity.clientsKnown.known hexec.running rfl
      · exact hinv.greeted hmem
  have hbefore : p.shared.hub.clients a = some c := by
    rcases heffect.current hcur with hsame | ⟨hnew, _⟩
    · exact hsame
    · exact absurd hnew (Nat.ne_of_lt hold)
  rcases heffect.greeted with hsame | ⟨b, d, rfl, hnew, hagents⟩
  · rw [hsame] at hgreeted
    rcases heffect.agents hr with ⟨old, st, hrow, hchange, hk⟩ | ⟨hfresh, _, _⟩
    · have hstill : r = old -> r.status = AgentStatus.online := by
        intro heq
        subst heq
        exact hinv.connected hbefore hgreeted hrow hnamed
      rcases hk with ⟨rfl, hok⟩ | heq
      · cases hchange with
        | same =>
            exact hstill rfl
        | online _ _ honline =>
            exact honline
        | offline hold' hid _ =>
            rw [← hid] at hold'
            have hworking := hinv.identity.working hexec.running rfl rfl
            have hregistered := hinv.identity.registered hs hbefore
            have hsame' := (hregistered.eq_text hnamed).left.trans
              (hworking.eq_text hold').left.symm
            subst hsame'
            simp only [ordersPresence, hbefore, decide_eq_true_eq] at hguard
            exact absurd hgreeted hguard
      · exact hstill heq
    · have hregistered := hinv.identity.registered hs hbefore
      exact absurd (hregistered.eq_text hnamed).right hfresh
  · rw [hnew] at hgreeted
    rw [hagents] at hr
    by_cases hb : r.id.named b = true
    · exact status_of_updateStatus hr hb
    · -- the row is not the one that is updated, so the client is another one
      rcases List.mem_cons.mp hgreeted with rfl | hmem
      · have hagent := hinv.identity.clientsKnown.agent hexec.running rfl rfl
        rw [hs.agent hbefore] at hagent
        subst hagent
        exact absurd hnamed hb
      · rcases Table.mem_updateWhere.mp hr with ⟨old, hrow, ⟨hsel, rfl⟩ | ⟨_, rfl⟩⟩
        · exact absurd hsel hb
        · exact hinv.connected hbefore hmem hrow hnamed

theorem PresenceLaw.step {p p' : State} {x : Input} {k : Instr}
    {o : Outcome Server Instr} (hs : p.shared.HubSound) (hinv : PresenceLaw p)
    (hstatus : statusSucceeds p k x = true)
    (hguard : ordersPresence p k x = true) (hexec : Executes p p' x k o) :
    PresenceLaw p' :=
  ⟨hinv.identity.step hs hexec, fun hc => hinv.greeted_step hexec hc,
    fun hr honline => hinv.online_step hs hstatus hguard hexec hr honline,
    fun hcur hgreeted hr hnamed =>
      hinv.connected_step hs hguard hexec hcur hgreeted hr hnamed⟩

/-!
## Sessions that end with a connection
-/

theorem heap_attach (r : Relay) (side : Side) (id : Uuid) (a : String)
    (mode : SessionMode) :
    r.heap.length ≤ (r.attach side id a mode).1.heap.length := by
  have hfound : r.heap.length ≤ (r.findOrCreate id a mode).1.heap.length := by
    unfold Relay.findOrCreate
    split
    · exact Nat.le_refl _
    · simp [Relay.allocate]
  unfold Relay.attach
  split
  · exact Nat.le_refl _
  · simp only
    split
    · exact hfound
    · split
      · exact hfound
      · split
        · exact hfound
        · simpa using hfound

/-- The sessions that a step adds are born now. -/
theorem Effect.born {s t : Server} {x : Input} {k : Instr}
    (heffect : Effect s x k t) (hlen : s.log.born.length = s.relay.heap.length) :
    t.log.born.length = t.relay.heap.length ∧
      exists n, t.log.born = s.log.born ++ List.replicate n s.nextClient := by
  have hset : forall {r : Relay}, s.relay.heap.length ≤ r.heap.length ->
      (s.setRelay r).log.born.length = (s.setRelay r).relay.heap.length ∧
        exists n, (s.setRelay r).log.born =
          s.log.born ++ List.replicate n s.nextClient := by
    intro r hle
    refine ⟨?_, _, rfl⟩
    simp only [Server.setRelay, List.length_append, List.length_replicate]
    omega
  have hsame : exists n, s.log.born = s.log.born ++ List.replicate n s.nextClient :=
    ⟨0, by simp⟩
  cases heffect with
  | statement hok hgen =>
      rename_i st
      cases st <;> exact ⟨hlen, hsame⟩
  | relayRegister hreg =>
      apply hset
      unfold Relay.register at hreg
      split at hreg
      · cases hreg
      · cases hreg
        simp
  | attach =>
      exact hset (heap_attach _ _ _ _ _)
  | finish hfin =>
      apply hset
      unfold Relay.finish at hfin
      split at hfin
      · cases hfin
      · split at hfin
        · cases hfin
        · cases hfin
          simp
  | expire =>
      exact hset (Nat.le_refl _)
  | _ =>
      exact ⟨hlen, hsame⟩

/-- A session that is going to be ended with the connection `origin` is older
than the next connection of the agent. -/
def EndsOwn (s : Server) (ref : SessionRef) (origin : ClientId) : Prop :=
  exists n, s.log.born[ref]? = some n ∧
    forall c, origin < c -> c < n ->
      (s.hub.heap c).agentId ≠ (s.hub.heap origin).agentId

structure SessionLaw (p : State) : Prop where
  clientsKnown : ClientsKnown p
  born : p.shared.log.born.length = p.shared.relay.heap.length
  bornKnown : forall {n}, n ∈ p.shared.log.born -> n ≤ p.shared.nextClient
  ending : forall {ref reason origin},
    p.Pending (Instr.relay (RelayCall.finish ref reason (some origin))) ->
    EndsOwn p.shared ref origin

theorem EndsOwn.step {s t : Server} {x : Input} {k : Instr} {ref : SessionRef}
    {origin : ClientId} (h : EndsOwn s ref origin)
    (horigin : origin < s.nextClient)
    (hlen : s.log.born.length = s.relay.heap.length)
    (hborn : forall {n}, n ∈ s.log.born -> n ≤ s.nextClient)
    (heffect : Effect s x k t) : EndsOwn t ref origin := by
  rcases h with ⟨n, hget, hown⟩
  rcases (heffect.born hlen).right with ⟨m, heq⟩
  have hlt : ref < s.log.born.length := (List.getElem?_eq_some_iff.mp hget).1
  refine ⟨n, ?_, ?_⟩
  · rw [heq, List.getElem?_append_left hlt]
    exact hget
  · intro c hafter hbefore
    have hc : c < s.nextClient :=
      Nat.lt_of_lt_of_le hbefore (hborn (List.mem_of_getElem? hget))
    rw [(heffect.identity hc).left, (heffect.identity horigin).left]
    exact hown c hafter hbefore

/-- The snapshot of `EndSessionsForAgent` holds live sessions. -/
theorem lt_of_mem_sessionsForAgent {r : Relay} {a : String} {ref : SessionRef}
    (h : ref ∈ r.sessionsForAgent a) : ref < r.heap.length :=
  List.mem_range.mp (List.mem_filter.mp h).left

theorem SessionLaw.start {p p' : State} {r : Request} (hinv : SessionLaw p)
    (hstarts : Starts p p' r) : SessionLaw p' := by
  refine ⟨hinv.clientsKnown.start hstarts, ?_, ?_, ?_⟩
  · rw [hstarts.shared]
    exact hinv.born
  · rw [hstarts.shared]
    exact hinv.bornKnown
  · intro ref reason origin hj
    rw [hstarts.shared]
    rcases hstarts.pending hj with henters | hold
    · cases henters
    · exact hinv.ending hold

theorem SessionLaw.ending_step {p p' : State} {x : Input} {k : Instr}
    {o : Outcome Server Instr} (hinv : SessionLaw p)
    (hguard : ordersPresence p k x = true) (hexec : Executes p p' x k o)
    {ref : SessionRef} {reason : String} {origin : ClientId}
    (hj : p'.Pending (Instr.relay (RelayCall.finish ref reason (some origin)))) :
    EndsOwn p'.shared ref origin := by
  have heffect := hexec.effect
  have hrunning := hexec.running
  rcases hexec.pending hj with hleads | hold
  · generalize hfinish :
      Instr.relay (RelayCall.finish ref reason (some origin)) = j at hleads
    cases hleads with
    | agentOffline hmem =>
        rename_i a d ref'
        cases hfinish
        have hagent := hinv.clientsKnown.agent hrunning rfl rfl
        have hknown := hinv.clientsKnown.known hrunning rfl
        have hlt : ref < p.shared.log.born.length := by
          rw [hinv.born]
          exact lt_of_mem_sessionsForAgent hmem
        have hown : EndsOwn p.shared ref origin := by
          refine ⟨p.shared.log.born.get ⟨ref, hlt⟩, by simp [hlt], ?_⟩
          intro c hafter hbefore heq
          have hnot := List.all_eq_true.mp hguard ref hmem
          rw [Bool.not_eq_true', replacedBefore, List.any_eq_false] at hnot
          apply hnot c
          · rw [List.mem_range]
            simpa [hlt] using hbefore
          · rw [Bool.and_eq_true, decide_eq_true_iff, decide_eq_true_iff]
            exact ⟨hafter, heq.trans hagent⟩
        exact hown.step hknown hinv.born hinv.bornKnown heffect
    | read _ hhandles =>
        subst hfinish
        cases hhandles
    | _ =>
        cases hfinish
  · have hknown := hinv.clientsKnown.known hold rfl
    exact (hinv.ending hold).step hknown hinv.born hinv.bornKnown heffect

theorem SessionLaw.step {p p' : State} {x : Input} {k : Instr}
    {o : Outcome Server Instr} (hs : p.shared.HubSound) (hinv : SessionLaw p)
    (hguard : ordersPresence p k x = true) (hexec : Executes p p' x k o) :
    SessionLaw p' := by
  rcases hexec.effect.born hinv.born with ⟨hlen, m, heq⟩
  refine ⟨hinv.clientsKnown.step hs hexec, hlen, ?_,
    fun hj => hinv.ending_step hguard hexec hj⟩
  intro n hn
  have hmono := hexec.effect.nextClient_mono
  rw [heq] at hn
  rcases List.mem_append.mp hn with hold | hnew
  · exact Nat.le_trans (hinv.bornKnown hold) hmono
  · rw [(List.mem_replicate.mp hnew).right]
    exact hmono

/-!
## Agreement
-/

/-- The instruction waits for the network or for a timer. -/
def waits : Instr -> Bool
  | Instr.conn (ConnCall.readPump _) => true
  | Instr.conn (ConnCall.writePump _) => true
  | Instr.relay (RelayCall.waitPairTimeout _) => true
  | Instr.relay (RelayCall.pump _) => true
  | Instr.relay (RelayCall.expireTombstone _) => true
  | _ => false

/-- No handler and no `Unregister` is under way. -/
def quiescent (p : State) : Bool :=
  !p.anyPending fun j => !waits j

theorem waits_of_quiescent {p : State} (h : quiescent p = true) {j : Instr}
    (hj : p.Pending j) : waits j = true := by
  have hnone := Pool.anyPending_eq_false.mp (Bool.not_eq_true' _ ▸ h) j hj
  simpa using hnone

theorem presence_preserved :
    server.Preserves
      (fun p e => Pool.guarded
        (fun p k x => statusSucceeds p k x && ordersPresence p k x) p e = true)
      (fun p => p.shared.HubSound ∧ PresenceLaw p ∧ SessionLaw p) := by
  apply server_preserves
  · intro p p' r hinv hstarts
    exact ⟨hinv.left.start hstarts, hinv.right.start hstarts⟩
  · intro p p' x k o hs hinv hguard hexec
    rcases Bool.and_eq_true_iff.mp hguard with ⟨hstatus, horder⟩
    exact ⟨hinv.left.step hs hstatus horder hexec,
      hinv.right.step hs horder hexec⟩

theorem presenceLaw_boot {wsEndpoint : String} {sessionTTL : Nat} {db : Database}
    {issued : List Uuid} (hcerts : CertificatesSound db issued)
    (hoffline : forall r, r ∈ db.agents -> r.status = AgentStatus.offline) :
    PresenceLaw (boot wsEndpoint sessionTTL db issued) := by
  refine ⟨identityLaw_boot hcerts, fun hc => absurd hc List.not_mem_nil, ?_,
    fun _ hc => absurd hc List.not_mem_nil⟩
  intro r hr honline
  rw [hoffline r hr] at honline
  cases honline

theorem sessionLaw_boot (wsEndpoint : String) (sessionTTL : Nat) (db : Database)
    (issued : List Uuid) : SessionLaw (boot wsEndpoint sessionTTL db issued) :=
  ⟨clientsKnown_boot _ _ _ _, rfl, fun hn => absurd hn List.not_mem_nil,
    fun hj => absurd hj boot_pending⟩

/-- In every run in which the updates of the status succeed and go with the
registry, the status of the agents agrees with the registry in every quiescent
state; and in every run in which `EndSessionsForAgent` finds no session of a newer
connection, the sessions that it ends are older than that connection. -/
theorem presence_agrees (wsEndpoint : String) (sessionTTL : Nat) (db : Database)
    (issued : List Uuid) (hcerts : CertificatesSound db issued)
    (hoffline : forall r, r ∈ db.agents -> r.status = AgentStatus.offline)
    {es : List Event} {q : State}
    (hrun : server.run (boot wsEndpoint sessionTTL db issued) es = some q)
    (hstatus : server.Meets (fun p e => Pool.guarded statusSucceeds p e = true)
      (boot wsEndpoint sessionTTL db issued) es)
    (hmeets : server.Meets (fun p e => Pool.guarded ordersPresence p e = true)
      (boot wsEndpoint sessionTTL db issued) es) :
    (quiescent q = true ->
      (forall r, r ∈ q.shared.db.agents -> r.status = AgentStatus.online ->
        q.shared.hub.clients r.id.text ≠ none) ∧
      (forall r c, r ∈ q.shared.db.agents ->
        q.shared.hub.clients r.id.text = some c -> c ∈ q.shared.log.greeted ->
        r.status = AgentStatus.online)) ∧
    (forall ref reason origin,
      q.Pending (Instr.relay (RelayCall.finish ref reason (some origin))) ->
      EndsOwn q.shared ref origin) := by
  rcases (presence_preserved.run
    ⟨boot_hubSound _ _ _ _, presenceLaw_boot hcerts hoffline, sessionLaw_boot _ _ _ _⟩
    (Pool.meets_guarded_both hstatus hmeets) hrun).right with ⟨hpresence, hsessions⟩
  refine ⟨?_, fun ref reason origin hj => hsessions.ending hj⟩
  intro hquiet
  constructor
  · intro r hr honline
    rcases hpresence.online hr honline with hcur | ⟨c, hpending⟩
    · exact hcur
    · have hwaits := waits_of_quiescent hquiet hpending
      cases hwaits
  · intro r c hr hcur hgreeted
    exact hpresence.connected hcur hgreeted hr (Uuid.named_text.mpr rfl)

namespace Sample

/-- The agent says HELLO and goroutine `i` handles it. -/
def hello (i : Nat) : List Event :=
  [receive i (Incoming.hello "m1" true), go i, go i, go i]

/-- A connection ends, and the agent connects again after `MarkOffline`. -/
def reconnectAfterOffline : List Event :=
  connect 0 ++ hello 0 ++ [go 0, go 0, go 0, go 0] ++ connect 2 ++ hello 2

/-- The agent connects again between the `Unregister` of its old connection and
`MarkOffline`. -/
def reconnectBeforeOffline : List Event :=
  connect 0 ++ [go 0, go 0] ++ connect 2 ++ hello 2 ++ [go 0, go 0]

end Sample

theorem presence_agrees_reconnection :
    exists q r, server.run Sample.start Sample.reconnectAfterOffline = some q ∧
      quiescent q = true ∧ r ∈ q.shared.db.agents ∧
      q.shared.hub.clients r.id.text = some 1 ∧
      r.status = AgentStatus.online := by
  obtain ⟨q, r, hrun, hquiet, hr, hcur, hgreeted⟩ : exists q r,
      server.run Sample.start Sample.reconnectAfterOffline = some q ∧
        quiescent q = true ∧ r ∈ q.shared.db.agents ∧
        q.shared.hub.clients r.id.text = some 1 ∧ 1 ∈ q.shared.log.greeted :=
    ⟨_, _, rfl, by decide, List.mem_cons_self, rfl, by decide⟩
  have hoffline : forall r, r ∈ Sample.database.agents ->
      r.status = AgentStatus.offline := by
    intro r hr
    rw [List.mem_singleton.mp hr]
  refine ⟨q, r, hrun, hquiet, hr, hcur, ?_⟩
  exact ((presence_agrees _ _ _ _ sample_certificates hoffline hrun (by decide)
    (by decide)).left hquiet).right r 1 hr hcur hgreeted

/-- The agent is connected and has said HELLO, nothing is under way, and its row
says that it is offline. -/
theorem offline_although_connected :
    exists q r, server.run Sample.start Sample.reconnectBeforeOffline = some q ∧
      server.Meets (fun p e => Pool.guarded statusSucceeds p e = true) Sample.start
        Sample.reconnectBeforeOffline ∧
      quiescent q = true ∧ r ∈ q.shared.db.agents ∧
      q.shared.hub.clients r.id.text = some 1 ∧ 1 ∈ q.shared.log.greeted ∧
      r.status = AgentStatus.offline :=
  ⟨_, _, rfl, by decide, by decide, List.mem_cons_self, rfl, by decide, rfl⟩

end Backend
end LeoOne
