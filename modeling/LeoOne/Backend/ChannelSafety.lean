import LeoOne.Backend.Steps

/-!
# Sends on closed channels

`SendToAgent` releases the lock of the Hub before it calls `Send`, and
`handleHello` sends on its own client without any lock, whereas `Register`,
`Unregister` and `Disconnect` close channels.  A send on a closed channel
panics.  The server is safe from this in the runs in which no channel is closed
between the lookup of a client and the send on it, and in which no HELLO is
handled on a connection that has already been replaced or cut.
-/

namespace LeoOne
namespace Backend

open Foundation
open Wire
open Websocket
open RemoteDesktop

/-- The instruction is going to send on the channel of `c`. -/
def sendsOn (c : ClientId) : Instr -> Bool
  | Instr.conn (ConnCall.send d _ _) => d = c
  | Instr.sql (Statement.selectPending _ d) => d = c
  | _ => false

/-- The client whose channel the instruction closes. -/
def closes (s : Server) : Instr -> Option ClientId
  | Instr.hub (HubCall.register a _) => s.hub.clients a
  | Instr.hub (HubCall.unregister c) =>
      if s.hub.clients (s.hub.heap c).agentId = some c then some c else none
  | Instr.hub (HubCall.disconnect _ a) => s.hub.clients a
  | _ => none

/-- No goroutine is about to send on a channel that is being closed, and a HELLO
is handled only on the current connection of its agent. -/
def closesSafely (p : State) (k : Instr) (x : Input) : Bool :=
  (match closes p.shared k with
    | none => true
    | some c => !p.anyPending (sendsOn c)) &&
  (match k, x.message with
    | Instr.conn (ConnCall.readPump c), some (Incoming.hello _ true) =>
        p.shared.hub.clients (p.shared.hub.heap c).agentId = some c
    | _, _ => true)

/-- The server has not panicked, and whoever is about to send finds the channel
open. -/
structure SendsOpen (p : State) : Prop where
  alive : p.shared.panicked = false
  isOpen : forall {j c}, p.Pending j -> sendsOn c j = true ->
    (p.shared.hub.heap c).sendChan.closed = false

theorem no_sender_of_guard {p : State} {k : Instr} {x : Input}
    (hguard : closesSafely p k x = true) {c : ClientId}
    (hcloses : closes p.shared k = some c) {j : Instr} (hj : p.Pending j) :
    sendsOn c j = false := by
  unfold closesSafely at hguard
  rw [hcloses, Bool.and_eq_true, Bool.not_eq_true'] at hguard
  exact Pool.anyPending_eq_false.mp hguard.left j hj

/-- A step closes no channel but the one that `closes` names. -/
theorem closed_of_effect {s t : Server} {x : Input} {k : Instr}
    (hs : s.HubSound) (heffect : Effect s x k t) {c : ClientId}
    (hopen : (s.hub.heap c).sendChan.closed = false)
    (hnot : closes s k ≠ some c) :
    (t.hub.heap c).sendChan.closed = false := by
  cases heffect with
  | register =>
      rename_i a tenant
      have hne : s.hub.clients a ≠ some s.nextClient := by
        intro hcur
        exact Nat.lt_irrefl _ (hs.known hcur)
      have hclosed := Hub.addClient_closed hne tenant c
      have hcur : s.hub.clients a ≠ some c := hnot
      simp only [hclosed, hopen, hcur, decide_false, Bool.or_self, ite_self]
  | unregister hcur =>
      rename_i d
      have hdc : c ≠ d := by
        intro heq
        subst heq
        exact hnot (by simp [closes, hcur])
      simp [Hub.evict_closed, hopen, hdc]
  | disconnect hcur =>
      rename_i agent a d
      have hdc : c ≠ d := by
        intro heq
        subst heq
        exact hnot hcur
      simp [Hub.evict_closed, hopen, hdc]
  | write hagent htenant hclosed =>
      rename_i d client
      by_cases hd : c = d
      · subst hd
        simpa [Hub.setClient, hopen] using hclosed
      · simpa [Hub.setClient, hd] using hopen
  | accept hsend =>
      rename_i d msg caller client
      by_cases hd : c = d
      · subst hd
        rcases Client.send_cases hsend with ⟨_, _, _, ch, _, hstill, _, heq⟩ | ⟨hno, _⟩
        · subst heq
          simpa [Server.accept, Hub.setClient] using hstill
        · cases hno
      · simpa [Server.accept, Hub.setClient, hd] using hopen
  | _ =>
      exact hopen

/-- Whoever a step makes about to send finds the channel open. -/
theorem sendsOn_of_leads {p : State} {x : Input} {k j : Instr} {c : ClientId}
    (hs : p.shared.HubSound) (hinv : SendsOpen p) (hk : p.Pending k)
    (hguard : closesSafely p k x = true) (hleads : Leads p.shared x k j)
    (hsends : sendsOn c j = true) :
    (p.shared.hub.heap c).sendChan.closed = false ∧ closes p.shared k = none := by
  cases hleads with
  | redeliver hrow =>
      rename_i a d r
      have hd : d = c := by simpa [sendsOn] using hsends
      subst hd
      exact ⟨hinv.isOpen hk (by simp [sendsOn]), rfl⟩
  | found hcur =>
      rename_i a msg caller d
      have hd : d = c := by simpa [sendsOn] using hsends
      subst hd
      exact ⟨hs.isOpen hcur, rfl⟩
  | read hmsg hhandles =>
      rename_i d msg
      -- only a HELLO makes its own connection a target of sends
      have hhello : exists id, msg = Incoming.hello id true ∧ d = c := by
        cases hhandles with
        | helloAck =>
            exact ⟨_, rfl, by simpa [sendsOn] using hsends⟩
        | helloPending =>
            exact ⟨_, rfl, by simpa [sendsOn] using hsends⟩
        | _ =>
            cases hsends
      rcases hhello with ⟨id, rfl, rfl⟩
      have hcur : p.shared.hub.clients (p.shared.hub.heap d).agentId = some d := by
        simpa [closesSafely, closes, hmsg] using hguard
      exact ⟨hs.isOpen hcur, rfl⟩
  | _ =>
      cases hsends

/-- Only a send on a closed channel panics. -/
theorem alive_of_effect {s t : Server} {x : Input} {k : Instr}
    (heffect : Effect s x k t) (halive : s.panicked = false)
    (hopen : forall c, sendsOn c k = true ->
      (s.hub.heap c).sendChan.closed = false) :
    t.panicked = false := by
  cases heffect with
  | panicked hclosed =>
      rename_i c msg caller
      rw [hopen c (by simp [sendsOn])] at hclosed
      cases hclosed
  | _ =>
      exact halive

theorem sendsOpen_step {p p' : State} {x : Input} {k : Instr}
    {o : Outcome Server Instr} (hs : p.shared.HubSound) (hinv : SendsOpen p)
    (hguard : closesSafely p k x = true) (hexec : Executes p p' x k o) :
    SendsOpen p' := by
  constructor
  · apply alive_of_effect hexec.effect hinv.alive
    intro c hsends
    exact hinv.isOpen hexec.running hsends
  · intro j c hj hsends
    rcases hexec.pending hj with hleads | hold
    · rcases sendsOn_of_leads hs hinv hexec.running hguard hleads hsends with
        ⟨hopen, hnone⟩
      exact closed_of_effect hs hexec.effect hopen (by rw [hnone]; simp)
    · apply closed_of_effect hs hexec.effect (hinv.isOpen hold hsends)
      intro hcloses
      rw [no_sender_of_guard hguard hcloses hold] at hsends
      cases hsends

theorem sendsOpen_preserved :
    server.Preserves (fun p e => Pool.guarded closesSafely p e = true)
      (fun p => p.shared.HubSound ∧ SendsOpen p) := by
  apply server_preserves
  · intro p p' r hinv hstarts
    constructor
    · rw [hstarts.shared]
      exact hinv.alive
    · intro j c hj hsends
      rw [hstarts.shared]
      rcases hstarts.pending hj with henters | hold
      · cases henters <;> cases hsends
      · exact hinv.isOpen hold hsends
  · intro p p' x k o hs hinv hguard hexec
    exact sendsOpen_step hs hinv hguard hexec

/-- In every run that closes channels safely, `Send` never sends on a closed
channel. -/
theorem never_sends_on_closed (wsEndpoint : String) (sessionTTL : Nat)
    (db : Database) (issued : List Uuid) {es : List Event} {q : State}
    (hrun : server.run (boot wsEndpoint sessionTTL db issued) es = some q)
    (hmeets : server.Meets (fun p e => Pool.guarded closesSafely p e = true)
      (boot wsEndpoint sessionTTL db issued) es) :
    q.shared.panicked = false := by
  have hinit : SendsOpen (boot wsEndpoint sessionTTL db issued) :=
    ⟨rfl, fun hj _ => absurd hj boot_pending⟩
  have hinv := sendsOpen_preserved.run ⟨boot_hubSound _ _ _ _, hinit⟩ hmeets hrun
  exact hinv.right.alive

namespace Sample

/-- A command is sent, the agent says HELLO, and then its connection ends. -/
def orderlyEnd : List Event :=
  connect 0 ++ order 2 ++
    [go 2, go 2, go 2, receive 0 (Incoming.hello "h" true), go 0, go 0, go 0,
      go 0, go 0]

/-- The connection ends between the lookup of the client and the send. -/
def endBeforeSend : List Event :=
  connect 0 ++ order 2 ++ [go 2, go 2, go 0, go 0, go 2]

end Sample

theorem never_sends_on_closed_orderlyEnd :
    exists q, server.run Sample.start Sample.orderlyEnd = some q ∧
      q.shared.panicked = false := by
  obtain ⟨q, hrun⟩ : exists q,
      server.run Sample.start Sample.orderlyEnd = some q := ⟨_, rfl⟩
  exact ⟨q, hrun, never_sends_on_closed _ _ _ _ hrun (by decide)⟩

/-- `SendToAgent` finds the client under the read lock, the `ReadPump` of that
client unregisters it, and the send panics. -/
theorem sends_on_closed_after_unregister :
    exists q, server.run Sample.start Sample.endBeforeSend = some q ∧
      q.shared.panicked = true :=
  ⟨_, rfl, rfl⟩

end Backend
end LeoOne
