import LeoOne.Backend.Steps

/-!
# Connections

What a goroutine does for a connection names the client of that connection, and
sometimes its agent.  Both are right in every reachable state: the client has
been registered, for that agent.
-/

namespace LeoOne
namespace Backend

open Foundation
open Wire
open Websocket
open RemoteDesktop

/-- The client that the instruction works for. -/
def client? : Instr -> Option ClientId
  | Instr.sql (Statement.setOnline _ c) => some c
  | Instr.sql (Statement.setOffline _ c) => some c
  | Instr.sql (Statement.selectPending _ c) => some c
  | Instr.hub (HubCall.unregister c) => some c
  | Instr.conn (ConnCall.readPump c) => some c
  | Instr.conn (ConnCall.writePump c) => some c
  | Instr.conn (ConnCall.send c _ _) => some c
  | Instr.relay (RelayCall.endSessionsForAgent _ c) => some c
  | Instr.relay (RelayCall.finish _ _ origin) => origin
  | _ => none

/-- The agent that the instruction takes the client to be connected for. -/
def agent? : Instr -> Option String
  | Instr.sql (Statement.setOnline a _) => some a
  | Instr.sql (Statement.setOffline a _) => some a
  | Instr.sql (Statement.selectPending a _) => some a
  | Instr.relay (RelayCall.endSessionsForAgent a _) => some a
  | _ => none

/-- The current connection of an agent was current before, or is the new one. -/
theorem Effect.current {s t : Server} {x : Input} {k : Instr}
    (heffect : Effect s x k t) {a : String} {c : ClientId}
    (h : t.hub.clients a = some c) :
    s.hub.clients a = some c ∨
      (c = s.nextClient ∧ exists tenant,
        k = Instr.hub (HubCall.register a tenant)) := by
  cases heffect with
  | register =>
      rename_i b tenant
      rw [Hub.addClient_clients] at h
      by_cases hab : a = b
      · subst hab
        rw [Function.update_self, Option.some.injEq] at h
        exact Or.inr ⟨h.symm, tenant, rfl⟩
      · rw [Function.update_of_ne hab] at h
        exact Or.inl h
  | unregister hcur =>
      rename_i d
      rw [Hub.evict_clients] at h
      by_cases hab : a = (s.hub.heap d).agentId
      · rw [hab, Function.update_self] at h
        cases h
      · rw [Function.update_of_ne hab] at h
        exact Or.inl h
  | disconnect hcur =>
      rename_i agent b d
      rw [Hub.evict_clients] at h
      by_cases hab : a = b
      · rw [hab, Function.update_self] at h
        cases h
      · rw [Function.update_of_ne hab] at h
        exact Or.inl h
  | _ =>
      exact Or.inl h

/-- Goroutines work for clients that have been registered, for their agents. -/
structure ClientsKnown (p : State) : Prop where
  known : forall {j c}, p.Pending j -> client? j = some c ->
    c < p.shared.nextClient
  agent : forall {j c a}, p.Pending j -> client? j = some c -> agent? j = some a ->
    (p.shared.hub.heap c).agentId = a

theorem enters_client? {r : Request} {j : Instr} (h : Enters r j) :
    client? j = none := by
  cases h <;> rfl

/-- A goroutine goes on with its own client or takes up a registered one. -/
theorem client?_of_leads {s : Server} {x : Input} {k j : Instr}
    (hs : s.HubSound) (hleads : Leads s x k j) {c : ClientId}
    (hc : client? j = some c) :
    client? k = some c ∨ c < s.nextClient ∨
      (c = s.nextClient ∧ exists a t, k = Instr.hub (HubCall.register a t)) := by
  cases hleads with
  | redeliver _ =>
      exact Or.inl hc
  | startReadPump =>
      cases hc
      exact Or.inr (Or.inr ⟨rfl, _, _, rfl⟩)
  | startWritePump =>
      cases hc
      exact Or.inr (Or.inr ⟨rfl, _, _, rfl⟩)
  | unregisteredOffline hcur =>
      exact Or.inl hc
  | unregisteredSessions hcur =>
      exact Or.inl hc
  | disconnectedOffline hcur =>
      cases hc
      exact Or.inr (Or.inl (hs.known hcur))
  | disconnectedSessions hcur =>
      cases hc
      exact Or.inr (Or.inl (hs.known hcur))
  | found hcur =>
      cases hc
      exact Or.inr (Or.inl (hs.known hcur))
  | readError =>
      exact Or.inl hc
  | read hmsg hhandles =>
      cases hhandles with
      | cmdResult =>
          cases hc
      | patchInventory =>
          cases hc
      | progress =>
          cases hc
      | _ =>
          exact Or.inl hc
  | readNext =>
      exact Or.inl hc
  | writeNext =>
      exact Or.inl hc
  | agentOffline _ =>
      exact Or.inl hc
  | _ =>
      cases hc

/-- The agent of an instruction is that of its client. -/
theorem agent?_of_leads {s : Server} {x : Input} {k j : Instr}
    (hs : s.HubSound) (hleads : Leads s x k j) {c : ClientId} {a : String}
    (hc : client? j = some c) (ha : agent? j = some a) :
    (s.hub.heap c).agentId = a := by
  cases hleads with
  | unregisteredOffline hcur =>
      cases hc
      cases ha
      rfl
  | unregisteredSessions hcur =>
      cases hc
      cases ha
      rfl
  | disconnectedOffline hcur =>
      cases hc
      cases ha
      exact hs.agent hcur
  | disconnectedSessions hcur =>
      cases hc
      cases ha
      exact hs.agent hcur
  | read hmsg hhandles =>
      cases hhandles with
      | helloOnline =>
          cases hc
          cases ha
          rfl
      | helloPending =>
          cases hc
          cases ha
          rfl
      | heartbeat =>
          cases hc
          cases ha
          rfl
      | _ =>
          cases ha
  | _ =>
      cases ha

theorem ClientsKnown.start {p p' : State} {r : Request} (hinv : ClientsKnown p)
    (hstarts : Starts p p' r) : ClientsKnown p' := by
  constructor
  · intro j c hj hc
    rw [hstarts.shared]
    rcases hstarts.pending hj with henters | hold
    · rw [enters_client? henters] at hc
      cases hc
    · exact hinv.known hold hc
  · intro j c a hj hc ha
    rw [hstarts.shared]
    rcases hstarts.pending hj with henters | hold
    · rw [enters_client? henters] at hc
      cases hc
    · exact hinv.agent hold hc ha

theorem ClientsKnown.step {p p' : State} {x : Input} {k : Instr}
    {o : Outcome Server Instr} (hs : p.shared.HubSound) (hinv : ClientsKnown p)
    (hexec : Executes p p' x k o) : ClientsKnown p' := by
  have heffect := hexec.effect
  have hmono := heffect.nextClient_mono
  have hknown : forall {j c}, p'.Pending j -> client? j = some c ->
      c < p.shared.nextClient ∨
        (c = p.shared.nextClient ∧ exists a t,
          k = Instr.hub (HubCall.register a t)) := by
    intro j c hj hc
    rcases hexec.pending hj with hleads | hold
    · rcases client?_of_leads hs hleads hc with hsame | hless | hnew
      · exact Or.inl (hinv.known hexec.running hsame)
      · exact Or.inl hless
      · exact Or.inr hnew
    · exact Or.inl (hinv.known hold hc)
  constructor
  · intro j c hj hc
    rcases hknown hj hc with hless | ⟨rfl, a, t, rfl⟩
    · exact Nat.lt_of_lt_of_le hless hmono
    · generalize p'.shared = server' at heffect
      cases heffect with
      | quiet hquiet =>
          cases hquiet
      | register =>
          exact Nat.lt_succ_self _
  · intro j c a hj hc ha
    rcases hexec.pending hj with hleads | hold
    · have hagent := agent?_of_leads hs hleads hc ha
      rcases hknown hj hc with hless | ⟨_, b, t, rfl⟩
      · exact (heffect.identity hless).left.trans hagent
      · cases hleads <;> cases ha
    · exact (heffect.identity (hinv.known hold hc)).left.trans
        (hinv.agent hold hc ha)

theorem clientsKnown_boot (wsEndpoint : String) (sessionTTL : Nat)
    (db : Database) (issued : List Uuid) :
    ClientsKnown (boot wsEndpoint sessionTTL db issued) :=
  ⟨fun hj _ => absurd hj boot_pending, fun hj _ _ => absurd hj boot_pending⟩

end Backend
end LeoOne
