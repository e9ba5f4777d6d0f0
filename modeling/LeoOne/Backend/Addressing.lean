import LeoOne.Backend.AtMostOnce
import LeoOne.Backend.CommandResults

/-!
# The addressee of a command

Between the insertion of a command and its `Send` the command is named three
times: by the order that `CreateAndDispatchCommand` was called with, by the text
that `SendToAgent` looks up, and by the connection that is found.  All three name
the agent of the row, and the message holds the type and the payload of the row.
-/

namespace LeoOne
namespace Backend

open Foundation
open Wire
open Websocket
open RemoteDesktop

/-!
## Insertion
-/

/-- The rows after the insertion of a command. -/
theorem exec_insertCommand {order : CommandOrder} {ttl : Nat} {x : Input} {db : Database}
    {r : CommandRow} (h : r ∈ ((Statement.insertCommand order).exec ttl x db).1.commands) :
    r ∈ db.commands ∨
      (x.id = some r.id ∧ Uuid.parse order.tenantId = some r.tenantId ∧
        r.agentId.named order.agentId = true ∧ r.type = order.type ∧
        r.payload = order.payload ∧ exists a, a ∈ db.agents ∧ a.id = r.agentId) := by
  simp only [Statement.exec] at h
  split at h
  · exact Or.inl h
  · rename_i id hid
    split at h
    · exact Or.inl h
    · rename_i db' hinsert
      unfold Database.insertCommand at hinsert
      split at hinsert
      · rename_i agent tenant hfind htenant
        split at hinsert
        · cases hinsert
        · have hnamed := List.find?_some hfind
          cases hinsert
          rcases List.mem_append.mp h with hold | hnew
          · exact Or.inl hold
          · rw [List.mem_singleton] at hnew
            subst hnew
            exact Or.inr ⟨hid, htenant, hnamed, rfl, rfl, agent,
              List.mem_of_find?_eq_some hfind, rfl⟩
      · cases hinsert

/-- What follows the insertion of a command comes after the insertion of its row. -/
theorem inserted_of_created {s : Server} {x : Input} {order : CommandOrder}
    {o : Outcome Server Instr} {j : Instr}
    (h : Server.perform (Instr.sql (Statement.insertCommand order)) x s = some o)
    (hj : j ∈ o.created) :
    exists r, r ∈ o.shared.db.commands ∧ r ∈ o.shared.log.commands ∧
      j = Instr.hub (HubCall.isConnectedCommand r.id order) ∧
      r.agentId.named order.agentId = true ∧ r.type = order.type ∧
      r.payload = order.payload := by
  simp only [Server.perform, Server.performSql, Statement.generatesId, if_true] at h
  split at h
  · cases h
  · split at h
    · cases h
      exact absurd hj List.not_mem_nil
    · split at h
      · cases h
      · rename_i id hid
        split at h
        · cases h
        · cases h
          simp only [Outcome.created, List.flatten_nil, List.append_nil, Statement.exec,
            hid] at hj
          split at hj
          · exact absurd hj List.not_mem_nil
          · rename_i db' hinsert
            rcases insertCommand_some hinsert with ⟨agent, tenant, _, hnamed, _, rfl⟩
            have hrow : Database.newCommand id tenant agent.id order.createdBy
                order.scheduleId order.type order.payload x.now ∈
                ((Statement.insertCommand order).exec s.sessionTTL x s.db).1.commands := by
              simp only [Statement.exec, hid, hinsert]
              exact List.mem_append_right _ List.mem_cons_self
            refine ⟨_, hrow, ?_, List.mem_singleton.mp hj, hnamed, rfl, rfl⟩
            exact List.mem_append_right _ (List.mem_filter.mpr ⟨hrow, decide_eq_true rfl⟩)

/-!
## The law
-/

/-- The instruction is on its way to send this command: to its agent, with its type
and its payload. -/
def Fits (s : Server) (r : CommandRow) : Instr -> Prop
  | Instr.hub (HubCall.isConnectedCommand _ order) =>
      r.agentId.named order.agentId = true ∧ r.type = order.type ∧ r.payload = order.payload
  | Instr.hub (HubCall.lookup a msg _) =>
      r.agentId.named a = true ∧ exists ts, msg = commandMessage r.id r.type r.payload ts
  | Instr.conn (ConnCall.send c msg _) =>
      r.agentId.named (s.hub.heap c).agentId = true ∧
        exists ts, msg = commandMessage r.id r.type r.payload ts
  | _ => True

/-- A command that has been inserted, and that the instruction fits. -/
def Sending (s : Server) (id : Uuid) (k : Instr) : Prop :=
  exists r, r ∈ s.log.commands ∧ r.id = id ∧ Fits s r k

/-- Every inserted command is on record once; the goroutines that send commands
send them to their agents, and so did those that have sent them. -/
structure Addressed (p : State) : Prop where
  clients : ClientsKnown p
  labelled : OutgoingLabelled p
  keys : CommandKeys p.shared
  recorded : forall {r}, r ∈ p.shared.db.commands ->
    exists r0, r0 ∈ p.shared.log.commands ∧ r0.id = r.id ∧ SameOrder r r0
  unique : forall {r r'}, r ∈ p.shared.log.commands -> r' ∈ p.shared.log.commands ->
    r.id = r'.id -> r = r'
  logged : forall {r}, r ∈ p.shared.log.commands -> r.id ∈ p.shared.log.issued
  sending : forall {k id}, p.Pending k -> willSend id k = true -> Sending p.shared id k
  accepted : forall {c msg caller id}, (c, msg, caller) ∈ p.shared.log.accepted ->
    carries msg id = true ->
    c < p.shared.nextClient ∧ Sending p.shared id (Instr.conn (ConnCall.send c msg caller))

theorem Fits.step {s t : Server} {x : Input} {k j : Instr} {r : CommandRow}
    (h : Fits s r j) (heffect : Effect s x k t)
    (hknown : forall c, client? j = some c -> c < s.nextClient) : Fits t r j := by
  unfold Fits at h ⊢
  split
  · exact h
  · exact h
  · rename_i c msg caller
    rcases h with ⟨hnamed, hmsg⟩
    rw [(heffect.identity (hknown c rfl)).left]
    exact ⟨hnamed, hmsg⟩
  · trivial

theorem Sending.step {s t : Server} {x : Input} {k j : Instr} {id : Uuid}
    (h : Sending s id j) (heffect : Effect s x k t)
    (hknown : forall c, client? j = some c -> c < s.nextClient) : Sending t id j := by
  rcases h with ⟨r, hr, hid, hfits⟩
  exact ⟨r, heffect.ordered_mono hr, hid, hfits.step heffect hknown⟩

/-- The commands in the history, after a step: the earlier ones, and rows that the
step has inserted. -/
theorem Effect.logged {s t : Server} {x : Input} {k : Instr} (heffect : Effect s x k t)
    {r : CommandRow} (h : r ∈ t.log.commands) :
    r ∈ s.log.commands ∨ (r ∈ t.db.commands ∧ r.id ∉ s.log.issued ∧ r.id ∈ t.log.issued) := by
  cases heffect with
  | statement hok hgen =>
      rename_i st
      left
      cases st <;> exact h
  | insertion hok hgen hid hnew =>
      rcases List.mem_append.mp h with hold | hrow
      · exact Or.inl hold
      · rcases List.mem_filter.mp hrow with ⟨hrow, heq⟩
        rw [of_decide_eq_true heq]
        exact Or.inr ⟨hrow, hnew, List.mem_cons_self⟩
  | _ =>
      exact Or.inl h

theorem Addressed.unique_step {p p' : State} {x : Input} {k : Instr}
    {o : Outcome Server Instr} (hinv : Addressed p) (hexec : Executes p p' x k o)
    {r r' : CommandRow} (hr : r ∈ p'.shared.log.commands) (hr' : r' ∈ p'.shared.log.commands)
    (hid : r.id = r'.id) : r = r' := by
  have hkeys := hinv.keys.step hexec.effect
  rcases hexec.effect.logged hr with hold | ⟨hrow, hnew, _⟩
  · rcases hexec.effect.logged hr' with hold' | ⟨_, hnew', _⟩
    · exact hinv.unique hold hold' hid
    · rw [← hid] at hnew'
      exact absurd (hinv.logged hold) hnew'
  · rcases hexec.effect.logged hr' with hold' | ⟨hrow', _, _⟩
    · rw [hid] at hnew
      exact absurd (hinv.logged hold') hnew
    · exact List.inj_on_of_nodup_map hkeys.nodup hrow hrow' hid

/-- A goroutine comes to send a command with the row it has inserted, with a row it
has selected, or with what it was sending. -/
theorem Addressed.sending_new {p p' : State} {x : Input} {k j : Instr}
    {o : Outcome Server Instr} (hs : p.shared.HubSound) (hinv : Addressed p)
    (hexec : Executes p p' x k o) (hj : j ∈ o.created) {id : Uuid}
    (hwill : willSend id j = true) : Sending p'.shared id j := by
  have heffect := hexec.effect
  have hperform := hexec.perform
  have hrunning := hexec.running
  have hshared := hexec.executed.shared
  have hleads := leads_of_perform hperform hj
  cases hleads with
  | created hok hid =>
      obtain ⟨r, _, hlogged, heq, hnamed, htype, hpayload⟩ :=
        inserted_of_created hperform hj
      cases heq
      rw [hshared]
      exact ⟨r, hlogged, of_decide_eq_true hwill, hnamed, htype, hpayload⟩
  | redeliver hrow =>
      rcases mem_pendingCommands.mp hrow with ⟨hmem, hpending⟩
      rcases hinv.recorded hmem with ⟨r0, hr0, hid0, hagent, htype, hpayload⟩
      refine Sending.step ⟨r0, hr0, ?_, ?_, x.now, ?_⟩ heffect ?_
      · rw [hid0]
        exact Option.some.inj (of_decide_eq_true hwill)
      · have hnamed : Uuid.named _ _ = true := (Bool.and_eq_true_iff.mp
          (Bool.and_eq_true_iff.mp hpending).left).left
        rw [hinv.clients.agent hrunning rfl rfl, ← hagent]
        exact hnamed
      · rw [hid0, ← htype, ← hpayload]
      · intro c hc
        cases hc
        exact hinv.clients.known hrunning rfl
  | commandConnected hconn =>
      have hid := Option.some.inj (of_decide_eq_true hwill)
      obtain ⟨r, hr, hrid, hnamed, htype, hpayload⟩ :=
        hinv.sending hrunning (decide_eq_true hid)
      refine Sending.step ⟨r, hr, hrid, hnamed, x.now, ?_⟩ heffect ?_
      · rw [hrid, htype, hpayload, hid]
      · intro c hc
        cases hc
  | found hcur =>
      rcases hinv.sending hrunning hwill with ⟨r, hr, hrid, hnamed, hmsg⟩
      refine Sending.step ⟨r, hr, hrid, ?_, hmsg⟩ heffect ?_
      · rw [hs.agent hcur]
        exact hnamed
      · intro c hc
        cases hc
        exact hs.known hcur
  | read hmsg hhandles =>
      cases hhandles <;> cases hwill
  | _ =>
      cases hwill

theorem Addressed.start {p p' : State} {r : Request} (hinv : Addressed p)
    (hstarts : Starts p p' r) : Addressed p' := by
  refine ⟨hinv.clients.start hstarts, hinv.labelled.start hstarts, ?_, ?_, ?_, ?_, ?_, ?_⟩
  · rw [hstarts.shared]
    exact hinv.keys
  · rw [hstarts.shared]
    exact hinv.recorded
  · rw [hstarts.shared]
    exact hinv.unique
  · rw [hstarts.shared]
    exact hinv.logged
  · intro k id hk hwill
    rw [hstarts.shared]
    rcases hstarts.pending hk with henters | hold
    · cases henters <;> cases hwill
    · exact hinv.sending hold hwill
  · rw [hstarts.shared]
    exact hinv.accepted

theorem Addressed.step {p p' : State} {x : Input} {k : Instr} {o : Outcome Server Instr}
    (hs : p.shared.HubSound) (hinv : Addressed p) (hexec : Executes p p' x k o) :
    Addressed p' := by
  have heffect := hexec.effect
  refine ⟨hinv.clients.step hs hexec, hinv.labelled.step hexec, hinv.keys.step heffect, ?_,
    fun hr hr' hid => hinv.unique_step hexec hr hr' hid, ?_, ?_, ?_⟩
  · intro r hr
    rcases heffect.commands hr with ⟨old, st, hold, hchange, _⟩ | ⟨st, _, _, _, hlogged⟩
    · rcases hinv.recorded hold with ⟨r0, hr0, hid, hsame⟩
      have hchanged := hchange.sameOrder
      refine ⟨r0, heffect.ordered_mono hr0, hid.trans hchange.id_eq.symm, ?_, ?_, ?_⟩
      · exact hchanged.left.trans hsame.left
      · exact hchanged.right.left.trans hsame.right.left
      · exact hchanged.right.right.trans hsame.right.right
    · exact ⟨r, hlogged, rfl, rfl, rfl, rfl⟩
  · intro r hr
    rcases heffect.logged hr with hold | ⟨_, _, hissued⟩
    · exact heffect.issued_mono (hinv.logged hold)
    · exact hissued
  · intro j id hj hwill
    rcases hexec.executed.pending hj with hnew | hold
    · exact hinv.sending_new hs hexec hnew hwill
    · exact (hinv.sending hold hwill).step heffect fun c hc => hinv.clients.known hold hc
  · intro c msg caller id hmem hcarries
    rcases heffect.accepted with hsame | ⟨d, m, cl, client, rfl, _, ht⟩
    · rw [hsame] at hmem
      rcases hinv.accepted hmem hcarries with ⟨hc, hsending⟩
      refine ⟨Nat.lt_of_lt_of_le hc heffect.nextClient_mono, hsending.step heffect ?_⟩
      intro c' hc'
      cases hc'
      exact hc
    · have hmem' : (c, msg, caller) ∈ p.shared.log.accepted ++ [(d, m, cl)] := by
        rw [ht] at hmem
        exact hmem
      have hknown : c < p.shared.nextClient ∧
          Sending p.shared id (Instr.conn (ConnCall.send c msg caller)) := by
        rcases List.mem_append.mp hmem' with hold | hnew
        · exact hinv.accepted hold hcarries
        · cases List.mem_singleton.mp hnew
          have hmarks := (hinv.labelled _ _ _ hexec.running rfl id).mp hcarries
          exact ⟨hinv.clients.known hexec.running rfl,
            hinv.sending hexec.running (decide_eq_true hmarks)⟩
      refine ⟨Nat.lt_of_lt_of_le hknown.left heffect.nextClient_mono,
        hknown.right.step heffect ?_⟩
      intro c' hc'
      cases hc'
      exact hknown.left

theorem addressed_boot {wsEndpoint : String} {sessionTTL : Nat} {db : Database}
    {issued : List Uuid} (hnodup : (db.commands.map CommandRow.id).Nodup)
    (hissued : forall r, r ∈ db.commands -> r.id ∈ issued) :
    Addressed (boot wsEndpoint sessionTTL db issued) where
  clients := clientsKnown_boot _ _ _ _
  labelled := fun _ _ _ hj _ => absurd hj boot_pending
  keys := ⟨hnodup, fun hr => hissued _ hr⟩
  recorded := fun hr => ⟨_, hr, rfl, rfl, rfl, rfl⟩
  unique := fun hr hr' hid => List.inj_on_of_nodup_map hnodup hr hr' hid
  logged := fun hr => hissued _ hr
  sending := fun hk _ => absurd hk boot_pending
  accepted := fun hmem _ => absurd hmem List.not_mem_nil

/-- A message that carries a command went to a connection of its agent, and holds
its type and its payload. -/
theorem Addressed.delivered {p : State} (hinv : Addressed p) {c : ClientId} {msg : Envelope}
    {caller : Caller} (hmem : (c, msg, caller) ∈ p.shared.log.accepted) {r : CommandRow}
    (hr : r ∈ p.shared.log.commands) (hcarries : carries msg r.id = true) :
    r.agentId.named (p.shared.hub.heap c).agentId = true ∧
      exists ts, msg = commandMessage r.id r.type r.payload ts := by
  rcases hinv.accepted hmem hcarries with ⟨_, r', hr', hid, hfits⟩
  have heq := hinv.unique hr' hr hid
  subst heq
  exact hfits

end Backend
end LeoOne
