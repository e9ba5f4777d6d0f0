import LeoOne.Backend.OneSession

/-!
# Sessions that refuse others

An 'active' row refuses every new session of its agent until it is ended, so
somebody must be there to end it: the relay, as long as it holds the session, and
the goroutine that has taken it out of the relay and has still to call
`MarkEnded`.  A session that the relay holds has a goroutine that will end it.
-/

namespace LeoOne
namespace Backend

open Foundation
open RemoteDesktop

/-!
## Who ends a session
-/

/-- The goroutine that watches a session with both sides, or one side, attached,
or that has begun to end it. -/
def endsLive (ref : SessionRef) (ready : Bool) : Instr -> Bool
  | Instr.relay (RelayCall.pump r) => ready && r == ref
  | Instr.relay (RelayCall.waitPairTimeout r) => !ready && r == ref
  | Instr.relay (RelayCall.finish r _ _) => r == ref
  | _ => false

/-- The instruction is a `MarkEnded` of the session. -/
def marksEnded (id : Uuid) : Instr -> Bool
  | Instr.sql (Statement.markEnded i _) => i = id
  | _ => false

/-- Every session of the relay has a goroutine that will end it. -/
structure RelayLaw (p : State) : Prop where
  sound : p.shared.relay.Sound
  watched : forall {id : Uuid} {ref : SessionRef} {ls : LiveSession},
    p.shared.relay.sessions id = some ref ->
    p.shared.relay.heap[ref]? = some ls ->
    p.anyPending (endsLive ref ls.ready) = true

/-- A relay call of a running server is executed as `performRelay` says. -/
theorem Executes.performRelay {p p' : State} {x : Input} {call : RelayCall}
    {o : Outcome Server Instr} (hexec : Executes p p' x (Instr.relay call) o) :
    o = Server.performRelay x p.shared call := by
  have hperform := hexec.perform
  simp only [Server.perform, hexec.alive, Bool.false_eq_true, if_false,
    Option.some.injEq] at hperform
  exact hperform.symm

/-- Only relay calls change the relay. -/
theorem Effect.relay_eq {s t : Server} {x : Input} {k : Instr}
    (heffect : Effect s x k t) (hk : forall call, k ≠ Instr.relay call) :
    t.relay = s.relay := by
  cases heffect with
  | relayRegister _ =>
      exact absurd rfl (hk _)
  | attach =>
      exact absurd rfl (hk _)
  | finish _ =>
      exact absurd rfl (hk _)
  | expire =>
      exact absurd rfl (hk _)
  | _ =>
      rfl

/-- Steps that leave the relay and the watching goroutines alone. -/
theorem RelayLaw.quiet {p p' : State} {x : Input} {k : Instr}
    {o : Outcome Server Instr} (hinv : RelayLaw p) (hexec : Executes p p' x k o)
    (hrelay : p'.shared.relay = p.shared.relay)
    (hk : forall ref ready, endsLive ref ready k = false) : RelayLaw p' := by
  constructor
  · rw [hrelay]
    exact hinv.sound
  · intro id ref ls hreg hget
    rw [hrelay] at hreg hget
    exact hexec.executed.anyPending_kept (hinv.watched hreg hget) (hk ref ls.ready)

/-- A new session of the registry, with the goroutine that waits for its pair. -/
theorem RelayLaw.allocate {p p' : State} {x : Input} {k : Instr}
    {o : Outcome Server Instr} (hinv : RelayLaw p) (hexec : Executes p p' x k o)
    (hk : forall ref ready, endsLive ref ready k = false) {ls : LiveSession}
    (hrelay : p'.shared.relay = (p.shared.relay.allocate ls).1)
    (hended : ls.ended = false) (honce : ls.once = false)
    (hready : ls.ready = false)
    (hspawned : Instr.relay (RelayCall.waitPairTimeout p.shared.relay.heap.length) ∈
      o.created) : RelayLaw p' := by
  constructor
  · rw [hrelay]
    exact hinv.sound.allocate hended honce
  · intro id ref ls' hreg hget
    rw [hrelay] at hreg hget
    simp only [Relay.allocate] at hreg hget
    by_cases hid : id = ls.sessionId
    · subst hid
      rw [Function.update_self, Option.some.injEq] at hreg
      subst hreg
      have heq : ls' = ls := by simpa using hget.symm
      subst heq
      apply hexec.executed.anyPending_created hspawned
      simp [endsLive, hready]
    · rw [Function.update_of_ne hid] at hreg
      rw [List.getElem?_append_left (hinv.sound.bound hreg)] at hget
      exact hexec.executed.anyPending_kept (hinv.watched hreg hget) (hk ref ls'.ready)

theorem RelayLaw.register {p p' : State} {x : Input} {row : SessionRow} {a : String}
    {o : Outcome Server Instr} (hinv : RelayLaw p)
    (hexec : Executes p p' x (Instr.relay (RelayCall.register row a)) o) :
    RelayLaw p' := by
  have ho := hexec.performRelay
  have hshared := hexec.executed.shared
  simp only [Server.performRelay] at ho
  split at ho
  · rw [ho] at hshared
    exact hinv.quiet hexec (congrArg Server.relay hshared) (fun _ _ => rfl)
  · rename_i r ref hreg
    rcases Relay.register_some hreg with ⟨_, rfl, rfl⟩
    rw [ho] at hshared
    apply hinv.allocate hexec (fun _ _ => rfl) (congrArg Server.relay hshared) rfl rfl rfl
    rw [ho]
    simp [Outcome.created]

theorem RelayLaw.attach {p p' : State} {x : Input} {side : Side} {row : SessionRow}
    {o : Outcome Server Instr} (hinv : RelayLaw p)
    (hexec : Executes p p' x (Instr.relay (RelayCall.attach side row)) o) :
    RelayLaw p' := by
  have ho := hexec.performRelay
  simp only [Server.performRelay] at ho
  have hrelay : p'.shared.relay =
      (p.shared.relay.attach side row.id row.agentId.text row.mode).1 := by
    rw [hexec.executed.shared, ho]
    rfl
  have hsound := hinv.sound.attach side row.id row.agentId.text row.mode
  have hcases := Relay.attaches hinv.sound side row.id row.agentId.text row.mode
  rw [← hrelay] at hsound hcases
  generalize (p.shared.relay.attach side row.id row.agentId.text row.mode).2 = out
    at hcases ho
  generalize hr' : p'.shared.relay = r' at hcases
  cases hcases with
  | tombstone _ =>
      exact hinv.quiet hexec hr' (fun _ _ => rfl)
  | duplicate _ _ _ _ =>
      exact hinv.quiet hexec hr' (fun _ _ => rfl)
  | joined htomb hreg hget hconn =>
      rename_i ref ls
      have hlt : ref < p.shared.relay.heap.length := hinv.sound.bound hreg
      constructor
      · exact hsound
      · intro id ref' ls' hreg' hget'
        rw [hr'] at hreg' hget'
        simp only at hreg' hget'
        by_cases href : ref = ref'
        · subst href
          rw [List.getElem?_set_self hlt, Option.some.injEq] at hget'
          subst hget'
          cases hready : (ls.attachConn side).ready with
          | true =>
              have hpump : Instr.relay (RelayCall.pump ref) ∈ o.created := by
                rw [ho]
                simp [Outcome.created, hready]
              apply hexec.executed.anyPending_created hpump
              simp [endsLive]
          | false =>
              have hbefore := hinv.watched hreg hget
              rw [LiveSession.ready_of_free hconn] at hbefore
              exact hexec.executed.anyPending_kept hbefore rfl
        · rw [List.getElem?_set_ne href] at hget'
          exact hexec.executed.anyPending_kept (hinv.watched hreg' hget') rfl
  | created _ hnone =>
      apply hinv.allocate hexec (fun _ _ => rfl) hr'
      · cases side <;> rfl
      · cases side <;> rfl
      · cases side <;> rfl
      · rw [ho]
        simp [Outcome.created]

/-- The goroutine that waits for the pair of a session does not go away while the
session waits: it begins to end it. -/
theorem RelayLaw.waitPairTimeout {p p' : State} {x : Input} {ref : SessionRef}
    {o : Outcome Server Instr} (hinv : RelayLaw p)
    (hexec : Executes p p' x (Instr.relay (RelayCall.waitPairTimeout ref)) o) :
    RelayLaw p' := by
  have ho := hexec.performRelay
  have hrelay : p'.shared.relay = p.shared.relay := by
    rw [hexec.executed.shared, ho]
    rfl
  constructor
  · rw [hrelay]
    exact hinv.sound
  · intro id ref' ls hreg hget
    rw [hrelay] at hreg hget
    have hbefore := hinv.watched hreg hget
    by_cases hwaits : ref = ref' ∧ ls.ready = false
    · rcases hwaits with ⟨rfl, hready⟩
      rcases hinv.sound.registered hreg with ⟨ls', hget', hid, _⟩
      rw [hget] at hget'
      cases hget'
      have hstill : p.shared.relay.stillWaiting ref = true := by
        simp [Relay.stillWaiting, hget, hid, hreg, hready]
      have hfinish : Instr.relay (RelayCall.finish ref "pair_timeout" none) ∈
          o.created := by
        rw [ho]
        simp [Server.performRelay, hstill]
      apply hexec.executed.anyPending_created hfinish
      simp [endsLive]
    · apply hexec.executed.anyPending_kept hbefore
      simp only [endsLive, Bool.and_eq_false_iff, Bool.not_eq_false', beq_eq_false_iff_ne]
      by_cases hready : ls.ready = true
      · exact Or.inl hready
      · right
        intro href
        exact hwaits ⟨href, by simpa using hready⟩

theorem RelayLaw.pump {p p' : State} {x : Input} {ref : SessionRef}
    {o : Outcome Server Instr} (hinv : RelayLaw p)
    (hexec : Executes p p' x (Instr.relay (RelayCall.pump ref)) o) : RelayLaw p' := by
  have ho := hexec.performRelay
  have hrelay : p'.shared.relay = p.shared.relay := by
    rw [hexec.executed.shared, ho]
    rfl
  constructor
  · rw [hrelay]
    exact hinv.sound
  · intro id ref' ls hreg hget
    rw [hrelay] at hreg hget
    by_cases href : ref = ref'
    · subst href
      have hfinish : Instr.relay (RelayCall.finish ref "connection_closed" none) ∈
          o.created := by
        rw [ho]
        simp [Server.performRelay]
      apply hexec.executed.anyPending_created hfinish
      simp [endsLive]
    · apply hexec.executed.anyPending_kept (hinv.watched hreg hget)
      simp [endsLive, href]

theorem RelayLaw.finish {p p' : State} {x : Input} {ref : SessionRef}
    {reason : String} {origin : Option Websocket.ClientId} {o : Outcome Server Instr}
    (hinv : RelayLaw p)
    (hexec : Executes p p' x (Instr.relay (RelayCall.finish ref reason origin)) o) :
    RelayLaw p' := by
  have ho := hexec.performRelay
  have hshared := hexec.executed.shared
  simp only [Server.performRelay] at ho
  cases hfin : p.shared.relay.finish ref with
  | none =>
      simp only [hfin] at ho
      rw [ho] at hshared
      have hrelay : p'.shared.relay = p.shared.relay := congrArg Server.relay hshared
      constructor
      · rw [hrelay]
        exact hinv.sound
      · intro id ref' ls hreg hget
        rw [hrelay] at hreg hget
        -- a session of the registry has not been ended yet
        have hne : ref ≠ ref' := by
          intro href
          subst href
          rcases hinv.sound.registered hreg with ⟨ls', hget', _, hended⟩
          have honce := hinv.sound.once hget'
          rw [hended] at honce
          simp [Relay.finish, hget', honce] at hfin
        apply hexec.executed.anyPending_kept (hinv.watched hreg hget)
        simp [endsLive, hne]
  | some out =>
      rcases out with ⟨r, ended⟩
      simp only [hfin] at ho
      rw [ho] at hshared
      have hrelay : p'.shared.relay = r := congrArg Server.relay hshared
      constructor
      · rw [hrelay]
        exact hinv.sound.finish hfin
      · intro id ref' ls hreg hget
        rw [hrelay] at hreg hget
        rcases (hinv.sound.finish_sessions hfin).mp hreg with ⟨hold, hne⟩
        rw [(Relay.finish_some hfin).right.right.left,
          List.getElem?_set_ne (Ne.symm hne)] at hget
        apply hexec.executed.anyPending_kept (hinv.watched hold hget)
        simp [endsLive, Ne.symm hne]

theorem RelayLaw.step {p p' : State} {x : Input} {k : Instr}
    {o : Outcome Server Instr} (hinv : RelayLaw p) (hexec : Executes p p' x k o) :
    RelayLaw p' := by
  cases k with
  | relay call =>
      cases call with
      | register row a =>
          exact hinv.register hexec
      | attach side row =>
          exact hinv.attach hexec
      | waitPairTimeout ref =>
          exact hinv.waitPairTimeout hexec
      | pump ref =>
          exact hinv.pump hexec
      | finish ref reason origin =>
          exact hinv.finish hexec
      | endSessionsForAgent a origin =>
          apply hinv.quiet hexec _ (fun _ _ => rfl)
          rw [hexec.executed.shared, hexec.performRelay]
          rfl
      | endSession id reason orMark =>
          apply hinv.quiet hexec _ (fun _ _ => rfl)
          rw [hexec.executed.shared, hexec.performRelay]
          rfl
      | expireTombstone id =>
          have hrelay : p'.shared.relay = p.shared.relay.expireTombstone id := by
            rw [hexec.executed.shared, hexec.performRelay]
            rfl
          constructor
          · rw [hrelay]
            exact hinv.sound.expireTombstone id
          · intro id' ref ls hreg hget
            rw [hrelay] at hreg hget
            exact hexec.executed.anyPending_kept (hinv.watched hreg hget) rfl
  | _ =>
      apply hinv.quiet hexec (hexec.effect.relay_eq _) (fun _ _ => rfl)
      intro call hk
      cases hk

/-!
## Active rows
-/

/-- The relay holds the session, or its `MarkEnded` is about to run. -/
def held (p : State) (id : Uuid) : Bool :=
  (p.shared.relay.sessions id).isSome || p.anyPending (marksEnded id)

/-- The consumption of this side's token turns the row 'active'. -/
def completesPair (side : Side) (r : SessionRow) : Bool :=
  r.status = SessionStatus.pending && (r.connectedAt side.other).isSome

/-- The process stops only while no session is 'active'. -/
def noneActive (p : State) (_ : Nat) : Bool :=
  p.shared.db.sessions.all fun r => decide (r.status ≠ SessionStatus.active)

/-- A `MarkEnded` fails only for a session that is not 'active', or that the
relay still holds or another `MarkEnded` will end; the second token of a session
is consumed only while the session is held; and the process stops by a panic only
when it may stop. -/
def endsSurely (p : State) (k : Instr) (x : Input) : Bool :=
  match k with
  | Instr.sql (Statement.markEnded id _) =>
      !x.fails || (p.shared.relay.sessions id).isSome ||
        decide (1 < Pool.pendingCount (marksEnded id) p) ||
        p.shared.db.sessions.all fun r =>
          decide (r.id ≠ id) || decide (r.status ≠ SessionStatus.active)
  | Instr.sql (Statement.consumeToken side token _) =>
      x.fails || p.shared.db.sessions.all fun r =>
        !Database.isConsumable side token x.now r || !completesPair side r ||
          held p r.id
  | Instr.conn (ConnCall.send c _ _) =>
      !(p.shared.hub.heap c).sendChan.closed || noneActive p x.now
  | _ => true

structure HeldLaw (p : State) (_ : Nat) : Prop where
  relay : RelayLaw p
  running : p.shared.panicked = true -> forall now, noneActive p now = true
  active : forall r, r ∈ p.shared.db.sessions ->
    r.status = SessionStatus.active -> held p r.id = true

theorem held_iff {p : State} {id : Uuid} :
    held p id = true <->
      (exists ref, p.shared.relay.sessions id = some ref) ∨
        p.anyPending (marksEnded id) = true := by
  unfold held
  rw [Bool.or_eq_true, Option.isSome_iff_exists]

/-- A session leaves the relay only to be marked ended. -/
theorem RelayLaw.keeps {p p' : State} {x : Input} {k : Instr}
    {o : Outcome Server Instr} (hinv : RelayLaw p) (hexec : Executes p p' x k o)
    {id : Uuid} {ref : SessionRef} (hreg : p.shared.relay.sessions id = some ref) :
    held p' id = true := by
  rw [held_iff]
  by_cases hstays : p'.shared.relay.sessions id = some ref
  · exact Or.inl ⟨ref, hstays⟩
  · have heffect := hexec.effect
    generalize hp' : p'.shared = s' at heffect hstays
    cases heffect with
    | relayRegister hregister =>
        rename_i row a r ref'
        rcases Relay.register_some hregister with ⟨hnone, _, rfl⟩
        exact absurd (Relay.allocate_sessions hnone hreg) hstays
    | attach =>
        rename_i side row
        have hcases := Relay.attaches hinv.sound side row.id row.agentId.text row.mode
        simp only [Server.setRelay] at hstays
        generalize (p.shared.relay.attach side row.id row.agentId.text row.mode).1 = r'
          at hcases hstays
        generalize (p.shared.relay.attach side row.id row.agentId.text row.mode).2 = out
          at hcases
        cases hcases with
        | created _ hnone =>
            have hfree : p.shared.relay.sessions
                ((LiveSession.start row.id row.agentId.text
                  row.mode).attachConn side).sessionId = none := by
              cases side <;> exact hnone
            exact absurd (Relay.allocate_sessions hfree hreg) hstays
        | _ =>
            exact absurd hreg hstays
    | finish hfin =>
        rename_i ref' reason origin r ls
        simp only [Server.setRelay] at hstays
        have href : ref = ref' := by
          by_contra hne
          exact hstays ((hinv.sound.finish_sessions hfin).mpr ⟨hreg, hne⟩)
        subst href
        have hid : ls.sessionId = id := by
          rcases hinv.sound.registered hreg with ⟨ls', hget, hid, _⟩
          rw [(Relay.finish_some hfin).left] at hget
          cases hget
          exact hid
        right
        have ho := hexec.performRelay
        simp only [Server.performRelay, hfin] at ho
        have hmark : Instr.sql (Statement.markEnded ls.sessionId reason) ∈ o.created := by
          rw [ho]
          simp [Outcome.created]
        apply hexec.executed.anyPending_created hmark
        simp [marksEnded, hid]
    | _ =>
        exact absurd hreg hstays

/-- A `MarkEnded` that succeeds leaves no row of the session 'active'. -/
theorem Executes.markedEnded {p p' : State} {x : Input} {id : Uuid}
    {reason : String} {o : Outcome Server Instr}
    (hexec : Executes p p' x (Instr.sql (Statement.markEnded id reason)) o)
    (hok : x.fails = false) {r : SessionRow} (hr : r ∈ p'.shared.db.sessions)
    (hid : r.id = id) : r.status = SessionStatus.ended := by
  have hdb : p'.shared.db = p.shared.db.markEnded id reason x.now := by
    rw [hexec.effect.of_statement hok rfl]
    rfl
  rw [hdb] at hr
  rcases Table.mem_updateWhere.mp hr with ⟨old, _, ⟨_, rfl⟩ | ⟨hsel, rfl⟩⟩
  · rfl
  · simpa [hid] using hsel

/-- A session that is held stays held, until a `MarkEnded` on it. -/
theorem RelayLaw.held_kept {p p' : State} {x : Input} {k : Instr}
    {o : Outcome Server Instr} (hinv : RelayLaw p) (hexec : Executes p p' x k o)
    {id : Uuid} (hheld : held p id = true) (hk : marksEnded id k = false) :
    held p' id = true := by
  rcases held_iff.mp hheld with ⟨ref, hreg⟩ | hmarks
  · exact hinv.keeps hexec hreg
  · exact held_iff.mpr (Or.inr (hexec.executed.anyPending_kept hmarks hk))

/-- What the condition asks of a `MarkEnded` on a session that stays 'active'. -/
theorem HeldLaw.markEnded {p p' : State} {x : Input} {clock : Nat} {id : Uuid}
    {reason : String} {o : Outcome Server Instr} (hinv : HeldLaw p clock)
    (hexec : Executes p p' x (Instr.sql (Statement.markEnded id reason)) o)
    (hguard : endsSurely p (Instr.sql (Statement.markEnded id reason)) x = true)
    {r : SessionRow} (hr : r ∈ p'.shared.db.sessions) (hid : r.id = id)
    (hactive : r.status = SessionStatus.active) : held p' r.id = true := by
  cases hfails : x.fails with
  | false =>
      rw [hexec.markedEnded hfails hr hid] at hactive
      cases hactive
  | true =>
      have hsame : p'.shared = p.shared := by
        have ho := hexec.perform
        simp only [Server.perform, hexec.alive, Server.performSql, hfails,
          Bool.false_eq_true, if_false, if_true, Option.some.injEq] at ho
        rw [hexec.executed.shared, ← ho]
        rfl
      rw [hsame] at hr
      simp only [endsSurely, hfails, Bool.not_true, Bool.false_or, Bool.or_eq_true,
        decide_eq_true_eq, List.all_eq_true] at hguard
      rcases hguard with (hreg | hmarks) | hnone
      · rcases Option.isSome_iff_exists.mp hreg with ⟨ref, hreg⟩
        rw [hid]
        exact hinv.relay.keeps hexec hreg
      · -- another `MarkEnded` of the session is pending
        rw [held_iff, hid]
        right
        cases hany : p'.anyPending (marksEnded id) with
        | true =>
            rfl
        | false =>
            have hcount := hexec.count (marksEnded id)
            rw [Pool.pendingCount_eq_zero (Pool.anyPending_eq_false.mp hany),
              List.countP_singleton] at hcount
            have hself : marksEnded id (Instr.sql (Statement.markEnded id reason)) = true := by
              simp [marksEnded]
            rw [if_pos hself] at hcount
            omega
      · rcases hnone r hr with hne | hnot
        · exact absurd hid hne
        · exact absurd hactive hnot

/-- A row that has become 'active', or was. -/
theorem HeldLaw.before {p p' : State} {x : Input} {k : Instr} {clock : Nat}
    {o : Outcome Server Instr} (hinv : HeldLaw p clock)
    (hexec : Executes p p' x k o) (hguard : endsSurely p k x = true)
    {r : SessionRow} (hr : r ∈ p'.shared.db.sessions)
    (hactive : r.status = SessionStatus.active) : held p r.id = true := by
  rcases hexec.effect.sessionRows hr with
    ⟨old, hold, rfl | ⟨st, rfl, hok, hchange⟩⟩ | ⟨st, rfl, hok, order, db, rfl, _, hcreate⟩
  · exact hinv.active r hold hactive
  · cases hchange with
    | same =>
        exact hinv.active r hold hactive
    | consumed hsel =>
        rename_i side token a
        rw [consumed_id]
        rw [consumed_status] at hactive
        split at hactive
        · rename_i hpair
          simp only [endsSurely, hok, Bool.false_or, List.all_eq_true, Bool.or_eq_true,
            Bool.not_eq_true'] at hguard
          rcases hguard old hold with (hnot | hnot) | hheld
          · rw [hsel] at hnot
            cases hnot
          · simp [completesPair, hpair] at hnot
          · exact hheld
        · exact hinv.active old hold hactive
    | ended hid hlive =>
        cases hactive
  · rw [(createSession_new hcreate).status] at hactive
    cases hactive

/-- A step that stops the process leaves the database as it is. -/
theorem HeldLaw.panics {p p' : State} {x : Input} {k : Instr}
    {o : Outcome Server Instr} (hguard : endsSurely p k x = true)
    (hexec : Executes p p' x k o) (hpanic : p'.shared.panicked = true) (now : Nat) :
    noneActive p' now = true := by
  have heffect := hexec.effect
  have halive := hexec.alive
  unfold noneActive
  generalize p'.shared = s' at heffect hpanic
  cases heffect with
  | panicked hclosed =>
      simpa [endsSurely, hclosed, noneActive] using hguard
  | _ =>
      rw [show p.shared.panicked = true from hpanic] at halive
      cases halive

theorem HeldLaw.step {p p' : State} {x : Input} {k : Instr} {clock : Nat}
    {o : Outcome Server Instr} (hinv : HeldLaw p clock)
    (hguard : endsSurely p k x = true) (hexec : Executes p p' x k o) :
    HeldLaw p' x.now := by
  constructor
  · exact hinv.relay.step hexec
  · intro hpanic now
    exact HeldLaw.panics hguard hexec hpanic now
  · intro r hr hactive
    cases hmarks : marksEnded r.id k with
    | false =>
        exact hinv.relay.held_kept hexec (hinv.before hexec hguard hr hactive) hmarks
    | true =>
        unfold marksEnded at hmarks
        split at hmarks
        · exact hinv.markEnded hexec hguard hr (of_decide_eq_true hmarks).symm hactive
        · cases hmarks

theorem heldLaw_boot {wsEndpoint : String} {sessionTTL : Nat} {db : Database}
    {issued : List Uuid} (clock : Nat)
    (hnone : forall r, r ∈ db.sessions -> r.status ≠ SessionStatus.active) :
    HeldLaw (boot wsEndpoint sessionTTL db issued) clock := by
  constructor
  · constructor
    · exact Relay.new_sound
    · intro id ref ls hreg
      cases hreg
  · intro hpanic
    cases hpanic
  · intro r hr hactive
    exact absurd hactive (hnone r hr)

theorem heldLaw_preserved :
    lifetime.Preserves (fun s e => lifeGuard endsSurely noneActive s e = true)
      (fun s => s.1.shared.HubSound ∧ HeldLaw s.1 s.2) := by
  apply lifetime_preserves
  · intro p p' r clock hinv hstarts
    constructor
    · constructor
      · rw [hstarts.shared]
        exact hinv.relay.sound
      · intro id ref ls hreg hget
        rw [hstarts.shared] at hreg hget
        exact Pool.anyPending_mono hstarts.kept (hinv.relay.watched hreg hget)
    · unfold noneActive
      rw [hstarts.shared]
      exact hinv.running
    · intro r hr hactive
      rw [hstarts.shared] at hr
      rcases held_iff.mp (hinv.active r hr hactive) with ⟨ref, hreg⟩ | hmarks
      · apply held_iff.mpr
        rw [hstarts.shared]
        exact Or.inl ⟨ref, hreg⟩
      · exact held_iff.mpr (Or.inr (Pool.anyPending_mono hstarts.kept hmarks))
  · intro p p' x k o clock _ hinv _ hguard hexec
    exact hinv.step hguard hexec
  · intro p clock now ws ttl _ _ hnone
    apply heldLaw_boot
    intro r hr
    exact of_decide_eq_true (List.all_eq_true.mp hnone r hr)

/-- As long as ends are recorded, second tokens are consumed under the eyes of the
relay, and the process stops only without 'active' sessions, every session that
refuses others either expires by itself or will be ended: the process runs, and
the relay holds the session, with a goroutine that ends it, or its `MarkEnded` is
about to run. -/
theorem active_sessions_are_held {wsEndpoint : String} {sessionTTL begin : Nat}
    {db : Database} {issued : List Uuid}
    (hfirst : forall r, r ∈ db.sessions -> r.status ≠ SessionStatus.active)
    {es : List LifeEvent} {p : State} {clock : Nat}
    (hrun : lifetime.run (boot wsEndpoint sessionTTL db issued, begin) es =
      some (p, clock))
    (hmeets : lifetime.Meets
      (fun s e => lifeGuard endsSurely noneActive s e = true)
      (boot wsEndpoint sessionTTL db issued, begin) es) :
    forall agent now r, r ∈ p.shared.db.activeRows agent now ->
      (r.status = SessionStatus.pending ∧ now < r.expiresAt) ∨
      p.shared.panicked = false ∧
        ((exists ref ls, p.shared.relay.sessions r.id = some ref ∧
          p.shared.relay.heap[ref]? = some ls ∧
          p.anyPending (endsLive ref ls.ready) = true) ∨
        p.anyPending (marksEnded r.id) = true) := by
  intro agent now r hr
  have hinv := (heldLaw_preserved.run
    ⟨boot_hubSound _ _ _ _, heldLaw_boot begin hfirst⟩ hmeets hrun).right
  rcases List.mem_filter.mp hr with ⟨hmem, hactive⟩
  rcases activeFor_iff.mp hactive with ⟨_, hlive, hwhen⟩
  cases hstatus : r.status with
  | pending =>
      exact Or.inl ⟨rfl, hwhen hstatus⟩
  | active =>
      right
      constructor
      · cases hpanic : p.shared.panicked with
        | false =>
            rfl
        | true =>
            have hnone := List.all_eq_true.mp (hinv.running hpanic 0) r hmem
            exact absurd hstatus (of_decide_eq_true hnone)
      · rcases held_iff.mp (hinv.active r hmem hstatus) with ⟨ref, hreg⟩ | hmarks
        · rcases hinv.relay.sound.registered hreg with ⟨ls, hget, _, _⟩
          exact Or.inl ⟨ref, ls, hreg, hget, hinv.relay.watched hreg hget⟩
        · exact Or.inr hmarks
  | ended =>
      exact absurd hstatus hlive

namespace Sample

/-- A session is asked for in goroutine 2 and announced to the agent, and the
viewer and the agent attach in goroutines 4 and 5. -/
def pairedSession : List LifeEvent :=
  (connect 0 ++ askForSession 2 ++
    [insertSession 2 session "v" "a", go 2, go 2, go 2,
      PoolEvent.start (Request.attachViewer "v"), go 4, go 4, go 4,
      PoolEvent.start (Request.attachAgent cert "a"), go 5, go 5, go 5,
      go 5]).map LifeEvent.server

/-- The server is restarted while the session is 'active'. -/
def restartedWhileActive : List LifeEvent :=
  pairedSession ++ [LifeEvent.restart "wss://leo/ws/remote-desktop" 60 1]

end Sample

theorem active_sessions_are_held_paired :
    exists p r, lifetime.run (Sample.start, 0) Sample.pairedSession = some (p, 0) ∧
      p.shared.db.activeRows Sample.agent 100 = [r] ∧
      r.status = SessionStatus.active ∧
      exists ref ls, p.shared.relay.sessions r.id = some ref ∧
        p.shared.relay.heap[ref]? = some ls ∧
        p.anyPending (endsLive ref ls.ready) = true := by
  obtain ⟨p, r, hrun, hrows, hstatus, hmarks⟩ : exists p r,
      lifetime.run (Sample.start, 0) Sample.pairedSession = some (p, 0) ∧
        p.shared.db.activeRows Sample.agent 100 = [r] ∧
        r.status = SessionStatus.active ∧ p.anyPending (marksEnded r.id) = false :=
    ⟨_, _, rfl, rfl, rfl, by decide⟩
  have hfirst : forall r, r ∈ Sample.database.sessions ->
      r.status ≠ SessionStatus.active := by
    decide
  have hmem : r ∈ p.shared.db.activeRows Sample.agent 100 := by
    rw [hrows]
    exact List.mem_singleton.mpr rfl
  refine ⟨p, r, hrun, hrows, hstatus, ?_⟩
  rcases active_sessions_are_held hfirst hrun (by decide) _ _ r hmem with
    ⟨hpending, _⟩ | ⟨_, hheld | hending⟩
  · rw [hstatus] at hpending
    cases hpending
  · exact hheld
  · rw [hmarks] at hending
    cases hending

/-- After the restart the row is 'active', at any time, and nothing is left that
would end it: the relay is empty and there is no goroutine. -/
theorem active_forever_after_restart :
    exists p r, lifetime.run (Sample.start, 0) Sample.restartedWhileActive = some (p, 1) ∧
      r.status = SessionStatus.active ∧
      (forall now, p.shared.db.activeRows Sample.agent now = [r] ∧
        p.shared.db.activeForAgent Sample.agent.text now = true) ∧
      (forall id, p.shared.relay.sessions id = none) ∧ p.procs = [] :=
  ⟨_, _, rfl, rfl, fun _ => ⟨rfl, rfl⟩, fun _ => rfl, rfl⟩

end Backend
end LeoOne
