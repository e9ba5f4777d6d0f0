import LeoOne.Backend.CommandDelivery

/-!
# At most one delivery of a command

A command is sent once by the goroutine that has inserted it, or by the
redelivery that finds it unmarked.  Nothing orders the two: a row is visible
with `sent_at` NULL from its insertion to the `UPDATE` that follows the send.
The law below counts, for one command, the goroutines that are about to send it
together with the messages that connections have accepted.
-/

namespace LeoOne
namespace Backend

open Foundation
open Wire
open Websocket
open RemoteDesktop

/-- The goroutine is on its way to `Send` with that command. -/
def willSend (id : Uuid) : Instr -> Bool
  | Instr.hub (HubCall.isConnectedCommand new _) => new = id
  | Instr.hub (HubCall.lookup _ _ caller) => caller.marks = some id
  | Instr.conn (ConnCall.send _ _ caller) => caller.marks = some id
  | _ => false

/-- The goroutine is between the insertion or selection of that command and its
mark. -/
def concerns (id : Uuid) (k : Instr) : Bool :=
  willSend id k ||
    match k with
    | Instr.sql (Statement.markSent id') => id' = id
    | _ => false

/-- How many times a connection has accepted the command. -/
def acceptCount (log : History) (id : Uuid) : Nat :=
  log.accepted.countP fun e => carries e.2.1 id

/-- The `UPDATE` of `sent_at` succeeds. -/
def marksSucceed (_ : State) (k : Instr) (x : Input) : Bool :=
  match k with
  | Instr.sql (Statement.markSent _) => !x.fails
  | _ => true

/-- The `SELECT` of a redelivery finds no command that another goroutine is
about to send or to mark. -/
def selectsUndispatched (p : State) (k : Instr) (x : Input) : Bool :=
  match k with
  | Instr.sql (Statement.selectPending a _) =>
      x.fails ||
        (p.shared.db.pendingCommands a).all fun r => !p.anyPending (concerns r.id)
  | _ => true

theorem accepted_of_acceptCount {log : History} {id : Uuid}
    (h : acceptCount log id ≠ 0) : Accepted log id := by
  have hpos := List.countP_pos_iff.mp (Nat.pos_of_ne_zero h)
  rcases hpos with ⟨e, he, hid⟩
  exact ⟨e, he, hid⟩

theorem acceptCount_accept (s : Server) (c : ClientId) (msg : Envelope)
    (caller : Caller) (client : Client Envelope) (id : Uuid) :
    acceptCount (s.accept c msg caller client).log id =
      acceptCount s.log id + if carries msg id then 1 else 0 := by
  show (s.log.accepted ++ [(c, msg, caller)]).countP _ = _
  rw [List.countP_append, acceptCount, List.countP_singleton]

/-!
## Who starts to send a command
-/

/-- A goroutine comes to send a command by inserting it, by selecting it, or by
going on with what it was doing. -/
theorem sender_of_leads {s : Server} {x : Input} {k j : Instr} {id : Uuid}
    (hleads : Leads s x k j) (hj : willSend id j = true) :
    (exists order, k = Instr.sql (Statement.insertCommand order) ∧
      x.fails = false ∧ x.id = some id) ∨
    (exists a c r, k = Instr.sql (Statement.selectPending a c) ∧
      r ∈ s.db.pendingCommands a ∧ r.id = id) ∨
    (exists call, k = Instr.hub call ∧ willSend id k = true) := by
  cases hleads with
  | redeliver hrow =>
      have hid := of_decide_eq_true hj
      exact Or.inr (Or.inl ⟨_, _, _, rfl, hrow, Option.some.inj hid⟩)
  | created hok hid =>
      have heq := of_decide_eq_true hj
      subst heq
      exact Or.inl ⟨_, rfl, hok, hid⟩
  | found hcur =>
      exact Or.inr (Or.inr ⟨_, rfl, hj⟩)
  | commandConnected hconn =>
      have heq := Option.some.inj (of_decide_eq_true hj)
      exact Or.inr (Or.inr ⟨_, rfl, decide_eq_true heq⟩)
  | read hmsg hhandles =>
      cases hhandles <;> cases hj
  | _ =>
      cases hj

theorem pendingCommands_nodup {s : Server} (h : CommandKeys s) (a : String) :
    ((s.db.pendingCommands a).map CommandRow.id).Nodup := by
  have hperm := List.perm_insertionSort
    (fun r r' : CommandRow => r.createdAt ≤ r'.createdAt)
    (s.db.commands.filter (Database.isPending a))
  have hnodup : ((s.db.commands.filter (Database.isPending a)).map
      CommandRow.id).Nodup :=
    (List.filter_sublist.map _).nodup h.nodup
  exact (hperm.map CommandRow.id).nodup_iff.mpr hnodup

theorem countP_redeliver {c : ClientId} {rows : List CommandRow} {now : Nat}
    {id : Uuid} (h : (rows.map CommandRow.id).Nodup) :
    (redeliverPendingCommands c rows now).countP (willSend id) ≤ 1 := by
  have hcount : (redeliverPendingCommands c rows now).countP (willSend id) =
      (rows.map CommandRow.id).count id := by
    rw [redeliverPendingCommands, List.countP_map, List.count, List.countP_map]
    apply List.countP_congr
    intro r _
    simp [willSend, Caller.marks]
  rw [hcount]
  exact List.nodup_iff_count_le_one.mp h id

/-- A call of the Hub in a sending goroutine leaves it with one instruction. -/
theorem created_of_sending {s : Server} {x : Input} {call : HubCall} {id : Uuid}
    {o : Outcome Server Instr} (h : Server.perform (Instr.hub call) x s = some o)
    (hcall : willSend id (Instr.hub call) = true) : o.created.length ≤ 1 := by
  unfold Server.perform at h
  split at h
  · cases h
  · cases h
    cases call with
    | lookup a msg caller =>
        simp only [Server.performHub, created_goOn]
        split
        · exact Nat.le_refl 1
        · cases caller <;> first | exact Nat.le_refl 1 | exact Nat.zero_le 1
    | isConnectedCommand new order =>
        simp only [Server.performHub, created_goOn]
        split
        · exact Nat.le_refl 1
        · exact Nat.zero_le 1
    | _ =>
        cases hcall

theorem created_of_insert {s : Server} {x : Input} {order : CommandOrder}
    {o : Outcome Server Instr}
    (h : Server.perform (Instr.sql (Statement.insertCommand order)) x s = some o) :
    o.created.length ≤ 1 := by
  have hone : ((Statement.insertCommand order).exec s.sessionTTL x s.db).2.length ≤ 1 := by
    simp only [Statement.exec]
    split
    · exact Nat.zero_le 1
    · split
      · exact Nat.zero_le 1
      · exact Nat.le_refl 1
  simp only [Server.perform, Server.performSql, Statement.generatesId, if_true] at h
  split at h
  · cases h
  · split at h
    · cases h
      exact Nat.zero_le 1
    · split at h
      · cases h
      · split at h
        · cases h
        · cases h
          simpa [Outcome.created] using hone

theorem created_of_select {s : Server} {x : Input} {a : String} {c : ClientId}
    {o : Outcome Server Instr} (hok : x.fails = false)
    (h : Server.perform (Instr.sql (Statement.selectPending a c)) x s = some o) :
    o.created = redeliverPendingCommands c (s.db.pendingCommands a) x.now := by
  simp only [Server.perform, Server.performSql, Statement.generatesId, hok] at h
  split at h
  · cases h
  · cases h
    simp [Outcome.created, Statement.exec]

/-- `Send` is followed by the mark of the command it was called for. -/
theorem mark_of_send {s : Server} {x : Input} {c : ClientId} {msg : Envelope}
    {caller : Caller} {client : Client Envelope} {ok : Bool} {id : Uuid}
    {o : Outcome Server Instr}
    (h : Server.perform (Instr.conn (ConnCall.send c msg caller)) x s = some o)
    (hsend : (s.hub.heap c).send msg = some (client, ok))
    (hmarks : caller.marks = some id) :
    Instr.sql (Statement.markSent id) ∈ o.cont := by
  unfold Server.perform at h
  split at h
  · cases h
  · simp only [Server.performConn, Server.performSend, hsend] at h
    cases h
    cases caller with
    | redelivery id' =>
        cases hmarks
        exact List.mem_singleton.mpr rfl
    | command id' =>
        cases hmarks
        exact List.mem_singleton.mpr rfl
    | _ =>
        cases hmarks

/-!
## The law
-/

/-- No command is accepted or about to be sent more than once in all, and one
that has been accepted is marked or about to be marked. -/
structure OnceLaw (p : State) : Prop where
  labelled : OutgoingLabelled p
  keys : CommandKeys p.shared
  once : forall id,
    Pool.pendingCount (willSend id) p + acceptCount p.shared.log id ≤ 1
  marked : forall {r}, r ∈ p.shared.db.commands ->
    Accepted p.shared.log r.id ->
    r.sentAt ≠ none ∨ p.Pending (Instr.sql (Statement.markSent r.id))
  sending : forall {id j}, p.Pending j -> willSend id j = true ->
    id ∈ p.shared.log.issued
  accepted : forall {id}, Accepted p.shared.log id -> id ∈ p.shared.log.issued

theorem OnceLaw.start {p p' : State} {r : Request} (hinv : OnceLaw p)
    (hstarts : Starts p p' r) : OnceLaw p' := by
  have hnone : forall {id j}, Enters r j -> willSend id j = false := by
    intro id j henters
    cases henters <;> rfl
  refine ⟨hinv.labelled.start hstarts, ?_, ?_, ?_, ?_, ?_⟩
  · rw [hstarts.shared]
    exact hinv.keys
  · intro id
    have hzero : (entry r).countP (willSend id) = 0 := by
      apply List.countP_eq_zero.mpr
      intro j hj
      rw [hnone (enters_of_mem_entry hj)]
      exact Bool.false_ne_true
    rw [hstarts.count, hzero, hstarts.shared]
    exact hinv.once id
  · intro row hrow haccepted
    rw [hstarts.shared] at hrow haccepted
    rcases hinv.marked hrow haccepted with hsent | hmark
    · exact Or.inl hsent
    · exact Or.inr (hstarts.kept hmark)
  · intro id j hj hsends
    rw [hstarts.shared]
    rcases hstarts.pending hj with henters | hold
    · rw [hnone henters] at hsends
      cases hsends
    · exact hinv.sending hold hsends
  · intro id haccepted
    rw [hstarts.shared] at haccepted ⊢
    exact hinv.accepted haccepted

/-- A command that no goroutine is sending and that nobody has accepted. -/
theorem OnceLaw.unsent {p : State} (hinv : OnceLaw p) {id : Uuid}
    (hnew : id ∉ p.shared.log.issued) :
    Pool.pendingCount (willSend id) p = 0 ∧ acceptCount p.shared.log id = 0 := by
  constructor
  · apply Pool.pendingCount_eq_zero
    intro j hj
    cases hsends : willSend id j with
    | false =>
        rfl
    | true =>
        exact absurd (hinv.sending hj hsends) hnew
  · by_contra hcount
    exact hnew (hinv.accepted (accepted_of_acceptCount hcount))

theorem OnceLaw.selected {p : State} (hinv : OnceLaw p) {a : String}
    {r : CommandRow} (hr : r ∈ p.shared.db.pendingCommands a)
    (hfree : p.anyPending (concerns r.id) = false) :
    Pool.pendingCount (willSend r.id) p = 0 ∧
      acceptCount p.shared.log r.id = 0 := by
  have hnone := Pool.anyPending_eq_false.mp hfree
  constructor
  · apply Pool.pendingCount_eq_zero
    intro j hj
    exact (Bool.or_eq_false_iff.mp (hnone j hj)).left
  · by_contra hcount
    rcases mem_pendingCommands.mp hr with ⟨hrow, hpending⟩
    rcases hinv.marked hrow (accepted_of_acceptCount hcount) with hsent | hmark
    · simp only [Database.isPending, Bool.and_eq_true, Option.isNone_iff_eq_none]
        at hpending
      exact hsent hpending.right
    · have hbusy := hnone _ hmark
      simp [concerns] at hbusy

/-- The instructions that a step creates for a command replace the one it
executes, unless the step inserts or selects the command. -/
theorem OnceLaw.count_step {p p' : State} {x : Input} {k : Instr}
    {o : Outcome Server Instr} (hinv : OnceLaw p)
    (hguard : selectsUndispatched p k x = true) (hexec : Executes p p' x k o)
    (id : Uuid) :
    o.created.countP (willSend id) ≤ [k].countP (willSend id) ∨
      (o.created.countP (willSend id) ≤ 1 ∧
        Pool.pendingCount (willSend id) p = 0 ∧
        acceptCount p.shared.log id = 0) := by
  by_cases hzero : o.created.countP (willSend id) = 0
  · left
    omega
  · rcases List.countP_pos_iff.mp (Nat.pos_of_ne_zero hzero) with ⟨j, hj, hsends⟩
    have hperform := hexec.perform
    have hleads := leads_of_perform hperform hj
    rcases sender_of_leads hleads hsends with ⟨order, rfl, hok, hid⟩ |
      ⟨a, c, r, rfl, hr, rfl⟩ | ⟨call, rfl, hcall⟩
    · right
      have hone := created_of_insert hperform
      have hcount := List.countP_le_length (p := willSend id) (l := o.created)
      have hnew := (hexec.effect.of_insertion hok rfl hid).left
      exact ⟨Nat.le_trans hcount hone, hinv.unsent hnew⟩
    · right
      cases hfails : x.fails with
      | true =>
          have hnil : o.created = [] := by
            simp only [Server.perform, Server.performSql, hfails, hexec.alive,
              Bool.false_eq_true, if_false, if_true, Option.some.injEq] at hperform
            subst hperform
            exact created_goOn _ _
          rw [hnil] at hj
          cases hj
      | false =>
          rw [created_of_select hfails hperform]
          refine ⟨countP_redeliver (pendingCommands_nodup hinv.keys a), ?_⟩
          apply hinv.selected hr
          simp only [selectsUndispatched, hfails, Bool.false_or,
            List.all_eq_true] at hguard
          simpa using hguard r hr
    · left
      have hone := created_of_sending hperform hcall
      have hcount := List.countP_le_length (p := willSend id) (l := o.created)
      rw [List.countP_singleton, if_pos hcall]
      exact Nat.le_trans hcount hone

theorem OnceLaw.once_step {p p' : State} {x : Input} {k : Instr}
    {o : Outcome Server Instr} (hinv : OnceLaw p)
    (hguard : selectsUndispatched p k x = true) (hexec : Executes p p' x k o)
    (id : Uuid) :
    Pool.pendingCount (willSend id) p' + acceptCount p'.shared.log id ≤ 1 := by
  have hcount := hexec.count (willSend id)
  have honce := hinv.once id
  rcases hexec.effect.accepted with hsame | ⟨c, msg, caller, client, rfl, _, heq⟩
  · have hlog : acceptCount p'.shared.log id = acceptCount p.shared.log id := by
      rw [acceptCount, hsame, acceptCount]
    rcases hinv.count_step hguard hexec id with hle | ⟨hle, hnone, hnever⟩
    · omega
    · omega
  · -- a send that is accepted moves the command from the first count to the second
    have hcreated : o.created.countP (willSend id) = 0 := by
      apply List.countP_eq_zero.mpr
      intro j hj hsends
      have hleads := leads_of_perform hexec.perform hj
      rcases sender_of_leads hleads hsends with ⟨_, hk, _⟩ | ⟨_, _, _, hk, _⟩ |
        ⟨_, hk, _⟩
      · cases hk
      · cases hk
      · cases hk
    have hlabel := hinv.labelled _ _ _ hexec.running rfl id
    rw [heq, acceptCount_accept]
    rw [hcreated, List.countP_singleton] at hcount
    by_cases hmarks : caller.marks = some id
    · rw [if_pos (by simpa [willSend] using hmarks)] at hcount
      rw [if_pos (hlabel.mpr hmarks)]
      omega
    · rw [if_neg (by simpa [willSend] using hmarks)] at hcount
      rw [if_neg fun hcarries => hmarks (hlabel.mp hcarries)]
      omega

/-- The `UPDATE` of `sent_at` marks the row. -/
theorem marked_by_markSent {s t : Server} {x : Input} {r : CommandRow}
    (heffect : Effect s x (Instr.sql (Statement.markSent r.id)) t)
    (hok : x.fails = false) (hr : r ∈ t.db.commands) : r.sentAt ≠ none := by
  rw [heffect.of_statement hok rfl] at hr
  generalize hid : r.id = id at hr
  rcases Table.mem_updateWhere.mp hr with ⟨old, _, ⟨_, rfl⟩ | ⟨hother, rfl⟩⟩
  · exact Option.some_ne_none x.now
  · simp [hid] at hother

/-- What a step adds to the accepted messages is a message of the goroutine that
takes it. -/
theorem accepted_cases {p p' : State} {x : Input} {k : Instr}
    {o : Outcome Server Instr} (hinv : OnceLaw p) (hexec : Executes p p' x k o)
    {id : Uuid} (h : Accepted p'.shared.log id) :
    Accepted p.shared.log id ∨
      exists c msg caller client, k = Instr.conn (ConnCall.send c msg caller) ∧
        caller.marks = some id ∧
        (p.shared.hub.heap c).send msg = some (client, true) := by
  rcases h with ⟨e, he, hcarries⟩
  rcases hexec.effect.accepted with hsame | ⟨c, msg, caller, client, rfl, hsend, heq⟩
  · rw [hsame] at he
    exact Or.inl ⟨e, he, hcarries⟩
  · rw [heq] at he
    rcases List.mem_append.mp he with hold | hnew
    · exact Or.inl ⟨e, hold, hcarries⟩
    · rw [List.mem_singleton] at hnew
      subst hnew
      have hlabel := hinv.labelled _ _ _ hexec.running rfl id
      exact Or.inr ⟨c, msg, caller, client, rfl, hlabel.mp hcarries, hsend⟩

theorem OnceLaw.marked_step {p p' : State} {x : Input} {k : Instr}
    {o : Outcome Server Instr} (hinv : OnceLaw p)
    (hmarks : marksSucceed p k x = true) (hexec : Executes p p' x k o)
    {r : CommandRow} (hr : r ∈ p'.shared.db.commands)
    (haccepted : Accepted p'.shared.log r.id) :
    r.sentAt ≠ none ∨ p'.Pending (Instr.sql (Statement.markSent r.id)) := by
  have heffect := hexec.effect
  rcases accepted_cases hinv hexec haccepted with hbefore |
    ⟨c, msg, caller, client, rfl, hid, hsend⟩
  · rcases heffect.commands hr with ⟨old, st, hold, hchange, _⟩ |
      ⟨st, _, _, hnew, _⟩
    · rw [hchange.id_eq] at hbefore
      rcases hinv.marked hold hbefore with hsent | hpending
      · exact Or.inl (hchange.sentAt hsent)
      · rw [← hchange.id_eq] at hpending
        by_cases hk : Instr.sql (Statement.markSent r.id) = k
        · subst hk
          exact Or.inl (marked_by_markSent heffect (by simpa [marksSucceed] using hmarks) hr)
        · exact Or.inr (hexec.kept hpending hk)
    · exact absurd (hinv.accepted hbefore) hnew
  · exact Or.inr (hexec.made (mark_of_send hexec.perform hsend hid))

theorem OnceLaw.sending_step {p p' : State} {x : Input} {k j : Instr}
    {o : Outcome Server Instr} (hinv : OnceLaw p) (hexec : Executes p p' x k o)
    {id : Uuid} (hj : p'.Pending j) (hsends : willSend id j = true) :
    id ∈ p'.shared.log.issued := by
  have heffect := hexec.effect
  rcases hexec.pending hj with hleads | hold
  · rcases sender_of_leads hleads hsends with ⟨order, rfl, hok, hid⟩ |
      ⟨a, c, r, rfl, hr, rfl⟩ | ⟨call, rfl, hcall⟩
    · rw [(heffect.of_insertion hok rfl hid).right]
      exact List.mem_cons_self
    · exact heffect.issued_mono (hinv.keys.issued (mem_pendingCommands.mp hr).left)
    · exact heffect.issued_mono (hinv.sending hexec.running hcall)
  · exact heffect.issued_mono (hinv.sending hold hsends)

theorem OnceLaw.step {p p' : State} {x : Input} {k : Instr}
    {o : Outcome Server Instr} (hinv : OnceLaw p)
    (hmarks : marksSucceed p k x = true)
    (hguard : selectsUndispatched p k x = true) (hexec : Executes p p' x k o) :
    OnceLaw p' := by
  refine ⟨hinv.labelled.step hexec, hinv.keys.step hexec.effect,
    hinv.once_step hguard hexec, fun hr => hinv.marked_step hmarks hexec hr,
    fun hj => hinv.sending_step hexec hj, ?_⟩
  intro id haccepted
  rcases accepted_cases hinv hexec haccepted with hbefore |
    ⟨c, msg, caller, client, rfl, hid, _⟩
  · exact hexec.effect.issued_mono (hinv.accepted hbefore)
  · exact hexec.effect.issued_mono
      (hinv.sending hexec.running (decide_eq_true hid))

theorem onceLaw_preserved :
    server.Preserves
      (fun p e => Pool.guarded
        (fun p k x => marksSucceed p k x && selectsUndispatched p k x) p e = true)
      (fun p => p.shared.HubSound ∧ OnceLaw p) := by
  apply server_preserves
  · intro p p' r hinv hstarts
    exact hinv.start hstarts
  · intro p p' x k o _ hinv hguard hexec
    rcases Bool.and_eq_true_iff.mp hguard with ⟨hmarks, hselects⟩
    exact hinv.step hmarks hselects hexec

theorem onceLaw_boot {wsEndpoint : String} {sessionTTL : Nat} {db : Database}
    {issued : List Uuid}
    (hkeys : CommandKeys (boot wsEndpoint sessionTTL db issued).shared) :
    OnceLaw (boot wsEndpoint sessionTTL db issued) := by
  have hnever : forall id,
      ¬ Accepted (boot wsEndpoint sessionTTL db issued).shared.log id := by
    rintro id ⟨e, he, _⟩
    cases he
  refine ⟨fun _ _ _ hj _ => absurd hj boot_pending, hkeys, ?_,
    fun _ h => absurd h (hnever _), fun hj _ => absurd hj boot_pending,
    fun h => absurd h (hnever _)⟩
  intro id
  have hidle : Pool.pendingCount (willSend id)
      (boot wsEndpoint sessionTTL db issued) = 0 :=
    Pool.pendingCount_eq_zero fun j hj => absurd hj boot_pending
  rw [hidle]
  exact Nat.zero_le 1

/-- In every run in which the updates of `sent_at` succeed and no redelivery
selects a command that another goroutine is about to send or to mark, every
command is accepted at most once over all connections. -/
theorem accepted_at_most_once (wsEndpoint : String) (sessionTTL : Nat)
    (db : Database) (issued : List Uuid)
    (hkeys : CommandKeys (boot wsEndpoint sessionTTL db issued).shared)
    {es : List Event} {q : State}
    (hrun : server.run (boot wsEndpoint sessionTTL db issued) es = some q)
    (hmarks : server.Meets (fun p e => Pool.guarded marksSucceed p e = true)
      (boot wsEndpoint sessionTTL db issued) es)
    (hmeets : server.Meets
      (fun p e => Pool.guarded selectsUndispatched p e = true)
      (boot wsEndpoint sessionTTL db issued) es) :
    forall id, acceptCount q.shared.log id ≤ 1 := by
  intro id
  have hinv := (onceLaw_preserved.run ⟨boot_hubSound _ _ _ _, onceLaw_boot hkeys⟩
    (Pool.meets_guarded_both hmarks hmeets) hrun).right
  have honce := hinv.once id
  omega

namespace Sample

/-- A command waits in the database until the agent says HELLO, on its first
connection and again on the next one. -/
def redeliveredOnce : List Event :=
  order 0 ++ [go 0] ++ connect 1 ++
    [receive 1 (Incoming.hello "m1" true), go 1, go 1, go 1, go 1, go 1] ++
    connect 3 ++
    [receive 3 (Incoming.hello "m2" true), go 3, go 3, go 3]

/-- The agent says HELLO between the insertion of a command and its mark. -/
def helloBeforeMark : List Event :=
  connect 0 ++ order 2 ++
    [receive 0 (Incoming.hello "m1" true), go 0, go 0, go 0, go 0,
      go 2, go 2, go 2, go 2, go 0]

end Sample

theorem accepted_at_most_once_redelivered :
    exists q, server.run Sample.start Sample.redeliveredOnce = some q ∧
      acceptCount q.shared.log Sample.command ≤ 1 ∧
      Accepted q.shared.log Sample.command := by
  obtain ⟨q, hrun, hcount⟩ : exists q,
      server.run Sample.start Sample.redeliveredOnce = some q ∧
        acceptCount q.shared.log Sample.command = 1 :=
    ⟨_, rfl, by decide⟩
  refine ⟨q, hrun, ?_, accepted_of_acceptCount (by omega)⟩
  have hkeys : CommandKeys Sample.start.shared :=
    ⟨List.nodup_nil, fun hr => absurd hr List.not_mem_nil⟩
  exact accepted_at_most_once _ _ _ _ hkeys hrun (by decide) (by decide)
    Sample.command

/-- A HELLO that is handled between the insertion of a command and its mark
makes the agent get the command twice, although every `UPDATE` succeeds. -/
theorem accepted_twice :
    exists q, server.run Sample.start Sample.helloBeforeMark = some q ∧
      server.Meets (fun p e => Pool.guarded marksSucceed p e = true) Sample.start
        Sample.helloBeforeMark ∧
      acceptCount q.shared.log Sample.command = 2 :=
  ⟨_, rfl, by decide, by decide⟩

end Backend
end LeoOne
