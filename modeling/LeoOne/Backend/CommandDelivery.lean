import LeoOne.Backend.CommandTable

/-!
# Delivery of commands

`CreateAndDispatchCommand` and `redeliverPendingCommands` mark a command as sent
after the call of `Send`, without looking at its result.  The column `sent_at`
therefore tells the truth in the runs in which these calls find the client and
room in its channel.
-/

namespace LeoOne
namespace Backend

open Foundation
open Wire
open Websocket
open RemoteDesktop

/-!
## Messages that carry a command
-/

/-- The agent executes a command on a message of this type. -/
def isCommandType : MsgType -> Bool
  | MsgType.helloAck => false
  | MsgType.forceHeartbeat => false
  | MsgType.remoteDesktopStart => false
  | MsgType.remoteDesktopStop => false
  | _ => true

/-- The message is an order to execute the command of that id. -/
def carries (msg : Envelope) (id : Uuid) : Bool :=
  isCommandType msg.type && msg.id = id.text

theorem isCommandType_wsType (type : CommandType) :
    isCommandType type.wsType = true := by
  cases type <;> rfl

theorem carries_commandMessage {id id' : Uuid} {type : CommandType}
    {payload : RawMessage} {ts : Nat} :
    carries (commandMessage id type payload ts) id' = true <-> id = id' := by
  unfold carries
  rw [Bool.and_eq_true, decide_eq_true_iff]
  show isCommandType type.wsType = true ∧ id.text = id'.text <-> id = id'
  constructor
  · intro h
    exact Uuid.ext_text h.right
  · intro h
    exact ⟨isCommandType_wsType type, by rw [h]⟩

/-- The message carries the command that its caller marks as sent, and no
other. -/
def Labelled (msg : Envelope) (caller : Caller) : Prop :=
  forall id, carries msg id = true <-> caller.marks = some id

theorem labelled_command {id : Uuid} {type : CommandType} {payload : RawMessage}
    {ts : Nat} {caller : Caller} (h : caller.marks = some id) :
    Labelled (commandMessage id type payload ts) caller := by
  intro id'
  rw [carries_commandMessage, h, Option.some.injEq]

theorem labelled_other {msg : Envelope} {caller : Caller}
    (htype : isCommandType msg.type = false) (h : caller.marks = none) :
    Labelled msg caller := by
  intro id
  simp [carries, htype, h]

/-- The message that the instruction hands to `Send`. -/
def outgoing : Instr -> Option (Envelope × Caller)
  | Instr.hub (HubCall.lookup _ msg caller) => some (msg, caller)
  | Instr.conn (ConnCall.send _ msg caller) => some (msg, caller)
  | _ => none

def OutgoingLabelled (p : State) : Prop :=
  forall j msg caller, p.Pending j -> outgoing j = some (msg, caller) ->
    Labelled msg caller

theorem labelled_of_leads {p : State} {x : Input} {k j : Instr}
    (hinv : OutgoingLabelled p) (hk : p.Pending k)
    (hleads : Leads p.shared x k j) {msg : Envelope} {caller : Caller}
    (hout : outgoing j = some (msg, caller)) : Labelled msg caller := by
  cases hleads with
  | redeliver hrow =>
      cases hout
      exact labelled_command rfl
  | stop hfind hagent =>
      cases hout
      exact labelled_other rfl rfl
  | found hcur =>
      cases hout
      exact hinv _ _ _ hk rfl
  | commandConnected hconn =>
      cases hout
      exact labelled_command rfl
  | wakeUpConnected hconn =>
      cases hout
      exact labelled_other rfl rfl
  | sessionStart =>
      cases hout
      exact labelled_other rfl rfl
  | read hmsg hhandles =>
      cases hhandles with
      | helloAck =>
          cases hout
          exact labelled_other rfl rfl
      | _ =>
          cases hout
  | _ =>
      cases hout

theorem OutgoingLabelled.start {p p' : State} {r : Request}
    (hinv : OutgoingLabelled p) (hstarts : Starts p p' r) :
    OutgoingLabelled p' := by
  intro j msg caller hj hout
  rcases hstarts.pending hj with henters | hold
  · cases henters <;> cases hout
  · exact hinv j msg caller hold hout

theorem OutgoingLabelled.step {p p' : State} {x : Input} {k : Instr}
    {o : Outcome Server Instr} (hinv : OutgoingLabelled p)
    (hexec : Executes p p' x k o) : OutgoingLabelled p' := by
  intro j msg caller hj hout
  rcases hexec.pending hj with hleads | hold
  · exact labelled_of_leads hinv hexec.running hleads hout
  · exact hinv j msg caller hold hout

/-!
## The meaning of `sent_at`
-/

/-- Some connection has accepted a message that carries the command. -/
def Accepted (log : History) (id : Uuid) : Prop :=
  exists e, e ∈ log.accepted ∧ carries e.2.1 id = true

/-- The commands that were marked as sent when the server started. -/
def alreadySent (db : Database) : List Uuid :=
  (db.commands.filter fun r => r.sentAt.isSome).map CommandRow.id

/-- `SendToAgent` of a command finds the agent connected, and `Send` of a
command finds room in the channel. -/
def reachesChannel (p : State) (k : Instr) (_ : Input) : Bool :=
  match k with
  | Instr.hub (HubCall.lookup a _ caller) =>
      caller.marks.isNone || p.shared.hub.isConnected a
  | Instr.conn (ConnCall.send c _ caller) =>
      caller.marks.isNone ||
        (p.shared.hub.heap c).sendChan.buf.length <
          (p.shared.hub.heap c).sendChan.cap
  | _ => true

/-- Commands are marked, and about to be marked, only after they have been
accepted. -/
structure SentLaw (before : List Uuid) (p : State) : Prop where
  labelled : OutgoingLabelled p
  marking : forall {id}, p.Pending (Instr.sql (Statement.markSent id)) ->
    Accepted p.shared.log id
  marked : forall {r}, r ∈ p.shared.db.commands -> r.sentAt ≠ none ->
    r.id ∈ before ∨ Accepted p.shared.log r.id

theorem Accepted.step {s t : Server} {x : Input} {k : Instr} {id : Uuid}
    (h : Accepted s.log id) (heffect : Effect s x k t) : Accepted t.log id := by
  rcases h with ⟨e, he, hid⟩
  exact ⟨e, heffect.accepted_mono he, hid⟩

/-- A send of a command that finds room is accepted. -/
theorem accepted_of_send {s t : Server} {x : Input} {c : ClientId}
    {msg : Envelope} {caller : Caller} {client : Client Envelope} {ok : Bool}
    (heffect : Effect s x (Instr.conn (ConnCall.send c msg caller)) t)
    (hsend : (s.hub.heap c).send msg = some (client, ok))
    (hroom : (s.hub.heap c).sendChan.buf.length < (s.hub.heap c).sendChan.cap) :
    (c, msg, caller) ∈ t.log.accepted := by
  cases heffect with
  | quiet hquiet =>
      cases hquiet
  | panicked hclosed =>
      rcases Client.send_cases hsend with ⟨_, hopen, _⟩ | ⟨_, hfull, _⟩
      · rw [hopen] at hclosed
        cases hclosed
      · exact absurd hroom (by omega)
  | accept _ =>
      exact List.mem_append.mpr (Or.inr (List.mem_singleton.mpr rfl))
  | full hfull =>
      exact absurd hroom (by omega)

theorem sentLaw_marking {before : List Uuid} {p p' : State} {x : Input}
    {k : Instr} {o : Outcome Server Instr} (hinv : SentLaw before p)
    (hguard : reachesChannel p k x = true) (hexec : Executes p p' x k o)
    {id : Uuid} (hleads : Leads p.shared x k (Instr.sql (Statement.markSent id))) :
    Accepted p'.shared.log id := by
  have heffect := hexec.effect
  have hrunning := hexec.running
  generalize hj : Instr.sql (Statement.markSent id) = j at hleads
  cases hleads with
  | notFoundMark hnone hmarks =>
      cases hj
      simp [reachesChannel, Hub.isConnected, hnone, hmarks] at hguard
  | sentMark hsend hmarks =>
      cases hj
      have hroom := hguard
      simp only [reachesChannel, hmarks, Option.isNone_some, Bool.false_or,
        decide_eq_true_eq] at hroom
      refine ⟨_, accepted_of_send heffect hsend hroom, ?_⟩
      exact (hinv.labelled _ _ _ hrunning rfl id).mpr hmarks
  | read _ hhandles =>
      subst hj
      cases hhandles
  | _ =>
      cases hj

theorem sentLaw_step {before : List Uuid} {p p' : State} {x : Input} {k : Instr}
    {o : Outcome Server Instr} (hinv : SentLaw before p)
    (hguard : reachesChannel p k x = true) (hexec : Executes p p' x k o) :
    SentLaw before p' := by
  have heffect := hexec.effect
  refine ⟨hinv.labelled.step hexec, ?_, ?_⟩
  · intro id hid
    rcases hexec.pending hid with hleads | hold
    · exact sentLaw_marking hinv hguard hexec hleads
    · exact (hinv.marking hold).step heffect
  · intro r hr hsent
    rcases heffect.commands hr with ⟨old, st, hold, hchange, hk⟩ | ⟨st, hk, hinsert, _⟩
    · have hkeep : old.sentAt ≠ none ->
          r.id ∈ before ∨ Accepted p'.shared.log r.id := by
        intro hold'
        rw [hchange.id_eq]
        rcases hinv.marked hold hold' with hbefore | haccepted
        · exact Or.inl hbefore
        · exact Or.inr (haccepted.step heffect)
      rcases hk with ⟨hk, _⟩ | hsame
      · cases hchange with
        | sent =>
            right
            have hmarking := hexec.running
            rw [hk] at hmarking
            exact (hinv.marking hmarking).step heffect
        | _ =>
            exact hkeep hsent
      · subst hsame
        exact hkeep hsent
    · cases hinsert with
      | command _ _ _ =>
          exact absurd rfl hsent

theorem sentLaw_preserved (before : List Uuid) :
    server.Preserves (fun p e => Pool.guarded reachesChannel p e = true)
      (fun p => p.shared.HubSound ∧ SentLaw before p) := by
  apply server_preserves
  · intro p p' r hinv hstarts
    refine ⟨hinv.labelled.start hstarts, ?_, ?_⟩
    · intro id hid
      rw [hstarts.shared]
      rcases hstarts.pending hid with henters | hold
      · cases henters
      · exact hinv.marking hold
    · intro row hrow hsent
      rw [hstarts.shared] at hrow ⊢
      exact hinv.marked hrow hsent
  · intro p p' x k o _ hinv hguard hexec
    exact sentLaw_step hinv hguard hexec

theorem sentLaw_boot (wsEndpoint : String) (sessionTTL : Nat) (db : Database)
    (issued : List Uuid) :
    SentLaw (alreadySent db) (boot wsEndpoint sessionTTL db issued) := by
  refine ⟨fun _ _ _ hj _ => absurd hj boot_pending,
    fun hid => absurd hid boot_pending, ?_⟩
  intro r hr hsent
  left
  apply List.mem_map.mpr
  refine ⟨r, List.mem_filter.mpr ⟨hr, ?_⟩, rfl⟩
  exact Option.isSome_iff_ne_none.mpr hsent

/-- In every run in which the sends of commands reach a channel, a command is
marked as sent only if it was accepted, and a command that was never accepted
stays unmarked and is among the rows that the next redelivery to its agent
selects. -/
theorem sent_only_if_accepted (wsEndpoint : String) (sessionTTL : Nat)
    (db : Database) (issued : List Uuid) {es : List Event} {q : State}
    (hrun : server.run (boot wsEndpoint sessionTTL db issued) es = some q)
    (hmeets : server.Meets (fun p e => Pool.guarded reachesChannel p e = true)
      (boot wsEndpoint sessionTTL db issued) es) :
    (forall r, r ∈ q.shared.db.commands -> r.sentAt ≠ none ->
      r.id ∈ alreadySent db ∨ Accepted q.shared.log r.id) ∧
    (forall r, r ∈ q.shared.db.commands -> r.id ∉ alreadySent db ->
      ¬ Accepted q.shared.log r.id ->
      r.sentAt = none ∧
        (r.status = CommandStatus.pending ->
          r ∈ q.shared.db.pendingCommands r.agentId.text)) := by
  have hinv := ((sentLaw_preserved (alreadySent db)).run
    ⟨boot_hubSound _ _ _ _, sentLaw_boot _ _ _ _⟩ hmeets hrun).right
  refine ⟨fun r hr hsent => hinv.marked hr hsent, ?_⟩
  intro r hr hbefore hnever
  have hnull : r.sentAt = none := by
    by_contra hsent
    rcases hinv.marked hr hsent with hold | haccepted
    · exact hbefore hold
    · exact hnever haccepted
  refine ⟨hnull, ?_⟩
  intro hpending
  apply mem_pendingCommands.mpr
  refine ⟨hr, ?_⟩
  simp [Database.isPending, hnull, hpending, Uuid.named_text.mpr rfl]

namespace Sample

/-- A command is inserted, sent on the open connection and marked. -/
def sentAtOnce : List Event :=
  connect 0 ++ order 2 ++ [go 2, go 2, go 2, go 2]

/-- The connection ends after `IsConnected` and before the lookup. -/
def endBeforeLookup : List Event :=
  connect 0 ++ order 2 ++ [go 2, go 0, go 0, go 2, go 2]

end Sample

theorem sent_only_if_accepted_sentAtOnce :
    exists q r, server.run Sample.start Sample.sentAtOnce = some q ∧
      r ∈ q.shared.db.commands ∧ r.sentAt = some 0 ∧
      Accepted q.shared.log r.id := by
  obtain ⟨q, r, hrun, hr, hsent⟩ : exists q r,
      server.run Sample.start Sample.sentAtOnce = some q ∧
        r ∈ q.shared.db.commands ∧ r.sentAt = some 0 :=
    ⟨_, _, rfl, List.mem_cons_self, rfl⟩
  have hlaw := (sent_only_if_accepted _ _ _ _ hrun (by decide)).left r hr
    (by rw [hsent]; simp)
  refine ⟨q, r, hrun, hr, hsent, ?_⟩
  rcases hlaw with hbefore | haccepted
  · cases hbefore
  · exact haccepted

/-- The agent is connected when `IsConnected` is called and gone when
`SendToAgent` looks it up; the command is marked as sent all the same, although
no connection accepted it. -/
theorem marked_but_never_accepted :
    exists q r, server.run Sample.start Sample.endBeforeLookup = some q ∧
      r ∈ q.shared.db.commands ∧ r.sentAt ≠ none ∧
      r.id ∉ alreadySent Sample.database ∧ ¬ Accepted q.shared.log r.id := by
  refine ⟨_, _, rfl, List.mem_cons_self, ?_, ?_, ?_⟩
  · exact Option.some_ne_none 0
  · exact List.not_mem_nil
  · rintro ⟨e, he, _⟩
    exact absurd he List.not_mem_nil

end Backend
end LeoOne
