import LeoOne.Backend.AgentMessages
import LeoOne.Backend.CommandResults

/-!
# Completion of commands

From the message of a command to its row.  The agent answers a command with one
CMD_RESULT, which sets the final status of the row, but a PING with a PONG, which
`Dispatch` only logs: a `ping` command stays `pending`.
-/

namespace LeoOne
namespace Backend

open Foundation
open Wire
open Websocket

/-- The statement sets the final status of the command. -/
def completes (row : CommandRow) : Instr -> Bool
  | Instr.sql (Statement.recordResult _ t body) => Database.isNamed body.commandId t row
  | _ => false

/-- The values that the `UPDATE commands` of `handleCmdResult` accepts. -/
def fitsColumns (body : CmdResultBody) : Bool :=
  fitsInteger body.exitCode && fitsText body.stdout && fitsText body.stderr

/-- The command has its final status, with the time of its completion. -/
def Completed (row : CommandRow) (p : State) : Prop :=
  forall r, r ∈ p.shared.db.commands -> r.id = row.id ->
    r.status.isFinal = true ∧ r.completedAt.isSome = true

/-- No result names the command other than these, and their statements do not fail. -/
def onlyResults (row : CommandRow) (results : List CmdResultBody) (p : State) (k : Instr)
    (x : Input) : Bool :=
  match k with
  | Instr.sql (Statement.recordResult _ t body) =>
      !(x.fails && Database.isNamed body.commandId t row)
  | Instr.conn (ConnCall.readPump c) =>
      match x.message with
      | some (Incoming.cmdResult (some body)) =>
          !Database.isNamed body.commandId (p.shared.hub.heap c).tenantId row ||
            results.contains body
      | _ => true
  | _ => true

/-- The `ReadPump` of a connection of the tenant of the command reads the message. -/
def Reads (row : CommandRow) (msg : Incoming) (p : State) (e : Event) : Prop :=
  exists i x c rest, e = PoolEvent.exec i x ∧
    p.head? i = some (Instr.conn (ConnCall.readPump c), rest) ∧ x.message = some msg ∧
    row.tenantId.named (p.shared.hub.heap c).tenantId = true

/-!
## Changes of the row
-/

/-- Only a result changes the status. -/
theorem RowChange.status {x : Input} {st : Statement} {old r : CommandRow}
    (h : RowChange x st old r) :
    r.status = old.status ∨ completes old (Instr.sql st) = true := by
  cases h with
  | result hnamed =>
      exact Or.inr hnamed
  | _ =>
      exact Or.inl rfl

theorem withResult_final (body : CmdResultBody) (now : Nat) (r : CommandRow) :
    (Database.withResult body now r).status.isFinal = true ∧
      (Database.withResult body now r).completedAt.isSome = true := by
  refine ⟨?_, rfl⟩
  simp only [Database.withResult]
  split <;> rfl

/-- A final status is replaced by a final status only. -/
theorem RowChange.final {x : Input} {st : Statement} {old r : CommandRow}
    (h : RowChange x st old r)
    (hold : old.status.isFinal = true ∧ old.completedAt.isSome = true) :
    r.status.isFinal = true ∧ r.completedAt.isSome = true := by
  cases h with
  | result _ =>
      exact withResult_final _ _ _
  | _ =>
      exact hold

/-- The same command under the same tenant is named by the same results. -/
theorem completes_congr {row r : CommandRow} (hid : r.id = row.id)
    (htenant : r.tenantId = row.tenantId) (k : Instr) : completes r k = completes row k := by
  unfold completes Database.isNamed
  split
  · rw [hid, htenant]
  · rfl

/-!
## The results on their way
-/

/-- What holds in a run in which only these results name the command. -/
structure ResultLaw (row : CommandRow) (results : List CmdResultBody) (p : State) :
    Prop where
  issued : row.id ∈ p.shared.log.issued
  tenant : forall {r}, r ∈ p.shared.db.commands -> r.id = row.id ->
    r.tenantId = row.tenantId
  pending : forall {a t body}, p.Pending (Instr.sql (Statement.recordResult a t body)) ->
    Database.isNamed body.commandId t row = true -> body ∈ results

section Law

variable {row : CommandRow} {results : List CmdResultBody} {p p' : State} {x : Input}
  {k : Instr} {o : Outcome Server Instr}

/-- A row of the command after a step comes from a row of the command. -/
theorem ResultLaw.row_cases (hinv : ResultLaw row results p)
    (hexec : Executes p p' x k o) {r : CommandRow} (hr : r ∈ p'.shared.db.commands)
    (hid : r.id = row.id) :
    exists old st, old ∈ p.shared.db.commands ∧ old.id = row.id ∧ RowChange x st old r ∧
      (k = Instr.sql st ∧ x.fails = false ∨ r = old) := by
  rcases hexec.effect.commands hr with ⟨old, st, hold, hchange, hk⟩ | ⟨st, _, _, hnew, _⟩
  · exact ⟨old, st, hold, hchange.id_eq.symm.trans hid, hchange, hk⟩
  · rw [hid] at hnew
    exact absurd hinv.issued hnew

/-- A new statement that names the command comes from a result that is read. -/
theorem recordResult_of_leads {s : Server} {a t : String} {body : CmdResultBody}
    (hleads : Leads s x k (Instr.sql (Statement.recordResult a t body))) :
    exists c, k = Instr.conn (ConnCall.readPump c) ∧ (s.hub.heap c).tenantId = t ∧
      x.message = some (Incoming.cmdResult (some body)) := by
  generalize hj : Instr.sql (Statement.recordResult a t body) = j at hleads
  cases hleads with
  | read hmsg hhandles =>
      subst hj
      cases hhandles
      exact ⟨_, rfl, rfl, hmsg⟩
  | _ =>
      cases hj

theorem ResultLaw.step (hinv : ResultLaw row results p)
    (hguard : onlyResults row results p k x = true) (hexec : Executes p p' x k o) :
    ResultLaw row results p' := by
  refine ⟨hexec.effect.issued_mono hinv.issued, ?_, ?_⟩
  · intro r hr hid
    rcases hinv.row_cases hexec hr hid with ⟨old, st, hold, holdid, hchange, _⟩
    exact hchange.tenantId_eq.trans (hinv.tenant hold holdid)
  · intro a t body hj hnamed
    rcases hexec.pending hj with hleads | hold
    · rcases recordResult_of_leads hleads with ⟨c, rfl, rfl, hmsg⟩
      simp only [onlyResults, hmsg, hnamed, Bool.not_true, Bool.false_or,
        List.contains_iff_mem] at hguard
      exact hguard
    · exact hinv.pending hold hnamed

theorem ResultLaw.start (hinv : ResultLaw row results p) {r : Request}
    (hstarts : Starts p p' r) : ResultLaw row results p' := by
  refine ⟨?_, ?_, ?_⟩
  · rw [hstarts.shared]
    exact hinv.issued
  · rw [hstarts.shared]
    exact hinv.tenant
  · intro a t body hj hnamed
    rcases hstarts.pending hj with henters | hold
    · cases henters
    · exact hinv.pending hold hnamed

theorem resultLaw_preserved :
    server.Preserves (fun p e => Pool.guarded (onlyResults row results) p e = true)
      (fun p => p.shared.HubSound ∧ ResultLaw row results p) := by
  apply server_preserves
  · intro p p' r hinv hstarts
    exact hinv.start hstarts
  · intro p p' x k o _ hinv hguard hexec
    exact hinv.step hguard hexec

/-!
## A result completes the command
-/

/-- The command is completed, or a statement is pending that completes it. -/
def Due (row : CommandRow) (p : State) : Prop :=
  (exists k, p.Pending k ∧ completes row k = true) ∨ Completed row p

theorem Completed.step (hcompleted : Completed row p) (hinv : ResultLaw row results p)
    (hexec : Executes p p' x k o) : Completed row p' := by
  intro r hr hid
  rcases hinv.row_cases hexec hr hid with ⟨old, st, hold, holdid, hchange, _⟩
  exact hchange.final (hcompleted old hold holdid)

/-- After the `UPDATE`, the rows that it names are final. -/
theorem recordResult_final {db : Database} {ttl : Nat} {a t : String} {body : CmdResultBody}
    (hcolumns : fitsColumns body = true) {r : CommandRow}
    (hr : r ∈ ((Statement.recordResult a t body).exec ttl x db).1.commands)
    (hnamed : Database.isNamed body.commandId t r = true) :
    r.status.isFinal = true ∧ r.completedAt.isSome = true := by
  simp only [Statement.exec] at hr
  split at hr
  · rename_i hnone
    unfold Database.recordResult at hnone
    unfold fitsColumns at hcolumns
    rw [if_pos hcolumns] at hnone
    split at hnone
    · rename_i hfind
      exact absurd hnamed (List.find?_eq_none.mp hfind r hr)
    · cases hnone
  · rename_i db' row' hresult
    rcases recordResult_some hresult with ⟨_, _, rfl⟩
    rcases Table.mem_updateWhere.mp hr with ⟨old, _, ⟨_, rfl⟩ | ⟨hnot, rfl⟩⟩
    · exact withResult_final _ _ _
    · rw [hnamed] at hnot
      cases hnot

/-- The statement of a result that names the command completes it. -/
theorem completed_of_completes (hinv : ResultLaw row results p)
    (hfit : forall body, body ∈ results -> fitsColumns body = true)
    (hguard : onlyResults row results p k x = true) (hexec : Executes p p' x k o)
    (hk : completes row k = true) : Completed row p' := by
  unfold completes at hk
  split at hk
  · rename_i a t body
    have hok : x.fails = false := by
      simp only [onlyResults, hk, Bool.and_true, Bool.not_eq_true'] at hguard
      exact hguard
    have hdb : p'.shared.db =
        ((Statement.recordResult a t body).exec p.shared.sessionTTL x p.shared.db).1 := by
      rw [hexec.effect.of_statement hok rfl]
      rfl
    intro r hr hid
    have htenant := (hinv.step hguard hexec).tenant hr hid
    rw [hdb] at hr
    apply recordResult_final (hfit body (hinv.pending hexec.running hk)) hr
    rw [Database.isNamed, hid, htenant]
    exact hk
  · cases hk

theorem Due.step (hdue : Due row p) (hinv : ResultLaw row results p)
    (hfit : forall body, body ∈ results -> fitsColumns body = true)
    (hguard : onlyResults row results p k x = true) (hexec : Executes p p' x k o) :
    Due row p' := by
  cases hk : completes row k with
  | true =>
      exact Or.inr (completed_of_completes hinv hfit hguard hexec hk)
  | false =>
      rcases hdue with ⟨j, hj, hcompletes⟩ | hcompleted
      · left
        refine ⟨j, hexec.kept hj ?_, hcompletes⟩
        intro heq
        rw [heq, hk] at hcompletes
        cases hcompletes
      · exact Or.inr (hcompleted.step hinv hexec)

theorem due_preserved (hfit : forall body, body ∈ results -> fitsColumns body = true) :
    server.Preserves (fun p e => Pool.guarded (onlyResults row results) p e = true)
      (fun p => p.shared.HubSound ∧ ResultLaw row results p ∧ Due row p) := by
  apply server_preserves
  · rintro p p' r ⟨hinv, hdue⟩ hstarts
    refine ⟨hinv.start hstarts, ?_⟩
    rcases hdue with ⟨j, hj, hcompletes⟩ | hcompleted
    · exact Or.inl ⟨j, hstarts.kept hj, hcompletes⟩
    · right
      intro r hr hid
      rw [hstarts.shared] at hr
      exact hcompleted r hr hid
  · rintro p p' x k o _ ⟨hinv, hdue⟩ hguard hexec
    exact ⟨hinv.step hguard hexec, hdue.step hinv hfit hguard hexec⟩

/-- A result that is read makes the statement pending that completes the command. -/
theorem due_of_read {body : CmdResultBody} (hid : body.commandId = row.id.text) {e : Event}
    (hs : p.shared.HubSound)
    (hreads : Reads row (Incoming.cmdResult (some body)) p e)
    (hstep : server.step p e = some p') : Due row p' := by
  rcases hreads with ⟨i, x, c, rest, rfl, hhead, hmsg, htenant⟩
  rcases Pool.step_cases hstep with ⟨r, he, _⟩ |
    ⟨j, y, k, rest', o, he, hhead', hperform, hp'⟩
  · cases he
  · cases he
    rw [hhead] at hhead'
    cases hhead'
    have hexec := executes_of_perform hs hhead hperform hp'
    have hnamed : Database.isNamed body.commandId (p.shared.hub.heap c).tenantId row =
        true := by
      rw [Database.isNamed, htenant, hid, Uuid.named_text.mpr rfl]
      rfl
    have hne : body.commandId ≠ "" := by
      intro hempty
      have hcanonical := row.id.canonical
      rw [← hid, hempty] at hcanonical
      cases hcanonical
    left
    refine ⟨Instr.sql (Statement.recordResult (p.shared.hub.heap c).agentId
      (p.shared.hub.heap c).tenantId body), hexec.made ?_, hnamed⟩
    unfold Server.perform at hperform
    rw [if_neg (by rw [hexec.alive]; exact Bool.false_ne_true)] at hperform
    simp only [Server.performConn, hmsg] at hperform
    cases hperform
    simp [Server.goOn, dispatch, handleCmdResult, hne]

/-!
## Without a result
-/

/-- No result is on its way, and the command has not been completed. -/
structure Waiting (row : CommandRow) (p : State) : Prop where
  pending : forall k, p.Pending k -> completes row k = false
  status : forall r, r ∈ p.shared.db.commands -> r.id = row.id ->
    r.status = CommandStatus.pending

/-- In a run without results for the command, it stays pending. -/
theorem waiting_preserved :
    server.Preserves (fun p e => Pool.guarded (onlyResults row []) p e = true)
      (fun p => p.shared.HubSound ∧ ResultLaw row [] p ∧ Waiting row p) := by
  apply server_preserves
  · rintro p p' r ⟨hinv, hwaiting⟩ hstarts
    refine ⟨hinv.start hstarts, ?_, ?_⟩
    · intro k hk
      rcases hstarts.pending hk with henters | hold
      · cases henters <;> rfl
      · exact hwaiting.pending k hold
    · intro r hr hid
      rw [hstarts.shared] at hr
      exact hwaiting.status r hr hid
  · rintro p p' x k o _ ⟨hinv, hwaiting⟩ hguard hexec
    have hlater := hinv.step hguard hexec
    refine ⟨hlater, ?_, ?_⟩
    · intro j hj
      cases hcompletes : completes row j with
      | false =>
          rfl
      | true =>
          unfold completes at hcompletes
          split at hcompletes
          · exact absurd (hlater.pending hj hcompletes) List.not_mem_nil
          · cases hcompletes
    · intro r hr hid
      rcases hinv.row_cases hexec hr hid with ⟨old, st, hold, holdid, hchange, hk⟩
      have hbefore := hwaiting.status old hold holdid
      rcases hk with ⟨hk, _⟩ | rfl
      · rcases hchange.status with hsame | hcompletes
        · exact hsame.trans hbefore
        · rw [completes_congr holdid (hinv.tenant hold holdid), ← hk,
            hwaiting.pending k hexec.running] at hcompletes
          cases hcompletes
      · exact hbefore

end Law

/-!
## Agent and backend
-/

/-- The agent executes every accepted type except one. -/
theorem isExecuted_wsType (type : CommandType) :
    (Agent.branchFor type.wsType).isExecuted = decide (type ≠ CommandType.ping) := by
  cases type <;> rfl

/-- What the agent reports fits the columns: `exit_code` is an `int`, and the texts are C
strings. -/
theorem fitsColumns_result {result : Agent.CmdResult}
    (h : fitsInteger result.exitCode = true) : fitsColumns (cmdResultBody result) = true := by
  have hcode : fitsInteger (cmdResultBody result).exitCode = true := h
  rw [fitsColumns, hcode]
  show (true && fitsText (goString _) && fitsText (goString _)) = true
  rw [fitsText_goString, fitsText_goString]
  rfl

theorem resultLaw_of_keys {row : CommandRow} {results : List CmdResultBody} {p : State}
    (hkeys : CommandKeys p.shared) (hrow : row ∈ p.shared.db.commands)
    (hidle : forall k, p.Pending k -> completes row k = false) :
    ResultLaw row results p := by
  refine ⟨hkeys.issued hrow, ?_, ?_⟩
  · intro r hr hid
    rw [hkeys.unique hrow hr hid]
  · intro a t body hk hnamed
    have hnone := hidle _ hk
    rw [completes, hnamed] at hnone
    cases hnone

section Server

variable {row : CommandRow} {results : List CmdResultBody} {events : List Event}
  {p q : State}

/-- Without results a pending command is still pending at the end of a run. -/
theorem waiting_of_no_results (hs : p.shared.HubSound) (hkeys : CommandKeys p.shared)
    (hrow : row ∈ p.shared.db.commands) (hstatus : row.status = CommandStatus.pending)
    (hidle : forall k, p.Pending k -> completes row k = false)
    (hrun : server.run p events = some q)
    (hmeets : server.Meets (fun p e => Pool.guarded (onlyResults row []) p e = true)
      p events) : Waiting row q := by
  have hwaiting : Waiting row p := by
    refine ⟨hidle, ?_⟩
    intro r hr hid
    rw [hkeys.unique hrow hr hid]
    exact hstatus
  exact (waiting_preserved.run ⟨hs, resultLaw_of_keys hkeys hrow hidle, hwaiting⟩
    hmeets hrun).right.right

/-- A result that is read and handled in a run completes the command. -/
theorem completed_of_read (hs : p.shared.HubSound) (hkeys : CommandKeys p.shared)
    (hrow : row ∈ p.shared.db.commands)
    (hidle : forall k, p.Pending k -> completes row k = false)
    (hrun : server.run p events = some q)
    (hmeets : server.Meets
      (fun p e => Pool.guarded (onlyResults row results) p e = true) p events)
    (hfit : forall body, body ∈ results -> fitsColumns body = true)
    {body : CmdResultBody} (hid : body.commandId = row.id.text)
    (hread : server.Occurs (Reads row (Incoming.cmdResult (some body))) p events)
    (hhandled : forall k, q.Pending k -> completes row k = false) : Completed row q := by
  have hend : q.shared.HubSound ∧ ResultLaw row results q ∧ Due row q := by
    refine hread.run resultLaw_preserved (due_preserved hfit) ?_
      ⟨hs, resultLaw_of_keys hkeys hrow hidle⟩ hmeets hrun
    intro p e p' hinv hguard hreads hstep
    have hlater := resultLaw_preserved p e p' hinv hguard hstep
    exact ⟨hlater.left, hlater.right, due_of_read hid hinv.left hreads hstep⟩
  rcases hend.right.right with ⟨k, hk, hcompletes⟩ | hcompleted
  · rw [hhandled k hk] at hcompletes
    cases hcompletes
  · exact hcompleted

end Server

/-- For every type of command that `CreateAndDispatchCommand` accepts, every payload and
every outcome on the agent: the message of a pending command reaches the agent in one
callback, the agent has finished with it in a run in which the CMD_RESULTs fit their
buffer, and in a run of the server every message that it has queued in answer is read on
a connection of the tenant and handled, no other result names the command and the
statements do not fail.  Then the command has its final status and the time of its
completion if and only if it is not a `ping`. -/
theorem command_completed_iff (cJSONParse : List UInt8 -> Option Json)
    {es : List Agent.Event} {a : Agent.State} {ticket : Nat} {row : CommandRow} {ts : Nat}
    (hagent : (Agent.agent cJSONParse).run Agent.agentStart es = some a)
    (hfits : (Agent.agent cJSONParse).Meets
      (fun p e => Pool.guarded Agent.fitting p e = true) Agent.agentStart es)
    (hsize : (commandMessage row.id row.type row.payload ts).marshal.length ≤
      Agent.maxMsgSize)
    (hparse : cJSONParse (commandMessage row.id row.type row.payload ts).marshal =
      some (commandMessage row.id row.type row.payload ts).tree)
    (hreceived : a.shared.received[ticket]? =
      (Agent.rxChunks (commandMessage row.id row.type row.payload ts).marshal)[0]?)
    (hanswered : Pool.pendingCount (Agent.Task.owes ticket) a = 0)
    (hcode : forall result, (ticket, result) ∈ a.shared.sent ->
      fitsInteger result.exitCode = true)
    (wsEndpoint : String) (sessionTTL : Nat) (db : Database) (issued : List Uuid)
    (hkeys : CommandKeys (boot wsEndpoint sessionTTL db issued).shared)
    {before events : List Event} {p q : State}
    (hboot : server.run (boot wsEndpoint sessionTTL db issued) before = some p)
    (hrow : row ∈ p.shared.db.commands) (hstatus : row.status = CommandStatus.pending)
    (hidle : forall k, p.Pending k -> completes row k = false)
    (hrun : server.run p events = some q)
    (hmeets : server.Meets (fun p e =>
      Pool.guarded (onlyResults row (resultsFor a.shared ticket)) p e = true) p events)
    (hdelivered : forall msg, msg ∈ answers cJSONParse a.shared ticket ->
      server.Occurs (Reads row msg) p events)
    (hhandled : forall k, q.Pending k -> completes row k = false)
    (hkept : exists r, r ∈ q.shared.db.commands ∧ r.id = row.id) :
    Completed row q <-> row.type ≠ CommandType.ping := by
  rw [rxChunks_zero hsize] at hreceived
  rcases commandKeys_preserved.run ⟨boot_hubSound _ _ _ _, hkeys⟩ Pool.meets_guarded_true
    hboot with ⟨hs, hkeys'⟩
  have hlength := length_results_of_done hagent hfits hparse hreceived hanswered
  have hexecuted : (Agent.branchFor (commandMessage row.id row.type row.payload ts).type
      ).isExecuted = decide (row.type ≠ CommandType.ping) := isExecuted_wsType row.type
  rw [hexecuted] at hlength
  constructor
  · intro hcompleted hping
    -- a PING has no result
    rw [hping] at hlength
    rw [List.eq_nil_of_length_eq_zero hlength] at hmeets
    have hend := waiting_of_no_results hs hkeys' hrow hstatus hidle hrun hmeets
    rcases hkept with ⟨r, hr, hid⟩
    have hfinal := (hcompleted r hr hid).left
    rw [hend.status r hr hid] at hfinal
    cases hfinal
  · intro hother
    rw [if_pos (decide_eq_true hother)] at hlength
    rcases List.length_eq_one_iff.mp hlength with ⟨body, hresults⟩
    have hbody : body ∈ resultsFor a.shared ticket := hresults ▸ List.mem_cons_self
    have hid := commandId_of_result hagent hfits hparse rfl hreceived hbody
    have hfit : forall body, body ∈ resultsFor a.shared ticket ->
        fitsColumns body = true := by
      intro body' hbody'
      rcases mem_resultsFor.mp hbody' with ⟨result, hsent, rfl⟩
      exact fitsColumns_result (hcode result hsent)
    have hread := hdelivered (Incoming.cmdResult (some body))
      (List.mem_append.mpr (Or.inr (List.mem_map.mpr ⟨body, hbody, rfl⟩)))
    exact completed_of_read hs hkeys' hrow hidle hrun hmeets hfit hid hread hhandled

namespace Sample

/-- A command of that type with an empty payload, as it is inserted and marked as sent. -/
def sentCommand (type : CommandType) : CommandRow :=
  { Database.newCommand command tenant agent none none type
      { text := utf8 "\x7b\x7d", value := Json.obj [] } 0 with
    sentAt := some 0 }

def sentMessage (type : CommandType) : Envelope :=
  commandMessage (sentCommand type).id (sentCommand type).type (sentCommand type).payload 0

/-- The parser, on the text of that message. -/
def sentParser (type : CommandType) (text : List UInt8) : Option Json :=
  if text = (sentMessage type).marshal then some (sentMessage type).tree else none

/-- The connected agent is sent the command. -/
def sends (type : CommandType) : List Event :=
  connect 0 ++
    [PoolEvent.start
        (Request.createCommand tenant.text agent.text none none type none),
      PoolEvent.exec 2 { id := some command }, go 2, go 2, go 2, go 2]

/-- The agent receives a PING and answers at once. -/
def pingRun : List Agent.Event :=
  [PoolEvent.start (sentMessage CommandType.ping).marshal, PoolEvent.exec 0 {}]

/-- A reboot is dispatched by goroutine 0 and scheduled by goroutine 1. -/
def rebootStep (i : Nat) : Agent.Event :=
  PoolEvent.exec i
    { exec := Agent.ExecOutcome.ok { exitCode := 0, stdout := [], stderr := [] } }

def rebootRun : List Agent.Event :=
  [PoolEvent.start (sentMessage CommandType.reboot).marshal, rebootStep 0, rebootStep 0,
    rebootStep 0, rebootStep 0, rebootStep 1, rebootStep 1, rebootStep 1]

/-- The reboot has been scheduled. -/
def rebootResult : Agent.CmdResult where
  commandId := utf8 command.text
  exitCode := 0
  stdout := []
  stderr := []

/-- The agent has finished with the message of the command. -/
structure Answered (type : CommandType) (es : List Agent.Event)
    (sent : List (Nat × Agent.CmdResult)) (a : Agent.State) : Prop where
  run : (Agent.agent (sentParser type)).run Agent.agentStart es = some a
  received : a.shared.received[0]? = some (sentMessage type).marshal
  sent : a.shared.sent = sent
  done : Pool.pendingCount (Agent.Task.owes 0) a = 0

theorem answered_of_run {type : CommandType} {es : List Agent.Event}
    {sent : List (Nat × Agent.CmdResult)}
    (h : ((Agent.agent (sentParser type)).run Agent.agentStart es).map (fun a =>
      (a.shared.received[0]?, a.shared.sent, Pool.pendingCount (Agent.Task.owes 0) a)) =
        some (some (sentMessage type).marshal, sent, 0)) :
    exists a, Answered type es sent a := by
  rcases Option.map_eq_some_iff.mp h with ⟨a, hrun, heq⟩
  rw [Prod.mk.injEq, Prod.mk.injEq] at heq
  exact ⟨a, hrun, heq.left, heq.right.left, heq.right.right⟩

/-- The connection of the agent reads the message and handles it. -/
structure Served (type : CommandType) (msg : Incoming) (reads : List Event) (p q : State) :
    Prop where
  boot : server.run start (sends type) = some p
  row : sentCommand type ∈ p.shared.db.commands
  idle : p.anyPending (completes (sentCommand type)) = false
  run : server.run p reads = some q
  read : server.Occurs (Reads (sentCommand type) msg) p reads
  handled : q.anyPending (completes (sentCommand type)) = false
  kept : exists r, r ∈ q.shared.db.commands ∧ r.id = (sentCommand type).id

theorem start_keys : CommandKeys start.shared :=
  ⟨List.nodup_nil, fun hr => absurd hr List.not_mem_nil⟩

/-- The message of the result, with the events that handle it. -/
def rebootReport : Incoming :=
  Incoming.cmdResult (some (cmdResultBody rebootResult))

def rebootReads : List Event := [receive 0 rebootReport, go 0]

theorem answers_reboot {a : Agent.State}
    (h : Answered CommandType.reboot rebootRun [(0, rebootResult)] a) :
    resultsFor a.shared 0 = [cmdResultBody rebootResult] ∧
      answers (sentParser CommandType.reboot) a.shared 0 = [rebootReport] := by
  have hresults : resultsFor a.shared 0 = [cmdResultBody rebootResult] := by
    rw [resultsFor, h.sent]
    rfl
  refine ⟨hresults, ?_⟩
  rw [answers, hresults, h.received]
  rfl

end Sample

theorem command_completed_iff_reboot :
    exists a p q,
      Sample.Answered CommandType.reboot Sample.rebootRun [(0, Sample.rebootResult)] a ∧
      Sample.Served CommandType.reboot Sample.rebootReport Sample.rebootReads p q ∧
      Completed (Sample.sentCommand CommandType.reboot) q := by
  obtain ⟨a, hagent⟩ : exists a,
      Sample.Answered CommandType.reboot Sample.rebootRun [(0, Sample.rebootResult)] a :=
    Sample.answered_of_run (by decide +kernel)
  rcases Sample.answers_reboot hagent with ⟨hresults, hanswers⟩
  obtain ⟨p, q, hserver, hmeets⟩ : exists p q,
      Sample.Served CommandType.reboot Sample.rebootReport Sample.rebootReads p q ∧
      server.Meets (fun p e => Pool.guarded
        (onlyResults (Sample.sentCommand CommandType.reboot)
          [cmdResultBody Sample.rebootResult]) p e = true) p Sample.rebootReads :=
    ⟨_, _, ⟨rfl, List.mem_cons_self, rfl, rfl, Or.inl ⟨0, _, 0, _, rfl, rfl, rfl, rfl⟩, rfl,
      ⟨_, List.mem_cons_self, rfl⟩⟩, by decide⟩
  refine ⟨a, p, q, hagent, hserver, ?_⟩
  have hsize : (Sample.sentMessage CommandType.reboot).marshal.length ≤ Agent.maxMsgSize := by
    decide +kernel
  refine (command_completed_iff (Sample.sentParser CommandType.reboot) hagent.run
    (by decide +kernel) hsize (if_pos rfl)
    (hagent.received.trans (rxChunks_zero hsize).symm) hagent.done ?_ _ _ _ _
    Sample.start_keys hserver.boot hserver.row rfl
    (Pool.anyPending_eq_false.mp hserver.idle) hserver.run (hresults ▸ hmeets) ?_
    (Pool.anyPending_eq_false.mp hserver.handled) hserver.kept).mpr (by decide)
  · intro result hresult
    rw [hagent.sent] at hresult
    cases List.mem_singleton.mp hresult
    rfl
  · intro msg hmsg
    rw [hanswers] at hmsg
    cases List.mem_singleton.mp hmsg
    exact hserver.read

/-- The agent answers a PING with a PONG, which is delivered, and the command is still
pending. -/
theorem ping_stays_pending :
    exists a p q, Sample.Answered CommandType.ping Sample.pingRun [] a ∧
      answers (Sample.sentParser CommandType.ping) a.shared 0 = [Incoming.pong] ∧
      Sample.Served CommandType.ping Incoming.pong [Sample.receive 0 Incoming.pong] p q ∧
      ¬ Completed (Sample.sentCommand CommandType.ping) q := by
  obtain ⟨a, hagent⟩ : exists a, Sample.Answered CommandType.ping Sample.pingRun [] a :=
    Sample.answered_of_run (by decide +kernel)
  have hanswers : answers (Sample.sentParser CommandType.ping) a.shared 0 =
      [Incoming.pong] := by
    rw [answers, resultsFor, hagent.sent, hagent.received]
    rfl
  obtain ⟨p, q, hserver, hr⟩ : exists p q,
      Sample.Served CommandType.ping Incoming.pong [Sample.receive 0 Incoming.pong] p q ∧
      Sample.sentCommand CommandType.ping ∈ q.shared.db.commands :=
    ⟨_, _, ⟨rfl, List.mem_cons_self, rfl, rfl, Or.inl ⟨0, _, 0, _, rfl, rfl, rfl, rfl⟩, rfl,
      ⟨_, List.mem_cons_self, rfl⟩⟩, List.mem_cons_self⟩
  refine ⟨a, p, q, hagent, hanswers, hserver, ?_⟩
  intro hcompleted
  have hfinal := (hcompleted _ hr rfl).left
  cases hfinal

end Backend
end LeoOne
