import LeoOne.Backend.CommandTable
import LeoOne.Backend.Connections

/-!
# Results of commands

`handleCmdResult` and `handleFileTransferProgress` update the row that the
message names, within the tenant of the sender.  The sender chooses the
identifier, and neither `WHERE` clause looks at the agent of the command or at
its status.  A message therefore stays with the commands of its sender, and
leaves finished commands alone, when it names a command of the sender that has
not finished.
-/

namespace LeoOne
namespace Backend

open Foundation
open Wire
open Websocket
open RemoteDesktop

/-- The command that a message updates, as its handler selects it. -/
def updates : Instr -> CommandRow -> Bool
  | Instr.sql (Statement.recordResult _ t body), r =>
      Database.isNamed body.commandId t r
  | Instr.sql (Statement.recordProgress _ t body), r =>
      Database.isNamed body.commandId t r
  | _, _ => false

/-- Agent and tenant of the connection whose message the instruction handles. -/
def sender : Instr -> Option (String × String)
  | Instr.sql (Statement.recordResult a t _) => some (a, t)
  | Instr.sql (Statement.recordProgress a t _) => some (a, t)
  | Instr.sql (Statement.markInstallResult a t _ _) => some (a, t)
  | _ => none

/-!
## Finished commands
-/

/-- `success` and `failed`. -/
def CommandStatus.isFinal : CommandStatus -> Bool
  | CommandStatus.success => true
  | CommandStatus.failed => true
  | _ => false

/-- The columns that record what became of a command. -/
structure CommandOutcome where
  status : CommandStatus
  exitCode : Option Int
  stdout : Option String
  stderr : Option String
  completedAt : Option Nat
  progressPercent : Option Int
  deriving DecidableEq

def CommandRow.outcome (r : CommandRow) : CommandOutcome where
  status := r.status
  exitCode := r.exitCode
  stdout := r.stdout
  stderr := r.stderr
  completedAt := r.completedAt
  progressPercent := r.progressPercent

/-- A message whose update takes place does not name a finished command. -/
def namesUnfinished (p : State) (k : Instr) (x : Input) : Bool :=
  x.fails || p.shared.db.commands.all fun r => !(updates k r && r.status.isFinal)

/-- The command has been generated, and its row, if it is still there, has that
final outcome. -/
structure Finished (id : Uuid) (out : CommandOutcome) (p : State) : Prop where
  isFinal : out.status.isFinal = true
  issued : id ∈ p.shared.log.issued
  outcome : forall {r}, r ∈ p.shared.db.commands -> r.id = id -> r.outcome = out

/-- A change of the outcome is a message that names the command. -/
theorem RowChange.outcome {x : Input} {st : Statement} {old r : CommandRow}
    (h : RowChange x st old r) :
    r.outcome = old.outcome ∨ updates (Instr.sql st) old = true := by
  cases h with
  | same =>
      exact Or.inl rfl
  | sent =>
      exact Or.inl rfl
  | result hnamed =>
      exact Or.inr hnamed
  | progress hnamed =>
      exact Or.inr hnamed

theorem Finished.step {id : Uuid} {out : CommandOutcome} {p p' : State}
    {x : Input} {k : Instr} {o : Outcome Server Instr}
    (hinv : Finished id out p) (hguard : namesUnfinished p k x = true)
    (hexec : Executes p p' x k o) : Finished id out p' := by
  have heffect := hexec.effect
  refine ⟨hinv.isFinal, heffect.issued_mono hinv.issued, ?_⟩
  intro r hr hid
  rcases heffect.commands hr with ⟨old, st, hold, hchange, hk⟩ |
    ⟨st, hk, _, hnew, _⟩
  · have hout := hinv.outcome hold (hchange.id_eq ▸ hid)
    rcases hk with ⟨hk, hok⟩ | hsame
    · rcases hchange.outcome with heq | hnames
      · exact heq.trans hout
      · have hfinal : old.status.isFinal = true := by
          have hstatus : old.status = out.status := congrArg CommandOutcome.status hout
          rw [hstatus]
          exact hinv.isFinal
        rw [namesUnfinished, hok, Bool.false_or] at hguard
        have hnot := List.all_eq_true.mp hguard old hold
        simp [hk, hnames, hfinal] at hnot
    · rw [hsame]
      exact hout
  · rw [hid] at hnew
    exact absurd hinv.issued hnew

theorem finished_preserved (id : Uuid) (out : CommandOutcome) :
    server.Preserves (fun p e => Pool.guarded namesUnfinished p e = true)
      (fun p => p.shared.HubSound ∧ Finished id out p) := by
  apply server_preserves
  · intro p p' r hinv hstarts
    refine ⟨hinv.isFinal, ?_, ?_⟩
    · rw [hstarts.shared]
      exact hinv.issued
    · rw [hstarts.shared]
      exact hinv.outcome
  · intro p p' x k o _ hinv hguard hexec
    exact hinv.step hguard hexec

theorem commandKeys_preserved :
    server.Preserves (fun p e => Pool.guarded (fun _ _ _ => true) p e = true)
      (fun p => p.shared.HubSound ∧ CommandKeys p.shared) := by
  apply server_preserves
  · intro p p' r hinv hstarts
    rw [hstarts.shared]
    exact hinv
  · intro p p' x k o _ hinv _ hexec
    exact hinv.step hexec.effect

/-- Rows with one identifier are one row. -/
theorem CommandKeys.unique {s : Server} (h : CommandKeys s) {r r' : CommandRow}
    (hr : r ∈ s.db.commands) (hr' : r' ∈ s.db.commands) (hid : r'.id = r.id) :
    r' = r :=
  List.inj_on_of_nodup_map h.nodup hr' hr hid

/-- In every run in which no message names a finished command, a command that has
finished keeps its outcome: from the state in which its status is final, every
later state has the same values in its row. -/
theorem final_outcome_stable (wsEndpoint : String) (sessionTTL : Nat)
    (db : Database) (issued : List Uuid)
    (hkeys : CommandKeys (boot wsEndpoint sessionTTL db issued).shared)
    {es later : List Event} {p q : State}
    (hrun : server.run (boot wsEndpoint sessionTTL db issued) es = some p)
    (hlater : server.run p later = some q)
    (hmeets : server.Meets (fun p e => Pool.guarded namesUnfinished p e = true)
      p later)
    {r r' : CommandRow} (hr : r ∈ p.shared.db.commands)
    (hfinal : r.status.isFinal = true) (hr' : r' ∈ q.shared.db.commands)
    (hid : r'.id = r.id) : r'.outcome = r.outcome := by
  have hreach := commandKeys_preserved.run ⟨boot_hubSound _ _ _ _, hkeys⟩
    Pool.meets_guarded_true hrun
  have hinit : Finished r.id r.outcome p := by
    refine ⟨hfinal, hreach.right.issued hr, ?_⟩
    intro row hrow hsame
    rw [hreach.right.unique hr hrow hsame]
  have hinv := ((finished_preserved r.id r.outcome).run ⟨hreach.left, hinit⟩
    hmeets hlater).right
  exact hinv.outcome hr' hid

namespace Sample

def otherCommand : Uuid where
  text := "c0000000-0000-4000-8000-000000000002"
  canonical := by decide

/-- The agent reports a result for the command of that id. -/
def result (i : Nat) (id : Uuid) (exitCode : Int) : List Event :=
  [receive i (Incoming.cmdResult (some
      { commandId := id.text, exitCode := exitCode, stdout := "", stderr := "" })),
    go i]

/-- A command is sent and succeeds. -/
def succeeds : List Event :=
  connect 0 ++ order 2 ++ [go 2, go 2, go 2, go 2] ++ result 0 command 0

end Sample

theorem final_outcome_stable_otherResult :
    exists p q r r', server.run Sample.start Sample.succeeds = some p ∧
      server.run p (Sample.result 0 Sample.otherCommand 1) = some q ∧
      r ∈ p.shared.db.commands ∧ r.status = CommandStatus.success ∧
      r' ∈ q.shared.db.commands ∧ r'.outcome = r.outcome := by
  obtain ⟨p, q, r, r', hrun, hlater, hr, hstatus, hr', hid, hmeets⟩ :
      exists p q r r', server.run Sample.start Sample.succeeds = some p ∧
        server.run p (Sample.result 0 Sample.otherCommand 1) = some q ∧
        r ∈ p.shared.db.commands ∧ r.status = CommandStatus.success ∧
        r' ∈ q.shared.db.commands ∧ r'.id = r.id ∧
        server.Meets (fun p e => Pool.guarded namesUnfinished p e = true) p
          (Sample.result 0 Sample.otherCommand 1) :=
    ⟨_, _, _, _, rfl, rfl, List.mem_cons_self, rfl, List.mem_cons_self, rfl,
      by decide⟩
  have hkeys : CommandKeys Sample.start.shared :=
    ⟨List.nodup_nil, fun hr => absurd hr List.not_mem_nil⟩
  refine ⟨p, q, r, r', hrun, hlater, hr, hstatus, hr', ?_⟩
  exact final_outcome_stable _ _ _ _ hkeys hrun hlater hmeets hr
    (by rw [hstatus]; rfl) hr' hid

/-- A second result for the same command turns its success into a failure. -/
theorem second_result_overwrites :
    exists p q r r', server.run Sample.start Sample.succeeds = some p ∧
      server.run p (Sample.result 0 Sample.command 1) = some q ∧
      r ∈ p.shared.db.commands ∧ r.status = CommandStatus.success ∧
      r' ∈ q.shared.db.commands ∧ r'.id = r.id ∧
      r'.status = CommandStatus.failed :=
  ⟨_, _, _, _, rfl, rfl, List.mem_cons_self, rfl, List.mem_cons_self, rfl, rfl⟩

/-!
## Commands of the sender
-/

/-- A message whose update takes place names only commands of its sender: no
command of another agent of the same tenant. -/
def namesOwnCommand (p : State) (k : Instr) (x : Input) : Bool :=
  match sender k with
  | none => true
  | some (a, _) =>
      x.fails ||
        p.shared.db.commands.all fun r => !updates k r || r.agentId.named a

/-- The text is among the patches of an `install_patches` command that was
addressed to the agent. -/
def InstallsPatch (log : History) (a : String) (nativeId : String) : Prop :=
  exists r ids, r ∈ log.commands ∧ r.agentId.named a = true ∧
    r.type = CommandType.installPatches ∧
    patchIds r.payload.value = some ids ∧ nativeId ∈ ids

/-- Both rows are of one command, up to what its handling changes. -/
def SameOrder (r r' : CommandRow) : Prop :=
  r.agentId = r'.agentId ∧ r.type = r'.type ∧ r.payload = r'.payload

theorem RowChange.sameOrder {x : Input} {st : Statement} {old r : CommandRow}
    (h : RowChange x st old r) : SameOrder r old := by
  refine ⟨h.agentId_eq, ?_⟩
  cases h <;> exact ⟨rfl, rfl⟩

/-- The rows go back to commands as they were inserted, pending updates of
patches to commands of the sender, and pending updates to connections. -/
structure OwnerLaw (p : State) : Prop where
  clients : ClientsKnown p
  recorded : forall {r}, r ∈ p.shared.db.commands ->
    exists r0, r0 ∈ p.shared.log.commands ∧ SameOrder r r0
  installing : forall {a t ids ok nativeId},
    p.Pending (Instr.sql (Statement.markInstallResult a t ids ok)) ->
    nativeId ∈ ids -> InstallsPatch p.shared.log a nativeId
  connected : forall {j a t}, p.Pending j -> sender j = some (a, t) ->
    exists c, c < p.shared.nextClient ∧
      (p.shared.hub.heap c).agentId = a ∧ (p.shared.hub.heap c).tenantId = t

theorem InstallsPatch.step {s t : Server} {x : Input} {k : Instr}
    {a nativeId : String} (h : InstallsPatch s.log a nativeId)
    (heffect : Effect s x k t) : InstallsPatch t.log a nativeId := by
  rcases h with ⟨r, ids, hr, howner, htype, hids, hmem⟩
  exact ⟨r, ids, heffect.ordered_mono hr, howner, htype, hids, hmem⟩

/-- A result that names a command of its sender installs the patches of that
command. -/
theorem OwnerLaw.installed {p : State} {x : Input} {a t : String}
    {body : CmdResultBody} {db : Database} {row : CommandRow}
    {ids : List String} (hinv : OwnerLaw p)
    (hok : x.fails = false)
    (hguard : namesOwnCommand p
      (Instr.sql (Statement.recordResult a t body)) x = true)
    (hresult : p.shared.db.recordResult t body x.now = some (db, row))
    (htype : row.type = CommandType.installPatches)
    (hids : patchIds row.payload.value = some ids) {nativeId : String}
    (hmem : nativeId ∈ ids) : InstallsPatch p.shared.log a nativeId := by
  rcases recordResult_some hresult with ⟨hrow, hnamed, _⟩
  simp only [namesOwnCommand, sender, hok, Bool.false_or] at hguard
  have hown := List.all_eq_true.mp hguard row hrow
  simp only [updates, hnamed, Bool.not_true, Bool.false_or] at hown
  rcases hinv.recorded hrow with ⟨r0, hr0, hagent, htype0, hpayload⟩
  rw [hagent] at hown
  exact ⟨r0, ids, hr0, hown, htype0 ▸ htype, hpayload ▸ hids, hmem⟩

theorem OwnerLaw.start {p p' : State} {r : Request} (hinv : OwnerLaw p)
    (hstarts : Starts p p' r) : OwnerLaw p' := by
  refine ⟨hinv.clients.start hstarts, ?_, ?_, ?_⟩
  · rw [hstarts.shared]
    exact hinv.recorded
  · intro a t ids ok nativeId hj hmem
    rw [hstarts.shared]
    rcases hstarts.pending hj with henters | hold
    · cases henters
    · exact hinv.installing hold hmem
  · intro j a t hj hsender
    rw [hstarts.shared]
    rcases hstarts.pending hj with henters | hold
    · cases henters <;> cases hsender
    · exact hinv.connected hold hsender

/-- The instructions that handle a message come from the `ReadPump` of the
sender, directly or through the handling of a result. -/
theorem reader_of_leads {s : Server} {x : Input} {k j : Instr} {a t : String}
    (hleads : Leads s x k j) (hj : sender j = some (a, t)) :
    (exists c, k = Instr.conn (ConnCall.readPump c) ∧
      (s.hub.heap c).agentId = a ∧ (s.hub.heap c).tenantId = t) ∨
    sender k = some (a, t) := by
  cases hleads with
  | installResult _ _ _ _ =>
      exact Or.inr hj
  | read hmsg hhandles =>
      left
      refine ⟨_, rfl, ?_⟩
      cases hhandles with
      | cmdResult =>
          cases hj
          exact ⟨rfl, rfl⟩
      | progress =>
          cases hj
          exact ⟨rfl, rfl⟩
      | _ =>
          cases hj
  | _ =>
      cases hj

theorem OwnerLaw.step {p p' : State} {x : Input} {k : Instr}
    {o : Outcome Server Instr} (hs : p.shared.HubSound) (hinv : OwnerLaw p)
    (hguard : namesOwnCommand p k x = true) (hexec : Executes p p' x k o) :
    OwnerLaw p' := by
  have heffect := hexec.effect
  have hkeep : forall {c a t}, c < p.shared.nextClient ->
      (p.shared.hub.heap c).agentId = a -> (p.shared.hub.heap c).tenantId = t ->
      exists c, c < p'.shared.nextClient ∧
        (p'.shared.hub.heap c).agentId = a ∧
        (p'.shared.hub.heap c).tenantId = t := by
    intro c a t hc hagent htenant
    rcases heffect.identity hc with ⟨hagent', htenant'⟩
    exact ⟨c, Nat.lt_of_lt_of_le hc heffect.nextClient_mono,
      hagent'.trans hagent, htenant'.trans htenant⟩
  refine ⟨hinv.clients.step hs hexec, ?_, ?_, ?_⟩
  · intro r hr
    rcases heffect.commands hr with ⟨old, st, hold, hchange, _⟩ |
      ⟨st, _, _, _, hlogged⟩
    · rcases hinv.recorded hold with ⟨r0, hr0, hagent, htype, hpayload⟩
      rcases hchange.sameOrder with ⟨hagent', htype', hpayload'⟩
      exact ⟨r0, heffect.ordered_mono hr0, hagent'.trans hagent,
        htype'.trans htype, hpayload'.trans hpayload⟩
    · exact ⟨r, hlogged, rfl, rfl, rfl⟩
  · intro a t ids ok nativeId hj hmem
    rcases hexec.pending hj with hleads | hold
    · generalize heq : Instr.sql (Statement.markInstallResult a t ids ok) = j at hleads
      cases hleads with
      | installResult hok hresult htype hids =>
          cases heq
          exact (hinv.installed hok hguard hresult htype hids hmem).step heffect
      | read hmsg hhandles =>
          subst heq
          cases hhandles
      | _ =>
          cases heq
    · exact (hinv.installing hold hmem).step heffect
  · intro j a t hj hsender
    rcases hexec.pending hj with hleads | hold
    · rcases reader_of_leads hleads hsender with ⟨c, rfl, hagent, htenant⟩ | hsender'
      · exact hkeep (hinv.clients.known hexec.running rfl) hagent htenant
      · rcases hinv.connected hexec.running hsender' with ⟨c, hc, hagent, htenant⟩
        exact hkeep hc hagent htenant
    · rcases hinv.connected hold hsender with ⟨c, hc, hagent, htenant⟩
      exact hkeep hc hagent htenant

theorem ownerLaw_preserved :
    server.Preserves (fun p e => Pool.guarded namesOwnCommand p e = true)
      (fun p => p.shared.HubSound ∧ OwnerLaw p) := by
  apply server_preserves
  · intro p p' r hinv hstarts
    exact hinv.start hstarts
  · intro p p' x k o hs hinv hguard hexec
    exact hinv.step hs hguard hexec

theorem ownerLaw_boot (wsEndpoint : String) (sessionTTL : Nat) (db : Database)
    (issued : List Uuid) : OwnerLaw (boot wsEndpoint sessionTTL db issued) :=
  ⟨clientsKnown_boot _ _ _ _, fun hr => ⟨_, hr, rfl, rfl, rfl⟩,
    fun hj _ => absurd hj boot_pending, fun hj _ => absurd hj boot_pending⟩

theorem sender_generatesId {st : Statement} {a tenant : String}
    (h : sender (Instr.sql st) = some (a, tenant)) : st.generatesId = false := by
  cases st <;> first | rfl | cases h

/-- What the handling of a message changes in the commands is the row that the
message names. -/
theorem changed_commands {s t : Server} {x : Input} {k : Instr} {a tenant : String}
    (heffect : Effect s x k t) (hsender : sender k = some (a, tenant))
    {r : CommandRow} (h : Table.Changed s.db.commands t.db.commands r) :
    exists old, old ∈ s.db.commands ∧ updates k old = true ∧ x.fails = false ∧
      r.agentId = old.agentId := by
  cases heffect with
  | failed _ =>
      exact absurd h Table.not_changed
  | statement hok hgen =>
      rename_i st
      cases st with
      | recordResult b u body =>
          simp only [Server.update, Statement.exec] at h
          split at h
          · exact absurd h Table.not_changed
          · rename_i db' row hresult
            rcases recordResult_some hresult with ⟨_, _, rfl⟩
            rcases Table.changed_updateWhere h with ⟨old, hold, hnamed, rfl | rfl⟩
            · exact ⟨_, hold, hnamed, hok, rfl⟩
            · exact ⟨_, hold, hnamed, hok, rfl⟩
      | recordProgress b u body =>
          simp only [Server.update, Statement.exec, Database.recordProgress] at h
          split at h
          · rcases Table.changed_updateWhere h with ⟨old, hold, hnamed, rfl | rfl⟩
            · exact ⟨_, hold, hnamed, hok, rfl⟩
            · exact ⟨_, hold, hnamed, hok, rfl⟩
          · exact absurd h Table.not_changed
      | markInstallResult b u ids ok =>
          have hsame := (exec_frames (Statement.markInstallResult b u ids ok)
            s.sessionTTL x s.db).commands rfl
          simp only [Server.update, hsame] at h
          exact absurd h Table.not_changed
      | _ =>
          cases hsender
  | insertion hok hgen hid hnew =>
      rename_i st id
      rw [sender_generatesId hsender] at hgen
      cases hgen
  | _ =>
      exact absurd h Table.not_changed

/-- What it changes in the patches are rows of its sender. -/
theorem changed_patches {s t : Server} {x : Input} {k : Instr} {a tenant : String}
    (heffect : Effect s x k t) (hsender : sender k = some (a, tenant))
    {r : PatchRow} (h : Table.Changed s.db.patches t.db.patches r) :
    exists ids ok, k = Instr.sql (Statement.markInstallResult a tenant ids ok) ∧
      r.agentId.named a = true ∧ r.nativeId ∈ ids := by
  cases heffect with
  | failed _ =>
      exact absurd h Table.not_changed
  | statement hok hgen =>
      rename_i st
      cases st with
      | recordResult b u body =>
          have hsame := (exec_frames (Statement.recordResult b u body)
            s.sessionTTL x s.db).patches rfl
          simp only [Server.update, hsame] at h
          exact absurd h Table.not_changed
      | recordProgress b u body =>
          have hsame := (exec_frames (Statement.recordProgress b u body)
            s.sessionTTL x s.db).patches rfl
          simp only [Server.update, hsame] at h
          exact absurd h Table.not_changed
      | markInstallResult b u ids ok =>
          cases hsender
          refine ⟨ids, ok, rfl, ?_⟩
          simp only [Server.update, Statement.exec, Database.markInstallResult] at h
          split at h
          · exact absurd h Table.not_changed
          · rcases Table.changed_updateWhere h with ⟨old, _, hselected, heq⟩
            simp only [Bool.and_eq_true, List.contains_eq_mem,
              decide_eq_true_eq] at hselected
            have hkeys : r.agentId = old.agentId ∧ r.nativeId = old.nativeId := by
              rcases heq with rfl | rfl
              · exact ⟨rfl, rfl⟩
              · split <;> exact ⟨rfl, rfl⟩
            rw [hkeys.left, hkeys.right]
            exact ⟨hselected.left.right, hselected.right⟩
      | _ =>
          cases hsender
  | insertion hok hgen hid hnew =>
      rename_i st id
      rw [sender_generatesId hsender] at hgen
      cases hgen
  | _ =>
      exact absurd h Table.not_changed

/-- In every run in which the messages name only commands of their senders, the
handling of a message that came on a connection of agent `a` changes only
commands of `a`, and only patches of `a` that an `install_patches` command of `a`
lists. -/
theorem results_confined_to_sender (wsEndpoint : String) (sessionTTL : Nat)
    (db : Database) (issued : List Uuid) {es : List Event} {i : Nat} {x : Input}
    {p p' : State} {k : Instr} {rest : List Instr} {a tenant : String}
    (hrun : server.run (boot wsEndpoint sessionTTL db issued) es = some p)
    (hstep : server.step p (PoolEvent.exec i x) = some p')
    (hhead : p.head? i = some (k, rest)) (hsender : sender k = some (a, tenant))
    (hmeets : server.Meets (fun p e => Pool.guarded namesOwnCommand p e = true)
      (boot wsEndpoint sessionTTL db issued) (es ++ [PoolEvent.exec i x])) :
    (exists c, c < p.shared.nextClient ∧ (p.shared.hub.heap c).agentId = a ∧
      (p.shared.hub.heap c).tenantId = tenant) ∧
    (forall r, Table.Changed p.shared.db.commands p'.shared.db.commands r ->
      r.agentId.named a = true) ∧
    (forall r, Table.Changed p.shared.db.patches p'.shared.db.patches r ->
      r.agentId.named a = true ∧ InstallsPatch p.shared.log a r.nativeId) := by
  rcases ownerLaw_preserved.run ⟨boot_hubSound _ _ _ _, ownerLaw_boot _ _ _ _⟩
    hmeets.append_left hrun with ⟨hs, hinv⟩
  have hguard := Pool.guarded_exec (hmeets.append_right hrun).left hhead
  have hpending := Pool.pending_of_head? hhead
  have heffect : Effect p.shared x k p'.shared := by
    rcases Pool.step_cases hstep with ⟨r, he, _⟩ |
      ⟨j, y, k', rest', o, he, hhead', hperform, rfl⟩
    · cases he
    · cases he
      rw [hhead] at hhead'
      cases hhead'
      exact (effect_of_perform hs hperform).right
  refine ⟨hinv.connected hpending hsender, ?_, ?_⟩
  · intro r hr
    rcases changed_commands heffect hsender hr with ⟨old, hold, hnames, hok, hagent⟩
    rw [namesOwnCommand, hsender] at hguard
    simp only [hok, Bool.false_or] at hguard
    have hown := List.all_eq_true.mp hguard old hold
    rw [hnames, Bool.not_true, Bool.false_or] at hown
    rw [hagent]
    exact hown
  · intro r hr
    rcases changed_patches heffect hsender hr with ⟨ids, ok, rfl, hagent, hmem⟩
    exact ⟨hagent, hinv.installing hpending hmem⟩

namespace Sample

def otherAgent : Uuid where
  text := "a0000000-0000-4000-8000-000000000002"
  canonical := by decide

def otherCert : Certificate := issueAgentCert otherAgent tenant 2

/-- Two agents of one tenant. -/
def fleet : State :=
  boot "wss://leo/ws/remote-desktop" 60
    { database with
      agents := database.agents ++
        [{ id := otherAgent
           tenantId := tenant
           status := AgentStatus.offline
           lastSeenAt := none
           updatedAt := 0 }]
      certificates := database.certificates ++
        [{ agentId := otherAgent
           thumbprint := otherCert
           revokedAt := none
           revokeReason := none }] }
    [tenant, agent, otherAgent]

/-- The first agent gets a command, and an agent connects with that certificate
and reports its success. -/
def reportBy (cert : Certificate) : List Event :=
  order 0 ++ [go 0, PoolEvent.start (Request.connect cert), go 1, go 1, go 1,
    receive 1 (Incoming.cmdResult (some
      { commandId := command.text, exitCode := 0, stdout := "", stderr := "" }))]

end Sample

theorem results_confined_to_sender_ownReport :
    exists p p' k rest, server.run Sample.fleet (Sample.reportBy Sample.cert) = some p ∧
      server.step p (Sample.go 1) = some p' ∧ p.head? 1 = some (k, rest) ∧
      sender k = some (Sample.agent.text, Sample.tenant.text) ∧
      forall r, Table.Changed p.shared.db.commands p'.shared.db.commands r ->
        r.agentId.named Sample.agent.text = true := by
  obtain ⟨p, p', k, rest, hrun, hstep, hhead, hsender⟩ : exists p p' k rest,
      server.run Sample.fleet (Sample.reportBy Sample.cert) = some p ∧
        server.step p (Sample.go 1) = some p' ∧ p.head? 1 = some (k, rest) ∧
        sender k = some (Sample.agent.text, Sample.tenant.text) :=
    ⟨_, _, _, _, rfl, rfl, rfl, rfl⟩
  refine ⟨p, p', k, rest, hrun, hstep, hhead, hsender, ?_⟩
  exact (results_confined_to_sender _ _ _ _ hrun hstep hhead hsender
    (by decide)).right.left

/-- An agent reports the success of a command of another agent of its tenant, and
the row of that command changes. -/
theorem foreign_report_changes_command :
    exists p p' k rest r,
      server.run Sample.fleet (Sample.reportBy Sample.otherCert) = some p ∧
      server.step p (Sample.go 1) = some p' ∧ p.head? 1 = some (k, rest) ∧
      sender k = some (Sample.otherAgent.text, Sample.tenant.text) ∧
      Table.Changed p.shared.db.commands p'.shared.db.commands r ∧
      r.agentId.named Sample.otherAgent.text = false := by
  refine ⟨_, _, _, _, _, rfl, rfl, rfl, rfl,
    Or.inl ⟨List.mem_cons_self, ?_⟩, by decide⟩
  intro hsame
  have hstatus := congrArg CommandRow.status (List.mem_singleton.mp hsame)
  cases hstatus

end Backend
end LeoOne
