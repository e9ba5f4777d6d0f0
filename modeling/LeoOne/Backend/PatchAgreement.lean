import LeoOne.Agent.Patches
import LeoOne.Backend.AgentMessages
import LeoOne.Backend.Statements

/-!
# Patches on both sides

`handleCmdResult` marks every patch of the stored payload as installed.  The agent has
64 slots of 160 bytes for the ids of a message, and on Windows it installs what a search
finds for them.  A marked patch has therefore gone to the installer when its id is in
one of the slots and the platform has it.
-/

namespace LeoOne
namespace Backend

open Foundation
open Wire

/-- `json.Marshal` of the map that `Install` makes, and `BulkInstall` for each agent;
`none` is an empty list, for which no command is created. -/
def installPatchesPayload (patchIds : List String) (rebootAfter : Bool) :
    Option RawMessage :=
  if patchIds.length = 0 then none
  else
    some
      { text := utf8 "\x7b\"patch_ids\":[" ++
          List.intercalate (utf8 ",") (patchIds.map quote) ++
          utf8 "],\"reboot_after\":" ++ utf8 (toString rebootAfter) ++ utf8 "\x7d"
        value := Json.obj
          [("patch_ids", Json.arr (patchIds.map Json.str)),
            ("reboot_after", Json.bool rebootAfter)] }

/-- The ids as the agent holds them: the first ones, each cut to its slot. -/
def patchSlots (ids : List String) : List (List UInt8) :=
  (ids.take Agent.patchInstallMaxCount).map fun id =>
    Agent.strncpy (Agent.cString id) Agent.patchIdMaxLen

theorem installPatchesPayload_value {ids : List String} {rebootAfter : Bool}
    {payload : RawMessage} (h : installPatchesPayload ids rebootAfter = some payload) :
    payload.value = Json.obj
      [("patch_ids", Json.arr (ids.map Json.str)),
        ("reboot_after", Json.bool rebootAfter)] := by
  unfold installPatchesPayload at h
  split at h
  · cases h
  · cases h
    rfl

/-!
## The backend
-/

theorem mapM_asString? (ids : List String) :
    (ids.map Json.str).mapM Json.asString? = some ids := by
  induction ids with
  | nil =>
      rfl
  | cons id ids ih =>
      simp [List.mapM_cons, ih, Json.asString?]

/-- The backend reads the list back from the payload it has stored. -/
theorem patchIds_payload {ids : List String} {rebootAfter : Bool} {payload : RawMessage}
    (h : installPatchesPayload ids rebootAfter = some payload) :
    patchIds payload.value = some ids := by
  rw [installPatchesPayload_value h]
  have hids : ("patch_ids".toList.map foldChar) = "patch_ids".toList := by
    decide
  have hreboot : ("reboot_after".toList.map foldChar) ≠ "patch_ids".toList := by
    decide
  simp only [patchIds, List.foldl_cons, List.foldl_nil, if_pos hids, if_neg hreboot,
    Option.bind_some, Json.asStrings?]
  exact mapM_asString? ids

/-- `MarkInstallResult` changes only patches that it is given. -/
theorem mem_of_marked {db : Database} {tenantId agentId : String} {ids : List String}
    {success : Bool} {now : Nat} {r : PatchRow}
    (h : Table.Changed db.patches
      (db.markInstallResult tenantId agentId ids success now).patches r) :
    r.nativeId ∈ ids := by
  unfold Database.markInstallResult at h
  simp only at h
  split at h
  · exact absurd h Table.not_changed
  · rcases Table.changed_updateWhere h with ⟨old, _, hselected, hr⟩
    simp only [Bool.and_eq_true, List.contains_iff_mem] at hselected
    rcases hr with rfl | rfl
    · exact hselected.right
    · cases success <;> exact hselected.right

/-!
## The agent
-/

theorem stringItems_str (ids : List String) :
    Agent.stringItems (ids.map Json.str) = ids.map Agent.cString := by
  simp [Agent.stringItems, List.filterMap_map]

theorem strncpy_strncpy (s : List UInt8) (size : Nat) :
    Agent.strncpy (Agent.strncpy s size) size = Agent.strncpy s size := by
  simp [Agent.strncpy, List.take_take]

theorem patchNames_payload {ids : List String} {rebootAfter : Bool} {payload : RawMessage}
    (h : installPatchesPayload ids rebootAfter = some payload) :
    Agent.patchNames (some payload.value) = patchSlots ids := by
  rw [installPatchesPayload_value h]
  show ((Agent.stringItems (ids.map Json.str)).take Agent.patchInstallMaxCount).map _ = _
  rw [stringItems_str, ← List.map_take, List.map_map]
  rfl

theorem patchSlots_length (ids : List String) :
    (patchSlots ids).length ≤ Agent.patchInstallMaxCount := by
  rw [patchSlots, List.length_map]
  exact List.length_take_le _ _

/-- The agent either refuses the message or executes it on the slots. -/
theorem dispatchInstallPatches_payload {ids : List String} {rebootAfter : Bool}
    {payload : RawMessage} (h : installPatchesPayload ids rebootAfter = some payload) :
    (exists message, Agent.dispatchInstallPatches (some payload.value) =
      Except.error message) ∨
    (exists timeoutSecs, Agent.dispatchInstallPatches (some payload.value) =
      Except.ok (Agent.Order.installPatches (patchSlots ids) rebootAfter timeoutSecs)) := by
  have hcut : (patchSlots ids).map (fun id => Agent.strncpy id Agent.patchIdMaxLen) =
      patchSlots ids := by
    rw [patchSlots, List.map_map]
    apply List.map_congr_left
    intro id _
    exact strncpy_strncpy _ _
  have hreboot : payload.value.getObjectItem "reboot_after" =
      some (Json.bool rebootAfter) := by
    rw [installPatchesPayload_value h]
    rfl
  unfold Agent.dispatchInstallPatches
  simp only [patchNames_payload h, Option.bind_some, hreboot, hcut]
  split
  · exact Or.inl ⟨_, rfl⟩
  · split
    · exact Or.inl ⟨_, rfl⟩
    · exact Or.inr ⟨_, rfl⟩

/-!
## The agreement
-/

/-- The agent executes the message of a command on the slots, if at all. -/
theorem orderOf_payload {cJSONParse : List UInt8 -> Option Json} {s : Agent.AgentState}
    {ticket : Nat} {ids : List String} {rebootAfter : Bool} {row : CommandRow} {ts : Nat}
    {order : Agent.Order} (htype : row.type = CommandType.installPatches)
    (hpayload : installPatchesPayload ids rebootAfter = some row.payload)
    (hreceived : s.received[ticket]? =
      some (commandMessage row.id row.type row.payload ts).marshal)
    (hparse : cJSONParse (commandMessage row.id row.type row.payload ts).marshal =
      some (commandMessage row.id row.type row.payload ts).tree)
    (horder : Agent.orderOf cJSONParse s ticket = some order) :
    exists timeoutSecs,
      order = Agent.Order.installPatches (patchSlots ids) rebootAfter timeoutSecs := by
  have hdispatch : Agent.dispatch
      (Agent.dispatchedOf (commandMessage row.id row.type row.payload ts)) =
      some (Agent.dispatchInstallPatches (some row.payload.value)) := by
    rw [htype]
    rfl
  unfold Agent.orderOf at horder
  simp only [hreceived, Agent.onMessage_of_parse hparse, hdispatch] at horder
  rcases dispatchInstallPatches_payload hpayload with ⟨message, herror⟩ | ⟨timeoutSecs, hok⟩
  · rw [herror] at horder
    cases horder
  · rw [hok] at horder
    cases horder
    exact ⟨timeoutSecs, rfl⟩

/-- The row of a command is the one that its result names. -/
theorem recordResult_row {db db' : Database} {tenantId : String} {body : CmdResultBody}
    {now : Nat} {row row' : CommandRow} (hkeys : (db.commands.map CommandRow.id).Nodup)
    (hrow : row ∈ db.commands) (hid : body.commandId = row.id.text)
    (h : db.recordResult tenantId body now = some (db', row')) : row' = row := by
  rcases recordResult_some h with ⟨hmem, hnamed, _⟩
  rw [Database.isNamed, Bool.and_eq_true, hid] at hnamed
  exact List.inj_on_of_nodup_map hkeys hmem hrow (Uuid.named_text.mp hnamed.left).symm

/-- The agent hands the ids in its slots to the installer, as far as the platform has
them. -/
theorem passed_iff_slots {cJSONParse : List UInt8 -> Option Json} {host : Agent.PatchHost}
    {es : List Agent.Event} {q : Agent.State} {ticket : Nat}
    (hrun : (Agent.agent cJSONParse).run Agent.agentStart es = some q)
    (hhost : (Agent.agent cJSONParse).Meets
      (fun p e => Pool.guarded (Agent.installsOn host ticket) p e = true)
      Agent.agentStart es)
    {ids : List String} {rebootAfter : Bool} {row : CommandRow} {ts : Nat}
    (htype : row.type = CommandType.installPatches)
    (hpayload : installPatchesPayload ids rebootAfter = some row.payload)
    (hreceived : q.shared.received[ticket]? =
      some (commandMessage row.id row.type row.payload ts).marshal)
    (hparse : cJSONParse (commandMessage row.id row.type row.payload ts).marshal =
      some (commandMessage row.id row.type row.payload ts).tree)
    {result : Agent.CmdResult} (hsent : (ticket, result) ∈ q.shared.sent)
    (hexit : result.exitCode = 0) (id : List UInt8) :
    Agent.PassedToInstaller host q.shared ticket id <->
      id ∈ patchSlots ids ∧ host.finds id = true := by
  rcases Agent.passedToInstaller_iff hrun hhost hsent hexit with ⟨order, horder, hpassed⟩
  rcases orderOf_payload htype hpayload hreceived hparse horder with ⟨timeoutSecs, heq⟩
  exact hpassed (patchSlots ids) rebootAfter timeoutSecs heq (patchSlots_length ids) id

/-- The result of a command with exit code 0 marks the ids of its payload as installed. -/
theorem marks_payload {ids : List String} {rebootAfter : Bool} {row : CommandRow}
    (hpayload : installPatchesPayload ids rebootAfter = some row.payload)
    {result : Agent.CmdResult} (hexit : result.exitCode = 0)
    (hid : result.commandId = utf8 row.id.text) {db : Database}
    (hkeys : (db.commands.map CommandRow.id).Nodup) (hrow : row ∈ db.commands) {ttl : Nat}
    {x : Input} {agentId tenantId : String} {marked : List String} {success : Bool}
    (hmark : Instr.sql (Statement.markInstallResult agentId tenantId marked success) ∈
      ((Statement.recordResult agentId tenantId (cmdResultBody result)).exec ttl x db).2) :
    marked = ids ∧ success = true := by
  simp only [Statement.exec] at hmark
  split at hmark
  · cases hmark
  · rename_i db' row' hrecord
    cases recordResult_row hkeys hrow (cmdResultBody_commandId hid) hrecord
    unfold afterResult at hmark
    rw [patchIds_payload hpayload] at hmark
    split at hmark
    · cases List.mem_singleton.mp hmark
      exact ⟨rfl, decide_eq_true hexit⟩
    · cases hmark

/-- In every run of the agent, on every platform, for every list of ids that the two
handlers accept: when the CMD_RESULT with exit code 0 of the command reaches the
backend, the patches that are then marked are patches of that list, and such a patch has
gone to the installer for the command if and only if its id is in one of the slots of
the agent, which hold the first 64 ids cut to 159 bytes, and the platform has it.  The
rows are marked in a database that other statements may have changed in between. -/
theorem marked_patch_passed_iff (cJSONParse : List UInt8 -> Option Json)
    (host : Agent.PatchHost) {es : List Agent.Event} {q : Agent.State} {ticket : Nat}
    (hrun : (Agent.agent cJSONParse).run Agent.agentStart es = some q)
    (hhost : (Agent.agent cJSONParse).Meets
      (fun p e => Pool.guarded (Agent.installsOn host ticket) p e = true)
      Agent.agentStart es)
    {ids : List String} {rebootAfter : Bool} {row : CommandRow} {ts : Nat}
    (htype : row.type = CommandType.installPatches)
    (hpayload : installPatchesPayload ids rebootAfter = some row.payload)
    (hreceived : q.shared.received[ticket]? =
      some (commandMessage row.id row.type row.payload ts).marshal)
    (hparse : cJSONParse (commandMessage row.id row.type row.payload ts).marshal =
      some (commandMessage row.id row.type row.payload ts).tree)
    {result : Agent.CmdResult} (hsent : (ticket, result) ∈ q.shared.sent)
    (hexit : result.exitCode = 0) (hid : result.commandId = utf8 row.id.text)
    {db later : Database} (hkeys : (db.commands.map CommandRow.id).Nodup)
    (hrow : row ∈ db.commands) {ttl now : Nat} {x : Input} {agentId tenantId : String}
    {marked : List String} {success : Bool}
    (hmark : Instr.sql (Statement.markInstallResult agentId tenantId marked success) ∈
      ((Statement.recordResult agentId tenantId (cmdResultBody result)).exec ttl x db).2)
    {r : PatchRow}
    (hchanged : Table.Changed later.patches
      (later.markInstallResult tenantId agentId marked success now).patches r) :
    r.nativeId ∈ ids ∧ success = true ∧
      (Agent.PassedToInstaller host q.shared ticket (utf8 r.nativeId) <->
        utf8 r.nativeId ∈ patchSlots ids ∧ host.finds (utf8 r.nativeId) = true) := by
  rcases marks_payload hpayload hexit hid hkeys hrow hmark with ⟨rfl, hsuccess⟩
  refine ⟨mem_of_marked hchanged, hsuccess, ?_⟩
  exact passed_iff_slots hrun hhost htype hpayload hreceived hparse hsent hexit _

namespace Sample

def noPayload : RawMessage :=
  { text := [], value := Json.null }

/-- The command that installs these patches on the agent. -/
def installCommand (ids : List String) : CommandRow :=
  Database.newCommand command tenant agent none none CommandType.installPatches
    ((installPatchesPayload ids false).getD noPayload) 0

def installMessage (ids : List String) : Envelope :=
  commandMessage (installCommand ids).id (installCommand ids).type
    (installCommand ids).payload 0

/-- The parser, on the text of that message. -/
def installParser (ids : List String) (text : List UInt8) : Option Json :=
  if text = (installMessage ids).marshal then some (installMessage ids).tree else none

/-- Both commands of `apt-get` succeed. -/
def aptHost : Agent.PatchHost :=
  Agent.PatchHost.apt (Agent.ExecOutcome.ok { exitCode := 0, stdout := [], stderr := [] })
    (Agent.ExecOutcome.ok { exitCode := 0, stdout := [], stderr := [] })

def installStep (i : Nat) : Agent.Event :=
  PoolEvent.exec i
    { exec := Agent.ExecOutcome.ok { exitCode := 0, stdout := [], stderr := [] } }

/-- The message is dispatched by goroutine 0 and executed by goroutine 1. -/
def installRun (ids : List String) : List Agent.Event :=
  [PoolEvent.start (installMessage ids).marshal, installStep 0, installStep 0,
    installStep 0, installStep 0, installStep 1, installStep 1]

/-- A patch of the agent, before and after its installation. -/
def knownPatch (id : String) : PatchRow where
  tenantId := tenant
  agentId := agent
  nativeId := id
  title := id
  severity := PatchSeverity.important
  sizeBytes := 0
  status := PatchStatus.available
  detectedAt := 0
  installedAt := none

def installedPatch (id : String) : PatchRow :=
  { knownPatch id with status := PatchStatus.installed, installedAt := some 1 }

/-- The patch is known as available, and the command has been created. -/
def patched (ids : List String) (id : String) : Database :=
  { database with commands := [installCommand ids], patches := [knownPatch id] }

def installedResult : Agent.CmdResult where
  commandId := utf8 command.text
  exitCode := 0
  stdout := []
  stderr := []

def twoIds : List String := ["p0", "p1"]

/-- The 65 ids from `p0` to `p64`. -/
def manyIds : List String :=
  (List.range 65).map fun n => String.ofList ('p' :: Nat.toDigits 10 n)

/-- The agent answers the command with exit code 0. -/
def Installs (ids : List String) (q : Agent.State) : Prop :=
  (Agent.agent (installParser ids)).run Agent.agentStart (installRun ids) = some q ∧
    q.shared.received[0]? = some (installMessage ids).marshal ∧
    (0, installedResult) ∈ q.shared.sent

theorem installs_of_run {ids : List String}
    (h : ((Agent.agent (installParser ids)).run Agent.agentStart (installRun ids)).map
      (fun q => (q.shared.received[0]?, q.shared.sent)) =
        some (some (installMessage ids).marshal, [(0, installedResult)])) :
    exists q, Installs ids q := by
  rcases Option.map_eq_some_iff.mp h with ⟨q, hrun, heq⟩
  rw [Prod.mk.injEq] at heq
  exact ⟨q, hrun, heq.left, heq.right ▸ List.mem_cons_self⟩

/-- The result of the command marks the patch. -/
def Marks (ids : List String) (id : String) : Prop :=
  Instr.sql (Statement.markInstallResult agent.text tenant.text ids true) ∈
      ((Statement.recordResult agent.text tenant.text (cmdResultBody installedResult)).exec
        60 {} (patched ids id)).2 ∧
    Table.Changed (patched ids id).patches
      ((patched ids id).markInstallResult tenant.text agent.text ids true 1).patches
      (installedPatch id)

end Sample

theorem marked_patch_passed_iff_two :
    exists q, Sample.Installs Sample.twoIds q ∧ Sample.Marks Sample.twoIds "p1" ∧
      Agent.PassedToInstaller Sample.aptHost q.shared 0 (utf8 "p1") := by
  rcases Sample.installs_of_run (show _ = some (some (Sample.installMessage
    Sample.twoIds).marshal, [(0, Sample.installedResult)]) by decide +kernel) with
    ⟨q, hrun, hreceived, hsent⟩
  have hmarks : Sample.Marks Sample.twoIds "p1" :=
    ⟨List.mem_singleton.mpr rfl, Or.inr ⟨by decide +kernel, by decide +kernel⟩⟩
  have hpayload : installPatchesPayload Sample.twoIds false =
      some (Sample.installCommand Sample.twoIds).payload := rfl
  have hhost : (Agent.agent (Sample.installParser Sample.twoIds)).Meets
      (fun p e => Pool.guarded (Agent.installsOn Sample.aptHost 0) p e = true)
      Agent.agentStart (Sample.installRun Sample.twoIds) := by
    decide +kernel
  have hlaw := marked_patch_passed_iff (Sample.installParser Sample.twoIds) Sample.aptHost
    hrun hhost rfl hpayload hreceived (if_pos rfl) hsent rfl rfl
    (show ((Sample.patched Sample.twoIds "p1").commands.map CommandRow.id).Nodup from
      List.nodup_singleton _)
    List.mem_cons_self hmarks.left hmarks.right
  refine ⟨q, ⟨hrun, hreceived, hsent⟩, hmarks, hlaw.right.right.mpr ?_⟩
  decide +kernel

/-- The last of 65 patches is marked as installed, and the agent has not asked for it. -/
theorem patch_marked_not_installed :
    exists q, Sample.Installs Sample.manyIds q ∧ Sample.Marks Sample.manyIds "p64" ∧
      (Sample.installedPatch "p64").status = PatchStatus.installed ∧
      ¬ Agent.PassedToInstaller Sample.aptHost q.shared 0 (utf8 "p64") := by
  rcases Sample.installs_of_run (show _ = some (some (Sample.installMessage
    Sample.manyIds).marshal, [(0, Sample.installedResult)]) by decide +kernel) with
    ⟨q, hrun, hreceived, hsent⟩
  have hmarks : Sample.Marks Sample.manyIds "p64" := by
    refine ⟨List.mem_singleton.mpr ?_, Or.inr ⟨by decide +kernel, by decide +kernel⟩⟩
    rfl
  have hpayload : installPatchesPayload Sample.manyIds false =
      some (Sample.installCommand Sample.manyIds).payload := rfl
  have hhost : (Agent.agent (Sample.installParser Sample.manyIds)).Meets
      (fun p e => Pool.guarded (Agent.installsOn Sample.aptHost 0) p e = true)
      Agent.agentStart (Sample.installRun Sample.manyIds) := by
    decide +kernel
  refine ⟨q, ⟨hrun, hreceived, hsent⟩, hmarks, rfl, ?_⟩
  intro hpassed
  have hslot := ((passed_iff_slots hrun hhost rfl hpayload hreceived (if_pos rfl) hsent
    rfl _).mp hpassed).left
  exact absurd hslot (by decide +kernel)

end Backend
end LeoOne
