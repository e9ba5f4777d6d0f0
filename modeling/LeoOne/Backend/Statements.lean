import LeoOne.Backend.Steps

/-!
# Database statements

Which tables a statement may change, and what the statements that may fail do
when they succeed.  The modules on the single tables only look at the statements
that write them.
-/

namespace LeoOne
namespace Backend

open Foundation
open Wire
open Websocket
open RemoteDesktop

theorem insertCommand_some {db db' : Database} {id : Uuid}
    {tenantId agentId : String} {createdBy scheduleId : Option String}
    {type : CommandType} {payload : RawMessage} {now : Nat}
    (h : db.insertCommand id tenantId agentId createdBy scheduleId type payload
      now = some db') :
    exists agent tenant, agent ∈ db.agents ∧ agent.id.named agentId = true ∧
      (forall r, r ∈ db.commands -> r.id ≠ id) ∧
      db' =
        { db with
          commands := db.commands ++
            [Database.newCommand id tenant agent.id createdBy scheduleId type
              payload now] } := by
  unfold Database.insertCommand at h
  split at h
  · rename_i agent tenant hfind htenant
    split at h
    · cases h
    · rename_i hnew
      have hnamed := List.find?_some hfind
      cases h
      refine ⟨agent, tenant, List.mem_of_find?_eq_some hfind, hnamed, ?_, rfl⟩
      · intro r hr hid
        apply hnew
        exact List.any_eq_true.mpr ⟨r, hr, by simpa using hid⟩
  · cases h

theorem recordResult_some {db db' : Database} {tenantId : String}
    {body : CmdResultBody} {now : Nat} {row : CommandRow}
    (h : db.recordResult tenantId body now = some (db', row)) :
    row ∈ db.commands ∧ Database.isNamed body.commandId tenantId row = true ∧
      db' =
        { db with
          commands := Table.updateWhere (Database.isNamed body.commandId tenantId)
            (Database.withResult body now) db.commands } := by
  unfold Database.recordResult at h
  split at h
  · split at h
    · cases h
    · rename_i row' hfind
      cases h
      exact ⟨List.mem_of_find?_eq_some hfind, List.find?_some hfind, rfl⟩
  · cases h

theorem consumeToken_some {db db' : Database} {side : Side} {token : String}
    {now : Nat} {row : SessionRow}
    (h : db.consumeToken side token now = some (db', row)) :
    db' =
        { db with
          sessions := Table.updateWhere (Database.isConsumable side token now)
            (Database.consumed side now) db.sessions } ∧
      exists old, old ∈ db.sessions ∧
        Database.isConsumable side token now old = true ∧
        row = Database.consumed side now old := by
  unfold Database.consumeToken at h
  split at h
  · cases h
  · rename_i old hfind
    cases h
    exact ⟨rfl, old, List.mem_of_find?_eq_some hfind, List.find?_some hfind, rfl⟩

theorem createSession_some {db db' : Database} {id : Uuid}
    {tenantId agentId : String} {userId : Option String} {mode : SessionMode}
    {viewerToken agentToken : String} {ttl now : Nat} {row : SessionRow}
    (h : db.createSession id tenantId agentId userId mode viewerToken agentToken
      ttl now = some (db', row)) :
    db' = { db with sessions := db.sessions ++ [row] } ∧ row.id = id ∧
      exists agent, agent ∈ db.agents ∧ agent.id.named agentId = true ∧
        row.agentId = agent.id := by
  unfold Database.createSession at h
  split at h
  · rename_i agent tenant hfind htenant
    split at h
    · cases h
    · have hnamed := List.find?_some hfind
      cases h
      exact ⟨rfl, rfl, agent, List.mem_of_find?_eq_some hfind, hnamed, rfl⟩
  · cases h

theorem upsertPatch_some {db db' : Database} {tenantId agentId : String}
    {rep : PatchReport} {now : Nat}
    (h : db.upsertPatch tenantId agentId rep now = some db') :
    exists patches, db' = { db with patches := patches } := by
  unfold Database.upsertPatch at h
  simp only at h
  split at h
  · cases h
  · split at h
    · cases h
      exact ⟨_, rfl⟩
    · split at h
      · cases h
        exact ⟨_, rfl⟩
      · cases h

theorem upsertPatches_some {db db' : Database} {tenantId agentId : String}
    {reports : List PatchReport} {now : Nat}
    (h : db.upsertPatches tenantId agentId reports now = some db') :
    exists patches, db' = { db with patches := patches } := by
  induction reports generalizing db with
  | nil =>
      have heq : db = db' := by simpa [Database.upsertPatches] using h
      subst heq
      exact ⟨db.patches, rfl⟩
  | cons rep rest ih =>
      unfold Database.upsertPatches at h
      split at h
      · cases h
      · rename_i mid hmid
        rcases upsertPatch_some hmid with ⟨patches, rfl⟩
        rcases ih h with ⟨patches', rfl⟩
        exact ⟨patches', rfl⟩

theorem insertCertificate_getD (db : Database) (agent : Uuid) (cert : Certificate) :
    exists certificates, (db.insertCertificate agent cert).getD db =
      { db with certificates := certificates } := by
  unfold Database.insertCertificate
  split
  · exact ⟨_, rfl⟩
  · exact ⟨db.certificates, rfl⟩

/-!
## Frame conditions
-/

inductive TableName where
  | agents
  | certificates
  | commands
  | patches
  | sessions
  deriving DecidableEq

/-- The statement may change the table. -/
def Statement.writes : Statement -> TableName -> Bool
  | Statement.setOnline _ _, TableName.agents => true
  | Statement.setOffline _ _, TableName.agents => true
  | Statement.createAgent _, TableName.agents => true
  | Statement.revokeCertificates _ _, TableName.certificates => true
  | Statement.insertCertificate _ _, TableName.certificates => true
  | Statement.markSent _, TableName.commands => true
  | Statement.recordResult _ _ _, TableName.commands => true
  | Statement.recordProgress _ _ _, TableName.commands => true
  | Statement.insertCommand _, TableName.commands => true
  | Statement.markInstallResult _ _ _ _, TableName.patches => true
  | Statement.upsertPatches _ _ _, TableName.patches => true
  | Statement.consumeToken _ _ _, TableName.sessions => true
  | Statement.createSession _, TableName.sessions => true
  | Statement.markEnded _ _, TableName.sessions => true
  | Statement.deleteAgent _ _, _ => true
  | _, _ => false

/-- The statement changes only tables it writes. -/
structure Frames (st : Statement) (db db' : Database) : Prop where
  agents : st.writes TableName.agents = false -> db'.agents = db.agents
  certificates : st.writes TableName.certificates = false ->
    db'.certificates = db.certificates
  commands : st.writes TableName.commands = false -> db'.commands = db.commands
  patches : st.writes TableName.patches = false -> db'.patches = db.patches
  sessions : st.writes TableName.sessions = false -> db'.sessions = db.sessions

theorem Frames.refl (st : Statement) (db : Database) : Frames st db db :=
  ⟨fun _ => rfl, fun _ => rfl, fun _ => rfl, fun _ => rfl, fun _ => rfl⟩

section

variable {st : Statement} (db : Database)

theorem frames_agents (h : st.writes TableName.agents = true)
    (rows : List AgentRow) : Frames st db { db with agents := rows } :=
  ⟨fun h' => Bool.noConfusion (h.symm.trans h'), fun _ => rfl, fun _ => rfl,
    fun _ => rfl, fun _ => rfl⟩

theorem frames_certificates (h : st.writes TableName.certificates = true)
    (rows : List CertificateRow) : Frames st db { db with certificates := rows } :=
  ⟨fun _ => rfl, fun h' => Bool.noConfusion (h.symm.trans h'), fun _ => rfl,
    fun _ => rfl, fun _ => rfl⟩

theorem frames_commands (h : st.writes TableName.commands = true)
    (rows : List CommandRow) : Frames st db { db with commands := rows } :=
  ⟨fun _ => rfl, fun _ => rfl, fun h' => Bool.noConfusion (h.symm.trans h'),
    fun _ => rfl, fun _ => rfl⟩

theorem frames_patches (h : st.writes TableName.patches = true)
    (rows : List PatchRow) : Frames st db { db with patches := rows } :=
  ⟨fun _ => rfl, fun _ => rfl, fun _ => rfl,
    fun h' => Bool.noConfusion (h.symm.trans h'), fun _ => rfl⟩

theorem frames_sessions (h : st.writes TableName.sessions = true)
    (rows : List SessionRow) : Frames st db { db with sessions := rows } :=
  ⟨fun _ => rfl, fun _ => rfl, fun _ => rfl, fun _ => rfl,
    fun h' => Bool.noConfusion (h.symm.trans h')⟩

end

theorem exec_frames (st : Statement) (ttl : Nat) (x : Input) (db : Database) :
    Frames st db (st.exec ttl x db).1 := by
  cases st with
  | consumeToken side token a =>
      simp only [Statement.exec]
      split
      · exact Frames.refl _ db
      · rename_i db' row hconsume
        rw [(consumeToken_some hconsume).left]
        exact frames_sessions db rfl _
  | setOnline a c =>
      exact frames_agents db rfl _
  | setOffline a c =>
      exact frames_agents db rfl _
  | markSent id =>
      exact frames_commands db rfl _
  | recordResult a t body =>
      simp only [Statement.exec]
      split
      · exact Frames.refl _ db
      · rename_i db' row hresult
        rcases recordResult_some hresult with ⟨_, _, rfl⟩
        exact frames_commands db rfl _
  | recordProgress a t body =>
      simp only [Statement.exec, Database.recordProgress]
      split
      · exact frames_commands db rfl _
      · exact Frames.refl _ db
  | markInstallResult a t ids ok =>
      simp only [Statement.exec, Database.markInstallResult]
      split
      · exact Frames.refl _ db
      · exact frames_patches db rfl _
  | upsertPatches a t reports =>
      simp only [Statement.exec]
      cases hup : db.upsertPatches t a reports x.now with
      | none =>
          exact Frames.refl _ db
      | some db' =>
          rcases upsertPatches_some hup with ⟨patches, rfl⟩
          exact frames_patches db rfl patches
  | insertCommand order =>
      simp only [Statement.exec]
      split
      · exact Frames.refl _ db
      · split
        · exact Frames.refl _ db
        · rename_i db' hinsert
          rcases insertCommand_some hinsert with ⟨_, _, _, _, _, rfl⟩
          exact frames_commands db rfl _
  | findForRevoke a t =>
      simp only [Statement.exec]
      split <;> exact Frames.refl _ db
  | revokeCertificates agent a =>
      exact frames_certificates db rfl _
  | deleteAgent a t =>
      exact ⟨fun h => Bool.noConfusion h, fun h => Bool.noConfusion h,
        fun h => Bool.noConfusion h, fun h => Bool.noConfusion h,
        fun h => Bool.noConfusion h⟩
  | createAgent tenant =>
      simp only [Statement.exec]
      split
      · exact Frames.refl _ db
      · exact frames_agents db rfl _
  | insertCertificate agent tenant =>
      rcases insertCertificate_getD db agent (issueAgentCert agent tenant x.serial) with
        ⟨certificates, hcert⟩
      simp only [Statement.exec, hcert]
      exact frames_certificates db rfl certificates
  | findForSession order =>
      simp only [Statement.exec]
      split <;> exact Frames.refl _ db
  | createSession order =>
      simp only [Statement.exec]
      split
      · exact Frames.refl _ db
      · split
        · exact Frames.refl _ db
        · rename_i db' row hcreate
          rw [(createSession_some hcreate).left]
          exact frames_sessions db rfl _
  | findForStop a t sid =>
      simp only [Statement.exec]
      split <;> exact Frames.refl _ db
  | findForWakeUp a t =>
      simp only [Statement.exec]
      split <;> exact Frames.refl _ db
  | markEnded id reason =>
      exact frames_sessions db rfl _
  | _ =>
      exact Frames.refl _ db

end Backend
end LeoOne
