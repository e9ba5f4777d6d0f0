import LeoOne.Backend.Statements

/-!
# Changes of the commands table

A row of `commands` is inserted once, may be marked as sent, and may get a
progress report or a result; its other columns never change.  The lemmas below
say so for every statement of the server.
-/

namespace LeoOne
namespace Backend

open Foundation
open Wire
open Websocket
open RemoteDesktop

/-- The statement may turn the first row into the second. -/
inductive RowChange (x : Input) : Statement -> CommandRow -> CommandRow -> Prop where
  | same {st : Statement} {r : CommandRow} : RowChange x st r r
  | sent {r : CommandRow} :
      RowChange x (Statement.markSent r.id) r { r with sentAt := some x.now }
  | result {a t : String} {body : CmdResultBody} {r : CommandRow} :
      Database.isNamed body.commandId t r = true ->
      RowChange x (Statement.recordResult a t body) r
        (Database.withResult body x.now r)
  | progress {a t : String} {body : FileTransferProgressBody} {r : CommandRow} :
      Database.isNamed body.commandId t r = true ->
      RowChange x (Statement.recordProgress a t body) r
        { r with progressPercent := some body.percent }

/-- The statement inserts the row. -/
inductive RowInsert (db : Database) (x : Input) :
    Statement -> CommandRow -> Prop where
  | command {order : CommandOrder} {id tenant : Uuid} {agent : AgentRow} :
      x.id = some id -> agent ∈ db.agents ->
      agent.id.named order.agentId = true ->
      RowInsert db x (Statement.insertCommand order)
        (Database.newCommand id tenant agent.id order.createdBy order.scheduleId
          order.type order.payload x.now)

theorem mem_pendingCommands {db : Database} {a : String} {r : CommandRow} :
    r ∈ db.pendingCommands a <-> r ∈ db.commands ∧ Database.isPending a r = true := by
  simp [Database.pendingCommands]

/-- Every row after a statement comes from a row before it or is inserted. -/
theorem exec_commands {st : Statement} {ttl : Nat} {x : Input} {db : Database}
    {r : CommandRow} (h : r ∈ (st.exec ttl x db).1.commands) :
    (exists old, old ∈ db.commands ∧ RowChange x st old r) ∨
      RowInsert db x st r := by
  cases hwrites : st.writes TableName.commands with
  | false =>
      rw [(exec_frames st ttl x db).commands hwrites] at h
      exact Or.inl ⟨r, h, RowChange.same⟩
  | true =>
      cases st with
      | markSent id =>
          left
          rcases Table.mem_updateWhere.mp h with ⟨old, hold, ⟨hid, rfl⟩ | ⟨_, rfl⟩⟩
          · have heq : old.id = id := by simpa using hid
            subst heq
            exact ⟨old, hold, RowChange.sent⟩
          · exact ⟨r, hold, RowChange.same⟩
      | recordResult a t body =>
          left
          simp only [Statement.exec] at h
          split at h
          · exact ⟨r, h, RowChange.same⟩
          · rename_i db' row hresult
            rcases recordResult_some hresult with ⟨_, _, rfl⟩
            rcases Table.mem_updateWhere.mp h with
              ⟨old, hold, ⟨hnamed, rfl⟩ | ⟨_, rfl⟩⟩
            · exact ⟨old, hold, RowChange.result hnamed⟩
            · exact ⟨r, hold, RowChange.same⟩
      | recordProgress a t body =>
          left
          simp only [Statement.exec, Database.recordProgress] at h
          split at h
          · rcases Table.mem_updateWhere.mp h with
              ⟨old, hold, ⟨hnamed, rfl⟩ | ⟨_, rfl⟩⟩
            · exact ⟨old, hold, RowChange.progress hnamed⟩
            · exact ⟨r, hold, RowChange.same⟩
          · exact ⟨r, h, RowChange.same⟩
      | insertCommand order =>
          simp only [Statement.exec] at h
          split at h
          · exact Or.inl ⟨r, h, RowChange.same⟩
          · rename_i id hid
            split at h
            · exact Or.inl ⟨r, h, RowChange.same⟩
            · rename_i db' hinsert
              rcases insertCommand_some hinsert with
                ⟨agent, tenant, hagent, hnamed, _, rfl⟩
              rcases List.mem_append.mp h with hold | hnew
              · exact Or.inl ⟨r, hold, RowChange.same⟩
              · rw [List.mem_singleton] at hnew
                subst hnew
                exact Or.inr (RowInsert.command hid hagent hnamed)
      | deleteAgent a t =>
          left
          exact ⟨r, (Table.mem_deleteWhere.mp h).left, RowChange.same⟩
      | _ =>
          cases hwrites

theorem RowChange.id_eq {x : Input} {st : Statement} {old r : CommandRow}
    (h : RowChange x st old r) : r.id = old.id := by
  cases h <;> rfl

theorem RowChange.agentId_eq {x : Input} {st : Statement} {old r : CommandRow}
    (h : RowChange x st old r) : r.agentId = old.agentId := by
  cases h <;> rfl

theorem RowChange.tenantId_eq {x : Input} {st : Statement} {old r : CommandRow}
    (h : RowChange x st old r) : r.tenantId = old.tenantId := by
  cases h <;> rfl

/-- A row that has been marked as sent stays marked. -/
theorem RowChange.sentAt {x : Input} {st : Statement} {old r : CommandRow}
    (h : RowChange x st old r) (hsent : old.sentAt ≠ none) : r.sentAt ≠ none := by
  cases h with
  | sent =>
      simp
  | _ =>
      exact hsent

/-- Every row of the server comes from a row before the step or is inserted by
it under a new identifier. -/
theorem Effect.commands {s t : Server} {x : Input} {k : Instr}
    (heffect : Effect s x k t) {r : CommandRow} (h : r ∈ t.db.commands) :
    (exists old st, old ∈ s.db.commands ∧ RowChange x st old r ∧
      (k = Instr.sql st ∧ x.fails = false ∨ r = old)) ∨
    (exists st, k = Instr.sql st ∧ RowInsert s.db x st r ∧
      r.id ∉ s.log.issued ∧ r ∈ t.log.commands) := by
  cases heffect with
  | statement hok hgen =>
      rename_i st
      rcases exec_commands h with ⟨old, hold, hchange⟩ | hinsert
      · exact Or.inl ⟨old, st, hold, hchange, Or.inl ⟨rfl, hok⟩⟩
      · cases hinsert
        cases hgen
  | insertion hok hgen hid hnew =>
      rename_i st id
      rcases exec_commands h with ⟨old, hold, hchange⟩ | hinsert
      · exact Or.inl ⟨old, st, hold, hchange, Or.inl ⟨rfl, hok⟩⟩
      · refine Or.inr ⟨st, rfl, hinsert, ?_⟩
        cases hinsert with
        | command hid' _ _ =>
            rw [hid] at hid'
            cases hid'
            refine ⟨hnew, List.mem_append.mpr (Or.inr ?_)⟩
            exact List.mem_filter.mpr ⟨h, decide_eq_true rfl⟩
  | _ =>
      -- the other effects leave the database alone; the statement is arbitrary
      exact Or.inl ⟨r, Statement.markSent r.id, h, RowChange.same, Or.inr rfl⟩

/-!
## The primary key
-/

/-- The identifiers of the commands are distinct and have been generated. -/
structure CommandKeys (s : Server) : Prop where
  nodup : (s.db.commands.map CommandRow.id).Nodup
  issued : forall {r}, r ∈ s.db.commands -> r.id ∈ s.log.issued

theorem exec_command_keys (st : Statement) (ttl : Nat) (x : Input)
    (db : Database) :
    ((st.exec ttl x db).1.commands.map CommandRow.id).Sublist
        (db.commands.map CommandRow.id) ∨
      exists id, x.id = some id ∧ st.generatesId = true ∧
        (st.exec ttl x db).1.commands.map CommandRow.id =
          db.commands.map CommandRow.id ++ [id] := by
  have hsame : forall {cs : List CommandRow}, cs = db.commands ->
      (cs.map CommandRow.id).Sublist (db.commands.map CommandRow.id) := by
    intro cs hcs
    rw [hcs]
  have hupdate : forall {w : CommandRow -> Bool} {f : CommandRow -> CommandRow},
      (forall r, (f r).id = r.id) ->
      ((Table.updateWhere w f db.commands).map CommandRow.id).Sublist
        (db.commands.map CommandRow.id) := by
    intro w f hf
    rw [Table.map_updateWhere CommandRow.id hf]
  cases hwrites : st.writes TableName.commands with
  | false =>
      exact Or.inl (hsame ((exec_frames st ttl x db).commands hwrites))
  | true =>
      cases st with
      | markSent id =>
          left
          exact hupdate fun _ => rfl
      | recordResult a t body =>
          left
          simp only [Statement.exec]
          split
          · exact hsame rfl
          · rename_i db' row hresult
            rcases recordResult_some hresult with ⟨_, _, rfl⟩
            exact hupdate fun _ => rfl
      | recordProgress a t body =>
          left
          simp only [Statement.exec, Database.recordProgress]
          split
          · exact hupdate fun _ => rfl
          · exact hsame rfl
      | insertCommand order =>
          simp only [Statement.exec]
          split
          · exact Or.inl (hsame rfl)
          · rename_i id hid
            split
            · exact Or.inl (hsame rfl)
            · rename_i db' hinsert
              rcases insertCommand_some hinsert with ⟨agent, tenant, _, _, _, rfl⟩
              exact Or.inr ⟨id, hid, rfl, by simp [Database.newCommand]⟩
      | deleteAgent a t =>
          left
          exact (Table.deleteWhere_sublist _ db.commands).map _
      | _ =>
          cases hwrites

theorem CommandKeys.step {s t : Server} {x : Input} {k : Instr}
    (h : CommandKeys s) (heffect : Effect s x k t) : CommandKeys t := by
  constructor
  · cases heffect with
    | statement hok hgen =>
        rename_i st
        rcases exec_command_keys st s.sessionTTL x s.db with hsub | ⟨id, _, hgen', _⟩
        · exact hsub.nodup h.nodup
        · rw [hgen] at hgen'
          cases hgen'
    | insertion hok hgen hid hnew =>
        rename_i st id
        rcases exec_command_keys st s.sessionTTL x s.db with hsub | ⟨id', hid', _, heq⟩
        · exact hsub.nodup h.nodup
        · rw [hid] at hid'
          cases hid'
          show ((st.exec s.sessionTTL x s.db).1.commands.map CommandRow.id).Nodup
          rw [heq, List.nodup_append]
          refine ⟨h.nodup, List.nodup_singleton id, ?_⟩
          intro a ha b hb heq'
          rw [List.mem_singleton] at hb
          rcases List.mem_map.mp ha with ⟨r, hr, hra⟩
          apply hnew
          rw [← hb, ← heq', ← hra]
          exact h.issued hr
    | _ =>
        exact h.nodup
  · intro r hr
    rcases heffect.commands hr with ⟨old, st, hold, hchange, _⟩ |
      ⟨st, hk, hinsert, hnew, _⟩
    · rw [hchange.id_eq]
      exact heffect.issued_mono (h.issued hold)
    · subst hk
      cases hinsert with
      | command hid _ _ =>
          cases heffect with
          | failed _ =>
              exact absurd (h.issued hr) hnew
          | statement _ hgen =>
              cases hgen
          | insertion _ _ hid' _ =>
              rw [hid] at hid'
              cases hid'
              exact List.mem_cons_self
          | quiet hquiet =>
              cases hquiet

end Backend
end LeoOne
