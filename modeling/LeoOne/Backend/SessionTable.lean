import LeoOne.Backend.Statements

/-!
# Changes of the sessions table

A row of `remote_desktop_sessions` is made with both columns `*_connected_at`
empty; afterwards a token may be consumed, which fills one of them, or the
session may be ended.  Nothing else changes a row, and only the deletion of its
agent removes it.
-/

namespace LeoOne
namespace Backend

open Foundation
open Wire
open Websocket
open RemoteDesktop

/-!
## Columns of a consumed row
-/

section

variable (side : Side) (now : Nat) (r : SessionRow)

@[simp] theorem consumed_id : (Database.consumed side now r).id = r.id := by
  cases side <;> rfl

@[simp] theorem consumed_agentId :
    (Database.consumed side now r).agentId = r.agentId := by
  cases side <;> rfl

@[simp] theorem consumed_token (other : Side) :
    (Database.consumed side now r).token other = r.token other := by
  cases side <;> cases other <;> rfl

@[simp] theorem consumed_expiresAt :
    (Database.consumed side now r).expiresAt = r.expiresAt := by
  cases side <;> rfl

@[simp] theorem consumed_endedAt :
    (Database.consumed side now r).endedAt = r.endedAt := by
  cases side <;> rfl

@[simp] theorem consumed_endedReason :
    (Database.consumed side now r).endedReason = r.endedReason := by
  cases side <;> rfl

@[simp] theorem consumed_status :
    (Database.consumed side now r).status =
      if r.status = SessionStatus.pending ∧
          (r.connectedAt side.other).isSome = true then
        SessionStatus.active
      else r.status := by
  cases side <;> simp [Database.consumed]

@[simp] theorem consumed_connectedAt :
    (Database.consumed side now r).connectedAt side = some now := by
  cases side <;> rfl

@[simp] theorem consumed_connectedAt_other :
    (Database.consumed side now r).connectedAt side.other =
      r.connectedAt side.other := by
  cases side <;> rfl

end

theorem Side.eq_or_other (side other : Side) : other = side ∨ other = side.other := by
  cases side <;> cases other <;> simp [Side.other]

/-- A consumed token leaves an ended session ended and makes none. -/
theorem consumed_ended {side : Side} {now : Nat} {r : SessionRow} :
    (Database.consumed side now r).status = SessionStatus.ended <->
      r.status = SessionStatus.ended := by
  rw [consumed_status]
  split
  · rename_i hpending
    rw [hpending.left]
    constructor
    · intro h
      cases h
    · intro h
      cases h
  · exact Iff.rfl

/-- What `consumeToken` asks of the row. -/
theorem isConsumable_iff {side : Side} {token : String} {now : Nat}
    {r : SessionRow} :
    Database.isConsumable side token now r = true <->
      r.token side = token ∧ r.connectedAt side = none ∧
        r.status ≠ SessionStatus.ended ∧ now < r.expiresAt := by
  unfold Database.isConsumable
  simp only [Bool.and_eq_true, decide_eq_true_eq, Option.isNone_iff_eq_none,
    and_assoc]

/-!
## New rows
-/

/-- A row as `Create` inserts it, with a key and tokens that no row has. -/
structure NewSession (db : Database) (expires : Nat) (row : SessionRow) :
    Prop where
  status : row.status = SessionStatus.pending
  connectedAt : forall side, row.connectedAt side = none
  endedAt : row.endedAt = none
  endedReason : row.endedReason = none
  expiresAt : row.expiresAt = expires
  newId : forall r, r ∈ db.sessions -> r.id ≠ row.id
  newToken : forall r side, r ∈ db.sessions -> r.token side ≠ row.token side

theorem createSession_new {db db' : Database} {id : Uuid}
    {tenantId agentId : String} {userId : Option String} {mode : SessionMode}
    {viewerToken agentToken : String} {ttl now : Nat} {row : SessionRow}
    (h : db.createSession id tenantId agentId userId mode viewerToken agentToken
      ttl now = some (db', row)) : NewSession db (now + ttl) row := by
  unfold Database.createSession at h
  split at h
  · rename_i agent tenant hfind htenant
    split at h
    · cases h
    · rename_i hnew
      rw [Bool.not_eq_true, List.any_eq_false] at hnew
      cases h
      constructor
      · rfl
      · intro side
        cases side <;> rfl
      · rfl
      · rfl
      · rfl
      · intro r hr hid
        have hclash := hnew r hr
        simp only at hid
        simp [hid] at hclash
      · intro r side hr htoken
        have hclash := hnew r hr
        cases side with
        | agent =>
            have heq : r.agentToken = agentToken := htoken
            simp [heq] at hclash
        | viewer =>
            have heq : r.viewerToken = viewerToken := htoken
            simp [heq] at hclash
  · cases h

/-!
## Changes of a row
-/

/-- The row that `MarkEnded` writes. -/
def SessionRow.ended (r : SessionRow) (reason : String) (now : Nat) : SessionRow :=
  { r with
    status := SessionStatus.ended
    endedAt := some now
    endedReason := some reason }

theorem markEnded_sessions (db : Database) (id : Uuid) (reason : String)
    (now : Nat) :
    (db.markEnded id reason now).sessions =
      Table.updateWhere (fun r => r.id = id && r.status ≠ SessionStatus.ended)
        (fun r => r.ended reason now) db.sessions :=
  rfl

/-- The statement may turn the first row into the second. -/
inductive SessionChange (x : Input) :
    Statement -> SessionRow -> SessionRow -> Prop where
  | same {st : Statement} {r : SessionRow} : SessionChange x st r r
  | consumed {side : Side} {token : String} {a : Option String} {r : SessionRow} :
      Database.isConsumable side token x.now r = true ->
      SessionChange x (Statement.consumeToken side token a) r
        (Database.consumed side x.now r)
  | ended {id : Uuid} {reason : String} {r : SessionRow} :
      r.id = id -> r.status ≠ SessionStatus.ended ->
      SessionChange x (Statement.markEnded id reason) r (r.ended reason x.now)

theorem SessionChange.id_eq {x : Input} {st : Statement} {old r : SessionRow}
    (h : SessionChange x st old r) : r.id = old.id := by
  cases h with
  | same =>
      rfl
  | consumed _ =>
      exact consumed_id _ _ _
  | ended _ _ =>
      rfl

theorem SessionChange.agentId_eq {x : Input} {st : Statement}
    {old r : SessionRow} (h : SessionChange x st old r) :
    r.agentId = old.agentId := by
  cases h with
  | same =>
      rfl
  | consumed _ =>
      exact consumed_agentId _ _ _
  | ended _ _ =>
      rfl

/-- The statement has inserted the row. -/
def SessionInserted (db : Database) (ttl : Nat) (x : Input) (st : Statement)
    (row : SessionRow) : Prop :=
  exists order db', st = Statement.createSession order ∧ x.id = some row.id ∧
    db.createSession row.id order.tenantId order.agentId order.userId order.mode
      x.viewerToken x.agentToken ttl x.now = some (db', row)

/-- Every row after a statement comes from a row before it or is new. -/
theorem exec_sessionRows {st : Statement} {ttl : Nat} {x : Input} {db : Database}
    {r : SessionRow} (h : r ∈ (st.exec ttl x db).1.sessions) :
    (exists old, old ∈ db.sessions ∧ SessionChange x st old r) ∨
      SessionInserted db ttl x st r := by
  cases hwrites : st.writes TableName.sessions with
  | false =>
      rw [(exec_frames st ttl x db).sessions hwrites] at h
      exact Or.inl ⟨r, h, SessionChange.same⟩
  | true =>
      cases st with
      | consumeToken side token a =>
          left
          simp only [Statement.exec] at h
          split at h
          · exact ⟨r, h, SessionChange.same⟩
          · rename_i db' row hconsume
            rw [(consumeToken_some hconsume).left] at h
            rcases Table.mem_updateWhere.mp h with
              ⟨old, hold, ⟨hsel, rfl⟩ | ⟨_, rfl⟩⟩
            · exact ⟨old, hold, SessionChange.consumed hsel⟩
            · exact ⟨r, hold, SessionChange.same⟩
      | createSession order =>
          simp only [Statement.exec] at h
          split at h
          · exact Or.inl ⟨r, h, SessionChange.same⟩
          · rename_i id hid
            split at h
            · exact Or.inl ⟨r, h, SessionChange.same⟩
            · rename_i db' row hcreate
              rcases createSession_some hcreate with ⟨rfl, hrow, _⟩
              rcases List.mem_append.mp h with hold | hnew
              · exact Or.inl ⟨r, hold, SessionChange.same⟩
              · rw [List.mem_singleton] at hnew
                subst hnew hrow
                exact Or.inr ⟨order, _, rfl, hid, hcreate⟩
      | deleteAgent a t =>
          left
          exact ⟨r, (Table.mem_deleteWhere.mp h).left, SessionChange.same⟩
      | markEnded id reason =>
          left
          rcases Table.mem_updateWhere.mp h with ⟨old, hold, ⟨hsel, rfl⟩ | ⟨_, rfl⟩⟩
          · rcases Bool.and_eq_true_iff.mp hsel with ⟨hid, hlive⟩
            exact ⟨old, hold,
              SessionChange.ended (of_decide_eq_true hid) (of_decide_eq_true hlive)⟩
          · exact ⟨r, hold, SessionChange.same⟩
      | _ =>
          cases hwrites

/-- The same for a step of the server. -/
theorem Effect.sessionRows {s t : Server} {x : Input} {k : Instr}
    (heffect : Effect s x k t) {r : SessionRow} (h : r ∈ t.db.sessions) :
    (exists old, old ∈ s.db.sessions ∧
      (r = old ∨ exists st, k = Instr.sql st ∧ x.fails = false ∧
        SessionChange x st old r)) ∨
      exists st, k = Instr.sql st ∧ x.fails = false ∧
        SessionInserted s.db s.sessionTTL x st r := by
  cases heffect with
  | statement hok hgen =>
      rename_i st
      rcases exec_sessionRows h with ⟨old, hold, hchange⟩ | hnew
      · exact Or.inl ⟨old, hold, Or.inr ⟨st, rfl, hok, hchange⟩⟩
      · exact Or.inr ⟨st, rfl, hok, hnew⟩
  | insertion hok hgen hid hnew =>
      rename_i st id
      rcases exec_sessionRows h with ⟨old, hold, hchange⟩ | hnew
      · exact Or.inl ⟨old, hold, Or.inr ⟨st, rfl, hok, hchange⟩⟩
      · exact Or.inr ⟨st, rfl, hok, hnew⟩
  | _ =>
      exact Or.inl ⟨r, h, Or.inl rfl⟩

end Backend
end LeoOne
