import LeoOne.Backend.SessionTable

/-!
# Changes of the tables of an agent

A row of `agents` keeps its key and changes its status only on HELLO, heartbeat
and disconnection; a row of `agent_certificates` may only become revoked; and a
session keeps its agent.  Rows of the last two tables are made only for agents
that are there.
-/

namespace LeoOne
namespace Backend

open Foundation
open Wire
open Websocket
open RemoteDesktop

/-!
## Agents
-/

/-- The statement may turn the first row into the second. -/
inductive AgentChange (x : Input) : Statement -> AgentRow -> AgentRow -> Prop where
  | same {st : Statement} {r : AgentRow} : AgentChange x st r r
  | online {a : String} {c : ClientId} {r r' : AgentRow} :
      r.id.named a = true -> r'.id = r.id -> r'.status = AgentStatus.online ->
      AgentChange x (Statement.setOnline a c) r r'
  | offline {a : String} {c : ClientId} {r r' : AgentRow} :
      r.id.named a = true -> r'.id = r.id -> r'.status = AgentStatus.offline ->
      AgentChange x (Statement.setOffline a c) r r'

theorem AgentChange.id_eq {x : Input} {st : Statement} {old r : AgentRow}
    (h : AgentChange x st old r) : r.id = old.id := by
  cases h with
  | same =>
      rfl
  | online _ hid _ =>
      exact hid
  | offline _ hid _ =>
      exact hid

/-- After `UpdateStatus` every row of the agent has the new status. -/
theorem status_of_updateStatus {db : Database} {a : String} {status : AgentStatus}
    {lastSeen : Option Nat} {now : Nat} {r : AgentRow}
    (hr : r ∈ (db.updateStatus a status lastSeen now).agents)
    (hnamed : r.id.named a = true) : r.status = status := by
  rcases Table.mem_updateWhere.mp hr with ⟨old, _, ⟨_, rfl⟩ | ⟨hother, rfl⟩⟩
  · rfl
  · rw [hother] at hnamed
    cases hnamed

/-- Every row after a statement comes from a row before it or is a new agent,
which is offline. -/
theorem exec_agents {st : Statement} {ttl : Nat} {x : Input} {db : Database}
    {r : AgentRow} (h : r ∈ (st.exec ttl x db).1.agents) :
    (exists old, old ∈ db.agents ∧ AgentChange x st old r) ∨
      (st.generatesId = true ∧ x.id = some r.id ∧
        r.status = AgentStatus.offline) := by
  cases hwrites : st.writes TableName.agents with
  | false =>
      rw [(exec_frames st ttl x db).agents hwrites] at h
      exact Or.inl ⟨r, h, AgentChange.same⟩
  | true =>
      cases st with
      | setOnline a c =>
          left
          rcases Table.mem_updateWhere.mp h with ⟨old, hold, ⟨hnamed, rfl⟩ | ⟨_, rfl⟩⟩
          · exact ⟨old, hold, AgentChange.online hnamed rfl rfl⟩
          · exact ⟨r, hold, AgentChange.same⟩
      | setOffline a c =>
          left
          rcases Table.mem_updateWhere.mp h with ⟨old, hold, ⟨hnamed, rfl⟩ | ⟨_, rfl⟩⟩
          · exact ⟨old, hold, AgentChange.offline hnamed rfl rfl⟩
          · exact ⟨r, hold, AgentChange.same⟩
      | deleteAgent a t =>
          exact Or.inl ⟨r, (Table.mem_deleteWhere.mp h).left, AgentChange.same⟩
      | createAgent tenant =>
          simp only [Statement.exec] at h
          split at h
          · exact Or.inl ⟨r, h, AgentChange.same⟩
          · rename_i id hid
            rcases List.mem_append.mp h with hold | hnew
            · exact Or.inl ⟨r, hold, AgentChange.same⟩
            · rw [List.mem_singleton] at hnew
              subst hnew
              exact Or.inr ⟨rfl, hid, rfl⟩
      | _ =>
          cases hwrites

theorem Effect.agents {s t : Server} {x : Input} {k : Instr}
    (heffect : Effect s x k t) {r : AgentRow} (h : r ∈ t.db.agents) :
    (exists old st, old ∈ s.db.agents ∧ AgentChange x st old r ∧
      (k = Instr.sql st ∧ x.fails = false ∨ r = old)) ∨
    (r.id ∉ s.log.issued ∧ r.id ∈ t.log.issued ∧
      r.status = AgentStatus.offline) := by
  cases heffect with
  | statement hok hgen =>
      rename_i st
      rcases exec_agents h with ⟨old, hold, hchange⟩ | ⟨hgen', _, _⟩
      · exact Or.inl ⟨old, st, hold, hchange, Or.inl ⟨rfl, hok⟩⟩
      · rw [hgen] at hgen'
        cases hgen'
  | insertion hok hgen hid hnew =>
      rename_i st id
      rcases exec_agents h with ⟨old, hold, hchange⟩ | ⟨_, hid', hstatus⟩
      · exact Or.inl ⟨old, st, hold, hchange, Or.inl ⟨rfl, hok⟩⟩
      · rw [hid] at hid'
        cases hid'
        exact Or.inr ⟨hnew, List.mem_cons_self, hstatus⟩
  | _ =>
      -- the other effects leave the database alone; the statement is arbitrary
      exact Or.inl ⟨r, Statement.setOnline "" 0, h, AgentChange.same, Or.inr rfl⟩

/-!
## Certificates
-/

/-- The second row is the first one, or the first one revoked. -/
structure CertificateKept (old r : CertificateRow) : Prop where
  agentId : r.agentId = old.agentId
  thumbprint : r.thumbprint = old.thumbprint
  revoked : old.revokedAt ≠ none -> r.revokedAt ≠ none

theorem CertificateKept.refl (r : CertificateRow) : CertificateKept r r :=
  ⟨rfl, rfl, fun h => h⟩

/-- A row that was not there before the statement. -/
def CertificateIssued (db : Database) (x : Input) (st : Statement)
    (r : CertificateRow) : Prop :=
  exists agent tenant, st = Statement.insertCertificate agent tenant ∧
    r.agentId = agent ∧ r.thumbprint = issueAgentCert agent tenant x.serial ∧
    exists owner, owner ∈ db.agents ∧ owner.id = agent

theorem exec_certificates {st : Statement} {ttl : Nat} {x : Input} {db : Database}
    {r : CertificateRow} (h : r ∈ (st.exec ttl x db).1.certificates) :
    (exists old, old ∈ db.certificates ∧ CertificateKept old r) ∨
      CertificateIssued db x st r := by
  cases hwrites : st.writes TableName.certificates with
  | false =>
      rw [(exec_frames st ttl x db).certificates hwrites] at h
      exact Or.inl ⟨r, h, CertificateKept.refl r⟩
  | true =>
      cases st with
      | revokeCertificates agent a =>
          left
          rcases Table.mem_updateWhere.mp h with ⟨old, hold, ⟨_, rfl⟩ | ⟨_, rfl⟩⟩
          · exact ⟨old, hold, rfl, rfl, fun _ => Option.some_ne_none x.now⟩
          · exact ⟨r, hold, CertificateKept.refl r⟩
      | deleteAgent a t =>
          left
          exact ⟨r, (Table.mem_deleteWhere.mp h).left, CertificateKept.refl r⟩
      | insertCertificate agent tenant =>
          simp only [Statement.exec, Database.insertCertificate] at h
          split at h
          · rcases List.mem_append.mp h with hold | hnew
            · exact Or.inl ⟨r, hold, CertificateKept.refl r⟩
            · rw [List.mem_singleton] at hnew
              subst hnew
              rename_i hok
              rcases List.any_eq_true.mp (Bool.and_eq_true_iff.mp hok).left with
                ⟨owner, howner, hid⟩
              exact Or.inr ⟨agent, tenant, rfl, rfl, rfl, owner, howner,
                of_decide_eq_true hid⟩
          · exact Or.inl ⟨r, h, CertificateKept.refl r⟩
      | _ =>
          cases hwrites

theorem Effect.certificates {s t : Server} {x : Input} {k : Instr}
    (heffect : Effect s x k t) {r : CertificateRow} (h : r ∈ t.db.certificates) :
    (exists old, old ∈ s.db.certificates ∧ CertificateKept old r) ∨
      exists st, k = Instr.sql st ∧ CertificateIssued s.db x st r := by
  cases heffect with
  | statement hok hgen =>
      rename_i st
      rcases exec_certificates h with hold | hissued
      · exact Or.inl hold
      · exact Or.inr ⟨st, rfl, hissued⟩
  | insertion hok hgen hid hnew =>
      rename_i st id
      rcases exec_certificates h with hold | hissued
      · exact Or.inl hold
      · exact Or.inr ⟨st, rfl, hissued⟩
  | _ =>
      exact Or.inl ⟨r, h, CertificateKept.refl r⟩

/-- A certificate that passes the check is in the table and not revoked. -/
theorem checkNotRevoked_some {db : Database} {cert : Certificate}
    (h : db.checkNotRevoked cert = true) :
    exists r, r ∈ db.certificates ∧ r.thumbprint = cert ∧ r.revokedAt = none := by
  unfold Database.checkNotRevoked at h
  split at h
  · cases h
  · rename_i r hfind
    have hthumb := List.find?_some hfind
    exact ⟨r, List.mem_of_find?_eq_some hfind, of_decide_eq_true hthumb,
      Option.isNone_iff_eq_none.mp h⟩

/-!
## Sessions
-/

/-- A session is made for an agent that is there, and stays with it. -/
theorem Effect.sessions {s t : Server} {x : Input} {k : Instr}
    (heffect : Effect s x k t) {r : SessionRow} (h : r ∈ t.db.sessions) :
    (exists old, old ∈ s.db.sessions ∧ r.agentId = old.agentId) ∨
      exists owner, owner ∈ s.db.agents ∧ r.agentId = owner.id := by
  rcases heffect.sessionRows h with
    ⟨old, hold, rfl | ⟨st, _, _, hchange⟩⟩ | ⟨st, _, _, order, db', _, _, hcreate⟩
  · exact Or.inl ⟨r, hold, rfl⟩
  · exact Or.inl ⟨old, hold, hchange.agentId_eq⟩
  · rcases createSession_some hcreate with ⟨_, _, owner, howner, _, hagent⟩
    exact Or.inr ⟨owner, howner, hagent⟩

/-!
## Deletion
-/

/-- The deletion of an agent by its tenant removes its rows from every table. -/
theorem deleteAgent_rows {db : Database} {a t : String} {u : Uuid}
    (hnamed : u.named a = true) (hthere : exists r, r ∈ db.agents ∧ r.id = u)
    (htenant : forall r, r ∈ db.agents -> r.id = u -> r.tenantId.named t = true) :
    (forall r, r ∈ (db.deleteAgent t a).agents -> r.id ≠ u) ∧
    (forall r, r ∈ (db.deleteAgent t a).certificates -> r.agentId ≠ u) ∧
    (forall r, r ∈ (db.deleteAgent t a).commands -> r.agentId ≠ u) ∧
    (forall r, r ∈ (db.deleteAgent t a).sessions -> r.agentId ≠ u) := by
  have hcascade : (db.agents.any fun r =>
      (r.id.named a && r.tenantId.named t) && r.id = u) = true := by
    rcases hthere with ⟨owner, howner, hid⟩
    apply List.any_eq_true.mpr
    exact ⟨owner, howner, by simp [hid, hnamed, htenant owner howner hid]⟩
  refine ⟨?_, ?_, ?_, ?_⟩
  · intro r hr hid
    rcases Table.mem_deleteWhere.mp hr with ⟨hold, hkept⟩
    rw [hid, hnamed, htenant r hold hid] at hkept
    cases hkept
  · intro r hr hid
    have hkept := (Table.mem_deleteWhere.mp hr).right
    rw [hid] at hkept
    exact Bool.noConfusion (hcascade.symm.trans hkept)
  · intro r hr hid
    have hkept := (Table.mem_deleteWhere.mp hr).right
    rw [hid] at hkept
    exact Bool.noConfusion (hcascade.symm.trans hkept)
  · intro r hr hid
    have hkept := (Table.mem_deleteWhere.mp hr).right
    rw [hid] at hkept
    exact Bool.noConfusion (hcascade.symm.trans hkept)

/-!
## Tenants
-/

theorem exec_agentTenants {st : Statement} {ttl : Nat} {x : Input} {db : Database}
    {r : AgentRow} (h : r ∈ (st.exec ttl x db).1.agents) :
    (exists old, old ∈ db.agents ∧ old.id = r.id ∧ old.tenantId = r.tenantId) ∨
      (st = Statement.createAgent r.tenantId ∧ x.id = some r.id) := by
  cases hwrites : st.writes TableName.agents with
  | false =>
      rw [(exec_frames st ttl x db).agents hwrites] at h
      exact Or.inl ⟨r, h, rfl, rfl⟩
  | true =>
      cases st with
      | setOnline a c =>
          rcases Table.mem_updateWhere.mp h with ⟨old, hold, ⟨_, rfl⟩ | ⟨_, rfl⟩⟩
          · exact Or.inl ⟨old, hold, rfl, rfl⟩
          · exact Or.inl ⟨r, hold, rfl, rfl⟩
      | setOffline a c =>
          rcases Table.mem_updateWhere.mp h with ⟨old, hold, ⟨_, rfl⟩ | ⟨_, rfl⟩⟩
          · exact Or.inl ⟨old, hold, rfl, rfl⟩
          · exact Or.inl ⟨r, hold, rfl, rfl⟩
      | deleteAgent a t =>
          exact Or.inl ⟨r, (Table.mem_deleteWhere.mp h).left, rfl, rfl⟩
      | createAgent tenant =>
          simp only [Statement.exec] at h
          split at h
          · exact Or.inl ⟨r, h, rfl, rfl⟩
          · rename_i id hid
            rcases List.mem_append.mp h with hold | hnew
            · exact Or.inl ⟨r, hold, rfl, rfl⟩
            · rw [List.mem_singleton] at hnew
              subst hnew
              exact Or.inr ⟨rfl, hid⟩
      | _ =>
          cases hwrites

/-- No statement moves an agent to another tenant. -/
theorem Effect.agentTenants {s t : Server} {x : Input} {k : Instr}
    (heffect : Effect s x k t) {r : AgentRow} (h : r ∈ t.db.agents) :
    (exists old, old ∈ s.db.agents ∧ old.id = r.id ∧ old.tenantId = r.tenantId) ∨
      (r.id ∉ s.log.issued ∧ r.id ∈ t.log.issued ∧
        k = Instr.sql (Statement.createAgent r.tenantId)) := by
  cases heffect with
  | statement hok hgen =>
      rcases exec_agentTenants h with hold | ⟨rfl, _⟩
      · exact Or.inl hold
      · cases hgen
  | insertion hok hgen hid hnew =>
      rcases exec_agentTenants h with hold | ⟨rfl, hid'⟩
      · exact Or.inl hold
      · rw [hid] at hid'
        cases hid'
        exact Or.inr ⟨hnew, List.mem_cons_self, rfl⟩
  | _ =>
      exact Or.inl ⟨r, h, rfl, rfl⟩

theorem updateStatus_agent {db : Database} {a : String} {status : AgentStatus}
    {lastSeen : Option Nat} {now : Nat} {r : AgentRow} (h : r ∈ db.agents) :
    exists r', r' ∈ (db.updateStatus a status lastSeen now).agents ∧ r'.id = r.id ∧
      r'.tenantId = r.tenantId := by
  cases hnamed : r.id.named a with
  | true =>
      exact ⟨_, Table.mem_updateWhere.mpr ⟨r, h, Or.inl ⟨hnamed, rfl⟩⟩, rfl, rfl⟩
  | false =>
      exact ⟨r, Table.mem_updateWhere_of_not h hnamed, rfl, rfl⟩

/-- An agent whose commands are on record is on record: deleting it deletes them. -/
theorem exec_owner {st : Statement} {ttl : Nat} {x : Input} {db : Database} {a : AgentRow}
    (ha : a ∈ db.agents) {r : CommandRow} (hr : r ∈ (st.exec ttl x db).1.commands)
    (hagent : a.id = r.agentId) :
    exists b, b ∈ (st.exec ttl x db).1.agents ∧ b.id = a.id ∧ b.tenantId = a.tenantId := by
  cases hwrites : st.writes TableName.agents with
  | false =>
      rw [(exec_frames st ttl x db).agents hwrites]
      exact ⟨a, ha, rfl, rfl⟩
  | true =>
      cases st with
      | setOnline b c =>
          exact updateStatus_agent ha
      | setOffline b c =>
          exact updateStatus_agent ha
      | deleteAgent b t =>
          have hkept := (Table.mem_deleteWhere.mp hr).right
          refine ⟨a, Table.mem_deleteWhere.mpr ⟨ha, ?_⟩, rfl, rfl⟩
          by_contra hdeleted
          have hcascade := List.any_eq_false.mp hkept a ha
          rw [Bool.not_eq_false] at hdeleted
          exact hcascade (Bool.and_eq_true_iff.mpr ⟨hdeleted, decide_eq_true hagent⟩)
      | createAgent tenant =>
          simp only [Statement.exec]
          split
          · exact ⟨a, ha, rfl, rfl⟩
          · exact ⟨a, List.mem_append_left _ ha, rfl, rfl⟩
      | _ =>
          cases hwrites

theorem Effect.owner {s t : Server} {x : Input} {k : Instr} (heffect : Effect s x k t)
    {a : AgentRow} (ha : a ∈ s.db.agents) {r : CommandRow} (hr : r ∈ t.db.commands)
    (hagent : a.id = r.agentId) :
    exists b, b ∈ t.db.agents ∧ b.id = a.id ∧ b.tenantId = a.tenantId := by
  cases heffect with
  | statement hok hgen =>
      exact exec_owner ha hr hagent
  | insertion hok hgen hid hnew =>
      exact exec_owner ha hr hagent
  | _ =>
      exact ⟨a, ha, rfl, rfl⟩

end Backend
end LeoOne
