import LeoOne.Backend.Lifetime
import LeoOne.Backend.SessionStates

/-!
# One session per agent

`createSession` asks `ActiveForAgent` and inserts afterwards, in two statements.
Between the two the handler owns a right to insert; rows that count as active and
rights to insert are counted together, agent by agent.
-/

namespace LeoOne
namespace Backend

open Foundation

/-!
## Active rows
-/

/-- The row satisfies the predicate of `ActiveForAgent` for this agent. -/
def SessionRow.activeFor (agent : Uuid) (now : Nat) (r : SessionRow) : Bool :=
  r.agentId = agent && r.status ≠ SessionStatus.ended &&
    (r.status ≠ SessionStatus.pending || now < r.expiresAt)

/-- The rows that `ActiveForAgent` selects. -/
def Database.activeRows (db : Database) (agent : Uuid) (now : Nat) :
    List SessionRow :=
  db.sessions.filter (SessionRow.activeFor agent now)

theorem activeFor_iff {agent : Uuid} {now : Nat} {r : SessionRow} :
    r.activeFor agent now = true <->
      r.agentId = agent ∧ r.status ≠ SessionStatus.ended ∧
        (r.status = SessionStatus.pending -> now < r.expiresAt) := by
  unfold SessionRow.activeFor
  simp only [Bool.and_eq_true, Bool.or_eq_true, decide_eq_true_eq, and_assoc]
  constructor
  · rintro ⟨hagent, hlive, hwhen⟩
    refine ⟨hagent, hlive, ?_⟩
    intro hpending
    rcases hwhen with hnot | hlt
    · exact absurd hpending hnot
    · exact hlt
  · rintro ⟨hagent, hlive, hwhen⟩
    refine ⟨hagent, hlive, ?_⟩
    by_cases hpending : r.status = SessionStatus.pending
    · exact Or.inr (hwhen hpending)
    · exact Or.inl hpending

/-- Time makes rows inactive, never active. -/
theorem activeFor_anti {agent : Uuid} {clock now : Nat} (hle : clock ≤ now)
    {r : SessionRow} (h : r.activeFor agent now = true) :
    r.activeFor agent clock = true := by
  rcases activeFor_iff.mp h with ⟨hagent, hlive, hwhen⟩
  apply activeFor_iff.mpr
  refine ⟨hagent, hlive, ?_⟩
  intro hpending
  have hlt := hwhen hpending
  omega

theorem activeRows_anti {db : Database} {agent : Uuid} {clock now : Nat}
    (hle : clock ≤ now) :
    (db.activeRows agent now).length ≤ (db.activeRows agent clock).length := by
  unfold Database.activeRows
  rw [← List.countP_eq_length_filter, ← List.countP_eq_length_filter]
  apply List.countP_mono_left
  intro r _ hactive
  exact activeFor_anti hle hactive

/-- A row that a statement changes into an active one was active. -/
theorem SessionChange.activeFor {x : Input} {st : Statement} {old r : SessionRow}
    (h : SessionChange x st old r) {agent : Uuid}
    (hactive : r.activeFor agent x.now = true) :
    old.activeFor agent x.now = true := by
  cases h with
  | same =>
      exact hactive
  | consumed hsel =>
      rcases isConsumable_iff.mp hsel with ⟨_, _, hlive, hlt⟩
      rcases activeFor_iff.mp hactive with ⟨hagent, _, _⟩
      rw [consumed_agentId] at hagent
      exact activeFor_iff.mpr ⟨hagent, hlive, fun _ => hlt⟩
  | ended hid hlive =>
      rcases activeFor_iff.mp hactive with ⟨_, hnot, _⟩
      exact absurd rfl hnot

/-- Only `Create` adds to the active rows, and one row of the agent it is about. -/
theorem exec_activeRows (st : Statement) (ttl : Nat) (x : Input) (db : Database)
    (agent : Uuid) :
    ((st.exec ttl x db).1.activeRows agent x.now).length ≤
        (db.activeRows agent x.now).length ∨
      exists order, st = Statement.createSession order ∧
        agent.named order.agentId = true ∧
        ((st.exec ttl x db).1.activeRows agent x.now).length ≤
          (db.activeRows agent x.now).length + 1 := by
  cases hwrites : st.writes TableName.sessions with
  | false =>
      left
      unfold Database.activeRows
      rw [(exec_frames st ttl x db).sessions hwrites]
  | true =>
      simp only [Database.activeRows, ← List.countP_eq_length_filter]
      cases st with
      | consumeToken side token a =>
          left
          simp only [Statement.exec]
          split
          · exact Nat.le_refl _
          · rename_i db' row hconsume
            rw [(consumeToken_some hconsume).left]
            apply Table.countP_updateWhere_le
            intro r _ hsel hactive
            exact (SessionChange.consumed (a := a) hsel).activeFor hactive
      | createSession order =>
          simp only [Statement.exec]
          split
          · exact Or.inl (Nat.le_refl _)
          · rename_i id hid
            split
            · exact Or.inl (Nat.le_refl _)
            · rename_i db' row hcreate
              rcases createSession_some hcreate with ⟨rfl, _, found, _, hnamed, hrow⟩
              simp only [List.countP_append, List.countP_singleton]
              split
              · rename_i hactive
                right
                refine ⟨order, rfl, ?_, Nat.le_refl _⟩
                rw [← (activeFor_iff.mp hactive).left, hrow]
                exact hnamed
              · exact Or.inl (Nat.le_refl _)
      | deleteAgent a t =>
          left
          exact (Table.deleteWhere_sublist _ _).countP_le
      | markEnded id reason =>
          left
          simp only [Statement.exec, markEnded_sessions]
          apply Table.countP_updateWhere_le
          intro r _ _ hactive
          exact absurd rfl (activeFor_iff.mp hactive).right.left
      | _ =>
          cases hwrites

theorem Effect.activeRows {s t : Server} {x : Input} {k : Instr}
    (heffect : Effect s x k t) (agent : Uuid) :
    (t.db.activeRows agent x.now).length ≤ (s.db.activeRows agent x.now).length ∨
      exists order, k = Instr.sql (Statement.createSession order) ∧
        agent.named order.agentId = true ∧
        (t.db.activeRows agent x.now).length ≤
          (s.db.activeRows agent x.now).length + 1 := by
  have hexec : forall st, k = Instr.sql st -> t.db = (st.exec s.sessionTTL x s.db).1 ->
      (t.db.activeRows agent x.now).length ≤ (s.db.activeRows agent x.now).length ∨
        exists order, k = Instr.sql (Statement.createSession order) ∧
          agent.named order.agentId = true ∧
          (t.db.activeRows agent x.now).length ≤
            (s.db.activeRows agent x.now).length + 1 := by
    intro st hk hdb
    rw [hdb]
    rcases exec_activeRows st s.sessionTTL x s.db agent with hle | ⟨order, hst, hnamed, hle⟩
    · exact Or.inl hle
    · refine Or.inr ⟨order, ?_, hnamed, hle⟩
      rw [hk, hst]
  cases heffect with
  | statement hok hgen =>
      exact hexec _ rfl rfl
  | insertion hok hgen hid hnew =>
      exact hexec _ rfl rfl
  | _ =>
      exact Or.inl (Nat.le_refl _)

/-!
## Rights to insert
-/

/-- The instruction inserts a session of the agent. -/
def inserts (agent : Uuid) : Instr -> Bool
  | Instr.sql (Statement.createSession order) => agent.named order.agentId
  | _ => false

/-- The handler of another request for the same agent has passed its check and
not yet inserted its row. -/
def insertsLike (order : SessionOrder) : Instr -> Bool
  | Instr.sql (Statement.createSession other) =>
      UuidText.normalize other.agentId == UuidText.normalize order.agentId
  | _ => false

/-- The check is made only while no other request for the agent stands between
its check and its insertion. -/
def checksAlone (p : State) (k : Instr) (_ : Input) : Bool :=
  match k with
  | Instr.sql (Statement.activeForAgent order) => !p.anyPending (insertsLike order)
  | _ => true

/-- A right to insert is given by the check alone, when there is no active row. -/
theorem created_inserts {s : Server} {x : Input} {k : Instr}
    {o : Outcome Server Instr} (hperform : Server.perform k x s = some o)
    (agent : Uuid) :
    o.created.countP (inserts agent) = 0 ∨
      exists order, k = Instr.sql (Statement.activeForAgent order) ∧
        agent.named order.agentId = true ∧
        s.db.activeRows agent x.now = [] ∧
        o.created.countP (inserts agent) ≤ 1 := by
  by_cases hzero : o.created.countP (inserts agent) = 0
  · exact Or.inl hzero
  · right
    rcases List.countP_pos_iff.mp (Nat.pos_of_ne_zero hzero) with ⟨j, hj, hinserts⟩
    have hleads := leads_of_perform hperform hj
    cases hleads with
    | noActiveSession =>
        rename_i order
        refine ⟨order, rfl, hinserts, ?_⟩
        simp only [Server.perform] at hperform
        split at hperform
        · cases hperform
        · simp only [Server.performSql, Statement.generatesId] at hperform
          split at hperform
          · cases hperform
            simp at hj
          · cases hperform
            simp only [Outcome.created, Statement.exec, List.flatten_nil,
              List.append_nil] at hj ⊢
            split at hj
            · cases hj
            · rename_i hnone
              rw [if_neg hnone]
              constructor
              · unfold Database.activeRows
                rw [List.filter_eq_nil_iff]
                intro r hr hactive
                apply hnone
                rcases activeFor_iff.mp hactive with ⟨hagent, hlive, hwhen⟩
                apply List.any_eq_true.mpr
                refine ⟨r, hr, ?_⟩
                have hnamed : r.agentId.named order.agentId = true := by
                  rw [hagent]
                  exact hinserts
                by_cases hpending : r.status = SessionStatus.pending
                · simp [hnamed, hpending, hwhen hpending]
                · simp [hnamed, hpending, hlive]
              · exact List.countP_le_length
    | read _ hhandles =>
        cases hhandles <;> cases hinserts
    | _ =>
        cases hinserts

/-!
## The law
-/

/-- For every agent, its active rows and the rights to insert another one. -/
def AtMostOneSession (p : State) (clock : Nat) : Prop :=
  forall agent, (p.shared.db.activeRows agent clock).length +
    Pool.pendingCount (inserts agent) p ≤ 1

theorem inserts_enters {r : Request} {agent : Uuid} {j : Instr} (h : Enters r j) :
    inserts agent j = false := by
  cases h <;> rfl

theorem AtMostOneSession.start {p p' : State} {r : Request} {clock : Nat}
    (hinv : AtMostOneSession p clock) (hstarts : Starts p p' r) :
    AtMostOneSession p' clock := by
  intro agent
  have hnone : (entry r).countP (inserts agent) = 0 := by
    apply List.countP_eq_zero.mpr
    intro j hj
    simp [inserts_enters (enters_of_mem_entry hj)]
  rw [hstarts.shared, hstarts.count, hnone]
  exact hinv agent

/-- No right to insert for the agent is pending when its check is made. -/
theorem pendingCount_of_checksAlone {p : State} {x : Input} {order : SessionOrder}
    (hguard : checksAlone p (Instr.sql (Statement.activeForAgent order)) x = true)
    {agent : Uuid} (hnamed : agent.named order.agentId = true) :
    Pool.pendingCount (inserts agent) p = 0 := by
  have halone : p.anyPending (insertsLike order) = false := by
    simpa [checksAlone] using hguard
  apply Pool.pendingCount_eq_zero
  intro j hj
  cases hins : inserts agent j with
  | false =>
      rfl
  | true =>
      have hlike : insertsLike order j = true := by
        unfold inserts at hins
        split at hins
        · rename_i other
          simp only [Uuid.named, beq_iff_eq] at hins hnamed
          simp only [insertsLike, hins, hnamed, beq_self_eq_true]
        · cases hins
      rw [Pool.anyPending_eq_false.mp halone j hj] at hlike
      cases hlike

theorem AtMostOneSession.step {p p' : State} {x : Input} {k : Instr}
    {o : Outcome Server Instr} {clock : Nat} (hinv : AtMostOneSession p clock)
    (hle : clock ≤ x.now) (hguard : checksAlone p k x = true)
    (hexec : Executes p p' x k o) : AtMostOneSession p' x.now := by
  intro agent
  have hbefore := hinv agent
  have hcount := hexec.count (inserts agent)
  have htime : (p.shared.db.activeRows agent x.now).length ≤
      (p.shared.db.activeRows agent clock).length := activeRows_anti hle
  rcases hexec.effect.activeRows agent with hrows | ⟨order, rfl, hnamed, hrows⟩
  · rcases created_inserts hexec.perform agent with
      hnone | ⟨order, rfl, hnamed, hempty, hone⟩
    · omega
    · -- the check has found nothing, and no other right is pending
      rw [pendingCount_of_checksAlone hguard hnamed] at hcount
      rw [hempty, List.length_nil] at hrows
      omega
  · -- the right to insert is used up by the row
    have hused : [Instr.sql (Statement.createSession order)].countP (inserts agent) = 1 := by
      rw [List.countP_singleton]
      exact if_pos hnamed
    rcases created_inserts hexec.perform agent with hnone | ⟨_, hk, _⟩
    · omega
    · cases hk

theorem atMostOneSession_boot {wsEndpoint : String} {sessionTTL clock : Nat}
    {db : Database} {issued : List Uuid}
    (hfirst : forall agent, (db.activeRows agent clock).length ≤ 1) :
    AtMostOneSession (boot wsEndpoint sessionTTL db issued) clock := by
  intro agent
  exact hfirst agent

theorem atMostOneSession_preserved :
    lifetime.Preserves
      (fun s e => lifeGuard checksAlone (fun _ _ => true) s e = true)
      (fun s => s.1.shared.HubSound ∧ AtMostOneSession s.1 s.2) := by
  apply lifetime_preserves
  · intro p p' r clock hinv hstarts
    exact hinv.start hstarts
  · intro p p' x k o clock _ hinv hle hguard hexec
    exact hinv.step hle hguard hexec
  · intro p clock now ws ttl hinv hle _
    apply atMostOneSession_boot
    intro agent
    have hbefore := hinv agent
    have htime : (p.shared.db.activeRows agent now).length ≤
        (p.shared.db.activeRows agent clock).length := activeRows_anti hle
    omega

/-- As long as the checks and insertions of one agent do not overlap, no agent
has two active sessions, at any time and across restarts. -/
theorem one_session_per_agent {wsEndpoint : String} {sessionTTL begin : Nat}
    {db : Database} {issued : List Uuid}
    (hfirst : forall agent, (db.activeRows agent begin).length ≤ 1)
    {es : List LifeEvent} {p : State} {clock : Nat}
    (hrun : lifetime.run (boot wsEndpoint sessionTTL db issued, begin) es =
      some (p, clock))
    (hmeets : lifetime.Meets
      (fun s e => lifeGuard checksAlone (fun _ _ => true) s e = true)
      (boot wsEndpoint sessionTTL db issued, begin) es) :
    forall agent now, clock ≤ now ->
      (p.shared.db.activeRows agent now).length ≤ 1 := by
  intro agent now hle
  have hinv := (atMostOneSession_preserved.run
    ⟨boot_hubSound _ _ _ _, atMostOneSession_boot hfirst⟩ hmeets hrun).right agent
  have htime : (p.shared.db.activeRows agent now).length ≤
      (p.shared.db.activeRows agent clock).length := activeRows_anti hle
  simp only at hinv
  omega

namespace Sample

def sessionOrder : SessionOrder where
  tenantId := tenant.text
  agentId := agent.text
  userId := none
  mode := SessionMode.control

def otherSession : Uuid where
  text := "5e000000-0000-4000-8000-000000000002"
  canonical := by decide

/-- A request for a session in goroutine `i`, up to its check. -/
def askForSession (i : Nat) : List Event :=
  [PoolEvent.start (Request.createSession sessionOrder), go i, go i, go i]

/-- Goroutine `i` inserts its session. -/
def insertSession (i : Nat) (id : Uuid) (viewerToken agentToken : String) : Event :=
  PoolEvent.exec i
    { id := some id, viewerToken := viewerToken, agentToken := agentToken }

/-- Two requests one after the other. -/
def requestsInTurn : List LifeEvent :=
  (connect 0 ++ askForSession 2 ++ [insertSession 2 session "v1" "a1"] ++
    askForSession 3).map LifeEvent.server

/-- Two requests make their checks before either of them inserts. -/
def requestsAtOnce : List LifeEvent :=
  (connect 0 ++ askForSession 2 ++ askForSession 3 ++
    [insertSession 2 session "v1" "a1",
      insertSession 3 otherSession "v2" "a2"]).map LifeEvent.server

end Sample

theorem one_session_per_agent_inTurn :
    exists p, lifetime.run (Sample.start, 0) Sample.requestsInTurn = some (p, 0) ∧
      (p.shared.db.activeRows Sample.agent 0).length = 1 := by
  obtain ⟨p, hrun, hsome⟩ : exists p,
      lifetime.run (Sample.start, 0) Sample.requestsInTurn = some (p, 0) ∧
        0 < (p.shared.db.activeRows Sample.agent 0).length :=
    ⟨_, rfl, by decide⟩
  refine ⟨p, hrun, ?_⟩
  have hfirst : forall agent, (Sample.database.activeRows agent 0).length ≤ 1 :=
    fun _ => Nat.zero_le 1
  have hone := one_session_per_agent hfirst hrun (by decide)
    Sample.agent 0 (Nat.le_refl 0)
  omega

/-- Two sessions of one agent are active at once. -/
theorem two_sessions_at_once :
    exists p, lifetime.run (Sample.start, 0) Sample.requestsAtOnce = some (p, 0) ∧
      (p.shared.db.activeRows Sample.agent 0).length = 2 :=
  ⟨_, rfl, by decide⟩

end Backend
end LeoOne
