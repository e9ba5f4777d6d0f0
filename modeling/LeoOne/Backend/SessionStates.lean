import LeoOne.Foundation.Clock
import LeoOne.Backend.SessionTable

/-!
# The states of a remote-desktop session

The statements of `RemoteDesktopRepo` on the sessions table, in any order and at
times that never go back.  The store also remembers which tokens have been
consumed with success and the calls of `MarkEnded`, so that the laws can speak
of the past of a row.
-/

namespace LeoOne
namespace Backend

open Foundation

/-- `Create`, `ConsumeViewerToken` and `ConsumeAgentToken`, `MarkEnded`, and the
passage of time. -/
inductive SessionEvent where
  | create (id : Uuid) (tenantId agentId : String) (userId : Option String)
      (mode : SessionMode) (viewerToken agentToken : String) (ttl now : Nat)
  | consume (side : Side) (token : String) (now : Nat)
  | markEnded (id : Uuid) (reason : String) (now : Nat)
  | pass (now : Nat)

def SessionEvent.time : SessionEvent -> Option Nat
  | create _ _ _ _ _ _ _ _ now => some now
  | consume _ _ now => some now
  | markEnded _ _ now => some now
  | pass now => some now

/-- The database, the tokens consumed with success (by session and side), and
the calls of `MarkEnded` on existing rows with their reasons and times. -/
structure SessionStore where
  db : Database
  consumptions : List (Uuid × Side)
  ends : List (Uuid × String × Nat)

namespace SessionStore

def start (db : Database) : SessionStore where
  db := db
  consumptions := []
  ends := []

def apply (s : SessionStore) : SessionEvent -> SessionStore
  | SessionEvent.create id tenantId agentId userId mode viewerToken agentToken
      ttl now =>
      match s.db.createSession id tenantId agentId userId mode viewerToken
          agentToken ttl now with
      | none => s
      | some (db, _) => { s with db := db }
  | SessionEvent.consume side token now =>
      match s.db.consumeToken side token now with
      | none => s
      | some (db, row) =>
          { s with
            db := db
            consumptions := s.consumptions ++ [(row.id, side)] }
  | SessionEvent.markEnded id reason now =>
      { s with
        db := s.db.markEnded id reason now
        ends :=
          if s.db.sessions.any fun r => r.id = id then
            s.ends ++ [(id, reason, now)]
          else s.ends }
  | SessionEvent.pass _ => s

/-- The calls of `MarkEnded` on one session, the first one first. -/
def endsOf (s : SessionStore) (id : Uuid) : List (String × Nat) :=
  (s.ends.filter fun e => e.1 = id).map Prod.snd

end SessionStore

/-- Any statement may come next, at a time that is not in the past. -/
def sessionMachine : Machine (SessionStore × Nat) SessionEvent :=
  Machine.clocked ⟨fun s e => some (s.apply e)⟩ SessionEvent.time

/-!
## The law of one row
-/

structure RowLaw (s : SessionStore) (r : SessionRow) : Prop where
  active : r.status = SessionStatus.active ->
    forall side, r.connectedAt side ≠ none
  pending : r.status = SessionStatus.pending ->
    exists side, r.connectedAt side = none
  consumed : forall side, s.consumptions.count (r.id, side) =
    if r.connectedAt side = none then 0 else 1
  ended : r.status = SessionStatus.ended ->
    exists reason now rest, s.endsOf r.id = (reason, now) :: rest ∧
      r.endedAt = some now ∧ r.endedReason = some reason
  live : r.status ≠ SessionStatus.ended -> s.endsOf r.id = []

structure StoreLaw (s : SessionStore) : Prop where
  ids : (s.db.sessions.map SessionRow.id).Nodup
  tokens : forall side, (s.db.sessions.map fun r => r.token side).Nodup
  rows : forall r, r ∈ s.db.sessions -> RowLaw s r
  known : forall c, c ∈ s.consumptions -> c.1 ∈ s.db.sessions.map SessionRow.id
  knownEnds : forall e, e ∈ s.ends -> e.1 ∈ s.db.sessions.map SessionRow.id

theorem StoreLaw.eq_of_id {s : SessionStore} (h : StoreLaw s) {r r' : SessionRow}
    (hr : r ∈ s.db.sessions) (hr' : r' ∈ s.db.sessions) (hid : r.id = r'.id) :
    r = r' :=
  List.inj_on_of_nodup_map h.ids hr hr' hid

theorem StoreLaw.eq_of_token {s : SessionStore} (h : StoreLaw s) {side : Side}
    {r r' : SessionRow} (hr : r ∈ s.db.sessions) (hr' : r' ∈ s.db.sessions)
    (htoken : r.token side = r'.token side) : r = r' :=
  List.inj_on_of_nodup_map (h.tokens side) hr hr' htoken

/-- An identifier without a row has no past. -/
theorem StoreLaw.no_past {s : SessionStore} (h : StoreLaw s) {id : Uuid}
    (hnew : id ∉ s.db.sessions.map SessionRow.id) :
    (forall side, s.consumptions.count (id, side) = 0) ∧ s.endsOf id = [] := by
  constructor
  · intro side
    apply List.count_eq_zero.mpr
    intro hmem
    exact hnew (h.known _ hmem)
  · unfold SessionStore.endsOf
    rw [List.map_eq_nil_iff, List.filter_eq_nil_iff]
    intro e he hid
    have hknown := h.knownEnds e he
    rw [of_decide_eq_true hid] at hknown
    exact hnew hknown

/-- The law of a row depends on its own past only. -/
theorem RowLaw.congr {s s' : SessionStore} {r : SessionRow} (h : RowLaw s r)
    (hcons : forall side,
      s'.consumptions.count (r.id, side) = s.consumptions.count (r.id, side))
    (hends : s'.endsOf r.id = s.endsOf r.id) : RowLaw s' r := by
  constructor
  · exact h.active
  · exact h.pending
  · intro side
    rw [hcons side]
    exact h.consumed side
  · rw [hends]
    exact h.ended
  · rw [hends]
    exact h.live

/-!
## Steps
-/

theorem StoreLaw.create {s : SessionStore} (h : StoreLaw s) {expires : Nat}
    {row : SessionRow} (hnew : NewSession s.db expires row) :
    StoreLaw
      { s with db := { s.db with sessions := s.db.sessions ++ [row] } } := by
  have hid : row.id ∉ s.db.sessions.map SessionRow.id := by
    intro hmem
    rcases List.mem_map.mp hmem with ⟨r, hr, hid⟩
    exact hnew.newId r hr hid
  rcases h.no_past hid with ⟨hcons, hends⟩
  have hkept : forall id, id ∈ s.db.sessions.map SessionRow.id ->
      id ∈ (s.db.sessions ++ [row]).map SessionRow.id := by
    intro id hmem
    rw [List.map_append]
    exact List.mem_append_left _ hmem
  constructor
  · simp only [List.map_append, List.map_cons, List.map_nil]
    apply List.Nodup.append h.ids (List.nodup_singleton _)
    rw [List.disjoint_singleton]
    exact hid
  · intro side
    simp only [List.map_append, List.map_cons, List.map_nil]
    apply List.Nodup.append (h.tokens side) (List.nodup_singleton _)
    rw [List.disjoint_singleton]
    intro hmem
    rcases List.mem_map.mp hmem with ⟨r, hr, htoken⟩
    exact hnew.newToken r side hr htoken
  · intro r hr
    rcases List.mem_append.mp hr with hold | hlast
    · exact (h.rows r hold).congr (fun _ => rfl) rfl
    · rw [List.mem_singleton] at hlast
      subst hlast
      constructor
      · intro hactive
        rw [hnew.status] at hactive
        cases hactive
      · intro _
        exact ⟨Side.agent, hnew.connectedAt Side.agent⟩
      · intro side
        rw [if_pos (hnew.connectedAt side)]
        exact hcons side
      · intro hended
        rw [hnew.status] at hended
        cases hended
      · intro _
        exact hends
  · intro c hc
    exact hkept _ (h.known c hc)
  · intro e he
    exact hkept _ (h.knownEnds e he)

/-- The row whose token has just been consumed. -/
theorem RowLaw.consume {s : SessionStore} {r : SessionRow} (h : RowLaw s r)
    {side : Side} {token : String} {now : Nat} {db : Database}
    (hsel : Database.isConsumable side token now r = true) :
    RowLaw
      { s with db := db, consumptions := s.consumptions ++ [(r.id, side)] }
      (Database.consumed side now r) := by
  rcases isConsumable_iff.mp hsel with ⟨_, hfree, hlive, _⟩
  constructor
  · intro hactive other
    rcases Side.eq_or_other side other with rfl | rfl
    · rw [consumed_connectedAt]
      exact Option.some_ne_none now
    · rw [consumed_connectedAt_other]
      rw [consumed_status] at hactive
      split at hactive
      · rename_i hboth
        exact Option.isSome_iff_ne_none.mp hboth.right
      · exact h.active hactive side.other
  · intro hpending
    refine ⟨side.other, ?_⟩
    rw [consumed_connectedAt_other]
    rw [consumed_status] at hpending
    split at hpending
    · cases hpending
    · rename_i hnot
      by_contra hsome
      exact hnot ⟨hpending, Option.isSome_iff_ne_none.mpr hsome⟩
  · intro other
    have hbefore := h.consumed other
    simp only [consumed_id, List.count_append]
    rcases Side.eq_or_other side other with rfl | rfl
    · rw [if_pos hfree] at hbefore
      simp [hbefore]
    · have hne : (r.id, side) ≠ (r.id, side.other) := by
        cases side <;> simp [Side.other]
      rw [consumed_connectedAt_other, hbefore, List.count_singleton,
        beq_eq_false_iff_ne.mpr hne]
      rfl
  · intro hended
    exact absurd (consumed_ended.mp hended) hlive
  · intro _
    rw [consumed_id]
    exact h.live hlive

theorem StoreLaw.consume {s : SessionStore} (h : StoreLaw s) {side : Side}
    {token : String} {now : Nat} {old : SessionRow} (hold : old ∈ s.db.sessions)
    (hsel : Database.isConsumable side token now old = true) :
    StoreLaw
      { s with
        db :=
          { s.db with
            sessions := Table.updateWhere (Database.isConsumable side token now)
              (Database.consumed side now) s.db.sessions }
        consumptions := s.consumptions ++ [(old.id, side)] } := by
  have htoken := (isConsumable_iff.mp hsel).left
  have hids : (Table.updateWhere (Database.isConsumable side token now)
      (Database.consumed side now) s.db.sessions).map SessionRow.id =
        s.db.sessions.map SessionRow.id :=
    Table.map_updateWhere SessionRow.id (consumed_id side now) _
  constructor
  · simp only
    rw [hids]
    exact h.ids
  · intro other
    simp only
    rw [Table.map_updateWhere (fun r : SessionRow => r.token other)
      (consumed_token side now · other)]
    exact h.tokens other
  · intro r hr
    rcases Table.mem_updateWhere.mp hr with ⟨before, hbefore, ⟨hp, rfl⟩ | ⟨hp, rfl⟩⟩
    · -- the token names one row only
      have heq : before = old := by
        apply h.eq_of_token hbefore hold
        rw [htoken]
        exact (isConsumable_iff.mp hp).left
      subst heq
      exact (h.rows before hbefore).consume hp
    · have hne : r.id ≠ old.id := by
        intro hid
        have heq := h.eq_of_id hbefore hold hid
        subst heq
        rw [hsel] at hp
        cases hp
      apply (h.rows r hbefore).congr
      · intro other
        have hpair : (old.id, side) ≠ (r.id, other) := by
          intro hpair
          exact hne (Prod.mk.inj hpair).left.symm
        simp only [List.count_append]
        rw [List.count_singleton, beq_eq_false_iff_ne.mpr hpair]
        rfl
      · rfl
  · intro c hc
    simp only
    rw [hids]
    rcases List.mem_append.mp hc with hpast | hlast
    · exact h.known c hpast
    · rw [List.mem_singleton] at hlast
      subst hlast
      exact List.mem_map.mpr ⟨old, hold, rfl⟩
  · intro e he
    simp only
    rw [hids]
    exact h.knownEnds e he

/-- The row that `MarkEnded` ends. -/
theorem RowLaw.markEnded {s s' : SessionStore} {r : SessionRow} (h : RowLaw s r)
    {reason : String} {now : Nat} (hlive : r.status ≠ SessionStatus.ended)
    (hcons : s'.consumptions = s.consumptions)
    (hends : s'.endsOf r.id = s.endsOf r.id ++ [(reason, now)]) :
    RowLaw s' (r.ended reason now) := by
  constructor
  · intro hactive
    cases hactive
  · intro hpending
    cases hpending
  · intro side
    rw [hcons]
    exact h.consumed side
  · intro _
    refine ⟨reason, now, [], ?_, rfl, rfl⟩
    show s'.endsOf r.id = _
    rw [hends, h.live hlive]
    rfl
  · intro hnot
    exact absurd rfl hnot

/-- A later call of `MarkEnded` is not the first one. -/
theorem RowLaw.markEnded_again {s s' : SessionStore} {r : SessionRow}
    (h : RowLaw s r) {reason : String} {now : Nat}
    (hended : r.status = SessionStatus.ended)
    (hcons : s'.consumptions = s.consumptions)
    (hends : s'.endsOf r.id = s.endsOf r.id ++ [(reason, now)]) : RowLaw s' r := by
  constructor
  · exact h.active
  · exact h.pending
  · rw [hcons]
    exact h.consumed
  · intro _
    rcases h.ended hended with ⟨first, at1, rest, hfirst, hat, hreason⟩
    refine ⟨first, at1, rest ++ [(reason, now)], ?_, hat, hreason⟩
    rw [hends, hfirst]
    rfl
  · intro hnot
    exact absurd hended hnot

theorem endsOf_markEnded (s : SessionStore) (id : Uuid) (reason : String)
    (now : Nat) {r : SessionRow} (hr : r ∈ s.db.sessions) :
    (s.apply (SessionEvent.markEnded id reason now)).endsOf r.id =
      if r.id = id then s.endsOf r.id ++ [(reason, now)] else s.endsOf r.id := by
  simp only [SessionStore.apply, SessionStore.endsOf]
  by_cases hid : r.id = id
  · have hany : s.db.sessions.any (fun r => r.id = id) = true :=
      List.any_eq_true.mpr ⟨r, hr, decide_eq_true hid⟩
    rw [if_pos hany, if_pos hid, List.filter_append, List.map_append]
    simp [hid]
  · rw [if_neg hid]
    split
    · rw [List.filter_append, List.map_append]
      simp [Ne.symm hid]
    · rfl

theorem StoreLaw.markEnded {s : SessionStore} (h : StoreLaw s) (id : Uuid)
    (reason : String) (now : Nat) :
    StoreLaw (s.apply (SessionEvent.markEnded id reason now)) := by
  have hids : (s.db.markEnded id reason now).sessions.map SessionRow.id =
      s.db.sessions.map SessionRow.id := by
    rw [markEnded_sessions]
    apply Table.map_updateWhere SessionRow.id
    intro r
    rfl
  constructor
  · simp only [SessionStore.apply]
    rw [hids]
    exact h.ids
  · intro side
    have htokens : (s.db.markEnded id reason now).sessions.map
        (fun r => r.token side) = s.db.sessions.map fun r => r.token side := by
      rw [markEnded_sessions]
      apply Table.map_updateWhere (fun r : SessionRow => r.token side)
      intro r
      cases side <;> rfl
    simp only [SessionStore.apply]
    rw [htokens]
    exact h.tokens side
  · intro r hr
    rcases Table.mem_updateWhere.mp hr with ⟨old, hold, ⟨hsel, rfl⟩ | ⟨hsel, rfl⟩⟩
    · rcases Bool.and_eq_true_iff.mp hsel with ⟨hid, hlive⟩
      have hends := endsOf_markEnded s id reason now hold
      rw [if_pos (of_decide_eq_true hid)] at hends
      exact (h.rows old hold).markEnded (of_decide_eq_true hlive) rfl hends
    · have hends := endsOf_markEnded s id reason now hold
      split at hends
      · rename_i hid
        have hended : r.status = SessionStatus.ended := by
          simpa [hid] using hsel
        exact (h.rows r hold).markEnded_again hended (by rfl) hends
      · exact (h.rows r hold).congr (fun _ => rfl) hends
  · intro c hc
    simp only [SessionStore.apply]
    rw [hids]
    exact h.known c hc
  · intro e he
    simp only [SessionStore.apply] at he ⊢
    rw [hids]
    split at he
    · rename_i hany
      rcases List.mem_append.mp he with hpast | hlast
      · exact h.knownEnds e hpast
      · rw [List.mem_singleton] at hlast
        subst hlast
        rcases List.any_eq_true.mp hany with ⟨r, hr, hid⟩
        exact List.mem_map.mpr ⟨r, hr, of_decide_eq_true hid⟩
    · exact h.knownEnds e he

/-!
## Runs
-/

theorem StoreLaw.apply {s : SessionStore} (h : StoreLaw s) (e : SessionEvent) :
    StoreLaw (s.apply e) := by
  cases e with
  | create id tenantId agentId userId mode viewerToken agentToken ttl now =>
      simp only [SessionStore.apply]
      split
      · exact h
      · rename_i db row hcreate
        rcases createSession_some hcreate with ⟨rfl, _⟩
        exact h.create (createSession_new hcreate)
  | consume side token now =>
      simp only [SessionStore.apply]
      split
      · exact h
      · rename_i db row hconsume
        rcases consumeToken_some hconsume with ⟨rfl, old, hold, hsel, rfl⟩
        rw [consumed_id]
        exact h.consume hold hsel
  | markEnded id reason now =>
      exact h.markEnded id reason now
  | pass now =>
      exact h

theorem StoreLaw.start {db : Database} (hempty : db.sessions = []) :
    StoreLaw (SessionStore.start db) := by
  constructor
  · simp [SessionStore.start, hempty]
  · intro side
    simp [SessionStore.start, hempty]
  · intro r hr
    simp [SessionStore.start, hempty] at hr
  · intro c hc
    cases hc
  · intro e he
    cases he

theorem sessionMachine_step {s t : SessionStore} {clock clock' : Nat}
    {e : SessionEvent} (h : sessionMachine.step (s, clock) e = some (t, clock')) :
    t = s.apply e ∧ clock ≤ clock' ∧ e.time = some clock' := by
  rcases Machine.clocked_step h with ⟨hstep, hle, htick⟩
  refine ⟨(Option.some.inj hstep).symm, hle, ?_⟩
  rw [htick]
  cases e <;> rfl

theorem storeLaw_preserved :
    sessionMachine.Preserves (fun _ _ => True) (fun p => StoreLaw p.1) := by
  intro p e q hlaw _ hstep
  rcases sessionMachine_step hstep with ⟨heq, _⟩
  rw [heq]
  exact hlaw.apply e

/-- A row that is ended, or whose time is over. -/
def Spent (clock : Nat) (r : SessionRow) : Prop :=
  r.status = SessionStatus.ended ∨ r.expiresAt ≤ clock

theorem Spent.not_consumable {clock now : Nat} {r : SessionRow} (h : Spent clock r)
    (hle : clock ≤ now) (side : Side) (token : String) :
    Database.isConsumable side token now r = false := by
  cases hsel : Database.isConsumable side token now r with
  | false =>
      rfl
  | true =>
      rcases isConsumable_iff.mp hsel with ⟨_, _, hlive, hbefore⟩
      rcases h with hended | hexpired
      · exact absurd hended hlive
      · omega

/-- The row of a session at a later time: the same tokens and the same spent
state, and no token consumed since. -/
structure Later (r : SessionRow) (count : Side -> Nat) (p : SessionStore × Nat) :
    Prop where
  law : StoreLaw p.1
  row : exists r', r' ∈ p.1.db.sessions ∧ r'.id = r.id ∧
    (forall side, r'.token side = r.token side) ∧ Spent p.2 r' ∧
    (r.status = SessionStatus.ended -> r' = r)
  count : forall side, p.1.consumptions.count (r.id, side) = count side

theorem later_preserved (r : SessionRow) (count : Side -> Nat) :
    sessionMachine.Preserves (fun _ _ => True) (Later r count) := by
  rintro ⟨s, clock⟩ e ⟨t, clock'⟩ hlater _ hstep
  rcases sessionMachine_step hstep with ⟨rfl, hle, htime⟩
  rcases hlater.row with ⟨r', hr', hid, htoken, hspent, hsame⟩
  have hspent' : Spent clock' r' := by
    rcases hspent with hended | hexpired
    · exact Or.inl hended
    · exact Or.inr (Nat.le_trans hexpired hle)
  constructor
  · exact hlater.law.apply e
  · cases e with
    | create id tenantId agentId userId mode viewerToken agentToken ttl now =>
        simp only [SessionStore.apply]
        split
        · exact ⟨r', hr', hid, htoken, hspent', hsame⟩
        · rename_i db row hcreate
          rcases createSession_some hcreate with ⟨rfl, _⟩
          exact ⟨r', List.mem_append_left _ hr', hid, htoken, hspent', hsame⟩
    | consume side token now =>
        simp only [SessionStore.apply]
        split
        · exact ⟨r', hr', hid, htoken, hspent', hsame⟩
        · rename_i db row hconsume
          rcases consumeToken_some hconsume with ⟨rfl, _⟩
          cases htime
          have hnot := hspent'.not_consumable (Nat.le_refl _) side token
          exact ⟨r', Table.mem_updateWhere_of_not hr' hnot, hid, htoken, hspent', hsame⟩
    | markEnded id reason now =>
        cases hsel : decide (r'.id = id) && decide (r'.status ≠ SessionStatus.ended) with
        | false =>
            exact ⟨r', Table.mem_updateWhere_of_not hr' hsel, hid, htoken, hspent', hsame⟩
        | true =>
            rcases Bool.and_eq_true_iff.mp hsel with ⟨_, hlive⟩
            refine ⟨r'.ended reason now,
              Table.mem_updateWhere.mpr ⟨r', hr', Or.inl ⟨hsel, rfl⟩⟩, hid, ?_,
              Or.inl rfl, ?_⟩
            · intro side
              rw [← htoken side]
              cases side <;> rfl
            · intro hended
              rw [hsame hended] at hlive
              exact absurd hended (of_decide_eq_true hlive)
    | pass now =>
        exact ⟨r', hr', hid, htoken, hspent', hsame⟩
  · intro other
    rw [← hlater.count other]
    cases e with
    | create id tenantId agentId userId mode viewerToken agentToken ttl now =>
        simp only [SessionStore.apply]
        split <;> rfl
    | consume side token now =>
        simp only [SessionStore.apply]
        split
        · rfl
        · rename_i db row hconsume
          rcases consumeToken_some hconsume with ⟨rfl, old, hold, hsel, rfl⟩
          -- the row consumed from is another one: this one is spent
          have hne : (old.id, side) ≠ (r.id, other) := by
            intro hpair
            have hsameId : r'.id = old.id := hid.trans (Prod.mk.inj hpair).left.symm
            have heq := hlater.law.eq_of_id hr' hold hsameId
            cases htime
            subst heq
            rw [hspent'.not_consumable (Nat.le_refl _) side token] at hsel
            cases hsel
          rw [consumed_id, List.count_append, List.count_singleton,
            beq_eq_false_iff_ne.mpr hne]
          rfl
    | markEnded id reason now =>
        rfl
    | pass now =>
        rfl

/-- Neither token of a session is ever consumed twice. -/
theorem StoreLaw.consumptions_nodup {s : SessionStore} (h : StoreLaw s) :
    s.consumptions.Nodup := by
  rw [List.nodup_iff_count_le_one]
  rintro ⟨id, side⟩
  by_cases hknown : id ∈ s.db.sessions.map SessionRow.id
  · rcases List.mem_map.mp hknown with ⟨r, hr, rfl⟩
    rw [(h.rows r hr).consumed side]
    split
    · exact Nat.zero_le 1
    · exact Nat.le_refl 1
  · rw [(h.no_past hknown).left side]
    exact Nat.zero_le 1

/-- The database finds no row for the token of a spent session. -/
theorem Later.consumeToken_none {r : SessionRow} {count : Side -> Nat}
    {s : SessionStore} {clock : Nat} (h : Later r count (s, clock)) (side : Side)
    {now : Nat} (hle : clock ≤ now) :
    s.db.consumeToken side (r.token side) now = none := by
  rcases h.row with ⟨r', hr', hid, htoken, hspent, _⟩
  unfold Database.consumeToken
  have hnone : s.db.sessions.find?
      (Database.isConsumable side (r.token side) now) = none := by
    rw [List.find?_eq_none]
    intro other hother hsel
    have heq : other = r' := by
      apply h.law.eq_of_token hother hr'
      rw [htoken side]
      exact (isConsumable_iff.mp hsel).left
    subst heq
    rw [hspent.not_consumable hle side (r.token side)] at hsel
    cases hsel
  rw [hnone]

/-- The life of the sessions, from an empty table: each token is consumed at most
once; the status says which sides have connected; an ended session keeps the time
and the reason of the first `MarkEnded`, whatever comes after; and from the
moment a session is ended or expired neither of its tokens is consumed. -/
theorem session_life {db : Database} (hempty : db.sessions = []) {begin : Nat}
    {es fs : List SessionEvent} {s t : SessionStore} {clock clock' : Nat}
    (hrun : sessionMachine.run (SessionStore.start db, begin) es = some (s, clock))
    (hmore : sessionMachine.run (s, clock) fs = some (t, clock')) :
    s.consumptions.Nodup ∧
      forall r, r ∈ s.db.sessions ->
        (r.status = SessionStatus.active ->
          forall side, r.connectedAt side ≠ none) ∧
        (r.status = SessionStatus.pending ->
          exists side, r.connectedAt side = none) ∧
        (r.status = SessionStatus.ended ->
          r ∈ t.db.sessions ∧
            exists reason now rest, s.endsOf r.id = (reason, now) :: rest ∧
              r.endedAt = some now ∧ r.endedReason = some reason) ∧
        (r.status = SessionStatus.ended ∨ r.expiresAt ≤ clock ->
          forall side,
            t.consumptions.count (r.id, side) = s.consumptions.count (r.id, side) ∧
              forall now, clock' ≤ now ->
                t.db.consumeToken side (r.token side) now = none) := by
  have hlaw : StoreLaw s :=
    storeLaw_preserved.run_all (StoreLaw.start hempty) hrun
  have hlater : forall r, r ∈ s.db.sessions -> Spent clock r ->
      Later r (fun side => s.consumptions.count (r.id, side)) (t, clock') := by
    intro r hr hspent
    have hnow : Later r (fun side => s.consumptions.count (r.id, side)) (s, clock) := by
      constructor
      · exact hlaw
      · exact ⟨r, hr, rfl, fun _ => rfl, hspent, fun _ => rfl⟩
      · intro side
        rfl
    exact (later_preserved r _).run_all hnow hmore
  constructor
  · exact hlaw.consumptions_nodup
  · intro r hr
    have hrow := hlaw.rows r hr
    refine ⟨hrow.active, hrow.pending, ?_, ?_⟩
    · intro hended
      rcases (hlater r hr (Or.inl hended)).row with ⟨r', hr', _, _, _, hsame⟩
      rw [hsame hended] at hr'
      exact ⟨hr', hrow.ended hended⟩
    · intro hspent side
      have hthen := hlater r hr hspent
      constructor
      · exact hthen.count side
      · intro now hle
        exact hthen.consumeToken_none side hle

namespace Sample

def session : Uuid where
  text := "5e000000-0000-4000-8000-000000000001"
  canonical := by decide

/-- Both sides connect to a session and it ends twice. -/
def sessionEndedTwice : List SessionEvent :=
  [SessionEvent.create session tenant.text agent.text none SessionMode.control
      "v" "a" 60 1,
    SessionEvent.consume Side.viewer "v" 2,
    SessionEvent.consume Side.agent "a" 3,
    SessionEvent.markEnded session "connection_closed" 4,
    SessionEvent.markEnded session "user_ended" 5]

end Sample

theorem session_life_endedTwice :
    exists s t r, sessionMachine.run (SessionStore.start Sample.database, 0)
        Sample.sessionEndedTwice = some (s, 5) ∧
      sessionMachine.run (s, 5) [SessionEvent.consume Side.agent "a" 6] =
        some (t, 6) ∧
      s.db.sessions = [r] ∧ r.endedReason = some "connection_closed" ∧
      s.consumptions.Nodup ∧ r ∈ t.db.sessions ∧
      t.db.consumeToken Side.agent "a" 7 = none := by
  obtain ⟨s, t, r, hrun, hmore, hrows, hended, hreason, htoken⟩ :
      exists s t r, sessionMachine.run (SessionStore.start Sample.database, 0)
          Sample.sessionEndedTwice = some (s, 5) ∧
        sessionMachine.run (s, 5) [SessionEvent.consume Side.agent "a" 6] =
          some (t, 6) ∧
        s.db.sessions = [r] ∧ r.status = SessionStatus.ended ∧
        r.endedReason = some "connection_closed" ∧ r.token Side.agent = "a" :=
    ⟨_, _, _, rfl, rfl, rfl, rfl, rfl, rfl⟩
  have hempty : Sample.database.sessions = [] := rfl
  have hlife := session_life hempty hrun hmore
  have hrow := hlife.right r (by rw [hrows]; exact List.mem_singleton.mpr rfl)
  have hlast := (hrow.right.right.right (Or.inl hended) Side.agent).right 7 (by decide)
  rw [htoken] at hlast
  exact ⟨s, t, r, hrun, hmore, hrows, hreason, hlife.left,
    (hrow.right.right.left hended).left, hlast⟩

end Backend
end LeoOne
