import LeoOne.Scheduler.Progress

/-!
# Edits during a firing

A firing works from a snapshot of the row, and its final statement writes the flag
or the date of the row as it is by then.  `Update` reads the row, then writes all
of its columns.  Nothing keeps the two apart.  An edit survives when the final
statement comes first; when it comes last, it disables a one-shot schedule that
has just been given a new date, or replaces the date of the new expression by one
of the old expression.
-/

namespace LeoOne
namespace Scheduler

open Foundation
open Backend

/-- A date of the schedule: its own, or one that `Next` gives. -/
def IsDate (cron : Cron) (timing : Timing) (t : Nat) : Prop :=
  match timing with
  | Timing.once runAt => t = runAt
  | Timing.recurring expr =>
      exists next since, cron.parseStandard expr = Except.ok next ∧ next since = t ∧
        t ≠ 0

/-- The statements of `Update` up to its `UPDATE`. -/
def Statement.isEdit : Statement -> Bool
  | Statement.readSchedule _ _ _ => true
  | Statement.writeSchedule _ _ _ => true
  | _ => false

/-- What is left of a firing. -/
def Firing (ks : List Statement) : Prop :=
  forall k, k ∈ ks -> k.isInner = true ∨ k.isAdvance = true

/-- The goroutines that are there run on, in any order; no request is added. -/
def overlap (cron : Cron) : Machine State (PoolEvent Empty Input) :=
  Pool.machine (fun r => nomatch r) (perform cron)

/-- The condition on each statement: a new expression has a date ahead when
`Update` reads the row, and the final statement of a firing that succeeds comes
before the `UPDATE`, or writes a date of the row as it is by then. -/
def KeepsEdit (cron : Cron) (p : State) : PoolEvent Empty Input -> Prop
  | PoolEvent.start _ => True
  | PoolEvent.exec i x =>
      match p.head? i with
      | some (Statement.readSchedule _ _ (some req), _) =>
          forall expr, req.cronExpression = some expr -> hasNext cron expr x.now = true
      | some (Statement.advanceNextRun d, _) =>
          x.fails = true ∨ p.anyPending Statement.isEdit = true ∨
            forall r, r ∈ p.shared.tables.schedules -> r.id = d.id ->
              exists expr next, d.cronExpression = some expr ∧
                cron.parseStandard expr = Except.ok next ∧
                IsDate cron r.timing (next x.now)
      | _ => True

/-!
## The rows the request names, from the `UPDATE` on
-/

section Edited

variable {cron : Cron} {tenantId scheduleId : String} {w : Assignment}
  {good : ScheduleRow -> Prop}

/-- The rows that the request names satisfy `good`. -/
def Edited (tenantId scheduleId : String) (good : ScheduleRow -> Prop) (t : Tables) :
    Prop :=
  forall r, r ∈ t.schedules -> isSchedule tenantId scheduleId r = true -> good r

/-- The request has been answered with the row. -/
def Succeeded (s : Service) : Prop :=
  exists row, Answer.schedule 200 row ∈ s.answers

/-- From the read of `Update` on: the `UPDATE` is pending at most once, and either
the request has not succeeded yet or the rows it names are as they should be. -/
structure Underway (tenantId scheduleId : String) (w : Assignment)
    (good : ScheduleRow -> Prop) (p : State) : Prop where
  kinds : forall k, p.Pending k -> k.isInner = true ∨ k.isAdvance = true ∨
    k = Statement.writeSchedule tenantId scheduleId w ∨
    k = Statement.respondSchedule 200 scheduleId
  single : Pool.pendingCount Statement.isEdit p ≤ 1
  state :
    (¬ p.Pending (Statement.respondSchedule 200 scheduleId) ∧ ¬ Succeeded p.shared) ∨
    (p.anyPending Statement.isEdit = false ∧
      Edited tenantId scheduleId good p.shared.tables)

/-- The final statement of a firing that succeeds after the `UPDATE` keeps the
rows as they should be. -/
def Harmless (cron : Cron) (tenantId scheduleId : String)
    (good : ScheduleRow -> Prop) (p : State) (e : PoolEvent Empty Input) : Prop :=
  forall i x d rest, e = PoolEvent.exec i x ->
    p.head? i = some (Statement.advanceNextRun d, rest) -> x.fails = false ->
    p.anyPending Statement.isEdit = false ->
    forall r, r ∈ p.shared.tables.schedules ->
      isSchedule tenantId scheduleId r = true -> good r ->
      r.id = d.id -> good (Tables.advanced cron d x.now r)

theorem isSchedule_advanced (d : DueSchedule) (now : Nat) (r : ScheduleRow) :
    isSchedule tenantId scheduleId (Tables.advanced cron d now r) =
      isSchedule tenantId scheduleId r := by
  unfold Tables.advanced
  split
  · rfl
  · split
    · rfl
    · rfl

theorem edited_advance {t : Tables} {d : DueSchedule} {now : Nat}
    (h : Edited tenantId scheduleId good t)
    (hkeep : forall r, r ∈ t.schedules -> isSchedule tenantId scheduleId r = true ->
      good r -> r.id = d.id -> good (Tables.advanced cron d now r)) :
    Edited tenantId scheduleId good (t.advanceNextRun cron d now) := by
  intro r hr hsel
  rcases Table.mem_updateWhere.mp hr with ⟨old, hold, ⟨hid, heq⟩ | ⟨_, heq⟩⟩
  · subst heq
    rw [isSchedule_advanced] at hsel
    exact hkeep old hold hsel (h old hold hsel) (of_decide_eq_true hid)
  · subst heq
    exact h r hold hsel

/-- The statements that follow a statement other than a read are no edits. -/
theorem Moves.no_edit {x : Input} {s t : Service} {k : Statement}
    {cont : List Statement} (h : Moves cron x s k t cont)
    (hk : k.isInner = true ∨ k.isAdvance = true ∨
      k = Statement.writeSchedule tenantId scheduleId w ∨
      k = Statement.respondSchedule 200 scheduleId) :
    cont.countP Statement.isEdit = 0 := by
  rcases hk with hk | hk | hk | hk
  · apply List.countP_eq_zero.mpr
    intro j hj
    have hinner := (h.inner hk).right.right.right j hj
    cases j with
    | readSchedule | writeSchedule => cases hinner
    | _ => simp [Statement.isEdit]
  · cases h with
    | skipped | refused | advanced => rfl
    | responded | selected | loaded | resolved | commanded | checked | found
    | inserted | read | written | deleted => cases hk
  · subst hk
    cases h with
    | skipped | refused | written => rfl
  · subst hk
    cases h with
    | skipped | refused | responded => rfl

/-- What the final statement of a firing does. -/
theorem Moves.advance_cases {x : Input} {s t : Service} {d : DueSchedule}
    {cont : List Statement} (h : Moves cron x s (Statement.advanceNextRun d) t cont) :
    t.answers = s.answers ∧ cont = [] ∧
      (t.tables = s.tables ∨
        (x.fails = false ∧ t.tables = s.tables.advanceNextRun cron d x.now)) := by
  cases h with
  | skipped =>
      exact ⟨rfl, rfl, Or.inl rfl⟩
  | refused _ hnot =>
      cases hnot
  | advanced hfails =>
      exact ⟨rfl, rfl, Or.inr ⟨hfails, rfl⟩⟩

/-- What the `UPDATE` of `Update` does. -/
theorem Moves.write_cases {x : Input} {s t : Service} {cont : List Statement}
    (h : Moves cron x s (Statement.writeSchedule tenantId scheduleId w) t cont) :
    (t.tables = s.tables ∧ cont = [] ∧ (Succeeded t -> Succeeded s)) ∨
      (s.tables.writeSchedule tenantId scheduleId w = some t.tables ∧
        t.answers = s.answers ∧ cont = [Statement.respondSchedule 200 scheduleId]) := by
  cases h with
  | skipped =>
      exact Or.inl ⟨rfl, rfl, id⟩
  | refused =>
      left
      refine ⟨rfl, rfl, ?_⟩
      rintro ⟨row, hrow⟩
      rcases List.mem_cons.mp hrow with heq | hold
      · cases heq
      · exact ⟨row, hold⟩
  | written hwrite =>
      exact Or.inr ⟨hwrite, rfl, rfl⟩

/-- The rows a request names depend on the schedules only. -/
theorem Edited.congr {t t' : Tables} (h : Edited tenantId scheduleId good t)
    (hrows : t'.schedules = t.schedules) : Edited tenantId scheduleId good t' := by
  intro r hr
  rw [hrows] at hr
  exact h r hr

/-- What a statement has to show: the kinds of the statements that follow, and
what becomes of the request. -/
theorem underway_next {p p' : State} {k : Statement} {t : Service} {now : Nat}
    {o : Outcome Service Statement} (h : Underway tenantId scheduleId w good p)
    (hexec : Pool.Executed p p' k o) (hspawned : o.spawned = [])
    (hshared : o.shared = { t with clock := now })
    (hnone : o.cont.countP Statement.isEdit = 0)
    (hkinds : forall j, j ∈ o.cont -> j.isInner = true ∨
      j = Statement.respondSchedule 200 scheduleId)
    (hwaiting : ¬ p.Pending (Statement.respondSchedule 200 scheduleId) ->
      ¬ Succeeded p.shared ->
      (Statement.respondSchedule 200 scheduleId ∉ o.cont ∧ ¬ Succeeded t) ∨
      (k.isEdit = true ∧ Edited tenantId scheduleId good t.tables))
    (hdone : p.anyPending Statement.isEdit = false ->
      Edited tenantId scheduleId good p.shared.tables ->
      Edited tenantId scheduleId good t.tables) :
    Underway tenantId scheduleId w good p' := by
  have hcreated : o.created = o.cont := by
    rw [Outcome.created, hspawned]
    exact List.append_nil _
  have hcount := hexec.count Statement.isEdit
  rw [hcreated, hnone] at hcount
  have hbefore := h.single
  have hsucceeded : Succeeded p'.shared <-> Succeeded t := by
    rw [hexec.shared, hshared]
    exact Iff.rfl
  have htables : p'.shared.tables = t.tables := by
    rw [hexec.shared, hshared]
  have hzero : Pool.pendingCount Statement.isEdit p' = 0 ->
      p'.anyPending Statement.isEdit = false := by
    intro hzero
    apply Pool.anyPending_eq_false.mpr
    intro j hj
    rw [← Bool.not_eq_true]
    intro hedit
    have hpos := Pool.pendingCount_pos hj hedit
    rw [hzero] at hpos
    cases hpos
  constructor
  · intro j hj
    rcases hexec.pending hj with hnew | hold
    · rw [hcreated] at hnew
      rcases hkinds j hnew with hinner | hrespond
      · exact Or.inl hinner
      · exact Or.inr (Or.inr (Or.inr hrespond))
    · exact h.kinds j hold
  · omega
  · rcases h.state with ⟨hnot, hfail⟩ | ⟨hno, hedited⟩
    · rcases hwaiting hnot hfail with ⟨hcont, hstill⟩ | ⟨hedit, hgood⟩
      · left
        refine ⟨?_, fun hs => hstill (hsucceeded.mp hs)⟩
        intro hpending
        rcases hexec.pending hpending with hnew | hold
        · rw [hcreated] at hnew
          exact hcont hnew
        · exact hnot hold
      · right
        rw [htables]
        refine ⟨hzero ?_, hgood⟩
        rw [List.countP_singleton, if_pos hedit] at hcount
        omega
    · right
      rw [htables]
      refine ⟨hzero ?_, hdone hno hedited⟩
      rw [Pool.pendingCount_eq_zero (Pool.anyPending_eq_false.mp hno)] at hcount
      omega

/-- One statement of the two goroutines. -/
theorem underway_exec {p p' : State} {i : Nat} {x : Input} {k : Statement}
    {rest : List Statement} {o : Outcome Service Statement}
    (hwrite : forall t t', Tables.writeSchedule t tenantId scheduleId w = some t' ->
      Edited tenantId scheduleId good t')
    (h : Underway tenantId scheduleId w good p)
    (hharmless : Harmless cron tenantId scheduleId good p (PoolEvent.exec i x))
    (hhead : p.head? i = some (k, rest)) (hperform : perform cron k x p.shared = some o)
    (hexec : Pool.Executed p p' k o) : Underway tenantId scheduleId w good p' := by
  rcases perform_some hperform with ⟨t, hmoves, hshared, hspawned, _⟩
  have hkind := h.kinds k hexec.running
  have hnext := underway_next h hexec hspawned hshared (hmoves.no_edit hkind)
  rcases hkind with hk | hk | hk | hk
  · rcases hmoves.inner hk with ⟨hrows, _, hanswers, hcont⟩
    apply hnext
    · intro j hj
      exact Or.inl (hcont j hj)
    · intro _ hfail
      left
      refine ⟨fun hj => ?_, ?_⟩
      · cases hcont _ hj
      · unfold Succeeded
        rw [hanswers]
        exact hfail
    · intro _ hedited
      exact hedited.congr hrows
  · cases k with
    | advanceNextRun d =>
        rcases hmoves.advance_cases with ⟨hanswers, hcont, htables⟩
        rw [hcont] at hnext
        apply hnext
        · intro j hj
          cases hj
        · intro _ hfail
          left
          refine ⟨List.not_mem_nil, ?_⟩
          unfold Succeeded
          rw [hanswers]
          exact hfail
        · intro hno hedited
          rcases htables with hsame | ⟨hfails, hadvanced⟩
          · rw [hsame]
            exact hedited
          · rw [hadvanced]
            apply edited_advance hedited
            exact hharmless i x d rest rfl hhead hfails hno
    | _ => cases hk
  · subst hk
    rcases hmoves.write_cases with ⟨htables, hcont, hanswers⟩ | ⟨hwritten, _, hcont⟩
    · rw [hcont] at hnext
      apply hnext
      · intro j hj
        cases hj
      · intro _ hfail
        left
        exact ⟨List.not_mem_nil, fun hs => hfail (hanswers hs)⟩
      · intro _ hedited
        rw [htables]
        exact hedited
    · apply hnext
      · intro j hj
        rw [hcont, List.mem_singleton] at hj
        exact Or.inr hj
      · intro _ _
        exact Or.inr ⟨rfl, hwrite _ _ hwritten⟩
      · intro _ _
        exact hwrite _ _ hwritten
  · subst hk
    have hcases : o.cont = [] ∧ t.tables = p.shared.tables := by
      generalize o.cont = cont at hmoves
      cases hmoves with
      | skipped | refused | responded => exact ⟨rfl, rfl⟩
    rw [hcases.left] at hnext
    apply hnext
    · intro j hj
      cases hj
    · intro hnot _
      exact absurd hexec.running hnot
    · intro _ hedited
      rw [hcases.right]
      exact hedited

theorem underway_preserved
    (hwrite : forall t t', Tables.writeSchedule t tenantId scheduleId w = some t' ->
      Edited tenantId scheduleId good t') :
    (overlap cron).Preserves (Harmless cron tenantId scheduleId good)
      (Underway tenantId scheduleId w good) := by
  intro p e p' h hharmless hstep
  rcases Pool.step_cases hstep with ⟨r, _, _⟩ | ⟨i, x, k, rest, o, rfl, hhead, hperform, rfl⟩
  · exact nomatch r
  · exact underway_exec hwrite h hharmless hhead hperform (Pool.executed hhead o)

/-- A firing, and a request that reads its row and accepts it. -/
theorem underway_start {p p' : State} {firing : List Statement} {x : Input}
    {req : UpdateScheduleRequest} {row : ScheduleRow} (hfiring : Firing firing)
    (hprocs : p.procs =
      [firing, [Statement.readSchedule tenantId scheduleId (some req)]])
    (hnew : ¬ Succeeded p.shared) (hfails : x.fails = false)
    (hrow : p.shared.tables.findSchedule tenantId scheduleId = some row)
    (hcheck : req.check cron x.now row = Except.ok w)
    (hstep : (overlap cron).step p (PoolEvent.exec 1 x) = some p') :
    Underway tenantId scheduleId w good p' := by
  have hfound : isSchedule tenantId scheduleId row = true := List.find?_some hrow
  have hparse : (Uuid.parse scheduleId).isNone = false := by
    simp only [isSchedule, Bool.and_eq_true] at hfound
    rw [Uuid.parse_of_named hfound.left]
    rfl
  have hhead : p.head? 1 =
      some (Statement.readSchedule tenantId scheduleId (some req), []) := by
    unfold Pool.head?
    rw [hprocs]
    rfl
  have hafter : p'.shared.answers = p.shared.answers ∧
      p'.procs = [firing, [Statement.writeSchedule tenantId scheduleId w]] := by
    simp only [overlap, Pool.machine, hhead] at hstep
    unfold perform at hstep
    split at hstep
    · cases hstep
    · rename_i o ho
      split at ho
      · cases ho
        cases hstep
        simp [Statement.exec, hfails, hparse, hrow, hcheck, hprocs]
      · cases ho
  rcases hafter with ⟨hanswers, hprocs'⟩
  have hpending : forall k, p'.Pending k ->
      k ∈ firing ∨ k = Statement.writeSchedule tenantId scheduleId w := by
    rintro k ⟨q, hq, hk⟩
    rw [hprocs'] at hq
    simp only [List.mem_cons, List.not_mem_nil, or_false] at hq
    rcases hq with rfl | rfl
    · exact Or.inl hk
    · exact Or.inr (List.mem_singleton.mp hk)
  constructor
  · intro k hk
    rcases hpending k hk with hmem | hwrite
    · rcases hfiring k hmem with hinner | hadvance
      · exact Or.inl hinner
      · exact Or.inr (Or.inl hadvance)
    · exact Or.inr (Or.inr (Or.inl hwrite))
  · have hnone : firing.countP Statement.isEdit = 0 := by
      apply List.countP_eq_zero.mpr
      intro k hk
      rcases hfiring k hk with hkind | hkind
      all_goals
        cases k with
        | readSchedule | writeSchedule => cases hkind
        | _ => simp [Statement.isEdit]
    simp [Pool.pendingCount, hprocs', hnone, Statement.isEdit]
  · left
    constructor
    · intro hk
      rcases hpending _ hk with hmem | hwrite
      · rcases hfiring _ hmem with hkind | hkind
        · cases hkind
        · cases hkind
      · cases hwrite
    · unfold Succeeded
      rw [hanswers]
      exact hnew

/-- The rows that the request names, once both goroutines have come to their end
and the request has succeeded. -/
theorem edited_run {p q : State} {firing : List Statement} {x : Input}
    {req : UpdateScheduleRequest} {row : ScheduleRow}
    {es : List (PoolEvent Empty Input)} (hfiring : Firing firing)
    (hprocs : p.procs =
      [firing, [Statement.readSchedule tenantId scheduleId (some req)]])
    (hnew : ¬ Succeeded p.shared) (hfails : x.fails = false)
    (hrow : p.shared.tables.findSchedule tenantId scheduleId = some row)
    (hcheck : req.check cron x.now row = Except.ok w)
    (hwrite : forall t t', Tables.writeSchedule t tenantId scheduleId w = some t' ->
      Edited tenantId scheduleId good t')
    (hmeets : (overlap cron).Meets (Harmless cron tenantId scheduleId good) p
      (PoolEvent.exec 1 x :: es))
    (hrun : (overlap cron).run p (PoolEvent.exec 1 x :: es) = some q)
    (hsuccess : Succeeded q.shared) :
    Edited tenantId scheduleId good q.shared.tables := by
  rcases Machine.run_cons hrun with ⟨p', hstep, htail⟩
  have hstart : Underway tenantId scheduleId w good p' :=
    underway_start hfiring hprocs hnew hfails hrow hcheck hstep
  have hend := (underway_preserved hwrite).run hstart (hmeets.right p' hstep) htail
  rcases hend.state with ⟨_, hfail⟩ | ⟨_, hedited⟩
  · exact absurd hsuccess hfail
  · exact hedited

end Edited

/-!
## The two promises of an edit
-/

/-- The timing that a request which changes the schedule writes, and its date. -/
theorem changed_date {cron : Cron} {now : Nat} {req : UpdateScheduleRequest}
    {row : ScheduleRow} {w : Assignment}
    (hcheck : req.check cron now row = Except.ok w)
    (hchange : req.changesSchedule = true)
    (hnext : forall expr, req.cronExpression = some expr ->
      hasNext cron expr now = true)
    {timing : Timing} (hcron : timing.cronExpression = w.cronExpression)
    (hrunAt : timing.runAt = w.runAt) :
    exists t, w.nextRunAt = some t ∧ IsDate cron timing t := by
  rcases UpdateScheduleRequest.check_ok hcheck with
    ⟨next, hfirst, hcron', hrunAt', _, hdate⟩
  have hany : (req.changesSchedule || req.changesTarget) = true := by
    rw [hchange]
    rfl
  replace hfirst := UpdateScheduleRequest.nextRun_changed hany hfirst
  cases timing with
  | once t =>
      rw [← hcron', ← hrunAt', ← hcron, ← hrunAt] at hfirst
      rcases firstRun_once hfirst with ⟨heq, hlater⟩
      refine ⟨next, ?_, heq⟩
      rw [hdate, if_neg]
      rw [heq]
      exact Nat.ne_of_gt (Nat.zero_lt_of_lt hlater)
  | recurring expr =>
      have hreq : req.cronExpression = some expr := by
        rw [hcron'] at hcron
        simp only [UpdateScheduleRequest.changesSchedule, Bool.or_eq_true,
          Option.isSome_iff_exists] at hchange
        unfold UpdateScheduleRequest.timing at hcron
        cases hr : req.runAt with
        | some t =>
            rw [hr] at hcron
            cases hcron
        | none =>
            rw [hr] at hcron hchange
            cases he : req.cronExpression with
            | some expr' =>
                rw [he] at hcron
                exact hcron.symm
            | none =>
                rw [he] at hchange
                simp at hchange
      rw [← hcron', ← hcron] at hfirst
      rcases firstRun_recurring hfirst with ⟨f, hparse, heq⟩
      have hlater := (hasNext_iff hparse now).mp (hnext expr hreq)
      have hpos : next ≠ 0 := by
        rw [heq]
        exact Nat.ne_of_gt (Nat.zero_lt_of_lt hlater)
      exact ⟨next, by rw [hdate, if_neg hpos], f, now, hparse, heq.symm, hpos⟩

/-- The rows that the `UPDATE` leaves. -/
theorem edited_write {tenantId scheduleId : String} {w : Assignment}
    {good : ScheduleRow -> Prop}
    (hgood : forall old target timing, timing.cronExpression = w.cronExpression ->
      timing.runAt = w.runAt -> good (ScheduleRow.assign w target timing old))
    (t t' : Tables) (hwrite : t.writeSchedule tenantId scheduleId w = some t') :
    Edited tenantId scheduleId good t' := by
  rcases Tables.writeSchedule_some hwrite with
    ⟨hsame, hnone⟩ | ⟨target, timing, hcron, hrunAt, hrows⟩
  · intro r hr hsel
    rw [hsame] at hr
    rw [hnone r hr] at hsel
    cases hsel
  · intro r hr hsel
    rw [hrows] at hr
    rcases Table.mem_updateWhere.mp hr with ⟨old, hold, ⟨_, heq⟩ | ⟨hnot, heq⟩⟩
    · rw [heq]
      exact hgood old target timing hcron hrunAt
    · rw [heq, hnot] at hsel
      cases hsel

/-- The final statement never enables a schedule. -/
theorem advanced_disabled (cron : Cron) (d : DueSchedule) (now : Nat)
    {r : ScheduleRow} (h : r.enabled = false) :
    (Tables.advanced cron d now r).enabled = false := by
  unfold Tables.advanced
  split
  · rfl
  · split
    · rfl
    · exact h

/-- A schedule that is enabled with one of its dates. -/
def Live (cron : Cron) (r : ScheduleRow) : Prop :=
  r.enabled = true ∧ IsDate cron r.timing r.nextRunAt

theorem KeepsEdit.harmless {cron : Cron} {p : State} {e : PoolEvent Empty Input}
    (h : KeepsEdit cron p e) (tenantId scheduleId : String) :
    Harmless cron tenantId scheduleId (Live cron) p e := by
  intro i x d rest he hhead hfails hno r hr _ hlive hid
  subst he
  simp only [KeepsEdit, hhead] at h
  rcases h with htrue | hany | hdates
  · rw [hfails] at htrue
    cases htrue
  · rw [hno] at hany
    cases hany
  · rcases hdates r hr hid with ⟨expr, next, hexpr, hparse, hdate⟩
    rw [advanced_recurring hexpr hparse r]
    exact ⟨hlive.left, hdate⟩

/-- The condition when no final statement follows the `UPDATE`, as a test. -/
def finishesFirst (cron : Cron) (p : State) : PoolEvent Empty Input -> Bool
  | PoolEvent.start _ => true
  | PoolEvent.exec i x =>
      match p.head? i with
      | some (Statement.readSchedule _ _ (some req), _) =>
          req.cronExpression.all fun expr => hasNext cron expr x.now
      | some (Statement.advanceNextRun _, _) =>
          x.fails || p.anyPending Statement.isEdit
      | _ => true

theorem keepsEdit_of_finishesFirst {cron : Cron} {p : State}
    {e : PoolEvent Empty Input} (h : finishesFirst cron p e = true) :
    KeepsEdit cron p e := by
  cases e with
  | start r =>
      exact trivial
  | exec i x =>
      simp only [finishesFirst] at h
      simp only [KeepsEdit]
      split at h
      · intro expr hexpr
        rw [hexpr] at h
        exact h
      · rw [Bool.or_eq_true] at h
        rcases h with hfails | hany
        · exact Or.inl hfails
        · exact Or.inr (Or.inl hany)
      · exact trivial

/-- A request that reads a row while a firing is under way and that succeeds.  If
every statement meets the condition, a new date or expression of a schedule that
is to be enabled is honoured; a schedule that is to be disabled stays so in any
case. -/
theorem edit_survives_firing {cron : Cron} {tenantId scheduleId : String}
    {p q : State} {firing : List Statement} {x : Input}
    {req : UpdateScheduleRequest} {row : ScheduleRow} {w : Assignment}
    {es : List (PoolEvent Empty Input)} (hfiring : Firing firing)
    (hprocs : p.procs =
      [firing, [Statement.readSchedule tenantId scheduleId (some req)]])
    (hnew : ¬ Succeeded p.shared) (hfails : x.fails = false)
    (hrow : p.shared.tables.findSchedule tenantId scheduleId = some row)
    (hcheck : req.check cron x.now row = Except.ok w)
    (hrun : (overlap cron).run p (PoolEvent.exec 1 x :: es) = some q)
    (hsuccess : Succeeded q.shared) :
    ((overlap cron).Meets (KeepsEdit cron) p (PoolEvent.exec 1 x :: es) ->
      req.changesSchedule = true -> req.enabled.getD row.enabled = true ->
      forall r, r ∈ q.shared.tables.schedules ->
        isSchedule tenantId scheduleId r = true ->
        r.enabled = true ∧ IsDate cron r.timing r.nextRunAt) ∧
    (req.enabled = some false ->
      forall r, r ∈ q.shared.tables.schedules ->
        isSchedule tenantId scheduleId r = true -> r.enabled = false) := by
  have hhead : p.head? 1 =
      some (Statement.readSchedule tenantId scheduleId (some req), []) := by
    unfold Pool.head?
    rw [hprocs]
    rfl
  rcases UpdateScheduleRequest.check_ok hcheck with ⟨_, _, _, _, hon, _⟩
  constructor
  · intro hmeets hchange henabled
    have hnext : forall expr, req.cronExpression = some expr ->
        hasNext cron expr x.now = true := by
      have hfirst := hmeets.left
      simp only [KeepsEdit, hhead] at hfirst
      exact hfirst
    show Edited tenantId scheduleId (Live cron) q.shared.tables
    refine edited_run hfiring hprocs hnew hfails hrow hcheck ?_ ?_ hrun hsuccess
    · apply edited_write
      intro old target timing hcron hrunAt
      rcases changed_date hcheck hchange hnext hcron hrunAt with ⟨t, ht, hdate⟩
      refine ⟨hon.trans henabled, ?_⟩
      show IsDate cron timing (w.nextRunAt.getD old.nextRunAt)
      rw [ht]
      exact hdate
    · exact hmeets.mono fun p e h => h.harmless tenantId scheduleId
  · intro hdisable
    show Edited tenantId scheduleId (fun r => r.enabled = false) q.shared.tables
    refine edited_run hfiring hprocs hnew hfails hrow hcheck ?_ ?_ hrun hsuccess
    · apply edited_write
      intro old target timing _ _
      show w.enabled = false
      rw [hon, hdisable]
      rfl
    · apply (Machine.meets_true p _).mono
      intro p e _ i x d rest _ _ _ _ r _ _ hoff _
      exact advanced_disabled cron d x.now hoff

namespace Sample

/-- A one-shot schedule that is due at noon, and the request that moves it. -/
def dueAtNoon : ScheduleRow := row (Timing.once noon) noon

def later : UpdateScheduleRequest :=
  { patch with enabled := some true, runAt := some (noon + 80 * second) }

/-- The firing has begun, and the request is about to read the row. -/
def firingAndRequest : State where
  shared := start [dueAtNoon]
  procs :=
    [fireSchedule dueAtNoon.due,
     [Statement.readSchedule tenant.text schedule.text (some later)]]

/-- The request reads the row, the firing runs to its end, the request writes. -/
def firingFirst : List (PoolEvent Empty Input) :=
  [PoolEvent.exec 1 (fine noon), PoolEvent.exec 0 (fine noon),
   PoolEvent.exec 0 (fine noon), PoolEvent.exec 0 (fine noon),
   PoolEvent.exec 0 (fine noon), PoolEvent.exec 1 (fine noon),
   PoolEvent.exec 1 (fine noon)]

/-- The rows that a request has been answered with. -/
def answered (s : Service) : List ScheduleRow :=
  s.answers.filterMap fun
    | Answer.schedule 200 row => some row
    | _ => none

end Sample

/-- A request whose `UPDATE` follows the final statement of the firing: the
schedule is enabled, for its new date. -/
theorem edit_survives_firing_that_ends_first :
    exists q, (overlap Sample.cron).run Sample.firingAndRequest Sample.firingFirst =
        some q ∧
      forall r, r ∈ q.shared.tables.schedules ->
        isSchedule Sample.tenant.text Sample.schedule.text r = true ->
        r.enabled = true ∧ IsDate Sample.cron r.timing r.nextRunAt := by
  have hend : ((overlap Sample.cron).run Sample.firingAndRequest Sample.firingFirst).map
      (fun q => (Sample.answered q.shared).length) = some 1 := by
    decide +kernel
  rcases Option.map_eq_some_iff.mp hend with ⟨q, hrun, hlength⟩
  have hsuccess : Succeeded q.shared := by
    rcases List.exists_mem_of_length_pos (hlength ▸ Nat.one_pos) with ⟨row, hrow⟩
    rcases List.mem_filterMap.mp hrow with ⟨answer, hanswer, heq⟩
    split at heq
    · exact ⟨_, hanswer⟩
    · cases heq
  have hmeets : (overlap Sample.cron).Meets (KeepsEdit Sample.cron)
      Sample.firingAndRequest Sample.firingFirst := by
    have htest : (overlap Sample.cron).Meets
        (fun p e => finishesFirst Sample.cron p e = true)
        Sample.firingAndRequest Sample.firingFirst := by
      decide +kernel
    exact htest.mono fun p e => keepsEdit_of_finishesFirst
  have hfiring : Firing (fireSchedule Sample.dueAtNoon.due) := by
    intro k hk
    rcases List.mem_cons.mp hk with rfl | hk
    · exact Or.inl rfl
    · rw [List.mem_singleton] at hk
      rw [hk]
      exact Or.inr rfl
  have hnew : ¬ Succeeded Sample.firingAndRequest.shared := by
    rintro ⟨row, hrow⟩
    cases hrow
  refine ⟨q, hrun, ?_⟩
  exact (edit_survives_firing hfiring rfl hnew rfl rfl rfl hrun hsuccess).left
    hmeets rfl rfl

/-- A request that comes between the `SELECT` of a poll and the final statement of
the firing is answered with the schedule it asked for, which the final statement
then disables: the new date never runs. -/
theorem firing_discards_edit :
    ((service Sample.cron).run
        { shared := Sample.start [Sample.dueAtNoon], procs := [] }
        ([PoolEvent.start Request.poll, PoolEvent.exec 0 (Sample.fine Sample.noon),
          PoolEvent.start (Request.update Sample.tenant.text Sample.schedule.text
            (some Sample.later))] ++
          List.replicate 3 (PoolEvent.exec 1 (Sample.fine Sample.noon)) ++
          List.replicate 4 (PoolEvent.exec 0 (Sample.fine Sample.noon)))).map
      (fun q => (q.procs.all List.isEmpty, Sample.answered q.shared,
        q.shared.tables.schedules)) =
      some (true,
        [{ Sample.dueAtNoon with
            timing := Timing.once (Sample.noon + 80 * Sample.second)
            nextRunAt := Sample.noon + 80 * Sample.second }],
        [{ Sample.dueAtNoon with
            timing := Timing.once (Sample.noon + 80 * Sample.second)
            nextRunAt := Sample.noon + 80 * Sample.second
            enabled := false
            lastRunAt := some Sample.noon }]) := by
  decide +kernel

end Scheduler
end LeoOne
