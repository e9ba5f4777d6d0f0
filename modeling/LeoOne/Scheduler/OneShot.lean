import LeoOne.Scheduler.Service

/-!
# One-shot schedules

A one-shot schedule carries its date twice, in `run_at` and in `next_run_at`.  A
firing disables it and leaves both dates where they are, in the past.  What keeps
it from firing again is the flag alone: `Update` compares the date with the
present when the schedule or the target changes, and not when a request only sets
the flag.

The results are about polls and requests that follow one another, each of them
complete before the next one begins.
-/

namespace LeoOne
namespace Scheduler

open Foundation
open Backend

/-- The row is for one date, which it has run. -/
def ScheduleRow.spent (r : ScheduleRow) : Bool :=
  match r.timing, r.lastRunAt with
  | Timing.once t, some last => t ≤ last
  | _, _ => false

/-- The request enables the schedule and changes neither its date nor its
target. -/
def UpdateScheduleRequest.onlyEnables (req : UpdateScheduleRequest) : Bool :=
  req.enabled = some true && !(req.changesSchedule || req.changesTarget)

/-- The condition on each statement: the final statements of the firings succeed,
and no request does no more than enable a schedule whose date has run. -/
def keepsSpent (s : Service) (k : Statement) (x : Input) : Bool :=
  match k with
  | Statement.advanceNextRun _ => !x.fails
  | Statement.readSchedule tenantId scheduleId (some req) =>
      !(req.onlyEnables &&
        (s.tables.findSchedule tenantId scheduleId).any ScheduleRow.spent)
  | _ => true

/-!
## The invariant

Between a poll's `SELECT` and the final statement of a firing, the schedule that
fires is still enabled; `waived` holds of the schedules for which that statement
is pending.
-/

structure Shots (waived : Uuid -> Prop) (s : Service) : Prop where
  ids : (s.tables.schedules.map ScheduleRow.id).Nodup
  past : forall id t, (id, some t) ∈ s.fired -> t ≤ s.clock
  once : forall id t, s.fired.count (id, some t) ≤ 1
  date : forall r, r ∈ s.tables.schedules -> forall t, r.timing = Timing.once t ->
    r.nextRunAt = t
  spent : forall r, r ∈ s.tables.schedules -> forall t, r.timing = Timing.once t ->
    (r.id, some t) ∈ s.fired ->
      (r.enabled = false ∧ r.spent = true) ∨ waived r.id

theorem ScheduleRow.spent_once {r : ScheduleRow} {t : Nat}
    (h : r.timing = Timing.once t) :
    r.spent = true <-> exists last, r.lastRunAt = some last ∧ t ≤ last := by
  unfold ScheduleRow.spent
  rw [h]
  cases r.lastRunAt with
  | none => simp
  | some last => simp

/-- Two rows with the same identifier are the same row. -/
theorem Shots.row_unique {waived : Uuid -> Prop} {s : Service} (h : Shots waived s)
    {r r' : ScheduleRow} (hr : r ∈ s.tables.schedules)
    (hr' : r' ∈ s.tables.schedules) (hid : r.id = r'.id) : r = r' :=
  List.inj_on_of_nodup_map h.ids hr hr' hid

/-- What a waiting statement needs: the date of a row that `Create` is about to
insert has not run; the row that `Update` is about to write keeps the
invariant. -/
def Ready (s : Service) : Statement -> Prop
  | Statement.scriptExists _ ins | Statement.insertSchedule _ ins =>
      forall t, ins.cronExpression = none -> ins.runAt = some t ->
        ins.nextRunAt = t ∧ forall id, (id, some t) ∉ s.fired
  | Statement.writeSchedule tenantId scheduleId w =>
      forall old, old ∈ s.tables.schedules ->
        isSchedule tenantId scheduleId old = true ->
        forall t, w.cronExpression = none -> w.runAt = some t ->
          w.nextRunAt.getD old.nextRunAt = t ∧
            ((old.id, some t) ∈ s.fired -> w.enabled = false ∧
              exists last, old.lastRunAt = some last ∧ t ≤ last)
  | k => k.isInner = false ∧ k.isAdvance = false

/-- A one-shot firing whose final statement is pending. -/
def Waived (ks : List Statement) (id : Uuid) : Prop :=
  exists d, Statement.advanceNextRun d ∈ ks ∧ d.id = id ∧ d.cronExpression = none

/-- The pending final statements are about the rows as they are. -/
def Fresh (ks : List Statement) (s : Service) : Prop :=
  forall d, Statement.advanceNextRun d ∈ ks ->
    forall r, r ∈ s.tables.schedules -> r.id = d.id ->
      r.timing.cronExpression = d.cronExpression

/-- A request in progress: a poll that is firing, or a handler before one of its
statements. -/
inductive Progressing (ks : List Statement) (s : Service) : Prop where
  | firing : (forall k, k ∈ ks -> k.isInner = true ∨ k.isAdvance = true) ->
      Shots (Waived ks) s -> Fresh ks s -> Progressing ks s
  | handling {k} : ks = [k] -> Shots (fun _ => False) s -> Ready s k ->
      Progressing ks s

theorem Shots.mono {waived weaker : Uuid -> Prop} {s : Service} (h : Shots waived s)
    (hle : forall id, waived id -> weaker id) : Shots weaker s where
  ids := h.ids
  past := h.past
  once := h.once
  date := h.date
  spent := by
    intro r hr t ht hfired
    rcases h.spent r hr t ht hfired with hdone | hwaived
    · exact Or.inl hdone
    · exact Or.inr (hle r.id hwaived)

/-- Time passes, and answers are written. -/
theorem Shots.later {waived : Uuid -> Prop} {s t : Service} (h : Shots waived s)
    (hrows : t.tables.schedules = s.tables.schedules) (hfired : t.fired = s.fired)
    (hclock : s.clock ≤ t.clock) : Shots waived t where
  ids := by
    rw [hrows]
    exact h.ids
  past := by
    intro id u hu
    rw [hfired] at hu
    exact Nat.le_trans (h.past id u hu) hclock
  once := by
    rw [hfired]
    exact h.once
  date := by
    rw [hrows]
    exact h.date
  spent := by
    rw [hrows, hfired]
    exact h.spent

/-- A request that has come to its end. -/
theorem Progressing.finished {s : Service} (h : Progressing [] s) :
    Shots (fun _ => False) s := by
  cases h with
  | firing _ hshots _ =>
      apply hshots.mono
      rintro id ⟨d, hd, _⟩
      cases hd
  | handling hk _ _ =>
      cases hk

theorem Progressing.stop {s t : Service} (h : Shots (fun _ => False) s)
    (hrows : t.tables.schedules = s.tables.schedules) (hfired : t.fired = s.fired)
    (hclock : s.clock ≤ t.clock) : Progressing [] t := by
  apply Progressing.firing
  · intro k hk
    cases hk
  · apply (h.later hrows hfired hclock).mono
    intro id hfalse
    exact hfalse.elim
  · intro d hd
    cases hd

/-!
## The `SELECT` of a poll
-/

theorem mem_dueRows {x : Input} {s : Service} {r : ScheduleRow} :
    r ∈ s.dueRows x <->
      r ∈ s.tables.schedules ∧ x.scanFails r.id = false ∧ r.enabled = true ∧
        r.nextRunAt ≤ x.now := by
  simp [Service.dueRows, ScheduleRow.isDue]

/-- A row is selected once. -/
theorem dueRows_nodup {waived : Uuid -> Prop} {x : Input} {s : Service}
    (h : Shots waived s) :
    ((s.dueRows x).map fun r => (r.id, r.timing.runAt)).Nodup := by
  have hids : ((s.dueRows x).map ScheduleRow.id).Nodup := by
    apply List.Nodup.sublist _ h.ids
    apply List.Sublist.map
    exact List.Sublist.trans List.filter_sublist List.filter_sublist
  apply List.Nodup.of_map Prod.fst
  rw [List.map_map]
  exact hids

/-- The dates of the rows that a poll selects have not run. -/
theorem due_not_fired {x : Input} {s : Service} (h : Shots (fun _ => False) s)
    {id : Uuid} {t : Nat}
    (hdue : (id, some t) ∈ (s.dueRows x).map fun r => (r.id, r.timing.runAt)) :
    (id, some t) ∉ s.fired := by
  intro hfired
  rcases List.mem_map.mp hdue with ⟨r, hr, heq⟩
  rcases mem_dueRows.mp hr with ⟨hmem, _, hon, _⟩
  have htiming : r.timing = Timing.once t := Timing.eq_once (congrArg Prod.snd heq)
  have hid : r.id = id := congrArg Prod.fst heq
  rw [← hid] at hfired
  rcases h.spent r hmem t htiming hfired with ⟨hoff, _⟩ | hfalse
  · rw [hon] at hoff
    cases hoff
  · exact hfalse

theorem selected_advances {x : Input} {s : Service} {d : DueSchedule} :
    Statement.advanceNextRun d ∈ (s.dueRows x).flatMap (fun r => fireSchedule r.due) <->
      exists r, r ∈ s.dueRows x ∧ d = r.due := by
  simp [List.mem_flatMap, fireSchedule]

/-- The `SELECT` records the firings; the rows that fire are waived. -/
theorem selected_shots {x : Input} {s : Service} (h : Shots (fun _ => False) s)
    (hclock : s.clock ≤ x.now) :
    Progressing ((s.dueRows x).flatMap fun r => fireSchedule r.due)
      { s with
        fired := s.fired ++ (s.dueRows x).map fun r => (r.id, r.timing.runAt)
        clock := x.now } := by
  apply Progressing.firing
  · intro k hk
    rcases List.mem_flatMap.mp hk with ⟨r, _, hkr⟩
    rcases List.mem_cons.mp hkr with rfl | hkr
    · exact Or.inl rfl
    · rw [List.mem_singleton] at hkr
      rw [hkr]
      exact Or.inr rfl
  · constructor
    · exact h.ids
    · intro id t hmem
      rcases List.mem_append.mp hmem with hold | hnew
      · exact Nat.le_trans (h.past id t hold) hclock
      · rcases List.mem_map.mp hnew with ⟨r, hr, heq⟩
        rcases mem_dueRows.mp hr with ⟨hrow, _, _, hdue⟩
        have htiming : r.timing = Timing.once t := Timing.eq_once (congrArg Prod.snd heq)
        rw [h.date r hrow t htiming] at hdue
        exact hdue
    · intro id t
      show (s.fired ++ _).count (id, some t) ≤ 1
      rw [List.count_append]
      by_cases hdue : (id, some t) ∈ (s.dueRows x).map fun r => (r.id, r.timing.runAt)
      · rw [List.count_eq_zero.mpr (due_not_fired h hdue), Nat.zero_add]
        exact List.nodup_iff_count_le_one.mp (dueRows_nodup h) _
      · rw [List.count_eq_zero.mpr hdue, Nat.add_zero]
        exact h.once id t
    · exact h.date
    · intro r hr t ht hmem
      rcases List.mem_append.mp hmem with hold | hnew
      · rcases h.spent r hr t ht hold with hdone | hfalse
        · exact Or.inl hdone
        · exact hfalse.elim
      · right
        rcases List.mem_map.mp hnew with ⟨r', hr', heq⟩
        have hsame : r' = r :=
          h.row_unique (mem_dueRows.mp hr').left hr (congrArg Prod.fst heq)
        subst hsame
        refine ⟨r'.due, selected_advances.mpr ⟨r', hr', rfl⟩, rfl, ?_⟩
        show r'.timing.cronExpression = none
        rw [ht]
        rfl
  · intro d hd r hr hid
    rcases selected_advances.mp hd with ⟨r', hr', heq⟩
    subst heq
    have hsame : r = r' := h.row_unique hr (mem_dueRows.mp hr').left hid
    rw [hsame]
    rfl

/-!
## The final statement of a firing
-/

/-- What the final statement leaves of a row whose snapshot is up to date: its
timing, and a one-shot row is disabled and spent. -/
theorem advanced_timing (cron : Cron) (d : DueSchedule) (now : Nat)
    (r : ScheduleRow) :
    (Tables.advanced cron d now r).timing = r.timing ∧
      (Tables.advanced cron d now r).id = r.id := by
  unfold Tables.advanced
  split
  · exact ⟨rfl, rfl⟩
  · split
    · exact ⟨rfl, rfl⟩
    · exact ⟨rfl, rfl⟩

theorem advanced_spent {cron : Cron} {d : DueSchedule} {now t : Nat}
    {r : ScheduleRow} (hd : d.cronExpression = none)
    (ht : r.timing = Timing.once t) (hpast : t ≤ now) :
    (Tables.advanced cron d now r).enabled = false ∧
      (Tables.advanced cron d now r).spent = true := by
  unfold Tables.advanced
  rw [hd]
  refine ⟨rfl, ?_⟩
  have hdone : ({ r with enabled := false, lastRunAt := some now } : ScheduleRow).timing =
      Timing.once t := ht
  exact (ScheduleRow.spent_once hdone).mpr ⟨now, rfl, hpast⟩

/-- The rows after the final statement of the firing of `d`. -/
theorem advance_rows {t : Tables} {cron : Cron} {d : DueSchedule} {now : Nat}
    {r : ScheduleRow} (hr : r ∈ (t.advanceNextRun cron d now).schedules) :
    exists old, old ∈ t.schedules ∧ old.id = r.id ∧ old.timing = r.timing ∧
      ((old.id = d.id ∧ r = Tables.advanced cron d now old) ∨
        (old.id ≠ d.id ∧ r = old)) := by
  rcases Table.mem_updateWhere.mp hr with ⟨old, hold, ⟨hsel, heq⟩ | ⟨hsel, heq⟩⟩
  · have hkept := advanced_timing cron d now old
    refine ⟨old, hold, ?_, ?_, Or.inl ⟨of_decide_eq_true hsel, heq⟩⟩
    · rw [heq, hkept.right]
    · rw [heq, hkept.left]
  · exact ⟨old, hold, by rw [heq], by rw [heq], Or.inr ⟨of_decide_eq_false hsel, heq⟩⟩

/-- The final statement of a firing lifts the waiver of its schedule. -/
theorem advanced_shots {cron : Cron} {d : DueSchedule} {rest : List Statement}
    {s : Service} {now : Nat}
    (hshots : Shots (Waived (Statement.advanceNextRun d :: rest)) s)
    (hfresh : Fresh (Statement.advanceNextRun d :: rest) s) (hclock : s.clock ≤ now) :
    Shots (Waived rest)
      { s with
        tables := s.tables.advanceNextRun cron d now
        clock := now } := by
  constructor
  · show ((Table.updateWhere _ _ s.tables.schedules).map ScheduleRow.id).Nodup
    rw [Table.map_updateWhere ScheduleRow.id
      (fun r => (advanced_timing cron d now r).right)]
    exact hshots.ids
  · intro id t hmem
    exact Nat.le_trans (hshots.past id t hmem) hclock
  · exact hshots.once
  · intro r hr t ht
    rcases advance_rows hr with ⟨old, hold, _, htiming, ⟨hid, heq⟩ | ⟨_, heq⟩⟩
    · rw [ht] at htiming
      have hnone : d.cronExpression = none := by
        rw [← hfresh d List.mem_cons_self old hold hid, htiming]
        rfl
      have hdate := hshots.date old hold t htiming
      rw [heq]
      unfold Tables.advanced
      rw [hnone]
      exact hdate
    · rw [heq] at ht
      rw [heq]
      exact hshots.date old hold t ht
  · intro r hr t ht hmem
    rcases advance_rows hr with ⟨old, hold, hrid, htiming, ⟨hid, heq⟩ | ⟨hne, heq⟩⟩
    · rw [ht] at htiming
      have hnone : d.cronExpression = none := by
        rw [← hfresh d List.mem_cons_self old hold hid, htiming]
        rfl
      have hpast : t ≤ now := Nat.le_trans (hshots.past _ t hmem) hclock
      rw [heq]
      exact Or.inl (advanced_spent hnone htiming hpast)
    · subst heq
      rcases hshots.spent r hold t ht hmem with hdone | ⟨d', hd', hid', hnone⟩
      · exact Or.inl hdone
      · right
        rcases List.mem_cons.mp hd' with heq | hrest
        · cases heq
          exact absurd hid'.symm hne
        · exact ⟨d', hrest, hid', hnone⟩

theorem advanced_fresh {cron : Cron} {d : DueSchedule} {rest : List Statement}
    {s : Service} {now : Nat} (hfresh : Fresh (Statement.advanceNextRun d :: rest) s) :
    Fresh rest
      { s with
        tables := s.tables.advanceNextRun cron d now
        clock := now } := by
  intro d' hd' r hr hid
  rcases advance_rows hr with ⟨old, hold, hrid, htiming, _⟩
  rw [← htiming]
  exact hfresh d' (List.mem_cons_of_mem _ hd') old hold (hrid.trans hid)

/-!
## The handlers
-/

/-- A date that lies ahead has not run. -/
theorem Shots.not_fired {waived : Uuid -> Prop} {s : Service} (h : Shots waived s)
    {now t : Nat} (hclock : s.clock ≤ now) (hlater : now < t) (id : Uuid) :
    (id, some t) ∉ s.fired := by
  intro hfired
  have hpast := h.past id t hfired
  exact absurd hlater (Nat.not_lt.mpr (Nat.le_trans hpast hclock))

/-- `Create` only goes on with a date that has not run. -/
theorem created_ready {cron : Cron} {x : Input} {s : Service}
    (h : Shots (fun _ => False) s) (hclock : s.clock ≤ x.now)
    {req : CreateScheduleRequest} {ins : Insertion}
    (hcheck : checkCreate cron x.now req = Except.ok ins) (tenantId : String) :
    Ready s (Statement.scriptExists tenantId ins) := by
  rcases checkCreate_ok hcheck with ⟨hfirst, hcron, hrunAt⟩
  intro t hnone ht
  rw [hcron] at hnone
  rw [hrunAt] at ht
  rw [hnone, ht] at hfirst
  rcases firstRun_once hfirst with ⟨hnext, hlater⟩
  exact ⟨hnext, h.not_fired hclock hlater⟩

/-- The new row has a date that has not run. -/
theorem inserted_shots {s : Service} (h : Shots (fun _ => False) s)
    {tenantId : String} {ins : Insertion}
    (hready : Ready s (Statement.insertSchedule tenantId ins)) {id : Uuid}
    {tables : Tables} (hinsert : s.tables.insertSchedule id tenantId ins = some tables) :
    Shots (fun _ => False) { s with tables := tables } := by
  rcases Tables.insertSchedule_some hinsert with ⟨row, hrow, hrows, hfresh⟩
  rcases Tables.newSchedule_some hrow with ⟨hid, _, hnext, hexpr, hrunAt⟩
  have hnew : forall t, row.timing = Timing.once t ->
      row.nextRunAt = t ∧ forall id, (id, some t) ∉ s.fired := by
    intro t ht
    rw [ht] at hexpr hrunAt
    rw [hnext]
    exact hready t hexpr.symm hrunAt.symm
  constructor
  · show (tables.schedules.map ScheduleRow.id).Nodup
    rw [hrows, List.map_append, List.nodup_append]
    refine ⟨h.ids, List.nodup_singleton _, ?_⟩
    intro a ha b hb heq
    rcases List.mem_map.mp ha with ⟨r, hr, hra⟩
    rw [List.map_singleton, List.mem_singleton] at hb
    exact hfresh r hr (by rw [hra, heq, hb, hid])
  · exact h.past
  · exact h.once
  · intro r hr t ht
    replace hr : r ∈ tables.schedules := hr
    rw [hrows] at hr
    rcases List.mem_append.mp hr with hold | hlast
    · exact h.date r hold t ht
    · rw [List.mem_singleton] at hlast
      rw [hlast] at ht
      rw [hlast]
      exact (hnew t ht).left
  · intro r hr t ht hfired
    replace hr : r ∈ tables.schedules := hr
    rw [hrows] at hr
    rcases List.mem_append.mp hr with hold | hlast
    · exact h.spent r hold t ht hfired
    · rw [List.mem_singleton] at hlast
      rw [hlast] at ht
      exact absurd hfired ((hnew t ht).right r.id)

/-- The row that `Update` reads is the one it will write. -/
theorem found_unique {s : Service} {waived : Uuid -> Prop} (h : Shots waived s)
    {tenantId scheduleId : String} {row old : ScheduleRow}
    (hrow : s.tables.findSchedule tenantId scheduleId = some row)
    (hold : old ∈ s.tables.schedules)
    (hsel : isSchedule tenantId scheduleId old = true) : old = row := by
  have hfound : isSchedule tenantId scheduleId row = true := List.find?_some hrow
  have hmem : row ∈ s.tables.schedules := List.mem_of_find?_eq_some hrow
  simp only [isSchedule, Bool.and_eq_true] at hsel hfound
  exact h.row_unique hold hmem (Uuid.named_unique hsel.left hfound.left)

/-- The timing of a row after a request that does not change it. -/
theorem UpdateScheduleRequest.timing_unchanged {req : UpdateScheduleRequest}
    (h : req.changesSchedule = false) (row : ScheduleRow) :
    req.timing row = (row.timing.cronExpression, row.timing.runAt) := by
  simp only [changesSchedule, Bool.or_eq_false_iff, Option.isSome_eq_false_iff,
    Option.isNone_iff_eq_none] at h
  unfold timing
  rw [h.left, h.right]

/-- `Update` goes on with a date that lies ahead, or with the row's own date and a
flag that the condition allows. -/
theorem read_ready {cron : Cron} {x : Input} {s : Service}
    (h : Shots (fun _ => False) s) (hclock : s.clock ≤ x.now)
    {tenantId scheduleId : String} {req : UpdateScheduleRequest} {row : ScheduleRow}
    {w : Assignment} (hrow : s.tables.findSchedule tenantId scheduleId = some row)
    (hcheck : req.check cron x.now row = Except.ok w)
    (hguard : keepsSpent s (Statement.readSchedule tenantId scheduleId (some req)) x =
      true) :
    Ready s (Statement.writeSchedule tenantId scheduleId w) := by
  intro old hold hsel t hnone ht
  have hsame : old = row := found_unique h hrow hold hsel
  subst hsame
  rcases UpdateScheduleRequest.check_ok hcheck with
    ⟨next, hnext, hcron, hrunAt, hon, hdate⟩
  rw [hcron] at hnone
  rw [hrunAt] at ht
  rw [hdate]
  cases hchange : req.changesSchedule || req.changesTarget with
  | true =>
      have hfirst := UpdateScheduleRequest.nextRun_changed hchange hnext
      rw [hnone, ht] at hfirst
      rcases firstRun_once hfirst with ⟨heq, hlater⟩
      have hpos : next ≠ 0 := by
        rw [heq]
        exact Nat.ne_of_gt (Nat.zero_lt_of_lt hlater)
      rw [if_neg hpos]
      refine ⟨heq, ?_⟩
      intro hfired
      exact absurd hfired (h.not_fired hclock hlater old.id)
  | false =>
      have hzero := UpdateScheduleRequest.nextRun_unchanged hchange hnext
      rw [if_pos hzero]
      have hkept : req.changesSchedule = false := by
        rw [Bool.or_eq_false_iff] at hchange
        exact hchange.left
      rw [UpdateScheduleRequest.timing_unchanged hkept] at ht
      have htiming : old.timing = Timing.once t := Timing.eq_once ht
      refine ⟨h.date old hold t htiming, ?_⟩
      intro hfired
      rcases h.spent old hold t htiming hfired with ⟨hoff, hspent⟩ | hfalse
      · refine ⟨?_, (ScheduleRow.spent_once htiming).mp hspent⟩
        simp only [keepsSpent, hrow, Option.any_some, hspent, Bool.and_true,
          Bool.not_eq_true', UpdateScheduleRequest.onlyEnables, hchange,
          Bool.not_false, decide_eq_false_iff_not] at hguard
        rw [hon]
        cases henabled : req.enabled with
        | none =>
            exact hoff
        | some b =>
            cases b with
            | true =>
                exact absurd henabled hguard
            | false =>
                rfl
      · exact hfalse.elim

/-- The row that is written keeps the invariant. -/
theorem written_shots {s : Service} (h : Shots (fun _ => False) s)
    {tenantId scheduleId : String} {w : Assignment}
    (hready : Ready s (Statement.writeSchedule tenantId scheduleId w)) {tables : Tables}
    (hwrite : s.tables.writeSchedule tenantId scheduleId w = some tables) :
    Shots (fun _ => False) { s with tables := tables } := by
  rcases Tables.writeSchedule_some hwrite with
    ⟨hsame, _⟩ | ⟨target, timing, hexpr, hrunAt, hrows⟩
  · rw [hsame]
    exact h
  · have hnew : forall old, old ∈ s.tables.schedules ->
        isSchedule tenantId scheduleId old = true -> forall t, timing = Timing.once t ->
        w.nextRunAt.getD old.nextRunAt = t ∧
          ((old.id, some t) ∈ s.fired -> w.enabled = false ∧
            exists last, old.lastRunAt = some last ∧ t ≤ last) := by
      intro old hold hsel t ht
      rw [ht] at hexpr hrunAt
      exact hready old hold hsel t hexpr.symm hrunAt.symm
    constructor
    · show (tables.schedules.map ScheduleRow.id).Nodup
      have hkept : forall r : ScheduleRow, (r.assign w target timing).id = r.id :=
        fun _ => rfl
      rw [hrows, Table.map_updateWhere ScheduleRow.id hkept]
      exact h.ids
    · exact h.past
    · exact h.once
    · intro r hr t ht
      replace hr : r ∈ tables.schedules := hr
      rw [hrows] at hr
      rcases Table.mem_updateWhere.mp hr with ⟨old, hold, ⟨hsel, heq⟩ | ⟨_, heq⟩⟩
      · rw [heq] at ht
        rw [heq]
        exact (hnew old hold hsel t ht).left
      · rw [heq] at ht
        rw [heq]
        exact h.date old hold t ht
    · intro r hr t ht hfired
      replace hr : r ∈ tables.schedules := hr
      rw [hrows] at hr
      rcases Table.mem_updateWhere.mp hr with ⟨old, hold, ⟨hsel, heq⟩ | ⟨_, heq⟩⟩
      · rw [heq] at hfired
        have htiming : timing = Timing.once t := by
          rw [heq] at ht
          exact ht
        have hkept := (hnew old hold hsel t htiming).right hfired
        left
        refine ⟨by rw [heq]; exact hkept.left, ?_⟩
        rw [ScheduleRow.spent_once ht, heq]
        exact hkept.right
      · subst heq
        exact h.spent r hold t ht hfired

theorem deleted_shots {s : Service} (h : Shots (fun _ => False) s)
    (tenantId scheduleId : String) :
    Shots (fun _ => False)
      { s with tables := s.tables.deleteSchedule tenantId scheduleId } where
  ids := by
    apply List.Nodup.sublist _ h.ids
    exact (Table.deleteWhere_sublist _ _).map _
  past := h.past
  once := h.once
  date := by
    intro r hr
    exact h.date r (Table.mem_deleteWhere.mp hr).left
  spent := by
    intro r hr
    exact h.spent r (Table.mem_deleteWhere.mp hr).left

/-!
## Whole requests
-/

/-- One statement of a poll that is firing. -/
theorem firing_step {cron : Cron} {k : Statement} {rest : List Statement} {x : Input}
    {s t : Service} {cont : List Statement} (hguard : keepsSpent s k x = true)
    (hks : forall j, j ∈ k :: rest -> j.isInner = true ∨ j.isAdvance = true)
    (hshots : Shots (Waived (k :: rest)) s) (hfresh : Fresh (k :: rest) s)
    (hclock : s.clock ≤ x.now) (hmoves : Moves cron x s k t cont) :
    Progressing (cont ++ rest) { t with clock := x.now } := by
  have hrest : forall j, j ∈ rest -> j.isInner = true ∨ j.isAdvance = true :=
    fun j hj => hks j (List.mem_cons_of_mem k hj)
  rcases hks k List.mem_cons_self with hk | hk
  · rcases hmoves.inner hk with ⟨hrows, hfired, _, hcont⟩
    -- neither the statement nor what follows it is a final one
    have hpending : forall d, Statement.advanceNextRun d ∈ cont ++ rest <->
        Statement.advanceNextRun d ∈ k :: rest := by
      intro d
      constructor
      · intro hd
        rcases List.mem_append.mp hd with hnew | hold
        · cases hcont _ hnew
        · exact List.mem_cons_of_mem k hold
      · intro hd
        rcases List.mem_cons.mp hd with heq | hold
        · rw [← heq] at hk
          cases hk
        · exact List.mem_append_right cont hold
    apply Progressing.firing
    · intro j hj
      rcases List.mem_append.mp hj with hnew | hold
      · exact Or.inl (hcont j hnew)
      · exact hrest j hold
    · refine Shots.mono (Shots.later hshots hrows hfired hclock) ?_
      rintro id ⟨d, hd, hid, hnone⟩
      exact ⟨d, (hpending d).mpr hd, hid, hnone⟩
    · intro d hd r hr
      replace hr : r ∈ t.tables.schedules := hr
      rw [hrows] at hr
      exact hfresh d ((hpending d).mp hd) r hr
  · cases hmoves with
    | skipped hfails =>
        cases k with
        | advanceNextRun d =>
            simp only [keepsSpent, hfails hk] at hguard
            cases hguard
        | _ =>
            cases hk
    | refused _ hnot =>
        rw [hk] at hnot
        cases hnot
    | advanced =>
        exact Progressing.firing hrest (advanced_shots hshots hfresh hclock)
          (advanced_fresh hfresh)
    | responded | selected | loaded | resolved | commanded | checked | found
    | inserted | read | written | deleted =>
        cases hk

/-- One statement of a handler, or the `SELECT` of a poll. -/
theorem handling_step {cron : Cron} {k : Statement} {x : Input} {s t : Service}
    {cont : List Statement} (hguard : keepsSpent s k x = true)
    (hshots : Shots (fun _ => False) s) (hready : Ready s k)
    (hclock : s.clock ≤ x.now) (hmoves : Moves cron x s k t cont) :
    Progressing cont { t with clock := x.now } := by
  cases hmoves with
  | skipped =>
      exact Progressing.stop hshots rfl rfl hclock
  | refused =>
      exact Progressing.stop hshots rfl rfl hclock
  | responded =>
      exact Progressing.stop hshots rfl rfl hclock
  | selected =>
      exact selected_shots hshots hclock
  | checked hcheck =>
      rename_i tenantId req ins
      refine Progressing.handling rfl (hshots.later rfl rfl hclock) ?_
      exact created_ready hshots hclock hcheck tenantId
  | found =>
      exact Progressing.handling rfl (hshots.later rfl rfl hclock) hready
  | inserted hinsert =>
      refine Progressing.handling rfl ?_ ⟨rfl, rfl⟩
      exact (inserted_shots hshots hready hinsert).later rfl rfl hclock
  | read hrow hcheck =>
      refine Progressing.handling rfl (hshots.later rfl rfl hclock) ?_
      exact read_ready hshots hclock hrow hcheck hguard
  | written hwrite =>
      refine Progressing.handling rfl ?_ ⟨rfl, rfl⟩
      exact (written_shots hshots hready hwrite).later rfl rfl hclock
  | deleted =>
      exact Progressing.stop (deleted_shots hshots _ _) rfl rfl hclock
  | loaded =>
      cases hready.left
  | resolved =>
      cases hready.left
  | commanded =>
      cases hready.left
  | advanced =>
      cases hready.right

theorem progressing_step {cron : Cron} {k : Statement} {rest : List Statement}
    {x : Input} {s : Service} {o : Outcome Service Statement}
    (hguard : keepsSpent s k x = true) (h : Progressing (k :: rest) s)
    (hperform : perform cron k x s = some o) :
    Progressing (o.cont ++ rest) o.shared := by
  rcases perform_some hperform with ⟨t, hmoves, hshared, _, hclock⟩
  rw [hshared]
  cases h with
  | firing hks hshots hfresh =>
      exact firing_step hguard hks hshots hfresh hclock hmoves
  | handling hk hshots hready =>
      cases hk
      rw [List.append_nil]
      exact handling_step hguard hshots hready hclock hmoves

/-- Every statement of the request meets the condition. -/
abbrev RequestKeepsSpent (cron : Cron) (s : Service) (e : Request × List Input) :
    Prop :=
  Pool.Along (perform cron) (fun s k x => keepsSpent s k x = true) e.2 (entry e.1) s

/-- A whole request keeps the invariant. -/
theorem shots_preserved (cron : Cron) :
    (sequence cron).Preserves (RequestKeepsSpent cron) (Shots fun _ => False) := by
  intro s e t hshots hguard hstep
  apply Progressing.finished
  apply Pool.complete_induction (fun k rest x s o => progressing_step) _ hguard hstep
  rcases e with ⟨r, xs⟩
  cases r with
  | poll | create | update | delete =>
      exact Progressing.handling rfl hshots ⟨rfl, rfl⟩

/-- In a sequence of polls and requests whose statements meet the condition, a
one-shot schedule fires at most once for each date. -/
theorem one_shot_fires_once {cron : Cron} {s t : Service}
    {es : List (Request × List Input)} (hrows : s.tables.schedules = [])
    (hfired : s.fired = []) (hmeets : (sequence cron).Meets (RequestKeepsSpent cron) s es)
    (hrun : (sequence cron).run s es = some t) (id : Uuid) (runAt : Nat) :
    t.fired.count (id, some runAt) ≤ 1 := by
  have hinit : Shots (fun _ => False) s := by
    constructor
    · rw [hrows]
      exact List.nodup_nil
    · intro id u hu
      rw [hfired] at hu
      cases hu
    · intro id u
      rw [hfired]
      exact Nat.zero_le 1
    · intro r hr
      rw [hrows] at hr
      cases hr
    · intro r hr
      rw [hrows] at hr
      cases hr
  exact ((shots_preserved cron).run hinit hmeets hrun).once id runAt

namespace Sample

/-- A schedule for one minute past noon. -/
def oneShot : CreateScheduleRequest where
  scriptId := script.text
  name := "inventaire"
  agentId := some agent.text
  workspaceId := none
  cronExpression := none
  runAt := some (noon + 60 * second)
  timeoutSec := none

/-- The schedule is created at noon and fires one minute later; a request comes,
and the next poll follows. -/
def fireThenPatch (req : UpdateScheduleRequest) : List (Request × List Input) :=
  [(Request.create tenant.text (some oneShot), List.replicate 4 (fine noon)),
   (Request.poll, List.replicate 5 (fine (noon + 60 * second))),
   (Request.update tenant.text schedule.text (some req),
    List.replicate 3 (fine (noon + 70 * second))),
   (Request.poll, List.replicate 5 (fine (noon + 90 * second)))]

/-- The request that moves the schedule to twenty seconds later. -/
def moved : UpdateScheduleRequest :=
  { patch with enabled := some true, runAt := some (noon + 80 * second) }

/-- The request that enables it again. -/
def enabledAgain : UpdateScheduleRequest :=
  { patch with enabled := some true }

end Sample

/-- A schedule that is moved after its firing fires once for each of its dates. -/
theorem one_shot_fires_once_when_moved :
    exists t, (sequence Sample.cron).run (Sample.start [])
        (Sample.fireThenPatch Sample.moved) = some t ∧
      t.fired =
        [(Sample.schedule, some (Sample.noon + 60 * Sample.second)),
         (Sample.schedule, some (Sample.noon + 80 * Sample.second))] ∧
      t.fired.count (Sample.schedule, some (Sample.noon + 60 * Sample.second)) ≤ 1 := by
  have hfired : ((sequence Sample.cron).run (Sample.start [])
      (Sample.fireThenPatch Sample.moved)).map Service.fired =
      some
        [(Sample.schedule, some (Sample.noon + 60 * Sample.second)),
         (Sample.schedule, some (Sample.noon + 80 * Sample.second))] := by
    decide +kernel
  have hmeets : (sequence Sample.cron).Meets (RequestKeepsSpent Sample.cron)
      (Sample.start []) (Sample.fireThenPatch Sample.moved) := by
    decide +kernel
  rcases Option.map_eq_some_iff.mp hfired with ⟨t, hrun, ht⟩
  exact ⟨t, hrun, ht, one_shot_fires_once rfl rfl hmeets hrun _ _⟩

/-- A schedule that is enabled again after its firing fires a second time for the
same date. -/
theorem enabled_again_fires_twice :
    exists t, (sequence Sample.cron).run (Sample.start [])
        (Sample.fireThenPatch Sample.enabledAgain) = some t ∧
      t.fired.count (Sample.schedule, some (Sample.noon + 60 * Sample.second)) = 2 := by
  have hfired : ((sequence Sample.cron).run (Sample.start [])
      (Sample.fireThenPatch Sample.enabledAgain)).map Service.fired =
      some
        [(Sample.schedule, some (Sample.noon + 60 * Sample.second)),
         (Sample.schedule, some (Sample.noon + 60 * Sample.second))] := by
    decide +kernel
  rcases Option.map_eq_some_iff.mp hfired with ⟨t, hrun, ht⟩
  refine ⟨t, hrun, ?_⟩
  rw [ht]
  decide

end Scheduler
end LeoOne
