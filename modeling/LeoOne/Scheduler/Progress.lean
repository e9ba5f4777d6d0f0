import LeoOne.Scheduler.Service

/-!
# Progress of the schedules

A firing ends with the statement that is to keep it from being repeated at the
next poll.  It does so unless `Next` has no date to give: the zero time is stored
like any other, and it is always due.  The handlers have the same gap, and
`Update` has a second one: it keeps the stored date whenever the request changes
neither the schedule nor the target.
-/

namespace LeoOne
namespace Scheduler

open Foundation
open Backend

/-- The expression is accepted and has a date after `now`. -/
def hasNext (cron : Cron) (expr : String) (now : Nat) : Bool :=
  match cron.parseStandard expr with
  | Except.ok next => next now ≠ 0
  | Except.error _ => false

theorem hasNext_iff {cron : Cron} {expr : String} {next : Nat -> Nat}
    (h : cron.parseStandard expr = Except.ok next) (now : Nat) :
    hasNext cron expr now = true <-> now < next now := by
  have hrange := cron.next_after h now
  simp only [hasNext, h, decide_eq_true_eq]
  constructor
  · intro hne
    exact hrange.resolve_left hne
  · intro hlt heq
    rw [heq] at hlt
    exact Nat.not_lt_zero now hlt

/-!
## Firings
-/

/-- The schedule is gone, disabled, or has its next date after `since`. -/
def Settled (t : Tables) (id : Uuid) (since : Nat) : Prop :=
  forall r, r ∈ t.schedules -> r.id = id ->
    r.enabled = false ∨ since < r.nextRunAt

/-- What the final statement of a firing needs: the snapshot is of a one-shot
schedule, or its expression is no longer accepted or has a date ahead, or the row
is no longer enabled. -/
def CanSettle (cron : Cron) (t : Tables) (d : DueSchedule) (now : Nat) : Prop :=
  (forall expr, d.cronExpression = some expr ->
    (exists message, cron.parseStandard expr = Except.error message) ∨
      hasNext cron expr now = true) ∨
  forall r, r ∈ t.schedules -> r.id = d.id -> r.enabled = false

theorem advanced_id (cron : Cron) (d : DueSchedule) (now : Nat) (r : ScheduleRow) :
    (Tables.advanced cron d now r).id = r.id := by
  unfold Tables.advanced
  split
  · rfl
  · split
    · rfl
    · rfl

/-- The row of a one-shot snapshot is disabled. -/
theorem advanced_once {cron : Cron} {d : DueSchedule} {now : Nat}
    (h : d.cronExpression = none) (r : ScheduleRow) :
    (Tables.advanced cron d now r).enabled = false := by
  unfold Tables.advanced
  rw [h]

/-- So is the row of an expression that is refused. -/
theorem advanced_refused {cron : Cron} {d : DueSchedule} {now : Nat}
    {expr message : String} (h : d.cronExpression = some expr)
    (hparse : cron.parseStandard expr = Except.error message) (r : ScheduleRow) :
    (Tables.advanced cron d now r).enabled = false := by
  unfold Tables.advanced computeNextRun
  rw [h]
  simp [hparse, Except.map]

/-- The row of an accepted expression gets its next date. -/
theorem advanced_recurring {cron : Cron} {d : DueSchedule} {now : Nat}
    {expr : String} {next : Nat -> Nat} (h : d.cronExpression = some expr)
    (hparse : cron.parseStandard expr = Except.ok next) (r : ScheduleRow) :
    Tables.advanced cron d now r =
      { r with nextRunAt := next now, lastRunAt := some now } := by
  unfold Tables.advanced computeNextRun
  rw [h]
  simp [hparse, Except.map]

/-- The rows of the schedule after the final statement. -/
theorem mem_advanceNextRun {t : Tables} {cron : Cron} {d : DueSchedule} {now : Nat}
    {r : ScheduleRow} (hr : r ∈ (t.advanceNextRun cron d now).schedules)
    (hid : r.id = d.id) :
    exists old, old ∈ t.schedules ∧ old.id = d.id ∧
      r = Tables.advanced cron d now old := by
  rcases Table.mem_updateWhere.mp hr with ⟨old, hold, ⟨hsel, heq⟩ | ⟨hsel, heq⟩⟩
  · exact ⟨old, hold, of_decide_eq_true hsel, heq⟩
  · subst heq
    exact absurd hid (of_decide_eq_false hsel)

theorem advanced_mem {t : Tables} {cron : Cron} {d : DueSchedule} {now : Nat}
    {old : ScheduleRow} (hold : old ∈ t.schedules) (hid : old.id = d.id) :
    Tables.advanced cron d now old ∈ (t.advanceNextRun cron d now).schedules :=
  Table.mem_updateWhere.mpr ⟨old, hold, Or.inl ⟨decide_eq_true hid, rfl⟩⟩

/-- The final statement settles the schedule exactly under these conditions. -/
theorem settled_advanceNextRun {t : Tables} {cron : Cron} {d : DueSchedule}
    {now since : Nat} (hsince : since ≤ now) :
    Settled (t.advanceNextRun cron d now) d.id since <->
      CanSettle cron t d now := by
  constructor
  · intro hsettled
    by_cases hdisabled : forall r, r ∈ t.schedules -> r.id = d.id -> r.enabled = false
    · exact Or.inr hdisabled
    · left
      simp only [not_forall, Bool.not_eq_false] at hdisabled
      rcases hdisabled with ⟨old, hold, hid, hon⟩
      intro expr hexpr
      cases hparse : cron.parseStandard expr with
      | error message =>
          exact Or.inl ⟨message, rfl⟩
      | ok next =>
          right
          have hdone := hsettled _ (advanced_mem hold hid)
            ((advanced_id cron d now old).trans hid)
          rw [advanced_recurring hexpr hparse old] at hdone
          rcases hdone with hoff | hlater
          · rw [hon] at hoff
            cases hoff
          · have hne : next now ≠ 0 := Nat.ne_of_gt (Nat.zero_lt_of_lt hlater)
            exact (hasNext_iff hparse now).mpr
              ((cron.next_after hparse now).resolve_left hne)
  · intro hcan r hr hid
    rcases mem_advanceNextRun hr hid with ⟨old, hold, holdid, heq⟩
    subst heq
    cases hexpr : d.cronExpression with
    | none =>
        exact Or.inl (advanced_once hexpr old)
    | some expr =>
        cases hparse : cron.parseStandard expr with
        | error message =>
            exact Or.inl (advanced_refused hexpr hparse old)
        | ok next =>
            rw [advanced_recurring hexpr hparse old]
            rcases hcan with hdate | hdisabled
            · rcases hdate expr hexpr with ⟨message, herror⟩ | hnext
              · rw [hparse] at herror
                cases herror
              · exact Or.inr (Nat.lt_of_le_of_lt hsince
                  ((hasNext_iff hparse now).mp hnext))
            · exact Or.inl (hdisabled old hold holdid)

/-- A firing that nothing interrupts ends with its final statement on the
schedules it found, whatever has failed before. -/
theorem fireSchedule_complete {cron : Cron} {d : DueSchedule} {ys : List Input}
    {final : Input} {inner : List Statement} {s t : Service}
    (hinner : forall k, k ∈ inner -> k.isInner = true)
    (h : Pool.complete (perform cron) (ys ++ [final])
      (inner ++ [Statement.advanceNextRun d]) s = some t) :
    t.tables.schedules =
      if final.fails then s.tables.schedules
      else (s.tables.advanceNextRun cron d final.now).schedules := by
  induction ys generalizing inner s with
  | nil =>
      cases inner with
      | nil =>
          simp only [List.nil_append, Pool.complete, perform, Statement.exec] at h
          by_cases hclock : s.clock ≤ final.now
          · cases hfails : final.fails with
            | true =>
                simp [hclock, hfails, Pool.complete] at h
                rw [← h]
                rfl
            | false =>
                simp [hclock, hfails, Pool.complete] at h
                rw [← h]
                rfl
          · simp [hclock] at h
      | cons k inner =>
          simp only [List.nil_append, List.cons_append, Pool.complete] at h
          split at h
          · cases h
          · -- the input is used up while the final statement is pending
            rename_i o hperform
            cases hleft : o.cont ++ (inner ++ [Statement.advanceNextRun d]) with
            | nil =>
                simp at hleft
            | cons j js =>
                rw [hleft] at h
                cases h
  | cons y ys ih =>
      cases inner with
      | nil =>
          simp only [List.nil_append, List.cons_append, Pool.complete] at h
          split at h
          · cases h
          · rename_i o hperform
            rcases perform_some hperform with ⟨u, hmoves, _, _, _⟩
            have hnone : o.cont = [] := by
              generalize o.cont = cont at hmoves
              cases hmoves with
              | skipped | refused | advanced => rfl
            rw [hnone] at h
            cases ys with
            | nil => cases h
            | cons y' ys => cases h
      | cons k inner =>
          simp only [List.cons_append, Pool.complete] at h
          split at h
          · cases h
          · rename_i o hperform
            rcases perform_some hperform with ⟨u, hmoves, hshared, _, _⟩
            have hstep := hmoves.inner (hinner k List.mem_cons_self)
            rw [← List.append_assoc] at h
            have hleft : forall j, j ∈ o.cont ++ inner -> j.isInner = true := by
              intro j hj
              rcases List.mem_append.mp hj with hj | hj
              · exact hstep.right.right.right j hj
              · exact hinner j (List.mem_cons_of_mem k hj)
            have hrest := ih hleft h
            have hsame : o.shared.tables.schedules = s.tables.schedules := by
              rw [hshared]
              exact hstep.left
            rw [hrest]
            simp only [Tables.advanceNextRun, hsame]

/-!
## Handlers
-/

/-- An enabled recurring schedule has its next date after `now`. -/
def Scheduled (now : Nat) (r : ScheduleRow) : Prop :=
  r.enabled = true -> forall expr, r.timing = Timing.recurring expr ->
    now < r.nextRunAt

/-- The row that `Create` stores. -/
theorem scheduled_created {cron : Cron} {now : Nat} {req : CreateScheduleRequest}
    {ins : Insertion} (hcheck : checkCreate cron now req = Except.ok ins)
    {t : Tables} {id : Uuid} {tenantId : String} {row : ScheduleRow}
    (hrow : t.newSchedule id tenantId ins = some row) :
    Scheduled now row <->
      forall expr, req.cronExpression = some expr -> hasNext cron expr now = true := by
  rcases checkCreate_ok hcheck with ⟨hfirst, hcron, hrunAt⟩
  rcases Tables.newSchedule_some hrow with ⟨_, hon, hnext, hexpr, _⟩
  have hdate : forall expr, req.cronExpression = some expr ->
      (hasNext cron expr now = true <-> now < row.nextRunAt) := by
    intro expr he
    rw [he] at hfirst
    rcases firstRun_recurring hfirst with ⟨next, hparse, hval⟩
    rw [hasNext_iff hparse now, hnext, hval]
  constructor
  · intro h expr he
    have htiming : row.timing = Timing.recurring expr := by
      apply Timing.eq_recurring
      rw [hexpr, hcron, he]
    exact (hdate expr he).mpr (h hon expr htiming)
  · intro h _ expr htiming
    have he : req.cronExpression = some expr := by
      rw [← hcron, ← hexpr, htiming]
      rfl
    exact (hdate expr he).mp (h expr he)

/-- What an `Update` that read `row` needs to write `old`: the schedule is not
enabled or not recurring, or the date is computed and there is one, or the stored
date is still ahead. -/
def CanWrite (cron : Cron) (now : Nat) (req : UpdateScheduleRequest)
    (row old : ScheduleRow) : Prop :=
  req.enabled.getD row.enabled = false ∨ (req.timing row).1 = none ∨
    ((req.changesSchedule || req.changesTarget) = true ∧
      forall expr, (req.timing row).1 = some expr -> hasNext cron expr now = true) ∨
    now < old.nextRunAt

/-- The date that `Update` leaves in a recurring schedule. -/
theorem assigned_date {cron : Cron} {now : Nat} {req : UpdateScheduleRequest}
    {row : ScheduleRow} {w : Assignment}
    (hcheck : req.check cron now row = Except.ok w) {expr : String}
    (hexpr : (req.timing row).1 = some expr) (old : ScheduleRow) :
    now < w.nextRunAt.getD old.nextRunAt <->
      ((req.changesSchedule || req.changesTarget) = true ∧
        hasNext cron expr now = true) ∨ now < old.nextRunAt := by
  rcases UpdateScheduleRequest.check_ok hcheck with ⟨next, hnext, _, _, _, hdate⟩
  rw [hdate]
  cases hchange : req.changesSchedule || req.changesTarget with
  | false =>
      have hzero := UpdateScheduleRequest.nextRun_unchanged hchange hnext
      simp [hzero]
  | true =>
      have hfirst := UpdateScheduleRequest.nextRun_changed hchange hnext
      rw [hexpr] at hfirst
      rcases firstRun_recurring hfirst with ⟨f, hparse, hval⟩
      rw [hasNext_iff hparse now, ← hval]
      by_cases hzero : next = 0
      · simp [hzero]
      · have hafter : now < next := by
          rw [hval]
          rw [hval] at hzero
          exact (cron.next_after hparse now).resolve_left hzero
        simp [hzero, hafter]

/-- The rows that the `UPDATE` of `Update` leaves. -/
theorem scheduled_written {cron : Cron} {now : Nat} {req : UpdateScheduleRequest}
    {row : ScheduleRow} {w : Assignment}
    (hcheck : req.check cron now row = Except.ok w) {target : Target}
    {timing : Timing} (hexpr : timing.cronExpression = w.cronExpression)
    (old : ScheduleRow) :
    Scheduled now (old.assign w target timing) <-> CanWrite cron now req row old := by
  rcases UpdateScheduleRequest.check_ok hcheck with ⟨_, _, hcron, _, hon, _⟩
  rw [hcron] at hexpr
  unfold Scheduled CanWrite ScheduleRow.assign
  simp only [hon]
  cases htiming : (req.timing row).1 with
  | none =>
      have honce : forall expr, timing ≠ Timing.recurring expr := by
        intro expr heq
        rw [htiming, heq] at hexpr
        cases hexpr
      simp [honce]
  | some expr =>
      have hrec : timing = Timing.recurring expr := by
        apply Timing.eq_recurring
        rw [hexpr, htiming]
      rw [hrec]
      cases hval : req.enabled.getD row.enabled with
      | false =>
          simp
      | true =>
          simp [assigned_date hcheck htiming old]

/-!
## The three places
-/

/-- A firing that is carried out settles its schedule exactly when `Next` has a date to
give, if it is asked. -/
theorem settled_step_iff {cron : Cron} {p q : State} {i : Nat} {x : Input} {d : DueSchedule}
    {rest : List Statement} (hhead : p.head? i = some (Statement.advanceNextRun d, rest))
    (hstep : (service cron).step p (PoolEvent.exec i x) = some q) (hfails : x.fails = false)
    {since : Nat} (hsince : since ≤ x.now) :
    Settled q.shared.tables d.id since <-> CanSettle cron p.shared.tables d x.now := by
  rcases Pool.step_cases hstep with ⟨r, he, _⟩ | ⟨i', x', k, rest', o, he, hhead', hperform, hq⟩
  · cases he
  · cases he
    rw [hhead] at hhead'
    cases hhead'
    have htables : q.shared.tables = p.shared.tables.advanceNextRun cron d x.now := by
      unfold perform at hperform
      split at hperform
      · cases hperform
        rw [hq]
        simp [Statement.exec, hfails]
      · cases hperform
    rw [htables]
    exact settled_advanceNextRun hsince

/-- What `Create` stores lies ahead exactly when `Next` has a date to give. -/
theorem created_scheduled_iff {cron : Cron} {now : Nat} {req : CreateScheduleRequest}
    {ins : Insertion} (hcheck : checkCreate cron now req = Except.ok ins) {t t' : Tables}
    {id : Uuid} {tenantId : String} (hinsert : t.insertSchedule id tenantId ins = some t') :
    (forall r, r ∈ t'.schedules -> r.id = id -> Scheduled now r) <->
      forall expr, req.cronExpression = some expr -> hasNext cron expr now = true := by
  rcases Tables.insertSchedule_some hinsert with ⟨row, hrow, hrows, hfresh⟩
  have hnew := scheduled_created hcheck hrow
  rw [← hnew]
  constructor
  · intro h
    apply h row _ (Tables.newSchedule_some hrow).left
    rw [hrows]
    exact List.mem_append_right _ List.mem_cons_self
  · intro h r hr hid
    rw [hrows] at hr
    rcases List.mem_append.mp hr with hold | hrow'
    · exact absurd hid (hfresh r hold)
    · rw [List.mem_singleton] at hrow'
      rw [hrow']
      exact h

/-- What `Update` stores lies ahead exactly when every schedule that it selects can be
written so. -/
theorem written_scheduled_iff {cron : Cron} {now : Nat} {req : UpdateScheduleRequest}
    {row : ScheduleRow} {w : Assignment} (hcheck : req.check cron now row = Except.ok w)
    {t t' : Tables} {tenantId scheduleId : String}
    (hwrite : t.writeSchedule tenantId scheduleId w = some t') :
    (forall r, r ∈ t'.schedules -> isSchedule tenantId scheduleId r = true ->
        Scheduled now r) <->
      forall old, old ∈ t.schedules -> isSchedule tenantId scheduleId old = true ->
        CanWrite cron now req row old := by
  rcases Tables.writeSchedule_some hwrite with ⟨hsame, hnone⟩ | ⟨target, timing, hexpr, _, hrows⟩
  · rw [hsame]
    constructor
    · intro _ old hold hsel
      rw [hnone old hold] at hsel
      cases hsel
    · intro _ r hr hsel
      rw [hnone r hr] at hsel
      cases hsel
  · rw [hrows]
    constructor
    · intro h old hold hsel
      have hwritten : old.assign w target timing ∈
          Table.updateWhere (isSchedule tenantId scheduleId)
            (ScheduleRow.assign w target timing) t.schedules :=
        Table.mem_updateWhere.mpr ⟨old, hold, Or.inl ⟨hsel, rfl⟩⟩
      exact (scheduled_written hcheck hexpr old).mp (h _ hwritten hsel)
    · intro h r hr hsel
      rcases Table.mem_updateWhere.mp hr with ⟨old, hold, ⟨hp, heq⟩ | ⟨hp, heq⟩⟩
      · rw [heq]
        exact (scheduled_written hcheck hexpr old).mpr (h old hold hp)
      · rw [heq, hp] at hsel
        cases hsel

/-- A firing settles its schedule, and the handlers store a date that lies ahead,
exactly when `Next` has a date to give wherever it is used and `Update` does not
keep a date that has passed.

Each part is about one statement and the state in which it runs, so it holds in
every interleaving of the requests. -/
theorem schedule_progress (cron : Cron) :
    (forall (p q : State) (i : Nat) (x : Input) (d : DueSchedule)
      (rest : List Statement), p.head? i = some (Statement.advanceNextRun d, rest) ->
      (service cron).step p (PoolEvent.exec i x) = some q -> x.fails = false ->
      forall since, since ≤ x.now ->
        (Settled q.shared.tables d.id since <->
          CanSettle cron p.shared.tables d x.now)) ∧
    (forall (now : Nat) (req : CreateScheduleRequest) (ins : Insertion),
      checkCreate cron now req = Except.ok ins ->
      forall (t : Tables) (id : Uuid) (tenantId : String) (t' : Tables),
        t.insertSchedule id tenantId ins = some t' ->
        ((forall r, r ∈ t'.schedules -> r.id = id -> Scheduled now r) <->
          forall expr, req.cronExpression = some expr ->
            hasNext cron expr now = true)) ∧
    (forall (now : Nat) (req : UpdateScheduleRequest) (row : ScheduleRow)
      (w : Assignment), req.check cron now row = Except.ok w ->
      forall (t : Tables) (tenantId scheduleId : String) (t' : Tables),
        t.writeSchedule tenantId scheduleId w = some t' ->
        ((forall r, r ∈ t'.schedules -> isSchedule tenantId scheduleId r = true ->
            Scheduled now r) <->
          forall old, old ∈ t.schedules -> isSchedule tenantId scheduleId old = true ->
            CanWrite cron now req row old)) := by
  refine ⟨?_, ?_, ?_⟩
  · intro p q i x d rest hhead hstep hfails since hsince
    exact settled_step_iff hhead hstep hfails hsince
  · intro now req ins hcheck t id tenantId t' hinsert
    exact created_scheduled_iff hcheck hinsert
  · intro now req row w hcheck t tenantId scheduleId t' hwrite
    exact written_scheduled_iff hcheck hwrite

/-- A schedule for every minute: the firing at noon puts its next date one minute
later. -/
theorem schedule_progress_every_minute :
    Settled
      ((Sample.tables [Sample.row (Timing.recurring "* * * * *") Sample.noon]).advanceNextRun
        Sample.cron
        (Sample.row (Timing.recurring "* * * * *") Sample.noon).due Sample.noon)
      Sample.schedule Sample.noon := by
  have hstep := (schedule_progress Sample.cron).left
    { shared := Sample.start [Sample.row (Timing.recurring "* * * * *") Sample.noon]
      procs :=
        [[Statement.advanceNextRun
          (Sample.row (Timing.recurring "* * * * *") Sample.noon).due]] }
    _ 0 (Sample.fine Sample.noon)
    (Sample.row (Timing.recurring "* * * * *") Sample.noon).due [] rfl rfl rfl
    Sample.noon (Nat.le_refl _)
  apply hstep.mpr
  left
  intro expr hexpr
  cases hexpr
  exact Or.inr (by decide)

namespace Sample

/-- The 30th of February, at midnight. -/
def never : String := "0 0 30 2 *"

def creation : CreateScheduleRequest where
  scriptId := script.text
  name := "inventaire"
  agentId := some agent.text
  workspaceId := none
  cronExpression := some never
  runAt := none
  timeoutSec := none

/-- The service after the creation, and after the poll that follows. -/
def created : Service :=
  { start [row (Timing.recurring never) 0] with
    answers := [Answer.schedule 201 (row (Timing.recurring never) 0)] }

def polled : Service :=
  { created with
    tables :=
      { tables
          [{ row (Timing.recurring never) 0 with
              lastRunAt := some (noon + 30 * second) }] with
        commands :=
          [{ tenantId := tenant
             agentId := agent
             scheduleId := schedule
             payload :=
              Wire.Json.obj
                [("interpreter", Wire.Json.str "bash"),
                 ("script", Wire.Json.str "uptime"),
                 ("timeout_sec", Wire.Json.num { mantissa := 60, exponent := 0 })] }] }
    clock := noon + 30 * second
    fired := [(schedule, none)] }

end Sample

/-- A schedule for a date that does not exist is accepted, is stored with a date in
the past, and fires at every poll. -/
theorem never_matching_schedule_fires_at_every_poll :
    (sequence Sample.cron).step (Sample.start [])
        (Request.create Sample.tenant.text (some Sample.creation),
          List.replicate 4 (Sample.fine Sample.noon)) = some Sample.created ∧
      (exists r, r ∈ Sample.created.tables.schedules ∧ ¬ Scheduled Sample.noon r) ∧
      (sequence Sample.cron).step Sample.created
        (Request.poll,
          List.replicate 5 (Sample.fine (Sample.noon + 30 * Sample.second))) =
        some Sample.polled ∧
      ¬ Settled Sample.polled.tables Sample.schedule
        (Sample.noon + 30 * Sample.second) ∧
      exists t, (sequence Sample.cron).step Sample.polled
        (Request.poll,
          List.replicate 5 (Sample.fine (Sample.noon + 60 * Sample.second))) = some t ∧
        t.fired = [(Sample.schedule, none), (Sample.schedule, none)] := by
  refine ⟨rfl, ⟨_, List.mem_cons_self, ?_⟩, rfl, ?_, _, rfl, rfl⟩
  · intro h
    exact absurd (h rfl _ rfl) (Nat.not_lt_zero _)
  · intro h
    rcases h _ List.mem_cons_self rfl with hoff | hlater
    · cases hoff
    · exact absurd hlater (Nat.not_lt_zero _)

end Scheduler
end LeoOne
