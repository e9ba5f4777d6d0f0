import LeoOne.Foundation.Serial
import LeoOne.Scheduler.Schedules

/-!
# The scheduler and its handlers

`runDueSchedules` reads the schedules that are due, then fires one after the
other; `fireSchedule` is a sequence of statements whose last one, deferred, runs
whatever happened before.  The handlers of the HTTP interface are sequences of
statements as well.  A step below is one statement together with the code up to
the next one.

The steps run in two settings: interleaved in every order (`service`), and one
request after the other (`sequence`).
-/

namespace LeoOne
namespace Scheduler

open Foundation
open Wire
open Backend

/-- What a statement meets: whether it fails for a reason outside the tables, the
rows that cannot be scanned, the clock, and the identifier that is drawn. -/
structure Input where
  fails : Bool
  scanFails : Uuid -> Bool
  now : Nat
  uuid : Uuid

/-- The tables, the time of the last statement, and what has happened: the
firings, each with the `run_at` of its row, and the answers. -/
structure Service where
  tables : Tables
  clock : Nat
  fired : List (Uuid × Option Nat)
  answers : List Answer

/-- The statements, with the variables they read. -/
inductive Statement where
  | selectDue
  | loadScript (d : DueSchedule)
  | resolveTargets (d : DueSchedule) (payload : Json)
  | createCommand (d : DueSchedule) (payload : Json) (agentId : Uuid)
  | advanceNextRun (d : DueSchedule)
  | decodeCreate (tenantId : String) (body : Option CreateScheduleRequest)
  | scriptExists (tenantId : String) (ins : Insertion)
  | insertSchedule (tenantId : String) (ins : Insertion)
  | readSchedule (tenantId scheduleId : String) (body : Option UpdateScheduleRequest)
  | writeSchedule (tenantId scheduleId : String) (w : Assignment)
  | respondSchedule (status : Nat) (scheduleId : String)
  | deleteSchedule (tenantId scheduleId : String)

/-- The statements of `fireSchedule`: the last one is deferred. -/
def fireSchedule (d : DueSchedule) : List Statement :=
  [Statement.loadScript d, Statement.advanceNextRun d]

namespace Service

/-- The handler writes its answer and returns. -/
def reply (s : Service) (answer : Answer) : Service × List Statement :=
  ({ s with answers := answer :: s.answers }, [])

/-- The rows that `runDueSchedules` fires. -/
def dueRows (x : Input) (s : Service) : List ScheduleRow :=
  (s.tables.schedules.filter (ScheduleRow.isDue x.now)).filter
    fun r => !x.scanFails r.id

end Service

namespace Statement

/-- One statement: what it leaves, and the statements that follow it. -/
def exec (cron : Cron) (x : Input) (s : Service) :
    Statement -> Service × List Statement
  | selectDue =>
      if x.fails then (s, [])
      else
        ({ s with
            fired := s.fired ++
              (s.dueRows x).map fun r => (r.id, r.timing.runAt) },
          (s.dueRows x).flatMap fun r => fireSchedule r.due)
  | loadScript d =>
      if x.fails then (s, [])
      else
        match s.tables.scripts.find? fun r => r.id = d.scriptId with
        | none => (s, [])
        | some script => (s, [resolveTargets d (scriptPayload script d)])
  | resolveTargets d payload =>
      if x.fails then (s, [])
      else (s, (s.tables.resolveTargets d).map (createCommand d payload))
  | createCommand d payload agentId =>
      -- an agent for which no command can be created does not stop the others
      if x.fails then (s, [])
      else
        ({ s with
            tables :=
              { s.tables with
                commands := s.tables.commands ++
                  [{ tenantId := d.tenantId
                     agentId := agentId
                     scheduleId := d.id
                     payload := payload }] } },
          [])
  | advanceNextRun d =>
      if x.fails then (s, [])
      else ({ s with tables := s.tables.advanceNextRun cron d x.now }, [])
  | decodeCreate _ none => s.reply (Answer.invalid "corps de requête invalide")
  | decodeCreate tenantId (some req) =>
      match checkCreate cron x.now req with
      | Except.error message => s.reply (Answer.invalid message)
      | Except.ok ins => (s, [scriptExists tenantId ins])
  | scriptExists tenantId ins =>
      if x.fails || (Uuid.parse ins.scriptId).isNone then
        s.reply (Answer.internal "erreur de base de données")
      else if s.tables.scriptExists ins.scriptId tenantId then
        (s, [insertSchedule tenantId ins])
      else s.reply (Answer.invalid "script introuvable")
  | insertSchedule tenantId ins =>
      match if x.fails then none
          else s.tables.insertSchedule x.uuid tenantId ins with
      | none =>
          s.reply (Answer.internal "erreur lors de la création de la planification")
      | some tables =>
          ({ s with tables := tables }, [respondSchedule 201 x.uuid.text])
  | readSchedule _ _ none => s.reply (Answer.invalid "corps de requête invalide")
  | readSchedule tenantId scheduleId (some req) =>
      if x.fails || (Uuid.parse scheduleId).isNone then
        s.reply (Answer.internal "erreur de base de données")
      else
        match s.tables.findSchedule tenantId scheduleId with
        | none => s.reply Answer.notFound
        | some row =>
            match req.check cron x.now row with
            | Except.error message => s.reply (Answer.invalid message)
            | Except.ok w => (s, [writeSchedule tenantId scheduleId w])
  | writeSchedule tenantId scheduleId w =>
      match if x.fails then none
          else s.tables.writeSchedule tenantId scheduleId w with
      | none => s.reply (Answer.internal "erreur lors de la mise à jour")
      | some tables => ({ s with tables := tables }, [respondSchedule 200 scheduleId])
  | respondSchedule status scheduleId =>
      match if x.fails then none
          else s.tables.schedules.find? fun r => r.id.named scheduleId with
      | none => s.reply (Answer.internal "erreur de base de données")
      | some row => s.reply (Answer.schedule status row)
  | deleteSchedule tenantId scheduleId =>
      if x.fails || (Uuid.parse scheduleId).isNone then
        s.reply (Answer.internal "erreur lors de la suppression")
      else if s.tables.schedules.any (isSchedule tenantId scheduleId) then
        Service.reply
          { s with tables := s.tables.deleteSchedule tenantId scheduleId }
          Answer.noContent
      else s.reply Answer.notFound

end Statement

/-- A poll of the scheduler, or a request of the HTTP interface. -/
inductive Request where
  | poll
  | create (tenantId : String) (body : Option CreateScheduleRequest)
  | update (tenantId scheduleId : String) (body : Option UpdateScheduleRequest)
  | delete (tenantId scheduleId : String)

def entry : Request -> List Statement
  | Request.poll => [Statement.selectDue]
  | Request.create tenantId body => [Statement.decodeCreate tenantId body]
  | Request.update tenantId scheduleId body =>
      [Statement.readSchedule tenantId scheduleId body]
  | Request.delete tenantId scheduleId =>
      [Statement.deleteSchedule tenantId scheduleId]

/-- A statement at the time of its input; time does not go back. -/
def perform (cron : Cron) (k : Statement) (x : Input) (s : Service) :
    Option (Outcome Service Statement) :=
  if s.clock ≤ x.now then
    some
      { shared := { (k.exec cron x s).1 with clock := x.now }
        cont := (k.exec cron x s).2
        spawned := [] }
  else none

abbrev State := Pool Service Statement

abbrev Event := PoolEvent Request Input

/-- Every interleaving of the polls and the requests. -/
def service (cron : Cron) : Machine State Event :=
  Pool.machine entry (perform cron)

/-- The polls and the requests, one after the other. -/
def sequence (cron : Cron) : Machine Service (Request × List Input) :=
  Pool.serial entry (perform cron)

/-- A request that nothing interrupts is a run of the service. -/
theorem complete_service {cron : Cron} {xs : List Input} {r : Request}
    {s t : Service} (h : (sequence cron).step s (r, xs) = some t) :
    (service cron).run { shared := s, procs := [entry r] }
      (xs.map (PoolEvent.exec 0)) = some { shared := t, procs := [[]] } := by
  apply Pool.complete_run _ h
  intro k x s o hperform
  unfold perform at hperform
  split at hperform
  · cases hperform
    rfl
  · cases hperform

/-!
## What a statement does
-/

/-- The final statement of a firing. -/
def Statement.isAdvance : Statement -> Bool
  | Statement.advanceNextRun _ => true
  | _ => false

/-- The statements of a firing other than the final one. -/
def Statement.isInner : Statement -> Bool
  | Statement.loadScript _ => true
  | Statement.resolveTargets _ _ => true
  | Statement.createCommand _ _ _ => true
  | _ => false

/-- Everything a statement can do to the service, and what follows it. -/
inductive Moves (cron : Cron) (x : Input) (s : Service) :
    Statement -> Service -> List Statement -> Prop where
  | skipped {k} :
      (k.isAdvance = true -> x.fails = true) -> Moves cron x s k s []
  | refused {k status code message} :
      k.isInner = false -> k.isAdvance = false ->
      Moves cron x s k (s.reply (Answer.error status code message)).1 []
  | responded {status scheduleId row} :
      Moves cron x s (Statement.respondSchedule status scheduleId)
        (s.reply (Answer.schedule status row)).1 []
  | selected :
      Moves cron x s Statement.selectDue
        { s with
          fired := s.fired ++ (s.dueRows x).map fun r => (r.id, r.timing.runAt) }
        ((s.dueRows x).flatMap fun r => fireSchedule r.due)
  | loaded {d payload} :
      Moves cron x s (Statement.loadScript d) s
        [Statement.resolveTargets d payload]
  | resolved {d payload} {ids : List Uuid} :
      Moves cron x s (Statement.resolveTargets d payload) s
        (ids.map (Statement.createCommand d payload))
  | commanded {d payload agentId commands} :
      Moves cron x s (Statement.createCommand d payload agentId)
        { s with tables := { s.tables with commands := commands } } []
  | advanced {d} :
      x.fails = false ->
      Moves cron x s (Statement.advanceNextRun d)
        { s with tables := s.tables.advanceNextRun cron d x.now } []
  | checked {tenantId req ins} :
      checkCreate cron x.now req = Except.ok ins ->
      Moves cron x s (Statement.decodeCreate tenantId (some req)) s
        [Statement.scriptExists tenantId ins]
  | found {tenantId ins} :
      Moves cron x s (Statement.scriptExists tenantId ins) s
        [Statement.insertSchedule tenantId ins]
  | inserted {tenantId ins tables} :
      s.tables.insertSchedule x.uuid tenantId ins = some tables ->
      Moves cron x s (Statement.insertSchedule tenantId ins)
        { s with tables := tables } [Statement.respondSchedule 201 x.uuid.text]
  | read {tenantId scheduleId req row w} :
      s.tables.findSchedule tenantId scheduleId = some row ->
      req.check cron x.now row = Except.ok w ->
      Moves cron x s (Statement.readSchedule tenantId scheduleId (some req)) s
        [Statement.writeSchedule tenantId scheduleId w]
  | written {tenantId scheduleId w tables} :
      s.tables.writeSchedule tenantId scheduleId w = some tables ->
      Moves cron x s (Statement.writeSchedule tenantId scheduleId w)
        { s with tables := tables } [Statement.respondSchedule 200 scheduleId]
  | deleted {tenantId scheduleId} :
      Moves cron x s (Statement.deleteSchedule tenantId scheduleId)
        (Service.reply
          { s with tables := s.tables.deleteSchedule tenantId scheduleId }
          Answer.noContent).1 []

/-- The statements obey this description. -/
theorem Statement.moves (cron : Cron) (x : Input) (s : Service) (k : Statement) :
    Moves cron x s k (k.exec cron x s).1 (k.exec cron x s).2 := by
  cases k with
  | selectDue =>
      simp only [exec]
      split
      · exact Moves.skipped (fun h => by cases h)
      · exact Moves.selected
  | loadScript d =>
      simp only [exec]
      split
      · exact Moves.skipped (fun h => by cases h)
      · split
        · exact Moves.skipped (fun h => by cases h)
        · exact Moves.loaded
  | resolveTargets d payload =>
      simp only [exec]
      split
      · exact Moves.skipped (fun h => by cases h)
      · exact Moves.resolved
  | createCommand d payload agentId =>
      simp only [exec]
      split
      · exact Moves.skipped (fun h => by cases h)
      · exact Moves.commanded
  | advanceNextRun d =>
      simp only [exec]
      split
      · rename_i hfails
        exact Moves.skipped (fun _ => hfails)
      · rename_i hfails
        exact Moves.advanced (Bool.eq_false_iff.mpr hfails)
  | decodeCreate tenantId body =>
      cases body with
      | none =>
          exact Moves.refused rfl rfl
      | some req =>
          simp only [exec]
          split
          · exact Moves.refused rfl rfl
          · rename_i ins hins
            exact Moves.checked hins
  | scriptExists tenantId ins =>
      simp only [exec]
      split
      · exact Moves.refused rfl rfl
      · split
        · exact Moves.found
        · exact Moves.refused rfl rfl
  | insertSchedule tenantId ins =>
      simp only [exec]
      split
      · exact Moves.refused rfl rfl
      · rename_i tables htables
        split at htables
        · cases htables
        · exact Moves.inserted htables
  | readSchedule tenantId scheduleId body =>
      cases body with
      | none =>
          exact Moves.refused rfl rfl
      | some req =>
          simp only [exec]
          split
          · exact Moves.refused rfl rfl
          · split
            · exact Moves.refused rfl rfl
            · rename_i row hrow
              split
              · exact Moves.refused rfl rfl
              · rename_i w hw
                exact Moves.read hrow hw
  | writeSchedule tenantId scheduleId w =>
      simp only [exec]
      split
      · exact Moves.refused rfl rfl
      · rename_i tables htables
        split at htables
        · cases htables
        · exact Moves.written htables
  | respondSchedule status scheduleId =>
      simp only [exec]
      split
      · exact Moves.refused rfl rfl
      · exact Moves.responded
  | deleteSchedule tenantId scheduleId =>
      simp only [exec]
      split
      · exact Moves.refused rfl rfl
      · split
        · exact Moves.deleted
        · exact Moves.refused rfl rfl

/-- The statements of a firing before the final one leave the schedules and the
answers alone, and only such statements follow them. -/
theorem Moves.inner {cron : Cron} {x : Input} {s t : Service} {k : Statement}
    {cont : List Statement} (h : Moves cron x s k t cont) (hk : k.isInner = true) :
    t.tables.schedules = s.tables.schedules ∧ t.fired = s.fired ∧
      t.answers = s.answers ∧ forall j, j ∈ cont -> j.isInner = true := by
  cases h with
  | skipped | commanded =>
      exact ⟨rfl, rfl, rfl, fun j hj => by cases hj⟩
  | refused hnot =>
      rw [hk] at hnot
      cases hnot
  | loaded =>
      refine ⟨rfl, rfl, rfl, ?_⟩
      intro j hj
      rw [List.mem_singleton] at hj
      rw [hj]
      rfl
  | resolved =>
      refine ⟨rfl, rfl, rfl, ?_⟩
      intro j hj
      rcases List.mem_map.mp hj with ⟨a, _, heq⟩
      rw [← heq]
      rfl
  | responded | selected | advanced | checked | found | inserted | read | written
  | deleted =>
      cases hk

/-- A statement that is performed has moved the service, at the time of its
input. -/
theorem perform_some {cron : Cron} {k : Statement} {x : Input} {s : Service}
    {o : Outcome Service Statement} (h : perform cron k x s = some o) :
    exists t, Moves cron x s k t o.cont ∧ o.shared = { t with clock := x.now } ∧
      o.spawned = [] ∧ s.clock ≤ x.now := by
  unfold perform at h
  split at h
  · rename_i hclock
    cases h
    exact ⟨(k.exec cron x s).1, k.moves cron x s, rfl, rfl, hclock⟩
  · cases h

/-!
## A small service
-/

namespace Sample

def tenant : Uuid where
  text := "7e000000-0000-4000-8000-000000000003"
  canonical := by decide

def script : Uuid where
  text := "5c000000-0000-4000-8000-000000000001"
  canonical := by decide

def agent : Uuid where
  text := "a0000000-0000-4000-8000-000000000005"
  canonical := by decide

def schedule : Uuid where
  text := "5c000000-0000-4000-8000-000000000002"
  canonical := by decide

def second : Nat := 1000000

/-- A time on the hour, in 2025. -/
def noon : Nat := 63900000000000000

/-- The function `Next` of an expression that matches at every multiple of a
period. -/
def everyPeriod (period : Nat) (t : Nat) : Nat :=
  (t / period + 1) * period

/-- Three expressions and their dates: every minute, every hour, and the 30th of
February. -/
def parseStandard (expr : String) : Except String (Nat -> Nat) :=
  if expr = "* * * * *" then Except.ok (everyPeriod (60 * second))
  else if expr = "0 * * * *" then Except.ok (everyPeriod (3600 * second))
  else if expr = "0 0 30 2 *" then Except.ok (fun _ => 0)
  else Except.error ("expected exactly 5 fields: " ++ expr)

theorem everyPeriod_after {period : Nat} (h : 0 < period) (t : Nat) :
    t < everyPeriod period t := by
  unfold everyPeriod
  rw [Nat.mul_comm]
  exact Nat.lt_mul_div_succ t h

def cron : Cron where
  parseStandard := parseStandard
  next_after := by
    intro expr next h t
    unfold parseStandard at h
    split at h
    · cases h
      exact Or.inr (everyPeriod_after (by decide) t)
    · split at h
      · cases h
        exact Or.inr (everyPeriod_after (by decide) t)
      · split at h
        · cases h
          exact Or.inl rfl
        · cases h

/-- One script, one machine and the given schedules. -/
def tables (schedules : List ScheduleRow) : Tables where
  scripts :=
    [{ id := script
       tenantId := tenant
       interpreter := "bash"
       content := "uptime" }]
  agents := [{ id := agent, tenantId := tenant, workspaceId := none }]
  workspaces := []
  schedules := schedules
  commands := []

def start (schedules : List ScheduleRow) : Service where
  tables := tables schedules
  clock := noon
  fired := []
  answers := []

/-- A statement that meets no failure. -/
def fine (now : Nat) : Input where
  fails := false
  scanFails := fun _ => false
  now := now
  uuid := schedule

/-- An enabled schedule of the machine, for the given date. -/
def row (timing : Timing) (nextRunAt : Nat) : ScheduleRow where
  id := schedule
  tenantId := tenant
  scriptId := script
  name := "inventaire"
  target := Target.agent agent
  timing := timing
  timeoutSec := 60
  enabled := true
  nextRunAt := nextRunAt
  lastRunAt := none

/-- A request that changes nothing. -/
def patch : UpdateScheduleRequest where
  name := none
  agentId := none
  workspaceId := none
  cronExpression := none
  runAt := none
  timeoutSec := none
  enabled := none

end Sample

end Scheduler
end LeoOne
