import LeoOne.Wire.Json
import LeoOne.Backend.Database

/-!
# Script schedules

The table `script_schedules` with the statements that the scheduler and the HTTP
handlers run on it.  Each statement is atomic; `none` is an error of the
statement, which then has no effect.

A time is a number of microseconds, the resolution of the column, since the zero
time of Go.  Dates before the zero time are not told apart from it: the programs
only compare a date they are given with the present.  The clock of the server and
the clock of the database are the same.
-/

namespace LeoOne
namespace Scheduler

open Foundation
open Wire
open Backend

/-- The library robfig/cron: what `ParseStandard` makes of an expression (an
error text, or the function `Next`).  `Next` is strictly in the future, or the
zero time when nothing matches within five years. -/
structure Cron where
  parseStandard : String -> Except String (Nat -> Nat)
  next_after : forall {expr : String} {next : Nat -> Nat},
    parseStandard expr = Except.ok next -> forall t, next t = 0 ∨ t < next t

/-- Exactly one of `agent_id` and `workspace_id` is set, by the first `CHECK` of
the table. -/
inductive Target where
  | agent (id : Uuid)
  | workspace (id : Uuid)
  deriving DecidableEq

/-- Exactly one of `cron_expression` and `run_at` is set, by the second. -/
inductive Timing where
  | recurring (cronExpression : String)
  | once (runAt : Nat)
  deriving DecidableEq

namespace Target

def agentId : Target -> Option Uuid
  | agent id => some id
  | workspace _ => none

def workspaceId : Target -> Option Uuid
  | agent _ => none
  | workspace id => some id

/-- The `CHECK` on the two columns. -/
def ofColumns : Option Uuid -> Option Uuid -> Option Target
  | some id, none => some (agent id)
  | none, some id => some (workspace id)
  | _, _ => none

end Target

namespace Timing

def cronExpression : Timing -> Option String
  | recurring expr => some expr
  | once _ => none

def runAt : Timing -> Option Nat
  | recurring _ => none
  | once t => some t

/-- The `CHECK` on the two columns. -/
def ofColumns : Option String -> Option Nat -> Option Timing
  | some expr, none => some (recurring expr)
  | none, some t => some (once t)
  | _, _ => none

end Timing

/-- A row of `script_schedules`.  The columns that record who created it and when
it was last written are left out. -/
structure ScheduleRow where
  id : Uuid
  tenantId : Uuid
  scriptId : Uuid
  name : String
  target : Target
  timing : Timing
  timeoutSec : Int
  enabled : Bool
  nextRunAt : Nat
  lastRunAt : Option Nat
  deriving DecidableEq

structure ScriptRow where
  id : Uuid
  tenantId : Uuid
  interpreter : String
  content : String
  deriving DecidableEq

/-- The columns of `agents` by which a target is resolved. -/
structure TargetRow where
  id : Uuid
  tenantId : Uuid
  workspaceId : Option Uuid
  deriving DecidableEq

/-- A command that a firing has created. -/
structure ScheduledCommand where
  tenantId : Uuid
  agentId : Uuid
  scheduleId : Uuid
  payload : Json

/-- `dueSchedule`: the columns that a firing works from. -/
structure DueSchedule where
  id : Uuid
  tenantId : Uuid
  scriptId : Uuid
  target : Target
  cronExpression : Option String
  timeoutSec : Int
  deriving DecidableEq

structure Tables where
  scripts : List ScriptRow
  agents : List TargetRow
  workspaces : List Uuid
  schedules : List ScheduleRow
  commands : List ScheduledCommand

/-- The columns of a row that the `SELECT` of `runDueSchedules` reads. -/
def ScheduleRow.due (r : ScheduleRow) : DueSchedule where
  id := r.id
  tenantId := r.tenantId
  scriptId := r.scriptId
  target := r.target
  cronExpression := r.timing.cronExpression
  timeoutSec := r.timeoutSec

/-- `WHERE enabled AND next_run_at <= NOW()`. -/
def ScheduleRow.isDue (now : Nat) (r : ScheduleRow) : Bool :=
  r.enabled && r.nextRunAt ≤ now

/-!
## What the handlers check
-/

/-- `unicode.IsSpace`. -/
def isSpace (c : Char) : Bool :=
  let n := c.toNat
  (9 ≤ n && n ≤ 13) || n = 0x20 || n = 0x85 || n = 0xA0 || n = 0x1680 ||
    (0x2000 ≤ n && n ≤ 0x200A) || n = 0x2028 || n = 0x2029 || n = 0x202F ||
    n = 0x205F || n = 0x3000

/-- `strings.TrimSpace`. -/
def trimSpace (s : String) : String :=
  String.ofList (((s.toList.dropWhile isSpace).reverse.dropWhile isSpace).reverse)

/-- The pointer is set to a text other than the empty one. -/
def given (text : Option String) : Bool :=
  text.any fun t => t ≠ ""

def validateTarget (agentId workspaceId : Option String) : Bool :=
  given agentId != given workspaceId

def validateSchedule (cronExpr : Option String) (runAt : Option Nat) : Bool :=
  (cronExpr.any fun expr => trimSpace expr ≠ "") != runAt.isSome

structure CreateScheduleRequest where
  scriptId : String
  name : String
  agentId : Option String
  workspaceId : Option String
  cronExpression : Option String
  runAt : Option Nat
  timeoutSec : Option Int
  deriving DecidableEq

structure UpdateScheduleRequest where
  name : Option String
  agentId : Option String
  workspaceId : Option String
  cronExpression : Option String
  runAt : Option Nat
  timeoutSec : Option Int
  enabled : Option Bool
  deriving DecidableEq

def defaultScheduleTimeoutSec : Int := 60

/-- A timeout that the request gives replaces the other one when it is positive. -/
def chooseTimeout (requested : Option Int) (otherwise : Int) : Int :=
  match requested with
  | some t => if 0 < t then t else otherwise
  | none => otherwise

/-- The answer of a handler. -/
inductive Answer where
  | error (status : Nat) (code message : String)
  | schedule (status : Nat) (row : ScheduleRow)
  | noContent
  deriving DecidableEq

namespace Answer

def invalid (message : String) : Answer :=
  error 400 "VALIDATION_ERROR" message

def internal (message : String) : Answer :=
  error 500 "INTERNAL_ERROR" message

def notFound : Answer :=
  error 404 "NOT_FOUND" "planification introuvable"

end Answer

/-- The first date of a schedule, or the message of the refusal. -/
def firstRun (cron : Cron) (now : Nat) (cronExpr : Option String)
    (runAt : Option Nat) : Except String Nat :=
  match cronExpr, runAt with
  | some expr, _ =>
      match cron.parseStandard expr with
      | Except.error message =>
          Except.error ("cron_expression invalide : " ++ message)
      | Except.ok next => Except.ok (next now)
  | none, some t =>
      if now < t then Except.ok t
      else Except.error "run_at doit être dans le futur"
  | none, none =>
      -- `validateSchedule` has excluded this case
      Except.error "run_at doit être dans le futur"

/-- The arguments of the `INSERT` of `Create`. -/
structure Insertion where
  scriptId : String
  name : String
  agentId : Option String
  workspaceId : Option String
  cronExpression : Option String
  runAt : Option Nat
  timeoutSec : Int
  nextRunAt : Nat
  deriving DecidableEq

/-- `Create`, up to its first statement. -/
def checkCreate (cron : Cron) (now : Nat) (req : CreateScheduleRequest) :
    Except String Insertion :=
  let name := trimSpace req.name
  if name = "" then Except.error "name est requis"
  else if !validateTarget req.agentId req.workspaceId then
    Except.error
      "préciser soit agent_id, soit workspace_id (l'un des deux, pas les deux)"
  else if !validateSchedule req.cronExpression req.runAt then
    Except.error
      "préciser soit cron_expression (récurrent), soit run_at (une seule fois)"
  else
    match firstRun cron now req.cronExpression req.runAt with
    | Except.error message => Except.error message
    | Except.ok nextRunAt =>
        Except.ok
          { scriptId := req.scriptId
            name := name
            agentId := req.agentId
            workspaceId := req.workspaceId
            cronExpression := req.cronExpression
            runAt := req.runAt
            timeoutSec := chooseTimeout req.timeoutSec defaultScheduleTimeoutSec
            nextRunAt := nextRunAt }

/-- The arguments of the `UPDATE` of `Update`.  Without a date it is the first of
the two statements, which leaves `next_run_at` as it is. -/
structure Assignment where
  name : String
  agentId : Option String
  workspaceId : Option String
  cronExpression : Option String
  runAt : Option Nat
  timeoutSec : Int
  enabled : Bool
  nextRunAt : Option Nat
  deriving DecidableEq

namespace UpdateScheduleRequest

/-- `targetChanged`, once the request is accepted. -/
def changesTarget (req : UpdateScheduleRequest) : Bool :=
  req.agentId.isSome || req.workspaceId.isSome

/-- `scheduleChanged`. -/
def changesSchedule (req : UpdateScheduleRequest) : Bool :=
  req.cronExpression.isSome || req.runAt.isSome

/-- The columns `agent_id` and `workspace_id` after the request; the second field
of the request wins over the first. -/
def target (req : UpdateScheduleRequest) (row : ScheduleRow) :
    Option String × Option String :=
  match req.workspaceId, req.agentId with
  | some w, _ => (none, some w)
  | none, some a => (some a, none)
  | none, none =>
      (row.target.agentId.map Uuid.text, row.target.workspaceId.map Uuid.text)

/-- The columns `cron_expression` and `run_at` after the request. -/
def timing (req : UpdateScheduleRequest) (row : ScheduleRow) :
    Option String × Option Nat :=
  match req.runAt, req.cronExpression with
  | some t, _ => (none, some t)
  | none, some expr => (some expr, none)
  | none, none => (row.timing.cronExpression, row.timing.runAt)

/-- The value of `nextRunAt` when `Update` reaches its `UPDATE`: the zero time
unless the target or the schedule changes. -/
def nextRun (req : UpdateScheduleRequest) (cron : Cron) (now : Nat)
    (row : ScheduleRow) : Except String Nat :=
  if req.changesSchedule || req.changesTarget then
    if !validateSchedule (req.timing row).1 (req.timing row).2 then
      Except.error
        "préciser soit cron_expression, soit run_at (l'un des deux, pas les deux)"
    else firstRun cron now (req.timing row).1 (req.timing row).2
  else Except.ok 0

/-- `Update` between its two statements, on the row it has read. -/
def check (req : UpdateScheduleRequest) (cron : Cron) (now : Nat)
    (row : ScheduleRow) : Except String Assignment :=
  if req.changesTarget &&
      !validateTarget (req.target row).1 (req.target row).2 then
    Except.error
      "préciser soit agent_id, soit workspace_id (l'un des deux, pas les deux)"
  else if req.name.any fun n => trimSpace n = "" then
    Except.error "name ne peut pas être vide"
  else if req.cronExpression.isSome && req.runAt.isSome then
    Except.error
      "préciser soit cron_expression, soit run_at (pas les deux dans la même requête)"
  else
    match req.nextRun cron now row with
    | Except.error message => Except.error message
    | Except.ok nextRunAt =>
        Except.ok
          { name := (req.name.map trimSpace).getD row.name
            agentId := (req.target row).1
            workspaceId := (req.target row).2
            cronExpression := (req.timing row).1
            runAt := (req.timing row).2
            timeoutSec := chooseTimeout req.timeoutSec row.timeoutSec
            enabled := req.enabled.getD row.enabled
            nextRunAt := if nextRunAt = 0 then none else some nextRunAt }

end UpdateScheduleRequest

/-!
## Statements
-/

/-- A nullable `uuid` column; a text that is no UUID is an error. -/
def uuidColumn : Option String -> Option (Option Uuid)
  | none => some none
  | some text => (Uuid.parse text).map some

/-- A nullable `TEXT` column. -/
def fitsColumn (text : Option String) : Bool :=
  text.all fitsText

/-- `WHERE id = $1 AND tenant_id = $2`. -/
def isSchedule (tenantId scheduleId : String) (r : ScheduleRow) : Bool :=
  r.id.named scheduleId && r.tenantId.named tenantId

/-- The row that an `UPDATE` of `Update` leaves. -/
def ScheduleRow.assign (w : Assignment) (target : Target) (timing : Timing)
    (r : ScheduleRow) : ScheduleRow :=
  { r with
    name := w.name
    target := target
    timing := timing
    timeoutSec := w.timeoutSec
    enabled := w.enabled
    nextRunAt := w.nextRunAt.getD r.nextRunAt }

/-- `computeNextRun`. -/
def computeNextRun (cron : Cron) (expr : String) (now : Nat) : Except String Nat :=
  (cron.parseStandard expr).map fun next => next now

namespace Tables

/-- The rows that `target` refers to exist, as its foreign keys demand. -/
def hasTarget (t : Tables) : Target -> Bool
  | Target.agent id => t.agents.any fun a => a.id = id
  | Target.workspace id => t.workspaces.contains id

/-- The two columns of the target, under the `CHECK` and the foreign keys. -/
def targetOf (t : Tables) (agentId workspaceId : Option String) : Option Target :=
  match uuidColumn agentId, uuidColumn workspaceId with
  | some a, some w =>
      match Target.ofColumns a w with
      | some target => if t.hasTarget target then some target else none
      | none => none
  | _, _ => none

/-- `SELECT EXISTS(SELECT 1 FROM scripts WHERE id = $1 AND tenant_id = $2)`. -/
def scriptExists (t : Tables) (scriptId tenantId : String) : Bool :=
  t.scripts.any fun r => r.id.named scriptId && r.tenantId.named tenantId

/-- The row that the `INSERT` of `Create` adds. -/
def newSchedule (t : Tables) (id : Uuid) (tenantId : String) (ins : Insertion) :
    Option ScheduleRow :=
  match Uuid.parse tenantId, Uuid.parse ins.scriptId,
      t.targetOf ins.agentId ins.workspaceId,
      Timing.ofColumns ins.cronExpression ins.runAt with
  | some tenant, some script, some target, some timing =>
      if fitsText ins.name && fitsColumn ins.cronExpression &&
          fitsInteger ins.timeoutSec && (t.scripts.any fun r => r.id = script) then
        some
          { id := id
            tenantId := tenant
            scriptId := script
            name := ins.name
            target := target
            timing := timing
            timeoutSec := ins.timeoutSec
            enabled := true
            nextRunAt := ins.nextRunAt
            lastRunAt := none }
      else none
  | _, _, _, _ => none

/-- The `INSERT` of `Create`. -/
def insertSchedule (t : Tables) (id : Uuid) (tenantId : String) (ins : Insertion) :
    Option Tables :=
  match t.newSchedule id tenantId ins with
  | none => none
  | some row =>
      if t.schedules.any fun r => r.id = id then none
      else some { t with schedules := t.schedules ++ [row] }

/-- The `SELECT` of `Update`. -/
def findSchedule (t : Tables) (tenantId scheduleId : String) : Option ScheduleRow :=
  t.schedules.find? (isSchedule tenantId scheduleId)

/-- The `UPDATE` of `Update`.  Its arguments are encoded before the row is looked
for; the constraints are checked on the row that is found. -/
def writeSchedule (t : Tables) (tenantId scheduleId : String) (w : Assignment) :
    Option Tables :=
  if (uuidColumn w.agentId).isSome && (uuidColumn w.workspaceId).isSome &&
      fitsText w.name && fitsColumn w.cronExpression && fitsInteger w.timeoutSec then
    if t.schedules.any (isSchedule tenantId scheduleId) then
      match t.targetOf w.agentId w.workspaceId,
          Timing.ofColumns w.cronExpression w.runAt with
      | some target, some timing =>
          some
            { t with
              schedules := Table.updateWhere (isSchedule tenantId scheduleId)
                (ScheduleRow.assign w target timing) t.schedules }
      | _, _ => none
    else some t
  else none

/-- `DELETE FROM script_schedules WHERE id = $1 AND tenant_id = $2`. -/
def deleteSchedule (t : Tables) (tenantId scheduleId : String) : Tables :=
  { t with
    schedules := Table.deleteWhere (isSchedule tenantId scheduleId) t.schedules }

/-- `resolveTargets`. -/
def resolveTargets (t : Tables) (d : DueSchedule) : List Uuid :=
  let selected : TargetRow -> Bool := fun a =>
    match d.target with
    | Target.agent id => a.id = id && a.tenantId = d.tenantId
    | Target.workspace id => a.workspaceId = some id && a.tenantId = d.tenantId
  (t.agents.filter selected).map TargetRow.id

/-- The assignments of the `UPDATE` that `advanceNextRun` chooses. -/
def advanced (cron : Cron) (d : DueSchedule) (now : Nat) (r : ScheduleRow) :
    ScheduleRow :=
  match d.cronExpression with
  | none => { r with enabled := false, lastRunAt := some now }
  | some expr =>
      match computeNextRun cron expr now with
      | Except.error _ => { r with enabled := false }
      | Except.ok next => { r with nextRunAt := next, lastRunAt := some now }

/-- `advanceNextRun`. -/
def advanceNextRun (t : Tables) (cron : Cron) (d : DueSchedule) (now : Nat) :
    Tables :=
  { t with
    schedules := Table.updateWhere (fun r => r.id = d.id) (advanced cron d now)
      t.schedules }

end Tables

/-- The payload of the commands of a firing. -/
def scriptPayload (script : ScriptRow) (d : DueSchedule) : Json :=
  Json.obj
    [("interpreter", Json.str script.interpreter),
     ("script", Json.str script.content),
     ("timeout_sec", Json.num { mantissa := d.timeoutSec, exponent := 0 })]

/-!
## What the statements do
-/

theorem Timing.ofColumns_some {expr : Option String} {t : Option Nat}
    {timing : Timing} (h : Timing.ofColumns expr t = some timing) :
    timing.cronExpression = expr ∧ timing.runAt = t := by
  match expr, t with
  | some e, none =>
      cases h
      exact ⟨rfl, rfl⟩
  | none, some r =>
      cases h
      exact ⟨rfl, rfl⟩
  | none, none =>
      cases h
  | some e, some r =>
      cases h

/-- A new row is enabled, has the date it was given, and has never run. -/
theorem Tables.newSchedule_some {t : Tables} {id : Uuid} {tenantId : String}
    {ins : Insertion} {row : ScheduleRow}
    (h : t.newSchedule id tenantId ins = some row) :
    row.id = id ∧ row.enabled = true ∧ row.nextRunAt = ins.nextRunAt ∧
      row.timing.cronExpression = ins.cronExpression ∧
      row.timing.runAt = ins.runAt := by
  unfold newSchedule at h
  split at h
  · rename_i tenant script target timing _ _ _ htiming
    split at h
    · cases h
      have hcolumns := Timing.ofColumns_some htiming
      exact ⟨rfl, rfl, rfl, hcolumns.left, hcolumns.right⟩
    · cases h
  · cases h

theorem Tables.insertSchedule_some {t t' : Tables} {id : Uuid} {tenantId : String}
    {ins : Insertion} (h : t.insertSchedule id tenantId ins = some t') :
    exists row, t.newSchedule id tenantId ins = some row ∧
      t'.schedules = t.schedules ++ [row] ∧
      forall r, r ∈ t.schedules -> r.id ≠ id := by
  unfold insertSchedule at h
  split at h
  · cases h
  · rename_i row hrow
    split at h
    · cases h
    · rename_i hfresh
      cases h
      refine ⟨row, hrow, rfl, ?_⟩
      intro r hr heq
      exact hfresh (List.any_eq_true.mpr ⟨r, hr, decide_eq_true heq⟩)

/-- The `UPDATE` of `Update` writes the row it names, if there is one. -/
theorem Tables.writeSchedule_some {t t' : Tables} {tenantId scheduleId : String}
    {w : Assignment} (h : t.writeSchedule tenantId scheduleId w = some t') :
    (t' = t ∧ forall r, r ∈ t.schedules -> isSchedule tenantId scheduleId r = false) ∨
    exists target timing, timing.cronExpression = w.cronExpression ∧
      timing.runAt = w.runAt ∧
      t'.schedules = Table.updateWhere (isSchedule tenantId scheduleId)
        (ScheduleRow.assign w target timing) t.schedules := by
  unfold writeSchedule at h
  split at h
  · split at h
    · split at h
      · rename_i target timing _ htiming
        cases h
        have hcolumns := Timing.ofColumns_some htiming
        exact Or.inr ⟨target, timing, hcolumns.left, hcolumns.right, rfl⟩
      · cases h
    · rename_i hnone
      cases h
      left
      refine ⟨rfl, ?_⟩
      intro r hr
      rw [← Bool.not_eq_true]
      intro hsel
      exact hnone (List.any_eq_true.mpr ⟨r, hr, hsel⟩)
  · cases h

/-- The two columns of a timing tell it apart. -/
theorem Timing.eq_once {timing : Timing} {t : Nat} (h : timing.runAt = some t) :
    timing = Timing.once t := by
  cases timing with
  | recurring expr =>
      cases h
  | once r =>
      cases h
      rfl

theorem Timing.eq_recurring {timing : Timing} {expr : String}
    (h : timing.cronExpression = some expr) : timing = Timing.recurring expr := by
  cases timing with
  | recurring e =>
      cases h
      rfl
  | once r =>
      cases h

namespace UpdateScheduleRequest

variable {req : UpdateScheduleRequest} {cron : Cron} {now : Nat}
  {row : ScheduleRow} {w : Assignment}

/-- What an accepted request writes. -/
theorem check_ok (h : req.check cron now row = Except.ok w) :
    exists next, req.nextRun cron now row = Except.ok next ∧
      w.cronExpression = (req.timing row).1 ∧ w.runAt = (req.timing row).2 ∧
      w.enabled = req.enabled.getD row.enabled ∧
      w.nextRunAt = if next = 0 then none else some next := by
  unfold check at h
  split at h
  · cases h
  · split at h
    · cases h
    · split at h
      · cases h
      · split at h
        · cases h
        · rename_i next hnext
          cases h
          exact ⟨next, hnext, rfl, rfl, rfl, rfl⟩

/-- The date of a request that changes the schedule or the target. -/
theorem nextRun_changed (hchange : (req.changesSchedule || req.changesTarget) = true)
    {next : Nat} (h : req.nextRun cron now row = Except.ok next) :
    firstRun cron now (req.timing row).1 (req.timing row).2 = Except.ok next := by
  unfold nextRun at h
  rw [if_pos hchange] at h
  split at h
  · cases h
  · exact h

/-- A request that changes neither leaves the date alone. -/
theorem nextRun_unchanged
    (hchange : (req.changesSchedule || req.changesTarget) = false) {next : Nat}
    (h : req.nextRun cron now row = Except.ok next) : next = 0 := by
  unfold nextRun at h
  rw [hchange] at h
  exact (Except.ok.inj h).symm

end UpdateScheduleRequest

/-- What an accepted creation inserts. -/
theorem checkCreate_ok {cron : Cron} {now : Nat} {req : CreateScheduleRequest}
    {ins : Insertion} (h : checkCreate cron now req = Except.ok ins) :
    firstRun cron now req.cronExpression req.runAt = Except.ok ins.nextRunAt ∧
      ins.cronExpression = req.cronExpression ∧ ins.runAt = req.runAt := by
  unfold checkCreate at h
  simp only at h
  split at h
  · cases h
  · split at h
    · cases h
    · split at h
      · cases h
      · split at h
        · cases h
        · rename_i next hnext
          cases h
          exact ⟨hnext, rfl, rfl⟩

/-- The first date of a one-shot schedule is its own, in the future. -/
theorem firstRun_once {cron : Cron} {now t next : Nat}
    (h : firstRun cron now none (some t) = Except.ok next) :
    next = t ∧ now < t := by
  simp only [firstRun] at h
  split at h
  · rename_i hlt
    exact ⟨(Except.ok.inj h).symm, hlt⟩
  · cases h

/-- The first date of a recurring schedule is the one that `Next` computes. -/
theorem firstRun_recurring {cron : Cron} {now next : Nat} {expr : String}
    {runAt : Option Nat} (h : firstRun cron now (some expr) runAt = Except.ok next) :
    exists f, cron.parseStandard expr = Except.ok f ∧ next = f now := by
  simp only [firstRun] at h
  split at h
  · cases h
  · rename_i f hf
    exact ⟨f, hf, (Except.ok.inj h).symm⟩

end Scheduler
end LeoOne
