import LeoOne.Agent.Strings
import LeoOne.Foundation.Rotation

/-!
# The log of the agent

`logger.c`: a message goes into the log file, or to `stderr` when no file is open.  A file
that has reached its size is renamed to `<path>.1` before the next message, and a new one
is opened; both calls may fail.  The log outlives the process, whose variables start at
zero.
-/

namespace LeoOne
namespace Agent

open Foundation
open Wire

/-!
## The logger
-/

/-- `leo_log_level_t`, in its order. -/
inductive LogLevel where
  | debug
  | info
  | warn
  | error
  | fatal
  deriving DecidableEq

namespace LogLevel

def toNat : LogLevel -> Nat
  | debug => 0
  | info => 1
  | warn => 2
  | error => 3
  | fatal => 4

/-- `LEVEL_NAMES`. -/
def name : LogLevel -> String
  | debug => "DEBUG"
  | info => "INFO "
  | warn => "WARN "
  | error => "ERROR"
  | fatal => "FATAL"

end LogLevel

/-- The files of the machine that have a name. -/
abbrev LogFiles := List UInt8 -> Option (List UInt8)

namespace LogFiles

/-- `fopen` to append, when it succeeds: a file that is missing is made. -/
def openAppend (files : LogFiles) (name : List UInt8) : LogFiles :=
  fun n => if n = name then some ((files name).getD []) else files n

def write (files : LogFiles) (name bytes : List UInt8) : LogFiles :=
  fun n => if n = name then some ((files name).getD [] ++ bytes) else files n

/-- `rename`, when it succeeds. -/
def rename (files : LogFiles) (source target : List UInt8) : LogFiles :=
  match files source with
  | none => files
  | some text => fun n => if n = target then some text else if n = source then none else files n

end LogFiles

/-- `g_logger`, with the name of the file that `fp` is open on; the files; and what was
printed to `stderr`, one entry for each call. -/
structure Logger where
  fp : Option (List UInt8)
  minLevel : LogLevel
  maxBytes : Int
  path : List UInt8
  initialized : Bool
  files : LogFiles
  stderr : List (List UInt8)

/-- A call of `leo_log_write`: its arguments, the message as `vsnprintf` gives it, and the
time as `strftime` gives it. -/
structure LogMessage where
  level : LogLevel
  file : Option (List UInt8)
  line : Int32
  text : List UInt8
  ts : List UInt8

namespace LogMessage

/-- The last part of the name of the source file. -/
def base (m : LogMessage) : List UInt8 :=
  match m.file with
  | none => utf8 "?"
  | some file => file.rtakeWhile fun b => b ≠ 47

/-- The line that is printed; `msg` has 4096 bytes. -/
def record (m : LogMessage) : List UInt8 :=
  m.ts ++ utf8 " [" ++ utf8 m.level.name ++ utf8 "] " ++ m.base ++ 58 :: printInt m.line ++
    utf8 " — " ++ strncpy m.text 4096 ++ [10]

end LogMessage

/-- Whether `leo_rename` and the `fopen` after it succeed. -/
structure Reopening where
  moved : Bool
  opened : Bool

namespace Logger

/-- The name that a full log file gets. -/
def archiveName (path : List UInt8) : List UInt8 :=
  strncpy (path ++ utf8 ".1") 520

/-- `_file_size`: the position of a stream that appends is the end of its file. -/
def fileSize (g : Logger) : Int :=
  match g.fp with
  | none => 0
  | some name => ((g.files name).getD []).length

/-- `_rotate`. -/
def rotate (g : Logger) (x : Reopening) : Logger :=
  if g.fp.isNone || g.path = [] then g
  else
    let files := if x.moved then g.files.rename g.path (archiveName g.path) else g.files
    if x.opened then { g with fp := some g.path, files := files.openAppend g.path }
    else { g with fp := none, files := files }

/-- `leo_log_init`, and what it returns. -/
def leoLogInit (g : Logger) (path : Option (List UInt8)) (level : LogLevel) (maxBytes : Int)
    (opened : Bool) : Logger × Int :=
  let g := { g with
    minLevel := level
    maxBytes := if 0 < maxBytes then maxBytes else 10 * 1024 * 1024 }
  let g :=
    match path with
    | none => g
    | some [] => g
    | some (b :: rest) =>
        let g := { g with path := strncpy (b :: rest) 512 }
        if opened then
          { g with fp := some (b :: rest), files := g.files.openAppend (b :: rest) }
        else
          { g with
            fp := none
            stderr := g.stderr ++
              [utf8 "[leo-agent] WARN: impossible d'ouvrir le log '" ++ b :: rest ++
                utf8 "', utilisation de stderr\n"] }
  ({ g with initialized := true }, if g.fp.isSome || path.isNone then 0 else -1)

/-- Whether a message is logged at all. -/
def accepts (g : Logger) (m : LogMessage) : Bool :=
  g.initialized && !decide (m.level.toNat < g.minLevel.toNat)

/-- The logger when it comes to print: a file that is too large has been rotated. -/
def prepared (g : Logger) (x : Reopening) : Logger :=
  if g.fp.isSome && g.maxBytes ≤ g.fileSize then g.rotate x else g

/-- `fprintf` to the file, or to `stderr` without one. -/
def print (g : Logger) (bytes : List UInt8) : Logger :=
  match g.fp with
  | some name => { g with files := g.files.write name bytes }
  | none => { g with stderr := g.stderr ++ [bytes] }

/-- `leo_log_write`. -/
def leoLogWrite (g : Logger) (m : LogMessage) (x : Reopening) : Logger :=
  if !g.accepts m then g
  else
    let g := (g.prepared x).print m.record
    if m.level = LogLevel.fatal then { g with stderr := g.stderr ++ [m.record] } else g

/-- `leo_log_destroy`. -/
def leoLogDestroy (g : Logger) : Logger :=
  if !g.initialized then g else { g with fp := none, initialized := false }

/-- A new process: the files are the same, and the variables are zero. -/
def restart (g : Logger) : Logger where
  fp := none
  minLevel := LogLevel.debug
  maxBytes := 0
  path := []
  initialized := false
  files := g.files
  stderr := g.stderr

end Logger

/-- What happens to the log: the calls of the logger, and the end of the process. -/
inductive LogEvent where
  | init (path : Option (List UInt8)) (level : LogLevel) (maxBytes : Int) (opened : Bool)
  | write (m : LogMessage) (x : Reopening)
  | destroy
  | restart

namespace Logger

def step (g : Logger) : LogEvent -> Logger
  | LogEvent.init path level maxBytes opened => (g.leoLogInit path level maxBytes opened).1
  | LogEvent.write m x => g.leoLogWrite m x
  | LogEvent.destroy => g.leoLogDestroy
  | LogEvent.restart => g.restart

def run (g : Logger) (es : List LogEvent) : Logger :=
  es.foldl step g

/-- What an event prints into the log file. -/
def filed (g : Logger) : LogEvent -> List UInt8
  | LogEvent.write m x =>
      if g.accepts m && (g.prepared x).fp.isSome then m.record else []
  | _ => []

/-- All that a run prints into the log file. -/
def history (g : Logger) : List LogEvent -> List UInt8
  | [] => []
  | e :: es => g.filed e ++ (g.step e).history es

/-!
## One log file
-/

/-- The archive and the log file. -/
def pair (path : List UInt8) (g : Logger) : Rotated UInt8 where
  archive := (g.files (archiveName path)).getD []
  current := (g.files path).getD []

/-- The name of a log file fits into `g_logger.path`. -/
structure LogName (path : List UInt8) : Prop where
  given : path ≠ []
  fits : path.length < 512

/-- The event, if it opens a log, opens this one. -/
def Opens (path : List UInt8) (limit : Nat) : LogEvent -> Prop
  | LogEvent.init p _ maxBytes _ =>
      p = some path ∧ (if 0 < maxBytes then maxBytes else 10 * 1024 * 1024) = (limit : Int)
  | _ => True

/-- When a file is open, it is this one. -/
def Holds (path : List UInt8) (limit : Nat) (g : Logger) : Prop :=
  forall name, g.fp = some name ->
    name = path ∧ g.path = path ∧ g.maxBytes = limit ∧ (g.files path).isSome = true

/-- What one event may do to the two files. -/
inductive Turn (limit : Nat) (moved : Bool) (f : Rotated UInt8) :
    List UInt8 -> Rotated UInt8 -> Prop where
  | idle : Turn limit moved f [] f
  | append (bytes : List UInt8) (h : f.current.length < limit ∨ moved = false) :
      Turn limit moved f bytes (f.append bytes)
  | rotate (h : limit ≤ f.current.length) : Turn limit moved f [] f.rotate
  | rotateAppend (bytes : List UInt8) (h : limit ≤ f.current.length) :
      Turn limit moved f bytes (f.rotate.append bytes)

/-- The renaming that an event makes succeeds. -/
def moves : LogEvent -> Bool
  | LogEvent.write _ x => x.moved
  | _ => true

theorem archiveName_ne {path : List UInt8} (h : LogName path) : archiveName path ≠ path := by
  intro heq
  have hlength : (path ++ utf8 ".1").length = path.length + 2 := List.length_append
  have hfits := h.fits
  have harchive : (archiveName path).length = path.length + 2 := by
    rw [archiveName, strncpy, List.length_take, hlength]
    omega
  rw [heq] at harchive
  omega

theorem strncpy_path {path : List UInt8} (h : LogName path) : strncpy path 512 = path :=
  List.take_of_length_le (Nat.le_sub_one_of_lt h.fits)

variable {path : List UInt8} {limit : Nat} {g : Logger}

theorem openAppend_getD (files : LogFiles) (name n : List UInt8) :
    ((files.openAppend name) n).getD [] = (files n).getD [] := by
  rw [LogFiles.openAppend]
  split
  · rename_i heq
    rw [heq]
    rfl
  · rfl

theorem openAppend_isSome (files : LogFiles) (name : List UInt8) :
    ((files.openAppend name) name).isSome = true := by
  rw [LogFiles.openAppend, if_pos rfl]
  rfl

/-- A rotation of the file that is open. -/
theorem rotate_open (hname : LogName path) (h : Holds path limit g) {name : List UInt8}
    (hfp : g.fp = some name) (x : Reopening) :
    Holds path limit (g.rotate x) ∧
      pair path (g.rotate x) = if x.moved then (pair path g).rotate else pair path g := by
  rcases h name hfp with ⟨rfl, hpath, hmax, hsome⟩
  rcases Option.isSome_iff_exists.mp hsome with ⟨text, htext⟩
  have hne := archiveName_ne hname
  have hguard : (g.fp.isNone || decide (g.path = [])) = false := by
    rw [hfp, hpath, decide_eq_false hname.given]
    rfl
  have hcurrent : (pair name g).current = text := by
    rw [pair, htext]
    rfl
  -- the files after the renaming, whether or not the file is opened again
  have hmoved : forall files : LogFiles,
      files = (if x.moved then g.files.rename name (archiveName name) else g.files) ->
        (Rotated.mk ((files (archiveName name)).getD []) ((files name).getD [])) =
          if x.moved then (pair name g).rotate else pair name g := by
    rintro files rfl
    cases x.moved with
    | false =>
        rfl
    | true =>
        rw [if_pos rfl, if_pos rfl, Rotated.rotate, hcurrent, LogFiles.rename, htext]
        simp only [if_true, if_neg hne.symm]
        rfl
  rw [rotate, hguard, if_neg Bool.false_ne_true, hpath]
  cases x.opened with
  | true =>
      rw [if_pos rfl]
      constructor
      · rintro n ⟨⟩
        exact ⟨rfl, rfl, hmax, openAppend_isSome _ _⟩
      · rw [pair, openAppend_getD, openAppend_getD]
        exact hmoved _ rfl
  | false =>
      rw [if_neg Bool.false_ne_true]
      constructor
      · rintro n ⟨⟩
      · exact hmoved _ rfl

/-- What a message does before it is printed. -/
theorem prepared_cases (hname : LogName path) (h : Holds path limit g) (x : Reopening) :
    Holds path limit (g.prepared x) ∧
      (pair path (g.prepared x) = pair path g ∧
          ((g.prepared x).fp = none ∨ (pair path g).current.length < limit ∨
            x.moved = false) ∨
        pair path (g.prepared x) = (pair path g).rotate ∧
          limit ≤ (pair path g).current.length) := by
  rw [prepared]
  cases hfp : g.fp with
  | none =>
      rw [Option.isSome_none, Bool.false_and, if_neg Bool.false_ne_true]
      exact ⟨h, Or.inl ⟨rfl, Or.inl hfp⟩⟩
  | some name =>
      rcases h name hfp with ⟨rfl, hpath, hmax, hsome⟩
      have hsize : g.fileSize = ((pair name g).current.length : Int) := by
        rw [fileSize, hfp]
        rfl
      rw [Option.isSome_some, Bool.true_and, hmax, hsize]
      by_cases hfull : limit ≤ (pair name g).current.length
      · rw [if_pos (decide_eq_true (Int.ofNat_le.mpr hfull))]
        rcases rotate_open hname h hfp x with ⟨hholds, hpair⟩
        refine ⟨hholds, ?_⟩
        cases hmoved : x.moved with
        | true =>
            rw [hmoved, if_pos rfl] at hpair
            exact Or.inr ⟨hpair, hfull⟩
        | false =>
            rw [hmoved, if_neg Bool.false_ne_true] at hpair
            exact Or.inl ⟨hpair, Or.inr (Or.inr rfl)⟩
      · have hroom : ¬ (limit : Int) ≤ (pair name g).current.length :=
          fun hle => hfull (Int.ofNat_le.mp hle)
        rw [if_neg (by rw [decide_eq_false hroom]; exact Bool.false_ne_true)]
        exact ⟨h, Or.inl ⟨rfl, Or.inr (Or.inl (Nat.lt_of_not_le hfull))⟩⟩

theorem print_open (hname : LogName path) (h : Holds path limit g) {name : List UInt8}
    (hfp : g.fp = some name) (bytes : List UInt8) :
    Holds path limit (g.print bytes) ∧
      pair path (g.print bytes) = (pair path g).append bytes := by
  rcases h name hfp with ⟨rfl, hpath, hmax, hsome⟩
  have hprint : g.print bytes = { g with files := g.files.write name bytes } := by
    rw [print, hfp]
  rw [hprint]
  constructor
  · intro n hn
    rw [hfp] at hn
    cases hn
    refine ⟨rfl, hpath, hmax, ?_⟩
    simp only [LogFiles.write, if_true, Option.isSome_some]
  · simp only [pair, LogFiles.write, if_true, if_neg (archiveName_ne hname), Option.getD_some]
    rfl

/-- Without an open file a message goes to `stderr`. -/
theorem print_closed (h : g.fp = none) (bytes : List UInt8) :
    g.print bytes = { g with stderr := g.stderr ++ [bytes] } := by
  rw [print, h]

theorem holds_stderr {texts : List (List UInt8)} (h : Holds path limit g) :
    Holds path limit { g with stderr := texts } :=
  h

/-- `leo_log_write` in the four ways of a turn. -/
theorem leoLogWrite_turn (hname : LogName path) (h : Holds path limit g) (m : LogMessage)
    (x : Reopening) :
    Holds path limit (g.leoLogWrite m x) ∧
      Turn limit x.moved (pair path g) (g.filed (LogEvent.write m x))
        (pair path (g.leoLogWrite m x)) := by
  rw [leoLogWrite, filed]
  cases haccepts : g.accepts m with
  | false =>
      exact ⟨h, Turn.idle⟩
  | true =>
      have hlast : forall g' : Logger, Holds path limit g' ->
          Holds path limit
              (if m.level = LogLevel.fatal then
                { g' with stderr := g'.stderr ++ [m.record] } else g') ∧
            pair path
              (if m.level = LogLevel.fatal then
                { g' with stderr := g'.stderr ++ [m.record] } else g') = pair path g' := by
        intro g' hg'
        split
        · exact ⟨holds_stderr hg', rfl⟩
        · exact ⟨hg', rfl⟩
      rcases prepared_cases hname h x with ⟨hprepared, hcases⟩
      simp only [Bool.not_true, Bool.false_eq_true, if_false, Bool.true_and]
      cases hfp : (g.prepared x).fp with
      | none =>
          have hprint := print_closed hfp m.record
          have hholds : Holds path limit ((g.prepared x).print m.record) := by
            rw [hprint]
            exact holds_stderr hprepared
          have hpair : pair path ((g.prepared x).print m.record) = pair path (g.prepared x) := by
            rw [hprint]
            rfl
          refine ⟨(hlast _ hholds).left, ?_⟩
          rw [(hlast _ hholds).right, hpair]
          rcases hcases with ⟨hsame, _⟩ | ⟨hrotated, hfull⟩
          · rw [hsame]
            exact Turn.idle
          · rw [hrotated]
            exact Turn.rotate hfull
      | some name =>
          rcases print_open hname hprepared hfp m.record with ⟨hholds, hpair⟩
          refine ⟨(hlast _ hholds).left, ?_⟩
          rw [(hlast _ hholds).right, hpair]
          rcases hcases with ⟨hsame, hwhy⟩ | ⟨hrotated, hfull⟩
          · rw [hsame]
            apply Turn.append
            rcases hwhy with hclosed | hroom
            · rw [hfp] at hclosed
              cases hclosed
            · exact hroom
          · rw [hrotated]
            exact Turn.rotateAppend _ hfull

/-- Opening the log prints nothing into it. -/
theorem leoLogInit_turn (g : Logger) (hname : LogName path) (level : LogLevel) {maxBytes : Int}
    (hmax : (if 0 < maxBytes then maxBytes else 10 * 1024 * 1024) = (limit : Int))
    (opened : Bool) :
    Holds path limit (g.leoLogInit (some path) level maxBytes opened).1 ∧
      pair path (g.leoLogInit (some path) level maxBytes opened).1 = pair path g := by
  cases path with
  | nil =>
      exact absurd rfl hname.given
  | cons b rest =>
      cases opened with
      | false =>
          constructor
          · rintro n ⟨⟩
          · rfl
      | true =>
          constructor
          · rintro n ⟨⟩
            exact ⟨rfl, strncpy_path hname, hmax, openAppend_isSome _ _⟩
          · simp only [pair, leoLogInit, if_true, openAppend_getD]

/-- Every event is one of the turns. -/
theorem step_turn (hname : LogName path) (h : Holds path limit g) {e : LogEvent}
    (hopens : Opens path limit e) :
    Holds path limit (g.step e) ∧
      Turn limit (moves e) (pair path g) (g.filed e) (pair path (g.step e)) := by
  cases e with
  | init p level maxBytes opened =>
      rcases hopens with ⟨rfl, hmax⟩
      rcases leoLogInit_turn g hname level hmax opened with ⟨hholds, hpair⟩
      refine ⟨hholds, ?_⟩
      rw [step, hpair]
      exact Turn.idle
  | write m x =>
      exact leoLogWrite_turn hname h m x
  | destroy =>
      rw [step, leoLogDestroy]
      cases g.initialized with
      | false =>
          exact ⟨h, Turn.idle⟩
      | true =>
          refine ⟨?_, Turn.idle⟩
          rintro n ⟨⟩
  | restart =>
      refine ⟨?_, Turn.idle⟩
      rintro n ⟨⟩

/-!
## Whole runs
-/

theorem Turn.keeps {moved : Bool} {f f' : Rotated UInt8} {bytes all : List UInt8}
    (h : Turn limit moved f bytes f') (hkeeps : f.Keeps limit all) :
    f'.Keeps limit (all ++ bytes) := by
  cases h with
  | idle =>
      rw [List.append_nil]
      exact hkeeps
  | append bytes _ =>
      exact hkeeps.append bytes
  | rotate hfull =>
      rw [List.append_nil]
      exact hkeeps.rotate hfull
  | rotateAppend bytes hfull =>
      exact (hkeeps.rotate hfull).append bytes

theorem run_keeps (hname : LogName path) (es : List LogEvent) {all : List UInt8}
    (hholds : Holds path limit g) (hkeeps : (pair path g).Keeps limit all)
    (hopens : forall e, e ∈ es -> Opens path limit e) :
    (pair path (g.run es)).Keeps limit (all ++ g.history es) := by
  induction es generalizing g all with
  | nil =>
      rw [history, List.append_nil]
      exact hkeeps
  | cons e es ih =>
      rcases step_turn hname hholds (hopens e List.mem_cons_self) with ⟨hnext, hturn⟩
      rw [history, ← List.append_assoc]
      exact ih hnext (hturn.keeps hkeeps) fun e' he' => hopens e' (List.mem_cons_of_mem e he')

theorem holds_of_closed (h : g.fp = none) : Holds path limit g := by
  intro name hfp
  rw [h] at hfp
  cases hfp

/-- In every run of one log, over any number of processes and with any failures, the
archive and the log file together are the end of all that was ever printed into the log,
and the newest bytes, as many as make a file full, are among them. -/
theorem log_keeps_newest (path : List UInt8) (limit : Nat) (hname : LogName path)
    (g : Logger) (hclosed : g.fp = none) (es : List LogEvent)
    (hopens : forall e, e ∈ es -> Opens path limit e) :
    (pair path (g.run es)).Keeps limit ((pair path g).text ++ g.history es) ∧
      forall n, n ≤ limit ->
        ((pair path g).text ++ g.history es).drop
            (((pair path g).text ++ g.history es).length - n) =
          (pair path (g.run es)).text.drop ((pair path (g.run es)).text.length - n) := by
  have hkeeps := run_keeps hname es (holds_of_closed hclosed)
    (Rotated.keeps_self limit (pair path g)) hopens
  exact ⟨hkeeps, fun n hn => hkeeps.newest hn⟩

def logPath : List UInt8 :=
  utf8 "/l"

theorem logName_logPath : LogName logPath :=
  ⟨by decide, by decide⟩

/-- A machine without a log. -/
def blank : Logger where
  fp := none
  minLevel := LogLevel.debug
  maxBytes := 0
  path := []
  initialized := false
  files := fun _ => none
  stderr := []

def note : LogMessage where
  level := LogLevel.info
  file := none
  line := 7
  text := utf8 "ok"
  ts := utf8 "T"

/-- Two processes; the second one finds the file full. -/
def twoLives : List LogEvent :=
  [LogEvent.init (some logPath) LogLevel.info 20 true, LogEvent.write note ⟨true, true⟩,
    LogEvent.restart, LogEvent.init (some logPath) LogLevel.debug 20 true,
    LogEvent.write note ⟨true, true⟩]

theorem twoLives_opens : forall e, e ∈ twoLives -> Opens logPath 20 e := by
  intro e he
  simp only [twoLives, List.mem_cons, List.not_mem_nil, or_false] at he
  rcases he with rfl | rfl | rfl | rfl | rfl
  · exact ⟨rfl, rfl⟩
  · exact trivial
  · exact trivial
  · exact ⟨rfl, rfl⟩
  · exact trivial

theorem log_keeps_newest_twoLives :
    (pair logPath (blank.run twoLives)).Keeps 20
      ((pair logPath blank).text ++ blank.history twoLives) :=
  (log_keeps_newest logPath 20 logName_logPath blank rfl twoLives twoLives_opens).left

theorem Turn.within {f f' : Rotated UInt8} {bytes : List UInt8} {bound : Nat}
    (h : Turn limit true f bytes f') (hwithin : f.Within bound) (hlimit : 0 < limit)
    (hroom : limit + bytes.length ≤ bound + 1) : f'.Within bound := by
  cases h with
  | idle =>
      exact hwithin
  | append bytes hopen =>
      rcases hopen with hopen | hfailed
      · exact hwithin.append hopen hroom
      · cases hfailed
  | rotate _ =>
      exact hwithin.rotate
  | rotateAppend bytes _ =>
      exact hwithin.rotate.append hlimit hroom

theorem filed_length (g : Logger) {e : LogEvent} {n : Nat}
    (h : forall m x, e = LogEvent.write m x -> m.record.length ≤ n) :
    (g.filed e).length ≤ n := by
  cases e with
  | write m x =>
      rw [filed]
      split
      · exact h m x rfl
      · exact Nat.zero_le _
  | _ =>
      exact Nat.zero_le _

/-- As long as every renaming succeeds, neither file grows beyond the size at which it is
rotated by more than the line that reaches it. -/
theorem log_size_bounded (path : List UInt8) (limit line : Nat) (hname : LogName path)
    (hlimit : 0 < limit) (g : Logger) (hclosed : g.fp = none)
    (hstart : (pair path g).Within (limit + line)) (es : List LogEvent)
    (hopens : forall e, e ∈ es -> Opens path limit e)
    (hmoves : forall e, e ∈ es -> moves e = true)
    (hline : forall m x, LogEvent.write m x ∈ es -> m.record.length ≤ line) :
    (pair path (g.run es)).Within (limit + line) := by
  have hholds : Holds path limit g := holds_of_closed hclosed
  clear hclosed
  induction es generalizing g with
  | nil =>
      exact hstart
  | cons e es ih =>
      rcases step_turn hname hholds (hopens e List.mem_cons_self) with ⟨hnext, hturn⟩
      have hlength : (g.filed e).length ≤ line :=
        filed_length g fun m x he => hline m x (he ▸ List.mem_cons_self)
      rw [hmoves e List.mem_cons_self] at hturn
      have hwithin := hturn.within hstart hlimit (by omega)
      exact ih (g.step e) hwithin (fun e' he' => hopens e' (List.mem_cons_of_mem e he'))
        (fun e' he' => hmoves e' (List.mem_cons_of_mem e he'))
        (fun m x hmem => hline m x (List.mem_cons_of_mem e hmem)) hnext

theorem log_size_bounded_twoLives :
    (pair logPath (blank.run twoLives)).Within (20 + 21) := by
  have hstart : (pair logPath blank).Within (20 + 21) := ⟨Nat.zero_le _, Nat.zero_le _⟩
  have hrecord : note.record.length ≤ 21 := by
    decide
  have hmoves : forall e, e ∈ twoLives -> moves e = true := by
    decide
  refine log_size_bounded logPath 20 21 logName_logPath (by decide) blank rfl hstart twoLives
    twoLives_opens hmoves fun m x hmem => ?_
  simp only [twoLives, List.mem_cons, List.not_mem_nil, or_false, reduceCtorEq, false_or,
    LogEvent.write.injEq] at hmem
  rcases hmem with ⟨rfl, rfl⟩ | ⟨rfl, rfl⟩ <;> exact hrecord

/-!
## No message lost
-/

/-- Messages, one after the other. -/
def writes (calls : List (LogMessage × Reopening)) : List LogEvent :=
  calls.map fun c => LogEvent.write c.1 c.2

/-- What messages print to `stderr` beside their line in the file. -/
def echo (m : LogMessage) : List (List UInt8) :=
  if m.level = LogLevel.fatal then [m.record] else []

/-- `_rotate` leaves the settings of the logger alone, and prints nothing. -/
theorem prepared_settings (g : Logger) (x : Reopening) :
    (g.prepared x).initialized = g.initialized ∧ (g.prepared x).minLevel = g.minLevel ∧
      (g.prepared x).stderr = g.stderr := by
  have hrotate : (g.rotate x).initialized = g.initialized ∧
      (g.rotate x).minLevel = g.minLevel ∧ (g.rotate x).stderr = g.stderr := by
    rw [rotate]
    split
    · exact ⟨rfl, rfl, rfl⟩
    · cases x.opened <;> exact ⟨rfl, rfl, rfl⟩
  rw [prepared]
  split
  · exact hrotate
  · exact ⟨rfl, rfl, rfl⟩

theorem prepared_closed (h : g.fp = none) (x : Reopening) : g.prepared x = g := by
  rw [prepared, h, Option.isSome_none, Bool.false_and, if_neg Bool.false_ne_true]

/-- An accepted message is printed once, into the file or to `stderr`. -/
theorem leoLogWrite_accepted {m : LogMessage} (h : g.accepts m = true) (x : Reopening) :
    (g.leoLogWrite m x).fp = (g.prepared x).fp ∧
      (forall m', (g.leoLogWrite m x).accepts m' = g.accepts m') ∧
      (g.leoLogWrite m x).stderr =
        g.stderr ++ (if (g.prepared x).fp.isSome then [] else [m.record]) ++ echo m := by
  rcases prepared_settings g x with ⟨hinit, hmin, hstderr⟩
  have hprint : ((g.prepared x).print m.record).fp = (g.prepared x).fp ∧
      ((g.prepared x).print m.record).initialized = g.initialized ∧
      ((g.prepared x).print m.record).minLevel = g.minLevel ∧
      ((g.prepared x).print m.record).stderr =
        g.stderr ++ (if (g.prepared x).fp.isSome then [] else [m.record]) := by
    rw [print]
    cases hfp : (g.prepared x).fp with
    | none =>
        exact ⟨rfl, hinit, hmin, by rw [← hstderr]; rfl⟩
    | some name =>
        exact ⟨rfl, hinit, hmin, by rw [← hstderr]; exact (List.append_nil _).symm⟩
  rcases hprint with ⟨hfp, hinit', hmin', hprinted⟩
  rw [leoLogWrite, h, echo]
  simp only [Bool.not_true, Bool.false_eq_true, if_false]
  split
  · refine ⟨hfp, fun m' => ?_, by rw [hprinted]⟩
    rw [accepts, accepts, hinit', hmin']
  · refine ⟨hfp, fun m' => ?_, by rw [hprinted, List.append_nil]⟩
    rw [accepts, accepts, hinit', hmin']

/-- Once no file is open, none is until the next `leo_log_init`: every message is printed
to `stderr`. -/
theorem writes_closed (calls : List (LogMessage × Reopening)) (g : Logger)
    (hclosed : g.fp = none) :
    g.history (writes calls) = [] ∧
      (g.run (writes calls)).stderr =
        g.stderr ++ ((calls.map Prod.fst).filter g.accepts).flatMap
          fun m => m.record :: echo m := by
  induction calls generalizing g with
  | nil =>
      exact ⟨rfl, (List.append_nil _).symm⟩
  | cons c calls ih =>
      have hprepared := prepared_closed hclosed c.2
      have hfiled : g.filed (LogEvent.write c.1 c.2) = [] := by
        rw [filed, hprepared, hclosed, Option.isSome_none, Bool.and_false,
          if_neg Bool.false_ne_true]
      cases haccepts : g.accepts c.1 with
      | false =>
          have hstep : g.step (LogEvent.write c.1 c.2) = g := by
            rw [step, leoLogWrite, haccepts]
            rfl
          rcases ih g hclosed with ⟨hhistory, hstderr⟩
          constructor
          · rw [writes, List.map_cons, history, hfiled, hstep]
            exact hhistory
          · rw [List.map_cons, List.filter_cons_of_neg (by rw [haccepts]; exact
              Bool.false_ne_true), ← hstderr, writes, List.map_cons, run, List.foldl_cons, hstep]
            rfl
      | true =>
          rcases leoLogWrite_accepted haccepts c.2 with ⟨hfp, hkept, hprinted⟩
          rw [hprepared] at hfp hprinted
          rcases ih (g.leoLogWrite c.1 c.2) (hfp.trans hclosed) with ⟨hhistory, hstderr⟩
          have hfilter : (g.leoLogWrite c.1 c.2).accepts = g.accepts := funext hkept
          constructor
          · rw [writes, List.map_cons, history, hfiled]
            exact hhistory
          · rw [List.map_cons, List.filter_cons_of_pos haccepts, List.flatMap_cons]
            rw [hfilter, hprinted, hclosed] at hstderr
            rw [← List.append_assoc]
            have hline : g.stderr ++ c.1.record :: echo c.1 =
                g.stderr ++ [c.1.record] ++ echo c.1 := by
              rw [List.append_assoc, List.singleton_append]
            rw [hline]
            exact hstderr

/-- A file that is opened again after a rotation stays open. -/
theorem prepared_opened (h : g.fp.isSome = true) {x : Reopening} (hopened : x.opened = true) :
    (g.prepared x).fp.isSome = true := by
  rw [prepared]
  split
  · rw [rotate]
    split
    · exact h
    · rfl
  · exact h

/-- Every message that the logger accepts is printed exactly once, in order: up to some
message into the log file, from there on to `stderr`; and a message of level FATAL to
`stderr` once more.  The file is given up only when it could not be opened again. -/
theorem log_prints_each_once (g : Logger) (calls : List (LogMessage × Reopening)) :
    exists filed shown,
      (calls.map Prod.fst).filter g.accepts = filed ++ shown ∧
      g.history (writes calls) = filed.flatMap LogMessage.record ∧
      (g.run (writes calls)).stderr =
        g.stderr ++ filed.flatMap echo ++ shown.flatMap (fun m => m.record :: echo m) ∧
      (g.fp.isSome = true -> (forall c, c ∈ calls -> c.2.opened = true) -> shown = []) := by
  induction calls generalizing g with
  | nil =>
      refine ⟨[], [], rfl, rfl, ?_, fun _ _ => rfl⟩
      rw [List.flatMap_nil, List.flatMap_nil, List.append_nil, List.append_nil]
      rfl
  | cons c calls ih =>
      cases haccepts : g.accepts c.1 with
      | false =>
          have hstep : g.step (LogEvent.write c.1 c.2) = g := by
            rw [step, leoLogWrite, haccepts]
            rfl
          have hfiled : g.filed (LogEvent.write c.1 c.2) = [] := by
            rw [filed, haccepts]
            rfl
          rcases ih g with ⟨filed, shown, hsplit, hhistory, hstderr, hopened⟩
          refine ⟨filed, shown, ?_, ?_, ?_, ?_⟩
          · rw [List.map_cons, List.filter_cons_of_neg (by rw [haccepts]; exact
              Bool.false_ne_true), hsplit]
          · rw [writes, List.map_cons, history, hfiled, hstep]
            exact hhistory
          · rw [← hstderr, writes, List.map_cons, run, List.foldl_cons, hstep]
            rfl
          · intro hfp hall
            exact hopened hfp fun c' hc' => hall c' (List.mem_cons_of_mem c hc')
      | true =>
          rcases leoLogWrite_accepted haccepts c.2 with ⟨hfp, hkept, hprinted⟩
          have hfilter : (g.leoLogWrite c.1 c.2).accepts = g.accepts := funext hkept
          rw [List.map_cons, List.filter_cons_of_pos haccepts]
          cases hnext : (g.prepared c.2).fp with
          | none =>
              -- the file is given up here
              rcases writes_closed calls (g.leoLogWrite c.1 c.2) (hfp.trans hnext) with
                ⟨hhistory, hstderr⟩
              rw [hfilter, hprinted, hnext] at hstderr
              refine ⟨[], c.1 :: (calls.map Prod.fst).filter g.accepts, rfl, ?_, ?_, ?_⟩
              · rw [writes, List.map_cons, history, filed, haccepts, hnext]
                exact hhistory
              · rw [List.flatMap_nil, List.append_nil, List.flatMap_cons, ← List.append_assoc]
                have hline : g.stderr ++ c.1.record :: echo c.1 =
                    g.stderr ++ [c.1.record] ++ echo c.1 := by
                  rw [List.append_assoc, List.singleton_append]
                rw [hline]
                exact hstderr
              · intro hopen hall
                have hstays := prepared_opened hopen (hall c List.mem_cons_self)
                rw [hnext] at hstays
                cases hstays
          | some name =>
              rcases ih (g.leoLogWrite c.1 c.2) with
                ⟨filed, shown, hsplit, hhistory, hstderr, hopened⟩
              rw [hfilter] at hsplit
              rw [hprinted, hnext] at hstderr
              refine ⟨c.1 :: filed, shown, by rw [hsplit]; rfl, ?_, ?_, ?_⟩
              · rw [writes, List.map_cons, history, List.flatMap_cons, ← hhistory, Logger.filed,
                  haccepts, hnext]
                rfl
              · rw [List.flatMap_cons, ← List.append_assoc]
                rw [Option.isSome_some, if_pos rfl, List.append_nil] at hstderr
                exact hstderr
              · intro _ hall
                have hopen : (g.leoLogWrite c.1 c.2).fp.isSome = true := by
                  rw [hfp, hnext]
                  rfl
                exact hopened hopen fun c' hc' => hall c' (List.mem_cons_of_mem c hc')

end Logger

end Agent
end LeoOne
