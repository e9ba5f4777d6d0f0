import Mathlib.Data.List.TakeWhile
import LeoOne.Wire.Json

/-!
# Command lines on Windows

`executor_win.c` puts the arguments of a command into one text, because `CreateProcess`
takes no argument vector, and the runtime of the started program takes the text apart
again.  An argument with a blank or a quote in it is put between quotes.  Backslashes
are doubled where they stand before a quote, and only there.
-/

namespace LeoOne
namespace Agent

/-!
## `_build_cmdline`
-/

/-- The destination of `_build_cmdline` with the position of the next byte, and whether a
byte was written outside of it. -/
structure CmdLine where
  dest : List UInt8
  pos : Nat
  outside : Bool

namespace CmdLine

/-- `dest[(*pos)++] = b`. -/
def put (d : CmdLine) (b : UInt8) : CmdLine where
  dest := d.dest.set d.pos b
  pos := d.pos + 1
  outside := d.outside || decide (d.dest.length ≤ d.pos)

/-- `if (*pos < dest_sz) dest[(*pos)++] = b`. -/
def putInside (d : CmdLine) (b : UInt8) : CmdLine :=
  if d.pos < d.dest.length then d.put b else d

/-- `memcpy(dest + *pos, arg, l); *pos += l`. -/
def copy (d : CmdLine) (arg : List UInt8) : CmdLine :=
  arg.foldl put d

/-- The loops that write `n` backslashes. -/
def putBackslashes : Nat -> CmdLine -> CmdLine
  | 0, d => d
  | n + 1, d => if d.pos < d.dest.length then putBackslashes n (d.put 92) else d

/-- The loop over the bytes of an argument, with the backslashes that are not written
yet, and what follows it. -/
def putQuoted : List UInt8 -> Nat -> CmdLine -> CmdLine
  | [], backslashes, d => (putBackslashes (backslashes * 2) d).putInside 34
  | b :: arg, backslashes, d =>
      if b = 92 then putQuoted arg (backslashes + 1) d
      else if b = 34 then
        putQuoted arg 0 ((putBackslashes (backslashes * 2 + 1) d).putInside 34)
      else putQuoted arg 0 ((putBackslashes backslashes d).putInside b)

end CmdLine

def isBlank (b : UInt8) : Bool :=
  b = 32 || b = 9

/-- `needs_quotes`. -/
def needsQuotes (arg : List UInt8) : Bool :=
  arg.isEmpty || arg.any fun b => isBlank b || b = 34

/-- `_append_quoted_arg`. -/
def appendQuotedArg (d : CmdLine) (arg : List UInt8) : CmdLine :=
  let d := if 0 < d.pos && d.pos < d.dest.length then d.put 32 else d
  if !needsQuotes arg then
    if d.pos + arg.length < d.dest.length then d.copy arg
    else { d with pos := d.dest.length }
  else (d.putInside 34).putQuoted arg 0

/-- What `_build_cmdline` returns and leaves. -/
structure BuiltCmdline where
  ok : Bool
  dest : List UInt8
  outside : Bool

/-- `_build_cmdline`. -/
def buildCmdline (dest : List UInt8) (argv : List (List UInt8)) : BuiltCmdline :=
  let d := argv.foldl appendQuotedArg { dest := dest, pos := 0, outside := false }
  if d.dest.length ≤ d.pos then { ok := false, dest := d.dest, outside := d.outside }
  else
    let ended := d.put 0
    { ok := true, dest := ended.dest, outside := ended.outside }

/-!
## The runtime

The rules of the Microsoft C runtime.  In the first argument a backslash is an ordinary
character.
-/

/-- The first argument, and what follows it. -/
def programName : Bool -> List UInt8 -> List UInt8 × List UInt8
  | _, [] => ([], [])
  | quoted, b :: text =>
      if b = 34 then programName (!quoted) text
      else if !quoted && isBlank b then ([], b :: text)
      else
        let (name, rest) := programName quoted text
        (b :: name, rest)

/-- An argument that is being read. -/
structure ArgState where
  arg : List UInt8
  quoted : Bool
  backslashes : Nat

namespace ArgState

def fresh : ArgState where
  arg := []
  quoted := false
  backslashes := 0

/-- Takes the next byte; `none` if the argument ends before it. -/
def feed (s : ArgState) (b : UInt8) : Option ArgState :=
  if b = 92 then some { s with backslashes := s.backslashes + 1 }
  else if b = 34 then
    if s.backslashes % 2 = 0 then
      some
        { arg := s.arg ++ List.replicate (s.backslashes / 2) 92
          quoted := !s.quoted
          backslashes := 0 }
    else
      some
        { arg := s.arg ++ List.replicate (s.backslashes / 2) 92 ++ [34]
          quoted := s.quoted
          backslashes := 0 }
  else if !s.quoted && isBlank b then none
  else
    some
      { arg := s.arg ++ List.replicate s.backslashes 92 ++ [b]
        quoted := s.quoted
        backslashes := 0 }

def finish (s : ArgState) : List UInt8 :=
  s.arg ++ List.replicate s.backslashes 92

end ArgState

/-- The arguments after the first; `none` stands for the blanks between two of them. -/
def parseArgs : Option ArgState -> List UInt8 -> List (List UInt8)
  | s, [] => (s.map ArgState.finish).toList
  | s, b :: text =>
      match (s.getD ArgState.fresh).feed b with
      | some s' => parseArgs (some s') text
      | none => (s.map ArgState.finish).toList ++ parseArgs none text

/-- The argument vector of a command line. -/
def commandLineToArgv (text : List UInt8) : List (List UInt8) :=
  let (name, rest) := programName false text
  name :: parseArgs none rest

/-!
## The quoted text
-/

/-- What follows the opening quote. -/
def quotedTail : List UInt8 -> Nat -> List UInt8
  | [], backslashes => List.replicate (backslashes * 2) 92 ++ [34]
  | b :: arg, backslashes =>
      if b = 92 then quotedTail arg (backslashes + 1)
      else if b = 34 then
        List.replicate (backslashes * 2 + 1) 92 ++ 34 :: quotedTail arg 0
      else List.replicate backslashes 92 ++ b :: quotedTail arg 0

def quotedArg (arg : List UInt8) : List UInt8 :=
  if needsQuotes arg then 34 :: quotedTail arg 0 else arg

/-- The text of the whole command line. -/
def quotedText : List (List UInt8) -> List UInt8
  | [] => []
  | arg :: argv => quotedArg arg ++ argv.flatMap fun arg => 32 :: quotedArg arg

/-!
## The text in the destination
-/

/-- Of this text the destination holds what fits: the whole of it if there is room for
one more byte, and else the position is at the end. -/
structure Holds (size : Nat) (d : CmdLine) (text : List UInt8) : Prop where
  whole : d.dest.length = size
  inside : d.outside = false
  short : text.length < size -> d.pos = text.length ∧ d.dest.take d.pos = text
  long : size ≤ text.length -> d.pos = size

section Building

variable {size : Nat} {d : CmdLine} {text : List UInt8}

/-- There is room at the position exactly if the text leaves room. -/
theorem Holds.room_iff (h : Holds size d text) :
    d.pos < d.dest.length <-> text.length < size := by
  rw [h.whole]
  constructor
  · intro hroom
    by_contra hlong
    rw [h.long (Nat.not_lt.mp hlong)] at hroom
    exact absurd hroom (Nat.lt_irrefl size)
  · intro hshort
    rw [(h.short hshort).left]
    exact hshort

theorem Holds.put (h : Holds size d text) (hroom : text.length < size) (b : UInt8) :
    Holds size (d.put b) (text ++ [b]) := by
  rcases h.short hroom with ⟨hpos, htext⟩
  have hlength : (text ++ [b]).length = text.length + 1 := List.length_append
  have hpos' : (d.put b).pos = text.length + 1 := congrArg (· + 1) hpos
  refine ⟨?_, ?_, ?_, ?_⟩
  · rw [← h.whole]
    exact List.length_set
  · have hinside : ¬ d.dest.length ≤ d.pos := Nat.not_le.mpr (h.room_iff.mpr hroom)
    simp only [CmdLine.put, h.inside, Bool.false_or, decide_eq_false hinside]
  · intro _
    refine ⟨by rw [hpos', hlength], ?_⟩
    have hin : text.length < d.dest.length := by
      rw [h.whole]
      exact hroom
    show (d.dest.set d.pos b).take (d.pos + 1) = text ++ [b]
    rw [hpos] at htext ⊢
    rw [List.take_add_one, List.take_set_of_le (Nat.le_refl _), htext,
      List.getElem?_set_self hin]
    rfl
  · intro hlong
    rw [hlength] at hlong
    rw [hpos']
    exact Nat.le_antisymm hroom hlong

/-- Where there is no room, the text may as well be longer. -/
theorem Holds.longer (h : Holds size d text) (hlong : size ≤ text.length)
    (more : List UInt8) : Holds size d (text ++ more) := by
  have hle : size ≤ (text ++ more).length := by
    rw [List.length_append]
    exact Nat.le_trans hlong (Nat.le_add_right _ _)
  refine ⟨h.whole, h.inside, ?_, ?_⟩
  · intro hshort
    exact absurd hle (Nat.not_le.mpr hshort)
  · intro _
    exact h.long hlong

theorem Holds.putInside (h : Holds size d text) (b : UInt8) :
    Holds size (d.putInside b) (text ++ [b]) := by
  unfold CmdLine.putInside
  split
  · rename_i hroom
    exact h.put (h.room_iff.mp hroom) b
  · rename_i hfull
    exact h.longer (Nat.not_lt.mp fun hroom => hfull (h.room_iff.mpr hroom)) [b]

theorem Holds.putBackslashes (h : Holds size d text) (n : Nat) :
    Holds size (CmdLine.putBackslashes n d) (text ++ List.replicate n 92) := by
  induction n generalizing d text with
  | zero =>
      rw [List.replicate_zero, List.append_nil]
      exact h
  | succ n ih =>
      unfold CmdLine.putBackslashes
      split
      · rename_i hroom
        have hrest := ih (h.put (h.room_iff.mp hroom) 92)
        rw [List.append_assoc] at hrest
        exact hrest
      · rename_i hfull
        exact h.longer (Nat.not_lt.mp fun hroom => hfull (h.room_iff.mpr hroom)) _

theorem Holds.putQuoted (h : Holds size d text) (arg : List UInt8) (n : Nat) :
    Holds size (d.putQuoted arg n) (text ++ quotedTail arg n) := by
  induction arg generalizing d text n with
  | nil =>
      unfold CmdLine.putQuoted quotedTail
      rw [← List.append_assoc]
      exact (h.putBackslashes (n * 2)).putInside 34
  | cons b arg ih =>
      unfold CmdLine.putQuoted quotedTail
      split
      · exact ih h (n + 1)
      · split
        · have hrest := ih ((h.putBackslashes (n * 2 + 1)).putInside 34) 0
          rw [List.append_assoc, List.append_assoc] at hrest
          exact hrest
        · have hrest := ih ((h.putBackslashes n).putInside b) 0
          rw [List.append_assoc, List.append_assoc] at hrest
          exact hrest

theorem Holds.copy (h : Holds size d text) {arg : List UInt8}
    (hroom : text.length + arg.length < size) : Holds size (d.copy arg) (text ++ arg) := by
  induction arg generalizing d text with
  | nil =>
      rw [List.append_nil]
      exact h
  | cons b arg ih =>
      rw [List.length_cons] at hroom
      have hrest := ih (h.put (by omega) b) (by rw [List.length_append]; simp; omega)
      rw [List.append_assoc] at hrest
      exact hrest

/-- The text before the next argument. -/
def separated (text : List UInt8) : List UInt8 :=
  if text = [] then [] else text ++ [32]

theorem Holds.separate (h : Holds size d text) :
    Holds size (if 0 < d.pos && d.pos < d.dest.length then d.put 32 else d)
      (separated text) := by
  unfold separated
  by_cases hroom : text.length < size
  · have hpos := (h.short hroom).left
    have hin := h.room_iff.mpr hroom
    by_cases hempty : text = []
    · subst hempty
      rw [if_pos rfl, hpos]
      exact h
    · have hpositive : 0 < d.pos := by
        rw [hpos]
        exact List.length_pos_iff.mpr hempty
      rw [if_neg hempty, decide_eq_true hpositive, decide_eq_true hin]
      exact h.put hroom 32
  · have hout : ¬ d.pos < d.dest.length := fun hin => hroom (h.room_iff.mp hin)
    rw [decide_eq_false hout, Bool.and_false, if_neg Bool.false_ne_true]
    split
    · rename_i hempty
      subst hempty
      exact h
    · exact h.longer (Nat.not_lt.mp hroom) [32]

theorem Holds.appendQuotedArg (h : Holds size d text) (arg : List UInt8) :
    Holds size (appendQuotedArg d arg) (separated text ++ quotedArg arg) := by
  have hsep := h.separate
  unfold Agent.appendQuotedArg quotedArg
  generalize (if 0 < d.pos && d.pos < d.dest.length then d.put 32 else d) = d' at hsep
  generalize separated text = text' at hsep
  cases hquotes : needsQuotes arg with
  | true =>
      have hopen := hsep.putInside 34
      have hrest := hopen.putQuoted arg 0
      rw [List.append_assoc] at hrest
      exact hrest
  | false =>
      simp only [Bool.not_false, if_true]
      by_cases hshort : text'.length < size
      · rw [(hsep.short hshort).left, hsep.whole]
        split
        · rename_i hroom
          exact hsep.copy hroom
        · rename_i hfull
          refine ⟨hsep.whole, hsep.inside, ?_, ?_⟩
          · intro hroom
            rw [List.length_append] at hroom
            exact absurd hroom hfull
          · intro _
            exact rfl
      · have hlong := Nat.not_lt.mp hshort
        have hpos := hsep.long hlong
        rw [hpos, hsep.whole, if_neg (by omega)]
        have hsame : { d' with pos := size } = d' := by
          rw [← hpos]
        rw [hsame]
        exact hsep.longer hlong arg

end Building

theorem quotedArg_ne_nil (arg : List UInt8) : quotedArg arg ≠ [] := by
  unfold quotedArg
  split
  · exact List.cons_ne_nil _ _
  · rename_i hplain
    intro hempty
    rw [hempty] at hplain
    exact hplain rfl

/-- The arguments after the first, each with the blank before it. -/
theorem holds_rest {size : Nat} {d : CmdLine} {text : List UInt8} (h : Holds size d text)
    (hne : text ≠ []) (argv : List (List UInt8)) :
    Holds size (argv.foldl appendQuotedArg d)
      (text ++ argv.flatMap fun arg => 32 :: quotedArg arg) := by
  induction argv generalizing d text with
  | nil =>
      rw [List.flatMap_nil, List.append_nil]
      exact h
  | cons arg argv ih =>
      have hstep := h.appendQuotedArg arg
      rw [separated, if_neg hne, List.append_assoc] at hstep
      have hrest := ih hstep (List.append_ne_nil_of_left_ne_nil hne _)
      rw [List.append_assoc] at hrest
      rw [List.flatMap_cons]
      exact hrest

theorem holds_all (dest : List UInt8) (argv : List (List UInt8)) :
    Holds dest.length
      (argv.foldl appendQuotedArg { dest := dest, pos := 0, outside := false })
      (quotedText argv) := by
  have hstart : Holds dest.length { dest := dest, pos := 0, outside := false } [] := by
    refine ⟨rfl, rfl, fun _ => ⟨rfl, rfl⟩, ?_⟩
    intro hle
    exact (Nat.le_zero.mp hle).symm
  cases argv with
  | nil =>
      exact hstart
  | cons arg argv =>
      exact holds_rest (hstart.appendQuotedArg arg) (quotedArg_ne_nil arg) argv

/-!
## The arguments read back
-/

/-- The text is at its end, or the next argument follows. -/
def AtEnd (rest : List UInt8) : Prop :=
  rest = [] ∨ exists more, rest = 32 :: more

theorem parseArgs_backslashes (s : ArgState) (n : Nat) (rest : List UInt8) :
    parseArgs (some s) (List.replicate n 92 ++ rest) =
      parseArgs (some { s with backslashes := s.backslashes + n }) rest := by
  induction n generalizing s with
  | zero =>
      rfl
  | succ n ih =>
      rw [List.replicate_succ, List.cons_append, parseArgs]
      have hnext := ih { s with backslashes := s.backslashes + 1 }
      rw [Nat.add_right_comm, Nat.add_assoc] at hnext
      exact hnext

/-- The closing quote, or a quote in the argument, after backslashes. -/
theorem parseArgs_quote (s : ArgState) (rest : List UInt8) :
    parseArgs (some s) (34 :: rest) =
      parseArgs
        (some
          { arg := s.arg ++ List.replicate (s.backslashes / 2) 92 ++
              (if s.backslashes % 2 = 0 then [] else [34])
            quoted := if s.backslashes % 2 = 0 then !s.quoted else s.quoted
            backslashes := 0 })
        rest := by
  rw [parseArgs, Option.getD_some, ArgState.feed, if_neg (by decide), if_pos rfl]
  by_cases heven : s.backslashes % 2 = 0
  · rw [if_pos heven, if_pos heven, if_pos heven, List.append_nil]
  · rw [if_neg heven, if_neg heven, if_neg heven]

theorem parseArgs_plain {s : ArgState} {b : UInt8} (hslash : b ≠ 92) (hquote : b ≠ 34)
    (hkept : s.quoted = true ∨ isBlank b = false) (rest : List UInt8) :
    parseArgs (some s) (b :: rest) =
      parseArgs
        (some
          { arg := s.arg ++ List.replicate s.backslashes 92 ++ [b]
            quoted := s.quoted
            backslashes := 0 })
        rest := by
  have hends : (!s.quoted && isBlank b) = false := by
    rcases hkept with hquoted | hblank
    · rw [hquoted]
      rfl
    · rw [hblank, Bool.and_false]
  rw [parseArgs, Option.getD_some, ArgState.feed, if_neg hslash, if_neg hquote, hends]
  rfl

/-- Between the quotes the runtime reads the argument back, and the closing quote is the
last one. -/
theorem parseArgs_quotedTail (arg acc : List UInt8) (n : Nat) (rest : List UInt8) :
    parseArgs (some { arg := acc, quoted := true, backslashes := 0 })
        (quotedTail arg n ++ rest) =
      parseArgs
        (some
          { arg := acc ++ List.replicate n 92 ++ arg
            quoted := false
            backslashes := 0 })
        rest := by
  induction arg generalizing acc n with
  | nil =>
      have heven : (0 + n * 2) % 2 = 0 := by omega
      have hhalf : (0 + n * 2) / 2 = n := by omega
      rw [quotedTail, List.append_assoc, parseArgs_backslashes, List.singleton_append,
        parseArgs_quote, heven, hhalf]
      rfl
  | cons b arg ih =>
      unfold quotedTail
      split
      · rename_i hslash
        rw [ih, hslash, List.replicate_succ', List.append_assoc, List.append_assoc,
          List.append_assoc]
        rfl
      · rename_i hslash
        split
        · rename_i hquote
          have hodd : ¬ (0 + (n * 2 + 1)) % 2 = 0 := by omega
          have hhalf : (0 + (n * 2 + 1)) / 2 = n := by omega
          rw [List.append_assoc, parseArgs_backslashes, List.cons_append, parseArgs_quote,
            if_neg hodd, if_neg hodd, hhalf, ih, hquote, List.replicate_zero,
            List.append_nil, List.append_assoc _ [34] arg]
          rfl
        · rename_i hquote
          rw [List.append_assoc, parseArgs_backslashes, List.cons_append,
            parseArgs_plain hslash hquote (Or.inl rfl), ih, List.replicate_zero,
            List.append_nil, Nat.zero_add, List.append_assoc _ [b] arg]
          rfl

/-- An argument that needs no quotes is read as it stands. -/
theorem parseArgs_unquoted {arg : List UInt8}
    (hplain : arg.any (fun b => isBlank b || b = 34) = false) (s : ArgState)
    (hs : s.quoted = false) (rest : List UInt8) :
    exists s', parseArgs (some s) (arg ++ rest) = parseArgs (some s') rest ∧
      s'.quoted = false ∧ s'.finish = s.finish ++ arg := by
  induction arg generalizing s with
  | nil =>
      exact ⟨s, rfl, hs, (List.append_nil _).symm⟩
  | cons b arg ih =>
      rw [List.any_cons, Bool.or_eq_false_iff] at hplain
      rcases hplain with ⟨hb, harg⟩
      rcases Bool.or_eq_false_iff.mp hb with ⟨hblank, hquote⟩
      by_cases hslash : b = 92
      · obtain ⟨s', hparse, hquoted, hfinish⟩ :=
          ih harg { s with backslashes := s.backslashes + 1 } hs
        refine ⟨s', ?_, hquoted, ?_⟩
        · rw [List.cons_append, hslash]
          exact (parseArgs_backslashes s 1 (arg ++ rest)).trans hparse
        · rw [hfinish, ArgState.finish, ArgState.finish, hslash, List.replicate_succ',
            ← List.append_assoc, List.append_assoc _ [92] arg]
          rfl
      · obtain ⟨s', hparse, hquoted, hfinish⟩ :=
          ih harg
            { arg := s.arg ++ List.replicate s.backslashes 92 ++ [b]
              quoted := s.quoted
              backslashes := 0 } hs
        refine ⟨s', ?_, hquoted, ?_⟩
        · rw [List.cons_append,
            parseArgs_plain hslash (of_decide_eq_false hquote) (Or.inr hblank), hparse]
        · rw [hfinish, ArgState.finish, ArgState.finish, List.replicate_zero,
            List.append_nil, List.append_assoc _ [b] arg]
          rfl

/-- An argument ends at the blank after it. -/
theorem parseArgs_atEnd {s : ArgState} (hs : s.quoted = false) {rest : List UInt8}
    (hrest : AtEnd rest) : parseArgs (some s) rest = s.finish :: parseArgs none rest := by
  rcases hrest with rfl | ⟨more, rfl⟩
  · rfl
  · have hends : forall s' : ArgState, s'.quoted = false -> s'.feed 32 = none := by
      intro s' hs'
      rw [ArgState.feed, hs']
      rfl
    rw [parseArgs, parseArgs, Option.getD_some, Option.getD_none, hends s hs,
      hends ArgState.fresh rfl]
    rfl

theorem parseArgs_quotedArg (arg : List UInt8) {rest : List UInt8} (hrest : AtEnd rest) :
    parseArgs none (32 :: (quotedArg arg ++ rest)) = arg :: parseArgs none rest := by
  have hblank : forall text, parseArgs none (32 :: text) = parseArgs none text := by
    intro text
    rfl
  rw [hblank]
  unfold quotedArg
  split
  · rename_i hquotes
    have hopen : parseArgs none (34 :: quotedTail arg 0 ++ rest) =
        parseArgs (some { arg := [], quoted := true, backslashes := 0 })
          (quotedTail arg 0 ++ rest) := rfl
    rw [hopen, parseArgs_quotedTail, parseArgs_atEnd rfl hrest]
    simp only [ArgState.finish, List.replicate_zero, List.nil_append, List.append_nil]
  · rename_i hquotes
    rcases Bool.or_eq_false_iff.mp (Bool.not_eq_true _ ▸ hquotes) with ⟨hne, hplain⟩
    cases arg with
    | nil =>
        cases hne
    | cons b arg =>
        -- the first byte starts the argument
        have hfirst : parseArgs none (b :: arg ++ rest) =
            parseArgs (some ArgState.fresh) (b :: arg ++ rest) := by
          have hb := (Bool.or_eq_false_iff.mp ((List.any_cons (l := arg)) ▸ hplain)).left
          have hblank := (Bool.or_eq_false_iff.mp hb).left
          have hsome : exists s, ArgState.fresh.feed b = some s := by
            unfold ArgState.feed
            rw [hblank, Bool.and_false, if_neg Bool.false_ne_true]
            split_ifs
            all_goals exact ⟨_, rfl⟩
          rcases hsome with ⟨s, hs⟩
          rw [List.cons_append, parseArgs, parseArgs, Option.getD_none, Option.getD_some, hs]
        obtain ⟨s', hparse, hquoted, hfinish⟩ :=
          parseArgs_unquoted hplain ArgState.fresh rfl rest
        rw [hfirst, hparse, parseArgs_atEnd hquoted hrest, hfinish]
        rfl

theorem atEnd_rest (argv : List (List UInt8)) :
    AtEnd (argv.flatMap fun arg => 32 :: quotedArg arg) := by
  cases argv with
  | nil =>
      exact Or.inl rfl
  | cons arg argv =>
      exact Or.inr ⟨_, rfl⟩

theorem parseArgs_rest (argv : List (List UInt8)) :
    parseArgs none (argv.flatMap fun arg => 32 :: quotedArg arg) = argv := by
  induction argv with
  | nil =>
      rfl
  | cons arg argv ih =>
      rw [List.flatMap_cons, List.cons_append, parseArgs_quotedArg arg (atEnd_rest argv), ih]

/-- In the first argument no quote is escaped: the runtime reads to the closing quote. -/
theorem programName_quoted {arg rest : List UInt8} (hquote : 34 ∉ arg) :
    programName true (arg ++ 34 :: rest) =
      (arg ++ (programName false rest).1, (programName false rest).2) := by
  induction arg with
  | nil =>
      rfl
  | cons b arg ih =>
      have hb : b ≠ 34 := fun heq => hquote (heq ▸ List.mem_cons_self)
      have harg := ih fun hmem => hquote (List.mem_cons_of_mem b hmem)
      rw [List.cons_append, programName, if_neg hb, harg]
      rfl

theorem programName_unquoted {arg : List UInt8}
    (hplain : arg.any (fun b => isBlank b || b = 34) = false) {rest : List UInt8}
    (hrest : AtEnd rest) : programName false (arg ++ rest) = (arg, rest) := by
  induction arg with
  | nil =>
      rcases hrest with rfl | ⟨more, rfl⟩
      · rfl
      · rfl
  | cons b arg ih =>
      rw [List.any_cons, Bool.or_eq_false_iff] at hplain
      rcases hplain with ⟨hb, harg⟩
      rcases Bool.or_eq_false_iff.mp hb with ⟨hblank, hquote⟩
      rw [List.cons_append, programName, if_neg (of_decide_eq_false hquote), hblank,
        Bool.and_false, if_neg Bool.false_ne_true, ih harg]

/-- Without quotes, and with no backslash at the end, nothing is escaped. -/
theorem quotedTail_plain {arg : List UInt8} (hquote : 34 ∉ arg)
    (hlast : arg.getLast? ≠ some 92) (n : Nat) (hn : arg = [] -> n = 0) :
    quotedTail arg n = List.replicate n 92 ++ arg ++ [34] := by
  induction arg generalizing n with
  | nil =>
      rw [hn rfl]
      rfl
  | cons b arg ih =>
      have hb : b ≠ 34 := fun heq => hquote (heq ▸ List.mem_cons_self)
      have hquote' : 34 ∉ arg := fun hmem => hquote (List.mem_cons_of_mem b hmem)
      have hlast' : arg.getLast? ≠ some 92 := by
        intro heq
        apply hlast
        rw [List.getLast?_cons, heq]
        rfl
      rw [quotedTail]
      by_cases hslash : b = 92
      · have hne : arg ≠ [] := by
          rintro rfl
          exact hlast (congrArg some hslash)
        rw [if_pos hslash, ih hquote' hlast' (n + 1) (fun h => absurd h hne), hslash,
          List.replicate_succ', List.append_assoc, List.append_assoc, List.append_assoc]
        rfl
      · rw [if_neg hslash, if_neg hb, ih hquote' hlast' 0 (fun _ => rfl), List.replicate_zero,
          List.nil_append, List.append_assoc]
        rfl

theorem programName_quotedArg {arg rest : List UInt8} (hquote : 34 ∉ arg)
    (hlast : arg.getLast? ≠ some 92) (hrest : AtEnd rest) :
    programName false (quotedArg arg ++ rest) = (arg, rest) := by
  unfold quotedArg
  split
  · have hend : programName false ([] ++ rest) = ([], rest) := programName_unquoted rfl hrest
    rw [quotedTail_plain hquote hlast 0 (fun _ => rfl)]
    show programName true (arg ++ [34] ++ rest) = (arg, rest)
    rw [List.append_assoc, List.singleton_append, programName_quoted hquote]
    rw [List.nil_append] at hend
    rw [hend, List.append_nil]
  · rename_i hquotes
    have hplain := (Bool.or_eq_false_iff.mp (Bool.not_eq_true _ ▸ hquotes)).right
    exact programName_unquoted hplain hrest

theorem commandLineToArgv_quotedText {arg : List UInt8} {argv : List (List UInt8)}
    (hquote : 34 ∉ arg) (hlast : arg.getLast? ≠ some 92) :
    commandLineToArgv (quotedText (arg :: argv)) = arg :: argv := by
  unfold commandLineToArgv quotedText
  rw [programName_quotedArg hquote hlast (atEnd_rest argv)]
  exact congrArg (arg :: ·) (parseArgs_rest argv)

/-!
## The round trip
-/

/-- A text of nonzero bytes that is followed by a zero. -/
theorem cString_take {dest text : List UInt8} {pos : Nat} (hpos : pos < dest.length)
    (htake : dest.take pos = text) (htext : 0 ∉ text) :
    (dest.set pos 0).takeWhile (fun b => b ≠ 0) = text := by
  have hlength : (dest.take pos).length = pos := List.length_take_of_le (Nat.le_of_lt hpos)
  have hsplit : dest.set pos 0 = text ++ 0 :: dest.drop (pos + 1) := by
    rw [List.set_eq_take_append_cons_drop, if_pos hpos, htake]
  rw [hsplit, List.takeWhile_append_of_pos]
  · rw [List.takeWhile_cons_of_neg (by simp), List.append_nil]
  · intro b hb
    exact decide_eq_true fun heq => htext (heq ▸ hb)

theorem quotedTail_nonzero {arg : List UInt8} (h : 0 ∉ arg) (n : Nat) :
    0 ∉ quotedTail arg n := by
  have hslashes : forall k, (0 : UInt8) ∉ List.replicate k 92 := by
    intro k hmem
    exact absurd (List.eq_of_mem_replicate hmem) (by decide)
  induction arg generalizing n with
  | nil =>
      unfold quotedTail
      intro hmem
      rcases List.mem_append.mp hmem with hleft | hright
      · exact hslashes _ hleft
      · exact absurd (List.mem_singleton.mp hright) (by decide)
  | cons b arg ih =>
      have hb : (0 : UInt8) ≠ b := fun heq => h (heq ▸ List.mem_cons_self)
      have hrest := ih fun hmem => h (List.mem_cons_of_mem b hmem)
      unfold quotedTail
      split
      · exact hrest (n + 1)
      · split
        · intro hmem
          rcases List.mem_append.mp hmem with hleft | hright
          · exact hslashes _ hleft
          · rcases List.mem_cons.mp hright with hquote | htail
            · exact absurd hquote (by decide)
            · exact hrest 0 htail
        · intro hmem
          rcases List.mem_append.mp hmem with hleft | hright
          · exact hslashes _ hleft
          · rcases List.mem_cons.mp hright with heq | htail
            · exact hb heq
            · exact hrest 0 htail

theorem quotedArg_nonzero {arg : List UInt8} (h : 0 ∉ arg) : 0 ∉ quotedArg arg := by
  unfold quotedArg
  split
  · intro hmem
    rcases List.mem_cons.mp hmem with hquote | htail
    · exact absurd hquote (by decide)
    · exact quotedTail_nonzero h 0 htail
  · exact h

theorem quotedText_nonzero {argv : List (List UInt8)} (h : forall a, a ∈ argv -> 0 ∉ a) :
    0 ∉ quotedText argv := by
  cases argv with
  | nil =>
      exact List.not_mem_nil
  | cons arg argv =>
      intro hmem
      rcases List.mem_append.mp hmem with hleft | hright
      · exact quotedArg_nonzero (h arg List.mem_cons_self) hleft
      · rcases List.mem_flatMap.mp hright with ⟨a, ha, hin⟩
        rcases List.mem_cons.mp hin with hblank | htail
        · exact absurd hblank (by decide)
        · exact quotedArg_nonzero (h a (List.mem_cons_of_mem arg ha)) htail

/-- `_build_cmdline` stays inside its destination, fails exactly if the quoted text and
its terminator do not fit, and else leaves a text that the runtime takes apart into the
arguments. -/
theorem build_cmdline_round_trip (dest : List UInt8) (argv : List (List UInt8))
    (hne : argv ≠ []) (hstrings : forall a, a ∈ argv -> 0 ∉ a)
    (hfirst : forall a, argv.head? = some a -> 34 ∉ a ∧ a.getLast? ≠ some 92) :
    (buildCmdline dest argv).outside = false ∧
    (buildCmdline dest argv).dest.length = dest.length ∧
    ((buildCmdline dest argv).ok = false <->
      dest.length < (quotedText argv).length + 1) ∧
    ((buildCmdline dest argv).ok = true ->
      commandLineToArgv ((buildCmdline dest argv).dest.takeWhile fun b => b ≠ 0) = argv) := by
  have hholds := holds_all dest argv
  unfold buildCmdline
  generalize argv.foldl appendQuotedArg { dest := dest, pos := 0, outside := false } = d
    at hholds
  by_cases hroom : (quotedText argv).length < dest.length
  · have hin := hholds.room_iff.mpr hroom
    have hput := hholds.put hroom 0
    rcases hholds.short hroom with ⟨hpos, htext⟩
    simp only [if_neg (Nat.not_le.mpr hin)]
    refine ⟨hput.inside, hput.whole, ?_, ?_⟩
    · constructor
      · intro hfalse
        cases hfalse
      · intro hlong
        omega
    · intro _
      show commandLineToArgv ((d.dest.set d.pos 0).takeWhile fun b => b ≠ 0) = argv
      rw [cString_take hin htext (quotedText_nonzero hstrings)]
      cases argv with
      | nil =>
          exact absurd rfl hne
      | cons arg argv =>
          rcases hfirst arg rfl with ⟨hquote, hlast⟩
          exact commandLineToArgv_quotedText hquote hlast
  · have hout : d.dest.length ≤ d.pos :=
      Nat.not_lt.mp fun hin => hroom (hholds.room_iff.mp hin)
    simp only [if_pos hout]
    refine ⟨hholds.inside, hholds.whole, ?_, ?_⟩
    · constructor
      · intro _
        omega
      · intro _
        trivial
    · intro htrue
      cases htrue

/-- The program `c` with the argument `a b\`, in a buffer of 16 bytes. -/
theorem build_cmdline_round_trip_sample :
    (buildCmdline (List.replicate 16 1) [[99], [97, 32, 98, 92]]).ok = true ∧
    commandLineToArgv
      ((buildCmdline (List.replicate 16 1) [[99], [97, 32, 98, 92]]).dest.takeWhile
        fun b => b ≠ 0) = [[99], [97, 32, 98, 92]] := by
  have hok : (buildCmdline (List.replicate 16 1) [[99], [97, 32, 98, 92]]).ok = true := by
    decide
  exact ⟨hok, (build_cmdline_round_trip _ _ (by decide) (by decide) (by decide)).right.right.right
    hok⟩

end Agent
end LeoOne
