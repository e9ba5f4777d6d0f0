import LeoOne.Foundation.Cron

/-!
# Recurrence presets

`cron.ts`: an expression is taken apart into a preset that the form can show, and the
preset is written as an expression again.  Texts are lists of characters.
-/

namespace LeoOne
namespace Frontend

open Foundation

/-- `RecurrencePreset`. -/
inductive RecurrencePreset where
  | hourly
  | daily
  | weekly
  | advanced
  deriving DecidableEq

/-- `RecurrenceState`. -/
structure RecurrenceState where
  preset : RecurrencePreset
  time : List Char
  weekday : Nat
  deriving DecidableEq

/-- The white space of `trim` and of `\\s`. -/
def jsSpace (c : Char) : Bool :=
  let n := c.toNat
  (9 ≤ n && n ≤ 13) || n == 32 || n == 0xa0 || n == 0x1680 || (0x2000 ≤ n && n ≤ 0x200a) ||
    n == 0x2028 || n == 0x2029 || n == 0x202f || n == 0x205f || n == 0x3000 || n == 0xfeff

/-- `expr.trim().split(/\\s+/)`: the words, and one empty text where there is none. -/
def trimSplit (expr : List Char) : List (List Char) :=
  match Cron.words jsSpace expr with
  | [] => [[]]
  | ws => ws

/-- The decimal text of a number. -/
def numberText (n : Nat) : List Char :=
  Nat.toDigits 10 n

/-- `pad2`. -/
def pad2 (n : Nat) : List Char :=
  List.replicate (2 - (numberText n).length) '0' ++ numberText n

/-- `/^[0-6]$/`. -/
def isWeekday (text : List Char) : Bool :=
  match text with
  | [c] => c.isDigit && c.toNat ≤ 54
  | _ => false

def starText : List Char :=
  ['*']

/-- The state that `parseCronToPreset` falls back to. -/
def fallback : RecurrenceState :=
  { preset := RecurrencePreset.advanced
    time := ['0', '2', ':', '0', '0']
    weekday := 1 }

/-- The time that `parseCronToPreset` makes of the texts of hour and minute. -/
def timeText (hour min : List Char) : List Char :=
  pad2 (Cron.value hour) ++ ':' :: pad2 (Cron.value min)

/-- `parseCronToPreset`. -/
def parseCronToPreset (expr : List Char) : RecurrenceState :=
  match trimSplit expr with
  | [min, hour, dom, month, dow] =>
      if dom ≠ starText ∨ month ≠ starText then fallback
      else if min = ['0'] ∧ hour = starText ∧ dow = starText then
        { preset := RecurrencePreset.hourly
          time := ['0', '2', ':', '0', '0']
          weekday := 1 }
      else if Cron.IsNumber min ∧ Cron.IsNumber hour ∧ dow = starText then
        { preset := RecurrencePreset.daily
          time := timeText hour min
          weekday := 1 }
      else if Cron.IsNumber min ∧ Cron.IsNumber hour ∧ isWeekday dow = true then
        { preset := RecurrencePreset.weekly
          time := timeText hour min
          weekday := Cron.value dow }
      else fallback
  | _ => fallback

/-- The unary `+` on a part of a time: a text of digits, an empty text, or `undefined`.
What is not a number, or not finite, is `none`. -/
def plus : Option (List Char) -> Option Nat
  | none => none
  | some [] => some 0
  | some text => Cron.number text

/-- The template of `buildCronFromPreset`. -/
def template (min hour dow : List Char) : List Char :=
  [' '].intercalate [min, hour, starText, starText, dow]

/-- `buildCronFromPreset`. -/
def buildCronFromPreset (state : RecurrenceState) (advancedValue : List Char) : List Char :=
  match state.preset with
  | RecurrencePreset.advanced => advancedValue
  | RecurrencePreset.hourly => template ['0'] starText starText
  | RecurrencePreset.daily =>
      let parts := state.time.splitOn ':'
      let h := (plus parts[0]?).getD 0
      let m := (plus parts[1]?).getD 0
      template (numberText m) (numberText h) starText
  | RecurrencePreset.weekly =>
      let parts := state.time.splitOn ':'
      let h := (plus parts[0]?).getD 0
      let m := (plus parts[1]?).getD 0
      template (numberText m) (numberText h) (numberText state.weekday)

/-!
## Numbers and their texts
-/

theorem isNumber_numberText (n : Nat) : Cron.IsNumber (numberText n) :=
  ⟨Nat.toDigits_ne_nil, fun _ hc => Nat.isDigit_of_mem_toDigits (by decide) (by decide) hc⟩

theorem value_numberText (n : Nat) : Cron.value (numberText n) = n :=
  Nat.ofDigitChars_ten_toDigits

theorem isNumber_pad2 (n : Nat) : Cron.IsNumber (pad2 n) := by
  constructor
  · exact List.append_ne_nil_of_right_ne_nil _ Nat.toDigits_ne_nil
  · intro c hc
    rcases List.mem_append.mp hc with hzero | hdigit
    · rw [(List.mem_replicate.mp hzero).right]
      decide
    · exact (isNumber_numberText n).right c hdigit

theorem value_pad2 (n : Nat) : Cron.value (pad2 n) = n := by
  rw [Cron.value, pad2, Nat.ofDigitChars_append, Nat.ofDigitChars_replicate_zero, Nat.mul_zero]
  exact value_numberText n

theorem plus_pad2 (n : Nat) : plus (some (pad2 n)) = some n := by
  have hnumber := isNumber_pad2 n
  have hread : plus (some (pad2 n)) = Cron.number (pad2 n) := by
    cases htext : pad2 n with
    | nil => exact absurd htext hnumber.left
    | cons c cs => rfl
  rw [hread, Cron.number, if_pos hnumber, value_pad2]

/-- A time is split into its hour and its minute. -/
theorem splitOn_time (h m : Nat) :
    (pad2 h ++ ':' :: pad2 m).splitOn ':' = [pad2 h, pad2 m] := by
  rw [List.splitOn_append_cons_self_of_not_mem ((isNumber_pad2 h).not_mem (by decide)),
    List.splitOn_eq_singleton ((isNumber_pad2 m).not_mem (by decide))]

theorem build_daily {state : RecurrenceState} (hpreset : state.preset = RecurrencePreset.daily)
    {h m : Nat} (htime : state.time = pad2 h ++ ':' :: pad2 m) (advancedValue : List Char) :
    buildCronFromPreset state advancedValue = template (numberText m) (numberText h) starText := by
  simp only [buildCronFromPreset, hpreset, htime, splitOn_time, List.getElem?_cons_zero,
    List.getElem?_cons_succ, plus_pad2, Option.getD_some]

theorem build_weekly {state : RecurrenceState}
    (hpreset : state.preset = RecurrencePreset.weekly) {h m : Nat}
    (htime : state.time = pad2 h ++ ':' :: pad2 m) (advancedValue : List Char) :
    buildCronFromPreset state advancedValue =
      template (numberText m) (numberText h) (numberText state.weekday) := by
  simp only [buildCronFromPreset, hpreset, htime, splitOn_time, List.getElem?_cons_zero,
    List.getElem?_cons_succ, plus_pad2, Option.getD_some]

/-!
## Words of an expression
-/

/-- A star or a number: what the fields of a preset are. -/
def IsSimple (text : List Char) : Prop :=
  text = starText ∨ Cron.IsNumber text

theorem IsSimple.chars {text : List Char} (h : IsSimple text) :
    forall c, c ∈ text -> Cron.isFieldChar c = true := by
  intro c hc
  rcases h with hstar | hnumber
  · rw [hstar] at hc
    rw [List.mem_singleton.mp hc]
    rfl
  · exact Cron.isFieldChar_of_isDigit (hnumber.right c hc)

theorem IsSimple.ne_nil {text : List Char} (h : IsSimple text) : text ≠ [] := by
  rcases h with hstar | hnumber
  · rw [hstar]
    exact List.cons_ne_nil _ _
  · exact hnumber.left

theorem isNumber_of_isWeekday {text : List Char} (h : isWeekday text = true) :
    Cron.IsNumber text := by
  unfold isWeekday at h
  split at h
  · rename_i c
    rw [Bool.and_eq_true] at h
    constructor
    · exact List.cons_ne_nil _ _
    · intro d hd
      rw [List.mem_singleton.mp hd]
      exact h.left
  · cases h

/-- The words of a template are its fields, for every reader. -/
theorem words_template {space : Char -> Bool} (hspace : Cron.Separates space)
    {min hour dow : List Char} (hmin : IsSimple min) (hhour : IsSimple hour)
    (hdow : IsSimple dow) :
    Cron.words space (template min hour dow) = [min, hour, starText, starText, dow] := by
  have hsimple : forall w, w ∈ [min, hour, starText, starText, dow] -> IsSimple w := by
    intro w hw
    simp only [List.mem_cons, List.not_mem_nil, or_false] at hw
    rcases hw with heq | heq | heq | heq | heq
    · exact heq ▸ hmin
    · exact heq ▸ hhour
    · exact Or.inl heq
    · exact Or.inl heq
    · exact heq ▸ hdow
  exact Cron.words_intercalate hspace.blank (fun w hw => (hsimple w hw).ne_nil)
    fun w hw c hc => hspace.fields c ((hsimple w hw).chars c hc)

theorem separates_jsSpace : Cron.Separates jsSpace := by
  constructor
  · decide
  · intro c hc
    have hrange : 42 ≤ c.toNat ∧ c.toNat ≤ 57 := by
      simp only [Cron.isFieldChar, Bool.or_eq_true, beq_iff_eq] at hc
      rcases hc with (((hdigit | hstar) | hdash) | hslash) | hcomma
      · rw [Char.isDigit, Bool.and_eq_true, decide_eq_true_eq, decide_eq_true_eq] at hdigit
        have hlow : 48 ≤ c.toNat := UInt32.le_iff_toNat_le.mp hdigit.left
        have hhigh : c.toNat ≤ 57 := UInt32.le_iff_toNat_le.mp hdigit.right
        omega
      · rw [hstar]
        decide
      · rw [hdash]
        decide
      · rw [hslash]
        decide
      · rw [hcomma]
        decide
    rcases hrange with ⟨hlow, hhigh⟩
    simp only [jsSpace, Bool.or_eq_false_iff, Bool.and_eq_false_iff, decide_eq_false_iff_not,
      beq_eq_false_iff_ne]
    omega

/-!
## What the parser answers
-/

/-- The words that an answer other than the fallback rests on. -/
inductive Recognized (expr : List Char) : Prop where
  | hourly (hwords : Cron.words jsSpace expr = [['0'], starText, starText, starText, starText])
      (hstate : parseCronToPreset expr =
        { preset := RecurrencePreset.hourly
          time := ['0', '2', ':', '0', '0']
          weekday := 1 })
  | daily (min hour : List Char) (hmin : Cron.IsNumber min) (hhour : Cron.IsNumber hour)
      (hwords : Cron.words jsSpace expr = [min, hour, starText, starText, starText])
      (hstate : parseCronToPreset expr =
        { preset := RecurrencePreset.daily
          time := timeText hour min
          weekday := 1 })
  | weekly (min hour dow : List Char) (hmin : Cron.IsNumber min) (hhour : Cron.IsNumber hour)
      (hdow : Cron.IsNumber dow)
      (hwords : Cron.words jsSpace expr = [min, hour, starText, starText, dow])
      (hstate : parseCronToPreset expr =
        { preset := RecurrencePreset.weekly
          time := timeText hour min
          weekday := Cron.value dow })

theorem words_of_trimSplit {expr : List Char} {min hour dom month dow : List Char}
    (h : trimSplit expr = [min, hour, dom, month, dow]) :
    Cron.words jsSpace expr = [min, hour, dom, month, dow] := by
  unfold trimSplit at h
  split at h
  · cases h
  · exact h

theorem parse_recognized {expr : List Char}
    (h : (parseCronToPreset expr).preset ≠ RecurrencePreset.advanced) : Recognized expr := by
  have hparse : parseCronToPreset expr = parseCronToPreset expr := rfl
  conv at hparse => rhs; unfold parseCronToPreset
  split at hparse
  · rename_i min hour dom month dow hparts
    have hwords := words_of_trimSplit hparts
    split at hparse
    · rw [hparse] at h
      exact absurd rfl h
    · rename_i hdays
      rw [not_or, not_not, not_not] at hdays
      rw [hdays.left, hdays.right] at hwords
      split at hparse
      · rename_i hhourly
        rw [hhourly.left, hhourly.right.left, hhourly.right.right] at hwords
        exact Recognized.hourly hwords hparse
      · split at hparse
        · rename_i hdaily
          rw [hdaily.right.right] at hwords
          exact Recognized.daily min hour hdaily.left hdaily.right.left hwords hparse
        · split at hparse
          · rename_i hweekly
            exact Recognized.weekly min hour dow hweekly.left hweekly.right.left
              (isNumber_of_isWeekday hweekly.right.right) hwords hparse
          · rw [hparse] at h
            exact absurd rfl h
  · rw [hparse] at h
    exact absurd rfl h

/-!
## The schedule is kept
-/

theorem field_congr (b : Cron.Bounds) {text : List Char} (h : Cron.IsNumber text) :
    Cron.field b (numberText (Cron.value text)) = Cron.field b text := by
  rw [Cron.field_number b (isNumber_numberText _), Cron.field_number b h, value_numberText]

/-- Only the values of minute and hour matter. -/
theorem timesOf_numbers {min hour : List Char} (hmin : Cron.IsNumber min)
    (hhour : Cron.IsNumber hour) (dow : List Char) :
    Cron.timesOf
        [numberText (Cron.value min), numberText (Cron.value hour), starText, starText, dow] =
      Cron.timesOf [min, hour, starText, starText, dow] := by
  simp only [Cron.timesOf, field_congr _ hmin, field_congr _ hhour]

theorem timesOf_weekday {dow : List Char} (hdow : Cron.IsNumber dow) (min hour : List Char) :
    Cron.timesOf [min, hour, starText, starText, numberText (Cron.value dow)] =
      Cron.timesOf [min, hour, starText, starText, dow] := by
  simp only [Cron.timesOf, field_congr _ hdow]

theorem timesOf_stars {min hour dow : List Char} {t : Cron.Times}
    (h : Cron.timesOf [min, hour, starText, starText, dow] = some t) :
    t.days = Cron.dayBounds.all ∧ t.months = Cron.monthBounds.all := by
  have hdays : Cron.field Cron.dayBounds starText = some Cron.dayBounds.all :=
    Cron.field_star (by decide)
  have hmonths : Cron.field Cron.monthBounds starText = some Cron.monthBounds.all :=
    Cron.field_star (by decide)
  simp only [Cron.timesOf, hdays, hmonths] at h
  split at h
  · rename_i hsomeDays hsomeMonths _
    cases h
    exact ⟨(Option.some.inj hsomeDays).symm, (Option.some.inj hsomeMonths).symm⟩
  · cases h

/-- The words that are taken for a preset are those that the reader finds. -/
theorem timesOf_words {space : Char -> Bool} (hspace : Cron.Separates space)
    {expr : List Char} {t : Cron.Times} (ht : Cron.times space expr = some t)
    {min hour dow : List Char}
    (hwords : Cron.words jsSpace expr = [min, hour, starText, starText, dow])
    (hmin : IsSimple min) (hhour : IsSimple hour) (hdow : IsSimple dow) :
    Cron.timesOf [min, hour, starText, starText, dow] = some t := by
  have hplain : forall w, w ∈ Cron.words jsSpace expr -> forall c, c ∈ w ->
      Cron.isFieldChar c = true := by
    rw [hwords]
    intro w hw
    simp only [List.mem_cons, List.not_mem_nil, or_false] at hw
    rcases hw with heq | heq | heq | heq | heq
    · exact heq ▸ hmin.chars
    · exact heq ▸ hhour.chars
    · exact heq ▸ IsSimple.chars (Or.inl rfl)
    · exact heq ▸ IsSimple.chars (Or.inl rfl)
    · exact heq ▸ hdow.chars
  rw [← hwords, ← Cron.words_eq_of_times hspace separates_jsSpace ht hplain]
  exact ht

/-- Rewriting an expression through its preset keeps its times, which are those of every day
and every month. -/
theorem times_build {space : Char -> Bool} (hspace : Cron.Separates space)
    {expr : List Char} {t : Cron.Times} (ht : Cron.times space expr = some t)
    (hpreset : (parseCronToPreset expr).preset ≠ RecurrencePreset.advanced)
    (advancedValue : List Char) :
    Cron.times space (buildCronFromPreset (parseCronToPreset expr) advancedValue) = some t ∧
      t.days = Cron.dayBounds.all ∧ t.months = Cron.monthBounds.all := by
  have hstar : IsSimple starText := Or.inl rfl
  cases parse_recognized hpreset with
  | hourly hwords hstate =>
      have hzero : IsSimple ['0'] := Or.inr (by decide)
      have htimes := timesOf_words hspace ht hwords hzero hstar hstar
      have hbuild : buildCronFromPreset (parseCronToPreset expr) advancedValue =
          template ['0'] starText starText := by
        rw [hstate]
        rfl
      rw [hbuild, Cron.times, words_template hspace hzero hstar hstar]
      exact ⟨htimes, timesOf_stars htimes⟩
  | daily min hour hmin hhour hwords hstate =>
      have htimes := timesOf_words hspace ht hwords (Or.inr hmin) (Or.inr hhour) hstar
      have hbuild : buildCronFromPreset (parseCronToPreset expr) advancedValue =
          template (numberText (Cron.value min)) (numberText (Cron.value hour)) starText := by
        rw [hstate]
        exact build_daily rfl rfl advancedValue
      rw [hbuild, Cron.times, words_template hspace (Or.inr (isNumber_numberText _))
        (Or.inr (isNumber_numberText _)) hstar, timesOf_numbers hmin hhour]
      exact ⟨htimes, timesOf_stars htimes⟩
  | weekly min hour dow hmin hhour hdow hwords hstate =>
      have htimes := timesOf_words hspace ht hwords (Or.inr hmin) (Or.inr hhour) (Or.inr hdow)
      have hbuild : buildCronFromPreset (parseCronToPreset expr) advancedValue =
          template (numberText (Cron.value min)) (numberText (Cron.value hour))
            (numberText (Cron.value dow)) := by
        rw [hstate]
        exact build_weekly rfl rfl advancedValue
      rw [hbuild, Cron.times, words_template hspace (Or.inr (isNumber_numberText _))
        (Or.inr (isNumber_numberText _)) (Or.inr (isNumber_numberText _)),
        timesOf_numbers hmin hhour, timesOf_weekday hdow]
      exact ⟨htimes, timesOf_stars htimes⟩

/-!
## The state is kept
-/

/-- A time of day as the form has it: two digits for the hour, two for the minute. -/
def ValidTime (time : List Char) : Prop :=
  exists h m, h < 24 ∧ m < 60 ∧ time = pad2 h ++ ':' :: pad2 m

theorem isWeekday_numberText {n : Nat} (h : n ≤ 6) : isWeekday (numberText n) = true := by
  have hall : forall k : Fin 7, isWeekday (numberText k) = true := by decide
  exact hall ⟨n, Nat.lt_succ_of_le h⟩

theorem number_ne_star {text : List Char} (h : Cron.IsNumber text) : text ≠ starText := by
  intro heq
  rw [heq] at h
  exact absurd (h.right '*' (List.mem_singleton.mpr rfl)) (by decide)

theorem trimSplit_template {min hour dow : List Char} (hmin : IsSimple min)
    (hhour : IsSimple hour) (hdow : IsSimple dow) :
    trimSplit (template min hour dow) = [min, hour, starText, starText, dow] := by
  rw [trimSplit, words_template separates_jsSpace hmin hhour hdow]

theorem timeText_numberText (h m : Nat) :
    timeText (numberText h) (numberText m) = pad2 h ++ ':' :: pad2 m := by
  rw [timeText, value_numberText, value_numberText]

theorem parse_daily (h m : Nat) :
    parseCronToPreset (template (numberText m) (numberText h) starText) =
      { preset := RecurrencePreset.daily
        time := pad2 h ++ ':' :: pad2 m
        weekday := 1 } := by
  have hhour := isNumber_numberText h
  have hmin := isNumber_numberText m
  simp only [parseCronToPreset,
    trimSplit_template (Or.inr hmin) (Or.inr hhour) (Or.inl rfl), ne_eq, not_true_eq_false,
    or_self, if_false, number_ne_star hhour, false_and, and_false, hmin, hhour, and_self,
    if_true, timeText_numberText]

theorem parse_weekly (h m : Nat) {weekday : Nat} (hweekday : weekday ≤ 6) :
    parseCronToPreset (template (numberText m) (numberText h) (numberText weekday)) =
      { preset := RecurrencePreset.weekly
        time := pad2 h ++ ':' :: pad2 m
        weekday := weekday } := by
  have hhour := isNumber_numberText h
  have hmin := isNumber_numberText m
  have hdow := isNumber_numberText weekday
  simp only [parseCronToPreset,
    trimSplit_template (Or.inr hmin) (Or.inr hhour) (Or.inr hdow), ne_eq, not_true_eq_false,
    or_self, if_false, number_ne_star hhour, number_ne_star hdow, and_false, hmin,
    hhour, isWeekday_numberText hweekday, and_self, if_true, timeText_numberText,
    value_numberText]

theorem parse_build {state : RecurrenceState} (htime : ValidTime state.time)
    (hpreset : state.preset = RecurrencePreset.daily ∨
      state.preset = RecurrencePreset.weekly ∧ state.weekday ≤ 6)
    (advancedValue : List Char) :
    (parseCronToPreset (buildCronFromPreset state advancedValue)).preset = state.preset ∧
      (parseCronToPreset (buildCronFromPreset state advancedValue)).time = state.time ∧
      (state.preset = RecurrencePreset.weekly ->
        (parseCronToPreset (buildCronFromPreset state advancedValue)).weekday =
          state.weekday) := by
  rcases htime with ⟨h, m, _, _, htext⟩
  rcases hpreset with hdaily | ⟨hweekly, hweekday⟩
  · rw [build_daily hdaily htext, parse_daily, hdaily, htext]
    refine ⟨rfl, rfl, ?_⟩
    intro hother
    cases hother
  · rw [build_weekly hweekly htext, parse_weekly h m hweekday, hweekly, htext]
    exact ⟨rfl, rfl, fun _ => rfl⟩

/-- Editing a schedule through a preset changes neither the times of the expression nor
the state of the form. -/
theorem presets_keep_schedule :
    (forall (space : Char -> Bool) (expr : List Char) (t : Cron.Times)
        (advancedValue : List Char),
      Cron.Separates space -> Cron.times space expr = some t ->
        (parseCronToPreset expr).preset ≠ RecurrencePreset.advanced ->
          Cron.times space (buildCronFromPreset (parseCronToPreset expr) advancedValue) =
              some t ∧
            t.days = Cron.dayBounds.all ∧ t.months = Cron.monthBounds.all) ∧
    forall (state : RecurrenceState) (advancedValue : List Char), ValidTime state.time ->
      state.preset = RecurrencePreset.daily ∨
          state.preset = RecurrencePreset.weekly ∧ state.weekday ≤ 6 ->
        (parseCronToPreset (buildCronFromPreset state advancedValue)).preset = state.preset ∧
          (parseCronToPreset (buildCronFromPreset state advancedValue)).time = state.time ∧
          (state.preset = RecurrencePreset.weekly ->
            (parseCronToPreset (buildCronFromPreset state advancedValue)).weekday =
              state.weekday) := by
  constructor
  · intro space expr t advancedValue hspace ht hpreset
    exact times_build hspace ht hpreset advancedValue
  · intro state advancedValue htime hpreset
    exact parse_build htime hpreset advancedValue

/-- Every Wednesday at five past seven, with a leading zero and two blanks. -/
theorem presets_keep_schedule_wednesday :
    Cron.times jsSpace
        (buildCronFromPreset
          (parseCronToPreset [' ', '5', ' ', ' ', '0', '7', ' ', '*', ' ', '*', ' ', '3']) []) =
      some
        { minutes := {5}
          hours := {7}
          days := Cron.dayBounds.all
          months := Cron.monthBounds.all
          weekdays := {3} } ∧
    (parseCronToPreset (buildCronFromPreset
      { preset := RecurrencePreset.weekly
        time := ['0', '7', ':', '0', '5']
        weekday := 3 } [])).time = ['0', '7', ':', '0', '5'] := by
  have htimes : Cron.times jsSpace
      [' ', '5', ' ', ' ', '0', '7', ' ', '*', ' ', '*', ' ', '3'] =
      some
        { minutes := {5}
          hours := {7}
          days := Cron.dayBounds.all
          months := Cron.monthBounds.all
          weekdays := {3} } := by
    decide +kernel
  have hvalid : ValidTime ['0', '7', ':', '0', '5'] :=
    ⟨7, 5, by decide, by decide, by decide⟩
  have hkept := presets_keep_schedule
  constructor
  · exact (hkept.left jsSpace _ _ [] separates_jsSpace htimes (by decide +kernel)).left
  · exact (hkept.right _ [] hvalid (Or.inr ⟨rfl, by decide⟩)).right.left

end Frontend
end LeoOne
