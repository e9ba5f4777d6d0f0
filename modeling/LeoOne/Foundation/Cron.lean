import Mathlib.Data.Finset.Union
import Mathlib.Order.Interval.Finset.Nat

/-!
# Cron expressions

The times that a standard cron expression of five fields stands for: minute, hour, day of
the month, month and day of the week.  A field is a list of numbers and ranges, each with an
optional step.  The characters that separate the fields are a parameter, since readers differ
in what they take for white space.
-/

namespace LeoOne
namespace Foundation
namespace Cron

/-!
## Words
-/

/-- The maximal stretches of a text without separators. -/
def words (space : Char -> Bool) (text : List Char) : List (List Char) :=
  (text.splitOnP space).filter fun w => w ≠ []

variable {space : Char -> Bool}

/-- A separator between a word and the rest. -/
theorem words_append_cons {w : List Char} (hne : w ≠ [])
    (hplain : forall c, c ∈ w -> space c = false) {s : Char} (hs : space s = true)
    (rest : List Char) : words space (w ++ s :: rest) = w :: words space rest := by
  rw [words, List.splitOnP_append_cons_of_forall_mem hplain s hs, List.filter_cons_of_pos]
  · rfl
  · exact decide_eq_true hne

theorem words_singleton {w : List Char} (hne : w ≠ [])
    (hplain : forall c, c ∈ w -> space c = false) : words space w = [w] := by
  rw [words, List.splitOnP_eq_singleton hplain, List.filter_cons_of_pos]
  · rfl
  · exact decide_eq_true hne

/-- Words that are joined by one separator are the words of the text. -/
theorem words_intercalate {s : Char} (hs : space s = true) {ws : List (List Char)}
    (hne : forall w, w ∈ ws -> w ≠ [])
    (hplain : forall w, w ∈ ws -> forall c, c ∈ w -> space c = false) :
    words space ([s].intercalate ws) = ws := by
  induction ws with
  | nil => rfl
  | cons w ws ih =>
      have hrest := ih (fun v hv => hne v (List.mem_cons_of_mem w hv))
        (fun v hv => hplain v (List.mem_cons_of_mem w hv))
      have hword := hne w List.mem_cons_self
      have hclean := hplain w List.mem_cons_self
      cases ws with
      | nil =>
          have hone : [s].intercalate [w] = w := by simp
          rw [hone]
          exact words_singleton hword hclean
      | cons v vs =>
          have hmore : [s].intercalate (w :: v :: vs) = w ++ s :: [s].intercalate (v :: vs) := by
            simp
          rw [hmore, words_append_cons hword hclean hs, hrest]

/-- Two readers that agree on the characters of a text find the same words. -/
theorem words_congr {other : Char -> Bool} {text : List Char}
    (h : forall c, c ∈ text -> space c = other c) : words space text = words other text := by
  have hsplit : text.splitOnP space = text.splitOnP other := by
    induction text with
    | nil => rfl
    | cons c text ih =>
        have hrest := ih fun d hd => h d (List.mem_cons_of_mem c hd)
        rw [List.splitOnP_cons_eq_if_modifyHead, List.splitOnP_cons_eq_if_modifyHead, hrest,
          h c List.mem_cons_self]
  rw [words, words, hsplit]

/-- Every character of a text is a separator or belongs to a piece. -/
theorem sep_or_mem_piece (p : Char -> Bool) {text : List Char} {c : Char} (hc : c ∈ text) :
    p c = true ∨ exists w, w ∈ text.splitOnP p ∧ c ∈ w := by
  induction text with
  | nil =>
      cases hc
  | cons d text ih =>
      rcases List.exists_cons_of_ne_nil (List.splitOnP_ne_nil p text) with ⟨v, vs, hvs⟩
      rw [List.splitOnP_cons_eq_if_modifyHead, hvs]
      rw [hvs] at ih
      cases hsep : p d with
      | true =>
          rcases List.mem_cons.mp hc with hhead | htail
          · left
            rw [hhead]
            exact hsep
          · rcases ih htail with hlater | ⟨w, hw, hmem⟩
            · exact Or.inl hlater
            · exact Or.inr ⟨w, List.mem_cons_of_mem [] hw, hmem⟩
      | false =>
          rcases List.mem_cons.mp hc with hhead | htail
          · right
            rw [hhead]
            exact ⟨d :: v, List.mem_cons_self, List.mem_cons_self⟩
          · rcases ih htail with hlater | ⟨w, hw, hmem⟩
            · exact Or.inl hlater
            · right
              rcases List.mem_cons.mp hw with hfirst | hrest
              · rw [hfirst] at hmem
                exact ⟨d :: v, List.mem_cons_self, List.mem_cons_of_mem d hmem⟩
              · exact ⟨w, List.mem_cons_of_mem (d :: v) hrest, hmem⟩

theorem space_or_mem_words {text : List Char} {c : Char} (hc : c ∈ text) :
    space c = true ∨ exists w, w ∈ words space text ∧ c ∈ w := by
  rcases sep_or_mem_piece space hc with hsep | ⟨w, hw, hmem⟩
  · exact Or.inl hsep
  · have hword : w ∈ words space text :=
      List.mem_filter.mpr ⟨hw, decide_eq_true (List.ne_nil_of_mem hmem)⟩
    exact Or.inr ⟨w, hword, hmem⟩

/-!
## Fields
-/

/-- The text consists of digits. -/
def IsNumber (text : List Char) : Prop :=
  text ≠ [] ∧ forall c, c ∈ text -> c.isDigit = true

instance (text : List Char) : Decidable (IsNumber text) :=
  decidable_of_iff (text ≠ [] ∧ text.all Char.isDigit = true) (by rw [IsNumber, List.all_eq_true])

/-- The value of a text of digits. -/
def value (text : List Char) : Nat :=
  Nat.ofDigitChars 10 text 0

def number (text : List Char) : Option Nat :=
  if IsNumber text then some (value text) else none

/-- The smallest and the largest value of a field. -/
structure Bounds where
  lo : Nat
  hi : Nat

/-- Every value of a field. -/
def Bounds.all (b : Bounds) : Finset Nat :=
  Finset.Icc b.lo b.hi

/-- The values from `first` to `last` in steps, if they lie within the bounds. -/
def Bounds.select (b : Bounds) (first last step : Nat) : Option (Finset Nat) :=
  if b.lo ≤ first ∧ first ≤ last ∧ last ≤ b.hi ∧ 0 < step then
    some ((Finset.Icc first last).filter fun v => (v - first) % step = 0)
  else none

/-- A star, a number or a range. -/
def range (b : Bounds) (text : List Char) : Option (Nat × Nat) :=
  if text = ['*'] then some (b.lo, b.hi)
  else
    match text.splitOn '-' with
    | [first] => (number first).map fun n => (n, n)
    | [first, last] =>
        match number first, number last with
        | some m, some n => some (m, n)
        | _, _ => none
    | _ => none

/-- A range with an optional step; a number with a step is the start of a range. -/
def item (b : Bounds) (text : List Char) : Option (Finset Nat) :=
  match text.splitOn '/' with
  | [r] =>
      match range b r with
      | some (first, last) => b.select first last 1
      | none => none
  | [r, s] =>
      match range b r, number s with
      | some (first, last), some step =>
          b.select first (if '-' ∈ r then last else b.hi) step
      | _, _ => none
  | _ => none

def items (b : Bounds) : List (List Char) -> Option (Finset Nat)
  | [] => some ∅
  | text :: texts =>
      match item b text, items b texts with
      | some s, some rest => some (s ∪ rest)
      | _, _ => none

/-- A list of items. -/
def field (b : Bounds) (text : List Char) : Option (Finset Nat) :=
  items b (text.splitOn ',')

/-!
## Expressions
-/

def minuteBounds : Bounds := { lo := 0, hi := 59 }

def hourBounds : Bounds := { lo := 0, hi := 23 }

def dayBounds : Bounds := { lo := 1, hi := 31 }

def monthBounds : Bounds := { lo := 1, hi := 12 }

def weekdayBounds : Bounds := { lo := 0, hi := 6 }

/-- The values of the five fields. -/
structure Times where
  minutes : Finset Nat
  hours : Finset Nat
  days : Finset Nat
  months : Finset Nat
  weekdays : Finset Nat
  deriving DecidableEq

/-- The values of five words. -/
def timesOf : List (List Char) -> Option Times
  | [minute, hour, day, month, weekday] =>
      match field minuteBounds minute, field hourBounds hour, field dayBounds day,
          field monthBounds month, field weekdayBounds weekday with
      | some minutes, some hours, some days, some months, some weekdays =>
          some
            { minutes := minutes
              hours := hours
              days := days
              months := months
              weekdays := weekdays }
      | _, _, _, _, _ => none
  | _ => none

/-- The times of an expression, if it is one. -/
def times (space : Char -> Bool) (expr : List Char) : Option Times :=
  timesOf (words space expr)

/-!
## Stars and numbers
-/

theorem field_of_plain (b : Bounds) {text : List Char} (hcomma : ',' ∉ text)
    (hslash : '/' ∉ text) :
    field b text =
      match range b text with
      | some (first, last) => (b.select first last 1).map fun s => s ∪ ∅
      | none => none := by
  have hitem : item b text =
      match range b text with
      | some (first, last) => b.select first last 1
      | none => none := by
    rw [item, List.splitOn_eq_singleton hslash]
  rw [field, List.splitOn_eq_singleton hcomma, items, items, hitem]
  cases range b text with
  | none => rfl
  | some pair =>
      simp only
      cases b.select pair.1 pair.2 1 with
      | none => rfl
      | some s => rfl

theorem IsNumber.not_mem {text : List Char} (h : IsNumber text) {c : Char}
    (hc : c.isDigit = false) : c ∉ text := by
  intro hmem
  rw [h.right c hmem] at hc
  cases hc

/-- What a number stands for depends on its value only, not on its leading zeros. -/
theorem field_number (b : Bounds) {text : List Char} (h : IsNumber text) :
    field b text = (b.select (value text) (value text) 1).map fun s => s ∪ ∅ := by
  have hstar : text ≠ ['*'] := by
    intro heq
    exact h.not_mem (by decide : ('*').isDigit = false) (heq ▸ List.mem_singleton.mpr rfl)
  have hrange : range b text = some (value text, value text) := by
    rw [range, if_neg hstar, List.splitOn_eq_singleton (h.not_mem (by decide))]
    simp only [number, if_pos h, Option.map_some]
  rw [field_of_plain b (h.not_mem (by decide)) (h.not_mem (by decide)), hrange]

theorem field_star {b : Bounds} (h : b.lo ≤ b.hi) : field b ['*'] = some b.all := by
  have hall : (Finset.Icc b.lo b.hi).filter (fun v => (v - b.lo) % 1 = 0) = b.all := by
    apply Finset.filter_true_of_mem
    intro v _
    exact Nat.mod_one _
  have hselect : b.select b.lo b.hi 1 = some b.all := by
    rw [Bounds.select, if_pos ⟨Nat.le_refl _, h, Nat.le_refl _, Nat.one_pos⟩, hall]
  have hrange : range b ['*'] = some (b.lo, b.hi) := if_pos rfl
  rw [field_of_plain b (by decide) (by decide), hrange]
  simp only [hselect, Option.map_some, Finset.union_empty]

/-!
## The characters of an expression
-/

/-- The characters that a field of numbers is made of. -/
def isFieldChar (c : Char) : Bool :=
  c.isDigit || c == '*' || c == '-' || c == '/' || c == ','

theorem isFieldChar_of_isDigit {c : Char} (h : c.isDigit = true) : isFieldChar c = true := by
  simp only [isFieldChar, h, Bool.true_or]

theorem number_chars {text : List Char} {n : Nat} (h : number text = some n) :
    forall c, c ∈ text -> isFieldChar c = true := by
  intro c hc
  unfold number at h
  split at h
  · rename_i hnumber
    exact isFieldChar_of_isDigit (hnumber.right c hc)
  · cases h

/-- A text whose pieces and separators are made of field characters is too. -/
theorem chars_of_pieces {sep : Char} (hsep : isFieldChar sep = true) {text : List Char}
    (h : forall w, w ∈ text.splitOn sep -> forall c, c ∈ w -> isFieldChar c = true) :
    forall c, c ∈ text -> isFieldChar c = true := by
  intro c hc
  rcases sep_or_mem_piece (· == sep) hc with hsame | ⟨w, hw, hmem⟩
  · rw [eq_of_beq hsame]
    exact hsep
  · exact h w hw c hmem

theorem range_chars {b : Bounds} {text : List Char} {r : Nat × Nat}
    (h : range b text = some r) : forall c, c ∈ text -> isFieldChar c = true := by
  unfold range at h
  split at h
  · rename_i hstar
    intro c hc
    rw [hstar] at hc
    rw [List.mem_singleton.mp hc]
    rfl
  · apply @chars_of_pieces '-' rfl
    split at h
    · rename_i first hpieces
      rcases Option.map_eq_some_iff.mp h with ⟨n, hn, _⟩
      rw [hpieces]
      intro w hw
      rw [List.mem_singleton.mp hw]
      exact number_chars hn
    · rename_i first last hpieces
      split at h
      · rename_i m n hm hn
        rw [hpieces]
        intro w hw
        rcases List.mem_cons.mp hw with hfirst | hlast
        · rw [hfirst]
          exact number_chars hm
        · rw [List.mem_singleton.mp hlast]
          exact number_chars hn
      · cases h
    · cases h

theorem item_chars {b : Bounds} {text : List Char} {s : Finset Nat}
    (h : item b text = some s) : forall c, c ∈ text -> isFieldChar c = true := by
  apply @chars_of_pieces '/' rfl
  unfold item at h
  split at h
  · rename_i r hpieces
    split at h
    · rename_i first last hrange
      rw [hpieces]
      intro w hw
      rw [List.mem_singleton.mp hw]
      exact range_chars hrange
    · cases h
  · rename_i r step hpieces
    split at h
    · rename_i first last n hrange hstep
      rw [hpieces]
      intro w hw
      rcases List.mem_cons.mp hw with hfirst | hlast
      · rw [hfirst]
        exact range_chars hrange
      · rw [List.mem_singleton.mp hlast]
        exact number_chars hstep
    · cases h
  · cases h

theorem items_chars {b : Bounds} {texts : List (List Char)} {s : Finset Nat}
    (h : items b texts = some s) :
    forall w, w ∈ texts -> forall c, c ∈ w -> isFieldChar c = true := by
  induction texts generalizing s with
  | nil =>
      intro w hw
      cases hw
  | cons text texts ih =>
      rw [items] at h
      split at h
      · rename_i first rest hitem hitems
        intro w hw
        rcases List.mem_cons.mp hw with hhead | htail
        · rw [hhead]
          exact item_chars hitem
        · exact ih hitems w htail
      · cases h

theorem field_chars {b : Bounds} {text : List Char} {s : Finset Nat}
    (h : field b text = some s) : forall c, c ∈ text -> isFieldChar c = true :=
  chars_of_pieces rfl (items_chars h)

theorem timesOf_chars {ws : List (List Char)} {t : Times} (h : timesOf ws = some t) :
    forall w, w ∈ ws -> forall c, c ∈ w -> isFieldChar c = true := by
  unfold timesOf at h
  split at h
  · rename_i minute hour day month weekday
    split at h
    · rename_i hminute hhour hday hmonth hweekday
      intro w hw
      simp only [List.mem_cons, List.not_mem_nil, or_false] at hw
      rcases hw with heq | heq | heq | heq | heq
      · rw [heq]
        exact field_chars hminute
      · rw [heq]
        exact field_chars hhour
      · rw [heq]
        exact field_chars hday
      · rw [heq]
        exact field_chars hmonth
      · rw [heq]
        exact field_chars hweekday
    · cases h
  · cases h

/-!
## Readers
-/

/-- What a reader may take for white space: the blank, and no character of a field. -/
structure Separates (space : Char -> Bool) : Prop where
  blank : space ' ' = true
  fields : forall c, isFieldChar c = true -> space c = false

/-- A reader that finds times in an expression finds the words that every other reader
finds whose words have field characters only. -/
theorem words_eq_of_times {other : Char -> Bool} (hspace : Separates space)
    (hother : Separates other) {expr : List Char} {t : Times}
    (ht : times space expr = some t)
    (hplain : forall w, w ∈ words other expr -> forall c, c ∈ w -> isFieldChar c = true) :
    words space expr = words other expr := by
  apply words_congr
  intro c hc
  cases hsep : other c with
  | false =>
      rcases @space_or_mem_words other expr c hc with htrue | ⟨w, hw, hmem⟩
      · rw [hsep] at htrue
        cases htrue
      · exact hspace.fields c (hplain w hw c hmem)
  | true =>
      rcases @space_or_mem_words space expr c hc with htrue | ⟨w, hw, hmem⟩
      · exact htrue
      · have hfield := timesOf_chars ht w hw c hmem
        rw [hother.fields c hfield] at hsep
        cases hsep

end Cron
end Foundation
end LeoOne
