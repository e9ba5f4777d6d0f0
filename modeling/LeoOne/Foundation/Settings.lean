import Mathlib.Data.List.DropRight

/-!
# Files of settings

A program reads its settings line by line into a buffer of bounded size, drops the white
space around what it cuts out of a line, and lets the last line of a key count.
-/

namespace LeoOne
namespace Foundation
namespace Settings

variable {α : Type}

/-!
## Lines
-/

section Lines

variable [DecidableEq α] (nl : α)

/-- One read of at most `room` symbols, up to the end of the line and with it; and what is
left. -/
def getLine : Nat -> List α -> List α × List α
  | 0, text => ([], text)
  | _ + 1, [] => ([], [])
  | room + 1, a :: text =>
      if a = nl then ([a], text)
      else
        match getLine room text with
        | (line, rest) => (a :: line, rest)

def linesWithin (room : Nat) : Nat -> List α -> List (List α)
  | 0, _ => []
  | _ + 1, [] => []
  | fuel + 1, text =>
      match getLine nl room text with
      | (line, rest) => line :: linesWithin room fuel rest

/-- The lines of a text, a long one in several pieces. -/
def lines (room : Nat) (text : List α) : List (List α) :=
  linesWithin nl room text.length text

/-- The text with these lines. -/
def unlines (ls : List (List α)) : List α :=
  ls.flatMap fun line => line ++ [nl]

theorem getLine_rest_length_le (room : Nat) (text : List α) :
    (getLine nl room text).2.length ≤ text.length := by
  induction room generalizing text with
  | zero =>
      exact Nat.le_refl _
  | succ room ih =>
      cases text with
      | nil =>
          exact Nat.le_refl _
      | cons a text =>
          have hrest := ih text
          rw [getLine]
          split
          · exact Nat.le_succ _
          · exact Nat.le_succ_of_le hrest

theorem getLine_rest_length_lt {room : Nat} (hroom : 0 < room) {text : List α}
    (h : text ≠ []) : (getLine nl room text).2.length < text.length := by
  rcases Nat.exists_eq_add_one_of_ne_zero (Nat.ne_of_gt hroom) with ⟨k, rfl⟩
  cases text with
  | nil =>
      exact absurd rfl h
  | cons a text =>
      have hrest := getLine_rest_length_le nl k text
      rw [getLine]
      split
      · exact Nat.lt_succ_self _
      · exact Nat.lt_succ_of_le hrest

theorem linesWithin_cons (room fuel : Nat) (a : α) (text : List α) :
    linesWithin nl room (fuel + 1) (a :: text) =
      (getLine nl room (a :: text)).1 ::
        linesWithin nl room fuel (getLine nl room (a :: text)).2 :=
  rfl

/-- Fuel for every symbol is enough. -/
theorem linesWithin_eq_lines {room : Nat} (hroom : 0 < room) {fuel : Nat} {text : List α}
    (h : text.length ≤ fuel) : linesWithin nl room fuel text = lines nl room text := by
  induction fuel using Nat.strong_induction_on generalizing text with
  | _ fuel ih =>
      cases text with
      | nil =>
          cases fuel <;> rfl
      | cons a text =>
          rcases Nat.exists_eq_add_one_of_ne_zero
            (Nat.ne_of_gt (Nat.lt_of_lt_of_le (Nat.succ_pos _) h)) with ⟨k, rfl⟩
          have hlt := getLine_rest_length_lt nl hroom (List.cons_ne_nil a text)
          have hk : text.length ≤ k := Nat.le_of_succ_le_succ h
          have hrest : (getLine nl room (a :: text)).2.length ≤ text.length :=
            Nat.le_of_lt_succ hlt
          rw [lines, List.length_cons, linesWithin_cons, linesWithin_cons,
            ih k (Nat.lt_succ_self k) (Nat.le_trans hrest hk),
            ih text.length (Nat.lt_succ_of_le hk) hrest]

/-- A text is read one line after the other. -/
theorem lines_of_ne_nil {room : Nat} (hroom : 0 < room) {text : List α} (h : text ≠ []) :
    lines nl room text =
      (getLine nl room text).1 :: lines nl room (getLine nl room text).2 := by
  have hlt := getLine_rest_length_lt nl hroom h
  cases text with
  | nil =>
      exact absurd rfl h
  | cons a text =>
      rw [lines, List.length_cons, linesWithin_cons,
        linesWithin_eq_lines nl hroom (Nat.le_of_lt_succ hlt)]

theorem getLine_append {room : Nat} {line : List α} (hplain : nl ∉ line)
    (hfits : line.length < room) (rest : List α) :
    getLine nl room (line ++ nl :: rest) = (line ++ [nl], rest) := by
  induction line generalizing room with
  | nil =>
      rcases Nat.exists_eq_add_one_of_ne_zero (Nat.ne_of_gt hfits) with ⟨k, rfl⟩
      rw [List.nil_append, getLine, if_pos rfl]
      rfl
  | cons a line ih =>
      rcases Nat.exists_eq_add_one_of_ne_zero
        (Nat.ne_of_gt (Nat.lt_of_le_of_lt (Nat.zero_le _) hfits)) with ⟨k, rfl⟩
      have hne : a ≠ nl := fun h => hplain (h ▸ List.mem_cons_self)
      have hline : nl ∉ line := fun h => hplain (List.mem_cons_of_mem a h)
      rw [List.cons_append, getLine, if_neg hne, ih hline (Nat.lt_of_succ_lt_succ hfits)]
      rfl

/-- Lines that fit into the buffer are read back. -/
theorem lines_unlines {room : Nat} {ls : List (List α)}
    (h : forall line, line ∈ ls -> nl ∉ line ∧ line.length < room) :
    lines nl room (unlines nl ls) = ls.map fun line => line ++ [nl] := by
  induction ls with
  | nil =>
      rfl
  | cons line ls ih =>
      rcases h line List.mem_cons_self with ⟨hplain, hfits⟩
      have hrest := ih fun l hl => h l (List.mem_cons_of_mem line hl)
      have htext : unlines nl (line :: ls) = line ++ nl :: unlines nl ls := by
        rw [unlines, List.flatMap_cons, List.append_assoc]
        rfl
      have hne : line ++ nl :: unlines nl ls ≠ [] := by
        cases line <;> exact List.cons_ne_nil _ _
      rw [htext, lines_of_ne_nil nl (Nat.lt_of_le_of_lt (Nat.zero_le _) hfits) hne,
        getLine_append nl hplain hfits, hrest]
      rfl

end Lines

/-!
## White space
-/

section Trim

variable (space : α -> Bool)

/-- A text less the white space at its ends. -/
def trim (s : List α) : List α :=
  (s.dropWhile space).rdropWhile space

/-- There is no white space at the ends of a text. -/
structure Trimmed (s : List α) : Prop where
  head : forall a, a ∈ s.head? -> space a = false
  last : forall a, a ∈ s.getLast? -> space a = false

theorem all_not_iff (o : Option α) :
    (o.all fun a => !space a) = true <-> forall a, a ∈ o -> space a = false := by
  cases o with
  | none =>
      exact ⟨fun _ _ ha => (by cases ha), fun _ => rfl⟩
  | some b =>
      rw [Option.all_some, Bool.not_eq_true']
      constructor
      · rintro hb _ ⟨⟩
        exact hb
      · intro h
        exact h b rfl

instance (s : List α) : Decidable (Trimmed space s) :=
  decidable_of_iff
    ((s.head?.all fun a => !space a) = true ∧ (s.getLast?.all fun a => !space a) = true)
    ⟨fun h => ⟨(all_not_iff space _).mp h.left, (all_not_iff space _).mp h.right⟩,
      fun h => ⟨(all_not_iff space _).mpr h.head, (all_not_iff space _).mpr h.last⟩⟩

theorem dropWhile_of_head {s : List α} (h : forall a, a ∈ s.head? -> space a = false) :
    s.dropWhile space = s := by
  cases s with
  | nil =>
      rfl
  | cons a s =>
      exact List.dropWhile_cons_of_neg (by rw [h a rfl]; exact Bool.false_ne_true)

theorem Trimmed.trim_eq {s : List α} (h : Trimmed space s) : trim space s = s := by
  rw [trim, dropWhile_of_head space h.head, List.rdropWhile_eq_self_iff]
  intro hne hspace
  have hlast := h.last _ (List.getLast?_eq_getLast_of_ne_nil hne)
  rw [hlast] at hspace
  cases hspace

/-- White space after a text does not count. -/
theorem Trimmed.trim_concat {s : List α} (h : Trimmed space s) {a : α} (ha : space a = true)
    (hne : s ≠ []) : trim space (s ++ [a]) = s := by
  have hhead : forall b, b ∈ (s ++ [a]).head? -> space b = false := by
    intro b hb
    rw [List.head?_append_of_ne_nil s hne] at hb
    exact h.head b hb
  have htrim := h.trim_eq
  rw [trim, dropWhile_of_head space h.head] at htrim
  rw [trim, dropWhile_of_head space hhead, List.rdropWhile_concat_pos space s a ha, htrim]

end Trim

/-!
## The last line of a key
-/

section LastValue

variable {κ ν σ τ : Type} [DecidableEq κ]

/-- The value of a key: that of the last entry with it. -/
def lastValue (key : κ) (entries : List (κ × ν)) : Option ν :=
  (entries.reverse.find? fun e => e.1 = key).map Prod.snd

theorem lastValue_concat (key : κ) (entries : List (κ × ν)) (e : κ × ν) :
    lastValue key (entries ++ [e]) = if e.1 = key then some e.2 else lastValue key entries := by
  rw [lastValue, List.reverse_concat, List.find?_cons]
  by_cases h : e.1 = key
  · rw [decide_eq_true h, if_pos h]
    rfl
  · rw [decide_eq_false h, if_neg h]
    rfl

/-- Of entries with different keys each one counts. -/
theorem lastValue_of_mem {entries : List (κ × ν)} (hnodup : (entries.map Prod.fst).Nodup)
    {key : κ} {val : ν} (h : (key, val) ∈ entries) : lastValue key entries = some val := by
  induction entries using List.reverseRecOn with
  | nil =>
      cases h
  | append_singleton entries e ih =>
      rw [List.map_append, List.nodup_append] at hnodup
      rcases hnodup with ⟨hfront, _, hdisjoint⟩
      rw [lastValue_concat]
      rcases List.mem_append.mp h with hmem | hmem
      · have hne := hdisjoint key (List.mem_map_of_mem hmem) e.1 List.mem_cons_self
        rw [if_neg (Ne.symm hne)]
        exact ih hfront hmem
      · cases List.mem_singleton.mp hmem
        rw [if_pos rfl]

/-- Whatever a program keeps of one key, entry after entry, it has from the last one. -/
theorem foldl_lastValue {apply : σ -> κ × ν -> σ} (get : σ -> τ) {key : κ} {read : ν -> τ}
    (h : forall s e, get (apply s e) = if e.1 = key then read e.2 else get s)
    (entries : List (κ × ν)) (s : σ) :
    get (entries.foldl apply s) = ((lastValue key entries).map read).getD (get s) := by
  induction entries using List.reverseRecOn with
  | nil =>
      rfl
  | append_singleton entries e ih =>
      rw [List.foldl_append, List.foldl_cons, List.foldl_nil, h, ih, lastValue_concat]
      by_cases hkey : e.1 = key
      · rw [if_pos hkey, if_pos hkey]
        rfl
      · rw [if_neg hkey, if_neg hkey]

end LastValue

end Settings
end Foundation
end LeoOne
