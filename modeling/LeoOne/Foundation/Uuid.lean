import Mathlib.Logic.Basic
import Mathlib.Data.List.Basic
import Mathlib.Tactic.IntervalCases

/-!
# UUIDs

A `uuid` column compares values, not texts: the server reads a text as 32
hexadecimal digits of either case, with an optional hyphen after every fourth
one and optional braces around it, and prints it in one canonical form.  A
`Uuid` is such a canonical text.
-/

namespace LeoOne
namespace Foundation

namespace UuidText

def isHexDigit (c : Char) : Bool :=
  ('0' ≤ c && c ≤ '9') || ('a' ≤ c && c ≤ 'f') || ('A' ≤ c && c ≤ 'F')

/-- Reads groups of four digits, with an optional hyphen between two groups. -/
def readGroups : Nat -> List Char -> Option (List (List Char) × List Char)
  | 0, cs => some ([], cs)
  | n + 1, a :: b :: c :: d :: cs =>
      if [a, b, c, d].all isHexDigit then
        let rest :=
          match n, cs with
          | _ + 1, '-' :: tail => tail
          | _, _ => cs
        match readGroups n rest with
        | none => none
        | some (groups, tail) => some ([a, b, c, d].map Char.toLower :: groups, tail)
      else none
  | _ + 1, _ => none

/-- The canonical form, with hyphens after 8, 12, 16 and 20 digits. -/
def format : List (List Char) -> Option String
  | [a, b, c, d, e, f, g, h] =>
      some (String.ofList (a ++ b ++ ['-'] ++ c ++ ['-'] ++ d ++ ['-'] ++ e ++
        ['-'] ++ f ++ g ++ h))
  | _ => none

/-- `uuid_in` followed by `uuid_out`. -/
def normalize (s : String) : Option String :=
  match s.toList with
  | '\x7b' :: cs =>
      match readGroups 8 cs with
      | some (groups, ['\x7d']) => format groups
      | _ => none
  | cs =>
      match readGroups 8 cs with
      | some (groups, []) => format groups
      | _ => none

/-!
### The canonical form has 36 characters
-/

/-- A character that is one byte, other than NUL, in UTF-8. -/
def isPlain (c : Char) : Bool :=
  0 < c.toNat && c.toNat < 128

/-- A character of the canonical form. -/
def isUuidChar (c : Char) : Bool :=
  "0123456789abcdef-".toList.contains c

theorem isPlain_of_isUuidChar {c : Char} (h : isUuidChar c = true) : isPlain c = true := by
  have hall : "0123456789abcdef-".toList.all isPlain = true := by decide
  apply List.all_eq_true.mp hall
  rw [isUuidChar, List.contains_eq_mem, decide_eq_true_eq] at h
  exact h

theorem isUuidChar_toLower {c : Char} (h : isHexDigit c = true) :
    isUuidChar c.toLower = true := by
  have hrange : (48 ≤ c.toNat ∧ c.toNat ≤ 57) ∨ (97 ≤ c.toNat ∧ c.toNat ≤ 102) ∨
      (65 ≤ c.toNat ∧ c.toNat ≤ 70) := by
    simp only [isHexDigit, Bool.or_eq_true, Bool.and_eq_true, decide_eq_true_eq] at h
    rcases h with (h | h) | h
    · exact Or.inl h
    · exact Or.inr (Or.inl h)
    · exact Or.inr (Or.inr h)
  rw [← Char.ofNat_toNat c]
  generalize c.toNat = n at hrange
  rcases hrange with ⟨hlo, hhi⟩ | ⟨hlo, hhi⟩ | ⟨hlo, hhi⟩
  · interval_cases n <;> decide
  · interval_cases n <;> decide
  · interval_cases n <;> decide

/-- The groups that are read: four lower-case digits each. -/
theorem readGroups_some {n : Nat} {cs rest : List Char} {groups : List (List Char)}
    (h : readGroups n cs = some (groups, rest)) :
    forall g, g ∈ groups -> g.length = 4 ∧ g.all isUuidChar = true := by
  induction n generalizing cs groups with
  | zero =>
      cases h
      intro g hg
      cases hg
  | succ n ih =>
      match cs with
      | a :: b :: c :: d :: cs =>
          simp only [readGroups] at h
          split at h
          · rename_i hdigits
            split at h
            · cases h
            · rename_i groups' rest' hread
              cases h
              intro g hg
              rcases List.mem_cons.mp hg with rfl | hg
              · refine ⟨rfl, ?_⟩
                rw [List.all_map]
                apply List.all_eq_true.mpr
                intro c hc
                exact isUuidChar_toLower (List.all_eq_true.mp hdigits c hc)
              · exact ih hread g hg
          · cases h
      | [] => cases h
      | [_] => cases h
      | [_, _] => cases h
      | [_, _, _] => cases h

theorem format_some {groups : List (List Char)} {t : String}
    (hgroups : forall g, g ∈ groups -> g.length = 4 ∧ g.all isUuidChar = true)
    (h : format groups = some t) :
    t.toList.length = 36 ∧ t.toList.all isUuidChar = true := by
  unfold format at h
  split at h
  · cases h
    simp only [List.mem_cons, List.not_mem_nil, or_false, forall_eq_or_imp,
      forall_eq] at hgroups
    have hhyphen : isUuidChar '-' = true := by decide
    simp [hgroups, hhyphen]
  · cases h

theorem normalize_chars {s t : String} (h : normalize s = some t) :
    t.toList.length = 36 ∧ t.toList.all isUuidChar = true := by
  unfold normalize at h
  split at h
  · split at h
    · rename_i hread
      exact format_some (readGroups_some hread) h
    · cases h
  · split at h
    · rename_i hread
      exact format_some (readGroups_some hread) h
    · cases h

theorem normalize_some {s t : String} (h : normalize s = some t) :
    t.toList.length = 36 ∧ t.toList.all isPlain = true := by
  rcases normalize_chars h with ⟨hlength, hchars⟩
  refine ⟨hlength, List.all_eq_true.mpr ?_⟩
  intro c hc
  exact isPlain_of_isUuidChar (List.all_eq_true.mp hchars c hc)

end UuidText

/-- A UUID in its canonical form. -/
structure Uuid where
  text : String
  canonical : UuidText.normalize text = some text
  deriving DecidableEq

namespace Uuid

/-- The text denotes this UUID. -/
def named (text : String) (u : Uuid) : Bool :=
  UuidText.normalize text == some u.text

/-- The UUID that a text denotes. -/
def parse (s : String) : Option Uuid :=
  match UuidText.normalize s with
  | none => none
  | some t =>
      if h : UuidText.normalize t = some t then some { text := t, canonical := h }
      else none

@[ext] theorem ext_text {u v : Uuid} (h : u.text = v.text) : u = v := by
  cases u
  cases v
  simp only [Uuid.mk.injEq]
  exact h

/-- A canonical text denotes the UUID it is the text of, and no other. -/
theorem named_text {u v : Uuid} : named u.text v = true <-> u = v := by
  unfold named
  rw [u.canonical, beq_iff_eq, Option.some.injEq]
  constructor
  · intro h
    exact ext_text h
  · intro h
    rw [h]

theorem named_unique {s : String} {u v : Uuid} (hu : named s u = true)
    (hv : named s v = true) : u = v := by
  unfold named at hu hv
  rw [beq_iff_eq] at hu hv
  rw [hu, Option.some.injEq] at hv
  exact ext_text hv

theorem parse_of_named {s : String} {u : Uuid} (h : named s u = true) :
    parse s = some u := by
  unfold named at h
  rw [beq_iff_eq] at h
  unfold parse
  simp [h, u.canonical]

theorem named_of_parse {s : String} {u : Uuid} (h : parse s = some u) :
    named s u = true := by
  unfold parse at h
  split at h
  · cases h
  · rename_i t ht
    split at h
    · cases h
      unfold named
      rw [ht, beq_self_eq_true]
    · cases h

end Uuid

example : UuidText.normalize "\x7bA0EEBC999C0B4EF8BB6D6BB9BD380A11\x7d" =
    some "a0eebc99-9c0b-4ef8-bb6d-6bb9bd380a11" := by
  decide

end Foundation
end LeoOne
