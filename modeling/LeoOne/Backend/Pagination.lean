import Mathlib.Data.String.Basic
import LeoOne.Foundation.Keyset
import LeoOne.Foundation.Uuid

/-!
# Lists with a cursor

The `List` methods of the repositories build a query: conditions whose placeholders are
numbered by hand, and the list of the arguments.  They ask for one row more than the page
holds, and answer the id of the last row of the page as the cursor of the next.

A condition is its column (with its comparison and its cast) and the digits of its
placeholder; the columns that are only selected are left out.
-/

namespace LeoOne
namespace Backend
namespace Lists

open Foundation
open Foundation.Keyset

/-!
## Queries
-/

/-- One iteration of `itoa` for each place that the buffer has left. -/
def itoaLoop : Nat -> Nat -> List Char -> List Char
  | 0, _, buf => buf
  | pos + 1, n, buf =>
      if 10 ≤ n then itoaLoop pos (n / 10) (Char.ofNat (n % 10 + 48) :: buf)
      else Char.ofNat (n + 48) :: buf

/-- `itoa`, with its buffer of ten bytes. -/
def itoa (n : Nat) : List Char :=
  itoaLoop 10 n []

/-- The number that the digits of a placeholder are. -/
def number (digits : List Char) : Nat :=
  digits.foldl (fun n c => 10 * n + (c.toNat - 48)) 0

/-- An argument of a query. -/
inductive Arg where
  | text (s : String)
  | time (t : Int)
  | limit (n : Nat)
  deriving DecidableEq

structure Condition (κ : Type) where
  column : κ
  placeholder : List Char
  deriving DecidableEq

/-- The variables `args`, `where` and `argN` of a `List` method. -/
structure Builder (κ : Type) where
  args : List Arg
  conditions : List (Condition κ)
  argN : Nat

variable {κ ρ : Type}

/-- `where += ...`, `args = append(args, ...)`, `argN++`, under an `if`. -/
def Builder.add (b : Builder κ) (column : κ) : Option Arg -> Builder κ
  | none => b
  | some arg =>
      { args := b.args ++ [arg]
        conditions := b.conditions ++ [{ column := column, placeholder := itoa b.argN }]
        argN := b.argN + 1 }

/-- The argument that a placeholder refers to; they are numbered from 1. -/
def argument (args : List Arg) (placeholder : List Char) : Option Arg :=
  match number placeholder with
  | 0 => none
  | n + 1 => args[n]?

/-- A query: its conditions, the placeholder of `LIMIT` and the arguments. -/
structure Query (κ : Type) where
  conditions : List (Condition κ)
  limit : List Char
  args : List Arg

/-- `args = append(args, limit+1)`, and the query. -/
def Builder.query (b : Builder κ) (limit : Nat) : Query κ where
  conditions := b.conditions
  limit := itoa b.argN
  args := b.args ++ [Arg.limit (limit + 1)]

/-- `id > $n`; the text that is no UUID is an error. -/
def afterId (id : ρ -> Uuid) : Arg -> Option (ρ -> Bool)
  | Arg.text s => (Uuid.parse s).map fun cursor r => cursor.text < (id r).text
  | _ => none

/-- A table with what the conditions on its columns mean; `none` is an argument that is no
value of the column's type.  UUIDs are ordered as their texts. -/
structure Listing (κ ρ : Type) where
  id : ρ -> Uuid
  idColumn : κ
  holds : κ -> Arg -> Option (ρ -> Bool)
  holds_id : forall arg, holds idColumn arg = afterId id arg

namespace Listing

/-- The text that the rows are ordered by. -/
def key (L : Listing κ ρ) (r : ρ) : String :=
  (L.id r).text

/-- What the database answers, ordered by `id`; `none` is an error. -/
def select (L : Listing κ ρ) (rows : List ρ) (q : Query κ) : Option (List ρ) :=
  match q.conditions.mapM fun c => (argument q.args c.placeholder).bind (L.holds c.column),
      argument q.args q.limit with
  | some ps, some (Arg.limit n) =>
      some ((orderBy L.key (rows.filter fun r => ps.all fun p => p r)).take n)
  | _, _ => none

end Listing

/-- The limit of a page. -/
def clampLimit (limit : Int) : Nat :=
  if limit ≤ 0 then 50 else if limit > 200 then 200 else limit.toNat

/-- The end of the `List` methods: the condition of the cursor, the query and the cursor of
the next page; `none` is an error. -/
def Listing.list (L : Listing κ ρ) (rows : List ρ) (b : Builder κ) (limit : Int)
    (cursor : String) : Option (List ρ × String) :=
  let limit := clampLimit limit
  let b := b.add L.idColumn (if cursor ≠ "" then some (Arg.text cursor) else none)
  match L.select rows (b.query limit) with
  | none => none
  | some found =>
      if limit < found.length then
        (found[limit - 1]?).map fun last => (found.take limit, (L.id last).text)
      else some (found, "")

/-!
## Placeholders
-/

theorem number_itoaLoop (pos : Nat) {n : Nat} (buf : List Char) (h : n < 10 ^ pos) :
    (itoaLoop pos n buf).foldl (fun n c => 10 * n + (c.toNat - 48)) 0 =
      buf.foldl (fun n c => 10 * n + (c.toNat - 48)) n := by
  have hdigit : forall d, d < 10 -> (Char.ofNat (d + 48)).toNat - 48 = d := by
    decide
  induction pos generalizing n buf with
  | zero =>
      rw [Nat.pow_zero, Nat.lt_one_iff] at h
      subst h
      rfl
  | succ pos ih =>
      rw [itoaLoop]
      split
      · have hlt : n / 10 < 10 ^ pos := by
          rw [Nat.pow_succ] at h
          omega
        rw [ih _ hlt, List.foldl_cons, hdigit _ (Nat.mod_lt n (by decide)), Nat.div_add_mod]
      · rename_i hsmall
        rw [List.foldl_cons, hdigit n (Nat.not_le.mp hsmall), Nat.mul_zero, Nat.zero_add]

/-- The digits of a placeholder are those of its number. -/
theorem number_itoa {n : Nat} (h : n < 10 ^ 10) : number (itoa n) = n :=
  number_itoaLoop 10 [] h

/-- The conditions are those of the given columns, numbered as their arguments. -/
structure Builder.Numbered (b : Builder κ) (pairs : List (κ × Arg)) : Prop where
  args : b.args = pairs.map Prod.snd
  argN : b.argN = pairs.length + 1
  conditions : b.conditions =
    pairs.mapIdx fun i p => { column := p.1, placeholder := itoa (i + 1) }

/-- What an optional condition adds. -/
def optional (column : κ) (arg : Option Arg) : List (κ × Arg) :=
  arg.toList.map fun a => (column, a)

theorem length_optional_le (column : κ) (arg : Option Arg) :
    (optional column arg).length ≤ 1 := by
  cases arg with
  | none =>
      exact Nat.zero_le 1
  | some a =>
      exact Nat.le_refl 1

theorem Builder.Numbered.add {b : Builder κ} {pairs : List (κ × Arg)} (h : b.Numbered pairs)
    (column : κ) (arg : Option Arg) :
    (b.add column arg).Numbered (pairs ++ optional column arg) := by
  cases arg with
  | none =>
      rw [optional, Option.toList_none, List.map_nil, List.append_nil]
      exact h
  | some a =>
      constructor
      · simp only [Builder.add, optional, h.args, Option.toList_some, List.map_singleton,
          List.map_append]
      · simp only [Builder.add, optional, h.argN, Option.toList_some, List.map_singleton,
          List.length_append, List.length_singleton]
      · simp only [Builder.add, optional, h.conditions, h.argN, Option.toList_some,
          List.map_singleton, List.mapIdx_concat]

/-- Every placeholder refers to the argument of its own condition, and that of `LIMIT` to
the limit. -/
theorem Builder.Numbered.resolves {b : Builder κ} {pairs : List (κ × Arg)}
    (h : b.Numbered pairs) (hfew : pairs.length < 1000) (limit : Nat) :
    ((b.query limit).conditions.map fun c =>
        (c.column, argument (b.query limit).args c.placeholder)) =
      pairs.map (fun p => (p.1, some p.2)) ∧
    argument (b.query limit).args (b.query limit).limit = some (Arg.limit (limit + 1)) := by
  constructor
  · rw [Builder.query, h.conditions]
    apply List.ext_getElem
    · rw [List.length_map, List.length_map, List.length_mapIdx]
    · intro i hi _
      rw [List.length_map, List.length_mapIdx] at hi
      have hnumber : number (itoa (i + 1)) = i + 1 := number_itoa (by omega)
      have hown : (pairs.map Prod.snd ++ [Arg.limit (limit + 1)])[i]? = some pairs[i].2 := by
        rw [List.getElem?_append_left (by simpa using hi), List.getElem?_map,
          List.getElem?_eq_getElem hi]
        rfl
      simp only [List.getElem_map, List.getElem_mapIdx, argument, hnumber, h.args, hown]
  · have hnumber : number (itoa b.argN) = pairs.length + 1 := by
      rw [h.argN]
      exact number_itoa (by omega)
    have hlength : b.args.length = pairs.length := by
      rw [h.args, List.length_map]
    simp only [Builder.query, argument, hnumber]
    rw [List.getElem?_append_right (Nat.le_of_eq hlength), hlength, Nat.sub_self]
    rfl

/-!
## Pages
-/

/-- The conditions of a query with the arguments, read; `none` if an argument is no value of
its column's type. -/
def Listing.tests (L : Listing κ ρ) (pairs : List (κ × Arg)) : Option (List (ρ -> Bool)) :=
  pairs.mapM fun p => L.holds p.1 p.2

theorem select_query (L : Listing κ ρ) (rows : List ρ) {b : Builder κ}
    {pairs : List (κ × Arg)} (h : b.Numbered pairs) (hfew : pairs.length < 1000)
    (limit : Nat) :
    L.select rows (b.query limit) = (L.tests pairs).map fun ps =>
      (orderBy L.key (rows.filter fun r => ps.all fun p => p r)).take (limit + 1) := by
  rcases h.resolves hfew limit with ⟨hconditions, hlimit⟩
  have htests : ((b.query limit).conditions.mapM fun c =>
      (argument (b.query limit).args c.placeholder).bind (L.holds c.column)) =
      L.tests pairs := by
    have hmap := congrArg
      (List.mapM fun p : κ × Option Arg => p.2.bind (L.holds p.1)) hconditions
    rw [List.mapM_map, List.mapM_map] at hmap
    exact hmap
  rw [Listing.select, htests, hlimit]
  cases L.tests pairs with
  | none =>
      rfl
  | some ps =>
      rfl

theorem tests_append (L : Listing κ ρ) {pairs pairs' : List (κ × Arg)}
    {ps ps' : List (ρ -> Bool)} (h : L.tests pairs = some ps) (h' : L.tests pairs' = some ps') :
    L.tests (pairs ++ pairs') = some (ps ++ ps') := by
  unfold Listing.tests at *
  rw [List.mapM_append, h, h']
  rfl

section Pages

variable (L : Listing κ ρ) (rows : List ρ) (ps : List (ρ -> Bool))

/-- The rows of the conditions, in the order of their ids. -/
def Listing.matching : List ρ :=
  orderBy L.key (rows.filter fun r => ps.all fun p => p r)

/-- What remains of them from a cursor on. -/
def Listing.remaining (cursor : String) : List ρ :=
  if cursor = "" then L.matching rows ps
  else (L.matching rows ps).filter fun r => cursor < L.key r

/-- The cursors that are answered, and the empty one. -/
def Listing.Known (cursor : String) : Prop :=
  cursor = "" ∨ exists r, r ∈ L.matching rows ps ∧ cursor = L.key r

theorem key_ne_empty (r : ρ) : L.key r ≠ "" := by
  intro hempty
  have hlength := (UuidText.normalize_some (L.id r).canonical).left
  unfold Listing.key at hempty
  rw [hempty] at hlength
  cases hlength

variable {L rows ps}

/-- The query of a page asks for what remains, up to one row more than the page. -/
theorem select_page {b : Builder κ} {pairs : List (κ × Arg)} (hb : b.Numbered pairs)
    (hfew : pairs.length + 1 < 1000) (hkeys : (rows.map L.key).Nodup)
    (hps : L.tests pairs = some ps) {cursor : String} (hcursor : L.Known rows ps cursor)
    (limit : Nat) :
    L.select rows ((b.add L.idColumn
        (if cursor ≠ "" then some (Arg.text cursor) else none)).query limit) =
      some ((L.remaining rows ps cursor).take (limit + 1)) := by
  by_cases hempty : cursor = ""
  · rw [if_neg (not_not.mpr hempty), Builder.add, select_query L rows hb (by omega), hps,
      Listing.remaining, if_pos hempty]
    rfl
  · rcases hcursor with hnone | ⟨last, _, rfl⟩
    · exact absurd hnone hempty
    rw [if_pos hempty]
    have hadd := hb.add L.idColumn (some (Arg.text (L.key last)))
    have hread : Uuid.parse (L.key last) = some (L.id last) :=
      Uuid.parse_of_named (Uuid.named_text.mpr rfl)
    have hafter : L.tests (optional L.idColumn (some (Arg.text (L.key last)))) =
        some [fun r => decide ((L.id last).text < (L.id r).text)] := by
      simp only [Listing.tests, optional, Option.toList_some, List.map_singleton,
        List.mapM_cons, List.mapM_nil, L.holds_id, afterId, hread, Option.map_some]
      rfl
    rw [select_query L rows hadd (by simpa [optional] using hfew), tests_append L hps hafter,
      Listing.remaining, if_neg hempty, Listing.matching, ← orderBy_filter, List.filter_filter]
    · refine congrArg (fun found => some ((orderBy L.key found).take (limit + 1))) ?_
      apply List.filter_congr
      intro r _
      rw [List.all_append, Bool.and_comm]
      simp only [List.all_cons, List.all_nil, Bool.and_true]
      rfl
    · exact hkeys.sublist (List.filter_sublist.map L.key)

theorem mem_remaining {cursor : String} {r : ρ} (h : r ∈ L.remaining rows ps cursor) :
    r ∈ L.matching rows ps := by
  unfold Listing.remaining at h
  split at h
  · exact h
  · exact (List.mem_filter.mp h).left

theorem increasing_matching (hkeys : (rows.map L.key).Nodup) :
    Increasing L.key (L.matching rows ps) :=
  increasing_orderBy (hkeys.sublist (List.filter_sublist.map L.key))

theorem increasing_remaining (hkeys : (rows.map L.key).Nodup) (cursor : String) :
    Increasing L.key (L.remaining rows ps cursor) := by
  unfold Listing.remaining
  split
  · exact increasing_matching hkeys
  · exact (increasing_matching hkeys).filter _

/-- What remains behind a row of what remains. -/
theorem remaining_key {cursor : String} {last : ρ}
    (hlast : last ∈ L.remaining rows ps cursor) :
    L.remaining rows ps (L.key last) =
      (L.remaining rows ps cursor).filter fun r => L.key last < L.key r := by
  rw [Listing.remaining, if_neg (key_ne_empty L last)]
  by_cases hempty : cursor = ""
  · rw [Listing.remaining, if_pos hempty]
  · rw [Listing.remaining, if_neg hempty] at hlast
    rw [Listing.remaining, if_neg hempty, List.filter_filter]
    have hafter := of_decide_eq_true (List.mem_filter.mp hlast).right
    apply List.filter_congr
    intro r _
    rw [eq_comm, Bool.and_eq_left_iff_imp, decide_eq_true_eq, decide_eq_true_eq]
    exact lt_trans hafter

/-- The next cursor, if there is one. -/
def pageOf (list : String -> Option (List ρ × String)) (cursor : String) :
    Option (List ρ × Option String) :=
  (list cursor).map fun e => (e.1, if e.2 = "" then none else some e.2)

theorem clampLimit_pos (limit : Int) : 0 < clampLimit limit := by
  unfold clampLimit
  split
  · decide
  · split
    · decide
    · omega

/-- A page is the beginning of what remains, and its cursor leaves the rest. -/
theorem list_serves {b : Builder κ} {pairs : List (κ × Arg)} (hb : b.Numbered pairs)
    (hfew : pairs.length + 1 < 1000) (hkeys : (rows.map L.key).Nodup)
    (hps : L.tests pairs = some ps) (limit : Int) {cursor : String}
    (hcursor : L.Known rows ps cursor) :
    Serves (pageOf (L.list rows b limit)) (L.remaining rows ps) (clampLimit limit)
      (L.Known rows ps) cursor := by
  have hselect := select_page hb hfew hkeys hps hcursor (clampLimit limit)
  have hpos := clampLimit_pos limit
  by_cases hmore : clampLimit limit < (L.remaining rows ps cursor).length
  · have hindex : clampLimit limit - 1 < (L.remaining rows ps cursor).length := by
      omega
    have hlast := List.getElem_mem hindex
    have hfound : clampLimit limit <
        ((L.remaining rows ps cursor).take (clampLimit limit + 1)).length := by
      rw [List.length_take]
      omega
    have hget : ((L.remaining rows ps cursor).take (clampLimit limit + 1))[clampLimit limit - 1]? =
        some (L.remaining rows ps cursor)[clampLimit limit - 1] := by
      rw [List.getElem?_take_of_lt (by omega), List.getElem?_eq_getElem hindex]
    refine Serves.more (L.key (L.remaining rows ps cursor)[clampLimit limit - 1]) ?_ hmore ?_ ?_
    · simp only [pageOf, Listing.list, hselect, if_pos hfound, hget, Option.map_some,
        List.take_take, Nat.min_eq_left (Nat.le_succ _)]
      exact congrArg some (congrArg (Prod.mk _) (if_neg (key_ne_empty L _)))
    · rw [remaining_key hlast, (increasing_remaining hkeys cursor).filter_after hindex,
        Nat.sub_add_cancel hpos]
    · exact Or.inr ⟨_, mem_remaining hlast, rfl⟩
  · have hfound : (L.remaining rows ps cursor).take (clampLimit limit + 1) =
        L.remaining rows ps cursor :=
      List.take_of_length_le (by omega)
    refine Serves.last ?_ (Nat.not_lt.mp hmore)
    simp only [pageOf, Listing.list, hselect, hfound, if_neg hmore, Option.map_some, if_true]

end Pages

/-- The row meets all conditions. -/
def Listing.Meets (L : Listing κ ρ) (pairs : List (κ × Arg)) (r : ρ) : Prop :=
  forall p, p ∈ pairs -> exists test, L.holds p.1 p.2 = some test ∧ test r = true

/-- Following the cursors from the empty one ends, and the pages are the rows that are
selected, each once, in increasing order of their ids. -/
def Listing.Exact (L : Listing κ ρ) (rows : List ρ) (selects : ρ -> Prop)
    (list : String -> Option (List ρ × String)) : Prop :=
  exists fuel pages, follow (pageOf list) fuel "" = some pages ∧
    Increasing L.key pages.flatten ∧ forall r, r ∈ pages.flatten <-> r ∈ rows ∧ selects r

/-- Every argument is a value of its column's type. -/
def Listing.Readable (L : Listing κ ρ) (pairs : List (κ × Arg)) : Prop :=
  forall p, p ∈ pairs -> (L.holds p.1 p.2).isSome = true

/-- The conditions of a query that can be read, and what they say of a row. -/
theorem tests_of_readable {L : Listing κ ρ} {pairs : List (κ × Arg)}
    (h : L.Readable pairs) :
    exists ps, L.tests pairs = some ps ∧
      forall r, (ps.all fun p => p r) = true <-> L.Meets pairs r := by
  induction pairs with
  | nil =>
      refine ⟨[], rfl, fun r => ⟨fun _ p hp => ?_, fun _ => rfl⟩⟩
      cases hp
  | cons pair pairs ih =>
      rcases ih fun p hp => h p (List.mem_cons_of_mem pair hp) with ⟨ps, htests, hmeets⟩
      rcases Option.isSome_iff_exists.mp (h pair List.mem_cons_self) with ⟨test, htest⟩
      refine ⟨test :: ps, ?_, fun r => ?_⟩
      · unfold Listing.tests at *
        rw [List.mapM_cons, htest, htests]
        rfl
      · rw [List.all_cons, Bool.and_eq_true, hmeets, Listing.Meets, Listing.Meets,
          List.forall_mem_cons]
        refine and_congr_left fun _ => ⟨fun hr => ⟨test, htest, hr⟩, ?_⟩
        rintro ⟨test', hsome, hr⟩
        cases htest.symm.trans hsome
        exact hr

theorem tests_of_not_readable {L : Listing κ ρ} {pairs : List (κ × Arg)}
    (h : ¬ L.Readable pairs) : L.tests pairs = none := by
  induction pairs with
  | nil =>
      exact absurd (fun p hp => absurd hp List.not_mem_nil) h
  | cons pair pairs ih =>
      unfold Listing.tests at *
      rw [List.mapM_cons]
      cases htest : L.holds pair.1 pair.2 with
      | none =>
          rfl
      | some test =>
          have hrest : ¬ L.Readable pairs := by
            intro hrest
            refine h fun p hp => ?_
            rcases List.mem_cons.mp hp with rfl | hp
            · rw [htest]
              rfl
            · exact hrest p hp
          rw [ih hrest]
          rfl

/-- What a `List` method does: its placeholders refer to their own arguments, and the pages
are exact; an argument that cannot be read makes every page an error. -/
structure Listing.Correct (L : Listing κ ρ) (rows : List ρ) (b : Builder κ)
    (pairs : List (κ × Arg)) (selects : ρ -> Prop)
    (list : String -> Option (List ρ × String)) : Prop where
  placeholders : forall cursor n,
    let b' := b.add L.idColumn cursor
    ((b'.query n).conditions.map fun c =>
        (c.column, argument (b'.query n).args c.placeholder)) =
      (pairs ++ optional L.idColumn cursor).map (fun p => (p.1, some p.2)) ∧
    argument (b'.query n).args (b'.query n).limit = some (Arg.limit (n + 1))
  exact : L.Readable pairs -> L.Exact rows selects list
  unreadable : ¬ L.Readable pairs -> forall cursor, list cursor = none

theorem Listing.correct (L : Listing κ ρ) {rows : List ρ} (hids : (rows.map L.id).Nodup)
    {b : Builder κ} {pairs : List (κ × Arg)} (hb : b.Numbered pairs)
    (hfew : pairs.length ≤ 6) {selects : ρ -> Prop}
    (hselects : forall r, L.Meets pairs r <-> selects r) (limit : Int) :
    L.Correct rows b pairs selects (L.list rows b limit) := by
  have hkeys : (rows.map L.key).Nodup := by
    have hmap := hids.map fun u v => Uuid.ext_text
    rw [List.map_map] at hmap
    exact hmap
  have hone : forall arg, (pairs ++ optional L.idColumn arg).length < 1000 := by
    intro arg
    cases arg with
    | none =>
        rw [List.length_append]
        exact Nat.lt_of_le_of_lt hfew (by decide)
    | some a =>
        rw [List.length_append]
        exact Nat.lt_of_le_of_lt (Nat.add_le_add_right hfew 1) (by decide)
  constructor
  · intro cursor n
    exact (hb.add L.idColumn cursor).resolves (hone cursor) n
  · intro hreadable
    rcases tests_of_readable hreadable with ⟨ps, htests, hmeets⟩
    have hserves : forall c, L.Known rows ps c -> _ := fun c hc =>
      list_serves hb (by omega) hkeys htests limit hc
    rcases follow_eq (clampLimit_pos limit) hserves (Or.inl rfl) (Nat.lt_succ_self _) with
      ⟨pages, hpages, hflatten, _⟩
    refine ⟨_, pages, hpages, ?_, ?_⟩
    · rw [hflatten]
      exact increasing_remaining hkeys ""
    · intro r
      rw [hflatten, Listing.remaining, if_pos rfl, Listing.matching, mem_orderBy,
        List.mem_filter, hmeets, hselects]
  · intro hnot cursor
    have hnone : ¬ L.Readable (pairs ++ optional L.idColumn
        (if cursor ≠ "" then some (Arg.text cursor) else none)) :=
      fun h => hnot fun p hp => h p (List.mem_append_left _ hp)
    rw [Listing.list, select_query L rows (hb.add L.idColumn _) (hone _),
      tests_of_not_readable hnone]
    rfl

section Meets

variable {L : Listing κ ρ} {pairs pairs' : List (κ × Arg)} {r : ρ}

theorem meets_append : L.Meets (pairs ++ pairs') r <-> L.Meets pairs r ∧ L.Meets pairs' r := by
  unfold Listing.Meets
  constructor
  · intro h
    exact ⟨fun p hp => h p (List.mem_append_left _ hp),
      fun p hp => h p (List.mem_append_right _ hp)⟩
  · rintro ⟨h, h'⟩ p hp
    rcases List.mem_append.mp hp with hp | hp
    · exact h p hp
    · exact h' p hp

theorem meets_singleton {column : κ} {arg : Arg} :
    L.Meets [(column, arg)] r <-> exists test, L.holds column arg = some test ∧ test r = true := by
  rw [Listing.Meets]
  constructor
  · exact fun h => h _ (List.mem_singleton_self _)
  · intro h p hp
    rw [List.mem_singleton.mp hp]
    exact h

/-- An optional condition says something only if it is there. -/
theorem meets_optional {α : Type} {column : κ} {value : Option α} {arg : α -> Arg} :
    L.Meets (optional column (value.map arg)) r <->
      forall a, value = some a ->
        exists test, L.holds column (arg a) = some test ∧ test r = true := by
  cases value with
  | none =>
      refine ⟨fun _ a hsome => ?_, fun _ p hp => ?_⟩
      · cases hsome
      · cases hp
  | some a =>
      rw [optional, Option.map_some, Option.toList_some, List.map_singleton, meets_singleton]
      constructor
      · rintro h _ ⟨⟩
        exact h
      · exact fun h => h a rfl

end Meets

end Lists
end Backend
end LeoOne
