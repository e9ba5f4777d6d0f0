import LeoOne.Foundation.SlidingWindow

/-!
# The rate limiter

`Limiter` keeps a slice of times for each key.  A purge filters it in place: the times that
are kept overwrite the array that is being read.  A slice is its array and its length; no
two slices of the map share an array.  Every call holds the mutex, so the calls are one
after the other.
-/

namespace LeoOne
namespace Backend

open Foundation
open Foundation.SlidingWindow

/-- A slice of times that starts at the beginning of its array. -/
structure TimeSlice where
  array : List Int
  len : Nat
  bound : len ≤ array.length

namespace TimeSlice

/-- The elements of the slice. -/
def values (s : TimeSlice) : List Int :=
  s.array.take s.len

/-- A nil slice. -/
def empty : TimeSlice where
  array := []
  len := 0
  bound := Nat.le_refl 0

/-- `append`: in place if the array has room, else into a new array, with `grow` more
elements of room. -/
def append (grow : Nat -> Nat) (s : TimeSlice) (t : Int) : TimeSlice :=
  if h : s.len < s.array.length then
    { array := s.array.set s.len t
      len := s.len + 1
      bound := by
        rw [List.length_set]
        exact h }
  else
    { array := s.values ++ t :: List.replicate (grow s.len) 0
      len := s.len + 1
      bound := by
        rw [values, List.length_append, List.length_take_of_le s.bound, List.length_cons]
        omega }

/-- `s[:0]`, with the same array. -/
def reslice (s : TimeSlice) : TimeSlice where
  array := s.array
  len := 0
  bound := Nat.zero_le _

/-- One iteration of `purgeLocked`: an element is read from the array that `kept` is
written to. -/
def keep (grow : Nat -> Nat) (cutoff : Int) (kept : TimeSlice) (i : Nat) : TimeSlice :=
  match kept.array[i]? with
  | some t => if cutoff < t then kept.append grow t else kept
  | none => kept

/-- The loop of `purgeLocked`. -/
def purge (grow : Nat -> Nat) (cutoff : Int) (s : TimeSlice) : TimeSlice :=
  (List.range s.len).foldl (keep grow cutoff) s.reslice

end TimeSlice

/-- The fields of `Limiter`; `grow` is the room that the runtime gives a new array. -/
structure LimiterConfig where
  max : Int
  window : Int
  grow : Nat -> Nat

/-- The map of a `Limiter`. -/
abbrev Limiter := String -> Option TimeSlice

namespace Limiter

/-- `New`. -/
def new : Limiter :=
  fun _ => none

/-- `l.attempts[key]`; nil if the map has no entry. -/
def slice (l : Limiter) (key : String) : TimeSlice :=
  (l key).getD TimeSlice.empty

def set (l : Limiter) (key : String) (s : Option TimeSlice) : Limiter :=
  fun k => if k = key then s else l k

/-- `purgeLocked`, when the clock reads `now`. -/
def purgeLocked (cfg : LimiterConfig) (l : Limiter) (key : String) (now : Int) :
    Limiter × TimeSlice :=
  let kept := (l.slice key).purge cfg.grow (now - cfg.window)
  if kept.len = 0 then (l.set key none, TimeSlice.empty) else (l.set key (some kept), kept)

/-- `Allow`, when the clock reads `now` and then `later`. -/
def allow (cfg : LimiterConfig) (l : Limiter) (key : String) (now later : Int) :
    Limiter × Bool :=
  let (l, kept) := l.purgeLocked cfg key now
  if cfg.max ≤ kept.len then (l, false)
  else (l.set key (some (kept.append cfg.grow later)), true)

/-- `Blocked`. -/
def blocked (cfg : LimiterConfig) (l : Limiter) (key : String) (now : Int) : Limiter × Bool :=
  let (l, kept) := l.purgeLocked cfg key now
  (l, decide (cfg.max ≤ kept.len))

/-- `RecordFailure`. -/
def recordFailure (cfg : LimiterConfig) (l : Limiter) (key : String) (now later : Int) :
    Limiter :=
  let (l, kept) := l.purgeLocked cfg key now
  l.set key (some (kept.append cfg.grow later))

/-- `Reset`. -/
def reset (l : Limiter) (key : String) : Limiter :=
  l.set key none

/-- A call of one of the four methods, with its readings of the clock, and its answer. -/
def call (cfg : LimiterConfig) (l : Limiter) (c : Call String) : Limiter × Option Bool :=
  match c.op with
  | Op.allow =>
      let (l, answer) := l.allow cfg c.key c.asked c.noted
      (l, some answer)
  | Op.blocked =>
      let (l, answer) := l.blocked cfg c.key c.asked
      (l, some answer)
  | Op.record => (l.recordFailure cfg c.key c.asked c.noted, none)
  | Op.reset => (l.reset c.key, none)

/-- The calls with their answers. -/
def run (cfg : LimiterConfig) : Limiter -> List (Call String) -> List (Answered String)
  | _, [] => []
  | l, c :: calls => (c, (l.call cfg c).2) :: run cfg (l.call cfg c).1 calls

end Limiter

/-!
## Purging in place
-/

namespace TimeSlice

@[simp] theorem values_empty : empty.values = [] := rfl

theorem length_values (s : TimeSlice) : s.values.length = s.len :=
  List.length_take_of_le s.bound

@[simp] theorem values_append (grow : Nat -> Nat) (s : TimeSlice) (t : Int) :
    (s.append grow t).values = s.values ++ [t] := by
  unfold append
  split
  · rename_i hroom
    unfold values
    rw [List.take_succ_eq_append_getElem (by simpa using hroom),
      List.take_set_of_le (Nat.le_refl _), List.getElem_set_self]
  · have hlength : s.values.length + 1 = s.len + 1 := congrArg Nat.succ s.length_values
    change (s.values ++ t :: List.replicate (grow s.len) 0).take (s.len + 1) = s.values ++ [t]
    rw [← hlength, List.take_length_add_append]
    rfl

/-- After some iterations: the elements that were read and are kept are the slice, and the
rest of the array is as before. -/
structure Purged (cutoff : Int) (s : TimeSlice) (i : Nat) (kept : TimeSlice) : Prop where
  behind : kept.len ≤ i
  size : kept.array.length = s.array.length
  ahead : kept.array.drop i = s.array.drop i
  values : kept.values = (s.array.take i).filter fun t => cutoff < t

theorem purged_step (grow : Nat -> Nat) {cutoff : Int} {s kept : TimeSlice} {i : Nat}
    (hi : i < s.array.length) (h : Purged cutoff s i kept) :
    Purged cutoff s (i + 1) (kept.keep grow cutoff i) := by
  -- the writes have not reached the element that is read
  have hread : kept.array[i]? = some s.array[i] := by
    have hhead := congrArg List.head? h.ahead
    rw [List.head?_drop, List.head?_drop, List.getElem?_eq_getElem hi] at hhead
    exact hhead
  have hbehind : kept.len < i + 1 := Nat.lt_succ_of_le h.behind
  have hahead : kept.array.drop (i + 1) = s.array.drop (i + 1) := by
    rw [← List.drop_drop, ← List.drop_drop, h.ahead]
  unfold keep
  simp only [hread]
  by_cases hlate : cutoff < s.array[i]
  · rw [if_pos hlate]
    have hroom : kept.len < kept.array.length := by
      rw [h.size]
      exact Nat.lt_of_le_of_lt h.behind hi
    have happend : (kept.append grow s.array[i]).array = kept.array.set kept.len s.array[i] ∧
        (kept.append grow s.array[i]).len = kept.len + 1 := by
      unfold append
      rw [dif_pos hroom]
      exact ⟨rfl, rfl⟩
    constructor
    · rw [happend.right]
      exact hbehind
    · rw [happend.left, List.length_set, h.size]
    · rw [happend.left, List.drop_set_of_lt hbehind, hahead]
    · rw [values_append, h.values, List.take_succ_eq_append_getElem hi, List.filter_append,
        List.filter_cons_of_pos (by simpa using hlate), List.filter_nil]
  · rw [if_neg hlate]
    constructor
    · exact Nat.le_of_lt hbehind
    · exact h.size
    · exact hahead
    · rw [h.values, List.take_succ_eq_append_getElem hi, List.filter_append,
        List.filter_cons_of_neg (by simpa using hlate), List.filter_nil, List.append_nil]

/-- The loop keeps the elements after the cutoff, in their order. -/
theorem values_purge (grow : Nat -> Nat) (cutoff : Int) (s : TimeSlice) :
    (s.purge grow cutoff).values = s.values.filter fun t => cutoff < t := by
  have hloop : forall n, n ≤ s.len ->
      Purged cutoff s n ((List.range n).foldl (keep grow cutoff) s.reslice) := by
    intro n
    induction n with
    | zero =>
        intro _
        exact ⟨Nat.le_refl 0, rfl, rfl, rfl⟩
    | succ n ih =>
        intro hn
        rw [List.range_succ, List.foldl_append]
        exact purged_step grow (Nat.lt_of_lt_of_le hn s.bound) (ih (Nat.le_of_lt hn))
  exact (hloop s.len (Nat.le_refl _)).values

end TimeSlice

/-!
## The limiter is a sliding window
-/

namespace Limiter

variable {cfg : LimiterConfig} {l : Limiter} {log : String -> List Int}

theorem slice_set (l : Limiter) (key k : String) (s : Option TimeSlice) :
    (l.set key s).slice k = if k = key then s.getD TimeSlice.empty else l.slice k := by
  unfold slice set
  split
  · rfl
  · rfl

/-- A purge leaves the recent times of its key, and the slices of the others. -/
theorem purgeLocked_spec (cfg : LimiterConfig) (l : Limiter) (key : String) (now : Int) :
    (l.purgeLocked cfg key now).2.values = recent cfg.window now (l.slice key).values ∧
      forall k, (l.purgeLocked cfg key now).1.slice k =
        if k = key then (l.purgeLocked cfg key now).2 else l.slice k := by
  have hvalues := TimeSlice.values_purge cfg.grow (now - cfg.window) (l.slice key)
  simp only [purgeLocked]
  split
  · rename_i hnone
    constructor
    · unfold recent
      rw [← hvalues, TimeSlice.values_empty, eq_comm, ← List.length_eq_zero_iff,
        TimeSlice.length_values]
      exact hnone
    · intro k
      rw [slice_set]
      rfl
  · constructor
    · exact hvalues
    · intro k
      rw [slice_set]
      rfl

/-- The slices hold the attempts of the log, up to those that no question can count any
more. -/
def Tracks (cfg : LimiterConfig) (l : Limiter) (log : String -> List Int) (now : Int) : Prop :=
  forall key later, now ≤ later ->
    recent cfg.window later (l.slice key).values = recent cfg.window later (log key)

theorem tracks_new (cfg : LimiterConfig) (now : Int) : Tracks cfg new (fun _ => []) now :=
  fun _ _ _ => rfl

/-- After a purge the slice of its key holds the recent attempts. -/
theorem Tracks.purged {now asked : Int} (h : Tracks cfg l log now) (hasked : now ≤ asked)
    (key : String) :
    (l.purgeLocked cfg key asked).2.values = recent cfg.window asked (log key) ∧
      Tracks cfg (l.purgeLocked cfg key asked).1 log asked := by
  rcases purgeLocked_spec cfg l key asked with ⟨hvalues, hslice⟩
  constructor
  · rw [hvalues, h key asked hasked]
  · intro k later hlater
    rw [hslice]
    split
    · rename_i hkey
      rw [hvalues, recent_recent hlater, hkey]
      exact h key later (Int.le_trans hasked hlater)
    · exact h k later (Int.le_trans hasked hlater)

/-- A new attempt of a key whose slice has just been purged. -/
theorem Tracks.appended {now asked later : Int} (h : Tracks cfg l log now)
    (hasked : now ≤ asked) (hnoted : asked ≤ later) {key : String} {log' : String -> List Int}
    (hkey : log' key = log key ++ [later]) (hother : forall k, k ≠ key -> log' k = log k) :
    Tracks cfg ((l.purgeLocked cfg key asked).1.set key
      (some ((l.purgeLocked cfg key asked).2.append cfg.grow later))) log' later := by
  rcases h.purged hasked key with ⟨hvalues, htracks⟩
  intro k t ht
  rw [slice_set]
  split
  · rename_i hsame
    subst hsame
    rw [Option.getD_some, TimeSlice.values_append, hvalues, hkey]
    unfold recent
    rw [List.filter_append, List.filter_append]
    exact congrArg (fun ts => ts ++ _) (recent_recent (Int.le_trans hnoted ht) _)
  · rename_i hne
    rw [hother k hne]
    exact htracks k t (Int.le_trans hnoted ht)

theorem Tracks.later {now t : Int} (h : Tracks cfg l log now) (ht : now ≤ t) :
    Tracks cfg l log t :=
  fun key later hlater => h key later (Int.le_trans ht hlater)

/-- Every call answers as the log does, and keeps track of it. -/
theorem call_spec {now : Int} (h : Tracks cfg l log now) {c : Call String}
    (hasked : now ≤ c.asked) (hnoted : c.asked ≤ c.noted) :
    (l.call cfg c).2 = answer cfg.max cfg.window (log c.key) c ∧
      Tracks cfg (l.call cfg c).1 (after log (c, (l.call cfg c).2)) c.noted := by
  rcases h.purged hasked c.key with ⟨hvalues, htracks⟩
  have hlength := congrArg List.length hvalues
  rw [TimeSlice.length_values] at hlength
  cases hop : c.op with
  | allow =>
      simp only [call, hop, allow, answer, ← hlength]
      by_cases hfull : cfg.max ≤ (l.purgeLocked cfg c.key c.asked).2.len
      · rw [if_pos hfull, decide_eq_false (Int.not_lt.mpr hfull)]
        refine ⟨rfl, ?_⟩
        have hsame : after log (c, some false) = log := by
          funext key
          simp only [after, noted, hop]
          split
          · rfl
          · rfl
        rw [hsame]
        exact htracks.later hnoted
      · rw [if_neg hfull, decide_eq_true (Int.not_le.mp hfull)]
        refine ⟨rfl, h.appended hasked hnoted ?_ ?_⟩
        · simp only [after, noted, hop, if_true]
        · intro k hk
          simp only [after, noted, if_neg (Ne.symm hk)]
  | blocked =>
      simp only [call, hop, blocked, answer, ← hlength]
      refine ⟨trivial, ?_⟩
      rw [after_blocked log hop]
      exact htracks.later hnoted
  | record =>
      simp only [call, hop, recordFailure, answer]
      refine ⟨trivial, h.appended hasked hnoted ?_ ?_⟩
      · simp only [after, noted, hop, if_true]
      · intro k hk
        simp only [after, noted, if_neg (Ne.symm hk)]
  | reset =>
      simp only [call, hop, reset, answer]
      refine ⟨trivial, ?_⟩
      intro k t ht
      simp only [after, noted, hop]
      rw [slice_set]
      by_cases hk : k = c.key
      · rw [if_pos hk, if_pos hk.symm]
        rfl
      · rw [if_neg hk, if_neg (Ne.symm hk)]
        exact h k t (Int.le_trans (Int.le_trans hasked hnoted) ht)

/-- The limiter answers every sequence of calls as the log does. -/
theorem run_eq_trace {now : Int} (h : Tracks cfg l log now) {calls : List (Call String)}
    (hclock : (now :: calls.flatMap fun c => [c.asked, c.noted]).Pairwise (fun a b => a ≤ b)) :
    run cfg l calls = trace cfg.max cfg.window log calls := by
  induction calls generalizing l log now with
  | nil =>
      rfl
  | cons c calls ih =>
      simp only [List.flatMap_cons, List.cons_append, List.nil_append] at hclock
      rw [List.pairwise_cons] at hclock
      rcases hclock with ⟨hnow, hrest⟩
      rw [List.pairwise_cons] at hrest
      rcases hrest with ⟨hasked, hrest⟩
      rcases call_spec h (hnow c.asked List.mem_cons_self) (hasked c.noted List.mem_cons_self) with
        ⟨hanswer, htracks⟩
      rw [run, trace, ih htracks hrest, ← hanswer]

theorem timely_from {calls : List (Call String)} (h : Timely calls) :
    exists now, (now :: calls.flatMap fun c => [c.asked, c.noted]).Pairwise
      (fun a b => a ≤ b) := by
  cases calls with
  | nil =>
      exact ⟨0, List.pairwise_singleton _ _⟩
  | cons c calls =>
      refine ⟨c.asked, List.pairwise_cons.mpr ⟨?_, h⟩⟩
      intro t ht
      rw [List.flatMap_cons, List.cons_append] at ht
      rcases List.mem_cons.mp ht with rfl | ht
      · exact Int.le_refl _
      · exact (List.pairwise_cons.mp h).left t ht

/-- The limiter refines the sliding window. -/
theorem run_new {calls : List (Call String)} (h : Timely calls) :
    run cfg new calls = trace cfg.max cfg.window (fun _ => []) calls := by
  rcases timely_from h with ⟨now, hclock⟩
  exact run_eq_trace (tracks_new cfg now) hclock

end Limiter

/-- The limiter, for every sequence of calls.  `Allow` is true exactly if fewer than `max`
attempts of the key since its last `Reset` lie in the window, and `Blocked` exactly if at
least `max` do; so between two resets no window holds more than `max` calls that are
allowed.  A call of `Blocked` changes no other answer, and the answers for a key are those
that its own calls would get. -/
theorem limiter_is_sliding_window (cfg : LimiterConfig) {calls : List (Call String)}
    (hclock : Timely calls) :
    (forall pre c a suf, Limiter.run cfg Limiter.new calls = pre ++ (c, a) :: suf ->
      (c.op = Op.allow -> (a = some true <->
        ((recent cfg.window c.asked (attempts c.key pre)).length : Int) < cfg.max)) ∧
      (c.op = Op.blocked -> (a = some true <->
        cfg.max ≤ ((recent cfg.window c.asked (attempts c.key pre)).length : Int)))) ∧
    (forall pre mid suf key now,
      Limiter.run cfg Limiter.new calls = pre ++ (mid ++ suf) ->
      (forall e, e ∈ mid -> ¬ (e.1.op = Op.reset ∧ e.1.key = key)) ->
      mid.countP (allowedIn key cfg.window now) ≤ cfg.max.toNat) ∧
    (forall pre c suf, calls = pre ++ c :: suf -> c.op = Op.blocked ->
      exists a rest,
        Limiter.run cfg Limiter.new calls = Limiter.run cfg Limiter.new pre ++ (c, a) :: rest ∧
        Limiter.run cfg Limiter.new (pre ++ suf) = Limiter.run cfg Limiter.new pre ++ rest) ∧
    (forall key,
      (Limiter.run cfg Limiter.new calls).filter (fun e => e.1.key = key) =
        Limiter.run cfg Limiter.new (calls.filter fun c => c.key = key)) := by
  refine ⟨?_, ?_, ?_, ?_⟩
  · intro pre c a suf hrun
    rw [Limiter.run_new hclock] at hrun
    have hanswer := answer_of_trace hrun
    constructor
    · intro hop
      rw [hanswer]
      simp only [answer, hop, Option.some.injEq, decide_eq_true_eq]
      rfl
    · intro hop
      rw [hanswer]
      simp only [answer, hop, Option.some.injEq, decide_eq_true_eq]
      rfl
  · intro pre mid suf key now hrun hquiet
    rw [Limiter.run_new hclock] at hrun
    refine countP_allowed_le hrun ?_ hquiet now
    intro e he
    apply hclock.asked_le
    rw [← map_trace cfg.max cfg.window (fun _ => []) calls, hrun]
    exact List.mem_map_of_mem (List.mem_append_right pre (List.mem_append_left suf he))
  · rintro pre c suf rfl hop
    have hothers : (pre ++ suf).Sublist (pre ++ c :: suf) :=
      (List.Sublist.refl pre).append (List.sublist_cons_self c suf)
    rw [Limiter.run_new hclock, Limiter.run_new (hclock.sublist hothers),
      Limiter.run_new (hclock.sublist (List.sublist_append_left pre _))]
    exact trace_without_blocked _ pre suf hop
  · intro key
    rw [Limiter.run_new hclock, Limiter.run_new (hclock.sublist List.filter_sublist)]
    exact trace_filter_key rfl calls

namespace SampleLimiter

/-- Two attempts in any ten seconds. -/
def config : LimiterConfig where
  max := 2
  window := 10
  grow := fun n => n

def call (op : Op) (time : Int) : Call String where
  op := op
  key := "ip"
  asked := time
  noted := time

def calls : List (Call String) :=
  [call Op.allow 0, call Op.allow 4, call Op.allow 9, call Op.blocked 9, call Op.allow 10,
    call Op.reset 11, call Op.allow 12]

end SampleLimiter

/-- An attempt counts until the window has passed. -/
theorem limiter_is_sliding_window_edge :
    (Limiter.run SampleLimiter.config Limiter.new SampleLimiter.calls).map (fun e => e.2) =
        [some true, some true, some false, some true, some true, none, some true] ∧
      ((Limiter.run SampleLimiter.config Limiter.new SampleLimiter.calls).take 5).countP
        (allowedIn "ip" 10 10) ≤ 2 := by
  have htimely : Timely SampleLimiter.calls := by
    unfold Timely
    decide
  have hall := limiter_is_sliding_window SampleLimiter.config htimely
  exact ⟨by decide, hall.right.left [] _ _ "ip" 10 (List.take_append_drop 5 _).symm (by decide)⟩

end Backend
end LeoOne
