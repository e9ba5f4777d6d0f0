import Mathlib.Data.List.Flatten
import Mathlib.Data.List.Induction

/-!
# Sliding windows

A log keeps the times of the attempts of each key and forgets none of them.  What it
answers depends on the attempts that lie in the window before the question, so the
answers for a key depend on the calls for that key alone, and a question changes nothing.
-/

namespace LeoOne
namespace Foundation
namespace SlidingWindow

variable {κ : Type}

inductive Op where
  | allow
  | blocked
  | record
  | reset
  deriving DecidableEq

/-- A call: when it asks for the attempts of the key, and when it notes a new one. -/
structure Call (κ : Type) where
  op : Op
  key : κ
  asked : Int
  noted : Int
  deriving DecidableEq

/-- A call and its answer, if it has one. -/
abbrev Answered (κ : Type) := Call κ × Option Bool

/-- The readings of the clock do not decrease. -/
def Timely (calls : List (Call κ)) : Prop :=
  (calls.flatMap fun c => [c.asked, c.noted]).Pairwise (fun a b => a ≤ b)

theorem Timely.sublist {calls calls' : List (Call κ)} (h : Timely calls)
    (hsub : calls'.Sublist calls) : Timely calls' :=
  List.Pairwise.sublist (hsub.flatMap _) h

theorem Timely.asked_le {calls : List (Call κ)} (h : Timely calls) {c : Call κ}
    (hc : c ∈ calls) : c.asked ≤ c.noted := by
  have hone := h.sublist (List.singleton_sublist.mpr hc)
  simpa [Timely] using hone

/-- The times of a list that lie in the window before `now`. -/
def recent (window now : Int) (times : List Int) : List Int :=
  times.filter fun t => now - window < t

/-- The times that are left by an earlier question are those of the later one. -/
theorem recent_recent {window earlier now : Int} (h : earlier ≤ now) (times : List Int) :
    recent window now (recent window earlier times) = recent window now times := by
  unfold recent
  rw [List.filter_filter]
  apply List.filter_congr
  intro t _
  rw [Bool.and_eq_left_iff_imp, decide_eq_true_eq, decide_eq_true_eq]
  intro hnow
  omega

variable [DecidableEq κ]

/-- The attempts of a key after one more call. -/
def noted (key : κ) (times : List Int) (e : Answered κ) : List Int :=
  if e.1.key = key then
    match e.1.op, e.2 with
    | Op.reset, _ => []
    | Op.record, _ => times ++ [e.1.noted]
    | Op.allow, some true => times ++ [e.1.noted]
    | _, _ => times
  else times

/-- The attempts of a key since its last reset. -/
def attempts (key : κ) (trace : List (Answered κ)) : List Int :=
  trace.foldl (noted key) []

/-- What the log answers to a call, from the attempts of its key. -/
def answer (max window : Int) (times : List Int) (c : Call κ) : Option Bool :=
  match c.op with
  | Op.allow => some (decide (((recent window c.asked times).length : Int) < max))
  | Op.blocked => some (decide (max ≤ ((recent window c.asked times).length : Int)))
  | Op.record => none
  | Op.reset => none

/-- The log after a call: the attempts of the other keys are as before. -/
def after (log : κ -> List Int) (e : Answered κ) : κ -> List Int :=
  fun key => noted key (log key) e

/-- The calls with their answers. -/
def trace (max window : Int) : (κ -> List Int) -> List (Call κ) -> List (Answered κ)
  | _, [] => []
  | log, c :: calls =>
      let e := (c, answer max window (log c.key) c)
      e :: trace max window (after log e) calls

section Trace

variable {max window : Int}

theorem map_trace (max window : Int) (log : κ -> List Int) (calls : List (Call κ)) :
    (trace max window log calls).map (fun e => e.1) = calls := by
  induction calls generalizing log with
  | nil =>
      rfl
  | cons c calls ih =>
      simp only [trace, List.map_cons, ih]

theorem trace_append (log : κ -> List Int) (calls calls' : List (Call κ)) :
    trace max window log (calls ++ calls') =
      trace max window log calls ++
        trace max window ((trace max window log calls).foldl after log) calls' := by
  induction calls generalizing log with
  | nil =>
      rfl
  | cons c calls ih =>
      simp only [List.cons_append, trace, List.foldl_cons, ih]

/-- Each answer is the one that the attempts of its key so far give. -/
theorem answer_of_trace {log : κ -> List Int} {calls : List (Call κ)}
    {pre suf : List (Answered κ)} {c : Call κ} {a : Option Bool}
    (h : trace max window log calls = pre ++ (c, a) :: suf) :
    a = answer max window (pre.foldl (noted c.key) (log c.key)) c := by
  induction calls generalizing log pre with
  | nil =>
      cases pre with
      | nil =>
          cases h
      | cons e pre =>
          cases h
  | cons d calls ih =>
      cases pre with
      | nil =>
          cases h
          rfl
      | cons e pre =>
          rw [trace, List.cons_append, List.cons.injEq] at h
          rw [ih h.right, List.foldl_cons, ← h.left]
          rfl

/-- The answers for a key are those that the calls for this key alone would get. -/
theorem trace_filter_key {log log' : κ -> List Int} {key : κ} (hlog : log key = log' key)
    (calls : List (Call κ)) :
    (trace max window log calls).filter (fun e => e.1.key = key) =
      trace max window log' (calls.filter fun c => c.key = key) := by
  induction calls generalizing log log' with
  | nil =>
      rfl
  | cons c calls ih =>
      by_cases hkey : c.key = key
      · subst hkey
        rw [trace, List.filter_cons_of_pos (by simp), List.filter_cons_of_pos (by simp), trace,
          hlog]
        refine congrArg _ (ih ?_)
        simp only [after, hlog]
      · rw [trace, List.filter_cons_of_neg (by simpa using hkey),
          List.filter_cons_of_neg (by simpa using hkey)]
        apply ih
        simp only [after, noted, if_neg hkey]
        exact hlog

/-- A question does not change the log. -/
theorem after_blocked (log : κ -> List Int) {c : Call κ} (hop : c.op = Op.blocked)
    (a : Option Bool) : after log (c, a) = log := by
  funext key
  simp only [after, noted, hop]
  split
  · rfl
  · rfl

/-- Without a question, the other calls get the same answers. -/
theorem trace_without_blocked (log : κ -> List Int) (calls calls' : List (Call κ))
    {c : Call κ} (hop : c.op = Op.blocked) :
    exists a rest, trace max window log (calls ++ c :: calls') =
        trace max window log calls ++ (c, a) :: rest ∧
      trace max window log (calls ++ calls') = trace max window log calls ++ rest := by
  have hwith : trace max window log (calls ++ c :: calls') = _ :=
    trace_append log calls (c :: calls')
  simp only [trace, after_blocked _ hop] at hwith
  exact ⟨_, _, hwith, trace_append log calls calls'⟩

/-- The call is one that is allowed for the key, in the window before `now`. -/
def allowedIn (key : κ) (window now : Int) (e : Answered κ) : Bool :=
  e.1.op = Op.allow && e.1.key = key && e.2 = some true &&
    now - window < e.1.noted && e.1.noted ≤ now

theorem allowedIn_iff {key : κ} {now : Int} {e : Answered κ} :
    allowedIn key window now e = true <->
      e.1.op = Op.allow ∧ e.1.key = key ∧ e.2 = some true ∧ now - window < e.1.noted ∧
        e.1.noted ≤ now := by
  simp only [allowedIn, Bool.and_eq_true, decide_eq_true_eq, and_assoc]

/-- A call that does not reset the key takes no attempt away. -/
theorem recent_noted {key : κ} {asked : Int} {times : List Int} {e : Answered κ}
    (hquiet : ¬ (e.1.op = Op.reset ∧ e.1.key = key)) :
    (recent window asked times).length ≤
      (recent window asked (noted key times e)).length := by
  have hmore : (recent window asked times).length ≤
      (recent window asked (times ++ [e.1.noted])).length := by
    unfold recent
    rw [List.filter_append, List.length_append]
    exact Nat.le_add_right _ _
  unfold noted
  split
  · rename_i hkey
    split
    · rename_i hop
      exact absurd ⟨hop, hkey⟩ hquiet
    · exact hmore
    · exact hmore
    · exact Nat.le_refl _
  · exact Nat.le_refl _

/-- A call that is allowed in the window is one more attempt of every question in it. -/
theorem recent_allowed {key : κ} {asked now : Int} {times : List Int} {e : Answered κ}
    (hasked : asked ≤ now) (h : allowedIn key window now e = true) :
    (recent window asked times).length + 1 =
      (recent window asked (noted key times e)).length := by
  rcases allowedIn_iff.mp h with ⟨hop, hkey, hanswer, hlate, _⟩
  have hin : asked - window < e.1.noted := by
    omega
  unfold noted
  rw [if_pos hkey, hop, hanswer]
  simp only [recent, List.filter_append, List.length_append, List.filter_cons, hin, decide_true,
    if_true, List.filter_nil, List.length_singleton]

/-- Between resets, a question counts at least the calls that were allowed in a window that
ends after it. -/
theorem countP_allowedIn_le {key : κ} {asked now : Int} (hasked : asked ≤ now)
    (times : List Int) {es : List (Answered κ)}
    (hquiet : forall e, e ∈ es -> ¬ (e.1.op = Op.reset ∧ e.1.key = key)) :
    es.countP (allowedIn key window now) ≤
      (recent window asked (es.foldl (noted key) times)).length := by
  induction es using List.reverseRecOn with
  | nil =>
      exact Nat.zero_le _
  | append_singleton es e ih =>
      have hes := ih fun d hd => hquiet d (List.mem_append_left _ hd)
      rw [List.countP_append, List.foldl_append, List.countP_singleton, List.foldl_cons,
        List.foldl_nil]
      cases hallowed : allowedIn key window now e with
      | true =>
          rw [if_pos rfl, ← recent_allowed hasked hallowed]
          exact Nat.add_le_add_right hes 1
      | false =>
          rw [if_neg Bool.false_ne_true, Nat.add_zero]
          refine Nat.le_trans hes (recent_noted ?_)
          exact hquiet e (List.mem_append_right _ (List.mem_singleton_self e))

/-- Between resets, no window holds more than `max` calls that are allowed. -/
theorem countP_allowed_le {log : κ -> List Int} {calls : List (Call κ)}
    {pre mid suf : List (Answered κ)} {key : κ}
    (htrace : trace max window log calls = pre ++ (mid ++ suf))
    (hclock : forall e, e ∈ mid -> e.1.asked ≤ e.1.noted)
    (hquiet : forall e, e ∈ mid -> ¬ (e.1.op = Op.reset ∧ e.1.key = key)) (now : Int) :
    mid.countP (allowedIn key window now) ≤ max.toNat := by
  induction mid using List.reverseRecOn generalizing suf with
  | nil =>
      exact Nat.zero_le _
  | append_singleton mid e ih =>
      rw [List.append_assoc] at htrace
      have hmem := List.mem_append_right mid (List.mem_singleton_self e)
      have hmid : forall d, d ∈ mid -> d ∈ mid ++ [e] := fun d hd => List.mem_append_left _ hd
      rw [List.countP_append, List.countP_singleton]
      cases hallowed : allowedIn key window now e with
      | false =>
          rw [if_neg Bool.false_ne_true, Nat.add_zero]
          exact ih htrace (fun d hd => hclock d (hmid d hd)) fun d hd => hquiet d (hmid d hd)
      | true =>
          rw [if_pos rfl]
          rcases e with ⟨c, a⟩
          rcases allowedIn_iff.mp hallowed with ⟨hop, hkey, hanswer, _, hnoted⟩
          -- the last of them was allowed, so fewer than `max` were counted before it
          rw [List.singleton_append, ← List.append_assoc] at htrace
          have hgiven := answer_of_trace htrace
          simp only at hop hkey hanswer hnoted
          simp only [answer, hop, hanswer, Option.some.injEq] at hgiven
          have hfew := of_decide_eq_true hgiven.symm
          have hasked : c.asked ≤ now := Int.le_trans (hclock _ hmem) hnoted
          rw [List.foldl_append, hkey] at hfew
          have hcount : mid.countP (allowedIn key window now) ≤ _ :=
            countP_allowedIn_le hasked (pre.foldl (noted key) (log key))
              fun d hd => hquiet d (hmid d hd)
          omega

end Trace

end SlidingWindow
end Foundation
end LeoOne
