import Mathlib.Algebra.GroupWithZero.Nat
import Mathlib.Logic.Basic
import Mathlib.Data.List.Basic
import LeoOne.Foundation.Machine

/-!
# Goroutine pools

A goroutine is the list of the atomic instructions it still has to execute.
Executing one instruction updates the shared state, puts a continuation in front
of the rest of that goroutine, and may start further goroutines.  Any goroutine
may be scheduled next, so a run of the pool is an arbitrary interleaving at the
granularity of the instructions.

The lemmas below say once what a step does to the pending instructions; the
invariants of a concurrent program are derived from them.
-/

namespace LeoOne
namespace Foundation

/-- What executing one instruction does. -/
structure Outcome (σ ι : Type) where
  shared : σ
  cont : List ι
  spawned : List (List ι)

/-- The instructions that the step makes pending. -/
def Outcome.created {σ ι : Type} (o : Outcome σ ι) : List ι :=
  o.cont ++ o.spawned.flatten

/-- Shared state and the remaining instructions of every goroutine. -/
structure Pool (σ ι : Type) where
  shared : σ
  procs : List (List ι)

/-- Either a request starts a goroutine, or goroutine `i` takes a step. -/
inductive PoolEvent (ρ ξ : Type) where
  | start (request : ρ)
  | exec (i : Nat) (input : ξ)

/-- A sum over a list after one of its elements has changed. -/
theorem sum_map_set {α : Type} (f : α -> Nat) {l : List α} {i : Nat} {a : α}
    (hget : l[i]? = some a) (b : α) :
    ((l.set i b).map f).sum + f a = (l.map f).sum + f b := by
  induction l generalizing i with
  | nil =>
      cases hget
  | cons c l ih =>
      cases i with
      | zero =>
          have hc : c = a := by simpa using hget
          subst hc
          simp only [List.set_cons_zero, List.map_cons, List.sum_cons]
          omega
      | succ i =>
          have htail : l[i]? = some a := by simpa using hget
          have hrec := ih htail
          simp only [List.set_cons_succ, List.map_cons, List.sum_cons]
          omega

namespace Pool

variable {σ ι ρ ξ : Type}

/-- An instruction that some goroutine has still to execute. -/
def Pending (p : Pool σ ι) (k : ι) : Prop :=
  exists q, q ∈ p.procs ∧ k ∈ q

/-- The instruction at the head of goroutine `i`, with what follows it. -/
def head? (p : Pool σ ι) (i : Nat) : Option (ι × List ι) :=
  match p.procs[i]? with
  | some (k :: rest) => some (k, rest)
  | _ => none

/-- The interleaving semantics of a set of instructions. -/
def machine (entry : ρ -> List ι)
    (perform : ι -> ξ -> σ -> Option (Outcome σ ι)) :
    Machine (Pool σ ι) (PoolEvent ρ ξ) where
  step p
    | PoolEvent.start r => some { p with procs := p.procs ++ [entry r] }
    | PoolEvent.exec i x =>
        match p.head? i with
        | none => none
        | some (k, rest) =>
            match perform k x p.shared with
            | none => none
            | some o =>
                some
                  { shared := o.shared
                    procs := p.procs.set i (o.cont ++ rest) ++ o.spawned }

variable {entry : ρ -> List ι} {perform : ι -> ξ -> σ -> Option (Outcome σ ι)}

theorem head?_mem {p : Pool σ ι} {i : Nat} {k : ι} {rest : List ι}
    (h : p.head? i = some (k, rest)) : k :: rest ∈ p.procs := by
  unfold head? at h
  split at h
  · rename_i k' rest' hget
    cases h
    exact List.mem_of_getElem? hget
  · cases h

theorem pending_of_head? {p : Pool σ ι} {i : Nat} {k : ι} {rest : List ι}
    (h : p.head? i = some (k, rest)) : p.Pending k :=
  ⟨k :: rest, head?_mem h, List.mem_cons_self⟩

/-- What one step of the pool does: a request is started, or the head of one
goroutine is executed. -/
theorem step_cases {p p' : Pool σ ι} {e : PoolEvent ρ ξ}
    (h : (machine entry perform).step p e = some p') :
    (exists r, e = PoolEvent.start r ∧
      p' = { p with procs := p.procs ++ [entry r] }) ∨
    (exists i x k rest o, e = PoolEvent.exec i x ∧
      p.head? i = some (k, rest) ∧ perform k x p.shared = some o ∧
      p' = { shared := o.shared
             procs := p.procs.set i (o.cont ++ rest) ++ o.spawned }) := by
  cases e with
  | start r =>
      left
      exact ⟨r, rfl, by simpa [machine] using h.symm⟩
  | exec i x =>
      right
      simp only [machine] at h
      split at h
      · cases h
      · rename_i k rest hhead
        split at h
        · cases h
        · rename_i o hexec
          exact ⟨i, x, k, rest, o, rfl, hhead, hexec, by simpa using h.symm⟩

/-!
## Pending instructions across a step
-/

theorem mem_procs_exec {p : Pool σ ι} {i : Nat} {k : ι} {rest : List ι}
    {o : Outcome σ ι} (hhead : p.head? i = some (k, rest)) {q : List ι}
    (h : q ∈ p.procs.set i (o.cont ++ rest) ++ o.spawned) :
    (q = o.cont ++ rest ∧ k :: rest ∈ p.procs) ∨ q ∈ p.procs ∨
      q ∈ o.spawned := by
  rcases List.mem_append.mp h with hset | hspawn
  · rcases List.mem_or_eq_of_mem_set hset with hmem | heq
    · exact Or.inr (Or.inl hmem)
    · exact Or.inl ⟨heq, head?_mem hhead⟩
  · exact Or.inr (Or.inr hspawn)

theorem pending_exec {p : Pool σ ι} {i : Nat} {k : ι} {rest : List ι}
    {o : Outcome σ ι} (hhead : p.head? i = some (k, rest)) {j : ι}
    (h : Pending
      { shared := o.shared
        procs := p.procs.set i (o.cont ++ rest) ++ o.spawned } j) :
    j ∈ o.created ∨ p.Pending j := by
  rcases h with ⟨q, hq, hj⟩
  rcases mem_procs_exec hhead hq with ⟨heq, hmem⟩ | hold | hspawn
  · rw [heq] at hj
    rcases List.mem_append.mp hj with hcont | hrest
    · exact Or.inl (List.mem_append.mpr (Or.inl hcont))
    · exact Or.inr ⟨k :: rest, hmem, List.mem_cons_of_mem k hrest⟩
  · exact Or.inr ⟨q, hold, hj⟩
  · left
    apply List.mem_append.mpr
    exact Or.inr (List.mem_flatten.mpr ⟨q, hspawn, hj⟩)

theorem pending_start {p : Pool σ ι} {q : List ι} {j : ι}
    (h : Pending { p with procs := p.procs ++ [q] } j) :
    j ∈ q ∨ p.Pending j := by
  rcases h with ⟨q', hq', hj⟩
  rcases List.mem_append.mp hq' with hold | hnew
  · exact Or.inr ⟨q', hold, hj⟩
  · rw [List.mem_singleton] at hnew
    rw [hnew] at hj
    exact Or.inl hj

theorem Pending.start {p : Pool σ ι} {j : ι} (h : p.Pending j) (q : List ι) :
    Pending { p with procs := p.procs ++ [q] } j := by
  rcases h with ⟨q', hq', hj⟩
  exact ⟨q', List.mem_append.mpr (Or.inl hq'), hj⟩

theorem head?_get {p : Pool σ ι} {i : Nat} {k : ι} {rest : List ι}
    (h : p.head? i = some (k, rest)) : p.procs[i]? = some (k :: rest) := by
  unfold head? at h
  split at h
  · rename_i k' rest' hget
    cases h
    exact hget
  · cases h

/-- Only the executed instruction stops being pending. -/
theorem Pending.exec {p : Pool σ ι} {i : Nat} {k : ι} {rest : List ι}
    (hhead : p.head? i = some (k, rest)) {j : ι} (h : p.Pending j)
    (hne : j ≠ k) (o : Outcome σ ι) :
    Pending
      { shared := o.shared
        procs := p.procs.set i (o.cont ++ rest) ++ o.spawned } j := by
  rcases h with ⟨q, hq, hj⟩
  rcases List.mem_iff_getElem?.mp hq with ⟨n, hn⟩
  have hget := head?_get hhead
  have hlen : i < p.procs.length := (List.getElem?_eq_some_iff.mp hget).1
  by_cases hni : n = i
  · subst hni
    rw [hget] at hn
    cases hn
    have hrest : j ∈ rest := by
      rcases List.mem_cons.mp hj with heq | hmem
      · exact absurd heq hne
      · exact hmem
    refine ⟨o.cont ++ rest, ?_, List.mem_append.mpr (Or.inr hrest)⟩
    apply List.mem_append.mpr
    exact Or.inl (List.mem_set hlen _)
  · refine ⟨q, ?_, hj⟩
    apply List.mem_append.mpr
    left
    apply List.mem_of_getElem? (i := n)
    rw [List.getElem?_set_ne (Ne.symm hni)]
    exact hn

theorem pending_cont {p : Pool σ ι} {i : Nat} {k : ι} {rest : List ι}
    (hhead : p.head? i = some (k, rest)) (o : Outcome σ ι) {j : ι}
    (h : j ∈ o.cont ++ rest) :
    Pending
      { shared := o.shared
        procs := p.procs.set i (o.cont ++ rest) ++ o.spawned } j := by
  have hlen : i < p.procs.length :=
    (List.getElem?_eq_some_iff.mp (head?_get hhead)).1
  exact ⟨o.cont ++ rest, List.mem_append.mpr (Or.inl (List.mem_set hlen _)), h⟩

/-!
## Conditions on the steps
-/

/-- A condition on the instruction that a step executes. -/
def guarded (g : Pool σ ι -> ι -> ξ -> Bool) (p : Pool σ ι) :
    PoolEvent ρ ξ -> Bool
  | PoolEvent.start _ => true
  | PoolEvent.exec i x =>
      match p.head? i with
      | none => true
      | some (k, _) => g p k x

theorem guarded_exec {g : Pool σ ι -> ι -> ξ -> Bool} {p : Pool σ ι} {i : Nat}
    {x : ξ} {k : ι} {rest : List ι}
    (h : guarded g p (PoolEvent.exec i x : PoolEvent ρ ξ) = true)
    (hhead : p.head? i = some (k, rest)) : g p k x = true := by
  simpa [guarded, hhead] using h

/-- Two conditions that a run meets are met together. -/
theorem meets_guarded_both {M : Machine (Pool σ ι) (PoolEvent ρ ξ)}
    {g g' : Pool σ ι -> ι -> ξ -> Bool} {p : Pool σ ι}
    {es : List (PoolEvent ρ ξ)}
    (h : M.Meets (fun p e => guarded g p e = true) p es)
    (h' : M.Meets (fun p e => guarded g' p e = true) p es) :
    M.Meets (fun p e => guarded (fun p k x => g p k x && g' p k x) p e = true)
      p es := by
  apply (h.both h').mono
  rintro p e ⟨hg, hg'⟩
  cases e with
  | start r =>
      rfl
  | exec i x =>
      simp only [guarded] at hg hg' ⊢
      split
      · rfl
      · rename_i k rest hhead
        rw [hhead] at hg hg'
        exact Bool.and_eq_true_iff.mpr ⟨hg, hg'⟩

/-- A run without conditions. -/
theorem meets_guarded_true {M : Machine (Pool σ ι) (PoolEvent ρ ξ)}
    {p : Pool σ ι} {es : List (PoolEvent ρ ξ)} :
    M.Meets (fun p e => guarded (fun _ _ _ => true) p e = true) p es := by
  apply (Machine.meets_true p es).mono
  intro p e _
  cases e with
  | start r =>
      rfl
  | exec i x =>
      simp only [guarded]
      split <;> rfl

/-- Some pending instruction satisfies the test. -/
def anyPending (p : Pool σ ι) (f : ι -> Bool) : Bool :=
  p.procs.any fun q => q.any f

theorem anyPending_eq_false {p : Pool σ ι} {f : ι -> Bool} :
    p.anyPending f = false <-> forall j, p.Pending j -> f j = false := by
  unfold anyPending
  rw [List.any_eq_false]
  constructor
  · intro h j hj
    rcases hj with ⟨q, hq, hjq⟩
    have hnone := h q hq
    rw [Bool.not_eq_true, List.any_eq_false] at hnone
    simpa using hnone j hjq
  · intro h q hq
    rw [Bool.not_eq_true, List.any_eq_false]
    intro j hjq
    simpa using h j ⟨q, hq, hjq⟩

theorem pending_of_anyPending {p : Pool σ ι} {f : ι -> Bool}
    (h : p.anyPending f = true) : exists j, p.Pending j ∧ f j = true := by
  rcases List.any_eq_true.mp h with ⟨q, hq, hany⟩
  rcases List.any_eq_true.mp hany with ⟨j, hj, hf⟩
  exact ⟨j, ⟨q, hq, hj⟩, hf⟩

theorem anyPending_of_pending {p : Pool σ ι} {j : ι} (hj : p.Pending j)
    {f : ι -> Bool} (hf : f j = true) : p.anyPending f = true := by
  rcases hj with ⟨q, hq, hjq⟩
  exact List.any_eq_true.mpr ⟨q, hq, List.any_eq_true.mpr ⟨j, hjq, hf⟩⟩

theorem anyPending_mono {p p' : Pool σ ι}
    (hkept : forall {j}, p.Pending j -> p'.Pending j) {f : ι -> Bool}
    (h : p.anyPending f = true) : p'.anyPending f = true := by
  rcases pending_of_anyPending h with ⟨j, hj, hf⟩
  exact anyPending_of_pending (hkept hj) hf

/-!
## Counting pending instructions
-/

/-- How many pending instructions satisfy the test. -/
def pendingCount (f : ι -> Bool) (p : Pool σ ι) : Nat :=
  p.procs.flatten.countP f

theorem countP_flatten_set (f : ι -> Bool) {procs : List (List ι)} {i : Nat}
    {old : List ι} (hget : procs[i]? = some old) (new : List ι) :
    (procs.set i new).flatten.countP f + old.countP f =
      procs.flatten.countP f + new.countP f := by
  rw [List.countP_flatten, List.countP_flatten]
  exact sum_map_set (List.countP f) hget new

theorem pendingCount_exec (f : ι -> Bool) {p : Pool σ ι} {i : Nat} {k : ι}
    {rest : List ι} (hhead : p.head? i = some (k, rest)) (o : Outcome σ ι) :
    pendingCount f
        { shared := o.shared
          procs := p.procs.set i (o.cont ++ rest) ++ o.spawned } +
        [k].countP f =
      pendingCount f p + o.cont.countP f + o.spawned.flatten.countP f := by
  have hset := countP_flatten_set f (head?_get hhead) (o.cont ++ rest)
  have hsplit : (k :: rest).countP f = [k].countP f + rest.countP f := by
    rw [← List.countP_append]
    rfl
  simp only [pendingCount, List.flatten_append, List.countP_append] at *
  omega

theorem pendingCount_start (f : ι -> Bool) (p : Pool σ ι) (q : List ι) :
    pendingCount f { p with procs := p.procs ++ [q] } =
      pendingCount f p + q.countP f := by
  simp [pendingCount]

theorem pendingCount_eq_zero {f : ι -> Bool} {p : Pool σ ι}
    (h : forall j, p.Pending j -> f j = false) : pendingCount f p = 0 := by
  apply List.countP_eq_zero.mpr
  intro j hj
  rcases List.mem_flatten.mp hj with ⟨q, hq, hjq⟩
  simp [h j ⟨q, hq, hjq⟩]

theorem pendingCount_pos {f : ι -> Bool} {p : Pool σ ι} {j : ι}
    (hj : p.Pending j) (hf : f j = true) : 0 < pendingCount f p := by
  rcases hj with ⟨q, hq, hjq⟩
  exact List.countP_pos_iff.mpr ⟨j, List.mem_flatten.mpr ⟨q, hq, hjq⟩, hf⟩

/-!
## The rule for invariants
-/

/-- A step that starts a goroutine. -/
structure Started (p p' : Pool σ ι) (q : List ι) : Prop where
  shared : p'.shared = p.shared
  pending : forall {j}, p'.Pending j -> j ∈ q ∨ p.Pending j
  kept : forall {j}, p.Pending j -> p'.Pending j
  count : forall f, pendingCount f p' = pendingCount f p + q.countP f

/-- A step that executes an instruction. -/
structure Executed (p p' : Pool σ ι) (k : ι) (o : Outcome σ ι) : Prop where
  running : p.Pending k
  shared : p'.shared = o.shared
  pending : forall {j}, p'.Pending j -> j ∈ o.created ∨ p.Pending j
  kept : forall {j}, p.Pending j -> j ≠ k -> p'.Pending j
  count : forall f, pendingCount f p' + [k].countP f =
    pendingCount f p + o.created.countP f

theorem started (p : Pool σ ι) (q : List ι) :
    Started p { p with procs := p.procs ++ [q] } q := by
  constructor
  · rfl
  · exact pending_start
  · intro j hj
    exact hj.start q
  · intro f
    exact pendingCount_start f p q

theorem executed {p : Pool σ ι} {i : Nat} {k : ι} {rest : List ι}
    (hhead : p.head? i = some (k, rest)) (o : Outcome σ ι) :
    Executed p
      { shared := o.shared
        procs := p.procs.set i (o.cont ++ rest) ++ o.spawned } k o := by
  constructor
  · exact pending_of_head? hhead
  · rfl
  · exact pending_exec hhead
  · intro j hj hne
    exact hj.exec hhead hne o
  · intro f
    rw [pendingCount_exec f hhead o, Outcome.created, List.countP_append]
    omega

/-- A pending instruction of a kind that the step does not create was pending
before it. -/
theorem Started.pending_old {p p' : Pool σ ι} {q : List ι} (h : Started p p' q)
    {f : ι -> Bool} (hnone : q.countP f = 0) {j : ι} (hj : p'.Pending j)
    (hf : f j = true) : p.Pending j := by
  rcases h.pending hj with hnew | hold
  · exact absurd hf (List.countP_eq_zero.mp hnone j hnew)
  · exact hold

theorem Executed.pending_old {p p' : Pool σ ι} {k : ι} {o : Outcome σ ι}
    (h : Executed p p' k o) {f : ι -> Bool} (hnone : o.created.countP f = 0) {j : ι}
    (hj : p'.Pending j) (hf : f j = true) : p.Pending j := by
  rcases h.pending hj with hnew | hold
  · exact absurd hf (List.countP_eq_zero.mp hnone j hnew)
  · exact hold

/-- A pending instruction of a kind stays, if the step does not execute one of
that kind. -/
theorem Executed.anyPending_kept {p p' : Pool σ ι} {k : ι} {o : Outcome σ ι}
    (h : Executed p p' k o) {f : ι -> Bool} (hany : p.anyPending f = true)
    (hk : f k = false) : p'.anyPending f = true := by
  rcases pending_of_anyPending hany with ⟨j, hj, hf⟩
  have hne : j ≠ k := by
    intro heq
    rw [heq, hk] at hf
    cases hf
  exact anyPending_of_pending (h.kept hj hne) hf

/-- Continuations and new goroutines are pending after the step. -/
theorem Executed.pendingCount_created {p p' : Pool σ ι} {k j : ι} {o : Outcome σ ι}
    (h : Executed p p' k o) {f : ι -> Bool} (hj : j ∈ o.created) (hf : f j = true) :
    0 < pendingCount f p' := by
  have hcount := h.count f
  rw [List.countP_singleton] at hcount
  have hnew : 0 < o.created.countP f := List.countP_pos_iff.mpr ⟨j, hj, hf⟩
  by_cases hk : f k = true
  · have hold := pendingCount_pos h.running hk
    rw [if_pos hk] at hcount
    omega
  · rw [if_neg hk] at hcount
    omega

theorem Executed.anyPending_created {p p' : Pool σ ι} {k j : ι} {o : Outcome σ ι}
    (h : Executed p p' k o) {f : ι -> Bool} (hj : j ∈ o.created) (hf : f j = true) :
    p'.anyPending f = true := by
  cases hany : p'.anyPending f with
  | true =>
      rfl
  | false =>
      have hpos := h.pendingCount_created hj hf
      rw [pendingCount_eq_zero (anyPending_eq_false.mp hany)] at hpos
      cases hpos

/-- The list of the pending instructions after `k` has been executed: `k` is gone and
what it creates is there, in any order. -/
def Replaced (k : ι) (created tasks tasks' : List ι) : Prop :=
  forall f : ι -> Bool,
    tasks'.countP f + [k].countP f = tasks.countP f + created.countP f

theorem Executed.replaced {p p' : Pool σ ι} {k : ι} {o : Outcome σ ι}
    (h : Executed p p' k o) : Replaced k o.created p.procs.flatten p'.procs.flatten :=
  h.count

theorem Replaced.mem {k j : ι} {created tasks tasks' : List ι}
    (h : Replaced k created tasks tasks') (hj : j ∈ tasks') : j ∈ created ∨ j ∈ tasks := by
  classical
  have hcount := h (fun i => decide (i = j))
  have hpos : 0 < tasks'.countP (fun i => decide (i = j)) :=
    List.countP_pos_iff.mpr ⟨j, hj, by simp⟩
  have hsome : 0 < created.countP (fun i => decide (i = j)) ∨
      0 < tasks.countP (fun i => decide (i = j)) := by
    omega
  rcases hsome with hnew | hold
  · rcases List.countP_pos_iff.mp hnew with ⟨i, hi, heq⟩
    left
    exact of_decide_eq_true heq ▸ hi
  · rcases List.countP_pos_iff.mp hold with ⟨i, hi, heq⟩
    right
    exact of_decide_eq_true heq ▸ hi

theorem preserves {g : Pool σ ι -> ι -> ξ -> Bool} {inv : Pool σ ι -> Prop}
    (hstart : forall {p p' r}, inv p -> Started p p' (entry r) -> inv p')
    (hexec : forall {p p' x k o}, inv p -> g p k x = true ->
      perform k x p.shared = some o -> Executed p p' k o -> inv p') :
    (machine entry perform).Preserves (fun p e => guarded g p e = true) inv := by
  intro p e p' hinv hguard hstep
  rcases step_cases hstep with ⟨r, rfl, rfl⟩ |
    ⟨i, x, k, rest, o, rfl, hhead, hperform, rfl⟩
  · exact hstart hinv (started p (entry r))
  · exact hexec hinv (guarded_exec hguard hhead) hperform (executed hhead o)

/-!
## Termination

If executing an instruction creates less work than it takes away, a run is no
longer than the requests that were started allow.
-/

section Termination

variable {w : ι -> Nat} {c : Nat}

/-- The work that is still to be done. -/
def weight (w : ι -> Nat) (p : Pool σ ι) : Nat :=
  (p.procs.flatten.map w).sum

/-- The number of requests that a run starts. -/
def starts : List (PoolEvent ρ ξ) -> Nat
  | [] => 0
  | PoolEvent.start _ :: es => starts es + 1
  | PoolEvent.exec _ _ :: es => starts es

theorem sum_flatten_set {procs : List (List ι)} {i : Nat} {old : List ι}
    (hget : procs[i]? = some old) (new : List ι) :
    ((procs.set i new).flatten.map w).sum + (old.map w).sum =
      (procs.flatten.map w).sum + (new.map w).sum := by
  simp only [List.map_flatten, List.sum_flatten, List.map_map]
  exact sum_map_set (List.sum ∘ List.map w) hget new

theorem weight_exec {p : Pool σ ι} {i : Nat} {k : ι} {rest : List ι}
    (hhead : p.head? i = some (k, rest)) (o : Outcome σ ι) :
    weight w
        { shared := o.shared
          procs := p.procs.set i (o.cont ++ rest) ++ o.spawned } + w k =
      weight w p + (o.created.map w).sum := by
  have hset := sum_flatten_set (w := w) (head?_get hhead) (o.cont ++ rest)
  simp only [weight, Outcome.created, List.flatten_append, List.map_append,
    List.sum_append, List.map_cons, List.sum_cons] at *
  omega

theorem run_weight {entry : ρ -> List ι}
    {perform : ι -> ξ -> σ -> Option (Outcome σ ι)}
    (hentry : forall r, ((entry r).map w).sum ≤ c)
    (hexec : forall {k x s o}, perform k x s = some o -> (o.created.map w).sum < w k)
    {p q : Pool σ ι} {es : List (PoolEvent ρ ξ)}
    (hrun : (machine entry perform).run p es = some q) :
    weight w q + es.length ≤ weight w p + (c + 1) * starts es := by
  induction es generalizing p with
  | nil =>
      cases hrun
      exact Nat.le_refl _
  | cons e es ih =>
      rcases Machine.run_cons hrun with ⟨p', hstep, htail⟩
      have hrest := ih htail
      rcases step_cases hstep with ⟨r, rfl, rfl⟩ |
        ⟨i, x, k, rest, o, rfl, hhead, hperform, rfl⟩
      · have hnew := hentry r
        have hweight : weight w { p with procs := p.procs ++ [entry r] } =
            weight w p + ((entry r).map w).sum := by
          simp [weight]
        rw [hweight] at hrest
        simp only [List.length_cons, starts, Nat.mul_add, Nat.mul_one]
        omega
      · have hless := hexec hperform
        have hweight := weight_exec (w := w) hhead o
        simp only [List.length_cons, starts]
        omega

end Termination

end Pool

end Foundation
end LeoOne
