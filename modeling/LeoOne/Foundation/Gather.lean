import LeoOne.Foundation.Parts

/-!
# The pool of a component

The pending instructions of a component, gathered in one list, are a pool of the
component.  Laws that only speak of the pending instructions, and not of the
goroutine that each belongs to, hold of this pool as of any other: a step of the
component is a step there, and a step of another component at most adds to it.
-/

namespace LeoOne
namespace Foundation
namespace Pool

variable {σ σ' ι ι' : Type}

/-- The pool of a component whose pending instructions are these. -/
def gather (shared : σ) (tasks : List ι) : Pool σ ι where
  shared := shared
  procs := [tasks]

theorem pending_gather {shared : σ} {tasks : List ι} {j : ι} :
    (gather shared tasks).Pending j <-> j ∈ tasks := by
  constructor
  · rintro ⟨q, hq, hj⟩
    rw [List.mem_singleton.mp hq] at hj
    exact hj
  · intro hj
    exact ⟨tasks, List.mem_singleton_self tasks, hj⟩

theorem pendingCount_gather (f : ι -> Bool) (shared : σ) (tasks : List ι) :
    pendingCount f (gather shared tasks) = tasks.countP f := by
  simp [pendingCount, gather]

/-- What the counts say about one instruction. -/
theorem mem_iff_countP {tasks : List ι} {j : ι} [DecidableEq ι] :
    j ∈ tasks <-> 0 < tasks.countP fun i => i = j := by
  rw [List.countP_pos_iff]
  constructor
  · intro hj
    exact ⟨j, hj, decide_eq_true rfl⟩
  · rintro ⟨i, hi, heq⟩
    exact of_decide_eq_true heq ▸ hi

/-- Only the executed instruction stops being pending. -/
theorem Replaced.kept {k j : ι} {created tasks tasks' : List ι}
    (h : Replaced k created tasks tasks') (hj : j ∈ tasks) (hne : j ≠ k) : j ∈ tasks' := by
  classical
  have hcount := h fun i => decide (i = j)
  have hpos := mem_iff_countP.mp hj
  have hother : [k].countP (fun i => decide (i = j)) = 0 := by
    rw [List.countP_singleton, if_neg]
    exact fun heq => hne (of_decide_eq_true heq).symm
  apply mem_iff_countP.mpr
  omega

/-- What the step creates is pending. -/
theorem Replaced.made {k j : ι} {created tasks tasks' : List ι}
    (h : Replaced k created tasks tasks') (hk : k ∈ tasks) (hj : j ∈ created) :
    j ∈ tasks' := by
  classical
  have hcount := h fun i => decide (i = j)
  have hnew := mem_iff_countP.mp hj
  apply mem_iff_countP.mpr
  by_cases heq : k = j
  · have hold := mem_iff_countP.mp (heq ▸ hk)
    have hone : [k].countP (fun i => decide (i = j)) = 1 := by
      rw [List.countP_singleton, if_pos (decide_eq_true heq)]
    omega
  · have hnone : [k].countP (fun i => decide (i = j)) = 0 := by
      rw [List.countP_singleton, if_neg]
      exact fun h => heq (of_decide_eq_true h)
    omega

/-- What a step creates is pending after it. -/
theorem Executed.made {p p' : Pool σ ι} {k j : ι} {o : Outcome σ ι} (h : Executed p p' k o)
    (hj : j ∈ o.created) : p'.Pending j := by
  have hflat : forall {q : Pool σ ι} {i : ι}, q.Pending i <-> i ∈ q.procs.flatten := by
    intro q i
    rw [List.mem_flatten]
    rfl
  exact hflat.mpr (h.replaced.made (hflat.mp h.running) hj)

/-- A kind of which at most one instruction is pending. -/
theorem pending_unique {p : Pool σ ι} {f : ι -> Bool} (hle : pendingCount f p ≤ 1) {i j : ι}
    (hi : p.Pending i) (hj : p.Pending j) (hfi : f i = true) (hfj : f j = true) : i = j := by
  have hflat : forall {k : ι}, p.Pending k -> f k = true ->
      k ∈ p.procs.flatten.filter f := by
    rintro k ⟨q, hq, hk⟩ hf
    exact List.mem_filter.mpr ⟨List.mem_flatten.mpr ⟨q, hq, hk⟩, hf⟩
  have hlen : (p.procs.flatten.filter f).length ≤ 1 := by
    rw [← List.countP_eq_length_filter]
    exact hle
  have hmi := hflat hi hfi
  have hmj := hflat hj hfj
  generalize p.procs.flatten.filter f = tasks at hlen hmi hmj
  match tasks with
  | [] =>
      cases hmi
  | [k] =>
      rw [List.mem_singleton.mp hmi, List.mem_singleton.mp hmj]
  | _ :: _ :: _ =>
      simp at hlen

/-- Of a kind of which at most one instruction is pending, a step that executes one
leaves only what it creates. -/
theorem Executed.pending_created {p p' : Pool σ ι} {k j : ι} {o : Outcome σ ι}
    {f : ι -> Bool} (h : Executed p p' k o) (hle : pendingCount f p ≤ 1) (hk : f k = true)
    (hcreated : o.created.countP f ≤ 1) (hj : p'.Pending j) (hf : f j = true) :
    j ∈ o.created := by
  have hcount := h.count f
  rw [List.countP_singleton, if_pos hk] at hcount
  have hpos := pendingCount_pos hj hf
  have hsome : 0 < o.created.countP f := by
    omega
  rcases List.countP_pos_iff.mp hsome with ⟨i, hi, hfi⟩
  rw [pending_unique (by omega) hj (h.made hi) hf hfi]
  exact hi

/-- A step of the component. -/
theorem executed_gather {s : σ} {k : ι} {o : Outcome σ ι} {tasks tasks' : List ι}
    (h : Replaced k o.created tasks tasks') (hk : k ∈ tasks) :
    Executed (gather s tasks) (gather o.shared tasks') k o where
  running := pending_gather.mpr hk
  shared := rfl
  pending := by
    intro j hj
    rcases h.mem (pending_gather.mp hj) with hnew | hold
    · exact Or.inl hnew
    · exact Or.inr (pending_gather.mpr hold)
  kept := fun hj hne => pending_gather.mpr (h.kept (pending_gather.mp hj) hne)
  count := by
    intro f
    rw [pendingCount_gather, pendingCount_gather]
    exact h f

/-- A step of another component that adds instructions. -/
theorem started_of_count {p p' : Pool σ ι} {q : List ι} (hshared : p'.shared = p.shared)
    (hcount : forall f, pendingCount f p' = pendingCount f p + q.countP f) :
    Started p p' q := by
  classical
  have hmem : forall {p : Pool σ ι} {j}, p.Pending j <->
      0 < pendingCount (fun i => decide (i = j)) p := by
    intro p j
    unfold pendingCount
    rw [← mem_iff_countP, List.mem_flatten]
    rfl
  refine ⟨hshared, ?_, ?_, hcount⟩
  · intro j hj
    have hsum := hmem.mp hj
    rw [hcount] at hsum
    by_cases hold : 0 < pendingCount (fun i => decide (i = j)) p
    · exact Or.inr (hmem.mpr hold)
    · left
      apply mem_iff_countP.mpr
      omega
  · intro j hj
    have hold := hmem.mp hj
    apply hmem.mpr
    rw [hcount]
    omega

end Pool
end Foundation
end LeoOne
