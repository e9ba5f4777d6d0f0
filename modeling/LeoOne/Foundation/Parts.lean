import LeoOne.Foundation.Pool

/-!
# Pools as parts of a larger pool

The instructions of a component are embedded in those of a larger system.  A law
of the component that is stated about the list of its pending instructions holds
in the larger system, because a step changes that list there in the same way.
-/

namespace LeoOne
namespace Foundation

variable {σ σ' ι ι' ρ ξ : Type}

/-- The outcome of a component, as an outcome of the whole. -/
def Outcome.embed (put : σ -> σ') (f : ι -> ι') (o : Outcome σ ι) : Outcome σ' ι' where
  shared := put o.shared
  cont := o.cont.map f
  spawned := o.spawned.map (List.map f)

theorem Outcome.created_embed (put : σ -> σ') (f : ι -> ι') (o : Outcome σ ι) :
    (o.embed put f).created = o.created.map f := by
  simp [Outcome.created, embed, List.map_flatten]

namespace Pool

/-- The pending instructions of a component. -/
def part (g : ι' -> Option ι) (p : Pool σ' ι') : List ι :=
  p.procs.flatten.filterMap g

theorem mem_part {g : ι' -> Option ι} {p : Pool σ' ι'} {k : ι'} {j : ι}
    (hk : p.Pending k) (hg : g k = some j) : j ∈ part g p := by
  rcases hk with ⟨q, hq, hkq⟩
  exact List.mem_filterMap.mpr ⟨k, List.mem_flatten.mpr ⟨q, hq, hkq⟩, hg⟩

theorem filterMap_embed {f : ι -> ι'} {g : ι' -> Option ι}
    (h : forall j, g (f j) = some j) (js : List ι) : (js.map f).filterMap g = js := by
  rw [List.filterMap_map]
  have hsome : g ∘ f = some := funext h
  rw [hsome, List.filterMap_some]

theorem filterMap_other {f : ι -> ι'} {ι'' : Type} {g : ι' -> Option ι''}
    (h : forall j, g (f j) = none) (js : List ι) : (js.map f).filterMap g = [] := by
  rw [List.filterMap_eq_nil_iff]
  intro k hk
  rcases List.mem_map.mp hk with ⟨j, _, rfl⟩
  exact h j

/-- A step of the component, seen in the whole. -/
theorem Executed.part_replaced {g : ι' -> Option ι} {p p' : Pool σ' ι'} {k : ι'} {j : ι}
    {o : Outcome σ' ι'} (h : Executed p p' k o) (hg : g k = some j) :
    Replaced j (o.created.filterMap g) (part g p) (part g p') := by
  intro f
  have hcount := h.count fun k => ((g k).map f).getD false
  unfold part
  simp only [List.countP_filterMap]
  have hj : [j].countP f = [k].countP fun k => ((g k).map f).getD false := by
    simp [List.countP_singleton, hg]
  rw [hj]
  exact hcount

/-- A step of another component. -/
theorem Executed.part_other {g : ι' -> Option ι} {p p' : Pool σ' ι'} {k : ι'}
    {o : Outcome σ' ι'} (h : Executed p p' k o) (hg : g k = none) (f : ι -> Bool) :
    (part g p').countP f = (part g p).countP f + (o.created.filterMap g).countP f := by
  have hcount := h.count fun k => ((g k).map f).getD false
  unfold part
  simp only [List.countP_filterMap]
  simpa [pendingCount, List.countP_singleton, hg] using hcount

theorem Executed.mem_part_other {g : ι' -> Option ι} {p p' : Pool σ' ι'} {k : ι'} {j : ι}
    {o : Outcome σ' ι'} (h : Executed p p' k o) (hj : j ∈ part g p') :
    j ∈ o.created.filterMap g ∨ j ∈ part g p := by
  rcases List.mem_filterMap.mp hj with ⟨i, hi, hg⟩
  rcases List.mem_flatten.mp hi with ⟨q, hq, hiq⟩
  rcases h.pending ⟨q, hq, hiq⟩ with hnew | hold
  · exact Or.inl (List.mem_filterMap.mpr ⟨i, hnew, hg⟩)
  · exact Or.inr (mem_part hold hg)

end Pool
end Foundation
end LeoOne
