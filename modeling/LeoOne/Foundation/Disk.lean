import Mathlib.Data.List.Basic
import Mathlib.Logic.Basic

/-!
# A directory of files

A name refers to a file, and an open file stays readable when its name is removed:
names and contents are kept apart.  A file is written at its end only.
-/

namespace LeoOne
namespace Foundation

/-- The contents of all files that were ever made, and the names that are left. -/
structure Disk (ν β : Type) where
  inodes : List (List β)
  names : List (ν × Nat)

namespace Disk

variable {ν β : Type}

/-- What a reader of the file gets. -/
def contents (d : Disk ν β) (fd : Nat) : List β :=
  d.inodes.getD fd []

/-- `write` at the end of the file. -/
def append (d : Disk ν β) (fd : Nat) (bytes : List β) : Disk ν β :=
  { d with inodes := d.inodes.set fd (d.contents fd ++ bytes) }

theorem contents_append_self {d : Disk ν β} {fd : Nat} (h : fd < d.inodes.length)
    (bytes : List β) : (d.append fd bytes).contents fd = d.contents fd ++ bytes := by
  simp [append, contents, List.getD_eq_getElem?_getD, h]

theorem contents_append_other {d : Disk ν β} {fd fd' : Nat} (h : fd ≠ fd')
    (bytes : List β) : (d.append fd bytes).contents fd' = d.contents fd' := by
  simp [append, contents, List.getD_eq_getElem?_getD, List.getElem?_set_ne h]

variable [DecidableEq ν]

/-- The file that a name refers to. -/
def lookup (d : Disk ν β) (name : ν) : Option Nat :=
  (d.names.find? fun e => e.1 = name).map Prod.snd

/-- `open` with `O_CREAT` and `O_TRUNC`: the file under that name is emptied, or
made. -/
def create (d : Disk ν β) (name : ν) : Disk ν β × Nat :=
  match d.lookup name with
  | some fd => ({ d with inodes := d.inodes.set fd [] }, fd)
  | none =>
      ({ inodes := d.inodes ++ [[]]
         names := d.names ++ [(name, d.inodes.length)] },
        d.inodes.length)

/-- `unlink`. -/
def unlink (d : Disk ν β) (name : ν) : Disk ν β :=
  { d with names := d.names.filter fun e => e.1 ≠ name }

/-!
## What the operations do
-/

variable {d : Disk ν β}

theorem lookup_mem {name : ν} {fd : Nat} (h : d.lookup name = some fd) :
    (name, fd) ∈ d.names := by
  rcases Option.map_eq_some_iff.mp h with ⟨e, he, hfd⟩
  have hname := List.find?_some he
  rw [decide_eq_true_eq] at hname
  subst hname
  subst hfd
  exact List.mem_of_find?_eq_some he

/-- A new name gets a new, empty file. -/
theorem create_new {name : ν} (h : d.lookup name = none) :
    d.create name =
      ({ inodes := d.inodes ++ [[]]
         names := d.names ++ [(name, d.inodes.length)] },
        d.inodes.length) := by
  unfold create
  rw [h]

theorem contents_create_new {name : ν} (h : d.lookup name = none) {fd : Nat}
    (hfd : fd < d.inodes.length) : (d.create name).1.contents fd = d.contents fd := by
  rw [create_new h]
  simp [contents, List.getD_eq_getElem?_getD, List.getElem?_append_left hfd]

theorem contents_created {name : ν} (h : d.lookup name = none) :
    (d.create name).1.contents d.inodes.length = [] := by
  rw [create_new h]
  simp [contents, List.getD_eq_getElem?_getD]

theorem lookup_create_new {name name' : ν} (h : d.lookup name = none) {fd : Nat}
    (hfd : (d.create name).1.lookup name' = some fd) :
    d.lookup name' = some fd ∨ (name' = name ∧ fd = d.inodes.length) := by
  rw [create_new h] at hfd
  unfold lookup at hfd ⊢
  rw [List.find?_append] at hfd
  cases hold : d.names.find? fun e => e.1 = name' with
  | some e =>
      rw [hold] at hfd
      exact Or.inl hfd
  | none =>
      rw [hold, Option.none_or] at hfd
      rcases Option.map_eq_some_iff.mp hfd with ⟨e, he, hsnd⟩
      have hmem := List.mem_singleton.mp (List.mem_of_find?_eq_some he)
      have hname := List.find?_some he
      rw [decide_eq_true_eq] at hname
      subst hmem
      exact Or.inr ⟨hname.symm, hsnd.symm⟩

theorem lookup_unlink {name name' : ν} {fd : Nat}
    (h : (d.unlink name).lookup name' = some fd) :
    d.lookup name' = some fd ∧ name' ≠ name := by
  have hmem := lookup_mem h
  have hne : name' ≠ name := of_decide_eq_true (List.mem_filter.mp hmem).right
  refine ⟨?_, hne⟩
  have hfind : ((d.names.filter fun e => e.1 ≠ name).find? fun e => e.1 = name') =
      d.names.find? fun e => e.1 = name' := by
    rw [List.find?_filter]
    apply congrArg (fun p => d.names.find? p)
    funext e
    by_cases he : e.1 = name'
    · simp [he, hne]
    · simp [he]
  unfold lookup unlink at h
  rw [hfind] at h
  exact h

end Disk

end Foundation
end LeoOne
