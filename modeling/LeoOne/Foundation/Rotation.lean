import Mathlib.Data.List.Basic
import Mathlib.Order.Lattice

/-!
# Rotated logs

A log in two files: the one that is written to, and the one that was written to before
it.  A rotation makes the first the second and drops what the second held, so the two
together are the end of everything that was logged.
-/

namespace LeoOne
namespace Foundation

/-- What is in the older and in the newer file. -/
structure Rotated (β : Type) where
  archive : List β
  current : List β

namespace Rotated

variable {β : Type}

/-- What a reader of both files finds, the older one first. -/
def text (f : Rotated β) : List β :=
  f.archive ++ f.current

def append (f : Rotated β) (bytes : List β) : Rotated β :=
  { f with current := f.current ++ bytes }

def rotate (f : Rotated β) : Rotated β where
  archive := f.current
  current := []

/-- The files hold the end of all that was logged, and if something is lost the older one
has the size at which a file is rotated. -/
def Keeps (limit : Nat) (all : List β) (f : Rotated β) : Prop :=
  exists dropped, all = dropped ++ f.text ∧ (dropped = [] ∨ limit ≤ f.archive.length)

variable {limit : Nat} {all : List β} {f : Rotated β}

theorem keeps_self (limit : Nat) (f : Rotated β) : f.Keeps limit f.text :=
  ⟨[], rfl, Or.inl rfl⟩

theorem Keeps.append (h : f.Keeps limit all) (bytes : List β) :
    (f.append bytes).Keeps limit (all ++ bytes) := by
  rcases h with ⟨dropped, hall, hlost⟩
  refine ⟨dropped, ?_, hlost⟩
  rw [hall, text, text, List.append_assoc, List.append_assoc]
  rfl

/-- Only a file that has reached its size is rotated. -/
theorem Keeps.rotate (h : f.Keeps limit all) (hfull : limit ≤ f.current.length) :
    f.rotate.Keeps limit all := by
  rcases h with ⟨dropped, hall, _⟩
  refine ⟨dropped ++ f.archive, ?_, Or.inr hfull⟩
  have htext : f.rotate.text = f.current := List.append_nil _
  rw [hall, htext, text, List.append_assoc]

/-- The newest symbols are still there, as many as make a file full. -/
theorem Keeps.newest (h : f.Keeps limit all) {n : Nat} (hn : n ≤ limit) :
    all.drop (all.length - n) = f.text.drop (f.text.length - n) := by
  rcases h with ⟨dropped, hall, hlost⟩
  rcases hlost with hnone | hfull
  · rw [hall, hnone, List.nil_append]
  · have htext : n ≤ f.text.length := by
      rw [text, List.length_append]
      exact Nat.le_trans (Nat.le_trans hn hfull) (Nat.le_add_right _ _)
    have hskip : all.length - n = dropped.length + (f.text.length - n) := by
      rw [hall, List.length_append, Nat.add_sub_assoc htext]
    rw [hskip, hall, ← List.drop_drop, List.drop_left]

/-- Neither file is longer than a bound. -/
structure Within (bound : Nat) (f : Rotated β) : Prop where
  archive : f.archive.length ≤ bound
  current : f.current.length ≤ bound

variable {bound : Nat}

theorem Within.rotate (h : f.Within bound) : f.rotate.Within bound where
  archive := h.current
  current := Nat.zero_le _

/-- What is not yet full may take one more piece. -/
theorem Within.append (h : f.Within bound) {bytes : List β} (hopen : f.current.length < limit)
    (hroom : limit + bytes.length ≤ bound + 1) : (f.append bytes).Within bound where
  archive := h.archive
  current := by
    have hlength : (f.append bytes).current.length = f.current.length + bytes.length :=
      List.length_append
    omega

end Rotated

end Foundation
end LeoOne
