import Mathlib.Logic.Basic
import LeoOne.Foundation.Machine

/-!
# Machines with a clock

An event may carry the time at which it happens.  The clocked machine remembers
the time of the last event and refuses events from the past, so its runs are the
runs of the machine in which time never goes back.
-/

namespace LeoOne
namespace Foundation
namespace Machine

variable {σ ε : Type}

/-- The clock after an event; an event without a time leaves it as it is. -/
def tick (time : ε -> Option Nat) (clock : Nat) (e : ε) : Nat :=
  (time e).getD clock

/-- The machine with the time of its last event. -/
def clocked (M : Machine σ ε) (time : ε -> Option Nat) :
    Machine (σ × Nat) ε where
  step s e :=
    if s.2 ≤ tick time s.2 e then
      match M.step s.1 e with
      | none => none
      | some t => some (t, tick time s.2 e)
    else none

variable {M : Machine σ ε} {time : ε -> Option Nat}

/-- A step of the clocked machine is a step of the machine that does not go back
in time. -/
theorem clocked_step {s t : σ} {clock clock' : Nat} {e : ε}
    (h : (M.clocked time).step (s, clock) e = some (t, clock')) :
    M.step s e = some t ∧ clock ≤ clock' ∧ clock' = tick time clock e := by
  simp only [clocked] at h
  split at h
  · rename_i hle
    cases hstep : M.step s e with
    | none =>
        rw [hstep] at h
        cases h
    | some r =>
        rw [hstep] at h
        cases h
        exact ⟨rfl, hle, rfl⟩
  · cases h

end Machine
end Foundation
end LeoOne
