import Mathlib.Logic.Basic
import Mathlib.Data.List.Basic

/-!
# Buffered channels

The Go channel operations the program uses: a send inside a `select` that has a
`default` branch, a receive, and `close`.  A send on a closed channel and a
second `close` panic; the values buffered before the `close` can still be
received.
-/

namespace LeoOne
namespace Foundation

/-- A buffered channel; it never holds more than its capacity. -/
structure Chan (α : Type) where
  buf : List α
  cap : Nat
  closed : Bool
  bound : buf.length ≤ cap

inductive SendResult (α : Type) where
  | accepted (c : Chan α)
  | full
  | panicked

inductive RecvResult (α : Type) where
  | value (x : α) (c : Chan α)
  | closed
  | blocked

namespace Chan

variable {α : Type}

/-- `make(chan α, cap)`. -/
def make (cap : Nat) : Chan α where
  buf := []
  cap := cap
  closed := false
  bound := Nat.zero_le cap

/-- `select { case c <- x: ... default: ... }`. -/
def trySend (c : Chan α) (x : α) : SendResult α :=
  if c.closed then
    SendResult.panicked
  else if h : c.buf.length < c.cap then
    SendResult.accepted
      { c with
        buf := c.buf ++ [x]
        bound := by
          rw [List.length_append]
          exact h }
  else
    SendResult.full

/-- `x, ok := <-c`; `blocked` when there is nothing to receive yet. -/
def recv (c : Chan α) : RecvResult α :=
  match h : c.buf with
  | x :: rest =>
      RecvResult.value x
        { c with
          buf := rest
          bound := by
            have hbound := c.bound
            rw [h, List.length_cons] at hbound
            exact Nat.le_of_succ_le hbound }
  | [] => if c.closed then RecvResult.closed else RecvResult.blocked

/-- `close(c)`; `none` is the panic of a second `close`. -/
def close (c : Chan α) : Option (Chan α) :=
  if c.closed then none else some { c with closed := true }

theorem trySend_accepted {c c' : Chan α} {x : α}
    (h : c.trySend x = SendResult.accepted c') :
    c.closed = false ∧ c.buf.length < c.cap ∧ c'.buf = c.buf ++ [x] ∧
      c'.closed = false ∧ c'.cap = c.cap := by
  unfold trySend at h
  split at h
  · cases h
  · rename_i hopen
    have hfalse : c.closed = false := by simpa using hopen
    split at h
    · rename_i hroom
      cases h
      exact ⟨hfalse, hroom, rfl, hfalse, rfl⟩
    · cases h

theorem trySend_panicked {c : Chan α} {x : α}
    (h : c.trySend x = SendResult.panicked) : c.closed = true := by
  unfold trySend at h
  split at h
  · assumption
  · split at h <;> cases h

theorem trySend_full {c : Chan α} {x : α}
    (h : c.trySend x = SendResult.full) : c.buf.length = c.cap := by
  unfold trySend at h
  split at h
  · cases h
  · split at h
    · cases h
    · have hbound := c.bound
      omega

theorem recv_value {c c' : Chan α} {x : α}
    (h : c.recv = RecvResult.value x c') :
    c.buf = x :: c'.buf ∧ c'.closed = c.closed := by
  unfold recv at h
  split at h
  · rename_i y rest hbuf
    cases h
    exact ⟨hbuf, rfl⟩
  · split at h <;> cases h

theorem recv_of_cons {c : Chan α} {x : α} {rest : List α}
    (h : c.buf = x :: rest) :
    exists c', c.recv = RecvResult.value x c' ∧ c'.buf = rest := by
  unfold recv
  split
  · rename_i y tail hbuf
    rw [h] at hbuf
    cases hbuf
    exact ⟨_, rfl, rfl⟩
  · rename_i hbuf
    rw [h] at hbuf
    cases hbuf

theorem recv_closed {c : Chan α} (h : c.recv = RecvResult.closed) :
    c.buf = [] ∧ c.closed = true := by
  unfold recv at h
  split at h
  · cases h
  · rename_i hbuf
    split at h
    · rename_i hclosed
      exact ⟨hbuf, hclosed⟩
    · cases h

theorem close_of_open {c : Chan α} (h : c.closed = false) :
    c.close = some { c with closed := true } := by
  simp [close, h]

end Chan

end Foundation
end LeoOne
