import LeoOne.Agent.Connection

/-!
# The memory of the send queue

`send_queue` of `connection.c` as it lies in memory: slots of `LEO_MAX_MSG_SIZE` bytes
with a length each, and three indices of type `int`.  A slot keeps the bytes of older
messages behind its length.  Each of the two sections under `queue_mutex` that move an
index carries out one operation of a ring.
-/

namespace LeoOne
namespace Agent

open Foundation

/-- `memcpy(dst, src, n)`, for `n` bytes that both have. -/
def memcpy (dst src : List UInt8) (n : Nat) : List UInt8 :=
  src.take n ++ dst.drop n

/-- `queued_msg_t`. -/
structure MsgSlot where
  data : List UInt8
  len : Nat
  deriving DecidableEq

/-- The message in the slot. -/
def MsgSlot.message (slot : MsgSlot) : List UInt8 :=
  slot.data.take slot.len

/-- `send_queue` with its indices. -/
structure SendQueue where
  slot : Int -> MsgSlot
  queueHead : Int
  queueTail : Int
  queueCount : Int

namespace SendQueue

/-- As `calloc` leaves it in `leo_conn_create`. -/
def zeroed : SendQueue where
  slot _ := { data := List.replicate maxMsgSize 0, len := 0 }
  queueHead := 0
  queueTail := 0
  queueCount := 0

/-- The section of `leo_conn_send` for the first `len` bytes of `data`; `none` is
`LEO_ERR_QUEUE_FULL`. -/
def enqueue (q : SendQueue) (data : List UInt8) (len : Nat) : Option SendQueue :=
  if q.queueCount ≥ sendQueueDepth then none
  else
    let slot := q.slot q.queueTail
    let slot := { data := memcpy slot.data data len, len := len }
    some
      { slot := fun i => if i = q.queueTail then slot else q.slot i
        queueHead := q.queueHead
        queueTail := (q.queueTail + 1).tmod sendQueueDepth
        queueCount := q.queueCount + 1 }

/-- The section of `LWS_CALLBACK_CLIENT_WRITEABLE`, with the bytes that it passes to
`lws_write`. -/
def dequeue (q : SendQueue) : Option (List UInt8 × SendQueue) :=
  if q.queueCount > 0 then
    let msg := q.slot q.queueHead
    let copyLen := if msg.len < maxMsgSize then msg.len else maxMsgSize
    some
      (msg.data.take copyLen,
        { q with
          queueHead := (q.queueHead + 1).tmod sendQueueDepth
          queueCount := q.queueCount - 1 })
  else none

/-- The messages in the queue, from the head on. -/
def messages (q : SendQueue) : List (List UInt8) :=
  (List.range q.queueCount.toNat).map fun i : Nat =>
    (q.slot ((q.queueHead + i) % sendQueueDepth)).message

/-!
## The ring
-/

/-- The memory holds the ring. -/
structure Holds (q : SendQueue) (r : Ring (List UInt8) sendQueueDepth) : Prop where
  head : q.queueHead = r.head
  tail : q.queueTail = r.tail
  count : q.queueCount = r.count
  slots : forall i : Nat, i < sendQueueDepth -> (q.slot i).message = r.slot i
  lengths : forall i : Nat, i < sendQueueDepth -> (q.slot i).len ≤ maxMsgSize

theorem holds_zeroed : Holds zeroed (Ring.empty [] (by decide)) where
  head := rfl
  tail := rfl
  count := rfl
  slots _ _ := rfl
  lengths _ _ := Nat.zero_le _

theorem message_memcpy {data old : List UInt8} (h : data.length ≤ maxMsgSize) :
    MsgSlot.message
      { data := memcpy old data (min data.length maxMsgSize)
        len := min data.length maxMsgSize } = data := by
  rw [MsgSlot.message, Nat.min_eq_left h, memcpy, List.take_length]
  exact List.take_left

/-- The next place of an index. -/
theorem tmod_succ (n : Nat) :
    ((n : Int) + 1).tmod sendQueueDepth = (((n + 1) % sendQueueDepth : Nat) : Int) := by
  rw [Int.tmod_eq_emod_of_nonneg (by omega)]
  rfl

variable {q : SendQueue} {r : Ring (List UInt8) sendQueueDepth}

/-- A message goes into the ring whole, unless the ring is full. -/
theorem Holds.enqueue (h : Holds q r) {data : List UInt8}
    (hdata : data.length ≤ maxMsgSize) :
    (q.enqueue data (min data.length maxMsgSize) = none ∧ r.push data = none) ∨
    (exists q' r', q.enqueue data (min data.length maxMsgSize) = some q' ∧
      r.push data = some r' ∧ Holds q' r') := by
  unfold SendQueue.enqueue Ring.push
  by_cases hroom : r.count < sendQueueDepth
  · right
    have hcount : ¬ (q.queueCount ≥ sendQueueDepth) := by
      rw [h.count]
      omega
    rw [if_neg hcount, dif_pos hroom]
    refine ⟨_, _, rfl, rfl, ?_⟩
    constructor
    · exact h.head
    · show (q.queueTail + 1).tmod sendQueueDepth = _
      rw [h.tail]
      exact tmod_succ r.tail
    · show q.queueCount + 1 = ((r.count + 1 : Nat) : Int)
      rw [h.count]
      rfl
    · intro i hi
      simp only [h.tail, Int.natCast_inj]
      by_cases hslot : i = r.tail
      · rw [if_pos hslot, if_pos hslot]
        exact message_memcpy hdata
      · rw [if_neg hslot, if_neg hslot]
        exact h.slots i hi
    · intro i hi
      simp only [h.tail, Int.natCast_inj]
      by_cases hslot : i = r.tail
      · rw [if_pos hslot]
        exact Nat.min_le_right _ _
      · rw [if_neg hslot]
        exact h.lengths i hi
  · left
    have hcount : q.queueCount ≥ sendQueueDepth := by
      rw [h.count]
      omega
    rw [if_pos hcount, dif_neg hroom]
    exact ⟨rfl, rfl⟩

/-- What is written is the first message of the ring. -/
theorem Holds.dequeue (h : Holds q r) :
    (q.dequeue = none ∧ r.pop = none) ∨
    (exists text q' r', q.dequeue = some (text, q') ∧ r.pop = some (text, r') ∧
      Holds q' r') := by
  unfold SendQueue.dequeue Ring.pop
  by_cases hsome : 0 < r.count
  · right
    have hcount : q.queueCount > 0 := by
      rw [h.count]
      omega
    rw [if_pos hcount, dif_pos hsome]
    have hlen := h.lengths r.head r.head_lt
    have hcopy : (if (q.slot q.queueHead).len < maxMsgSize then (q.slot q.queueHead).len
        else maxMsgSize) = (q.slot q.queueHead).len := by
      rw [← h.head] at hlen
      split
      · rfl
      · omega
    have htext : (q.slot q.queueHead).data.take (q.slot q.queueHead).len =
        r.slot r.head := by
      rw [h.head]
      exact h.slots r.head r.head_lt
    simp only [hcopy, htext]
    refine ⟨_, _, _, rfl, rfl, ?_⟩
    constructor
    · show (q.queueHead + 1).tmod sendQueueDepth = _
      rw [h.head]
      exact tmod_succ r.head
    · exact h.tail
    · show q.queueCount - 1 = ((r.count - 1 : Nat) : Int)
      rw [h.count]
      omega
    · exact h.slots
    · exact h.lengths
  · left
    have hcount : ¬ (q.queueCount > 0) := by
      rw [h.count]
      omega
    rw [if_neg hcount, dif_neg hsome]
    exact ⟨rfl, rfl⟩

theorem Holds.messages (h : Holds q r) : q.messages = r.contents := by
  unfold SendQueue.messages Ring.contents
  rw [h.count, Int.toNat_natCast]
  apply List.map_congr_left
  intro i _
  rw [h.head]
  exact h.slots _ (Nat.mod_lt _ (by decide))

theorem Holds.count_nonneg (h : Holds q r) : 0 ≤ q.queueCount := by
  rw [h.count]
  exact Int.natCast_nonneg _

theorem Holds.count_le (h : Holds q r) : q.queueCount ≤ sendQueueDepth := by
  rw [h.count]
  exact Int.ofNat_le.mpr r.count_le

theorem Holds.tail_eq (h : Holds q r) :
    q.queueTail = (q.queueHead + q.queueCount) % sendQueueDepth := by
  rw [h.tail, h.head, h.count, r.tail_eq]
  rfl

end SendQueue
end Agent
end LeoOne
