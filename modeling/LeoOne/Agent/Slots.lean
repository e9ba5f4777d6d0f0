import Mathlib.Algebra.BigOperators.Group.Finset.Piecewise
import LeoOne.Foundation.Owned
import LeoOne.Agent.CommandReplies

/-!
# Execution slots

A slot is reserved before the context of a command is allocated and released by
whoever is last in charge of the command: the WebSocket thread when the
allocation or the creation of the thread fails, the thread itself otherwise.

Every step works for the message it comes from, and the reservations, refusals
and releases are entered in a journal under the ticket of the message.  The slot
of a command is then a token that each step hands on, and the counter is the
number of tokens.
-/

namespace LeoOne
namespace Agent

open Foundation
open Wire

/-- The steps of a command whose slot is reserved and not yet released. -/
def Task.holdsSlot : Task -> Bool
  | allocate _ _ _ => true
  | spawn _ _ _ => true
  | run _ _ _ => true
  | aptInstall _ _ _ _ => true
  | systemctl _ _ _ => true
  | release => true
  | _ => false

def Task.isReserve : Task -> Bool
  | reserve _ _ _ => true
  | _ => false

/-- What happens to a slot. -/
inductive SlotMark where
  | reserved
  | refused
  | released
  deriving DecidableEq

/-- The entries that a step makes in the journal. -/
def slotMark (k : Task) (_ : Input) (s : AgentState) : List SlotMark :=
  match k with
  | Task.reserve _ _ _ =>
      if execMaxConcurrent ≤ s.execActiveCount then [SlotMark.refused]
      else [SlotMark.reserved]
  | Task.release => [SlotMark.released]
  | _ => []

/-- A message is its own owner; every other step works for the message of the step
before it. -/
def slotOwner (ticket : Nat) (k : Task) (s : AgentState) : Nat :=
  match k with
  | Task.receive _ => s.received.length
  | _ => ticket

abbrev SlotState := Pool (Pool.Journaled AgentState Nat SlotMark) (Nat × Task)

/-- The agent, with the journal of its slots. -/
def slotAgent (cJSONParse : List UInt8 -> Option Json) : Machine SlotState Event :=
  Pool.ownedMachine 0 (fun text => [Task.receive text]) (perform cJSONParse) slotOwner
    slotMark

def slotStart : SlotState := Pool.annotate 0 agentStart

/-- The number of entries of a kind for a ticket. -/
def entries (m : SlotMark) (ticket : Nat) (p : SlotState) : Nat :=
  p.shared.journal.countP fun e => e.1 = ticket && e.2 = m

/-- The commands that were accepted and have not come to their end. -/
def unfinished (p : SlotState) : List Nat :=
  (List.range p.shared.state.received.length).filter fun ticket =>
    entries SlotMark.released ticket p < entries SlotMark.reserved ticket p

/-!
## The token
-/

/-- Whatever a command thread calls and whatever comes of it, one step holds the
slot. -/
theorem holdsSlot_runOrder (x : Input) (ticket : Nat) (id : List UInt8)
    (order : Order) :
    (runOrder x ticket id order).2.countP Task.holdsSlot = 1 ∧
      (runOrder x ticket id order).2.countP Task.isReserve = 0 := by
  cases order with
  | installPkg names timeoutSecs =>
      simp only [runOrder]
      split
      · exact ⟨rfl, rfl⟩
      · exact ⟨rfl, rfl⟩
  | reboot delaySec timeoutSecs =>
      simp only [runOrder]
      split
      · exact ⟨rfl, rfl⟩
      · exact ⟨rfl, rfl⟩
  | script | installPatches | fileTransfer | collectInventory =>
      exact ⟨rfl, rfl⟩

/-- What a step does to the slots: a text arrives, a slot is reserved or refused,
the token is handed on, or it is given back. -/
inductive Slots (s : AgentState) :
    Task -> List SlotMark -> AgentState -> List Task -> Prop where
  | arrived {text created} :
      created.countP Task.holdsSlot = 0 -> created.countP Task.isReserve ≤ 1 ->
      Slots s (Task.receive text) [] { s with received := s.received ++ [text] } created
  | refused {ticket id order created} :
      created.countP Task.holdsSlot = 0 -> created.countP Task.isReserve = 0 ->
      Slots s (Task.reserve ticket id order) [SlotMark.refused] s created
  | reserved {ticket id order created} :
      s.execActiveCount < execMaxConcurrent ->
      created.countP Task.holdsSlot = 1 -> created.countP Task.isReserve = 0 ->
      Slots s (Task.reserve ticket id order) [SlotMark.reserved]
        { s with execActiveCount := s.execActiveCount + 1 } created
  | handed {k t created} :
      k.isReserve = false ->
      (forall n, slotOwner n k s = n) ->
      t.execActiveCount = s.execActiveCount -> t.received = s.received ->
      created.countP Task.holdsSlot = [k].countP Task.holdsSlot ->
      created.countP Task.isReserve = 0 ->
      Slots s k [] t created
  | released :
      Slots s Task.release [SlotMark.released]
        { s with execActiveCount := s.execActiveCount - 1 } []

theorem slots_receive {cJSONParse : List UInt8 -> Option Json} {x : Input}
    {s : AgentState} {text : List UInt8} {o : Outcome AgentState Task}
    (h : perform cJSONParse (Task.receive text) x s = some o) :
    Slots s (Task.receive text) [] o.shared o.created := by
  simp only [perform] at h
  split at h
  · cases h
    exact Slots.arrived rfl (Nat.zero_le 1)
  · split at h
    · cases h
      exact Slots.arrived rfl (Nat.zero_le 1)
    · cases h
      exact Slots.arrived rfl (Nat.zero_le 1)
    · cases h
      exact Slots.arrived rfl (Nat.le_refl 1)

theorem slots_perform {cJSONParse : List UInt8 -> Option Json} {x : Input}
    {s : AgentState} {k : Task} {o : Outcome AgentState Task}
    (h : perform cJSONParse k x s = some o) :
    Slots s k (slotMark k x s) o.shared o.created := by
  cases k with
  | receive text =>
      exact slots_receive h
  | reserve ticket id order =>
      simp only [perform] at h
      simp only [slotMark]
      split at h
      · rename_i hfull
        rw [if_pos hfull]
        cases h
        exact Slots.refused rfl rfl
      · rename_i hfree
        rw [if_neg hfree]
        cases h
        exact Slots.reserved (Int.not_le.mp hfree) rfl rfl
  | allocate ticket id order =>
      simp only [perform] at h
      split at h
      · cases h
        exact Slots.handed rfl (fun _ => rfl) rfl rfl rfl rfl
      · cases h
        exact Slots.handed rfl (fun _ => rfl) rfl rfl rfl rfl
  | spawn ticket id order =>
      simp only [perform] at h
      split at h
      · cases h
        exact Slots.handed rfl (fun _ => rfl) rfl rfl rfl rfl
      · cases h
        exact Slots.handed rfl (fun _ => rfl) rfl rfl rfl rfl
  | run ticket id order =>
      cases h
      have hone := holdsSlot_runOrder x ticket id order
      refine Slots.handed rfl (fun _ => rfl) rfl rfl ?_ ?_
      · simp only [andThen, Outcome.created, List.flatten_nil, List.append_nil]
        exact hone.left
      · simp only [andThen, Outcome.created, List.flatten_nil, List.append_nil]
        exact hone.right
  | aptInstall ticket id names timeoutSecs =>
      cases h
      exact Slots.handed rfl (fun _ => rfl) rfl rfl rfl rfl
  | systemctl ticket id timeoutSecs =>
      cases h
      exact Slots.handed rfl (fun _ => rfl) rfl rfl rfl rfl
  | send ticket result =>
      simp only [perform] at h
      split at h
      · cases h
        exact Slots.handed rfl (fun _ => rfl) rfl rfl rfl rfl
      · cases h
        exact Slots.handed rfl (fun _ => rfl) rfl rfl rfl rfl
  | release =>
      cases h
      exact Slots.released

/-!
## The law of the slots
-/

def holder (k : Nat × Task) : Bool :=
  k.2.holdsSlot

def holderOf (ticket : Nat) (k : Nat × Task) : Bool :=
  k.1 = ticket && k.2.holdsSlot

def reserverOf (ticket : Nat) (k : Nat × Task) : Bool :=
  k.1 = ticket && k.2.isReserve

/-- The counter is the number of tokens; the reservations of a ticket are those
that were released and those whose token is still there; a ticket asks for a slot
once. -/
structure SlotLaw (p : SlotState) : Prop where
  count : p.shared.state.execActiveCount = Pool.pendingCount holder p
  bound : p.shared.state.execActiveCount ≤ execMaxConcurrent
  balance : forall ticket, entries SlotMark.reserved ticket p =
    entries SlotMark.released ticket p + Pool.pendingCount (holderOf ticket) p
  single : forall ticket, entries SlotMark.reserved ticket p +
    entries SlotMark.refused ticket p + Pool.pendingCount (reserverOf ticket) p ≤ 1
  known : forall n k, p.Pending (n, k) -> (k.holdsSlot || k.isReserve) = true ->
    n < p.shared.state.received.length
  recorded : forall e, e ∈ p.shared.journal -> e.1 < p.shared.state.received.length

theorem countP_holder (n : Nat) (ks : List Task) :
    (ks.map (Prod.mk n)).countP holder = ks.countP Task.holdsSlot := by
  rw [List.countP_map]
  rfl

theorem countP_holderOf (ticket n : Nat) (ks : List Task) :
    (ks.map (Prod.mk n)).countP (holderOf ticket) =
      if n = ticket then ks.countP Task.holdsSlot else 0 := by
  rw [List.countP_map]
  split
  · rename_i heq
    apply List.countP_congr
    intro k _
    simp [holderOf, heq]
  · rename_i hne
    apply List.countP_eq_zero.mpr
    intro k _
    simp [holderOf, hne]

theorem countP_reserverOf (ticket n : Nat) (ks : List Task) :
    (ks.map (Prod.mk n)).countP (reserverOf ticket) =
      if n = ticket then ks.countP Task.isReserve else 0 := by
  rw [List.countP_map]
  split
  · rename_i heq
    apply List.countP_congr
    intro k _
    simp [reserverOf, heq]
  · rename_i hne
    apply List.countP_eq_zero.mpr
    intro k _
    simp [reserverOf, hne]

/-- The entries that a step adds, for one ticket. -/
def marks (m : SlotMark) (ticket n : Nat) (ms : List SlotMark) : Nat :=
  if n = ticket then ms.count m else 0

/-- A step of the annotated agent, as far as the slots are concerned: the ticket it
works for, the entries it makes and the change of every count. -/
structure SlotStep (p p' : SlotState) (n m : Nat) (k : Task) (ms : List SlotMark)
    (created : List Task) : Prop where
  slots : Slots p.shared.state k ms p'.shared.state created
  owner : m = slotOwner n k p.shared.state
  running : p.Pending (n, k)
  noted : forall mark ticket,
    entries mark ticket p' = entries mark ticket p + marks mark ticket m ms
  journal : forall e, e ∈ p'.shared.journal -> e ∈ p.shared.journal ∨ e.1 = m ∧ ms ≠ []
  pending : forall n' j, p'.Pending (n', j) -> (n' = m ∧ j ∈ created) ∨ p.Pending (n', j)
  holders : Pool.pendingCount holder p' + [k].countP Task.holdsSlot =
    Pool.pendingCount holder p + created.countP Task.holdsSlot
  holdersOf : forall ticket,
    Pool.pendingCount (holderOf ticket) p' +
        (if n = ticket then [k].countP Task.holdsSlot else 0) =
      Pool.pendingCount (holderOf ticket) p +
        (if m = ticket then created.countP Task.holdsSlot else 0)
  reserversOf : forall ticket,
    Pool.pendingCount (reserverOf ticket) p' +
        (if n = ticket then [k].countP Task.isReserve else 0) =
      Pool.pendingCount (reserverOf ticket) p +
        (if m = ticket then created.countP Task.isReserve else 0)

theorem slotStep {cJSONParse : List UInt8 -> Option Json} {p p' : SlotState}
    {x : Input} {n : Nat} {k : Task}
    {o : Outcome (Pool.Journaled AgentState Nat SlotMark) (Nat × Task)}
    (hperform : Pool.owned (perform cJSONParse) slotOwner slotMark (n, k) x p.shared =
      some o)
    (hexec : Pool.Executed p p' (n, k) o) :
    exists m ms created, SlotStep p p' n m k ms created := by
  unfold Pool.owned at hperform
  split at hperform
  · cases hperform
  · rename_i o' ho'
    cases hperform
    have hslots := slots_perform ho'
    have hcreated : forall m : Nat,
        o'.cont.map (Prod.mk m) ++ (o'.spawned.map (List.map (Prod.mk m))).flatten =
          o'.created.map (Prod.mk m) := by
      intro m
      rw [Outcome.created, List.map_append, List.map_flatten]
    refine ⟨slotOwner n k p.shared.state, slotMark k x p.shared.state, o'.created, ?_⟩
    have hshared := hexec.shared
    constructor
    · rw [hshared]
      exact hslots
    · rfl
    · exact hexec.running
    · intro mark ticket
      unfold entries marks
      rw [hshared]
      simp only [List.countP_append, List.countP_map]
      rw [Nat.add_comm]
      congr 1
      split
      · rename_i heq
        rw [List.count]
        apply List.countP_congr
        intro e _
        simp [heq]
      · rename_i hne
        apply List.countP_eq_zero.mpr
        intro e _
        simp [hne]
    · intro e he
      rw [hshared] at he
      rcases List.mem_append.mp he with hnew | hold
      · rcases List.mem_map.mp hnew with ⟨mark, hmark, heq⟩
        right
        rw [← heq]
        refine ⟨rfl, ?_⟩
        intro hnil
        have hnil' : slotMark k x p.shared.state = [] := hnil
        rw [hnil'] at hmark
        cases hmark
      · exact Or.inl hold
    · intro n' j hj
      rcases hexec.pending hj with hnew | hold
      · left
        rw [Outcome.created, hcreated] at hnew
        rcases List.mem_map.mp hnew with ⟨j', hj', heq⟩
        cases heq
        exact ⟨rfl, hj'⟩
      · exact Or.inr hold
    · have hcount := hexec.count holder
      rw [Outcome.created, hcreated, countP_holder] at hcount
      exact hcount
    · intro ticket
      have hcount := hexec.count (holderOf ticket)
      rw [Outcome.created, hcreated, countP_holderOf] at hcount
      rw [← countP_holderOf]
      exact hcount
    · intro ticket
      have hcount := hexec.count (reserverOf ticket)
      rw [Outcome.created, hcreated, countP_reserverOf] at hcount
      rw [← countP_reserverOf]
      exact hcount

/-- A ticket that is not given yet has no entry and no step. -/
theorem SlotLaw.fresh {p : SlotState} (h : SlotLaw p) {ticket : Nat}
    (hfresh : p.shared.state.received.length ≤ ticket) :
    (forall m, entries m ticket p = 0) ∧
      Pool.pendingCount (holderOf ticket) p = 0 ∧
      Pool.pendingCount (reserverOf ticket) p = 0 := by
  refine ⟨?_, ?_, ?_⟩
  · intro m
    apply List.countP_eq_zero.mpr
    intro e he
    have hlt := h.recorded e he
    have hne : e.1 ≠ ticket := Nat.ne_of_lt (Nat.lt_of_lt_of_le hlt hfresh)
    simp [hne]
  · apply Pool.pendingCount_eq_zero
    rintro ⟨n, k⟩ hk
    cases hholds : k.holdsSlot with
    | false =>
        simp [holderOf, hholds]
    | true =>
        have hlt := h.known n k hk (by simp [hholds])
        have hne : n ≠ ticket := Nat.ne_of_lt (Nat.lt_of_lt_of_le hlt hfresh)
        simp [holderOf, hne]
  · apply Pool.pendingCount_eq_zero
    rintro ⟨n, k⟩ hk
    cases hreserve : k.isReserve with
    | false =>
        simp [reserverOf, hreserve]
    | true =>
        have hlt := h.known n k hk (by simp [hreserve])
        have hne : n ≠ ticket := Nat.ne_of_lt (Nat.lt_of_lt_of_le hlt hfresh)
        simp [reserverOf, hne]

theorem Slots.received_le {s t : AgentState} {k : Task} {ms : List SlotMark}
    {created : List Task} (h : Slots s k ms t created) :
    s.received.length ≤ t.received.length := by
  cases h with
  | arrived =>
      rw [List.length_append]
      exact Nat.le_add_right _ _
  | handed _ _ _ hreceived =>
      rw [hreceived]
  | refused | reserved | released =>
      exact Nat.le_refl _

/-- The ticket a step works for has been given, if it concerns a slot. -/
theorem SlotStep.owner_known {p p' : SlotState} {n m : Nat} {k : Task}
    {ms : List SlotMark} {created : List Task} (hlaw : SlotLaw p)
    (h : SlotStep p p' n m k ms created)
    (hconcerns : ms ≠ [] ∨ created.countP Task.holdsSlot ≠ 0 ∨
      created.countP Task.isReserve ≠ 0) :
    m < p'.shared.state.received.length := by
  have howner := h.owner
  have hslots := h.slots
  generalize p'.shared.state = t at hslots
  cases hslots with
  | arrived =>
      rw [List.length_append, howner]
      exact Nat.lt_succ_self _
  | refused | reserved | released =>
      rw [howner]
      exact hlaw.known n _ h.running rfl
  | handed _ hsame _ hreceived hholds hreserve =>
      rw [hreceived, howner, hsame]
      apply hlaw.known n k h.running
      rcases hconcerns with hms | hcreated | hcreated
      · exact absurd rfl hms
      · rw [hholds, List.countP_singleton] at hcreated
        cases hk : k.holdsSlot with
        | true => rfl
        | false => simp [hk] at hcreated
      · exact absurd hreserve hcreated

/-- What a step does to the tokens and to the counter. -/
theorem SlotStep.count {p p' : SlotState} {n m : Nat} {k : Task} {ms : List SlotMark}
    {created : List Task} (h : SlotStep p p' n m k ms created) :
    p'.shared.state.execActiveCount + Pool.pendingCount holder p =
      p.shared.state.execActiveCount + Pool.pendingCount holder p' := by
  have hholders := h.holders
  have hslots := h.slots
  generalize p'.shared.state = t at hslots
  cases hslots with
  | arrived hholds | refused hholds | reserved _ hholds =>
      simp [Task.holdsSlot, hholds] at hholders ⊢
      omega
  | handed _ _ hsame _ hholds =>
      rw [hsame]
      omega
  | released =>
      simp [Task.holdsSlot] at hholders ⊢
      omega

/-- What a step does to the reservations, releases and tokens of one ticket. -/
theorem SlotStep.balance {p p' : SlotState} {n m : Nat} {k : Task}
    {ms : List SlotMark} {created : List Task} (h : SlotStep p p' n m k ms created)
    (ticket : Nat) :
    entries SlotMark.reserved ticket p' + entries SlotMark.released ticket p +
        Pool.pendingCount (holderOf ticket) p =
      entries SlotMark.reserved ticket p + entries SlotMark.released ticket p' +
        Pool.pendingCount (holderOf ticket) p' := by
  have hof := h.holdersOf ticket
  have howner := h.owner
  have hslots := h.slots
  rw [h.noted, h.noted]
  generalize p'.shared.state = t at hslots
  cases hslots with
  | arrived hholds | refused hholds =>
      simp [Task.holdsSlot, hholds, marks] at hof ⊢
      omega
  | reserved _ hholds =>
      replace howner : m = n := howner
      subst howner
      simp only [Task.holdsSlot, hholds, marks, List.countP_singleton] at hof ⊢
      by_cases hm : m = ticket
      · simp [hm] at hof ⊢
        omega
      · simp [hm] at hof ⊢
        omega
  | handed _ hsame _ _ hholds =>
      rw [hsame] at howner
      subst howner
      simp [hholds, marks] at hof ⊢
      omega
  | released =>
      replace howner : m = n := howner
      subst howner
      simp only [Task.holdsSlot, marks, List.countP_singleton] at hof ⊢
      by_cases hm : m = ticket
      · simp [hm] at hof ⊢
        omega
      · simp [hm] at hof ⊢
        omega

/-- A ticket asks for a slot once: the request for it is pending, granted or
refused. -/
theorem SlotStep.single {p p' : SlotState} {n m : Nat} {k : Task}
    {ms : List SlotMark} {created : List Task} (hlaw : SlotLaw p)
    (h : SlotStep p p' n m k ms created) (ticket : Nat) :
    entries SlotMark.reserved ticket p' + entries SlotMark.refused ticket p' +
      Pool.pendingCount (reserverOf ticket) p' ≤ 1 := by
  have hbefore := hlaw.single ticket
  have hof := h.reserversOf ticket
  have howner := h.owner
  have hslots := h.slots
  rw [h.noted, h.noted]
  generalize p'.shared.state = t at hslots
  cases hslots with
  | arrived _ hreserve =>
      replace howner : m = p.shared.state.received.length := howner
      simp only [marks, List.count_nil, ite_self, Nat.add_zero]
      by_cases hm : m = ticket
      · have hfresh := hlaw.fresh (Nat.le_of_eq (howner.symm.trans hm))
        rw [hfresh.left, hfresh.left]
        rw [hfresh.right.right, if_pos hm] at hof
        omega
      · rw [if_neg hm] at hof
        omega
  | refused _ hreserve =>
      replace howner : m = n := howner
      subst howner
      simp only [Task.isReserve, hreserve, marks, List.countP_singleton] at hof ⊢
      by_cases hm : m = ticket
      · simp [hm] at hof ⊢
        omega
      · simp [hm] at hof ⊢
        omega
  | reserved _ _ hreserve =>
      replace howner : m = n := howner
      subst howner
      simp only [Task.isReserve, hreserve, marks, List.countP_singleton] at hof ⊢
      by_cases hm : m = ticket
      · simp [hm] at hof ⊢
        omega
      · simp [hm] at hof ⊢
        omega
  | handed _ _ _ _ _ hreserve =>
      simp [hreserve, marks] at hof ⊢
      omega
  | released =>
      simp [Task.isReserve, marks] at hof ⊢
      omega

/-- Each step keeps the law. -/
theorem SlotLaw.step {p p' : SlotState} {n m : Nat} {k : Task} {ms : List SlotMark}
    {created : List Task} (h : SlotLaw p) (hstep : SlotStep p p' n m k ms created) :
    SlotLaw p' := by
  have hslots := hstep.slots
  constructor
  · have hbefore := h.count
    have hcount := hstep.count
    omega
  · have hbound := h.bound
    generalize p'.shared.state = t at hslots
    cases hslots with
    | arrived | refused =>
        exact hbound
    | reserved hfree =>
        exact hfree
    | handed _ _ hsame =>
        rw [hsame]
        exact hbound
    | released =>
        exact Int.le_trans (Int.sub_le_self _ (by decide)) hbound
  · intro ticket
    have hbefore := h.balance ticket
    have hbalance := hstep.balance ticket
    omega
  · exact hstep.single h
  · intro n' j hj hconcerns
    rcases hstep.pending n' j hj with ⟨heq, hcreated⟩ | hold
    · rw [heq]
      apply hstep.owner_known h
      right
      rw [Bool.or_eq_true] at hconcerns
      rcases hconcerns with hholds | hreserve
      · left
        exact Nat.ne_of_gt (List.countP_pos_iff.mpr ⟨j, hcreated, hholds⟩)
      · right
        exact Nat.ne_of_gt (List.countP_pos_iff.mpr ⟨j, hcreated, hreserve⟩)
    · exact Nat.lt_of_lt_of_le (h.known n' j hold hconcerns) hslots.received_le
  · intro e he
    rcases hstep.journal e he with hold | ⟨heq, hms⟩
    · exact Nat.lt_of_lt_of_le (h.recorded e hold) hslots.received_le
    · rw [heq]
      exact hstep.owner_known h (Or.inl hms)

theorem slotLaw_start : SlotLaw slotStart := by
  constructor
  · rfl
  · show (0 : Int) ≤ 4
    decide
  · intro ticket
    rfl
  · intro ticket
    exact Nat.zero_le 1
  · rintro n k ⟨q, hq, _⟩
    cases hq
  · intro e he
    cases he

theorem slotLaw_preserved (cJSONParse : List UInt8 -> Option Json) :
    (slotAgent cJSONParse).Preserves (fun _ _ => True) SlotLaw := by
  intro p e p' h _ hstep
  rcases Pool.step_cases hstep with ⟨text, _, heq⟩ |
    ⟨i, x, ⟨n, k⟩, rest, o, _, hhead, hperform, heq⟩
  · -- a new text is not concerned with slots yet
    replace heq : p' = { p with procs := p.procs ++ [[(0, Task.receive text)]] } := heq
    rw [heq]
    have hstart := Pool.started p [(0, Task.receive text)]
    constructor
    · rw [hstart.count]
      exact h.count
    · exact h.bound
    · intro ticket
      rw [hstart.count]
      simp only [List.countP_singleton, holderOf, Task.holdsSlot, Bool.and_false]
      exact h.balance ticket
    · intro ticket
      rw [hstart.count]
      simp only [List.countP_singleton, reserverOf, Task.isReserve, Bool.and_false]
      exact h.single ticket
    · intro n k hk hconcerns
      rcases hstart.pending hk with hnew | hold
      · cases List.mem_singleton.mp hnew
        cases hconcerns
      · exact h.known n k hold hconcerns
    · exact h.recorded
  · rw [heq]
    rcases slotStep hperform (Pool.executed hhead o) with ⟨m, ms, created, hslot⟩
    exact h.step hslot

/-!
## The counter
-/

/-- Each token is counted under its ticket. -/
theorem sum_holderOf {bound : Nat} {ks : List (Nat × Task)}
    (hbound : forall k, k ∈ ks -> holder k = true -> k.1 < bound) :
    (Finset.range bound).sum (fun ticket => ks.countP (holderOf ticket)) =
      ks.countP holder := by
  induction ks with
  | nil =>
      simp
  | cons k ks ih =>
      have htail := ih fun j hj => hbound j (List.mem_cons_of_mem k hj)
      simp only [List.countP_cons, Finset.sum_add_distrib, htail]
      congr 1
      cases hk : holder k with
      | false =>
          apply Finset.sum_eq_zero
          intro ticket _
          unfold holder at hk
          simp [holderOf, hk]
      | true =>
          have hlt := hbound k List.mem_cons_self hk
          unfold holder at hk
          simp [holderOf, hk, hlt]

/-- A list of tickets, as a sum. -/
theorem length_filter_range (bound : Nat) (f : Nat -> Bool) :
    ((List.range bound).filter f).length =
      (Finset.range bound).sum fun ticket => if f ticket then 1 else 0 := by
  induction bound with
  | zero =>
      rfl
  | succ n ih =>
      rw [List.range_succ, List.filter_append, List.length_append, ih,
        Finset.sum_range_succ]
      congr 1
      cases hf : f n with
      | true => simp [hf]
      | false => simp [hf]

/-- The counter is the number of commands that were accepted and have not come to
their end. -/
theorem SlotLaw.unfinished {p : SlotState} (h : SlotLaw p) :
    p.shared.state.execActiveCount = (unfinished p).length := by
  have hholders : Pool.pendingCount holder p =
      (Finset.range p.shared.state.received.length).sum fun ticket =>
        Pool.pendingCount (holderOf ticket) p := by
    apply (sum_holderOf _).symm
    rintro ⟨n, k⟩ hk hholds
    rcases List.mem_flatten.mp hk with ⟨q, hq, hkq⟩
    apply h.known n k ⟨q, hq, hkq⟩
    unfold holder at hholds
    simp [hholds]
  rw [h.count, hholders]
  unfold Agent.unfinished
  rw [length_filter_range]
  congr 1
  apply Finset.sum_congr rfl
  intro ticket _
  have hbalance := h.balance ticket
  have hsingle := h.single ticket
  split
  · rename_i hlt
    rw [decide_eq_true_eq] at hlt
    omega
  · rename_i hnot
    rw [decide_eq_true_eq] at hnot
    omega

/-- In every run of the agent, the counter lies between 0 and the number of slots
and is the number of commands that were accepted and have not come to their end.
Each message is granted or refused a slot at most once; a slot that was granted is
released at most once, and has been released when no step of the command is left;
one that was refused is never released.  No step can get stuck. -/
theorem execution_slots (cJSONParse : List UInt8 -> Option Json) {es : List Event}
    {q : State} (hrun : (agent cJSONParse).run agentStart es = some q) :
    exists q', (slotAgent cJSONParse).run slotStart es = some q' ∧ q'.forget = q ∧
      0 ≤ q.shared.execActiveCount ∧ q.shared.execActiveCount ≤ execMaxConcurrent ∧
      q.shared.execActiveCount = (unfinished q').length ∧
      (forall ticket,
        entries SlotMark.reserved ticket q' + entries SlotMark.refused ticket q' ≤ 1 ∧
        entries SlotMark.released ticket q' ≤ entries SlotMark.reserved ticket q' ∧
        ((forall k, q'.Pending (ticket, k) -> k.holdsSlot = false) ->
          entries SlotMark.released ticket q' = entries SlotMark.reserved ticket q')) ∧
      forall k, q.Pending k -> forall x, (perform cJSONParse k x q.shared).isSome = true := by
  have hforget : ((slotAgent cJSONParse).run slotStart es).map Pool.forget = some q := by
    rw [← hrun]
    exact (Pool.forget_run slotStart es).trans
      (congrArg (fun p => (agent cJSONParse).run p es) (Pool.forget_annotate agentStart))
  rcases Option.map_eq_some_iff.mp hforget with ⟨q', hrun', hq⟩
  have hlaw := (slotLaw_preserved cJSONParse).run_all slotLaw_start hrun'
  have hstate : q.shared = q'.shared.state := by
    rw [← hq]
    rfl
  refine ⟨q', hrun', hq, ?_, ?_, ?_, ?_, ?_⟩
  · rw [hstate, hlaw.count]
    exact Int.natCast_nonneg _
  · rw [hstate]
    exact hlaw.bound
  · rw [hstate]
    exact hlaw.unfinished
  · intro ticket
    have hbalance := hlaw.balance ticket
    have hsingle := hlaw.single ticket
    refine ⟨by omega, by omega, ?_⟩
    intro hdone
    have hnone : Pool.pendingCount (holderOf ticket) q' = 0 := by
      apply Pool.pendingCount_eq_zero
      rintro ⟨n, k⟩ hk
      by_cases hn : n = ticket
      · subst hn
        simp [holderOf, hdone k hk]
      · simp [holderOf, hn]
    omega
  · intro k _ x
    rcases @perform_some cJSONParse k x q.shared with ⟨o, hperform, _⟩
    rw [hperform]
    rfl

/-- One reboot, from its arrival to its end: its slot is reserved and released. -/
theorem execution_slots_reboot :
    exists q q', (agent Sample.parser).run agentStart Sample.rebootRun = some q ∧
      (slotAgent Sample.parser).run slotStart Sample.rebootRun = some q' ∧
      q.shared.execActiveCount = (unfinished q').length ∧
      entries SlotMark.reserved 0 q' + entries SlotMark.refused 0 q' ≤ 1 := by
  obtain ⟨q, hrun⟩ : exists q,
      (agent Sample.parser).run agentStart Sample.rebootRun = some q := ⟨_, rfl⟩
  rcases execution_slots Sample.parser hrun with
    ⟨q', hrun', _, _, _, hcount, hslots, _⟩
  exact ⟨q, q', hrun, hrun', hcount, (hslots 0).left⟩

end Agent
end LeoOne
