import LeoOne.Agent.ServiceLoop

/-!
# What happens to a message that was accepted

Two laws of the service loop, for every interleaving of the calls with the callbacks.
The queue is a FIFO: what was passed to `lws_write`, followed by what lies in the queue,
is what was accepted.  And a message in the queue of an established connection is never
forgotten: a WRITEABLE callback was asked for, or an event that will ask for one is on
its way.
-/

namespace LeoOne
namespace Agent

open Foundation

theorem created_loopThen (s : LoopState) (tasks : List LoopTask) :
    (loopThen s tasks).created = tasks := by
  simp [loopThen, Outcome.created]

/-!
## The queue
-/

/-- What a step does to the queue. -/
inductive QueueEffect (s : LoopState) (k : LoopTask) (s' : LoopState) : Prop where
  | kept (hqueue : s'.queue = s.queue) (haccepted : s'.accepted = s.accepted)
      (hpassed : s'.passed = s.passed)
  | accepted {data len} (hk : k = LoopTask.enqueue data len)
      (hqueue : s.queue.enqueue data len = some s'.queue)
      (haccepted : s'.accepted = s.accepted ++ [data]) (hpassed : s'.passed = s.passed)
  | passed {text} (hqueue : s.queue.dequeue = some (text, s'.queue))
      (haccepted : s'.accepted = s.accepted) (hpassed : s'.passed = s.passed ++ [text])

theorem queueEffect_write (s : LoopState) (k : LoopTask) (wsi : Nat) :
    QueueEffect s k (s.write wsi) := by
  unfold LoopState.write
  cases hdequeue : s.queue.dequeue with
  | none =>
      exact QueueEffect.kept rfl rfl rfl
  | some r =>
      exact QueueEffect.passed hdequeue rfl rfl

/-!
## The thread
-/

/-- The steps of `_lws_thread`. -/
def LoopTask.isLoop : LoopTask -> Bool
  | send _ | enqueue _ _ | checkCtx _ | cancel _ | stop => false
  | _ => true

/-- There is no connection, nor is one being made. -/
def Lws.Down (l : Lws) : Prop :=
  l.connecting = false ∧ l.established = false

/-- A connection belongs to the context that `lws_ctx` points to, and `wsi` is the
established connection. -/
structure LoopState.Linked (s : LoopState) : Prop where
  current : s.lws.connecting = true ∨ s.lws.established = true ->
    exists ctx, s.lws.context = some ctx ∧ s.lwsCtx = some ctx
  wsi : s.lws.established = true -> s.wsi = s.lws.context

/-- What is known where the thread stands. -/
def AtPlace (s : LoopState) : LoopTask -> Prop
  | LoopTask.connect => s.lws.Down ∧ exists ctx, s.lws.context = some ctx ∧ s.lwsCtx = some ctx
  | LoopTask.greeted wsi => s.lws.established = true ∧ s.lws.context = some wsi
  | LoopTask.again | LoopTask.create | LoopTask.clearCtx _ | LoopTask.clearConnected
  | LoopTask.checkStop | LoopTask.reconnect => s.lws.Down
  | _ => True

theorem LoopState.Linked.of_down {s : LoopState} (h : s.lws.Down) : s.Linked := by
  constructor
  · rintro (hconnecting | hestablished)
    · rw [h.left] at hconnecting
      cases hconnecting
    · rw [h.right] at hestablished
      cases hestablished
  · intro hestablished
    rw [h.right] at hestablished
    cases hestablished

theorem atPlace_of_not_loop {s : LoopState} {k : LoopTask} (h : k.isLoop = false) :
    AtPlace s k := by
  cases k with
  | send _ | enqueue _ _ | checkCtx _ | cancel _ | stop => trivial
  | _ => cases h

/-!
## Wake-ups
-/

/-- The last statement of the ESTABLISHED callback is still to come. -/
def LoopTask.greets : LoopTask -> Bool
  | greeted _ => true
  | _ => false

/-- The callback of an event of `lws_cancel_service` that found messages. -/
def LoopTask.wakes : LoopTask -> Bool
  | wake hasPending => hasPending
  | _ => false

/-- A `leo_conn_send` between its section and its `lws_cancel_service`. -/
def LoopTask.signals : LoopTask -> Bool
  | checkCtx waker | cancel waker => waker = Waker.send
  | _ => false

/-- What a step does to the wake-ups. -/
inductive WakeEffect (s : LoopState) (k : LoopTask) (s' : LoopState)
    (created : List LoopTask) : Prop where
  | down (h : s'.lws.established = false)
  | empty (h : s'.queue.queueCount ≤ 0)
  | armed (h : s'.lws.armed = true)
  | cancelled (h : s'.lws.cancelled = true)
  | created {j} (hj : j ∈ created) (h : j.greets = true ∨ j.wakes = true ∨ j.signals = true)
  | kept (hestablished : s'.lws.established = s.lws.established)
      (hcount : s'.queue.queueCount = s.queue.queueCount)
      (harmed : s.lws.armed = true -> s'.lws.armed = true)
      (hcancelled : s.lws.cancelled = true -> s'.lws.cancelled = true)
      (hk : k.greets = false ∧ k.wakes = false ∧ k.signals = false)

/-- What a step does. -/
structure LoopStep (s : LoopState) (k : LoopTask) (s' : LoopState)
    (created : List LoopTask) : Prop where
  queue : QueueEffect s k s'
  enqueue : forall data len, LoopTask.enqueue data len ∈ created ->
    k = LoopTask.send data ∧ len = min data.length maxMsgSize
  thread : created.countP LoopTask.isLoop ≤ [k].countP LoopTask.isLoop
  linked : s'.Linked
  placed : forall j, j ∈ created -> AtPlace s' j
  others : k.isLoop = false -> forall j, AtPlace s j -> AtPlace s' j
  wake : WakeEffect s k s' created

/-!
## Kinds of steps
-/

/-- A step that does not touch the connection, whatever it does to the requests. -/
structure SameLink (s s' : LoopState) : Prop where
  connecting : s'.lws.connecting = s.lws.connecting
  established : s'.lws.established = s.lws.established
  context : s'.lws.context = s.lws.context
  lwsCtx : s'.lwsCtx = s.lwsCtx
  wsi : s'.wsi = s.wsi

theorem SameLink.linked {s s' : LoopState} (h : SameLink s s') (hlinked : s.Linked) :
    s'.Linked := by
  constructor
  · rw [h.connecting, h.established, h.context, h.lwsCtx]
    exact hlinked.current
  · rw [h.established, h.context, h.wsi]
    exact hlinked.wsi

theorem SameLink.atPlace {s s' : LoopState} (h : SameLink s s') {j : LoopTask}
    (hj : AtPlace s j) : AtPlace s' j := by
  unfold AtPlace Lws.Down at *
  rw [h.connecting, h.established, h.context, h.lwsCtx]
  exact hj

theorem sameLink_callbackOnWritable (s : LoopState) (wsi : Nat) :
    SameLink s { s with lws := s.lws.callbackOnWritable wsi } := by
  unfold Lws.callbackOnWritable
  split
  · exact ⟨rfl, rfl, rfl, rfl, rfl⟩
  · exact ⟨rfl, rfl, rfl, rfl, rfl⟩

theorem sameLink_cancelService (s : LoopState) (ctx : Nat) :
    SameLink s { s with lws := s.lws.cancelService ctx } := by
  unfold Lws.cancelService
  split
  · exact ⟨rfl, rfl, rfl, rfl, rfl⟩
  · exact ⟨rfl, rfl, rfl, rfl, rfl⟩

theorem down_fail (s : LoopState) : s.fail.lws.Down :=
  ⟨rfl, rfl⟩

/-- The thread goes on to its next step, after the messages that a callback sends. -/
theorem LoopStep.thread_sends {s s' : LoopState} {k j : LoopTask} (hk : k.isLoop = true)
    (hj : j.isLoop = true) (texts : List (List UInt8)) (hqueue : QueueEffect s k s')
    (hlinked : s'.Linked) (hplace : AtPlace s' j)
    (hwake : WakeEffect s k s' (texts.map LoopTask.send ++ [j])) :
    LoopStep s k s' (texts.map LoopTask.send ++ [j]) := by
  constructor
  · exact hqueue
  · intro data len hmem
    rcases List.mem_append.mp hmem with hsend | hlast
    · rcases List.mem_map.mp hsend with ⟨text, _, heq⟩
      cases heq
    · rw [← List.mem_singleton.mp hlast] at hj
      cases hj
  · have hnone : (texts.map LoopTask.send).countP LoopTask.isLoop = 0 := by
      apply List.countP_eq_zero.mpr
      intro i hi
      rcases List.mem_map.mp hi with ⟨text, _, rfl⟩
      exact Bool.false_ne_true
    rw [List.countP_append, hnone]
    simp [hk, hj]
  · exact hlinked
  · intro i hi
    rcases List.mem_append.mp hi with hsend | hlast
    · rcases List.mem_map.mp hsend with ⟨text, _, rfl⟩
      trivial
    · rw [List.mem_singleton.mp hlast]
      exact hplace
  · intro hnot
    rw [hk] at hnot
    cases hnot
  · exact hwake

theorem LoopStep.thread_step {s s' : LoopState} {k j : LoopTask} (hk : k.isLoop = true)
    (hj : j.isLoop = true) (hqueue : QueueEffect s k s') (hlinked : s'.Linked)
    (hplace : AtPlace s' j) (hwake : WakeEffect s k s' [j]) : LoopStep s k s' [j] :=
  LoopStep.thread_sends hk hj [] hqueue hlinked hplace hwake

/-- A step of the thread that ends without a connection. -/
theorem LoopStep.down {s s' : LoopState} {k j : LoopTask} (hk : k.isLoop = true)
    (hj : j.isLoop = true) (hqueue : QueueEffect s k s') (hdown : s'.lws.Down)
    (hplace : AtPlace s' j) : LoopStep s k s' [j] :=
  LoopStep.thread_step hk hj hqueue (LoopState.Linked.of_down hdown) hplace
    (WakeEffect.down hdown.right)

/-- A step of the thread that only reads. -/
theorem LoopStep.stays {s : LoopState} {k j : LoopTask} (hk : k.isLoop = true)
    (hj : j.isLoop = true) (hlinked : s.Linked) (hplace : AtPlace s j)
    (hquiet : k.greets = false ∧ k.wakes = false ∧ k.signals = false) :
    LoopStep s k s [j] :=
  LoopStep.thread_step hk hj (QueueEffect.kept rfl rfl rfl) hlinked hplace
    (WakeEffect.kept rfl rfl id id hquiet)

/-- A step of a caller. -/
theorem LoopStep.call {s s' : LoopState} {k : LoopTask} {created : List LoopTask}
    (hcreated : forall j, j ∈ created -> j.isLoop = false)
    (hqueue : QueueEffect s k s')
    (henqueue : forall data len, LoopTask.enqueue data len ∈ created ->
      k = LoopTask.send data ∧ len = min data.length maxMsgSize)
    (hsame : SameLink s s') (hlinked : s.Linked) (hwake : WakeEffect s k s' created) :
    LoopStep s k s' created := by
  constructor
  · exact hqueue
  · exact henqueue
  · have hnone : created.countP LoopTask.isLoop = 0 := by
      apply List.countP_eq_zero.mpr
      intro j hj
      rw [hcreated j hj]
      exact Bool.false_ne_true
    rw [hnone]
    exact Nat.zero_le _
  · exact hsame.linked hlinked
  · intro j hj
    exact atPlace_of_not_loop (hcreated j hj)
  · intro _ j hj
    exact hsame.atPlace hj
  · exact hwake

/-!
## The callbacks
-/

theorem armed_callbackOnWritable {l : Lws} {wsi : Nat} (hestablished : l.established = true)
    (hcontext : l.context = some wsi) : (l.callbackOnWritable wsi).armed = true := by
  rw [Lws.callbackOnWritable, if_pos ⟨hestablished, hcontext⟩]

theorem sameLink_write (s : LoopState) (wsi : Nat) : SameLink s (s.write wsi) := by
  unfold LoopState.write Lws.callbackOnWritable
  split
  · exact ⟨rfl, rfl, rfl, rfl, rfl⟩
  · simp only
    split
    · split
      · exact ⟨rfl, rfl, rfl, rfl, rfl⟩
      · exact ⟨rfl, rfl, rfl, rfl, rfl⟩
    · exact ⟨rfl, rfl, rfl, rfl, rfl⟩

/-- WRITEABLE asks for the next one as long as there are messages. -/
theorem wakeEffect_write {s : LoopState} {k : LoopTask} {ctx : Nat} {created : List LoopTask}
    (hestablished : s.lws.established = true) (hcontext : s.lws.context = some ctx) :
    WakeEffect s k (s.write ctx) created := by
  unfold LoopState.write
  cases hdequeue : s.queue.dequeue with
  | none =>
      apply WakeEffect.empty
      unfold SendQueue.dequeue at hdequeue
      split at hdequeue
      · cases hdequeue
      · rename_i hnone
        exact Int.not_lt.mp hnone
  | some r =>
      rcases r with ⟨text, queue⟩
      by_cases hmore : queue.queueCount > 0
      · apply WakeEffect.armed
        simp only [if_pos hmore]
        exact armed_callbackOnWritable hestablished hcontext
      · exact WakeEffect.empty (Int.not_lt.mp hmore)

theorem loopStep_service {x : LwsChoice} {s : LoopState} {o : Outcome LoopState LoopTask}
    (hlinked : s.Linked) (h : lwsService x s = some o) :
    LoopStep s LoopTask.service o.shared o.created := by
  unfold lwsService at h
  split at h
  · rename_i hello ctx hcontext
    split at h
    · rename_i hconnecting
      cases h
      rw [created_loopThen]
      have hsends : (hello.map LoopTask.send).toList = hello.toList.map LoopTask.send := by
        cases hello with
        | none => rfl
        | some text => rfl
      rw [hsends]
      rcases hlinked.current (Or.inl hconnecting) with ⟨ctx', hctx', hlws⟩
      refine LoopStep.thread_sends rfl rfl hello.toList (QueueEffect.kept rfl rfl rfl) ?_ ?_ ?_
      · constructor
        · intro _
          exact ⟨ctx', hctx', hlws⟩
        · intro _
          exact hcontext.symm
      · exact ⟨rfl, hcontext⟩
      · refine WakeEffect.created (List.mem_append.mpr (Or.inr (List.mem_singleton_self _))) ?_
        exact Or.inl rfl
    · cases h
  · rename_i replies ctx _
    split at h
    · cases h
      rw [created_loopThen]
      exact LoopStep.thread_sends rfl rfl replies (QueueEffect.kept rfl rfl rfl) hlinked trivial
        (WakeEffect.kept rfl rfl id id ⟨rfl, rfl, rfl⟩)
    · cases h
  · rename_i ctx hcontext
    split at h
    · rename_i hestablished
      cases h
      rw [created_loopThen]
      exact LoopStep.thread_step rfl rfl (queueEffect_write s _ ctx)
        ((sameLink_write s ctx).linked hlinked) trivial
        (wakeEffect_write hestablished hcontext)
    · cases h
  · cases h
    rw [created_loopThen]
    refine LoopStep.thread_step rfl rfl (QueueEffect.kept rfl rfl rfl)
      ⟨hlinked.current, hlinked.wsi⟩ trivial ?_
    by_cases hpending : s.queue.queueCount > 0
    · refine WakeEffect.created (List.mem_singleton_self _) (Or.inr (Or.inl ?_))
      exact decide_eq_true hpending
    · exact WakeEffect.empty (Int.not_lt.mp hpending)
  · split at h
    · cases h
      rw [created_loopThen]
      exact LoopStep.down rfl rfl (QueueEffect.kept rfl rfl rfl) (down_fail s) trivial
    · cases h
  · split at h
    · cases h
      rw [created_loopThen]
      exact LoopStep.down rfl rfl (QueueEffect.kept rfl rfl rfl) (down_fail s) trivial
    · cases h
  · have hstays : forall j : LoopTask, j.isLoop = true -> AtPlace s j ->
        LoopStep s LoopTask.service s [j] := by
      intro j hj hplace
      exact LoopStep.stays rfl hj hlinked hplace ⟨rfl, rfl, rfl⟩
    split at h
    · cases h
      exact hstays _ rfl trivial
    · split at h
      · cases h
        exact hstays _ rfl trivial
      · cases h
        exact hstays _ rfl trivial
  · cases h

/-- The last statement of the ESTABLISHED callback. -/
theorem loopStep_greeted {s : LoopState} {wsi : Nat} (hlinked : s.Linked)
    (hplace : AtPlace s (LoopTask.greeted wsi)) :
    LoopStep s (LoopTask.greeted wsi) { s with lws := s.lws.callbackOnWritable wsi }
      [LoopTask.service] :=
  LoopStep.thread_step rfl rfl (QueueEffect.kept rfl rfl rfl)
    ((sameLink_callbackOnWritable s wsi).linked hlinked) trivial
    (WakeEffect.armed (armed_callbackOnWritable hplace.left hplace.right))

/-- The end of EVENT_WAIT_CANCELLED: with messages and an established connection it asks
for a WRITEABLE callback. -/
theorem loopStep_wake {x : LwsChoice} {s : LoopState} {hasPending : Bool}
    {o : Outcome LoopState LoopTask} (hlinked : s.Linked)
    (h : loopPerform (LoopTask.wake hasPending) x s = some o) :
    LoopStep s (LoopTask.wake hasPending) o.shared o.created := by
  have hwsi : s.lws.established = true -> exists ctx, s.lws.context = some ctx ∧
      s.wsi = some ctx := by
    intro hestablished
    rcases hlinked.current (Or.inr hestablished) with ⟨ctx, hcontext, _⟩
    exact ⟨ctx, hcontext, (hlinked.wsi hestablished).trans hcontext⟩
  simp only [loopPerform] at h
  split at h
  · rename_i wsi hset
    cases h
    rw [created_loopThen]
    have hsame := sameLink_callbackOnWritable s wsi
    refine LoopStep.thread_step rfl rfl (QueueEffect.kept rfl rfl rfl)
      (hsame.linked hlinked) trivial ?_
    cases hestablished : s.lws.established with
    | false =>
        exact WakeEffect.down (hsame.established.trans hestablished)
    | true =>
        rcases hwsi hestablished with ⟨ctx, hcontext, hsome⟩
        rw [hset] at hsome
        cases hsome
        exact WakeEffect.armed (armed_callbackOnWritable hestablished hcontext)
  · cases h
    rename_i hasPending _ _ hnot
    rw [created_loopThen]
    cases hasPending with
    | false =>
        exact LoopStep.stays rfl rfl hlinked trivial ⟨rfl, rfl, rfl⟩
    | true =>
        refine LoopStep.thread_step rfl rfl (QueueEffect.kept rfl rfl rfl) hlinked trivial
          (WakeEffect.down ?_)
        apply Bool.eq_false_iff.mpr
        intro hestablished
        rcases hwsi hestablished with ⟨ctx, _, hsome⟩
        exact hnot ctx hsome rfl

/-!
## The rest of the thread
-/

theorem loopStep_connect {x : LwsChoice} {s : LoopState} {o : Outcome LoopState LoopTask}
    (hplace : AtPlace s LoopTask.connect) (h : loopPerform LoopTask.connect x s = some o) :
    LoopStep s LoopTask.connect o.shared o.created := by
  rcases hplace with ⟨hdown, ctx, hcontext, hctx⟩
  simp only [loopPerform] at h
  split at h
  · rename_i error begun
    cases begun with
    | false =>
        rw [if_neg Bool.false_ne_true] at h
        cases h
        rw [created_loopThen]
        cases error with
        | false => exact LoopStep.down rfl rfl (QueueEffect.kept rfl rfl rfl) hdown trivial
        | true =>
            exact LoopStep.down rfl rfl (QueueEffect.kept rfl rfl rfl) (down_fail s) trivial
    | true =>
        rw [if_pos rfl] at h
        cases h
        rw [created_loopThen]
        cases error with
        | false =>
            refine LoopStep.thread_step rfl rfl (QueueEffect.kept rfl rfl rfl) ?_ trivial
              (WakeEffect.down hdown.right)
            constructor
            · intro _
              exact ⟨ctx, hcontext, hctx⟩
            · intro hestablished
              have hup : s.lws.established = true := hestablished
              rw [hdown.right] at hup
              cases hup
        | true =>
            exact LoopStep.down rfl rfl (QueueEffect.kept rfl rfl rfl) (down_fail s) trivial
  · cases h

theorem loopStep_create {x : LwsChoice} {s : LoopState} {o : Outcome LoopState LoopTask}
    (hplace : AtPlace s LoopTask.create) (h : loopPerform LoopTask.create x s = some o) :
    LoopStep s LoopTask.create o.shared o.created := by
  simp only [loopPerform] at h
  split at h
  · cases h
    rw [created_loopThen]
    have hdown : s.lws.createContext.Down := ⟨rfl, rfl⟩
    exact LoopStep.down rfl rfl (QueueEffect.kept rfl rfl rfl) hdown
      ⟨hdown, s.lws.contexts + 1, rfl, rfl⟩
  · cases h
    rw [created_loopThen]
    exact LoopStep.down rfl rfl (QueueEffect.kept rfl rfl rfl) hplace hplace
  · cases h

theorem loopStep_destroy {x : LwsChoice} {s : LoopState} {begun : Bool}
    {o : Outcome LoopState LoopTask}
    (h : loopPerform (LoopTask.destroy begun) x s = some o) :
    LoopStep s (LoopTask.destroy begun) o.shared o.created := by
  simp only [loopPerform] at h
  split at h
  · rename_i closed
    cases h
    rw [created_loopThen]
    have hdown : forall l : Lws, l.contextDestroy.Down := fun _ => ⟨rfl, rfl⟩
    cases closed with
    | false => exact LoopStep.down rfl rfl (QueueEffect.kept rfl rfl rfl) (hdown _) (hdown _)
    | true => exact LoopStep.down rfl rfl (QueueEffect.kept rfl rfl rfl) (hdown _) (hdown _)
  · cases h

/-- Each step of `_lws_thread`. -/
theorem loopStep_thread {k : LoopTask} {x : LwsChoice} {s : LoopState}
    {o : Outcome LoopState LoopTask} (hk : k.isLoop = true) (hlinked : s.Linked)
    (hplace : AtPlace s k) (h : loopPerform k x s = some o) :
    LoopStep s k o.shared o.created := by
  have hif : forall {b : Bool} {i j : LoopTask} (P : LoopTask -> Prop), P i -> P j ->
      P (if b then i else j) := by
    intro b i j P hi hj
    cases b with
    | false => exact hj
    | true => exact hi
  cases k with
  | again | checkStop =>
      cases h
      rw [created_loopThen]
      refine LoopStep.down rfl ?_ (QueueEffect.kept rfl rfl rfl) hplace ?_
      · exact hif (fun j => j.isLoop = true) rfl rfl
      · exact hif (AtPlace s) trivial hplace
  | create => exact loopStep_create hplace h
  | connect => exact loopStep_connect hplace h
  | loop =>
      cases h
      rw [created_loopThen]
      refine LoopStep.stays rfl ?_ hlinked ?_ ⟨rfl, rfl, rfl⟩
      · exact hif (fun j => j.isLoop = true) rfl rfl
      · exact hif (AtPlace s) trivial trivial
  | service =>
      rw [loopPerform_service] at h
      exact loopStep_service hlinked h
  | greeted wsi =>
      cases h
      exact loopStep_greeted hlinked hplace
  | wake hasPending => exact loopStep_wake hlinked h
  | destroy begun => exact loopStep_destroy h
  | clearCtx begun =>
      cases h
      rw [created_loopThen]
      refine LoopStep.down rfl ?_ (QueueEffect.kept rfl rfl rfl) hplace ?_
      · exact hif (fun j => j.isLoop = true) rfl rfl
      · exact hif (AtPlace _) hplace hplace
  | clearConnected =>
      cases h
      exact LoopStep.down rfl rfl (QueueEffect.kept rfl rfl rfl) hplace hplace
  | reconnect =>
      cases h
      rw [created_loopThen]
      generalize min (s.reconnectDelayMs + reconnectStepMs) reconnectMaxMs = delay
      exact LoopStep.down rfl rfl (QueueEffect.kept rfl rfl rfl) hplace hplace
  | exit =>
      cases h
      rw [created_loopThen]
      refine ⟨QueueEffect.kept rfl rfl rfl, ?_, Nat.zero_le _, ⟨hlinked.current, hlinked.wsi⟩,
        ?_, ?_, WakeEffect.kept rfl rfl id id ⟨rfl, rfl, rfl⟩⟩
      · intro data len hmem
        cases hmem
      · intro j hj
        cases hj
      · intro hnot
        cases hnot
  | send _ | enqueue _ _ | checkCtx _ | cancel _ | stop => cases hk

/-!
## The calls
-/

theorem loopStep_send {x : LwsChoice} {s : LoopState} {data : List UInt8}
    {o : Outcome LoopState LoopTask} (hlinked : s.Linked)
    (h : loopPerform (LoopTask.send data) x s = some o) :
    LoopStep s (LoopTask.send data) o.shared o.created := by
  have hquit : LoopStep s (LoopTask.send data) s [] := by
    refine LoopStep.call ?_ (QueueEffect.kept rfl rfl rfl) ?_ ⟨rfl, rfl, rfl, rfl, rfl⟩ hlinked
      (WakeEffect.kept rfl rfl id id ⟨rfl, rfl, rfl⟩)
    · intro j hj
      cases hj
    · intro data' len hmem
      cases hmem
  simp only [loopPerform] at h
  split at h
  · cases h
    exact hquit
  · split at h
    · cases h
      exact hquit
    · cases h
      rw [created_loopThen]
      refine LoopStep.call ?_ (QueueEffect.kept rfl rfl rfl) ?_ ⟨rfl, rfl, rfl, rfl, rfl⟩
        hlinked (WakeEffect.kept rfl rfl id id ⟨rfl, rfl, rfl⟩)
      · intro j hj
        rw [List.mem_singleton.mp hj]
        rfl
      · intro data' len hmem
        cases List.mem_singleton.mp hmem
        exact ⟨rfl, rfl⟩

theorem loopStep_enqueue {x : LwsChoice} {s : LoopState} {data : List UInt8} {len : Nat}
    {o : Outcome LoopState LoopTask} (hlinked : s.Linked)
    (h : loopPerform (LoopTask.enqueue data len) x s = some o) :
    LoopStep s (LoopTask.enqueue data len) o.shared o.created := by
  simp only [loopPerform] at h
  split at h
  · cases h
    rw [created_loopThen]
    refine LoopStep.call ?_ (QueueEffect.kept rfl rfl rfl) ?_ ⟨rfl, rfl, rfl, rfl, rfl⟩ hlinked
      (WakeEffect.kept rfl rfl id id ⟨rfl, rfl, rfl⟩)
    · intro j hj
      cases hj
    · intro data' len' hmem
      cases hmem
  · rename_i queue henqueue
    cases h
    rw [created_loopThen]
    refine LoopStep.call ?_ (QueueEffect.accepted rfl henqueue rfl rfl) ?_
      ⟨rfl, rfl, rfl, rfl, rfl⟩ hlinked
      (WakeEffect.created (List.mem_singleton_self _) (Or.inr (Or.inr rfl)))
    · intro j hj
      rw [List.mem_singleton.mp hj]
      rfl
    · intro data' len' hmem
      cases List.mem_singleton.mp hmem

/-- A connection that is established has its context in `lws_ctx`. -/
theorem loopStep_checkCtx {s : LoopState} {waker : Waker} (hlinked : s.Linked) :
    LoopStep s (LoopTask.checkCtx waker) s
      (if s.lwsCtx.isSome then [LoopTask.cancel waker] else []) := by
  refine LoopStep.call ?_ (QueueEffect.kept rfl rfl rfl) ?_ ⟨rfl, rfl, rfl, rfl, rfl⟩ hlinked ?_
  · intro j hj
    split at hj
    · rw [List.mem_singleton.mp hj]
      rfl
    · cases hj
  · intro data len hmem
    split at hmem
    · cases List.mem_singleton.mp hmem
    · cases hmem
  · cases waker with
    | destroy => exact WakeEffect.kept rfl rfl id id ⟨rfl, rfl, rfl⟩
    | send =>
        cases hestablished : s.lws.established with
        | false => exact WakeEffect.down hestablished
        | true =>
            rcases hlinked.current (Or.inr hestablished) with ⟨ctx, _, hctx⟩
            rw [hctx]
            exact WakeEffect.created (List.mem_singleton_self _) (Or.inr (Or.inr rfl))

theorem loopStep_cancel {x : LwsChoice} {s : LoopState} {waker : Waker}
    {o : Outcome LoopState LoopTask} (hlinked : s.Linked)
    (h : loopPerform (LoopTask.cancel waker) x s = some o) :
    LoopStep s (LoopTask.cancel waker) o.shared o.created := by
  have hnone : forall j : LoopTask, j ∈ [] -> j.isLoop = false := by
    intro j hj
    cases hj
  have hnew : forall data len, LoopTask.enqueue data len ∈ [] ->
      LoopTask.cancel waker = LoopTask.send data ∧ len = min data.length maxMsgSize := by
    intro data len hmem
    cases hmem
  simp only [loopPerform] at h
  split at h
  · rename_i hctx
    cases h
    rw [created_loopThen]
    refine LoopStep.call hnone (QueueEffect.kept rfl rfl rfl) hnew ⟨rfl, rfl, rfl, rfl, rfl⟩
      hlinked (WakeEffect.down ?_)
    apply Bool.eq_false_iff.mpr
    intro hestablished
    rcases hlinked.current (Or.inr hestablished) with ⟨ctx, _, hsome⟩
    rw [hctx] at hsome
    cases hsome
  · rename_i ctx hctx
    cases h
    rw [created_loopThen]
    have hsame := sameLink_cancelService s ctx
    refine LoopStep.call hnone (QueueEffect.kept rfl rfl rfl) hnew hsame hlinked ?_
    cases hestablished : s.lws.established with
    | false => exact WakeEffect.down (hsame.established.trans hestablished)
    | true =>
        rcases hlinked.current (Or.inr hestablished) with ⟨ctx', hcontext, hsome⟩
        rw [hctx] at hsome
        cases hsome
        apply WakeEffect.cancelled
        show (s.lws.cancelService ctx).cancelled = true
        rw [Lws.cancelService, if_pos hcontext]

theorem loopStep_stop {s : LoopState} (hlinked : s.Linked) :
    LoopStep s LoopTask.stop { s with shouldStop := true }
      [LoopTask.checkCtx Waker.destroy] := by
  refine LoopStep.call ?_ (QueueEffect.kept rfl rfl rfl) ?_ ⟨rfl, rfl, rfl, rfl, rfl⟩ hlinked
    (WakeEffect.kept rfl rfl id id ⟨rfl, rfl, rfl⟩)
  · intro j hj
    rw [List.mem_singleton.mp hj]
    rfl
  · intro data len hmem
    cases List.mem_singleton.mp hmem

/-- Each step. -/
theorem loopStep {k : LoopTask} {x : LwsChoice} {s : LoopState}
    {o : Outcome LoopState LoopTask} (hlinked : s.Linked) (hplace : AtPlace s k)
    (h : loopPerform k x s = some o) : LoopStep s k o.shared o.created := by
  cases hk : k.isLoop with
  | true => exact loopStep_thread hk hlinked hplace h
  | false =>
      cases k with
      | send data => exact loopStep_send hlinked h
      | enqueue data len => exact loopStep_enqueue hlinked h
      | checkCtx waker =>
          cases h
          rw [created_loopThen]
          exact loopStep_checkCtx hlinked
      | cancel waker => exact loopStep_cancel hlinked h
      | stop =>
          cases h
          exact loopStep_stop hlinked
      | _ => cases hk

/-!
## The queue is a FIFO
-/

/-- Calls of `leo_conn_send` have at most `LEO_MAX_MSG_SIZE` bytes. -/
def fits (_ : LoopPool) (k : LoopTask) (_ : LwsChoice) : Bool :=
  match k with
  | LoopTask.send data => data.length ≤ maxMsgSize
  | _ => true

/-- There is one service loop, and its connection is the one that the fields name. -/
structure LoopLaw (p : LoopPool) : Prop where
  one : Pool.pendingCount LoopTask.isLoop p ≤ 1
  linked : p.shared.Linked
  placed : forall k, p.Pending k -> AtPlace p.shared k

theorem pending_loopStart {k : LoopTask} (h : loopStart.Pending k) : k = LoopTask.again := by
  rcases h with ⟨q, hq, hk⟩
  cases List.mem_singleton.mp hq
  exact List.mem_singleton.mp hk

theorem loopLaw_start : LoopLaw loopStart := by
  have hdown : loopStart.shared.lws.Down := ⟨rfl, rfl⟩
  refine ⟨Nat.le_refl 1, LoopState.Linked.of_down hdown, ?_⟩
  intro k hk
  rw [pending_loopStart hk]
  exact hdown

theorem isLoop_entry (r : ConnCall) : forall k, k ∈ r.entry -> k.isLoop = false := by
  intro k hk
  cases r with
  | send data =>
      rw [List.mem_singleton.mp hk]
      rfl
  | destroy =>
      rw [List.mem_singleton.mp hk]
      rfl

theorem countP_entry {r : ConnCall} : r.entry.countP LoopTask.isLoop = 0 := by
  apply List.countP_eq_zero.mpr
  intro k hk
  rw [isLoop_entry r k hk]
  exact Bool.false_ne_true

theorem LoopLaw.start {p p' : LoopPool} {r : ConnCall} (h : LoopLaw p)
    (hstart : Pool.Started p p' r.entry) : LoopLaw p' := by
  constructor
  · rw [hstart.count, countP_entry]
    exact h.one
  · rw [hstart.shared]
    exact h.linked
  · intro k hk
    rw [hstart.shared]
    rcases hstart.pending hk with hnew | hold
    · exact atPlace_of_not_loop (isLoop_entry r k hnew)
    · exact h.placed k hold

theorem LoopLaw.step {p p' : LoopPool} {x : LwsChoice} {k : LoopTask}
    {o : Outcome LoopState LoopTask} (h : LoopLaw p)
    (hperform : loopPerform k x p.shared = some o) (hexec : Pool.Executed p p' k o) :
    LoopStep p.shared k o.shared o.created :=
  loopStep h.linked (h.placed k hexec.running) hperform

theorem LoopLaw.exec {p p' : LoopPool} {x : LwsChoice} {k : LoopTask}
    {o : Outcome LoopState LoopTask} (h : LoopLaw p)
    (hperform : loopPerform k x p.shared = some o) (hexec : Pool.Executed p p' k o) :
    LoopLaw p' := by
  have hstep := h.step hperform hexec
  have hone := h.one
  have hthread := hstep.thread
  have hsingle : [k].countP LoopTask.isLoop ≤ 1 := List.countP_le_length
  constructor
  · have hcount := hexec.count LoopTask.isLoop
    omega
  · rw [hexec.shared]
    exact hstep.linked
  · intro j hj
    rw [hexec.shared]
    rcases hexec.pending hj with hnew | hold
    · exact hstep.placed j hnew
    · cases hk : k.isLoop with
      | false => exact hstep.others hk j (h.placed j hold)
      | true =>
          cases hloop : j.isLoop with
          | false => exact atPlace_of_not_loop hloop
          | true =>
              -- the thread has left its old place
              apply hstep.placed
              exact hexec.pending_created hone hk (Nat.le_trans hthread hsingle) hj hloop

/-- The memory holds a ring with the messages that were accepted and not passed on, and
the messages on their way into it fit. -/
structure FifoLaw (p : LoopPool) : Prop where
  loop : LoopLaw p
  ring : exists r, p.shared.queue.Holds r ∧ p.shared.accepted = p.shared.passed ++ r.contents
  sized : forall data len, p.Pending (LoopTask.enqueue data len) ->
    data.length ≤ maxMsgSize ∧ len = min data.length maxMsgSize

theorem fifoLaw_start : FifoLaw loopStart := by
  refine ⟨loopLaw_start, ⟨_, SendQueue.holds_zeroed, rfl⟩, ?_⟩
  intro data len hpending
  cases pending_loopStart hpending

/-- A step of the queue is a step of the ring. -/
theorem QueueEffect.ring {s s' : LoopState} {k : LoopTask} (h : QueueEffect s k s')
    (hsized : forall data len, k = LoopTask.enqueue data len ->
      data.length ≤ maxMsgSize ∧ len = min data.length maxMsgSize)
    {r : Ring (List UInt8) sendQueueDepth} (hholds : s.queue.Holds r)
    (hring : s.accepted = s.passed ++ r.contents) :
    exists r', s'.queue.Holds r' ∧ s'.accepted = s'.passed ++ r'.contents := by
  cases h with
  | kept hqueue haccepted hpassed =>
      rw [hqueue, haccepted, hpassed]
      exact ⟨r, hholds, hring⟩
  | accepted hk hqueue haccepted hpassed =>
      rcases hsized _ _ hk with ⟨hfits, hlen⟩
      rw [hlen] at hqueue
      rcases hholds.enqueue hfits with ⟨hnone, _⟩ | ⟨q', r', hsome, hpush, hholds'⟩
      · rw [hnone] at hqueue
        cases hqueue
      · rw [hsome] at hqueue
        cases hqueue
        refine ⟨r', hholds', ?_⟩
        rw [haccepted, hpassed, hring, (Ring.push_some hpush).right, List.append_assoc]
  | passed hqueue haccepted hpassed =>
      rcases hholds.dequeue with ⟨hnone, _⟩ | ⟨text, q', r', hsome, hpop, hholds'⟩
      · rw [hnone] at hqueue
        cases hqueue
      · rw [hsome] at hqueue
        cases hqueue
        refine ⟨r', hholds', ?_⟩
        rw [haccepted, hpassed, hring, Ring.pop_some hpop, List.append_assoc]
        rfl

theorem fifoLaw_preserved :
    serviceLoop.Preserves (fun p e => Pool.guarded fits p e = true) FifoLaw := by
  apply Pool.preserves
  · intro p p' r h hstart
    refine ⟨h.loop.start hstart, ?_, ?_⟩
    · rw [hstart.shared]
      exact h.ring
    · intro data len hpending
      rcases hstart.pending hpending with hnew | hold
      · cases r with
        | send _ | destroy => cases List.mem_singleton.mp hnew
      · exact h.sized data len hold
  · intro p p' x k o h hfits hperform hexec
    have hstep := h.loop.step hperform hexec
    refine ⟨h.loop.exec hperform hexec, ?_, ?_⟩
    · rcases h.ring with ⟨r, hholds, hring⟩
      rw [hexec.shared]
      refine hstep.queue.ring ?_ hholds hring
      intro data len hk
      apply h.sized
      rw [← hk]
      exact hexec.running
    · intro data len hpending
      rcases hexec.pending hpending with hnew | hold
      · rcases hstep.enqueue data len hnew with ⟨hk, hlen⟩
        rw [hk] at hfits
        exact ⟨of_decide_eq_true hfits, hlen⟩
      · exact h.sized data len hold

/-- The send queue is a FIFO: in every run its indices stay in their bounds, and what was
passed to `lws_write` is a prefix of what was accepted; the rest is in the queue. -/
theorem send_queue_fifo {es : List LoopEvent} {p : LoopPool}
    (hfits : serviceLoop.Meets (fun p e => Pool.guarded fits p e = true) loopStart es)
    (hrun : serviceLoop.run loopStart es = some p) :
    0 ≤ p.shared.queue.queueCount ∧ p.shared.queue.queueCount ≤ sendQueueDepth ∧
    p.shared.queue.queueTail =
      (p.shared.queue.queueHead + p.shared.queue.queueCount) % sendQueueDepth ∧
    p.shared.passed <+: p.shared.accepted ∧
    p.shared.accepted = p.shared.passed ++ p.shared.queue.messages := by
  have hlaw := fifoLaw_preserved.run fifoLaw_start hfits hrun
  rcases hlaw.ring with ⟨r, hholds, hring⟩
  have hall : p.shared.accepted = p.shared.passed ++ p.shared.queue.messages := by
    rw [hholds.messages]
    exact hring
  refine ⟨hholds.count_nonneg, hholds.count_le, hholds.tail_eq, ?_, hall⟩
  rw [hall]
  exact List.prefix_append _ _

namespace Sample

/-- A context, a connection with its HELLO, and a message of another thread. -/
def oneConnection : List LoopEvent :=
  [PoolEvent.exec 0 LwsChoice.closed, PoolEvent.exec 0 (LwsChoice.context true),
    PoolEvent.exec 0 (LwsChoice.connect false true), PoolEvent.exec 0 LwsChoice.closed,
    PoolEvent.exec 0 (LwsChoice.established (some [104])),
    PoolEvent.exec 0 LwsChoice.closed, PoolEvent.exec 0 LwsChoice.closed,
    PoolEvent.start (ConnCall.send [109, 109]), PoolEvent.exec 1 LwsChoice.closed,
    PoolEvent.exec 1 LwsChoice.closed, PoolEvent.exec 0 LwsChoice.closed,
    PoolEvent.exec 0 LwsChoice.closed, PoolEvent.exec 0 LwsChoice.closed,
    PoolEvent.exec 0 LwsChoice.writeable]

end Sample

theorem send_queue_fifo_two :
    exists p, serviceLoop.run loopStart Sample.oneConnection = some p ∧
      p.shared.passed = [[104]] ∧ p.shared.accepted = [[104], [109, 109]] ∧
      p.shared.queue.messages = [[109, 109]] ∧
      p.shared.accepted = p.shared.passed ++ p.shared.queue.messages := by
  have heval : (serviceLoop.run loopStart Sample.oneConnection).map
      (fun p => (p.shared.passed, p.shared.accepted, p.shared.queue.messages)) =
      some ([[104]], [[104], [109, 109]], [[109, 109]]) := by
    decide +kernel
  rcases Option.map_eq_some_iff.mp heval with ⟨p, hrun, hlogs⟩
  have hfits : serviceLoop.Meets (fun p e => Pool.guarded fits p e = true) loopStart
      Sample.oneConnection := by
    decide +kernel
  have hfifo := send_queue_fifo hfits hrun
  exact ⟨p, hrun, congrArg (fun l => l.1) hlogs, congrArg (fun l => l.2.1) hlogs,
    congrArg (fun l => l.2.2) hlogs, hfifo.right.right.right.right⟩

/-!
## No message is stranded
-/

/-- A connection is established: its ESTABLISHED callback has been called and has
returned, and the connection is there still. -/
def Connected (p : LoopPool) : Prop :=
  p.shared.lws.established = true ∧ p.anyPending LoopTask.greets = false

/-- An event of `lws_cancel_service` is pending on the context, from the call on until
its callback has asked for a WRITEABLE callback or has found the queue empty. -/
def CancelPending (p : LoopPool) : Prop :=
  p.shared.lws.cancelled = true ∨ p.anyPending LoopTask.wakes = true

/-- Some `leo_conn_send` is between its section and its `lws_cancel_service`. -/
def SendPending (p : LoopPool) : Prop :=
  p.anyPending LoopTask.signals = true

/-- A WRITEABLE callback was asked for on the connection, or is going to be. -/
def Woken (p : LoopPool) : Prop :=
  p.shared.lws.armed = true ∨ CancelPending p ∨ SendPending p

structure WakeLaw (p : LoopPool) : Prop where
  loop : LoopLaw p
  woken : Connected p -> 0 < p.shared.queue.queueCount -> Woken p

theorem wakeLaw_start : WakeLaw loopStart := by
  refine ⟨loopLaw_start, ?_⟩
  rintro ⟨hestablished, _⟩
  cases hestablished

theorem Woken.start {p p' : LoopPool} {q : List LoopTask} (h : Woken p)
    (hstart : Pool.Started p p' q) : Woken p' := by
  unfold Woken CancelPending SendPending at *
  rw [hstart.shared]
  rcases h with harmed | (hcancelled | hwakes) | hsignals
  · exact Or.inl harmed
  · exact Or.inr (Or.inl (Or.inl hcancelled))
  · exact Or.inr (Or.inl (Or.inr (Pool.anyPending_mono hstart.kept hwakes)))
  · exact Or.inr (Or.inr (Pool.anyPending_mono hstart.kept hsignals))

theorem WakeLaw.exec {p p' : LoopPool} {x : LwsChoice} {k : LoopTask}
    {o : Outcome LoopState LoopTask} (h : WakeLaw p)
    (hperform : loopPerform k x p.shared = some o) (hexec : Pool.Executed p p' k o) :
    WakeLaw p' := by
  refine ⟨h.loop.exec hperform hexec, ?_⟩
  rintro ⟨hestablished, hgreeted⟩ hcount
  unfold Woken CancelPending SendPending
  rw [hexec.shared] at hestablished hcount ⊢
  cases (h.loop.step hperform hexec).wake with
  | down hdown =>
      rw [hdown] at hestablished
      cases hestablished
  | empty hempty =>
      exact absurd hcount (Int.not_lt.mpr hempty)
  | armed harmed => exact Or.inl harmed
  | cancelled hcancelled => exact Or.inr (Or.inl (Or.inl hcancelled))
  | created hj hkind =>
      rcases hkind with hgreets | hwakes | hsignals
      · rw [hexec.anyPending_created hj hgreets] at hgreeted
        cases hgreeted
      · exact Or.inr (Or.inl (Or.inr (hexec.anyPending_created hj hwakes)))
      · exact Or.inr (Or.inr (hexec.anyPending_created hj hsignals))
  | kept hsame hqueue harmed hcancelled hk =>
      rcases hk with ⟨hkgreets, hkwakes, hksignals⟩
      have hold : Connected p := by
        refine ⟨hsame ▸ hestablished, ?_⟩
        apply Bool.eq_false_iff.mpr
        intro hgreets
        rw [hexec.anyPending_kept hgreets hkgreets] at hgreeted
        cases hgreeted
      rw [hqueue] at hcount
      rcases h.woken hold hcount with hwas | (hwas | hwakes) | hsignals
      · exact Or.inl (harmed hwas)
      · exact Or.inr (Or.inl (Or.inl (hcancelled hwas)))
      · exact Or.inr (Or.inl (Or.inr (hexec.anyPending_kept hwakes hkwakes)))
      · exact Or.inr (Or.inr (hexec.anyPending_kept hsignals hksignals))

theorem wakeLaw_preserved :
    serviceLoop.Preserves (fun p e => Pool.guarded (fun _ _ _ => true) p e = true) WakeLaw := by
  apply Pool.preserves
  · intro p p' r h hstart
    refine ⟨h.loop.start hstart, ?_⟩
    rintro ⟨hestablished, hgreeted⟩ hcount
    rw [hstart.shared] at hestablished hcount
    refine (h.woken ⟨hestablished, ?_⟩ hcount).start hstart
    apply Bool.eq_false_iff.mpr
    intro hgreets
    rw [Pool.anyPending_mono hstart.kept hgreets] at hgreeted
    cases hgreeted
  · intro p p' x k o h _ hperform hexec
    exact h.exec hperform hexec

/-- No message is stranded: in every run, when a connection is established and the queue
is not empty, a WRITEABLE callback was asked for, or an event of `lws_cancel_service` is
pending on the context, or a `leo_conn_send` is about to cause one. -/
theorem no_message_stranded {es : List LoopEvent} {p : LoopPool}
    (hrun : serviceLoop.run loopStart es = some p) (hconnected : Connected p)
    (hcount : 0 < p.shared.queue.queueCount) :
    p.shared.lws.armed = true ∨ CancelPending p ∨ SendPending p :=
  (wakeLaw_preserved.run wakeLaw_start Pool.meets_guarded_true hrun).woken hconnected hcount

theorem no_message_stranded_two :
    exists p, serviceLoop.run loopStart Sample.oneConnection = some p ∧ Connected p ∧
      0 < p.shared.queue.queueCount ∧
      (p.shared.lws.armed = true ∨ CancelPending p ∨ SendPending p) := by
  have heval : (serviceLoop.run loopStart Sample.oneConnection).map
      (fun p => (p.shared.lws.established, p.anyPending LoopTask.greets,
        p.shared.queue.queueCount)) = some (true, false, 1) := by
    decide +kernel
  rcases Option.map_eq_some_iff.mp heval with ⟨p, hrun, hstate⟩
  have hconnected : Connected p :=
    ⟨congrArg (fun t => t.1) hstate, congrArg (fun t => t.2.1) hstate⟩
  have hone : p.shared.queue.queueCount = 1 := congrArg (fun t => t.2.2) hstate
  have hcount : 0 < p.shared.queue.queueCount := by
    rw [hone]
    decide
  exact ⟨p, hrun, hconnected, hcount, no_message_stranded hrun hconnected hcount⟩

end Agent
end LeoOne
