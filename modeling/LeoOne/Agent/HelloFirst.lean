import LeoOne.Agent.Connection

/-!
# HELLO first

Where a connection stands with its HELLO: there is no connection, the HELLO is on its
way to the ring, it is the next message to be written, or it has been written first.
Under the condition on the steps every run goes through these phases in this order,
for each connection.
-/

namespace LeoOne
namespace Agent

open Foundation

/-!
## What a step does
-/

inductive ConnEffect (x : ConnCallback) (s : ConnState) :
    ConnTask -> ConnState -> List ConnTask -> Prop where
  | raised {hello} (hx : x = ConnCallback.established hello) (hdown : s.connected = false) :
      ConnEffect x s ConnTask.callback
        { s with connected := true, connections := s.connections + 1 }
        ((hello.map fun text =>
            ConnTask.send { data := text, hello := some (s.connections + 1) }).toList ++
          [ConnTask.callback])
  | handled {created} (hcreated : forall j, j ∈ created -> j.isHello = false) :
      ConnEffect x s ConnTask.callback s created
  | wrote {fails} (hx : x = ConnCallback.writeable fails) (hup : s.connected = true) :
      ConnEffect x s ConnTask.callback (writeHead fails s) [ConnTask.callback]
  | lowered (hx : x = ConnCallback.closed) (hup : s.connected = true) :
      ConnEffect x s ConnTask.callback { s with connected := false } [ConnTask.callback]
  | dropped {m} (hwhy : m.data = [] ∨ s.connected = false) :
      ConnEffect x s (ConnTask.send m) s []
  | passed {m : QueuedMsg} (hdata : m.data ≠ []) (hup : s.connected = true) :
      ConnEffect x s (ConnTask.send m) s
        [ConnTask.enqueue { m with data := m.data.take maxMsgSize }]
  | refused {m} (hfull : s.queue.count = sendQueueDepth) :
      ConnEffect x s (ConnTask.enqueue m) s []
  | queued {m queue} (hpush : s.queue.push m = some queue) :
      ConnEffect x s (ConnTask.enqueue m) { s with queue := queue } []

theorem created_connThen (s : ConnState) (tasks : List ConnTask) :
    (connThen s tasks).created = tasks := by
  simp [connThen, Outcome.created]

theorem connEffect_callback {x : ConnCallback} {s : ConnState}
    {o : Outcome ConnState ConnTask} (h : lwsCallback x s = some o) :
    ConnEffect x s ConnTask.callback o.shared o.created := by
  have hcallback : forall j, j ∈ [ConnTask.callback] -> j.isHello = false := by
    intro j hj
    cases List.mem_singleton.mp hj
    rfl
  cases x with
  | established hello =>
      simp only [lwsCallback] at h
      split at h
      · cases h
      · rename_i hdown
        cases h
        rw [created_connThen]
        exact ConnEffect.raised rfl (by simpa using hdown)
  | receive replies =>
      simp only [lwsCallback] at h
      split at h
      · cases h
        rw [created_connThen]
        refine ConnEffect.handled ?_
        intro j hj
        rcases List.mem_append.mp hj with hreply | hlast
        · rcases List.mem_map.mp hreply with ⟨text, _, rfl⟩
          rfl
        · exact hcallback j hlast
      · cases h
  | writeable fails =>
      simp only [lwsCallback] at h
      split at h
      · rename_i hup
        cases h
        exact ConnEffect.wrote rfl hup
      · cases h
  | closed =>
      simp only [lwsCallback] at h
      split at h
      · rename_i hup
        cases h
        exact ConnEffect.lowered rfl hup
      · cases h
  | connectionError =>
      simp only [lwsCallback] at h
      split at h
      · cases h
      · rename_i hdown
        cases h
        have hfalse : s.connected = false := by simpa using hdown
        have hsame : { s with connected := false } = s := by
          rw [← hfalse]
        rw [created_connThen]
        show ConnEffect _ s _ { s with connected := false } _
        rw [hsame]
        exact ConnEffect.handled hcallback

theorem connEffect {k : ConnTask} {x : ConnCallback} {s : ConnState}
    {o : Outcome ConnState ConnTask} (h : connPerform k x s = some o) :
    ConnEffect x s k o.shared o.created := by
  cases k with
  | callback =>
      exact connEffect_callback h
  | send m =>
      simp only [connPerform] at h
      split at h
      · rename_i hempty
        cases h
        exact ConnEffect.dropped (Or.inl hempty)
      · rename_i hdata
        split at h
        · rename_i hdown
          cases h
          exact ConnEffect.dropped (Or.inr (by simpa using hdown))
        · rename_i hup
          cases h
          exact ConnEffect.passed hdata (by simpa using hup)
  | enqueue m =>
      simp only [connPerform] at h
      split at h
      · rename_i hpush
        cases h
        exact ConnEffect.refused (Ring.push_none hpush)
      · rename_i queue hpush
        cases h
        exact ConnEffect.queued hpush

/-!
## The phases
-/

/-- The first message written on the connection is its HELLO. -/
def ConnState.Greeted (s : ConnState) (n : Nat) : Prop :=
  exists m rest, s.writtenOn n = m :: rest ∧ m.hello = some n

/-- Where the last connection stands, with the number of steps that carry a HELLO; all
connections before it have been greeted. -/
inductive HelloPhase (s : ConnState) (steps : Nat) : Prop where
  | down (hdown : s.connected = false) (hsteps : steps = 0)
      (hpast : forall i, 0 < i -> i ≤ s.connections -> s.Greeted i)
  | greeting (hup : s.connected = true) (hsteps : steps = 1)
      (hempty : s.queue.contents = []) (hnothing : s.writtenOn s.connections = [])
      (hpast : forall i, 0 < i -> i < s.connections -> s.Greeted i)
  | queued (hup : s.connected = true) (hsteps : steps = 0)
      (hhead : exists m rest, s.queue.contents = m :: rest ∧ m.hello = some s.connections)
      (hnothing : s.writtenOn s.connections = [])
      (hpast : forall i, 0 < i -> i < s.connections -> s.Greeted i)
  | greeted (hup : s.connected = true) (hsteps : steps = 0)
      (hpast : forall i, 0 < i -> i ≤ s.connections -> s.Greeted i)

/-- The message that a step carries. -/
def ConnTask.message? : ConnTask -> Option QueuedMsg
  | callback => none
  | send m | enqueue m => some m

/-- Connections are numbered from 1; nothing is written on a connection to come; a HELLO
on its way is that of the last connection; and the last connection is in one of the
phases. -/
structure HelloLaw (p : ConnPool) : Prop where
  positive : p.shared.connected = true -> 0 < p.shared.connections
  known : forall e, e ∈ p.shared.written -> e.1 ≤ p.shared.connections
  carried : forall k m n, p.Pending k -> k.message? = some m -> m.hello = some n ->
    n = p.shared.connections ∧ m.data ≠ []
  phase : HelloPhase p.shared (Pool.pendingCount ConnTask.isHello p)

theorem helloLaw_start : HelloLaw connStart := by
  constructor
  · intro hup
    cases hup
  · intro e he
    cases he
  · rintro k m n ⟨q, hq, hk⟩ hmessage
    cases List.mem_singleton.mp hq
    cases List.mem_singleton.mp hk
    cases hmessage
  · refine HelloPhase.down rfl rfl ?_
    intro i hpos hle
    exact absurd hpos (Nat.not_lt.mpr hle)

theorem writtenOn_new {s : ConnState}
    (hknown : forall e, e ∈ s.written -> e.1 ≤ s.connections) {n : Nat}
    (hn : s.connections < n) : s.writtenOn n = [] := by
  unfold ConnState.writtenOn
  rw [List.map_eq_nil_iff, List.filter_eq_nil_iff]
  intro e he
  have hle := hknown e he
  simp only [decide_eq_true_eq]
  omega

theorem HelloPhase.past {s : ConnState} {steps : Nat} (h : HelloPhase s steps) {i : Nat}
    (hpos : 0 < i) (hlt : i < s.connections) : s.Greeted i := by
  cases h with
  | down _ _ hpast | greeted _ _ hpast => exact hpast i hpos (Nat.le_of_lt hlt)
  | greeting _ _ _ _ hpast | queued _ _ _ _ hpast => exact hpast i hpos hlt

/-- A HELLO on its way means the phase of greeting. -/
theorem HelloPhase.of_pos {s : ConnState} {steps : Nat} (h : HelloPhase s steps)
    (hpos : 0 < steps) :
    s.connected = true ∧ steps = 1 ∧ s.queue.contents = [] ∧
      s.writtenOn s.connections = [] := by
  cases h with
  | greeting hup hsteps hempty hnothing => exact ⟨hup, hsteps, hempty, hnothing⟩
  | down _ hsteps | queued _ hsteps | greeted _ hsteps =>
      rw [hsteps] at hpos
      exact absurd hpos (Nat.lt_irrefl 0)

/-- A connection that is up and on which something has been written is greeted. -/
theorem HelloPhase.of_written {s : ConnState} {steps : Nat} (h : HelloPhase s steps)
    (hup : s.connected = true) (hsome : s.writtenOn s.connections ≠ []) :
    steps = 0 ∧ forall i, 0 < i -> i ≤ s.connections -> s.Greeted i := by
  cases h with
  | down hdown =>
      rw [hup] at hdown
      cases hdown
  | greeting _ _ _ hnothing | queued _ _ _ hnothing =>
      exact absurd hnothing hsome
  | greeted _ hsteps hpast => exact ⟨hsteps, hpast⟩

/-!
## The callbacks
-/

theorem writtenOn_append (s : ConnState) (m : QueuedMsg) (queue n i) :
    ConnState.writtenOn
        { s with queue := queue, written := s.written ++ [(n, m)] } i =
      s.writtenOn i ++ if n = i then [m] else [] := by
  unfold ConnState.writtenOn
  rw [List.filter_append, List.map_append]
  congr 1
  by_cases hn : n = i
  · simp [hn]
  · simp [hn]

/-- A write does not change what was written first. -/
theorem ConnState.Greeted.append {s : ConnState} {i : Nat} (h : s.Greeted i) (m : QueuedMsg)
    (queue n) :
    ConnState.Greeted { s with queue := queue, written := s.written ++ [(n, m)] } i := by
  rcases h with ⟨first, rest, hwritten, hhello⟩
  refine ⟨first, rest ++ if n = i then [m] else [], ?_, hhello⟩
  rw [writtenOn_append, hwritten]
  rfl

/-- The WRITEABLE callback moves the HELLO from the ring to the socket, if it is there
and the write does not fail. -/
theorem HelloPhase.write {s : ConnState} {steps : Nat} (h : HelloPhase s steps)
    {fails : Bool} (hup : s.connected = true)
    (hfails : fails = true -> s.writtenOn s.connections ≠ []) :
    HelloPhase (writeHead fails s) steps := by
  unfold writeHead
  cases hpop : s.queue.pop with
  | none =>
      exact h
  | some r =>
      rcases r with ⟨m, queue⟩
      have hcontents := Ring.pop_some hpop
      cases h with
      | down hdown =>
          rw [hup] at hdown
          cases hdown
      | greeting _ _ hempty =>
          rw [hempty] at hcontents
          cases hcontents
      | queued _ hsteps hhead hnothing hpast =>
          rcases hhead with ⟨m', rest, heq, hhello⟩
          rw [heq] at hcontents
          cases hcontents
          cases hwrite : fails with
          | true => exact absurd hnothing (hfails hwrite)
          | false =>
              refine HelloPhase.greeted hup hsteps ?_
              intro i hpos hle
              rcases Nat.lt_or_eq_of_le hle with hlt | heq
              · exact (hpast i hpos hlt).append m queue s.connections
              · refine ⟨m, [], ?_, ?_⟩
                · have hi : i = s.connections := heq
                  show ConnState.writtenOn
                    { s with queue := queue, written := s.written ++ [(s.connections, m)] }
                      i = [m]
                  rw [writtenOn_append, hi, hnothing, if_pos rfl]
                  rfl
                · rw [hhello, heq]
      | greeted _ hsteps hpast =>
          refine HelloPhase.greeted hup hsteps ?_
          intro i hpos hle
          cases fails with
          | true => exact hpast i hpos hle
          | false => exact (hpast i hpos hle).append m queue s.connections

theorem written_writeHead {fails : Bool} {s : ConnState} {e : Nat × QueuedMsg}
    (h : e ∈ (writeHead fails s).written) : e ∈ s.written ∨ e.1 = s.connections := by
  unfold writeHead at h
  split at h
  · exact Or.inl h
  · cases fails with
    | true => exact Or.inl h
    | false =>
        rcases List.mem_append.mp h with hold | hnew
        · exact Or.inl hold
        · cases List.mem_singleton.mp hnew
          exact Or.inr rfl

theorem connections_writeHead (fails : Bool) (s : ConnState) :
    (writeHead fails s).connections = s.connections := by
  unfold writeHead
  split
  · rfl
  · rfl

/-- A new connection: its HELLO is on the way and the ring is empty. -/
theorem HelloPhase.raise {s : ConnState} {steps : Nat} (h : HelloPhase s steps)
    (hdown : s.connected = false) (hknown : forall e, e ∈ s.written -> e.1 ≤ s.connections)
    (hempty : s.queue.contents = []) :
    steps = 0 ∧
      HelloPhase { s with connected := true, connections := s.connections + 1 } 1 := by
  cases h with
  | down _ hsteps hpast =>
      refine ⟨hsteps, HelloPhase.greeting rfl rfl hempty ?_ ?_⟩
      · exact writtenOn_new hknown (Nat.lt_succ_self s.connections)
      · intro i hpos hlt
        exact hpast i hpos (Nat.le_of_lt_succ hlt)
  | greeting hup | queued hup | greeted hup =>
      rw [hdown] at hup
      cases hup

/-!
## The ring
-/

/-- The HELLO enters the empty ring. -/
theorem HelloPhase.enqueue_hello {s : ConnState} {steps : Nat} (h : HelloPhase s steps)
    (hpos : 0 < steps) {m : QueuedMsg} (hhello : m.hello = some s.connections)
    {queue : Ring QueuedMsg sendQueueDepth} (hpush : s.queue.push m = some queue) :
    HelloPhase { s with queue := queue } 0 := by
  rcases h.of_pos hpos with ⟨hup, _, hempty, hnothing⟩
  refine HelloPhase.queued hup rfl ⟨m, [], ?_, hhello⟩ hnothing ?_
  · rw [(Ring.push_some hpush).right, hempty]
    rfl
  · intro i hpos' hlt
    exact h.past hpos' hlt

/-- Another message enters the ring behind what is there. -/
theorem HelloPhase.enqueue_other {s : ConnState} (h : HelloPhase s 0) {m : QueuedMsg}
    {queue : Ring QueuedMsg sendQueueDepth} (hpush : s.queue.push m = some queue) :
    HelloPhase { s with queue := queue } 0 := by
  cases h with
  | down hdown hsteps hpast => exact HelloPhase.down hdown hsteps hpast
  | greeting _ hsteps => cases hsteps
  | queued hup hsteps hhead hnothing hpast =>
      rcases hhead with ⟨m', rest, heq, hhello⟩
      refine HelloPhase.queued hup hsteps ⟨m', rest ++ [m], ?_, hhello⟩ hnothing hpast
      rw [(Ring.push_some hpush).right, heq]
      rfl
  | greeted hup hsteps hpast => exact HelloPhase.greeted hup hsteps hpast

theorem ConnTask.isHello_iff {k : ConnTask} :
    k.isHello = true <-> exists m n, k.message? = some m ∧ m.hello = some n := by
  cases k with
  | callback => simp [isHello, message?]
  | send m | enqueue m => simp [isHello, message?, Option.isSome_iff_exists]

/-- A HELLO that is on its way is not dropped: it is not empty, the connection is up and
the ring has room. -/
theorem HelloLaw.carrying {p : ConnPool} (h : HelloLaw p) {k : ConnTask} (hk : p.Pending k)
    (hhello : k.isHello = true) :
    p.shared.connected = true ∧ p.shared.queue.count = 0 ∧
      exists m, k.message? = some m ∧ m.hello = some p.shared.connections ∧
        m.data ≠ [] := by
  rcases ConnTask.isHello_iff.mp hhello with ⟨m, n, hmessage, hn⟩
  rcases h.carried k m n hk hmessage hn with ⟨heq, hdata⟩
  rcases h.phase.of_pos (Pool.pendingCount_pos hk hhello) with ⟨hup, _, hempty, _⟩
  refine ⟨hup, ?_, m, hmessage, ?_, hdata⟩
  · rw [← Ring.length_contents, hempty]
    rfl
  · rw [hn, heq]

/-- A step that creates as many steps with a HELLO as it takes away, and establishes no
connection. -/
theorem HelloLaw.keep {p p' : ConnPool} {k : ConnTask} {created : List ConnTask}
    (h : HelloLaw p)
    (hpending : forall {j}, p'.Pending j -> j ∈ created ∨ p.Pending j)
    (hsteps : Pool.pendingCount ConnTask.isHello p' + [k].countP ConnTask.isHello =
      Pool.pendingCount ConnTask.isHello p + created.countP ConnTask.isHello)
    (hsame : [k].countP ConnTask.isHello = created.countP ConnTask.isHello)
    (hcreated : forall j m n, j ∈ created -> j.message? = some m -> m.hello = some n ->
      n = p.shared.connections ∧ m.data ≠ [])
    (hup : p'.shared.connected = true -> p.shared.connected = true)
    (hconnections : p'.shared.connections = p.shared.connections)
    (hknown : forall e, e ∈ p'.shared.written -> e.1 ≤ p.shared.connections)
    (hphase : HelloPhase p'.shared (Pool.pendingCount ConnTask.isHello p)) :
    HelloLaw p' := by
  constructor
  · intro hconnected
    rw [hconnections]
    exact h.positive (hup hconnected)
  · rw [hconnections]
    exact hknown
  · intro j m n hj hmessage hhello
    rw [hconnections]
    rcases hpending hj with hnew | hold
    · exact hcreated j m n hnew hmessage hhello
    · exact h.carried j m n hold hmessage hhello
  · rw [hsame] at hsteps
    rw [Nat.add_right_cancel hsteps]
    exact hphase

theorem countP_isHello {k : ConnTask} {b : Bool} (h : k.isHello = b) :
    [k].countP ConnTask.isHello = b.toNat := by
  rw [List.countP_singleton, h]
  cases b with
  | false => rfl
  | true => rfl

/-- The callback sets `connected` and hands the HELLO to `leo_conn_send`. -/
theorem HelloLaw.raise {p p' : ConnPool} (h : HelloLaw p) {text : List UInt8}
    (htext : text ≠ []) (hdown : p.shared.connected = false)
    (hempty : p.shared.queue.count = 0)
    (hshared : p'.shared =
      { p.shared with connected := true, connections := p.shared.connections + 1 })
    (hpending : forall {j}, p'.Pending j ->
      j ∈ [ConnTask.send { data := text, hello := some (p.shared.connections + 1) },
        ConnTask.callback] ∨ p.Pending j)
    (hsteps : Pool.pendingCount ConnTask.isHello p' =
      Pool.pendingCount ConnTask.isHello p + 1) : HelloLaw p' := by
  rcases h.phase.raise hdown h.known (Ring.contents_eq_nil hempty) with ⟨hnone, hphase⟩
  constructor
  · rw [hshared]
    intro _
    exact Nat.succ_pos p.shared.connections
  · rw [hshared]
    intro e he
    exact Nat.le_succ_of_le (h.known e he)
  · intro j m n hj hmessage hhello
    rw [hshared]
    rcases hpending hj with hnew | hold
    · rcases List.mem_cons.mp hnew with rfl | hlast
      · cases hmessage
        cases hhello
        exact ⟨rfl, htext⟩
      · cases List.mem_singleton.mp hlast
        cases hmessage
    · -- there was no HELLO on its way before
      have hpos := Pool.pendingCount_pos hold
        (ConnTask.isHello_iff.mpr ⟨m, n, hmessage, hhello⟩)
      rw [hnone] at hpos
      cases hpos
  · rw [hshared, hsteps, hnone]
    exact hphase

/-- A step that leaves the state as it is. -/
theorem HelloLaw.unchanged {p p' : ConnPool} {k : ConnTask} {created : List ConnTask}
    (h : HelloLaw p) (hshared : p'.shared = p.shared)
    (hpending : forall {j}, p'.Pending j -> j ∈ created ∨ p.Pending j)
    (hsteps : Pool.pendingCount ConnTask.isHello p' + [k].countP ConnTask.isHello =
      Pool.pendingCount ConnTask.isHello p + created.countP ConnTask.isHello)
    (hsame : [k].countP ConnTask.isHello = created.countP ConnTask.isHello)
    (hcreated : forall j m n, j ∈ created -> j.message? = some m -> m.hello = some n ->
      n = p.shared.connections ∧ m.data ≠ []) : HelloLaw p' := by
  refine h.keep hpending hsteps hsame hcreated ?_ ?_ ?_ ?_
  · rw [hshared]
    exact id
  · rw [hshared]
  · rw [hshared]
    exact h.known
  · rw [hshared]
    exact h.phase

/-- A message is dropped, unless it is a HELLO. -/
theorem HelloLaw.drop {p p' : ConnPool} {k : ConnTask} (h : HelloLaw p)
    (hnot : k.isHello = false) (hshared : p'.shared = p.shared)
    (hpending : forall {j}, p'.Pending j -> j ∈ [] ∨ p.Pending j)
    (hsteps : Pool.pendingCount ConnTask.isHello p' + [k].countP ConnTask.isHello =
      Pool.pendingCount ConnTask.isHello p) : HelloLaw p' := by
  refine h.unchanged hshared hpending hsteps (countP_isHello hnot) ?_
  intro j m n hj
  cases hj

/-- The section of `leo_conn_send` that stores a message in the ring. -/
theorem HelloLaw.enqueue {p p' : ConnPool} {m : QueuedMsg}
    {queue : Ring QueuedMsg sendQueueDepth} (h : HelloLaw p)
    (hrunning : p.Pending (ConnTask.enqueue m))
    (hguard : (ConnTask.enqueue m).isHello = true ∨
      Pool.pendingCount ConnTask.isHello p = 0)
    (hpush : p.shared.queue.push m = some queue)
    (hshared : p'.shared = { p.shared with queue := queue })
    (hpending : forall {j}, p'.Pending j -> j ∈ [] ∨ p.Pending j)
    (hsteps : Pool.pendingCount ConnTask.isHello p' +
        [ConnTask.enqueue m].countP ConnTask.isHello =
      Pool.pendingCount ConnTask.isHello p) : HelloLaw p' := by
  have hphase : HelloPhase p'.shared (Pool.pendingCount ConnTask.isHello p') := by
    rw [hshared]
    cases hhello : (ConnTask.enqueue m).isHello with
    | true =>
        have hpos := Pool.pendingCount_pos hrunning hhello
        rcases h.phase.of_pos hpos with ⟨_, hone, _, _⟩
        rcases h.carrying hrunning hhello with ⟨_, _, m', hmessage, hn, _⟩
        cases hmessage
        rw [countP_isHello hhello, hone] at hsteps
        rw [Nat.add_right_cancel hsteps]
        exact h.phase.enqueue_hello hpos hn hpush
    | false =>
        have hzero : Pool.pendingCount ConnTask.isHello p = 0 := by
          rcases hguard with hcontra | hzero
          · rw [hhello] at hcontra
            cases hcontra
          · exact hzero
        have hphase := h.phase
        rw [countP_isHello hhello, hzero] at hsteps
        rw [hzero] at hphase
        rw [show Pool.pendingCount ConnTask.isHello p' = 0 from hsteps]
        exact hphase.enqueue_other hpush
  constructor
  · rw [hshared]
    exact h.positive
  · rw [hshared]
    exact h.known
  · intro j m' n hj hmessage hhello
    rw [hshared]
    rcases hpending hj with hnew | hold
    · cases hnew
    · exact h.carried j m' n hold hmessage hhello
  · exact hphase

/-- A HELLO is not dropped: its connection is up, and its text is not empty. -/
theorem HelloLaw.not_dropped {p : ConnPool} (h : HelloLaw p) {m : QueuedMsg}
    (hrunning : p.Pending (ConnTask.send m))
    (hwhy : m.data = [] ∨ p.shared.connected = false) :
    (ConnTask.send m).isHello = false := by
  cases hhello : (ConnTask.send m).isHello with
  | false => rfl
  | true =>
      rcases h.carrying hrunning hhello with ⟨hup, _, m', hmessage, _, hdata⟩
      cases hmessage
      rcases hwhy with hnil | hdown
      · exact absurd hnil hdata
      · rw [hup] at hdown
        cases hdown

/-- A HELLO is not refused: it finds an empty ring. -/
theorem HelloLaw.not_refused {p : ConnPool} (h : HelloLaw p) {m : QueuedMsg}
    (hrunning : p.Pending (ConnTask.enqueue m))
    (hfull : p.shared.queue.count = sendQueueDepth) :
    (ConnTask.enqueue m).isHello = false := by
  cases hhello : (ConnTask.enqueue m).isHello with
  | false => rfl
  | true =>
      rcases h.carrying hrunning hhello with ⟨_, hempty, _⟩
      rw [hempty] at hfull
      cases hfull

theorem helloLaw_preserved :
    connection.Preserves (fun p e => Pool.guarded greets p e = true) HelloLaw := by
  apply Pool.preserves
  · intro p p' text h hstarted
    have hsteps := hstarted.count ConnTask.isHello
    refine h.unchanged (k := ConnTask.callback) hstarted.shared hstarted.pending hsteps rfl ?_
    intro j m n hj hmessage hhello
    cases List.mem_singleton.mp hj
    cases hmessage
    cases hhello
  · intro p p' x k o h hguard hperform hexecuted
    have heffect := connEffect hperform
    have hrunning := hexecuted.running
    have hshared := hexecuted.shared
    have hpending : forall {j}, p'.Pending j -> j ∈ o.created ∨ p.Pending j :=
      hexecuted.pending
    have hsteps := hexecuted.count ConnTask.isHello
    generalize o.created = created at heffect hpending hsteps
    generalize o.shared = t at heffect hshared
    have hcallback : forall j m n, j ∈ [ConnTask.callback] -> j.message? = some m ->
        m.hello = some n -> n = p.shared.connections ∧ m.data ≠ [] := by
      intro j m n hj hmessage
      cases List.mem_singleton.mp hj
      cases hmessage
    cases heffect with
    | raised hx hdown =>
        rename_i hello
        subst hx
        simp only [greets, Bool.and_eq_true, decide_eq_true_eq] at hguard
        rcases hguard with ⟨hempty, hbuilt⟩
        cases hello with
        | none => cases hbuilt
        | some text =>
            have htext : text ≠ [] := by simpa using hbuilt
            exact h.raise htext hdown hempty hshared hpending hsteps
    | handled hcreated =>
        have hnone : created.countP ConnTask.isHello = 0 := by
          apply List.countP_eq_zero.mpr
          intro j hj
          simp [hcreated j hj]
        refine h.unchanged hshared hpending hsteps hnone.symm ?_
        intro j m n hj hmessage hhello
        have hnot := hcreated j hj
        rw [ConnTask.isHello_iff.mpr ⟨m, n, hmessage, hhello⟩] at hnot
        cases hnot
    | wrote hx hup =>
        rename_i fails
        subst hx
        refine h.keep hpending hsteps rfl hcallback (fun _ => hup) ?_ ?_ ?_
        · rw [hshared, connections_writeHead]
        · rw [hshared]
          intro e he
          rcases written_writeHead he with hold | hnew
          · exact h.known e hold
          · exact Nat.le_of_eq hnew
        · rw [hshared]
          apply h.phase.write hup
          intro hfails
          simpa [greets, hfails] using hguard
    | lowered hx hup =>
        subst hx
        have hwritten : p.shared.writtenOn p.shared.connections ≠ [] := by
          simpa [greets] using hguard
        rcases h.phase.of_written hup hwritten with ⟨hnone, hpast⟩
        refine h.keep hpending hsteps rfl hcallback (fun _ => hup) ?_ ?_ ?_
        · rw [hshared]
        · rw [hshared]
          exact h.known
        · rw [hshared]
          exact HelloPhase.down rfl hnone hpast
    | dropped hwhy => exact h.drop (h.not_dropped hrunning hwhy) hshared hpending hsteps
    | passed hdata hup =>
        rename_i m
        refine h.unchanged hshared hpending hsteps rfl ?_
        intro j m' n hj hmessage hhello
        cases List.mem_singleton.mp hj
        cases hmessage
        refine ⟨(h.carried _ m n hrunning rfl hhello).left, ?_⟩
        simpa [maxMsgSize] using hdata
    | refused hfull => exact h.drop (h.not_refused hrunning hfull) hshared hpending hsteps
    | queued hpush =>
        rename_i m queue
        refine h.enqueue hrunning ?_ hpush hshared hpending hsteps
        simp only [greets, Bool.or_eq_true, Bool.not_eq_true'] at hguard
        rcases hguard with hhello | hnone
        · exact Or.inl hhello
        · exact Or.inr (Pool.pendingCount_eq_zero (Pool.anyPending_eq_false.mp hnone))

/-!
## Every interleaving
-/

/-- In every interleaving that meets the condition: the first message written on a
connection is its HELLO; a connection that is over has written one; and as long as
nothing is written on the connection that is up, its HELLO is the head of the ring or
on its way there. -/
theorem hello_first {es : List ConnEvent} {q : ConnPool}
    (hrun : connection.run connStart es = some q)
    (hgreets : connection.Meets (fun p e => Pool.guarded greets p e = true) connStart es) :
    (forall n m rest, q.shared.writtenOn n = m :: rest -> 0 < n -> m.hello = some n) ∧
      (forall n, 0 < n -> n ≤ q.shared.connections ->
        n < q.shared.connections ∨ q.shared.connected = false -> q.shared.writtenOn n ≠ []) ∧
      (q.shared.connected = true -> q.shared.writtenOn q.shared.connections = [] ->
        (exists m rest, q.shared.queue.contents = m :: rest ∧
          m.hello = some q.shared.connections) ∨
        q.anyPending ConnTask.isHello = true) := by
  have hlaw := helloLaw_preserved.run helloLaw_start hgreets hrun
  have hover : forall n, 0 < n -> n ≤ q.shared.connections ->
      n < q.shared.connections ∨ q.shared.connected = false -> q.shared.Greeted n := by
    intro n hpos hle hend
    rcases hend with hlt | hdown
    · exact hlaw.phase.past hpos hlt
    · cases hlaw.phase with
      | down _ _ hpast => exact hpast n hpos hle
      | greeting hup | queued hup | greeted hup =>
          rw [hdown] at hup
          cases hup
  refine ⟨?_, ?_, ?_⟩
  · intro n m rest hwritten hpos
    have hle : n ≤ q.shared.connections := by
      apply Nat.le_of_not_lt
      intro hlt
      rw [writtenOn_new hlaw.known hlt] at hwritten
      cases hwritten
    have hgreeted : q.shared.Greeted n := by
      cases hlaw.phase with
      | down _ _ hpast | greeted _ _ hpast => exact hpast n hpos hle
      | greeting _ _ _ hnothing hpast | queued _ _ _ hnothing hpast =>
          rcases Nat.lt_or_eq_of_le hle with hlt | heq
          · exact hpast n hpos hlt
          · rw [heq, hnothing] at hwritten
            cases hwritten
    rcases hgreeted with ⟨m', rest', hfirst, hhello⟩
    rw [hwritten] at hfirst
    cases hfirst
    exact hhello
  · intro n hpos hle hend hnil
    rcases hover n hpos hle hend with ⟨m, rest, hwritten, _⟩
    rw [hnil] at hwritten
    cases hwritten
  · intro hup hnothing
    cases hlaw.phase with
    | down hdown =>
        rw [hup] at hdown
        cases hdown
    | greeting _ hsteps =>
        right
        cases hany : q.anyPending ConnTask.isHello with
        | true => rfl
        | false =>
            rw [Pool.pendingCount_eq_zero (Pool.anyPending_eq_false.mp hany)] at hsteps
            cases hsteps
    | queued _ _ hhead => exact Or.inl hhead
    | greeted _ _ hpast =>
        rcases hpast _ (hlaw.positive hup) (Nat.le_refl _) with ⟨m, rest, hwritten, _⟩
        rw [hnothing] at hwritten
        cases hwritten

/-!
## A message that outlives its connection
-/

namespace Sample

/-- A connection is established, its HELLO is queued and written, a second message is
queued, and the connection is closed. -/
def firstConnection : List ConnEvent :=
  [PoolEvent.exec 0 (ConnCallback.established (some [104])),
    PoolEvent.exec 0 ConnCallback.closed, PoolEvent.exec 0 ConnCallback.closed,
    PoolEvent.exec 0 (ConnCallback.writeable false), PoolEvent.start [109],
    PoolEvent.exec 1 ConnCallback.closed, PoolEvent.exec 1 ConnCallback.closed]

/-- The second message is written too, and a second connection is greeted. -/
def drained : List ConnEvent :=
  [PoolEvent.exec 0 (ConnCallback.writeable false), PoolEvent.exec 0 ConnCallback.closed,
    PoolEvent.exec 0 (ConnCallback.established (some [104])),
    PoolEvent.exec 0 ConnCallback.closed, PoolEvent.exec 0 ConnCallback.closed,
    PoolEvent.exec 0 (ConnCallback.writeable false)]

/-- The connection is closed before the second message is written. -/
def cutOff : List ConnEvent :=
  [PoolEvent.exec 0 ConnCallback.closed,
    PoolEvent.exec 0 (ConnCallback.established (some [104])),
    PoolEvent.exec 0 ConnCallback.closed, PoolEvent.exec 0 ConnCallback.closed,
    PoolEvent.exec 0 (ConnCallback.writeable false)]

end Sample

theorem hello_first_drained :
    exists q, connection.run connStart (Sample.firstConnection ++ Sample.drained) = some q ∧
      q.shared.writtenOn 2 = [{ data := [104], hello := some 2 }] ∧
      forall n m rest, q.shared.writtenOn n = m :: rest -> 0 < n -> m.hello = some n := by
  have heval : (connection.run connStart (Sample.firstConnection ++ Sample.drained)).map
      (fun q => q.shared.writtenOn 2) = some [{ data := [104], hello := some 2 }] := by
    decide +kernel
  rcases Option.map_eq_some_iff.mp heval with ⟨q, hrun, hwritten⟩
  have hgreets : connection.Meets (fun p e => Pool.guarded greets p e = true) connStart
      (Sample.firstConnection ++ Sample.drained) := by
    decide +kernel
  exact ⟨q, hrun, hwritten, (hello_first hrun hgreets).left⟩

/-- The first message on the second connection is the one that the first connection
left in the ring. -/
theorem leftover_before_hello :
    exists q, connection.run connStart (Sample.firstConnection ++ Sample.cutOff) = some q ∧
      q.shared.writtenOn 2 = [{ data := [109], hello := none }] := by
  have heval : (connection.run connStart (Sample.firstConnection ++ Sample.cutOff)).map
      (fun q => q.shared.writtenOn 2) = some [{ data := [109], hello := none }] := by
    decide +kernel
  exact Option.map_eq_some_iff.mp heval

end Agent
end LeoOne
