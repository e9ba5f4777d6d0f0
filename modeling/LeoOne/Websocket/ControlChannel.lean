import LeoOne.Foundation.Machine
import LeoOne.Agent.Protocol
import LeoOne.Websocket.Client

/-!
# The control channel

One open connection, seen from both ends: `Client.Send` puts marshalled
envelopes into the channel, `WritePump` moves them into frames, and the agent's
receive callback hands each frame to `_on_message`.

`WritePump` joins everything it finds in the channel into one frame, with line
feeds between the messages, whereas the agent reads one JSON value per callback.
The two framings agree exactly on frames of one message.
-/

namespace LeoOne
namespace Websocket

open Foundation
open Wire
open Agent

/-- A connection, with the messages that `Send` has accepted and the messages
that the agent has dispatched. -/
structure Link where
  client : Client (List UInt8)
  accepted : List Envelope
  dispatched : List Dispatched

inductive LinkEvent where
  | send (m : Envelope)
  | pump (choice : PumpChoice)

/-- The payload that `WritePump` writes for a batch of messages. -/
def framePayload (batch : List (List UInt8)) : List UInt8 :=
  [10].intercalate batch

namespace Link

def connect (agentId tenantId : String) : Link where
  client := newClient agentId tenantId
  accepted := []
  dispatched := []

/-- Nothing is left in the channel or in an open frame. -/
def Drained (s : Link) : Prop :=
  s.client.pump = PumpState.idle ∧ s.client.sendChan.buf = []

/-- The messages between `Send` and the next flushed frame. -/
def undelivered (s : Link) : List (List UInt8) :=
  s.client.pump.held ++ s.client.sendChan.buf

def step (cJSONParse : List UInt8 -> Option Json) (s : Link) :
    LinkEvent -> Option Link
  | LinkEvent.send m =>
      match s.client.send m.marshal with
      | none => none
      | some (c, true) =>
          some { s with client := c, accepted := s.accepted ++ [m] }
      | some (c, false) => some { s with client := c }
  | LinkEvent.pump choice =>
      match s.client.writePump choice false with
      | none => none
      | some (c, none) => some { s with client := c }
      | some (c, some batch) =>
          some
            { s with
              client := c
              dispatched :=
                s.dispatched ++ receiveFrame cJSONParse (framePayload batch) }

def machine (cJSONParse : List UInt8 -> Option Json) : Machine Link LinkEvent where
  step := step cJSONParse

/-!
## Steps
-/

variable {cJSONParse : List UInt8 -> Option Json}

/-- What one step of the connection does. -/
theorem step_cases {s t : Link} {e : LinkEvent}
    (h : (machine cJSONParse).step s e = some t) :
    (exists m c, e = LinkEvent.send m ∧
      s.client.send m.marshal = some (c, true) ∧
      t = { s with client := c, accepted := s.accepted ++ [m] }) ∨
    (exists m, e = LinkEvent.send m ∧ t = s) ∨
    (exists choice c, e = LinkEvent.pump choice ∧
      Client.PumpMove s.client c none ∧ t = { s with client := c }) ∨
    (exists choice c batch, e = LinkEvent.pump choice ∧
      Client.PumpMove s.client c (some batch) ∧
      t =
        { s with
          client := c
          dispatched :=
            s.dispatched ++ receiveFrame cJSONParse (framePayload batch) }) := by
  cases e with
  | send m =>
      simp only [machine, step] at h
      split at h
      · cases h
      · rename_i c hsend
        cases h
        exact Or.inl ⟨m, c, rfl, hsend, rfl⟩
      · rename_i c hsend
        cases h
        have hsame : c = s.client := by
          rcases Client.send_cases hsend with ⟨hok, _⟩ | ⟨_, _, heq⟩
          · cases hok
          · exact heq
        exact Or.inr (Or.inl ⟨m, rfl, by rw [hsame]⟩)
  | pump choice =>
      simp only [machine, step] at h
      split at h
      · cases h
      · rename_i c hpump
        cases h
        have hmove := Client.writePump_move hpump
        exact Or.inr (Or.inr (Or.inl ⟨choice, c, rfl, hmove, rfl⟩))
      · rename_i c batch hpump
        cases h
        have hmove := Client.writePump_move hpump
        exact Or.inr (Or.inr (Or.inr ⟨choice, c, batch, rfl, hmove, rfl⟩))

/-!
## Delivery

`cJSON_Parse` reads the first JSON value of a text and ignores what follows; on
this channel an envelope is followed by nothing or by the line feed that
`WritePump` puts between two messages.
-/

def ParsesFirstValue (cJSONParse : List UInt8 -> Option Json) (m : Envelope) :
    Prop :=
  forall rest, rest = [] ∨ (exists tail, rest = 10 :: tail) ->
    cJSONParse (m.marshal ++ rest) = some m.tree

/-- A message that reaches the agent in one callback and that its parser reads. -/
structure Deliverable (cJSONParse : List UInt8 -> Option Json) (m : Envelope) :
    Prop where
  short : m.marshal.length ≤ maxMsgSize
  parses : ParsesFirstValue cJSONParse m

/-- When `WritePump` reads `len(c.send)`, the channel is empty. -/
def OneMessageFrames (s : Link) (e : LinkEvent) : Prop :=
  forall choice x, e = LinkEvent.pump choice ->
    s.client.pump = PumpState.taken x -> s.client.sendChan.buf = []

instance (s : Link) (e : LinkEvent) : Decidable (OneMessageFrames s e) :=
  match e, hpump : s.client.pump with
  | LinkEvent.pump _, PumpState.taken x =>
      decidable_of_iff (s.client.sendChan.buf.isEmpty = true)
        ⟨fun h _ _ _ _ => List.isEmpty_iff.mp h,
          fun h => List.isEmpty_iff.mpr (h _ x rfl hpump)⟩
  | LinkEvent.send _, _ => isTrue fun _ _ he => by cases he
  | LinkEvent.pump _, PumpState.idle =>
      isTrue fun _ _ _ ht => by rw [hpump] at ht; cases ht
  | LinkEvent.pump _, PumpState.draining _ _ =>
      isTrue fun _ _ _ ht => by rw [hpump] at ht; cases ht
  | LinkEvent.pump _, PumpState.stopped =>
      isTrue fun _ _ _ ht => by rw [hpump] at ht; cases ht

/-- The open frame, if there is one, holds one message and gets no other. -/
def SingleFrame : PumpState (List UInt8) -> Prop
  | PumpState.idle => True
  | PumpState.taken _ => True
  | PumpState.draining frame n => n = 0 ∧ exists x, frame = [x]
  | PumpState.stopped => False

/-- The accepted messages are those dispatched, then the one in the open frame,
then those in the channel. -/
structure InOrder (s : Link) (done cur queued : List Envelope) : Prop where
  accepted : s.accepted = done ++ cur ++ queued
  dispatched : s.dispatched = done.map dispatchedOf
  held : s.client.pump.held = cur.map Envelope.marshal
  buffered : s.client.sendChan.buf = queued.map Envelope.marshal
  single : SingleFrame s.client.pump
  isOpen : s.client.sendChan.closed = false

theorem receiveFrame_marshal {m : Envelope} (h : Deliverable cJSONParse m) :
    receiveFrame cJSONParse (framePayload [m.marshal]) = [dispatchedOf m] := by
  have hpayload : framePayload [m.marshal] = m.marshal := by
    simp [framePayload, List.intercalate]
  have hparse := h.parses [] (Or.inl rfl)
  rw [List.append_nil] at hparse
  rw [hpayload]
  exact receiveFrame_of_parse h.short m.marshal_ne_nil hparse

theorem InOrder.connect (agentId tenantId : String) :
    InOrder (connect agentId tenantId) [] [] [] where
  accepted := rfl
  dispatched := rfl
  held := rfl
  buffered := rfl
  single := trivial
  isOpen := rfl

theorem InOrder.send {s : Link} {done cur queued : List Envelope}
    (h : InOrder s done cur queued) {m : Envelope} {c : Client (List UInt8)}
    (hsend : s.client.send m.marshal = some (c, true)) :
    InOrder { s with client := c, accepted := s.accepted ++ [m] } done cur
      (queued ++ [m]) := by
  rcases Client.send_cases hsend with ⟨_, _, _, ch, hbuf, hopen, _, heq⟩ | ⟨hok, _⟩
  · subst heq
    constructor
    · show s.accepted ++ [m] = done ++ cur ++ (queued ++ [m])
      rw [h.accepted, List.append_assoc (done ++ cur)]
    · exact h.dispatched
    · exact h.held
    · show ch.buf = (queued ++ [m]).map Envelope.marshal
      rw [hbuf, h.buffered, List.map_append]
      rfl
    · exact h.single
    · exact hopen
  · cases hok

theorem InOrder.move {s : Link} {done cur queued : List Envelope}
    (h : InOrder s done cur queued) {c : Client (List UInt8)}
    (hempty : forall x, s.client.pump = PumpState.taken x ->
      s.client.sendChan.buf = [])
    (hmove : Client.PumpMove s.client c none) :
    exists cur' queued', InOrder { s with client := c } done cur' queued' := by
  cases hmove with
  | take hidle hbuf hclosed =>
      rename_i x ch
      cases queued with
      | nil =>
          rw [h.buffered] at hbuf
          cases hbuf
      | cons m queued =>
          have hcur : cur = [] := by
            have hheld := h.held
            rw [hidle] at hheld
            exact List.map_eq_nil_iff.mp hheld.symm
          have hsplit := hbuf
          rw [h.buffered, List.map_cons] at hsplit
          injection hsplit with hx hrest
          refine ⟨[m], queued, ?_⟩
          constructor
          · show s.accepted = done ++ [m] ++ queued
            rw [h.accepted, hcur]
            simp
          · exact h.dispatched
          · show [x] = [m].map Envelope.marshal
            rw [List.map_singleton, hx]
          · exact hrest.symm
          · exact trivial
          · exact hclosed.trans h.isOpen
  | close hidle hclosed =>
      rw [h.isOpen] at hclosed
      cases hclosed
  | ping hidle =>
      exact ⟨cur, queued, h⟩
  | count htaken =>
      rename_i x
      have hbuf := hempty x htaken
      refine ⟨cur, queued, h.accepted, h.dispatched, ?_, h.buffered, ?_, h.isOpen⟩
      · have hheld := h.held
        rw [htaken] at hheld
        exact hheld
      · show s.client.sendChan.buf.length = 0 ∧ exists y, [x] = [y]
        rw [hbuf]
        exact ⟨rfl, x, rfl⟩
  | join hdrain hbuf hclosed =>
      -- a frame of one message takes no other
      have hsingle := h.single
      rw [hdrain] at hsingle
      exact absurd hsingle.left (Nat.succ_ne_zero _)

theorem InOrder.flush {s : Link} {done cur queued : List Envelope}
    (h : InOrder s done cur queued) {c : Client (List UInt8)}
    {batch : List (List UInt8)}
    (hgood : forall m, m ∈ s.accepted -> Deliverable cJSONParse m)
    (hmove : Client.PumpMove s.client c (some batch)) :
    exists done',
      InOrder
        { s with
          client := c
          dispatched :=
            s.dispatched ++ receiveFrame cJSONParse (framePayload batch) }
        done' [] queued := by
  cases hmove with
  | flush hdrain =>
      have hsingle := h.single
      have hheld := h.held
      rw [hdrain] at hsingle hheld
      rcases hsingle.right with ⟨x, hbatch⟩
      subst hbatch
      cases cur with
      | nil =>
          cases hheld
      | cons m rest =>
          have hrest : rest = [] := by
            have hlen := congrArg List.length hheld
            simpa [PumpState.held] using hlen.symm
          subst hrest
          have hx : x = m.marshal := by
            simpa [PumpState.held] using hheld
          have hm : m ∈ s.accepted := by
            rw [h.accepted]
            simp
          refine ⟨done ++ [m], ?_⟩
          constructor
          · show s.accepted = done ++ [m] ++ [] ++ queued
            rw [h.accepted, List.append_nil]
          · show s.dispatched ++ receiveFrame cJSONParse (framePayload [x]) =
              (done ++ [m]).map dispatchedOf
            rw [hx, receiveFrame_marshal (hgood m hm), h.dispatched,
              List.map_append, List.map_singleton]
          · rfl
          · exact h.buffered
          · exact trivial
          · exact h.isOpen

/-- Undelivered and dispatched messages account for every accepted one, as long
as the accepted messages are ones the agent can read. -/
def Faithful (cJSONParse : List UInt8 -> Option Json) (s : Link) : Prop :=
  (forall m, m ∈ s.accepted -> Deliverable cJSONParse m) ->
    exists done cur queued, InOrder s done cur queued

theorem faithful_step :
    (machine cJSONParse).Preserves OneMessageFrames (Faithful cJSONParse) := by
  intro s e t hinv hguard hstep hgood
  rcases step_cases hstep with ⟨m, c, he, hsend, ht⟩ | ⟨m, he, ht⟩ |
    ⟨choice, c, he, hmove, ht⟩ | ⟨choice, c, batch, he, hmove, ht⟩
  · subst ht
    have hbefore : forall m', m' ∈ s.accepted -> Deliverable cJSONParse m' := by
      intro m' hm'
      exact hgood m' (List.mem_append.mpr (Or.inl hm'))
    rcases hinv hbefore with ⟨done, cur, queued, hin⟩
    exact ⟨done, cur, queued ++ [m], hin.send hsend⟩
  · subst ht
    exact hinv hgood
  · subst ht
    rcases hinv hgood with ⟨done, cur, queued, hin⟩
    rcases hin.move (fun x hx => hguard choice x he hx) hmove with
      ⟨cur', queued', hin'⟩
    exact ⟨done, cur', queued', hin'⟩
  · subst ht
    rcases hinv hgood with ⟨done, cur, queued, hin⟩
    rcases hin.flush hgood hmove with ⟨done', hin'⟩
    exact ⟨done', [], queued, hin'⟩

/-!
## What the agent gets
-/

theorem InOrder.dispatched_initial {s : Link} {done cur queued : List Envelope}
    (h : InOrder s done cur queued) :
    s.dispatched <+: s.accepted.map dispatchedOf := by
  rw [h.accepted, h.dispatched, List.append_assoc, List.map_append]
  exact List.prefix_append _ _

theorem InOrder.eq_of_drained {s : Link} {done cur queued : List Envelope}
    (h : InOrder s done cur queued) (hdrained : Drained s) :
    s.dispatched = s.accepted.map dispatchedOf := by
  have hheld := h.held
  have hbuf := h.buffered
  rw [hdrained.left] at hheld
  rw [hdrained.right] at hbuf
  have hcur : cur = [] := List.map_eq_nil_iff.mp hheld.symm
  have hqueued : queued = [] := List.map_eq_nil_iff.mp hbuf.symm
  rw [h.dispatched, h.accepted, hcur, hqueued, List.append_nil, List.append_nil]

/-- The next `k` steps of `WritePump` deliver everything that `Send` accepted. -/
def DrainsIn (cJSONParse : List UInt8 -> Option Json) (s : Link) (k : Nat) :
    Prop :=
  exists t, (machine cJSONParse).run s
      (List.replicate k (LinkEvent.pump PumpChoice.message)) = some t ∧
    (machine cJSONParse).Meets OneMessageFrames s
      (List.replicate k (LinkEvent.pump PumpChoice.message)) ∧
    t.accepted = s.accepted ∧ Drained t

theorem DrainsIn.cons {s r : Link} {k : Nat}
    (hstep : (machine cJSONParse).step s (LinkEvent.pump PumpChoice.message) =
      some r)
    (hguard : OneMessageFrames s (LinkEvent.pump PumpChoice.message))
    (hsame : r.accepted = s.accepted) (h : DrainsIn cJSONParse r k) :
    DrainsIn cJSONParse s (k + 1) := by
  rcases h with ⟨t, hrun, hmeets, haccepted, hdrained⟩
  refine ⟨t, ?_, ⟨hguard, ?_⟩, haccepted.trans hsame, hdrained⟩
  · rw [List.replicate_succ]
    unfold Machine.run
    rw [hstep]
    exact hrun
  · intro r' hr'
    rw [hstep] at hr'
    cases hr'
    exact hmeets

theorem drainsIn_drained {s : Link} (h : Drained s) : DrainsIn cJSONParse s 0 :=
  ⟨s, rfl, trivial, rfl, h⟩

theorem drainsIn_draining {s : Link} {frame : List (List UInt8)}
    (hpump : s.client.pump = PumpState.draining frame 0)
    (hbuf : s.client.sendChan.buf = []) : DrainsIn cJSONParse s 1 := by
  have hmove : s.client.writePump PumpChoice.message false =
      some ({ s.client with pump := PumpState.idle }, some frame) := by
    simp [Client.writePump, hpump]
  refine DrainsIn.cons (r := { s with
    client := { s.client with pump := PumpState.idle }
    dispatched := s.dispatched ++
      receiveFrame cJSONParse (framePayload frame) }) ?_ ?_ rfl
    (drainsIn_drained ⟨rfl, hbuf⟩)
  · simp [machine, step, hmove]
  · intro _ x _ _
    exact hbuf

theorem drainsIn_taken {s : Link} {x : List UInt8}
    (hpump : s.client.pump = PumpState.taken x)
    (hbuf : s.client.sendChan.buf = []) : DrainsIn cJSONParse s 2 := by
  have hmove : s.client.writePump PumpChoice.message false =
      some ({ s.client with pump := PumpState.draining [x] 0 }, none) := by
    simp [Client.writePump, hpump, hbuf]
  refine DrainsIn.cons (r := { s with
    client := { s.client with pump := PumpState.draining [x] 0 } }) ?_ ?_ rfl
    (drainsIn_draining rfl hbuf)
  · simp [machine, step, hmove]
  · intro _ y _ _
    exact hbuf

theorem drainsIn_queued {s : Link} {x : List UInt8}
    (hpump : s.client.pump = PumpState.idle)
    (hbuf : s.client.sendChan.buf = [x]) : DrainsIn cJSONParse s 3 := by
  rcases Chan.recv_of_cons hbuf with ⟨ch, hrecv, hrest⟩
  have hmove : s.client.writePump PumpChoice.message false =
      some ({ s.client with sendChan := ch, pump := PumpState.taken x }, none) := by
    simp [Client.writePump, hpump, hrecv]
  refine DrainsIn.cons (r := { s with
    client := { s.client with sendChan := ch, pump := PumpState.taken x } })
    ?_ ?_ rfl (drainsIn_taken rfl hrest)
  · simp [machine, step, hmove]
  · intro _ y _ htaken
    rw [hpump] at htaken
    cases htaken

/-- A last undelivered message leaves the server in at most three steps. -/
theorem InOrder.drains {s : Link} {done cur queued : List Envelope}
    (h : InOrder s done cur queued) (hlast : s.undelivered.length ≤ 1) :
    exists k, DrainsIn cJSONParse s k := by
  have hsingle := h.single
  unfold undelivered at hlast
  cases hpump : s.client.pump with
  | idle =>
      rw [hpump] at hlast
      cases hbuf : s.client.sendChan.buf with
      | nil =>
          exact ⟨0, drainsIn_drained ⟨hpump, hbuf⟩⟩
      | cons x rest =>
          have hrest : rest = [] := by
            rw [hbuf] at hlast
            simpa [PumpState.held] using hlast
          rw [hrest] at hbuf
          exact ⟨3, drainsIn_queued hpump hbuf⟩
  | taken x =>
      have hbuf : s.client.sendChan.buf = [] := by
        rw [hpump] at hlast
        simpa [PumpState.held] using hlast
      exact ⟨2, drainsIn_taken hpump hbuf⟩
  | draining frame n =>
      rw [hpump] at hsingle hlast
      rcases hsingle with ⟨hn, x, hframe⟩
      subst hn
      have hbuf : s.client.sendChan.buf = [] := by
        rw [hframe] at hlast
        simpa [PumpState.held] using hlast
      exact ⟨1, drainsIn_draining hpump hbuf⟩
  | stopped =>
      rw [hpump] at hsingle
      cases hsingle

/-- In every run in which `WritePump` always finds the channel empty when it
counts the messages to batch, the agent dispatches the accepted messages once
each and in order, and the last one is dispatched too once `WritePump` has run. -/
theorem control_channel_delivers (agentId tenantId : String)
    {es : List LinkEvent} {t : Link}
    (hrun : (machine cJSONParse).run (connect agentId tenantId) es = some t)
    (hmeets : (machine cJSONParse).Meets OneMessageFrames
      (connect agentId tenantId) es)
    (hgood : forall m, m ∈ t.accepted -> Deliverable cJSONParse m) :
    t.dispatched <+: t.accepted.map dispatchedOf ∧
      (Drained t -> t.dispatched = t.accepted.map dispatchedOf) ∧
      (t.undelivered.length ≤ 1 -> exists k u,
        (machine cJSONParse).run t
          (List.replicate k (LinkEvent.pump PumpChoice.message)) = some u ∧
        u.accepted = t.accepted ∧
        u.dispatched = t.accepted.map dispatchedOf) := by
  have hinit : Faithful cJSONParse (connect agentId tenantId) :=
    fun _ => ⟨[], [], [], InOrder.connect agentId tenantId⟩
  have hfaithful := faithful_step.run hinit hmeets hrun
  rcases hfaithful hgood with ⟨done, cur, queued, hin⟩
  refine ⟨hin.dispatched_initial, hin.eq_of_drained, ?_⟩
  intro hlast
  rcases hin.drains hlast with ⟨k, u, hrun', hmeets', hsame, hdrained⟩
  have hgood' : forall m, m ∈ u.accepted -> Deliverable cJSONParse m := by
    rw [hsame]
    exact hgood
  rcases faithful_step.run hfaithful hmeets' hrun' hgood' with
    ⟨done', cur', queued', hin'⟩
  refine ⟨k, u, hrun', hsame, ?_⟩
  rw [hin'.eq_of_drained hdrained, hsame]

/-- A parser that reads the first value of a text, for texts that start with one
of the given envelopes. -/
def parseFirstOf (table : List Envelope) (text : List UInt8) : Option Json :=
  (table.find? fun m => m.marshal.isPrefixOf text).map Envelope.tree

def pingMessage (id : String) : Envelope where
  type := MsgType.ping
  id := id
  ts := 0
  body := { text := utf8 "\x7b\x7d", value := Json.obj [] }

def twoPings : List Envelope := [pingMessage "1", pingMessage "2"]

theorem twoPings_deliverable (m : Envelope) (h : m ∈ twoPings) :
    Deliverable (parseFirstOf twoPings) m := by
  simp only [twoPings, List.mem_cons, List.not_mem_nil, or_false] at h
  rcases h with rfl | rfl
  · refine ⟨by decide, ?_⟩
    intro rest _
    simp [parseFirstOf, twoPings]
  · refine ⟨by decide, ?_⟩
    intro rest _
    have hne : ¬ (pingMessage "1").marshal <+: (pingMessage "2").marshal ++ rest := by
      intro hpre
      have hboth := List.prefix_of_prefix_length_le hpre
        (List.prefix_append (pingMessage "2").marshal rest) (by decide)
      exact absurd hboth (by decide)
    simp [parseFirstOf, twoPings, hne]

/-- Two messages, each of them flushed before the next is accepted. -/
def pingsApart : List LinkEvent :=
  [LinkEvent.send (pingMessage "1"), LinkEvent.pump PumpChoice.message,
    LinkEvent.pump PumpChoice.message, LinkEvent.pump PumpChoice.message,
    LinkEvent.send (pingMessage "2"), LinkEvent.pump PumpChoice.message,
    LinkEvent.pump PumpChoice.message, LinkEvent.pump PumpChoice.message]

theorem control_channel_delivers_pings :
    exists t, (machine (parseFirstOf twoPings)).run (connect "a" "t") pingsApart =
        some t ∧
      t.accepted = twoPings ∧ t.dispatched = twoPings.map dispatchedOf := by
  obtain ⟨t, hrun, haccepted, hdrained⟩ : exists t,
      (machine (parseFirstOf twoPings)).run (connect "a" "t") pingsApart =
        some t ∧ t.accepted = twoPings ∧ Drained t :=
    ⟨_, rfl, rfl, rfl, rfl⟩
  have hgood : forall m, m ∈ t.accepted ->
      Deliverable (parseFirstOf twoPings) m := by
    rw [haccepted]
    exact twoPings_deliverable
  have hdelivers := control_channel_delivers "a" "t" hrun (by decide) hgood
  refine ⟨t, hrun, haccepted, ?_⟩
  rw [← haccepted]
  exact hdelivers.right.left hdrained

/-- Two messages that are both in the channel when `WritePump` wakes up. -/
def pingsTogether : List LinkEvent :=
  [LinkEvent.send (pingMessage "1"), LinkEvent.send (pingMessage "2"),
    LinkEvent.pump PumpChoice.message, LinkEvent.pump PumpChoice.message,
    LinkEvent.pump PumpChoice.message, LinkEvent.pump PumpChoice.message]

/-- Both are accepted and leave in one frame, and the agent dispatches only the
first of them. -/
theorem batched_pings_lose_one :
    exists t, (machine (parseFirstOf twoPings)).run (connect "a" "t")
        pingsTogether = some t ∧
      t.accepted = twoPings ∧
      (forall m, m ∈ t.accepted -> Deliverable (parseFirstOf twoPings) m) ∧
      Drained t ∧ t.dispatched = [dispatchedOf (pingMessage "1")] ∧
      t.dispatched ≠ t.accepted.map dispatchedOf := by
  obtain ⟨t, hrun, haccepted, hdrained, hlost⟩ : exists t,
      (machine (parseFirstOf twoPings)).run (connect "a" "t") pingsTogether =
        some t ∧ t.accepted = twoPings ∧ Drained t ∧
      t.dispatched = [dispatchedOf (pingMessage "1")] :=
    ⟨_, rfl, rfl, ⟨rfl, rfl⟩, rfl⟩
  refine ⟨t, hrun, haccepted, ?_, hdrained, hlost, ?_⟩
  · rw [haccepted]
    exact twoPings_deliverable
  · rw [haccepted, hlost]
    intro heq
    exact absurd (congrArg List.length heq) (by decide)

end Link

end Websocket
end LeoOne
