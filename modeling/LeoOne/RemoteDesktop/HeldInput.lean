import LeoOne.Agent.Injection
import LeoOne.Foundation.Machine
import LeoOne.Foundation.Presses
import LeoOne.RemoteDesktop.Codec

/-!
# Keys and buttons that stay pressed

A control session as one machine: the viewer's listeners and effect clean-ups, the
messages on their way through the relay, and the agent, which passes presses and
releases on to the X server and keeps no record of them.  A session can end in any of
its states.
-/

namespace LeoOne
namespace RemoteDesktop

open Foundation Wire Agent Frontend

/-!
## What the X server sees
-/

/-- A key of the keyboard or a button of the mouse, as the X server knows them. -/
inductive Switch where
  | button (button : Nat)
  | key (keycode : Nat)
  deriving DecidableEq

/-- The press or the release that a fake event is. -/
def switchOf : FakeEvent -> Option (Switch × Bool)
  | FakeEvent.motion _ _ => none
  | FakeEvent.button button down => some (Switch.button button, down)
  | FakeEvent.key keycode down => some (Switch.key keycode, down)

/-- The presses and releases among the fake events. -/
def switches (log : List FakeEvent) : List (Switch × Bool) :=
  log.filterMap switchOf

/-- Every press of the switch in the log is followed by a release. -/
def Released (log : List FakeEvent) (x : Switch) : Prop :=
  forall pre post, switches log = pre ++ (x, true) :: post -> (x, false) ∈ post

/-!
## The session
-/

/-- `readyState` of the viewer's socket. -/
inductive Socket where
  | connecting
  | open
  | closed
  deriving DecidableEq

/-- A control session, from the mounting of the viewer to the end of the agent's thread. -/
structure ControlSession where
  pressed : Pressed
  mounted : Bool
  listening : Bool
  socket : Socket
  wire : List (List UInt8)
  session : RdSession
  log : List FakeEvent
  deviceClosed : Bool

/-- The viewer has just been mounted in the control mode, and the agent handles input. -/
def ControlSession.start (session : RdSession) : ControlSession :=
  { pressed := Pressed.none
    mounted := true
    listening := true
    socket := Socket.connecting
    wire := []
    session := session
    log := []
    deviceClosed := false }

/-- The viewer's `send`: nothing goes out unless the socket is open. -/
def ControlSession.send (s : ControlSession) (ms : List InputMessage) : ControlSession :=
  if s.socket = Socket.open then { s with wire := s.wire ++ ms.map InputMessage.bytes }
  else s

/-- The clean-up of the effect that listens. -/
def ControlSession.stopListening (s : ControlSession) : ControlSession :=
  if s.listening then
    let (p, ms) := releaseAll s.pressed
    ({ s with listening := false, pressed := p } : ControlSession).send ms
  else s

/-- The clean-up of the effect that connects. -/
def ControlSession.disconnect (s : ControlSession) : ControlSession :=
  { s with socket := Socket.closed }

inductive SessionEvent where
  | opened
  | dom (e : DomEvent)
  | modeChange (control : Bool)
  | unmount
  | deliver
  | connectionLoss
  | agentEnds

/-- One step of the session.  `agentEnds` is the end of `_rd_session_thread`, whatever
the reason: an operator's stop, the agent's own stop, the deadline, or the connection. -/
def ControlSession.step (parse : List UInt8 -> Option Json) (d : Display)
    (s : ControlSession) : SessionEvent -> Option ControlSession
  | SessionEvent.opened =>
      if s.socket = Socket.connecting then some { s with socket := Socket.open } else none
  | SessionEvent.dom e =>
      if s.listening then
        let (p, ms) := onDomEvent s.pressed e
        some (({ s with pressed := p } : ControlSession).send ms)
      else none
  | SessionEvent.modeChange control =>
      if s.mounted && control != s.listening then
        some { s.stopListening with listening := control }
      else none
  | SessionEvent.unmount =>
      -- the clean-ups run in the order of the effects: the socket goes first
      if s.mounted then some { s.disconnect.stopListening with mounted := false } else none
  | SessionEvent.deliver =>
      match s.wire with
      | [] => none
      | message :: rest =>
          if s.deviceClosed then none
          else
            let (session, injections) := receive parse s.session message
            some
              { s with
                wire := rest
                session := session
                log := s.log ++ injections.flatMap (inject d) }
  | SessionEvent.connectionLoss => some { s with socket := Socket.closed, wire := [] }
  | SessionEvent.agentEnds => some { s with deviceClosed := true, wire := [] }

def controlSession (parse : List UInt8 -> Option Json) (d : Display) :
    Machine ControlSession SessionEvent where
  step := ControlSession.step parse d

/-!
## The condition
-/

/-- The message releases a key or a button. -/
def isRelease : List UInt8 -> Bool
  | 0x11 :: _ :: 0 :: _ => true
  | 0x13 :: _ :: 0 :: _ => true
  | _ => false

/-- A viewer that is connected has nothing pressed. -/
def ControlSession.NothingPressed (s : ControlSession) : Prop :=
  s.socket = Socket.open -> s.pressed = Pressed.none

/-- The viewer is unmounted, the connection is lost and the agent's thread ends only
while nothing is pressed, the latter two only while no release is on its way. -/
def EndsReleased (s : ControlSession) : SessionEvent -> Prop
  | SessionEvent.unmount => s.NothingPressed
  | SessionEvent.connectionLoss =>
      s.NothingPressed ∧ forall message, message ∈ s.wire -> isRelease message = false
  | SessionEvent.agentEnds =>
      s.NothingPressed ∧ forall message, message ∈ s.wire -> isRelease message = false
  | _ => True

instance (s : ControlSession) : Decidable s.NothingPressed :=
  inferInstanceAs (Decidable (s.socket = Socket.open -> s.pressed = Pressed.none))

instance (s : ControlSession) : forall e, Decidable (EndsReleased s e)
  | SessionEvent.opened => isTrue trivial
  | SessionEvent.dom _ => isTrue trivial
  | SessionEvent.modeChange _ => isTrue trivial
  | SessionEvent.unmount => inferInstanceAs (Decidable s.NothingPressed)
  | SessionEvent.deliver => isTrue trivial
  | SessionEvent.connectionLoss =>
      inferInstanceAs (Decidable
        (s.NothingPressed ∧ forall message, message ∈ s.wire -> isRelease message = false))
  | SessionEvent.agentEnds =>
      inferInstanceAs (Decidable
        (s.NothingPressed ∧ forall message, message ∈ s.wire -> isRelease message = false))

/-!
## What a message does to the switches
-/

/-- The presses and releases that the agent makes of a message. -/
def acts (d : Display) (m : InputMessage) : List (Switch × Bool) :=
  switches (inject d (injectionOf m))

/-- The switch that a key stands for, if the keyboard has it. -/
def keySwitch (d : Display) (key : Nat) : Option Switch :=
  match keysymFor (toUint8 key) with
  | none => none
  | some keysym =>
      if d.keysymToKeycode keysym = 0 then none
      else some (Switch.key (d.keysymToKeycode keysym))

theorem acts_key (d : Display) (key : Nat) (down : Bool) :
    acts d (InputMessage.key key down) =
      match keySwitch d key with
      | none => []
      | some x => [(x, down)] := by
  simp only [acts, injectionOf, inject, leoRdInputKey, keySwitch]
  cases keysymFor (toUint8 key) with
  | none => rfl
  | some keysym =>
      simp only
      split
      · rfl
      · rfl

theorem acts_button (d : Display) (domButton : Int) (down : Bool) :
    acts d (InputMessage.button (leoButton domButton) down) =
      [(Switch.button (leoButton domButton), down)] := by
  have hrange := leoButton_range domButton
  have hcases : leoButton domButton = 1 ∨ leoButton domButton = 2 ∨ leoButton domButton = 3 := by
    omega
  rcases hcases with h | h | h
  · rw [h]
    rfl
  · rw [h]
    rfl
  · rw [h]
    rfl

/-- The button that a scroll message clicks. -/
def wheelButton (notches : Int) : Nat :=
  if 0 < notches then 4 else 5

theorem acts_scroll (d : Display) (notches : Int) :
    exists n, acts d (InputMessage.scroll notches) =
      (List.replicate n [(Switch.button (wheelButton notches), true),
        (Switch.button (wheelButton notches), false)]).flatten := by
  by_cases hzero : notches = 0
  · exists 0
    rw [hzero]
    rfl
  · exists min notches.natAbs 10
    simp only [acts, injectionOf, inject, leoRdInputScroll, if_neg hzero, switches,
      wheelButton]
    induction min notches.natAbs 10 with
    | zero => rfl
    | succ n ih =>
        rw [List.replicate_succ, List.flatten_cons, List.filterMap_append, ih,
          List.replicate_succ, List.flatten_cons]
        rfl

/-!
## What is pressed at the viewer is what is down
-/

/-- The switch belongs to a key or a button that is pressed at the viewer. -/
def Pressing (d : Display) (p : Pressed) (x : Switch) : Prop :=
  (exists key, key ∈ p.keys ∧ keySwitch d key = some x) ∨
    exists button, button ∈ p.buttons ∧ x = Switch.button (leoButton button)

theorem not_pressing_none (d : Display) (x : Switch) : ¬ Pressing d Pressed.none x := by
  intro h
  rcases h with ⟨key, hkey, _⟩ | ⟨button, hbutton, _⟩
  · cases hkey
  · cases hbutton

theorem mem_acts_releaseAll {d : Display} {p : Pressed} {x : Switch} (h : Pressing d p x) :
    (x, false) ∈ (releaseAll p).2.flatMap (acts d) := by
  rcases h with ⟨key, hkey, hswitch⟩ | ⟨button, hbutton, hswitch⟩
  · apply List.mem_flatMap.mpr
    exists InputMessage.key key false
    constructor
    · exact List.mem_append_left _ (List.mem_map.mpr ⟨key, hkey, rfl⟩)
    · rw [acts_key, hswitch]
      exact List.mem_singleton.mpr rfl
  · apply List.mem_flatMap.mpr
    exists InputMessage.button (leoButton button) false
    constructor
    · exact List.mem_append_right _ (List.mem_map.mpr ⟨button, hbutton, rfl⟩)
    · rw [acts_button, hswitch]
      exact List.mem_singleton.mpr rfl

theorem acts_releaseAll {d : Display} {p : Pressed} :
    forall e, e ∈ (releaseAll p).2.flatMap (acts d) -> e.2 = false := by
  intro e he
  rcases List.mem_flatMap.mp he with ⟨m, hm, hacts⟩
  rcases List.mem_append.mp hm with hkey | hbutton
  · rcases List.mem_map.mp hkey with ⟨key, _, heq⟩
    rw [← heq, acts_key] at hacts
    split at hacts
    · cases hacts
    · rw [List.mem_singleton.mp hacts]
  · rcases List.mem_map.mp hbutton with ⟨button, _, heq⟩
    rw [← heq, acts_button] at hacts
    rw [List.mem_singleton.mp hacts]

/-- If all that is down is pressed, nothing is down after `releaseAll`. -/
theorem not_down_releaseAll {d : Display} {p : Pressed} {x : Switch} {b : Bool}
    (hb : b = true -> Pressing d p x) :
    Presses.down x b ((releaseAll p).2.flatMap (acts d)) = false := by
  cases hdown : Presses.down x b ((releaseAll p).2.flatMap (acts d)) with
  | false => rfl
  | true =>
      have hkept := Presses.down_releases acts_releaseAll hdown
      exact absurd (mem_acts_releaseAll (hb hkept.left)) hkept.right

theorem Pressing.addKey {d : Display} {p : Pressed} {x : Switch} (key : Nat)
    (h : Pressing d p x) : Pressing d { p with keys := setAdd p.keys key } x := by
  rcases h with ⟨k, hk, hswitch⟩ | hbutton
  · exact Or.inl ⟨k, mem_setAdd.mpr (Or.inl hk), hswitch⟩
  · exact Or.inr hbutton

theorem Pressing.addButton {d : Display} {p : Pressed} {x : Switch} (button : Int)
    (h : Pressing d p x) : Pressing d { p with buttons := setAdd p.buttons button } x := by
  rcases h with hkey | ⟨b, hb, hswitch⟩
  · exact Or.inl hkey
  · exact Or.inr ⟨b, mem_setAdd.mpr (Or.inl hb), hswitch⟩

theorem Pressing.deleteKey {d : Display} {p : Pressed} {x : Switch} {key : Nat}
    (h : Pressing d p x) (hother : keySwitch d key ≠ some x) :
    Pressing d { p with keys := setDelete p.keys key } x := by
  rcases h with ⟨k, hk, hswitch⟩ | hbutton
  · have hne : k ≠ key := by
      intro hsame
      rw [hsame] at hswitch
      exact hother hswitch
    exact Or.inl ⟨k, mem_setDelete.mpr ⟨hk, hne⟩, hswitch⟩
  · exact Or.inr hbutton

theorem Pressing.deleteButton {d : Display} {p : Pressed} {x : Switch} {button : Int}
    (h : Pressing d p x) (hother : Switch.button (leoButton button) ≠ x) :
    Pressing d { p with buttons := setDelete p.buttons button } x := by
  rcases h with hkey | ⟨b, hb, hswitch⟩
  · exact Or.inl hkey
  · have hne : b ≠ button := by
      intro hsame
      rw [hsame] at hswitch
      exact hother hswitch.symm
    exact Or.inr ⟨b, mem_setDelete.mpr ⟨hb, hne⟩, hswitch⟩

/-- A switch that is down after a key message was down before and has not been released, or
has been pressed by the message. -/
theorem down_acts_key {d : Display} {key : Nat} {press : Bool} {x : Switch} {b : Bool}
    (h : Presses.down x b (acts d (InputMessage.key key press)) = true) :
    (b = true ∧ (press = false -> keySwitch d key ≠ some x)) ∨
      (press = true ∧ keySwitch d key = some x) := by
  rw [acts_key] at h
  cases hswitch : keySwitch d key with
  | none =>
      rw [hswitch] at h
      left
      constructor
      · exact h
      · intro _ hsome
        cases hsome
  | some y =>
      rw [hswitch, Presses.down_singleton] at h
      split at h
      · rename_i hsame
        rw [hsame]
        exact Or.inr ⟨h, rfl⟩
      · rename_i hother
        left
        constructor
        · exact h
        · intro _ hsame
          exact hother (Option.some.inj hsame)

/-- The listeners keep account: if all that is down is pressed at the viewer, this is so
after an event and the messages it sends. -/
theorem onDomEvent_pressing {d : Display} {p : Pressed} {x : Switch} {b : Bool}
    (hb : b = true -> Pressing d p x) (e : DomEvent)
    (hdown : Presses.down x b ((onDomEvent p e).2.flatMap (acts d)) = true) :
    Pressing d (onDomEvent p e).1 x := by
  cases e with
  | mouseMove rect clientX clientY => exact hb hdown
  | mouseDown button =>
      simp only [onDomEvent, List.flatMap_singleton, acts_button, Presses.down_singleton]
        at hdown ⊢
      split at hdown
      · rename_i hsame
        exact Or.inr ⟨button, mem_setAdd.mpr (Or.inr rfl), hsame.symm⟩
      · exact (hb hdown).addButton button
  | mouseUp button =>
      simp only [onDomEvent, List.flatMap_singleton, acts_button, Presses.down_singleton]
        at hdown ⊢
      split at hdown
      · cases hdown
      · rename_i hother
        exact (hb hdown).deleteButton hother
  | wheel deltaY =>
      rcases acts_scroll d (wheelNotches deltaY) with ⟨n, hacts⟩
      simp only [onDomEvent, List.flatMap_singleton, hacts] at hdown ⊢
      exact hb (Presses.down_click hdown).left
  | contextMenu => exact hb hdown
  | keyDown code =>
      simp only [onDomEvent] at hdown ⊢
      cases hcode : leoKeyForCode code with
      | none =>
          rw [hcode] at hdown
          exact hb hdown
      | some key =>
          rw [hcode] at hdown
          simp only [List.flatMap_singleton] at hdown ⊢
          rcases down_acts_key hdown with ⟨hbefore, _⟩ | ⟨_, hswitch⟩
          · exact (hb hbefore).addKey key
          · exact Or.inl ⟨key, mem_setAdd.mpr (Or.inr rfl), hswitch⟩
  | keyUp code =>
      simp only [onDomEvent] at hdown ⊢
      cases hcode : leoKeyForCode code with
      | none =>
          rw [hcode] at hdown
          exact hb hdown
      | some key =>
          rw [hcode] at hdown
          simp only [List.flatMap_singleton] at hdown ⊢
          rcases down_acts_key hdown with ⟨hbefore, hother⟩ | ⟨hpress, _⟩
          · exact (hb hbefore).deleteKey (hother rfl)
          · cases hpress
  | blur =>
      have hnot := not_down_releaseAll hb
      rw [onDomEvent] at hdown
      rw [hnot] at hdown
      cases hdown
  | visibilityChange visible =>
      simp only [onDomEvent] at hdown ⊢
      split at hdown
      · rename_i hvisible
        rw [if_pos hvisible]
        exact hb hdown
      · have hnot := not_down_releaseAll hb
        rw [hnot] at hdown
        cases hdown

/-!
## The law of the session
-/

/-- The buttons that only scroll messages click. -/
def Switch.IsWheel : Switch -> Prop
  | button n => 3 < n
  | key _ => False

/-- A message does nothing, or presses or releases one switch, or clicks the wheel. -/
theorem acts_cases (d : Display) (m : InputMessage) :
    acts d m = [] ∨
    (exists x down, acts d m = [(x, down)] ∧ ¬ x.IsWheel ∧
      (down = false -> isRelease m.bytes = true)) ∨
    exists n x, acts d m = (List.replicate n [(x, true), (x, false)]).flatten ∧ x.IsWheel := by
  cases m with
  | move x y => exact Or.inl rfl
  | button button down =>
      by_cases hrange : toUint8 button < 1 ∨ 3 < toUint8 button
      · left
        simp only [acts, injectionOf, inject, leoRdInputButton, if_pos hrange]
        rfl
      · right
        left
        exists Switch.button (toUint8 button).toNat, down
        have hacts : acts d (InputMessage.button button down) =
            [(Switch.button (toUint8 button).toNat, down)] := by
          simp only [acts, injectionOf, inject, leoRdInputButton, if_neg hrange]
          rfl
        have hnot : ¬ (Switch.button (toUint8 button).toNat).IsWheel := by
          intro hwheel
          exact hrange (Or.inr (UInt8.lt_iff_toNat_lt.mpr hwheel))
        have hrelease : down = false ->
            isRelease (InputMessage.button button down).bytes = true := by
          intro hup
          rw [hup]
          rfl
        exact ⟨hacts, hnot, hrelease⟩
  | scroll notches =>
      right
      right
      rcases acts_scroll d notches with ⟨n, hacts⟩
      have hwheel : (Switch.button (wheelButton notches)).IsWheel := by
        show 3 < wheelButton notches
        unfold wheelButton
        split
        · decide
        · decide
      exact ⟨n, Switch.button (wheelButton notches), hacts, hwheel⟩
  | key key down =>
      have hacts := acts_key d key down
      cases hswitch : keySwitch d key with
      | none =>
          rw [hswitch] at hacts
          exact Or.inl hacts
      | some x =>
          rw [hswitch] at hacts
          right
          left
          have hnot : ¬ x.IsWheel := by
            simp only [keySwitch] at hswitch
            split at hswitch
            · cases hswitch
            · split at hswitch
              · cases hswitch
              · cases hswitch
                exact id
          have hrelease : down = false ->
              isRelease (InputMessage.key key down).bytes = true := by
            intro hup
            rw [hup]
            rfl
          exact ⟨x, down, hacts, hnot, hrelease⟩

/-- The wheel is never left down. -/
theorem acts_not_wheel {d : Display} {m : InputMessage} {x : Switch} {b : Bool}
    (hb : b = true -> ¬ x.IsWheel) (hdown : Presses.down x b (acts d m) = true) :
    ¬ x.IsWheel := by
  rcases acts_cases d m with hnone | ⟨y, down, hone, hnot, _⟩ | ⟨n, y, hclicks, _⟩
  · rw [hnone] at hdown
    exact hb hdown
  · rw [hone, Presses.down_singleton] at hdown
    split at hdown
    · rename_i hsame
      rw [← hsame]
      exact hnot
    · exact hb hdown
  · rw [hclicks] at hdown
    exact hb (Presses.down_click hdown).left

/-- What is down stays down while no release is on its way. -/
theorem down_of_wire {d : Display} {ms : List InputMessage} {x : Switch}
    (hx : ¬ x.IsWheel) (hnone : forall m, m ∈ ms -> isRelease m.bytes = false) :
    Presses.down x true (ms.flatMap (acts d)) = true := by
  apply Presses.down_of_no_release
  intro hmem
  rcases List.mem_flatMap.mp hmem with ⟨m, hm, hacts⟩
  rcases acts_cases d m with hempty | ⟨y, down, hone, _, hrelease⟩ | ⟨n, y, hclicks, hwheel⟩
  · rw [hempty] at hacts
    cases hacts
  · rw [hone] at hacts
    cases List.mem_singleton.mp hacts
    have hreleased := hrelease rfl
    rw [hnone m hm] at hreleased
    cases hreleased
  · rw [hclicks] at hacts
    rcases List.mem_flatten.mp hacts with ⟨pair, hpair, hentry⟩
    rw [(List.mem_replicate.mp hpair).right] at hentry
    have hsame : x = y := by
      rcases List.mem_cons.mp hentry with hpress | hrest
      · exact congrArg Prod.fst hpress
      · exact congrArg Prod.fst (List.mem_singleton.mp hrest)
    rw [hsame] at hx
    exact hx hwheel

/-- Once the messages on their way have arrived, what is down at the X server is pressed
at a viewer that is connected; and nothing is down once the device is closed. -/
structure HeldLaw (d : Display) (s : ControlSession) : Prop where
  reads : ReadsInput s.session
  known : s.pressed.Known
  wheel : forall x, Presses.down x false (switches s.log) = true -> ¬ x.IsWheel
  held : exists ms : List InputMessage, s.wire = ms.map InputMessage.bytes ∧
    (forall m, m ∈ ms -> m.Fits) ∧
    (s.deviceClosed = false -> forall x,
      Presses.down x false (switches s.log ++ ms.flatMap (acts d)) = true ->
        s.socket = Socket.open ∧ Pressing d s.pressed x)
  closed : s.deviceClosed = true -> forall x, Presses.down x false (switches s.log) = false

theorem heldLaw_start (d : Display) {session : RdSession} (h : ReadsInput session) :
    HeldLaw d (ControlSession.start session) := by
  constructor
  · exact h
  · exact known_none
  · intro x hdown
    cases hdown
  · refine ⟨[], rfl, ?_, ?_⟩
    · intro m hm
      cases hm
    · intro _ x hdown
      cases hdown
  · intro hclosed
    cases hclosed

/-- Sending messages that account for what changes at the viewer keeps the law. -/
theorem HeldLaw.sent {d : Display} {s : ControlSession} (h : HeldLaw d s) {p : Pressed}
    {ms : List InputMessage} (hknown : p.Known) (hfits : forall m, m ∈ ms -> m.Fits)
    (hkeeps : forall x b, (b = true -> Pressing d s.pressed x) ->
      Presses.down x b (ms.flatMap (acts d)) = true -> Pressing d p x)
    (listening : Bool) :
    HeldLaw d (({ s with pressed := p, listening := listening } : ControlSession).send ms) := by
  rcases h.held with ⟨earlier, hwire, hearlier, hheld⟩
  unfold ControlSession.send
  split
  · rename_i hopen
    constructor
    · exact h.reads
    · exact hknown
    · exact h.wheel
    · refine ⟨earlier ++ ms, ?_, ?_, ?_⟩
      · rw [List.map_append, ← hwire]
      · intro m hm
        rcases List.mem_append.mp hm with hold | hnew
        · exact hearlier m hold
        · exact hfits m hnew
      · intro halive x hdown
        rw [List.flatMap_append, ← List.append_assoc, Presses.down_append] at hdown
        exact ⟨hopen, hkeeps x _ (fun hbefore => (hheld halive x hbefore).right) hdown⟩
    · exact h.closed
  · rename_i hshut
    constructor
    · exact h.reads
    · exact hknown
    · exact h.wheel
    · refine ⟨earlier, hwire, hearlier, ?_⟩
      intro halive x hdown
      exact absurd (hheld halive x hdown).left hshut
    · exact h.closed

theorem HeldLaw.stopListening {d : Display} {s : ControlSession} (h : HeldLaw d s) :
    HeldLaw d s.stopListening := by
  unfold ControlSession.stopListening
  split
  · apply h.sent known_none (releaseAll_fits h.known)
    intro x b hb hdown
    rw [not_down_releaseAll hb] at hdown
    cases hdown
  · exact h

theorem HeldLaw.disconnect {d : Display} {s : ControlSession} (h : HeldLaw d s)
    (hnothing : s.NothingPressed) : HeldLaw d s.disconnect := by
  rcases h.held with ⟨ms, hwire, hfits, hheld⟩
  constructor
  · exact h.reads
  · exact h.known
  · exact h.wheel
  · refine ⟨ms, hwire, hfits, ?_⟩
    intro halive x hdown
    rcases hheld halive x hdown with ⟨hopen, hpressing⟩
    rw [hnothing hopen] at hpressing
    exact absurd hpressing (not_pressing_none d x)
  · exact h.closed

/-- Where nothing is pressed and no release is on its way, nothing is down. -/
theorem HeldLaw.nothing_down {d : Display} {s : ControlSession} (h : HeldLaw d s)
    (hnothing : s.NothingPressed)
    (hwire : forall message, message ∈ s.wire -> isRelease message = false) (x : Switch) :
    Presses.down x false (switches s.log) = false := by
  cases hclosed : s.deviceClosed with
  | true => exact h.closed hclosed x
  | false =>
      cases hdown : Presses.down x false (switches s.log) with
      | false => rfl
      | true =>
          rcases h.held with ⟨ms, hms, _, hheld⟩
          have hnone : forall m, m ∈ ms -> isRelease m.bytes = false := by
            intro m hm
            apply hwire
            rw [hms]
            exact List.mem_map.mpr ⟨m, hm, rfl⟩
          have hlater : Presses.down x false (switches s.log ++ ms.flatMap (acts d)) = true := by
            rw [Presses.down_append, hdown]
            exact down_of_wire (h.wheel x hdown) hnone
          rcases hheld hclosed x hlater with ⟨hopen, hpressing⟩
          rw [hnothing hopen] at hpressing
          exact absurd hpressing (not_pressing_none d x)

theorem switches_append (log more : List FakeEvent) :
    switches (log ++ more) = switches log ++ switches more :=
  List.filterMap_append

theorem HeldLaw.deliver {parse : List UInt8 -> Option Json} {d : Display}
    {s t : ControlSession} (h : HeldLaw d s)
    (hstep : s.step parse d SessionEvent.deliver = some t) : HeldLaw d t := by
  rcases h.held with ⟨ms, hwire, hfits, hheld⟩
  cases ms with
  | nil =>
      simp only [ControlSession.step, hwire, List.map_nil] at hstep
      cases hstep
  | cons m rest =>
      have hm := hfits m List.mem_cons_self
      simp only [ControlSession.step, hwire, List.map_cons] at hstep
      split at hstep
      · cases hstep
      · rename_i halive
        rw [receive_bytes parse h.reads hm] at hstep
        cases hstep
        have hlog : switches (s.log ++ [injectionOf m].flatMap (inject d)) =
            switches s.log ++ acts d m := by
          rw [switches_append, List.flatMap_singleton]
          rfl
        constructor
        · exact h.reads
        · exact h.known
        · intro x hdown
          rw [hlog, Presses.down_append] at hdown
          exact acts_not_wheel (h.wheel x) hdown
        · refine ⟨rest, rfl, fun m' hm' => hfits m' (List.mem_cons_of_mem m hm'), ?_⟩
          intro hopen x hdown
          rw [hlog, List.append_assoc, ← List.flatMap_cons] at hdown
          exact hheld hopen x hdown
        · intro hclosed
          exact absurd hclosed halive

theorem heldLaw_preserved (parse : List UInt8 -> Option Json) (d : Display) :
    (controlSession parse d).Preserves EndsReleased (HeldLaw d) := by
  intro s e t h hguard hstep
  cases e with
  | opened =>
      simp only [controlSession, ControlSession.step] at hstep
      split at hstep
      · rename_i hconnecting
        cases hstep
        rcases h.held with ⟨ms, hwire, hfits, hheld⟩
        refine ⟨h.reads, h.known, h.wheel, ⟨ms, hwire, hfits, ?_⟩, h.closed⟩
        intro halive x hdown
        have hopen := (hheld halive x hdown).left
        rw [hconnecting] at hopen
        cases hopen
      · cases hstep
  | dom e =>
      simp only [controlSession, ControlSession.step] at hstep
      split at hstep
      · cases hstep
        exact h.sent (onDomEvent_known h.known e) (onDomEvent_fits h.known e)
          (fun x b hb hdown => onDomEvent_pressing hb e hdown) s.listening
      · cases hstep
  | modeChange control =>
      simp only [controlSession, ControlSession.step] at hstep
      split at hstep
      · cases hstep
        have hstopped := h.stopListening
        exact ⟨hstopped.reads, hstopped.known, hstopped.wheel, hstopped.held,
          hstopped.closed⟩
      · cases hstep
  | unmount =>
      simp only [controlSession, ControlSession.step] at hstep
      split at hstep
      · cases hstep
        have hstopped := (h.disconnect hguard).stopListening
        exact ⟨hstopped.reads, hstopped.known, hstopped.wheel, hstopped.held,
          hstopped.closed⟩
      · cases hstep
  | deliver => exact h.deliver hstep
  | connectionLoss =>
      have hdown := h.nothing_down hguard.left hguard.right
      cases hstep
      refine ⟨h.reads, h.known, h.wheel, ⟨[], rfl, ?_, ?_⟩, h.closed⟩
      · intro m hm
        cases hm
      · intro _ x hheld
        rw [List.flatMap_nil, List.append_nil, hdown x] at hheld
        cases hheld
  | agentEnds =>
      have hdown := h.nothing_down hguard.left hguard.right
      cases hstep
      refine ⟨h.reads, h.known, h.wheel, ⟨[], rfl, ?_, ?_⟩, fun _ => hdown⟩
      · intro m hm
        cases hm
      · intro halive
        cases halive

/-- In every run in which the viewer and the agent end only while nothing is pressed and
no release is on its way, every press has been released when the device is closed. -/
theorem released_when_closed (parse : List UInt8 -> Option Json) (d : Display)
    {session : RdSession} (hreads : ReadsInput session) {events : List SessionEvent}
    {s : ControlSession}
    (hmeets : (controlSession parse d).Meets EndsReleased (ControlSession.start session) events)
    (hrun : (controlSession parse d).run (ControlSession.start session) events = some s)
    (hclosed : s.deviceClosed = true) : forall x, Released s.log x := by
  intro x pre post hsplit
  have hlaw := (heldLaw_preserved parse d).run (heldLaw_start d hreads) hmeets hrun
  exact Presses.released_of_not_down (hlaw.closed hclosed x) hsplit

/-- A screen whose keyboard has the left Control key. -/
def controlDisplay : Display :=
  { screenW := 1920
    screenH := 1080
    keysymToKeycode := fun keysym => if keysym = 0xffe3 then 37 else 0 }

/-- The operator presses Control, and the agent receives it. -/
def controlPressed : List SessionEvent :=
  [SessionEvent.opened, SessionEvent.dom (DomEvent.keyDown "ControlLeft"),
    SessionEvent.deliver]

/-- Control is released before the page is left. -/
def releasedFirst : List SessionEvent :=
  controlPressed ++ [SessionEvent.dom (DomEvent.keyUp "ControlLeft"), SessionEvent.deliver,
    SessionEvent.unmount, SessionEvent.agentEnds]

theorem released_when_closed_control :
    exists s,
      (controlSession (fun _ => none) controlDisplay).run
          (ControlSession.start openControlSession) releasedFirst = some s ∧
        s.deviceClosed = true ∧
        s.log = [FakeEvent.key 37 true, FakeEvent.key 37 false] ∧
        Released s.log (Switch.key 37) := by
  refine ⟨_, rfl, rfl, rfl, ?_⟩
  exact @released_when_closed (fun _ => none) controlDisplay _ readsInput_openControlSession
    releasedFirst _ (by decide) rfl rfl (Switch.key 37)

/-- The page is left while Control is down: the clean-up of the first effect has taken the
socket away when `releaseAll` runs, and the agent closes its device with the key pressed. -/
theorem control_stays_pressed :
    (exists s,
      (controlSession (fun _ => none) controlDisplay).run
          (ControlSession.start openControlSession)
          (controlPressed ++ [SessionEvent.unmount, SessionEvent.agentEnds]) = some s ∧
        s.deviceClosed = true ∧ s.log = [FakeEvent.key 37 true]) ∧
    ¬ forall (parse : List UInt8 -> Option Json) (d : Display) (session : RdSession)
      (events : List SessionEvent) (s : ControlSession), ReadsInput session ->
        (controlSession parse d).run (ControlSession.start session) events = some s ->
          s.deviceClosed = true -> forall x, Released s.log x := by
  constructor
  · exact ⟨_, rfl, rfl, rfl⟩
  · intro hall
    have hreleased := hall (fun _ => none) controlDisplay openControlSession
      (controlPressed ++ [SessionEvent.unmount, SessionEvent.agentEnds]) _
      readsInput_openControlSession rfl rfl (Switch.key 37) [] [] rfl
    cases hreleased

end RemoteDesktop
end LeoOne
