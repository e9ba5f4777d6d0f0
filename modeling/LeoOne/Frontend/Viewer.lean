import LeoOne.Foundation.BigEndian
import Mathlib.Algebra.Order.Floor.Ring
import Mathlib.Data.Rat.Floor

/-!
# The viewer of a remote desktop

`RemoteDesktopViewer.tsx` and `remoteDesktopKeys.ts`: the frames that the viewer reads
from its socket and the input messages that its listeners write.  Numbers of JavaScript
are integers where the code only ever sees integers, and rationals in the pointer
arithmetic.
-/

namespace LeoOne
namespace Frontend

open Foundation

/-!
## Reading frames
-/

/-- A frame as `onmessage` reads it: its header and the bytes given to the decoder. -/
structure Frame where
  width : Nat
  height : Nat
  seq : Nat
  jpeg : List UInt8
  deriving DecidableEq

/-- `DataView.getUint16`, big endian. -/
def getUint16 (buf : List UInt8) (offset : Nat) : Nat :=
  BigEndian.value ((buf.drop offset).take 2)

/-- `DataView.getUint32`, big endian. -/
def getUint32 (buf : List UInt8) (offset : Nat) : Nat :=
  BigEndian.value ((buf.drop offset).take 4)

/-- The first part of `onmessage`; a message that is no frame is ignored. -/
def decodeFrame (buf : List UInt8) : Option Frame :=
  if buf.length < 9 ∨ buf.head? ≠ some 0x01 then none
  else
    some
      { width := getUint16 buf 1
        height := getUint16 buf 3
        seq := getUint32 buf 5
        jpeg := buf.drop 9 }

/-!
## Pointer, buttons and keys
-/

/-- `Math.round`: a half is rounded up. -/
def mathRound (v : ℚ) : Int :=
  ⌊v + 1 / 2⌋

/-- `getBoundingClientRect` of the canvas. -/
structure Rect where
  left : ℚ
  top : ℚ
  width : ℚ
  height : ℚ

/-- A ratio clamped to the unit interval.  A division by zero gives an infinity, which is
clamped too, or NaN, which the bit operations below take for zero. -/
def clampedRatio (offset extent : ℚ) : ℚ :=
  if extent = 0 then
    if 0 < offset then 1 else 0
  else min 1 (max 0 (offset / extent))

/-- `normalizedCoords`. -/
def normalizedCoords (rect : Rect) (clientX clientY : ℚ) : Int × Int :=
  let rx := clampedRatio (clientX - rect.left) rect.width
  let ry := clampedRatio (clientY - rect.top) rect.height
  (mathRound (rx * 65535), mathRound (ry * 65535))

/-- `leoButton`. -/
def leoButton (domButton : Int) : Nat :=
  if domButton = 0 then 1 else if domButton = 1 then 2 else 3

/-- `CODE_TO_KEY`. -/
def codeToKey : List (String × Nat) :=
  [("KeyA", 1), ("KeyB", 2), ("KeyC", 3), ("KeyD", 4), ("KeyE", 5), ("KeyF", 6),
    ("KeyG", 7), ("KeyH", 8), ("KeyI", 9), ("KeyJ", 10), ("KeyK", 11), ("KeyL", 12),
    ("KeyM", 13), ("KeyN", 14), ("KeyO", 15), ("KeyP", 16), ("KeyQ", 17), ("KeyR", 18),
    ("KeyS", 19), ("KeyT", 20), ("KeyU", 21), ("KeyV", 22), ("KeyW", 23), ("KeyX", 24),
    ("KeyY", 25), ("KeyZ", 26),
    ("Digit0", 27), ("Digit1", 28), ("Digit2", 29), ("Digit3", 30), ("Digit4", 31),
    ("Digit5", 32), ("Digit6", 33), ("Digit7", 34), ("Digit8", 35), ("Digit9", 36),
    ("Enter", 37), ("Escape", 38), ("Backspace", 39), ("Tab", 40), ("Space", 41),
    ("Minus", 42), ("Equal", 43), ("BracketLeft", 44), ("BracketRight", 45),
    ("Backslash", 46), ("Semicolon", 47), ("Quote", 48), ("Backquote", 49),
    ("Comma", 50), ("Period", 51), ("Slash", 52), ("CapsLock", 53),
    ("F1", 54), ("F2", 55), ("F3", 56), ("F4", 57), ("F5", 58), ("F6", 59),
    ("F7", 60), ("F8", 61), ("F9", 62), ("F10", 63), ("F11", 64), ("F12", 65),
    ("PrintScreen", 66), ("ScrollLock", 67), ("Pause", 68), ("Insert", 69), ("Home", 70),
    ("PageUp", 71), ("Delete", 72), ("End", 73), ("PageDown", 74),
    ("ArrowRight", 75), ("ArrowLeft", 76), ("ArrowDown", 77), ("ArrowUp", 78),
    ("NumLock", 79),
    ("ControlLeft", 80), ("ShiftLeft", 81), ("AltLeft", 82), ("MetaLeft", 83),
    ("ControlRight", 84), ("ShiftRight", 85), ("AltRight", 86), ("MetaRight", 87)]

/-- `leoKeyForCode`. -/
def leoKeyForCode (code : String) : Option Nat :=
  codeToKey.lookup code

/-!
## Writing input messages
-/

/-- The message that a listener sends. -/
inductive InputMessage where
  | move (x y : Int)
  | button (button : Nat) (down : Bool)
  | scroll (notches : Int)
  | key (key : Nat) (down : Bool)
  deriving DecidableEq

/-- An element of a `Uint8Array`. -/
def toUint8 (n : Nat) : UInt8 :=
  UInt8.ofNat n

/-- `[(n >> 8) & 0xff, n & 0xff]` in a `Uint8Array`. -/
def int16Bytes (n : Int) : List UInt8 :=
  let word := BitVec.ofInt 32 n
  [BigEndian.signedByte word 8, BigEndian.signedByte word 0]

/-- The array that is given to `send`. -/
def InputMessage.bytes : InputMessage -> List UInt8
  | move x y => 0x10 :: int16Bytes x ++ int16Bytes y
  | button b down => [0x11, toUint8 b, if down then 1 else 0]
  | scroll notches => 0x12 :: int16Bytes notches
  | key k down => [0x13, toUint8 k, if down then 1 else 0]

/-- The notches of a wheel event. -/
def wheelNotches (deltaY : ℚ) : Int :=
  min 10 (max 1 (mathRound (|deltaY| / 100))) * (if 0 < deltaY then -1 else 1)

/-- `pressedKeysRef` and `pressedButtonsRef`, sets in insertion order. -/
structure Pressed where
  keys : List Nat
  buttons : List Int
  deriving DecidableEq

/-- `Set.prototype.add`. -/
def setAdd {α : Type} [DecidableEq α] (xs : List α) (x : α) : List α :=
  if x ∈ xs then xs else xs ++ [x]

/-- `Set.prototype.delete`. -/
def setDelete {α : Type} [DecidableEq α] (xs : List α) (x : α) : List α :=
  xs.filter (· ≠ x)

/-- The state of the two sets when the component is mounted. -/
def Pressed.none : Pressed :=
  { keys := [], buttons := [] }

/-- The events that the listeners of the control mode handle. -/
inductive DomEvent where
  | mouseMove (rect : Rect) (clientX clientY : ℚ)
  | mouseDown (button : Int)
  | mouseUp (button : Int)
  | wheel (deltaY : ℚ)
  | contextMenu
  | keyDown (code : String)
  | keyUp (code : String)
  | blur
  | visibilityChange (visible : Bool)

/-- `releaseAll`, with the messages that it sends. -/
def releaseAll (p : Pressed) : Pressed × List InputMessage :=
  (Pressed.none,
    p.keys.map (fun key => InputMessage.key key false) ++
      p.buttons.map (fun button => InputMessage.button (leoButton button) false))

/-- The listeners, with the messages that they send. -/
def onDomEvent (p : Pressed) : DomEvent -> Pressed × List InputMessage
  | DomEvent.mouseMove rect clientX clientY =>
      let (x, y) := normalizedCoords rect clientX clientY
      (p, [InputMessage.move x y])
  | DomEvent.mouseDown button =>
      ({ p with buttons := setAdd p.buttons button },
        [InputMessage.button (leoButton button) true])
  | DomEvent.mouseUp button =>
      ({ p with buttons := setDelete p.buttons button },
        [InputMessage.button (leoButton button) false])
  | DomEvent.wheel deltaY => (p, [InputMessage.scroll (wheelNotches deltaY)])
  | DomEvent.contextMenu => (p, [])
  | DomEvent.keyDown code =>
      match leoKeyForCode code with
      | none => (p, [])
      | some key =>
          ({ p with keys := setAdd p.keys key }, [InputMessage.key key true])
  | DomEvent.keyUp code =>
      match leoKeyForCode code with
      | none => (p, [])
      | some key =>
          ({ p with keys := setDelete p.keys key }, [InputMessage.key key false])
  | DomEvent.blur => releaseAll p
  | DomEvent.visibilityChange visible => if visible then (p, []) else releaseAll p

theorem mem_setAdd {α : Type} [DecidableEq α] {xs : List α} {x y : α} :
    y ∈ setAdd xs x <-> y ∈ xs ∨ y = x := by
  unfold setAdd
  split
  · rename_i hmem
    constructor
    · exact Or.inl
    · intro h
      rcases h with hold | hnew
      · exact hold
      · rw [hnew]
        exact hmem
  · rw [List.mem_append, List.mem_singleton]

theorem mem_setDelete {α : Type} [DecidableEq α] {xs : List α} {x y : α} :
    y ∈ setDelete xs x <-> y ∈ xs ∧ y ≠ x := by
  rw [setDelete, List.mem_filter, decide_eq_true_iff]

/-- The messages that the listeners send while events come in. -/
def emitted : Pressed -> List DomEvent -> List InputMessage
  | _, [] => []
  | p, e :: es => (onDomEvent p e).2 ++ emitted (onDomEvent p e).1 es

/-!
## The range of the messages
-/

/-- The fields of a message fit the bytes that they are written to. -/
def InputMessage.Fits : InputMessage -> Prop
  | move x y => (0 ≤ x ∧ x ≤ 65535) ∧ 0 ≤ y ∧ y ≤ 65535
  | button b _ => b < 256
  | scroll notches => -32768 ≤ notches ∧ notches < 32768
  | key k _ => k < 256

instance : forall m : InputMessage, Decidable m.Fits
  | InputMessage.move x y =>
      inferInstanceAs (Decidable ((0 ≤ x ∧ x ≤ 65535) ∧ 0 ≤ y ∧ y ≤ 65535))
  | InputMessage.button b _ => inferInstanceAs (Decidable (b < 256))
  | InputMessage.scroll notches =>
      inferInstanceAs (Decidable (-32768 ≤ notches ∧ notches < 32768))
  | InputMessage.key k _ => inferInstanceAs (Decidable (k < 256))

theorem clampedRatio_unit (offset extent : ℚ) :
    0 ≤ clampedRatio offset extent ∧ clampedRatio offset extent ≤ 1 := by
  unfold clampedRatio
  split
  · split
    · exact ⟨zero_le_one, le_refl 1⟩
    · exact ⟨le_refl 0, zero_le_one⟩
  · exact ⟨le_min zero_le_one (le_max_left 0 _), min_le_left 1 _⟩

theorem mathRound_coordinate {r : ℚ} (hlow : 0 ≤ r) (hhigh : r ≤ 1) :
    0 ≤ mathRound (r * 65535) ∧ mathRound (r * 65535) ≤ 65535 := by
  constructor
  · apply Int.floor_nonneg.mpr
    linarith
  · have hlt : mathRound (r * 65535) < 65536 := by
      apply Int.floor_lt.mpr
      push_cast
      linarith
    omega

theorem wheelNotches_range (deltaY : ℚ) :
    -10 ≤ wheelNotches deltaY ∧ wheelNotches deltaY ≤ 10 := by
  have hcount : 1 ≤ min 10 (max 1 (mathRound (|deltaY| / 100))) :=
    le_min (by decide) (le_max_left 1 _)
  have hmost : min 10 (max 1 (mathRound (|deltaY| / 100))) ≤ 10 := min_le_left 10 _
  unfold wheelNotches
  split <;> omega

theorem leoButton_range (domButton : Int) :
    1 ≤ leoButton domButton ∧ leoButton domButton ≤ 3 := by
  unfold leoButton
  split
  · decide
  · split <;> decide

theorem mem_of_lookup {code : String} {key : Nat} {table : List (String × Nat)}
    (h : table.lookup code = some key) : (code, key) ∈ table := by
  induction table with
  | nil =>
      cases h
  | cons entry rest ih =>
      rw [List.lookup_cons] at h
      split at h
      · rename_i hsame
        cases h
        rw [eq_of_beq hsame]
        exact List.mem_cons_self
      · exact List.mem_cons_of_mem entry (ih h)

theorem leoKeyForCode_range {code : String} {key : Nat}
    (h : leoKeyForCode code = some key) : 1 ≤ key ∧ key ≤ 87 := by
  have htable : forall entry, entry ∈ codeToKey -> 1 ≤ entry.2 ∧ entry.2 ≤ 87 := by
    decide
  exact htable (code, key) (mem_of_lookup h)

/-- Every pressed key is one of the table. -/
def Pressed.Known (p : Pressed) : Prop :=
  forall key, key ∈ p.keys -> 1 ≤ key ∧ key ≤ 87

theorem fits_move (rect : Rect) (clientX clientY : ℚ) :
    (InputMessage.move (normalizedCoords rect clientX clientY).1
      (normalizedCoords rect clientX clientY).2).Fits := by
  have hx := clampedRatio_unit (clientX - rect.left) rect.width
  have hy := clampedRatio_unit (clientY - rect.top) rect.height
  exact ⟨mathRound_coordinate hx.left hx.right, mathRound_coordinate hy.left hy.right⟩

theorem fits_button (domButton : Int) (down : Bool) :
    (InputMessage.button (leoButton domButton) down).Fits := by
  have h := (leoButton_range domButton).right
  show leoButton domButton < 256
  omega

theorem fits_key {key : Nat} (h : 1 ≤ key ∧ key ≤ 87) (down : Bool) :
    (InputMessage.key key down).Fits := by
  show key < 256
  omega

theorem fits_wheel (deltaY : ℚ) : (InputMessage.scroll (wheelNotches deltaY)).Fits := by
  have h := wheelNotches_range deltaY
  exact ⟨by omega, by omega⟩

theorem known_none : Pressed.none.Known := by
  intro key hkey
  cases hkey

theorem releaseAll_fits {p : Pressed} (h : p.Known) :
    forall m, m ∈ (releaseAll p).2 -> m.Fits := by
  intro m hm
  rcases List.mem_append.mp hm with hkey | hbutton
  · rcases List.mem_map.mp hkey with ⟨key, hpressed, heq⟩
    rw [← heq]
    exact fits_key (h key hpressed) false
  · rcases List.mem_map.mp hbutton with ⟨button, _, heq⟩
    rw [← heq]
    exact fits_button button false

theorem onDomEvent_known {p : Pressed} (h : p.Known) (e : DomEvent) : (onDomEvent p e).1.Known := by
  cases e with
  | mouseMove rect clientX clientY => exact h
  | mouseDown button => exact h
  | mouseUp button => exact h
  | wheel deltaY => exact h
  | contextMenu => exact h
  | keyDown code =>
      simp only [onDomEvent]
      split
      · exact h
      · rename_i key hcode
        intro k hk
        rcases mem_setAdd.mp hk with hold | hnew
        · exact h k hold
        · rw [hnew]
          exact leoKeyForCode_range hcode
  | keyUp code =>
      simp only [onDomEvent]
      split
      · exact h
      · intro k hk
        exact h k (mem_setDelete.mp hk).left
  | blur => exact known_none
  | visibilityChange visible =>
      simp only [onDomEvent]
      split
      · exact h
      · exact known_none

theorem onDomEvent_fits {p : Pressed} (h : p.Known) (e : DomEvent) :
    forall m, m ∈ (onDomEvent p e).2 -> m.Fits := by
  cases e with
  | mouseMove rect clientX clientY =>
      intro m hm
      rw [List.mem_singleton.mp hm]
      exact fits_move rect clientX clientY
  | mouseDown button =>
      intro m hm
      rw [List.mem_singleton.mp hm]
      exact fits_button button true
  | mouseUp button =>
      intro m hm
      rw [List.mem_singleton.mp hm]
      exact fits_button button false
  | wheel deltaY =>
      intro m hm
      rw [List.mem_singleton.mp hm]
      exact fits_wheel deltaY
  | contextMenu =>
      intro m hm
      cases hm
  | keyDown code =>
      intro m hm
      simp only [onDomEvent] at hm
      split at hm
      · cases hm
      · rename_i key hcode
        rw [List.mem_singleton.mp hm]
        exact fits_key (leoKeyForCode_range hcode) true
  | keyUp code =>
      intro m hm
      simp only [onDomEvent] at hm
      split at hm
      · cases hm
      · rename_i key hcode
        rw [List.mem_singleton.mp hm]
        exact fits_key (leoKeyForCode_range hcode) false
  | blur => exact releaseAll_fits h
  | visibilityChange visible =>
      intro m hm
      simp only [onDomEvent] at hm
      split at hm
      · cases hm
      · exact releaseAll_fits h m hm

/-- Every message of the viewer fits, whatever events it has handled. -/
theorem emitted_fits {p : Pressed} (h : p.Known) (es : List DomEvent) :
    forall m, m ∈ emitted p es -> m.Fits := by
  induction es generalizing p with
  | nil =>
      intro m hm
      cases hm
  | cons e es ih =>
      intro m hm
      rcases List.mem_append.mp hm with hnow | hlater
      · exact onDomEvent_fits h e m hnow
      · exact ih (onDomEvent_known h e) m hlater

end Frontend
end LeoOne
