import LeoOne.Agent.RemoteDesktop

/-!
# Injecting input on Linux

`input_linux.c`: what the functions `leo_rd_input_*` ask of the XTest extension.
The size of the screen and the keyboard map belong to the X server.
-/

namespace LeoOne
namespace Agent

/-- The X server: the size of its screen and `XKeysymToKeycode`, which is zero for a
keysym that no key of the keyboard produces. -/
structure Display where
  screenW : Int
  screenH : Int
  keysymToKeycode : Nat -> Nat

/-- A call of `XTestFakeMotionEvent`, `XTestFakeButtonEvent` or `XTestFakeKeyEvent`. -/
inductive FakeEvent where
  | motion (x y : Int)
  | button (button : Nat) (down : Bool)
  | key (keycode : Nat) (down : Bool)
  deriving DecidableEq

/-- The keysyms of the keys of `leo_rd_key_t`, in the order of the enumeration from
`LEO_KEY_A` on. -/
def keysyms : List Nat :=
  [0x61, 0x62, 0x63, 0x64, 0x65, 0x66, 0x67, 0x68, 0x69, 0x6a, 0x6b, 0x6c, 0x6d,
    0x6e, 0x6f, 0x70, 0x71, 0x72, 0x73, 0x74, 0x75, 0x76, 0x77, 0x78, 0x79, 0x7a,
    -- the digits
    0x30, 0x31, 0x32, 0x33, 0x34, 0x35, 0x36, 0x37, 0x38, 0x39,
    -- Return, Escape, BackSpace, Tab, space
    0xff0d, 0xff1b, 0xff08, 0xff09, 0x20,
    -- minus, equal, the brackets, backslash, semicolon, apostrophe, grave
    0x2d, 0x3d, 0x5b, 0x5d, 0x5c, 0x3b, 0x27, 0x60,
    -- comma, period, slash, Caps_Lock
    0x2c, 0x2e, 0x2f, 0xffe5,
    -- F1 to F12
    0xffbe, 0xffbf, 0xffc0, 0xffc1, 0xffc2, 0xffc3, 0xffc4, 0xffc5, 0xffc6, 0xffc7,
    0xffc8, 0xffc9,
    -- Print, Scroll_Lock, Pause, Insert, Home, Page_Up, Delete, End, Page_Down
    0xff61, 0xff14, 0xff13, 0xff63, 0xff50, 0xff55, 0xffff, 0xff57, 0xff56,
    -- Right, Left, Down, Up, Num_Lock
    0xff53, 0xff51, 0xff54, 0xff52, 0xff7f,
    -- Control_L, Shift_L, Alt_L, Super_L and the same keys on the right
    0xffe3, 0xffe1, 0xffe9, 0xffeb, 0xffe4, 0xffe2, 0xffea, 0xffec]

/-- `_keysym_for`; `NoSymbol` for a value that is no key. -/
def keysymFor (key : UInt8) : Option Nat :=
  match key.toNat with
  | 0 => none
  | i + 1 => keysyms[i]?

/-- `leo_rd_input_move`. -/
def leoRdInputMove (d : Display) (x y : Nat) : List FakeEvent :=
  let px := ((x : Int) * (d.screenW - 1)).tdiv 65535
  let py := ((y : Int) * (d.screenH - 1)).tdiv 65535
  [FakeEvent.motion px py]

/-- `leo_rd_input_button`. -/
def leoRdInputButton (button : UInt8) (down : Bool) : List FakeEvent :=
  if button < 1 ∨ 3 < button then [] else [FakeEvent.button button.toNat down]

/-- `leo_rd_input_scroll`: a notch is a click of button 4 or 5. -/
def leoRdInputScroll (delta : Int) : List FakeEvent :=
  if delta = 0 then []
  else
    let btn := if 0 < delta then 4 else 5
    let count := min delta.natAbs 10
    (List.replicate count [FakeEvent.button btn true, FakeEvent.button btn false]).flatten

/-- `leo_rd_input_key`. -/
def leoRdInputKey (d : Display) (key : UInt8) (down : Bool) : List FakeEvent :=
  match keysymFor key with
  | none => []
  | some keysym =>
      let keycode := d.keysymToKeycode keysym
      if keycode = 0 then [] else [FakeEvent.key keycode down]

/-- What a decoded message asks of the X server. -/
def inject (d : Display) : Injection -> List FakeEvent
  | Injection.move x y => leoRdInputMove d x y
  | Injection.button button down => leoRdInputButton button down
  | Injection.scroll delta => leoRdInputScroll delta
  | Injection.key key down => leoRdInputKey d key down

end Agent
end LeoOne
