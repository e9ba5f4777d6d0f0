import LeoOne.Agent.Picture
import LeoOne.Agent.RemoteDesktop
import LeoOne.Frontend.Viewer

/-!
# The binary messages of a remote desktop

The agent writes frames that the viewer reads, and the viewer writes input messages
that the agent reads: each side spells the layout by hand, and both directions agree.
-/

namespace LeoOne
namespace RemoteDesktop

open Foundation Wire Agent Frontend

/-!
## Frames
-/

theorem take_append_bytes (k n : Nat) (rest : List UInt8) :
    (BigEndian.bytes k n ++ rest).take k = BigEndian.bytes k n := by
  rw [List.take_left' (BigEndian.length_bytes k n)]

theorem drop_append_bytes (k n : Nat) (rest : List UInt8) :
    (BigEndian.bytes k n ++ rest).drop k = rest := by
  rw [List.drop_left' (BigEndian.length_bytes k n)]

/-- The viewer reads the frame that the agent has written. -/
theorem decodeFrame_frameMessage {width height : Nat} (seq : UInt32) (jpeg : List UInt8)
    (hwidth : width < 2 ^ 16) (hheight : height < 2 ^ 16) :
    decodeFrame (frameMessage width height seq jpeg) =
      some { width := width, height := height, seq := seq.toNat, jpeg := jpeg } := by
  have hparts := frameMessage_eq seq jpeg hwidth hheight
  have hlong : ¬ ((frameMessage width height seq jpeg).length < 9 ∨
      (frameMessage width height seq jpeg).head? ≠ some 0x01) := by
    rw [hparts]
    intro h
    rcases h with hshort | hhead
    · simp only [List.length_cons, List.length_append, BigEndian.length_bytes] at hshort
      omega
    · exact hhead rfl
  have hheightAt : (frameMessage width height seq jpeg).drop 3 =
      BigEndian.bytes 2 height ++ (BigEndian.bytes 4 seq.toNat ++ jpeg) := by
    rw [hparts]
    exact drop_append_bytes 2 width _
  have hseqAt : (frameMessage width height seq jpeg).drop 5 =
      BigEndian.bytes 4 seq.toNat ++ jpeg := by
    rw [← drop_append_bytes 2 height (BigEndian.bytes 4 seq.toNat ++ jpeg), ← hheightAt,
      List.drop_drop]
  have hjpegAt : (frameMessage width height seq jpeg).drop 9 = jpeg := by
    calc (frameMessage width height seq jpeg).drop 9
        = ((frameMessage width height seq jpeg).drop 5).drop 4 := by
          rw [List.drop_drop]
      _ = jpeg := by
          rw [hseqAt, drop_append_bytes]
  have hreadWidth : getUint16 (frameMessage width height seq jpeg) 1 = width := by
    rw [getUint16, hparts, List.drop_one, List.tail_cons, take_append_bytes]
    exact BigEndian.value_bytes_of_lt hwidth
  have hreadHeight : getUint16 (frameMessage width height seq jpeg) 3 = height := by
    rw [getUint16, hheightAt, take_append_bytes]
    exact BigEndian.value_bytes_of_lt hheight
  have hreadSeq : getUint32 (frameMessage width height seq jpeg) 5 = seq.toNat := by
    rw [getUint32, hseqAt, take_append_bytes]
    exact BigEndian.value_bytes_of_lt seq.toNat_lt
  rw [decodeFrame, if_neg hlong, hreadWidth, hreadHeight, hreadSeq, hjpegAt]

/-!
## Input
-/

/-- The agent handles input: the session is one of the control mode, its input device is
open, and its connection is established. -/
structure ReadsInput (s : RdSession) : Prop where
  control : s.controlMode = true
  input : s.input = true
  established : s.established = true

theorem readsInput_establish {s : RdSession} (h : s.controlMode = true) :
    ReadsInput (establish true true s) := by
  have heq : establish true true s =
      { s with capture := true, input := true, established := true } := by
    simp only [establish, h, Bool.not_true, Bool.false_eq_true, if_false]
  rw [heq]
  exact ⟨h, rfl, rfl⟩

/-- A session of the control mode after its connection has been established. -/
def openControlSession : RdSession :=
  establish true true
    { sessionId := utf8 "s"
      wsUrl := utf8 "wss://h/"
      controlMode := true
      fps := 8
      quality := 60
      maxWidth := 1920
      maxHeight := 1080
      url := { host := utf8 "h", port := 443, path := utf8 "/" }
      capture := false
      input := false
      frameSeq := 0
      consecutiveCaptureFailures := 0
      established := false
      done := false
      failReason := [] }

theorem readsInput_openControlSession : ReadsInput openControlSession :=
  readsInput_establish rfl

/-- The event that a call of `leo_rd_input_*` stands for. -/
def eventOf : Injection -> InputMessage
  | Injection.move x y => InputMessage.move x y
  | Injection.button button down => InputMessage.button button.toNat down
  | Injection.scroll delta => InputMessage.scroll delta
  | Injection.key key down => InputMessage.key key.toNat down

/-- The call that the agent makes for a message. -/
def injectionOf : InputMessage -> Injection
  | InputMessage.move x y => Injection.move x.toNat y.toNat
  | InputMessage.button button down => Injection.button (toUint8 button) down
  | InputMessage.scroll notches => Injection.scroll notches
  | InputMessage.key key down => Injection.key (toUint8 key) down

theorem int16Bytes_eq (n : Int) :
    int16Bytes n = BigEndian.bytes 2 (BitVec.ofInt 32 n).toNat := by
  rw [← BigEndian.bytes_two]
  rfl

theorem value_int16Bytes {n : Int} (hlow : 0 ≤ n) (hhigh : n ≤ 65535) :
    BigEndian.value (int16Bytes n) = n.toNat := by
  have hword : (BitVec.ofInt 32 n).toNat = n.toNat := by
    rw [BitVec.toNat_ofInt]
    omega
  rw [int16Bytes_eq, hword]
  exact BigEndian.value_bytes_of_lt (by omega)

theorem u16be_int16Bytes (n : Int) :
    u16be (BigEndian.signedByte (BitVec.ofInt 32 n) 8)
      (BigEndian.signedByte (BitVec.ofInt 32 n) 0) = BigEndian.value (int16Bytes n) :=
  (BigEndian.value_pair _ _).symm

theorem pressByte_eq (down : Bool) : decide ((if down then 1 else 0 : UInt8) ≠ 0) = down := by
  cases down <;> rfl

theorem handle_move {s : RdSession} (hs : ReadsInput s) (a b c d : UInt8) :
    handleInputMessage s [0x10, a, b, c, d] = [Injection.move (u16be a b) (u16be c d)] := by
  simp [handleInputMessage, hs.control, hs.input]

theorem handle_button {s : RdSession} (hs : ReadsInput s) (a b : UInt8) :
    handleInputMessage s [0x11, a, b] = [Injection.button a (b ≠ 0)] := by
  simp [handleInputMessage, hs.control, hs.input]

theorem handle_scroll {s : RdSession} (hs : ReadsInput s) (a b : UInt8) :
    handleInputMessage s [0x12, a, b] =
      [Injection.scroll (BitVec.ofNat 16 (u16be a b)).toInt] := by
  simp [handleInputMessage, hs.control, hs.input]

theorem handle_key {s : RdSession} (hs : ReadsInput s) (a b : UInt8) :
    handleInputMessage s [0x13, a, b] = [Injection.key a (b ≠ 0)] := by
  simp [handleInputMessage, hs.control, hs.input]

/-- The agent decodes a message of the viewer into one call of its own type. -/
theorem handleInputMessage_bytes {s : RdSession} (hs : ReadsInput s) {m : InputMessage}
    (hm : m.Fits) : handleInputMessage s m.bytes = [injectionOf m] := by
  cases m with
  | move x y =>
      have hx := value_int16Bytes hm.left.left hm.left.right
      have hy := value_int16Bytes hm.right.left hm.right.right
      rw [← u16be_int16Bytes] at hx hy
      exact (handle_move hs _ _ _ _).trans (by rw [hx, hy, injectionOf])
  | button button down =>
      exact (handle_button hs _ _).trans (by rw [pressByte_eq, injectionOf])
  | scroll notches =>
      have hvalue := BigEndian.toInt_bytes_two hm.left hm.right
      rw [← int16Bytes_eq, ← u16be_int16Bytes] at hvalue
      exact (handle_scroll hs _ _).trans (by rw [hvalue, injectionOf])
  | key key down =>
      exact (handle_key hs _ _).trans (by rw [pressByte_eq, injectionOf])

theorem eventOf_injectionOf {m : InputMessage} (hm : m.Fits) : eventOf (injectionOf m) = m := by
  cases m with
  | move x y =>
      rcases hm with ⟨⟨hx, _⟩, hy, _⟩
      rw [injectionOf, eventOf, Int.toNat_of_nonneg hx, Int.toNat_of_nonneg hy]
  | button button down =>
      rw [injectionOf, eventOf, toUint8, UInt8.toNat_ofNat_of_lt' hm]
  | scroll notches => rfl
  | key key down =>
      rw [injectionOf, eventOf, toUint8, UInt8.toNat_ofNat_of_lt' hm]

theorem receive_bytes (parse : List UInt8 -> Option Json) {s : RdSession} (hs : ReadsInput s)
    {m : InputMessage} (hm : m.Fits) : receive parse s m.bytes = (s, [injectionOf m]) := by
  have hinput : receive parse s m.bytes = (s, handleInputMessage s m.bytes) := by
    cases m with
    | move x y => simp [receive, hs.established, InputMessage.bytes]
    | button button down => simp [receive, hs.established, InputMessage.bytes]
    | scroll notches => simp [receive, hs.established, InputMessage.bytes]
    | key key down => simp [receive, hs.established, InputMessage.bytes]
  rw [hinput, handleInputMessage_bytes hs hm]

/-- Both directions of the protocol are exact: the viewer reads every frame back, every
message that it can send is in range, and the agent answers a message in range with the
one call that stands for the same event, and changes nothing else. -/
theorem codec_exact :
    (forall (width height : Nat) (seq : UInt32) (jpeg : List UInt8),
      width < 2 ^ 16 -> height < 2 ^ 16 ->
        decodeFrame (frameMessage width height seq jpeg) =
          some { width := width, height := height, seq := seq.toNat, jpeg := jpeg }) ∧
    (forall (events : List DomEvent) m, m ∈ emitted Pressed.none events -> m.Fits) ∧
    forall (parse : List UInt8 -> Option Json) (s : RdSession) (m : InputMessage),
      ReadsInput s -> m.Fits ->
        exists i, receive parse s m.bytes = (s, [i]) ∧ eventOf i = m := by
  have hframes (width height : Nat) (seq : UInt32) (jpeg : List UInt8)
      (hwidth : width < 2 ^ 16) (hheight : height < 2 ^ 16) :=
    decodeFrame_frameMessage seq jpeg hwidth hheight
  have hinput (parse : List UInt8 -> Option Json) (s : RdSession) (m : InputMessage)
      (hs : ReadsInput s) (hm : m.Fits) :
      exists i, receive parse s m.bytes = (s, [i]) ∧ eventOf i = m :=
    ⟨injectionOf m, receive_bytes parse hs hm, eventOf_injectionOf hm⟩
  exact ⟨hframes, emitted_fits known_none, hinput⟩

/-- A full frame, and a wheel that turns three notches down. -/
theorem codec_exact_sample :
    decodeFrame (frameMessage 1920 1080 70000 [0xff, 0xd8]) =
        some { width := 1920, height := 1080, seq := 70000, jpeg := [0xff, 0xd8] } ∧
      exists i, receive (fun _ => none) openControlSession [0x12, 0xff, 0xfd] =
          (openControlSession, [i]) ∧ eventOf i = InputMessage.scroll (-3) := by
  have hframe := codec_exact.left 1920 1080 70000 [0xff, 0xd8] (by decide) (by decide)
  have hinput := codec_exact.right.right (fun _ => none) openControlSession
    (InputMessage.scroll (-3)) readsInput_openControlSession (by decide)
  exact ⟨hframe, hinput⟩

end RemoteDesktop
end LeoOne
