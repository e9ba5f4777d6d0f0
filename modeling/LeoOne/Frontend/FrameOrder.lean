import LeoOne.Foundation.Machine
import LeoOne.Foundation.Newest
import LeoOne.Frontend.Viewer
import Mathlib.Data.List.Nodup
import Mathlib.Data.List.Perm.Basic

/-!
# The order of the frames on the canvas

`onmessage` suspends at `createImageBitmap`, so the frames of a session are decoded
concurrently, and finish or fail in any order.  The cell `lastFrameSeqRef` keeps an old
frame from covering a newer one.
-/

namespace LeoOne
namespace Frontend

open Foundation

/-- The canvas, with the frame whose bitmap covers it. -/
structure Canvas where
  width : Nat
  height : Nat
  picture : Option Frame
  deriving DecidableEq

/-- Assigning the size of a canvas clears it. -/
def Canvas.resize (width height : Nat) : Canvas :=
  { width := width, height := height, picture := none }

/-- `drawImage(bitmap, 0, 0)`. -/
def Canvas.drawImage (c : Canvas) (f : Frame) : Canvas :=
  { c with picture := some f }

/-- The viewer of one session: what its handlers share, the handlers that wait for their
bitmap, and the history of the session. -/
structure FrameViewer where
  lastFrameSeq : Int
  canvas : Canvas
  pending : List Frame
  received : List Frame
  decoded : List Frame
  failed : List Frame
  drawn : List Frame
  deriving DecidableEq

/-- The component when it is mounted; a canvas has 300 by 150 pixels at first. -/
def FrameViewer.start : FrameViewer :=
  { lastFrameSeq := -1
    canvas := Canvas.resize 300 150
    pending := []
    received := []
    decoded := []
    failed := []
    drawn := [] }

/-- The part of `onmessage` after the bitmap has been decoded. -/
def FrameViewer.show (s : FrameViewer) (f : Frame) : FrameViewer :=
  if f.seq ≤ s.lastFrameSeq then s
  else
    let canvas :=
      if s.canvas.width ≠ f.width ∨ s.canvas.height ≠ f.height then
        Canvas.resize f.width f.height
      else s.canvas
    { s with
      lastFrameSeq := f.seq
      canvas := canvas.drawImage f
      drawn := s.drawn ++ [f] }

/-- A message comes in, or the promise of a pending handler is settled. -/
inductive FrameEvent where
  | message (buf : List UInt8)
  | decoded (i : Nat)
  | failed (i : Nat)

def FrameViewer.step (s : FrameViewer) : FrameEvent -> Option FrameViewer
  | FrameEvent.message buf =>
      match decodeFrame buf with
      | none => some s
      | some f => some { s with pending := s.pending ++ [f], received := s.received ++ [f] }
  | FrameEvent.decoded i =>
      match s.pending[i]? with
      | none => none
      | some f =>
          some
            (FrameViewer.show
              { s with pending := s.pending.eraseIdx i, decoded := s.decoded ++ [f] } f)
  | FrameEvent.failed i =>
      match s.pending[i]? with
      | none => none
      | some f =>
          some { s with pending := s.pending.eraseIdx i, failed := s.failed ++ [f] }

def frameViewer : Machine FrameViewer FrameEvent where
  step := FrameViewer.step

/-- The key that orders the frames. -/
def Frame.order (f : Frame) : Int :=
  f.seq

/-- The canvas while the last frame drawn is the given one. -/
def canvasOf : Option Frame -> Canvas
  | none => Canvas.resize 300 150
  | some f => { width := f.width, height := f.height, picture := some f }

/-- The cell and the canvas follow the offers of the decoded frames, and no frame is
lost. -/
structure FrameLaw (s : FrameViewer) : Prop where
  last : s.lastFrameSeq = Newest.held Frame.order (-1) s.decoded
  drawn : s.drawn = Newest.taken Frame.order (-1) s.decoded
  canvas : s.canvas = canvasOf s.drawn.getLast?
  settled : List.Perm s.received (s.pending ++ (s.decoded ++ s.failed))

theorem frameLaw_start : FrameLaw FrameViewer.start :=
  ⟨rfl, rfl, rfl, List.Perm.refl []⟩

/-- The canvas that a frame is drawn on shows it at its own size. -/
theorem canvas_drawn (c : Canvas) (f : Frame) :
    (if c.width ≠ f.width ∨ c.height ≠ f.height then Canvas.resize f.width f.height
      else c).drawImage f = canvasOf (some f) := by
  split
  · rfl
  · rename_i hsame
    have hwidth : c.width = f.width := not_not.mp fun h => hsame (Or.inl h)
    have hheight : c.height = f.height := not_not.mp fun h => hsame (Or.inr h)
    rw [Canvas.drawImage, hwidth, hheight]
    rfl

/-- A handler that leaves the queue has its frame counted elsewhere. -/
theorem settled_perm {received pending rest settled : List Frame} {i : Nat} {f : Frame}
    (h : List.Perm received (pending ++ rest)) (hpending : pending[i]? = some f)
    (hsettled : List.Perm (f :: rest) settled) :
    List.Perm received (pending.eraseIdx i ++ settled) := by
  rcases List.getElem?_eq_some_iff.mp hpending with ⟨hi, hf⟩
  have hqueue : List.Perm pending (pending.eraseIdx i ++ [f]) := by
    have hmoved := List.getElem_cons_eraseIdx_perm hi
    rw [hf] at hmoved
    exact hmoved.symm.trans (List.perm_append_singleton f (pending.eraseIdx i)).symm
  have hmoved : List.Perm (pending ++ rest) (pending.eraseIdx i ++ (f :: rest)) := by
    have happend := hqueue.append_right rest
    rw [List.append_assoc, List.singleton_append] at happend
    exact happend
  exact h.trans (hmoved.trans (hsettled.append_left (pending.eraseIdx i)))

theorem FrameLaw.decoded {s : FrameViewer} (h : FrameLaw s) {i : Nat} {f : Frame}
    (hpending : s.pending[i]? = some f) :
    FrameLaw
      (FrameViewer.show
        { s with pending := s.pending.eraseIdx i, decoded := s.decoded ++ [f] } f) := by
  have hsettled : List.Perm s.received
      (s.pending.eraseIdx i ++ ((s.decoded ++ [f]) ++ s.failed)) := by
    apply settled_perm h.settled hpending
    rw [List.append_assoc, List.singleton_append]
    exact List.perm_middle.symm
  by_cases hold : Frame.order f ≤ s.lastFrameSeq
  · have hkept := hold
    rw [h.last] at hkept
    have hshow : FrameViewer.show
        { s with pending := s.pending.eraseIdx i, decoded := s.decoded ++ [f] } f =
        { s with pending := s.pending.eraseIdx i, decoded := s.decoded ++ [f] } :=
      if_pos hold
    rw [hshow]
    constructor
    · rw [Newest.held_concat, if_pos hkept]
      exact h.last
    · rw [Newest.taken_concat, if_pos hkept]
      exact h.drawn
    · exact h.canvas
    · exact hsettled
  · have hnew := hold
    rw [h.last] at hnew
    have hshow : FrameViewer.show
        { s with pending := s.pending.eraseIdx i, decoded := s.decoded ++ [f] } f =
        { s with
          pending := s.pending.eraseIdx i
          decoded := s.decoded ++ [f]
          lastFrameSeq := f.seq
          canvas := canvasOf (some f)
          drawn := s.drawn ++ [f] } := by
      rw [← canvas_drawn s.canvas f]
      exact if_neg hold
    rw [hshow]
    constructor
    · rw [Newest.held_concat, if_neg hnew]
      rfl
    · rw [Newest.taken_concat, if_neg hnew, ← h.drawn]
    · rw [List.getLast?_concat]
    · exact hsettled

theorem FrameLaw.failed {s : FrameViewer} (h : FrameLaw s) {i : Nat} {f : Frame}
    (hpending : s.pending[i]? = some f) :
    FrameLaw { s with pending := s.pending.eraseIdx i, failed := s.failed ++ [f] } := by
  have hsettled : List.Perm s.received
      (s.pending.eraseIdx i ++ (s.decoded ++ (s.failed ++ [f]))) := by
    apply settled_perm h.settled hpending
    rw [← List.append_assoc]
    exact (List.perm_append_singleton f (s.decoded ++ s.failed)).symm
  exact ⟨h.last, h.drawn, h.canvas, hsettled⟩

theorem FrameLaw.received {s : FrameViewer} (h : FrameLaw s) (f : Frame) :
    FrameLaw { s with pending := s.pending ++ [f], received := s.received ++ [f] } := by
  have hsettled : List.Perm (s.received ++ [f])
      ((s.pending ++ [f]) ++ (s.decoded ++ s.failed)) := by
    have hnew := h.settled.append_right [f]
    rw [List.append_assoc] at hnew
    rw [List.append_assoc]
    exact hnew.trans (List.perm_append_comm.append_left s.pending)
  exact ⟨h.last, h.drawn, h.canvas, hsettled⟩

theorem frameLaw_preserved : frameViewer.Preserves (fun _ _ => True) FrameLaw := by
  intro s e t h _ hstep
  cases e with
  | message buf =>
      simp only [frameViewer, FrameViewer.step] at hstep
      split at hstep
      · cases hstep
        exact h
      · cases hstep
        exact h.received _
  | decoded i =>
      simp only [frameViewer, FrameViewer.step] at hstep
      split at hstep
      · cases hstep
      · rename_i f hpending
        cases hstep
        exact h.decoded hpending
  | failed i =>
      simp only [frameViewer, FrameViewer.step] at hstep
      split at hstep
      · cases hstep
      · rename_i f hpending
        cases hstep
        exact h.failed hpending

/-- Whatever the order in which the decodings finish or fail: the frames drawn have
increasing sequence numbers, every received frame is pending, decoded or failed, and the
canvas shows the newest of the decoded ones at its own size. -/
theorem frames_in_order {events : List FrameEvent} {s : FrameViewer}
    (hrun : frameViewer.run FrameViewer.start events = some s)
    (hdistinct : (s.received.map Frame.seq).Nodup) :
    (s.drawn.Pairwise fun f g => f.seq < g.seq) ∧
    List.Perm s.received (s.pending ++ (s.decoded ++ s.failed)) ∧
    forall f, f ∈ s.decoded -> (forall g, g ∈ s.decoded -> g.seq ≤ f.seq) ->
      s.canvas = { width := f.width, height := f.height, picture := some f } := by
  have hlaw := frameLaw_preserved.run_all frameLaw_start hrun
  have hincreasing : s.drawn.Pairwise fun f g => f.seq < g.seq := by
    rw [hlaw.drawn]
    exact (Newest.taken_increasing Frame.order (-1) s.decoded).imp fun hlt =>
      Int.ofNat_lt.mp hlt
  have hreceived : forall f, f ∈ s.decoded -> f ∈ s.received := by
    intro f hf
    exact hlaw.settled.mem_iff.mpr
      (List.mem_append_right _ (List.mem_append_left _ hf))
  have hnewest : forall f, f ∈ s.decoded -> (forall g, g ∈ s.decoded -> g.seq ≤ f.seq) ->
      s.canvas = { width := f.width, height := f.height, picture := some f } := by
    intro f hf hmax
    have hunique : forall g, g ∈ s.decoded -> Frame.order g = Frame.order f -> g = f := by
      intro g hg hsame
      exact List.inj_on_of_nodup_map hdistinct (hreceived g hg) (hreceived f hf)
        (Int.ofNat_inj.mp hsame)
    have hpositive : (-1 : Int) < Frame.order f := by
      have hnonneg : 0 ≤ Frame.order f := Int.natCast_nonneg f.seq
      omega
    have hlast := Newest.getLast_taken Frame.order hf hpositive
      (fun g hg => Int.ofNat_le.mpr (hmax g hg)) hunique
    rw [hlaw.canvas, hlaw.drawn, hlast]
    rfl
  exact ⟨hincreasing, hlaw.settled, hnewest⟩

/-- Two frames with empty pictures, numbered 0 and 1. -/
def firstFrame : Frame :=
  { width := 2
    height := 1
    seq := 0
    jpeg := [] }

def secondFrame : Frame :=
  { width := 4
    height := 3
    seq := 1
    jpeg := [] }

/-- The first frame is decoded after the second one, and stays off the canvas. -/
theorem frames_in_order_late :
    exists s,
      frameViewer.run FrameViewer.start
        [FrameEvent.message [1, 0, 2, 0, 1, 0, 0, 0, 0],
          FrameEvent.message [1, 0, 4, 0, 3, 0, 0, 0, 1],
          FrameEvent.decoded 1, FrameEvent.decoded 0] = some s ∧
      s.pending = [] ∧ s.decoded = [secondFrame, firstFrame] ∧
      s.canvas = { width := 4, height := 3, picture := some secondFrame } := by
  have hrun : frameViewer.run FrameViewer.start
      [FrameEvent.message [1, 0, 2, 0, 1, 0, 0, 0, 0],
        FrameEvent.message [1, 0, 4, 0, 3, 0, 0, 0, 1],
        FrameEvent.decoded 1, FrameEvent.decoded 0] =
      some
        { lastFrameSeq := 1
          canvas := { width := 4, height := 3, picture := some secondFrame }
          pending := []
          received := [firstFrame, secondFrame]
          decoded := [secondFrame, firstFrame]
          failed := []
          drawn := [secondFrame] } := by
    decide
  have horder := frames_in_order hrun (by decide)
  exact ⟨_, hrun, rfl, rfl, horder.right.right secondFrame List.mem_cons_self (by decide)⟩

end Frontend
end LeoOne
