import LeoOne.Agent.Injection
import LeoOne.Foundation.Rescale
import LeoOne.RemoteDesktop.Codec

/-!
# Where the pointer arrives

A mouse move is scaled to 0..65535 over the width of the canvas by the viewer, and back
to the columns of the screen by the agent.
-/

namespace LeoOne
namespace RemoteDesktop

open Foundation Agent Frontend

/-- What the X server is asked to do for the messages of one event. -/
def injected (d : Display) (e : DomEvent) : List FakeEvent :=
  (onDomEvent Pressed.none e).2.flatMap fun m => inject d (injectionOf m)

/-- A canvas that is displayed at a number of columns, with the pointer in one of them. -/
structure PointsAt (rect : Rect) (clientX : ℚ) (columns place : Nat) : Prop where
  width : rect.width = columns
  offset : clientX - rect.left = place
  inside : place < columns

theorem PointsAt.sent {rect : Rect} {clientX : ℚ} {width place : Nat}
    (h : PointsAt rect clientX width place) (clientY : ℚ) :
    (normalizedCoords rect clientX clientY).1 = Rescale.nearest (place * 65535) width := by
  have hpos : 0 < width := Nat.zero_lt_of_lt h.inside
  have hwidth : (0 : ℚ) < width := by
    exact_mod_cast hpos
  have hplace : (place : ℚ) < width := by
    exact_mod_cast h.inside
  have hratio : clampedRatio (clientX - rect.left) rect.width = place / width := by
    have hlow : (0 : ℚ) ≤ place / width := div_nonneg (Nat.cast_nonneg place) hwidth.le
    have hhigh : (place : ℚ) / width ≤ 1 := by
      rw [div_le_one hwidth]
      exact hplace.le
    rw [clampedRatio, h.offset, h.width, if_neg hwidth.ne', max_eq_right hlow,
      min_eq_right hhigh]
  have hscaled : (place : ℚ) / width * 65535 = ((place * 65535 : Nat) : ℚ) / width := by
    push_cast
    ring
  rw [normalizedCoords, hratio, hscaled]
  exact Rescale.floor_nearest (place * 65535) hpos

/-- The column that the agent moves the pointer to. -/
theorem injected_move {rect : Rect} {clientX : ℚ} {width place : Nat}
    (h : PointsAt rect clientX width place) (clientY : ℚ) {d : Display}
    (hscreen : d.screenW = width) :
    exists row, injected d (DomEvent.mouseMove rect clientX clientY) =
      [FakeEvent.motion (Rescale.place 65535 (width - 1) place) row] := by
  have hwidth : width - 1 + 1 = width := by
    have hinside := h.inside
    omega
  have hcolumn : (((normalizedCoords rect clientX clientY).1.toNat : Int) *
      (d.screenW - 1)).tdiv 65535 = Rescale.place 65535 (width - 1) place := by
    have hcast : (width : Int) - 1 = ((width - 1 : Nat) : Int) := by omega
    rw [h.sent clientY, hscreen, hcast, Int.toNat_natCast, ← Int.natCast_mul, Rescale.place,
      hwidth]
    exact Int.ofNat_tdiv _ 65535
  exists (((normalizedCoords rect clientX clientY).2.toNat : Int) * (d.screenH - 1)).tdiv 65535
  rw [← hcolumn]
  rfl

/-- The column lies on the screen, grows with the place of the pointer, and is the place
itself or one of the two columns to the left of it; away from the right edge, where the
width is small against 65535, it is the place or its left neighbour. -/
theorem pointer_column {width : Nat} (hlow : 2 ≤ width) (hhigh : width ≤ 65535)
    {d : Display} (hscreen : d.screenW = width) :
    exists column : Nat -> Nat,
      (forall rect clientX clientY place, PointsAt rect clientX width place ->
        exists row, injected d (DomEvent.mouseMove rect clientX clientY) =
          [FakeEvent.motion (column place) row]) ∧
      (forall p q, p ≤ q -> column p ≤ column q) ∧
      forall p, p < width ->
        column p < width ∧ column p ≤ p ∧ p ≤ column p + 2 ∧
          (width * (width - 1) ≤ 131070 * (width - p) -> p ≤ column p + 1) := by
  have hmoves (rect : Rect) (clientX clientY : ℚ) (place : Nat)
      (hpoints : PointsAt rect clientX width place) :=
    injected_move hpoints clientY hscreen
  have hbounds : forall p, p < width ->
      Rescale.place 65535 (width - 1) p < width ∧ Rescale.place 65535 (width - 1) p ≤ p ∧
        p ≤ Rescale.place 65535 (width - 1) p + 2 ∧
          (width * (width - 1) ≤ 131070 * (width - p) ->
            p ≤ Rescale.place 65535 (width - 1) p + 1) := by
    intro p hp
    have hwidth : width - 1 + 1 = width := by omega
    have hleft : Rescale.place 65535 (width - 1) p ≤ p :=
      Rescale.place_le (by decide) (by omega)
    have hscale : (width - 1) * width ≤ 65535 * width :=
      Nat.mul_le_mul_right width (by omega)
    have htwo : p ≤ Rescale.place 65535 (width - 1) p + 2 := by
      apply Rescale.le_place_add (by decide)
      rw [hwidth]
      omega
    have hone (h : width * (width - 1) ≤ 131070 * (width - p)) :
        p ≤ Rescale.place 65535 (width - 1) p + 1 := by
      apply Rescale.le_place_add (by decide)
      rw [hwidth, Nat.mul_comm (width - 1) width]
      omega
    exact ⟨by omega, hleft, htwo, hone⟩
  exact ⟨Rescale.place 65535 (width - 1), hmoves, fun p q hpq => Rescale.place_mono hpq,
    hbounds⟩

/-- A screen of 416 columns, and a canvas that shows it at its own size. -/
def narrowScreen : Display :=
  { screenW := 416
    screenH := 312
    keysymToKeycode := fun _ => 0 }

def narrowCanvas : Rect :=
  { left := 0
    top := 0
    width := 416
    height := 312 }

theorem narrowCanvas_points {place : Nat} (h : place < 416) :
    PointsAt narrowCanvas place 416 place := by
  constructor
  · show (416 : ℚ) = (416 : Nat)
    norm_num
  · show (place : ℚ) - 0 = place
    rw [sub_zero]
  · exact h

theorem pointer_column_narrow :
    exists (column : Nat) (row : Int),
      injected narrowScreen (DomEvent.mouseMove narrowCanvas 100 0) =
        [FakeEvent.motion column row] ∧
      column ≤ 100 ∧ 100 ≤ column + 1 := by
  rcases @pointer_column 416 (by decide) (by decide) narrowScreen rfl with
    ⟨column, hmoves, _, hbounds⟩
  rcases hmoves narrowCanvas 100 0 100 (narrowCanvas_points (by decide)) with ⟨row, hmoved⟩
  rcases hbounds 100 (by decide) with ⟨_, hleft, _, hone⟩
  exact ⟨column 100, row, hmoved, hleft, hone (by decide)⟩

/-- In the last column of the narrow screen the pointer arrives two columns to the left. -/
theorem pointer_two_columns_left :
    (exists row, injected narrowScreen (DomEvent.mouseMove narrowCanvas 415 0) =
      [FakeEvent.motion 413 row]) ∧
    ¬ forall (width : Nat) (d : Display) (rect : Rect) (clientX clientY : ℚ) (place : Nat)
      (column row : Int), 2 ≤ width -> width ≤ 65535 -> d.screenW = width ->
        PointsAt rect clientX width place ->
          injected d (DomEvent.mouseMove rect clientX clientY) =
              [FakeEvent.motion column row] ->
            place ≤ column + 1 ∧ column ≤ place + 1 := by
  have hplace : Rescale.place 65535 (416 - 1) 415 = 413 := by decide
  have hpoints := @narrowCanvas_points 415 (by decide)
  rcases @injected_move _ _ _ _ hpoints 0 narrowScreen rfl with ⟨row, hmoved⟩
  rw [hplace] at hmoved
  constructor
  · exact ⟨row, hmoved⟩
  · intro hall
    have hnear := hall 416 narrowScreen narrowCanvas (415 : Nat) 0 415 413 row (by decide)
      (by decide) rfl hpoints hmoved
    exact absurd hnear.left (by decide)

end RemoteDesktop
end LeoOne
