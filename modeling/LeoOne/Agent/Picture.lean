import LeoOne.Foundation.BigEndian
import LeoOne.Foundation.Copies

/-!
# From the screen to the connection

The two functions of `remote_desktop.c` that lay out picture data: the repacking of a
captured screen into the buffer given to the encoder, and the message that carries an
encoded frame.
-/

namespace LeoOne
namespace Agent

open Foundation

/-!
## The frame message
-/

/-- The message that `_send_frame` writes. -/
def frameMessage (width height : Nat) (seq : UInt32) (jpeg : List UInt8) : List UInt8 :=
  let w := BitVec.ofNat 32 width
  let h := BitVec.ofNat 32 height
  let n := seq.toBitVec
  [0x01,
    BigEndian.signedByte w 8, BigEndian.signedByte w 0,
    BigEndian.signedByte h 8, BigEndian.signedByte h 0,
    BigEndian.unsignedByte n 24, BigEndian.unsignedByte n 16,
    BigEndian.unsignedByte n 8, BigEndian.unsignedByte n 0] ++ jpeg

theorem frameMessage_eq {width height : Nat} (seq : UInt32) (jpeg : List UInt8)
    (hwidth : width < 2 ^ 16) (hheight : height < 2 ^ 16) :
    frameMessage width height seq jpeg =
      0x01 :: (BigEndian.bytes 2 width ++ (BigEndian.bytes 2 height ++
        (BigEndian.bytes 4 seq.toNat ++ jpeg))) := by
  have hw : (BitVec.ofNat 32 width).toNat = width := by
    rw [BitVec.toNat_ofNat, Nat.mod_eq_of_lt (by omega)]
  have hh : (BitVec.ofNat 32 height).toNat = height := by
    rw [BitVec.toNat_ofNat, Nat.mod_eq_of_lt (by omega)]
  have hn : seq.toBitVec.toNat = seq.toNat := rfl
  rw [← hn, ← BigEndian.bytes_four, ← congrArg (BigEndian.bytes 2) hw,
    ← congrArg (BigEndian.bytes 2) hh, ← BigEndian.bytes_two, ← BigEndian.bytes_two]
  rfl

/-!
## Repacking
-/

/-- The copies of the rows, where the sizes are equal. -/
def copyRows (outW srcH srcStride : Nat) : List Copy :=
  (List.range srcH).map fun y =>
    { dst := y * outW * 4, src := y * srcStride, len := outW * 4 }

/-- The copies of the two nested loops. -/
def scalePixels (outW outH srcW srcH srcStride : Nat) : List Copy :=
  (List.range outH).flatMap fun y =>
    let sy := y * srcH / outH
    let srcRow := sy * srcStride
    let dstRow := y * outW * 4
    (List.range outW).map fun x =>
      let sx := x * srcW / outW
      { dst := dstRow + x * 4, src := srcRow + sx * 4, len := 4 }

/-- `leo_rd_repack_scale`, as the copies it makes. -/
def leoRdRepackScale (outW outH srcW srcH srcStride : Nat) : List Copy :=
  if outW = srcW ∧ outH = srcH then copyRows outW srcH srcStride
  else scalePixels outW outH srcW srcH srcStride

theorem scaled_lt {i out src : Nat} (hi : i < out) (hsrc : 0 < src) : i * src / out < src := by
  have hmul : i * src < src * out := by
    calc i * src < out * src := Nat.mul_lt_mul_of_pos_right hi hsrc
      _ = src * out := Nat.mul_comm out src
  exact Nat.div_lt_of_lt_mul (by rw [Nat.mul_comm out src]; exact hmul)

theorem writes_copyRows (outW srcH srcStride : Nat) :
    Copies.writes (copyRows outW srcH srcStride) = List.range (srcH * (outW * 4)) := by
  rw [Copies.writes, copyRows, List.flatMap_map, ← Copies.range_blocks]
  simp only [Nat.mul_assoc]

theorem writes_scalePixels (outW outH srcW srcH srcStride : Nat) :
    Copies.writes (scalePixels outW outH srcW srcH srcStride) =
      List.range (outH * (outW * 4)) := by
  have hrow (y : Nat) := Copies.range'_blocks (y * outW * 4) 4 outW
  rw [Copies.writes, scalePixels, List.flatMap_assoc, ← Copies.range_blocks]
  simp only [List.flatMap_map, hrow]
  simp only [Nat.mul_assoc]

theorem writes_repack (outW outH srcW srcH srcStride : Nat) :
    Copies.writes (leoRdRepackScale outW outH srcW srcH srcStride) =
      List.range (outH * (outW * 4)) := by
  unfold leoRdRepackScale
  split
  · rename_i hsame
    rw [writes_copyRows, hsame.right]
  · rw [writes_scalePixels]

/-- For equal sizes the loops over the pixels of a row have the effect of one copy of
the row. -/
theorem scalePixels_eq_copyRows {β : Type} (source : Nat -> β) {w h : Nat} (hw : 0 < w)
    (hh : 0 < h) (srcStride : Nat) (m : Nat -> β) :
    Copies.run source (scalePixels w h w h srcStride) m =
      Copies.run source (copyRows w h srcStride) m := by
  have hrows : copyRows w h srcStride =
      (List.range h).flatMap fun y =>
        [({ dst := y * w * 4, src := y * srcStride, len := w * 4 } : Copy)] := by
    rw [copyRows, List.map_eq_flatMap]
  rw [hrows]
  apply Copies.run_flatMap_congr
  intro y _ m
  simp only [Nat.mul_div_cancel y hh, Nat.mul_div_cancel _ hw]
  exact Copies.run_blocks source (y * w * 4) (y * srcStride) 4 w m

theorem run_repack {β : Type} (source : Nat -> β) {outW outH : Nat} (hw : 0 < outW)
    (hh : 0 < outH) (srcW srcH srcStride : Nat) (m : Nat -> β) :
    Copies.run source (leoRdRepackScale outW outH srcW srcH srcStride) m =
      Copies.run source (scalePixels outW outH srcW srcH srcStride) m := by
  unfold leoRdRepackScale
  split
  · rename_i hsame
    rw [← hsame.left, ← hsame.right, scalePixels_eq_copyRows source hw hh]
  · rfl

/-- The address lies in the pixels of a row of the source. -/
def InRows (srcW srcH srcStride a : Nat) : Prop :=
  exists row, row < srcH ∧ row * srcStride ≤ a ∧ a < row * srcStride + 4 * srcW

theorem reads_copyRows {outW srcH srcStride a : Nat}
    (h : a ∈ Copies.reads (copyRows outW srcH srcStride)) : InRows outW srcH srcStride a := by
  rcases List.mem_flatMap.mp h with ⟨c, hc, ha⟩
  rcases List.mem_map.mp hc with ⟨y, hy, heq⟩
  rw [← heq, List.mem_range'_1] at ha
  have hlow := ha.left
  have hhigh := ha.right
  simp only at hlow hhigh
  exact ⟨y, List.mem_range.mp hy, hlow, by omega⟩

theorem reads_scalePixels {outW outH srcW srcH srcStride a : Nat} (hw : 0 < srcW)
    (hh : 0 < srcH) (h : a ∈ Copies.reads (scalePixels outW outH srcW srcH srcStride)) :
    InRows srcW srcH srcStride a := by
  rcases List.mem_flatMap.mp h with ⟨c, hc, ha⟩
  rcases List.mem_flatMap.mp hc with ⟨y, hy, hrow⟩
  rcases List.mem_map.mp hrow with ⟨x, hx, heq⟩
  rw [← heq, List.mem_range'_1] at ha
  have hsy : y * srcH / outH < srcH := scaled_lt (List.mem_range.mp hy) hh
  have hsx : x * srcW / outW < srcW := scaled_lt (List.mem_range.mp hx) hw
  have hlow := ha.left
  have hhigh := ha.right
  simp only at hlow hhigh
  exact ⟨y * srcH / outH, hsy, by omega, by omega⟩

theorem reads_repack {outW outH srcW srcH srcStride a : Nat} (hw : 0 < srcW)
    (hh : 0 < srcH) (h : a ∈ Copies.reads (leoRdRepackScale outW outH srcW srcH srcStride)) :
    InRows srcW srcH srcStride a := by
  unfold leoRdRepackScale at h
  split at h
  · rename_i hsame
    rw [← hsame.left]
    exact reads_copyRows h
  · exact reads_scalePixels hw hh h

theorem mem_scalePixels {outW outH : Nat} (srcW srcH srcStride : Nat) {x y : Nat}
    (hx : x < outW) (hy : y < outH) :
    ({ dst := y * outW * 4 + x * 4
       src := y * srcH / outH * srcStride + x * srcW / outW * 4
       len := 4 } : Copy) ∈ scalePixels outW outH srcW srcH srcStride :=
  List.mem_flatMap.mpr
    ⟨y, List.mem_range.mpr hy, List.mem_map.mpr ⟨x, List.mem_range.mpr hx, rfl⟩⟩

theorem nodup_writes_scalePixels (outW outH srcW srcH srcStride : Nat) :
    (Copies.writes (scalePixels outW outH srcW srcH srcStride)).Nodup := by
  rw [writes_scalePixels]
  exact List.nodup_range

theorem product_lt {a b : Nat} (ha : a < 2 ^ 31) (hb : b < 2 ^ 31) : a * b < 2 ^ 62 := by
  calc a * b ≤ (2 ^ 31 - 1) * (2 ^ 31 - 1) := Nat.mul_le_mul (by omega) (by omega)
    _ < 2 ^ 62 := by decide

/-- For sizes that are C integers, the offsets of all copies fit the `size_t` they are
computed in, and the products of the scaling fit `int64_t`. -/
theorem repack_offsets_fit {outW outH srcW srcH srcStride : Nat} (hw : 0 < srcW)
    (hh : 0 < srcH) (houtW : outW < 2 ^ 31) (houtH : outH < 2 ^ 31) (hsrcW : srcW < 2 ^ 31)
    (hsrcH : srcH < 2 ^ 31) (hstride : srcStride < 2 ^ 31) :
    (forall a, a ∈ Copies.writes (leoRdRepackScale outW outH srcW srcH srcStride) ->
      a < 2 ^ 64) ∧
    (forall a, a ∈ Copies.reads (leoRdRepackScale outW outH srcW srcH srcStride) ->
      a < 2 ^ 64) ∧
    (forall y, y < outH -> y * srcH < 2 ^ 63) ∧ forall x, x < outW -> x * srcW < 2 ^ 63 := by
  have hwrites : forall a,
      a ∈ Copies.writes (leoRdRepackScale outW outH srcW srcH srcStride) -> a < 2 ^ 64 := by
    intro a ha
    have hpixels := product_lt houtH houtW
    rw [writes_repack, List.mem_range, ← Nat.mul_assoc] at ha
    omega
  have hreads : forall a,
      a ∈ Copies.reads (leoRdRepackScale outW outH srcW srcH srcStride) -> a < 2 ^ 64 := by
    intro a ha
    rcases reads_repack hw hh ha with ⟨row, hrow, _, hlt⟩
    have hoffset := product_lt (Nat.lt_trans hrow hsrcH) hstride
    omega
  have hscale {i n src : Nat} (hi : i < n) (hn : n < 2 ^ 31) (hsrc : src < 2 ^ 31) :
      i * src < 2 ^ 63 := by
    have hproduct := product_lt (Nat.lt_trans hi hn) hsrc
    omega
  exact ⟨hwrites, hreads, fun y hy => hscale hy houtH hsrcH,
    fun x hx => hscale hx houtW hsrcW⟩

theorem count_writes_repack (outW outH srcW srcH srcStride a : Nat) :
    (Copies.writes (leoRdRepackScale outW outH srcW srcH srcStride)).count a =
      if a < outW * outH * 4 then 1 else 0 := by
  have hsize : outH * (outW * 4) = outW * outH * 4 := by
    rw [← Nat.mul_assoc, Nat.mul_comm outH outW]
  rw [writes_repack, hsize]
  split
  · rename_i hinside
    exact List.count_eq_one_of_mem List.nodup_range (List.mem_range.mpr hinside)
  · rename_i houtside
    exact List.count_eq_zero_of_not_mem (fun hmem => houtside (List.mem_range.mp hmem))

/-- A byte of a destination pixel is that byte of the nearest source pixel. -/
theorem run_repack_pixel {β : Type} (source : Nat -> β) {outW outH : Nat}
    (srcW srcH srcStride : Nat) (m : Nat -> β) {x y c : Nat} (hx : x < outW) (hy : y < outH)
    (hc : c < 4) :
    Copies.run source (leoRdRepackScale outW outH srcW srcH srcStride) m
        ((y * outW + x) * 4 + c) =
      source (y * srcH / outH * srcStride + x * srcW / outW * 4 + c) := by
  have haddress : (y * outW + x) * 4 + c = y * outW * 4 + x * 4 + c := by
    rw [Nat.add_mul]
  rw [run_repack source (Nat.zero_lt_of_lt hx) (Nat.zero_lt_of_lt hy), haddress]
  exact Copies.run_of_mem source m (nodup_writes_scalePixels outW outH srcW srcH srcStride)
    (mem_scalePixels srcW srcH srcStride hx hy) hc

/-- Repacking reads only pixels of the source rows, writes every byte of the destination
exactly once, with the nearest pixel of the source, and its fast path does what the loops
over the pixels do. -/
theorem repack_exact {outW outH srcW srcH srcStride : Nat} (houtW : 0 < outW)
    (houtH : 0 < outH) (hsrcW : 0 < srcW) (hsrcH : 0 < srcH) (hstride : 4 * srcW ≤ srcStride) :
    (forall a, a ∈ Copies.reads (leoRdRepackScale outW outH srcW srcH srcStride) ->
      exists row, row < srcH ∧ row * srcStride ≤ a ∧ a < row * srcStride + 4 * srcW ∧
        a < (row + 1) * srcStride) ∧
    (forall a, (Copies.writes (leoRdRepackScale outW outH srcW srcH srcStride)).count a =
      if a < outW * outH * 4 then 1 else 0) ∧
    (forall (source m : Nat -> UInt8) x y c, x < outW -> y < outH -> c < 4 ->
      Copies.run source (leoRdRepackScale outW outH srcW srcH srcStride) m
          ((y * outW + x) * 4 + c) =
        source (y * srcH / outH * srcStride + x * srcW / outW * 4 + c)) ∧
    forall source m : Nat -> UInt8,
      Copies.run source (copyRows outW outH srcStride) m =
        Copies.run source (scalePixels outW outH outW outH srcStride) m := by
  have hreads : forall a,
      a ∈ Copies.reads (leoRdRepackScale outW outH srcW srcH srcStride) ->
        exists row, row < srcH ∧ row * srcStride ≤ a ∧ a < row * srcStride + 4 * srcW ∧
          a < (row + 1) * srcStride := by
    intro a ha
    rcases reads_repack hsrcW hsrcH ha with ⟨row, hrow, hlow, hhigh⟩
    have hnext : (row + 1) * srcStride = row * srcStride + srcStride :=
      Nat.succ_mul row srcStride
    exact ⟨row, hrow, hlow, hhigh, by omega⟩
  have hfast (source m : Nat -> UInt8) :=
    (scalePixels_eq_copyRows source houtW houtH srcStride m).symm
  exact ⟨hreads, count_writes_repack outW outH srcW srcH srcStride,
    fun source m x y c hx hy hc => run_repack_pixel source srcW srcH srcStride m hx hy hc,
    hfast⟩

/-- A picture of three pixels by two whose bytes are their own addresses, scaled to two
by one: the second pixel of the destination is the second one of the source. -/
theorem repack_exact_sample :
    Copies.run UInt8.ofNat (leoRdRepackScale 2 1 3 2 16) (fun _ => 0) 6 = 6 := by
  have hexact := @repack_exact 2 1 3 2 16 (by decide) (by decide) (by decide) (by decide)
    (by decide)
  have hpixel := hexact.right.right.left UInt8.ofNat (fun _ => 0) 1 0 2
  exact hpixel (by decide) (by decide) (by decide)

end Agent
end LeoOne
