import CedarC.PictureRotationTurns

/-!
# The rotations of a picture compose

The composition laws of turned rasters, for the pictures that the rotations write.
`RotatePicture270Degree` does not set `pData1` of its result when the chroma samples
are pairs, so that the laws depend on what the caller has left there.
-/

namespace CedarC.PictureRotationAlgebra

open Rasters PictureRotation PictureRotationTurns

section Laws

def RotationInside (degree : Degree) (pPictureIn pPictureOut : VideoPicture) : Prop :=
  MovesInside
    (rotateMoves degree (degree.prepare pPictureIn pPictureOut).pPictureIn
      (degree.prepare pPictureIn pPictureOut).pPictureOut)
    (degree.prepare pPictureIn pPictureOut).pPictureIn
    (degree.prepare pPictureIn pPictureOut).pPictureOut

def rotatedPicture (degree : Degree) (pPictureIn pPictureOut : VideoPicture) : VideoPicture :=
  degree.offsets (degree.prepare pPictureIn pPictureOut).pPictureIn
    (degree.prepare pPictureIn pPictureOut).pPictureOut

variable (pPictureIn pPictureMid pPictureOut : VideoPicture)

abbrev quarterTurn (mem : Nat → UInt8) : Rotated UInt8 :=
  RotatePicture90Degree mem pPictureIn pPictureMid

abbrev halfTurn (mem : Nat → UInt8) : Rotated UInt8 :=
  RotatePicture180Degree mem pPictureIn pPictureMid

/-- The rotations of the picture compose, for all samples, and no copy leaves its planes. -/
structure RotationAlgebra : Prop where
  quarterBack : ∀ mem,
    let first := quarterTurn pPictureIn pPictureMid mem
    let second := RotatePicture270Degree first.mem first.pPictureOut pPictureOut
    SamePicture second.mem second.pPictureOut mem pPictureIn
  quarterTwice : ∀ mem,
    let first := quarterTurn pPictureIn pPictureMid mem
    let second := RotatePicture90Degree first.mem first.pPictureOut pPictureOut
    let half := RotatePicture180Degree mem pPictureIn pPictureOut
    SamePicture second.mem second.pPictureOut half.mem half.pPictureOut
  halfTwice : ∀ mem,
    let first := halfTurn pPictureIn pPictureMid mem
    let second := RotatePicture180Degree first.mem first.pPictureOut pPictureOut
    SamePicture second.mem second.pPictureOut mem pPictureIn
  quarterInside : RotationInside .deg90 pPictureIn pPictureMid
  quarterBackInside :
    RotationInside .deg270 (rotatedPicture .deg90 pPictureIn pPictureMid) pPictureOut
  quarterTwiceInside :
    RotationInside .deg90 (rotatedPicture .deg90 pPictureIn pPictureMid) pPictureOut
  halfInside : RotationInside .deg180 pPictureIn pPictureMid
  halfOutInside : RotationInside .deg180 pPictureIn pPictureOut
  halfTwiceInside :
    RotationInside .deg180 (rotatedPicture .deg180 pPictureIn pPictureMid) pPictureOut

/-- A picture and two buffers of one format, each with room for the picture and for its
turned result, and none reaching into another. -/
structure RotationBuffers (room : Nat) : Prop where
  supported : pPictureIn.ePixelFormat.supported = true
  formatMid : pPictureMid.ePixelFormat = pPictureIn.ePixelFormat
  formatOut : pPictureOut.ePixelFormat = pPictureIn.ePixelFormat
  stride : pPictureIn.nWidth ≤ pPictureIn.nLineStride
  size : pictureSize pPictureIn ≤ room
  sizeTurned : pictureSize (quarterSize pPictureIn pPictureMid) ≤ room
  apartMid : pPictureIn.pData0 + room ≤ pPictureMid.pData0 ∨
    pPictureMid.pData0 + room ≤ pPictureIn.pData0
  apartOut : pPictureIn.pData0 + room ≤ pPictureOut.pData0 ∨
    pPictureOut.pData0 + room ≤ pPictureIn.pData0
  apartBoth : pPictureMid.pData0 + room ≤ pPictureOut.pData0 ∨
    pPictureOut.pData0 + room ≤ pPictureMid.pData0

end Laws

section Buffers

variable {degree : Degree} {pPictureIn pPictureMid pPictureOut : VideoPicture} {room : Nat}

theorem apart_of_room {first second : VideoPicture} (small : pictureSize first ≤ room)
    (smallToo : pictureSize second ≤ room)
    (apart : first.pData0 + room ≤ second.pData0 ∨ second.pData0 + room ≤ first.pData0) :
    PicturesApart first second := by
  unfold PicturesApart
  omega

theorem rotated_only (degree : Degree) (pPictureIn pPictureOut : VideoPicture) :
    (rotatedPicture degree pPictureIn pPictureOut).ePixelFormat = pPictureOut.ePixelFormat ∧
      (rotatedPicture degree pPictureIn pPictureOut).pData0 = pPictureOut.pData0 ∧
      (rotatedPicture degree pPictureIn pPictureOut).nWidth =
        (resized pPictureIn pPictureOut degree).nWidth ∧
      (rotatedPicture degree pPictureIn pPictureOut).nHeight =
        (resized pPictureIn pPictureOut degree).nHeight ∧
      (rotatedPicture degree pPictureIn pPictureOut).nLineStride =
        (resized pPictureIn pPictureOut degree).nLineStride := by
  unfold rotatedPicture
  obtain ⟨_, _, _, _, offsets⟩ := offsets_only degree
    (degree.prepare pPictureIn pPictureOut).pPictureIn
    (degree.prepare pPictureIn pPictureOut).pPictureOut
  obtain ⟨_, _, out⟩ := prepared_out_only degree pPictureIn pPictureOut
  rw [offsets, out]
  cases degree <;> exact ⟨rfl, rfl, rfl, rfl, rfl⟩

theorem picture_size_eq {left right : VideoPicture} (stride : left.nLineStride = right.nLineStride)
    (height : left.nHeight = right.nHeight) : pictureSize left = pictureSize right := by
  unfold pictureSize VideoPicture.nMemSizeC VideoPicture.nMemSizeY
  rw [stride, height]

theorem quarter_size_turned (pPictureIn pPictureMid pPictureOut : VideoPicture) (left : VideoPicture)
    (height : left.nHeight = pPictureIn.nWidth) (width : left.nWidth = pPictureIn.nHeight) :
    pictureSize (quarterSize left pPictureOut) =
      pictureSize (quarterSize pPictureIn pPictureMid) := by
  unfold pictureSize VideoPicture.nMemSizeC VideoPicture.nMemSizeY quarterSize
  dsimp only
  rw [height, width, Nat.mul_comm]

namespace RotationBuffers

variable (buffers : RotationBuffers pPictureIn pPictureMid pPictureOut room)
include buffers

theorem quarter : Rotatable .deg90 pPictureIn pPictureMid :=
  ⟨buffers.supported, buffers.formatMid, buffers.stride,
    apart_of_room buffers.size buffers.sizeTurned buffers.apartMid⟩

theorem half : Rotatable .deg180 pPictureIn pPictureMid :=
  ⟨buffers.supported, buffers.formatMid, buffers.stride,
    apart_of_room buffers.size buffers.size buffers.apartMid⟩

theorem halfOut : Rotatable .deg180 pPictureIn pPictureOut :=
  ⟨buffers.supported, buffers.formatOut, buffers.stride,
    apart_of_room buffers.size buffers.size buffers.apartOut⟩

theorem turnedSize : pictureSize (rotatedPicture .deg90 pPictureIn pPictureMid) ≤ room := by
  obtain ⟨_, _, _, height, stride⟩ := rotated_only .deg90 pPictureIn pPictureMid
  have same := picture_size_eq stride height
  rw [same]
  exact buffers.sizeTurned

theorem quarterAgain (degree : Degree) (quarter : degree ≠ .deg180) :
    Rotatable degree (rotatedPicture .deg90 pPictureIn pPictureMid) pPictureOut := by
  obtain ⟨format, place, width, height, stride⟩ := rotated_only .deg90 pPictureIn pPictureMid
  constructor
  · rw [format, buffers.formatMid, buffers.supported]
  · rw [format, buffers.formatMid, buffers.formatOut]
  · rw [width, stride]
    exact le_align16 _
  · have turned := quarter_size_turned pPictureIn pPictureMid pPictureOut _ height width
    have small := buffers.sizeTurned
    rw [← turned] at small
    cases degree with
    | deg90 | deg270 =>
      apply apart_of_room buffers.turnedSize small
      rw [place]
      exact buffers.apartBoth
    | deg180 => exact absurd rfl quarter

theorem halfAgain :
    Rotatable .deg180 (rotatedPicture .deg180 pPictureIn pPictureMid) pPictureOut := by
  obtain ⟨format, place, width, height, stride⟩ := rotated_only .deg180 pPictureIn pPictureMid
  have same := picture_size_eq stride height
  have small : pictureSize (rotatedPicture .deg180 pPictureIn pPictureMid) ≤ room := by
    rw [same]
    exact buffers.size
  constructor
  · rw [format, buffers.formatMid, buffers.supported]
  · rw [format, buffers.formatMid, buffers.formatOut]
  · rw [width, stride]
    exact buffers.stride
  · have smallToo : pictureSize (resized (rotatedPicture .deg180 pPictureIn pPictureMid)
        pPictureOut .deg180) ≤ room := small
    apply apart_of_room small smallToo
    rw [place]
    exact buffers.apartBoth

end RotationBuffers

end Buffers

section Composition

variable {Byte : Type*} {degree : Degree} {pPictureIn pPictureMid pPictureOut : VideoPicture}
  {room : Nat}

theorem rotation_inside (rotatable : Rotatable degree pPictureIn pPictureOut)
    (kept : PointerKept degree pPictureIn pPictureOut) :
    RotationInside degree pPictureIn pPictureOut := by
  have ready := prepared_ready rotatable kept
  exact moves_inside ready.supported ready.format ready.sized ready.setIn ready.setOut

theorem kept_of_set (other : degree ≠ .deg270) : PointerKept degree pPictureIn pPictureOut :=
  fun same => absurd same other

theorem rotations_turn {first second : Degree} (rotatable : Rotatable first pPictureIn pPictureMid)
    (kept : PointerKept first pPictureIn pPictureMid)
    (again : Rotatable second (rotatedPicture first pPictureIn pPictureMid) pPictureOut)
    (keptToo : PointerKept second (rotatedPicture first pPictureIn pPictureMid) pPictureOut)
    (mem : Nat → Byte) :
    let middle := first.rotate mem pPictureIn pPictureMid
    let final := second.rotate middle.mem middle.pPictureOut pPictureOut
    (lumaRaster final.mem final.pPictureOut).Same
        (turned (turned (lumaRaster mem pPictureIn) first) second) ∧
      (chromaRaster final.mem final.pPictureOut).Same
        (turned (turned (chromaRaster mem pPictureIn) first) second) := by
  intro middle final
  have once := rotate_turns rotatable kept mem
  have twice := rotate_turns again keptToo middle.mem
  exact ⟨twice.luma.trans (turned_congr once.luma), twice.chroma.trans (turned_congr once.chroma)⟩

variable (buffers : RotationBuffers pPictureIn pPictureMid pPictureOut room)

include buffers

theorem quarter_back
    (kept : PointerKept .deg270 (rotatedPicture .deg90 pPictureIn pPictureMid) pPictureOut)
    (mem : Nat → UInt8) :
    let first := quarterTurn pPictureIn pPictureMid mem
    let second := RotatePicture270Degree first.mem first.pPictureOut pPictureOut
    SamePicture second.mem second.pPictureOut mem pPictureIn := by
  intro first second
  obtain ⟨luma, chroma⟩ := rotations_turn buffers.quarter (kept_of_set (by decide))
    (buffers.quarterAgain .deg270 (by decide)) kept mem
  exact ⟨luma.trans (Raster.quarter_three_quarter _), chroma.trans (Raster.quarter_three_quarter _)⟩

theorem quarter_twice (mem : Nat → UInt8) :
    let first := quarterTurn pPictureIn pPictureMid mem
    let second := RotatePicture90Degree first.mem first.pPictureOut pPictureOut
    let half := RotatePicture180Degree mem pPictureIn pPictureOut
    SamePicture second.mem second.pPictureOut half.mem half.pPictureOut := by
  intro first second half
  obtain ⟨luma, chroma⟩ := rotations_turn buffers.quarter (kept_of_set (by decide))
    (buffers.quarterAgain .deg90 (by decide)) (kept_of_set (by decide)) mem
  have direct := rotate_turns buffers.halfOut (kept_of_set (by decide)) mem
  constructor
  · exact (luma.trans (Raster.quarter_quarter _)).trans direct.luma.symm
  · exact (chroma.trans (Raster.quarter_quarter _)).trans direct.chroma.symm

theorem half_twice (mem : Nat → UInt8) :
    let first := halfTurn pPictureIn pPictureMid mem
    let second := RotatePicture180Degree first.mem first.pPictureOut pPictureOut
    SamePicture second.mem second.pPictureOut mem pPictureIn := by
  intro first second
  obtain ⟨luma, chroma⟩ := rotations_turn buffers.half (kept_of_set (by decide))
    buffers.halfAgain (kept_of_set (by decide)) mem
  exact ⟨luma.trans (Raster.half_half _), chroma.trans (Raster.half_half _)⟩

theorem algebra_of_kept
    (kept : PointerKept .deg270 (rotatedPicture .deg90 pPictureIn pPictureMid) pPictureOut) :
    RotationAlgebra pPictureIn pPictureMid pPictureOut where
  quarterBack := quarter_back buffers kept
  quarterTwice := quarter_twice buffers
  halfTwice := half_twice buffers
  quarterInside := rotation_inside buffers.quarter (kept_of_set (by decide))
  quarterBackInside := rotation_inside (buffers.quarterAgain .deg270 (by decide)) kept
  quarterTwiceInside :=
    rotation_inside (buffers.quarterAgain .deg90 (by decide)) (kept_of_set (by decide))
  halfInside := rotation_inside buffers.half (kept_of_set (by decide))
  halfOutInside := rotation_inside buffers.halfOut (kept_of_set (by decide))
  halfTwiceInside := rotation_inside buffers.halfAgain (kept_of_set (by decide))

omit buffers

theorem rotated_offsets (degree : Degree) (pPictureIn pPictureOut : VideoPicture) :
    ∃ pData1 pData2, rotatedPicture degree pPictureIn pPictureOut = degree.offsets pPictureIn
        { resized pPictureIn pPictureOut degree with pData1 := pData1, pData2 := pData2 } := by
  obtain ⟨first, second, source⟩ := set_planes_only pPictureIn pPictureOut.ePixelFormat
  obtain ⟨pData1, pData2, out⟩ := prepared_out_only degree pPictureIn pPictureOut
  refine ⟨pData1, pData2, ?_⟩
  unfold rotatedPicture
  rw [prepared_in, source, out]
  cases degree <;> rfl

end Composition

section Crop

variable {pPictureIn : VideoPicture}

/-- Inside the rectangle between the offsets. -/
def Visible (picture : VideoPicture) (x y : Nat) : Prop :=
  picture.nLeftOffset ≤ x ∧ x < picture.nRightOffset ∧
    picture.nTopOffset ≤ y ∧ y < picture.nBottomOffset

structure CropInside (picture : VideoPicture) : Prop where
  columns : 0 ≤ picture.nLeftOffset ∧ picture.nLeftOffset ≤ picture.nRightOffset
  width : picture.nRightOffset ≤ picture.nWidth
  rows : 0 ≤ picture.nTopOffset ∧ picture.nTopOffset ≤ picture.nBottomOffset
  height : picture.nBottomOffset ≤ picture.nHeight

/-- A sample is visible after the rotation where its source is. -/
def CropTurned (degree : Degree) (pPictureIn final : VideoPicture) : Prop :=
  ∀ j < pPictureIn.nHeight, ∀ i < pPictureIn.nWidth,
    Visible final (column pPictureIn.nHeight pPictureIn.nWidth j i degree)
      (row pPictureIn.nHeight pPictureIn.nWidth j i degree) ↔ Visible pPictureIn i j

/-- The lower edge is taken from `nTopOffset`, so that no rectangle is left. -/
theorem rotated_not_visible (degree : Degree) (pPictureIn pPictureOut : VideoPicture) (x y : Nat) :
    ¬ Visible (rotatedPicture degree pPictureIn pPictureOut) x y := by
  obtain ⟨first, second, turned⟩ := rotated_offsets degree pPictureIn pPictureOut
  rw [turned]
  rintro ⟨left, right, top, bottom⟩
  cases degree with
  | deg90 | deg270 =>
    dsimp only [Degree.offsets, resized, quarterSize] at left right
    omega
  | deg180 =>
    dsimp only [Degree.offsets, resized, halfSize] at top bottom
    omega

theorem crop_turned_iff {Byte : Type*} (degree : Degree) (mem : Nat → Byte)
    (pPictureOut : VideoPicture) (inside : CropInside pPictureIn) :
    CropTurned degree pPictureIn (degree.rotate mem pPictureIn pPictureOut).pPictureOut ↔
      pPictureIn.nLeftOffset = pPictureIn.nRightOffset ∨
        pPictureIn.nTopOffset = pPictureIn.nBottomOffset := by
  have hidden := rotated_not_visible degree pPictureIn pPictureOut
  constructor
  · intro turned
    by_contra visible
    rw [not_or] at visible
    have columns := inside.columns
    have rows := inside.rows
    have width := inside.width
    have height := inside.height
    apply hidden _ _ ((turned pPictureIn.nTopOffset.toNat (by omega) pPictureIn.nLeftOffset.toNat
      (by omega)).mpr _)
    unfold Visible
    omega
  · intro empty j _ i _
    apply iff_of_false (hidden _ _)
    rintro ⟨left, right, top, bottom⟩
    omega

def croppedPicture (nBottomOffset : Int) : VideoPicture :=
  ⟨.PIXEL_FORMAT_YV12, 4, 2, 16, 0, 0, nBottomOffset, 4, 0, 0, 0⟩

theorem empty_crop_turned : CropTurned .deg90 (croppedPicture 0)
    (Degree.deg90.rotate (fun _ => ()) (croppedPicture 0) (croppedPicture 0)).pPictureOut :=
  (crop_turned_iff .deg90 _ _ ⟨by decide, by decide, by decide, by decide⟩).mpr (Or.inr rfl)

/-- The whole frame is visible, and nothing of it after a quarter turn. -/
theorem full_crop_lost : CropInside (croppedPicture 2) ∧ ¬ CropTurned .deg90 (croppedPicture 2)
    (RotatePicture90Degree (fun _ => ()) (croppedPicture 2) (croppedPicture 0)).pPictureOut := by
  refine ⟨⟨by decide, by decide, by decide, by decide⟩, ?_⟩
  intro turned
  apply rotated_not_visible .deg90 (croppedPicture 2) (croppedPicture 0) _ _
    ((turned 0 (by decide) 0 (by decide)).mpr _)
  exact ⟨by decide, by decide, by decide, by decide⟩

end Crop

section Necessity

variable {pPictureIn pPictureMid pPictureOut : VideoPicture} {room : Nat}

/-- A memory with a single sample that differs from all others. -/
def markedSample (place : Nat) : Nat → UInt8 := fun address => if address = place then 1 else 0

theorem marked_sample_eq {place address : Nat} (marked : markedSample place address = 1) :
    address = place := by
  unfold markedSample at marked
  by_contra different
  rw [if_neg different] at marked
  cases marked

theorem first_in_plane {picture : VideoPicture} (chroma : HasChroma picture)
    (stride : picture.nWidth ≤ picture.nLineStride) :
    InsidePlane picture .C1 (planeStart picture .C1) := by
  unfold HasChroma at chroma
  have rows : 0 < picture.nHeight / 2 := by omega
  have columns : 0 < picture.nLineStride / 2 := by omega
  have offset := chroma_offset_lt rows columns
  constructor
  · exact Nat.le_refl _
  · unfold planeSize
    dsimp only
    split_ifs
    · omega
    · omega

theorem quarter_turn_chroma (rotatable : Rotatable .deg90 pPictureIn pPictureMid)
    (mem : Nat → UInt8) (second : Bool) {x y : Nat} (left : x < pPictureIn.nHeight / 2)
    (below : y < pPictureIn.nWidth / 2) :
    (quarterTurn pPictureIn pPictureMid mem).mem
        (chromaAddress (rotatedPicture .deg90 pPictureIn pPictureMid) second x y) =
      mem (chromaAddress pPictureIn second y (pPictureIn.nHeight / 2 - 1 - x)) := by
  obtain ⟨_, _, width, height, _⟩ := rotated_only .deg90 pPictureIn pPictureMid
  have once := (rotate_turns rotatable (kept_of_set (by decide)) mem).chroma.sample x
    (Nat.lt_of_lt_of_eq left (congrArg (· / 2) width).symm) y
    (Nat.lt_of_lt_of_eq below (congrArg (· / 2) height).symm)
  cases second with
  | false => exact congrArg Prod.fst once
  | true => exact congrArg Prod.snd once

theorem pair_source_address {picture : VideoPicture} {ePixelFormat : PixelFormat}
    (format : picture.ePixelFormat = ePixelFormat) (supported : ePixelFormat.supported = true)
    (pairs : ePixelFormat.planar = false) {degree : Degree}
    (nHeight nWidth nRotateLineStride dst j i : Nat) (second : Bool) :
    (pairMove degree nHeight nWidth ((picture.setPlanes ePixelFormat).nLineStride / 2)
      nRotateLineStride (picture.setPlanes ePixelFormat).pData1 dst j i second).src =
      chromaAddress picture second i j := by
  have pointers := set_planes_set format supported
  obtain ⟨first', second', source⟩ := set_planes_only picture ePixelFormat
  rw [pair_move_source, pointers.first, source]
  unfold chromaAddress
  rw [format, pairs, if_neg (by decide)]
  rfl

theorem first_copy_place (buffers : RotationBuffers pPictureIn pPictureMid pPictureOut room)
    (chroma : HasChroma pPictureIn) (pairs : pPictureIn.ePixelFormat.planar = false) {move : Move}
    (copied : MovesOf .deg270
      ((rotatedPicture .deg90 pPictureIn pPictureMid).setPlanes pPictureOut.ePixelFormat)
      (quarterSize (rotatedPicture .deg90 pPictureIn pPictureMid) pPictureOut) move .C1)
    (first : (quarterTurn pPictureIn pPictureMid
      (markedSample (chromaAddress pPictureIn false 0 0))).mem move.src = 1) :
    move.dst = pPictureOut.pData1 := by
  obtain ⟨format, _, width, height, _⟩ := rotated_only .deg90 pPictureIn pPictureMid
  obtain ⟨first', second', source⟩ :=
    set_planes_only (rotatedPicture .deg90 pPictureIn pPictureMid) pPictureOut.ePixelFormat
  have same : (rotatedPicture .deg90 pPictureIn pPictureMid).ePixelFormat =
      pPictureOut.ePixelFormat := by
    rw [format, buffers.formatMid, buffers.formatOut]
  have supported : pPictureOut.ePixelFormat.supported = true := by
    rw [buffers.formatOut, buffers.supported]
  have pairsOut : pPictureOut.ePixelFormat.planar = false := by rw [buffers.formatOut, pairs]
  obtain ⟨j, below, i, left, copied⟩ := copied
  rw [if_neg (show ¬(quarterSize _ pPictureOut).ePixelFormat.planar = true by
    change ¬pPictureOut.ePixelFormat.planar = true
    rw [pairsOut]
    decide)] at copied
  obtain ⟨second, rfl⟩ := copied
  have below' : j < pPictureIn.nWidth / 2 := by
    rw [source] at below
    exact Nat.lt_of_lt_of_eq below (congrArg (· / 2) height)
  have left' : i < pPictureIn.nHeight / 2 := by
    rw [source] at left
    exact Nat.lt_of_lt_of_eq left (congrArg (· / 2) width)
  rw [pair_source_address same supported pairsOut,
    quarter_turn_chroma buffers.quarter _ second left' below'] at first
  have origin := marked_sample_eq first
  unfold chromaAddress at origin
  rw [pairs, if_neg (by decide), if_neg (by decide)] at origin
  have stride := buffers.stride
  unfold HasChroma at chroma
  have offset : 2 * ((pPictureIn.nHeight / 2 - 1 - i) * (pPictureIn.nLineStride / 2) + j) +
      second.toNat = 0 := by
    simp only [Nat.zero_mul, Nat.add_zero, Bool.toNat_false, Nat.mul_zero] at origin
    omega
  have last : pPictureIn.nHeight / 2 - 1 - i = 0 := by
    have product : (pPictureIn.nHeight / 2 - 1 - i) * (pPictureIn.nLineStride / 2) = 0 := by omega
    have positive : pPictureIn.nLineStride / 2 ≠ 0 := by omega
    exact (Nat.mul_eq_zero.mp product).resolve_right positive
  have column : j = 0 := by omega
  have isFirst : second = false := by
    cases second with
    | false => rfl
    | true => simp at offset
  subst column isFirst
  have halfWidth : (rotatedPicture .deg90 pPictureIn pPictureMid).nWidth / 2 =
      pPictureIn.nHeight / 2 := congrArg (· / 2) width
  unfold pairMove Degree.firstIndex
  rw [source]
  dsimp only
  rw [halfWidth, show pPictureIn.nHeight / 2 - 1 - i = 0 from last]
  simp [quarterSize]

theorem first_chroma_address (pPictureMid pPictureOut : VideoPicture)
    (pairs : pPictureOut.ePixelFormat.planar = false) :
    chromaAddress (rotatedPicture .deg270 pPictureMid pPictureOut) false 0 0 =
      planeStart (quarterSize pPictureMid pPictureOut) .C1 := by
  obtain ⟨format, place, _, height, stride⟩ := rotated_only .deg270 pPictureMid pPictureOut
  unfold chromaAddress planeStart VideoPicture.nMemSizeY
  dsimp only
  rw [format, pairs, if_neg (by decide), place, height, stride, Nat.zero_mul]
  rfl

theorem prepared_back (pPictureMid : VideoPicture) {pPictureOut : VideoPicture}
    (pairs : pPictureOut.ePixelFormat.planar = false) :
    (Degree.deg270.prepare pPictureMid pPictureOut).pPictureOut =
      quarterSize pPictureMid pPictureOut := by
  change (if pPictureOut.ePixelFormat.planar then _ else _) = _
  rw [pairs, if_neg (by decide)]

theorem quarter_turn_untouched (rotatable : Rotatable .deg90 pPictureIn pPictureMid)
    (mem : Nat → UInt8) {address : Nat}
    (outside : ¬(pPictureMid.pData0 ≤ address ∧ address < pPictureMid.pData0 +
      pictureSize (quarterSize pPictureIn pPictureMid))) :
    (quarterTurn pPictureIn pPictureMid mem).mem address = mem address := by
  have inside := rotation_inside rotatable (kept_of_set (by decide))
  obtain ⟨first, second, out⟩ := prepared_out_only .deg90 pPictureIn pPictureMid
  apply copy_moves_untouched
  intro move written reached
  obtain ⟨copy, listed, rfl⟩ := List.mem_map.mp written
  have target := plane_in_picture (inside copy listed).2
  rw [out, reached] at target
  exact outside target

/-- A sample that arrives where the first chroma sample belongs was sent there. -/
theorem back_copy_exists (buffers : RotationBuffers pPictureIn pPictureMid pPictureOut room)
    (chroma : HasChroma pPictureIn) {moves : List PlaneMove} {target : VideoPicture}
    (place : target.pData0 = pPictureOut.pData0) (size : pictureSize target ≤ room)
    (first : planeStart target .C1 < target.pData0 + pictureSize target)
    (arrived : copyMoves (moves.map PlaneMove.move)
      (quarterTurn pPictureIn pPictureMid
        (markedSample (chromaAddress pPictureIn false 0 0))).mem (planeStart target .C1) = 1) :
    ∃ copy ∈ moves, copy.move.dst = planeStart target .C1 := by
  by_contra none
  have untouched : ∀ move ∈ moves.map PlaneMove.move, move.dst ≠ planeStart target .C1 := by
    intro move written reached
    obtain ⟨copy, listed, rfl⟩ := List.mem_map.mp written
    exact none ⟨copy, listed, reached⟩
  have source := (plane_in_picture (first_in_plane chroma buffers.stride)).2
  have low : pPictureIn.pData0 ≤ planeStart pPictureIn .C1 := Nat.le_add_right _ _
  have lowOut : target.pData0 ≤ planeStart target .C1 := Nat.le_add_right _ _
  have roomIn := buffers.size
  have roomMid := buffers.sizeTurned
  have apartOut := buffers.apartOut
  have apartBoth := buffers.apartBoth
  rw [copy_moves_untouched untouched, quarter_turn_untouched buffers.quarter] at arrived
  · have same := marked_sample_eq arrived
    have origin : chromaAddress pPictureIn false 0 0 = planeStart pPictureIn .C1 := by
      unfold chromaAddress
      cases pPictureIn.ePixelFormat.planar <;> simp
    omega
  · omega

/-- The laws need `pData1` of the last result to point to its chroma plane. -/
theorem kept_of_algebra (buffers : RotationBuffers pPictureIn pPictureMid pPictureOut room)
    (algebra : RotationAlgebra pPictureIn pPictureMid pPictureOut) :
    PointerKept .deg270 (rotatedPicture .deg90 pPictureIn pPictureMid) pPictureOut := by
  intro _ chromaMid pairsMid
  obtain ⟨format, _, width, height, _⟩ := rotated_only .deg90 pPictureIn pPictureMid
  have chroma : HasChroma pPictureIn := ⟨chromaMid.2.trans_eq height, chromaMid.1.trans_eq width⟩
  have pairs : pPictureIn.ePixelFormat.planar = false := by
    rw [← buffers.formatMid, ← format, pairsMid]
  have pairsOut : pPictureOut.ePixelFormat.planar = false := by rw [buffers.formatOut, pairs]
  have supported : (quarterSize (rotatedPicture .deg90 pPictureIn pPictureMid)
      pPictureOut).ePixelFormat.supported = true := by
    change pPictureOut.ePixelFormat.supported = true
    rw [buffers.formatOut, buffers.supported]
  have again := buffers.quarterAgain .deg270 (by decide)
  have sized := resized_sized again
  have apart := again.apart
  have inside := algebra.quarterBackInside
  obtain ⟨first', second', source⟩ :=
    set_planes_only (rotatedPicture .deg90 pPictureIn pPictureMid) pPictureOut.ePixelFormat
  unfold RotationInside at inside
  rw [prepared_in, prepared_back _ pairsOut] at inside
  -- the memory has one sample that differs, the first chroma sample of the picture
  have back := (algebra.quarterBack (markedSample (chromaAddress pPictureIn false 0 0))).chroma
  have left : 0 < pPictureIn.nWidth / 2 := Nat.div_pos chroma.1 (by decide)
  have below : 0 < pPictureIn.nHeight / 2 := Nat.div_pos chroma.2 (by decide)
  have first := congrArg Prod.fst (back.sample 0 (Nat.lt_of_lt_of_eq left back.width.symm) 0
    (Nat.lt_of_lt_of_eq below back.height.symm))
  have arrived : copyMoves ((rotateMoves .deg270
      ((rotatedPicture .deg90 pPictureIn pPictureMid).setPlanes pPictureOut.ePixelFormat)
      (quarterSize (rotatedPicture .deg90 pPictureIn pPictureMid) pPictureOut)).map PlaneMove.move)
      (quarterTurn pPictureIn pPictureMid
        (markedSample (chromaAddress pPictureIn false 0 0))).mem
      (planeStart (quarterSize (rotatedPicture .deg90 pPictureIn pPictureMid) pPictureOut) .C1) =
        1 := by
    rw [← first_chroma_address _ _ pairsOut, ← prepared_back _ pairsOut, ← prepared_in]
    exact first.trans (if_pos rfl)
  have outChroma : HasChroma
      (quarterSize (rotatedPicture .deg90 pPictureIn pPictureMid) pPictureOut) :=
    ⟨chromaMid.2, chromaMid.1⟩
  have firstInPlane := first_in_plane outChroma sized.rows.outWidth
  have small : pictureSize
      (quarterSize (rotatedPicture .deg90 pPictureIn pPictureMid) pPictureOut) ≤ room := by
    rw [quarter_size_turned pPictureIn pPictureMid pPictureOut _ height width]
    exact buffers.sizeTurned
  obtain ⟨⟨plane, move⟩, listed, reached⟩ := @back_copy_exists _ _ _ _ buffers chroma _
    (quarterSize (rotatedPicture .deg90 pPictureIn pPictureMid) pPictureOut) rfl small
    (plane_in_picture firstInPlane).2 arrived
  have copied := (mem_rotate_moves supported).mp listed
  have written := (inside _ listed).2
  dsimp only at reached written
  rw [reached] at written
  obtain rfl := plane_of_address written firstInPlane
  rw [← reached] at arrived ⊢
  rw [rotated_sample supported (by rw [source]; exact sized.rows) inside
    (by rw [source]; exact apart) _ copied] at arrived
  exact (first_copy_place buffers chroma pairs copied arrived).symm

/-- The rotations compose exactly when the chroma samples are planar, there are none, or
`pData1` of the last result points to its chroma plane before `RotatePicture270Degree`. -/
theorem rotations_compose_iff (buffers : RotationBuffers pPictureIn pPictureMid pPictureOut room) :
    RotationAlgebra pPictureIn pPictureMid pPictureOut ↔
      (pPictureIn.ePixelFormat = .PIXEL_FORMAT_YV12 ∨ pPictureIn.nWidth < 2 ∨
        pPictureIn.nHeight < 2 ∨
        pPictureOut.pData1 = pPictureOut.pData0 +
          align16 pPictureIn.nWidth * align16 pPictureIn.nHeight) := by
  obtain ⟨format, _, width, height, _⟩ := rotated_only .deg90 pPictureIn pPictureMid
  have start : planeStart (quarterSize (rotatedPicture .deg90 pPictureIn pPictureMid)
      pPictureOut) .C1 = pPictureOut.pData0 +
        align16 pPictureIn.nWidth * align16 pPictureIn.nHeight := by
    change pPictureOut.pData0 + align16 (rotatedPicture .deg90 pPictureIn pPictureMid).nHeight *
      align16 (rotatedPicture .deg90 pPictureIn pPictureMid).nWidth = _
    rw [height, width]
    rfl
  constructor
  · intro algebra
    have kept := kept_of_algebra buffers algebra rfl
    by_cases planar : pPictureIn.ePixelFormat = .PIXEL_FORMAT_YV12
    · exact .inl planar
    by_cases wide : 2 ≤ pPictureIn.nWidth
    · by_cases high : 2 ≤ pPictureIn.nHeight
      · rw [start] at kept
        refine .inr (.inr (.inr (kept ⟨high.trans_eq width.symm, wide.trans_eq height.symm⟩ ?_)))
        rw [format, buffers.formatMid]
        exact decide_eq_false planar
      · exact .inr (.inr (.inl (Nat.lt_of_not_le high)))
    · exact .inr (.inl (Nat.lt_of_not_le wide))
  · intro right
    apply algebra_of_kept buffers
    intro _ chroma pairs
    rw [format, buffers.formatMid] at pairs
    have high : 2 ≤ pPictureIn.nHeight := chroma.1.trans_eq width
    have wide : 2 ≤ pPictureIn.nWidth := chroma.2.trans_eq height
    rw [start]
    obtain planar | narrow | low | pointer := right
    · exact absurd planar (of_decide_eq_false pairs)
    · omega
    · omega
    · exact pointer

/-- A picture of 2 by 2 samples at the given address. -/
def smallPicture (pData0 pData1 : Nat) : VideoPicture where
  ePixelFormat := .PIXEL_FORMAT_NV21
  nWidth := 2
  nHeight := 2
  nLineStride := 16
  nTopOffset := 0
  nLeftOffset := 0
  nBottomOffset := 2
  nRightOffset := 2
  pData0 := pData0
  pData1 := pData1
  pData2 := 0

theorem small_rotations_compose :
    RotationAlgebra (smallPicture 0 0) (smallPicture 1000 0) (smallPicture 2000 2256) := by
  have buffers : RotationBuffers (smallPicture 0 0) (smallPicture 1000 0)
      (smallPicture 2000 2256) 1000 := by
    constructor <;> decide
  exact (rotations_compose_iff buffers).mpr (.inr (.inr (.inr (by decide))))

/-- The result picture has its buffer at 2000, and nobody has set its `pData1` yet. -/
theorem unset_pointer_leaves_plane :
    ¬RotationAlgebra (smallPicture 0 0) (smallPicture 1000 0) (smallPicture 2000 0) := by
  intro algebra
  have inside := algebra.quarterBackInside
  have outside : ¬∀ copy ∈ rotateMoves .deg270
      (Degree.deg270.prepare (rotatedPicture .deg90 (smallPicture 0 0) (smallPicture 1000 0))
        (smallPicture 2000 0)).pPictureIn
      (Degree.deg270.prepare (rotatedPicture .deg90 (smallPicture 0 0) (smallPicture 1000 0))
        (smallPicture 2000 0)).pPictureOut,
      InsidePlane (Degree.deg270.prepare
        (rotatedPicture .deg90 (smallPicture 0 0) (smallPicture 1000 0))
        (smallPicture 2000 0)).pPictureOut copy.plane copy.move.dst := by
    decide
  exact outside fun copy listed => (inside copy listed).2

end Necessity

end CedarC.PictureRotationAlgebra
