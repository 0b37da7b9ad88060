import CedarC.PictureRotation
import Mathlib.Tactic.Ring

/-!
# A rotation turns the rasters of a picture

The copies of a rotation, plane by plane. As long as each stays in the plane it is made
for, the raster of the luma samples and that of the chroma samples arrive turned.
-/

namespace CedarC.PictureRotationTurns

open Rasters PictureRotation List

variable {Byte : Type*}

section Planes

/-- Where a plane lies behind `pData0`. -/
def planeStart (picture : VideoPicture) : Plane → Nat
  | .Y => picture.pData0
  | .C1 => picture.pData0 + picture.nMemSizeY
  | .C2 => picture.pData0 + picture.nMemSizeY + picture.nMemSizeC

def planeSize (picture : VideoPicture) : Plane → Nat
  | .Y => picture.nMemSizeY
  | .C1 =>
    if picture.ePixelFormat.planar then picture.nMemSizeC else 2 * picture.nMemSizeC
  | .C2 => if picture.ePixelFormat.planar then picture.nMemSizeC else 0

def InsidePlane (picture : VideoPicture) (plane : Plane) (address : Nat) : Prop :=
  planeStart picture plane ≤ address ∧ address < planeStart picture plane + planeSize picture plane
deriving Decidable

def MovesInside (moves : List PlaneMove) (pPictureIn pPictureOut : VideoPicture) : Prop :=
  ∀ move ∈ moves, InsidePlane pPictureIn move.plane move.move.src ∧
    InsidePlane pPictureOut move.plane move.move.dst

def pictureSize (picture : VideoPicture) : Nat := picture.nMemSizeY + 2 * picture.nMemSizeC

variable {picture : VideoPicture} {address : Nat}

theorem plane_in_picture {plane : Plane} (inside : InsidePlane picture plane address) :
    picture.pData0 ≤ address ∧ address < picture.pData0 + pictureSize picture := by
  unfold InsidePlane at inside
  unfold pictureSize
  cases planar : picture.ePixelFormat.planar <;> cases plane <;>
    simp [planeStart, planeSize, planar] at inside <;> omega

theorem plane_of_address {plane other : Plane}
    (inside : InsidePlane picture plane address) (too : InsidePlane picture other address) :
    plane = other := by
  unfold InsidePlane at inside too
  by_contra different
  cases planar : picture.ePixelFormat.planar <;> cases plane <;> cases other <;>
    simp [planeStart, planeSize, planar] at inside too different <;> omega

end Planes

section Indices

def outWidth (nHeight nWidth : Nat) : Degree → Nat
  | .deg180 => nWidth
  | _ => nHeight

def outHeight (nHeight nWidth : Nat) : Degree → Nat
  | .deg180 => nHeight
  | _ => nWidth

/-- The column that the sample in row `j` and column `i` goes to. -/
def column (nHeight nWidth j i : Nat) : Degree → Nat
  | .deg90 => nHeight - 1 - j
  | .deg180 => nWidth - 1 - i
  | .deg270 => j

def row (nHeight nWidth j i : Nat) : Degree → Nat
  | .deg90 => i
  | .deg180 => nHeight - 1 - j
  | .deg270 => nWidth - 1 - i

def turned (raster : Raster Byte) : Degree → Raster Byte
  | .deg90 => raster.quarter
  | .deg180 => raster.half
  | .deg270 => raster.threeQuarter

/-- Rows of the target are as long as its width asks for; half a turn keeps them. -/
structure RowsFit (degree : Degree) (nHeight nWidth nLineStride nRotateLineStride : Nat) : Prop where
  width : nWidth ≤ nLineStride
  outWidth : outWidth nHeight nWidth degree ≤ nRotateLineStride
  kept : degree = .deg180 → nRotateLineStride = nLineStride

theorem RowsFit.halves {degree : Degree} {nHeight nWidth nLineStride nRotateLineStride : Nat}
    (fit : RowsFit degree nHeight nWidth nLineStride nRotateLineStride) :
    RowsFit degree (nHeight / 2) (nWidth / 2) (nLineStride / 2) (nRotateLineStride / 2) := by
  have wide := fit.outWidth
  constructor
  · exact Nat.div_le_div_right fit.width
  · cases degree <;> exact Nat.div_le_div_right wide
  · intro half
    rw [fit.kept half]

variable {degree : Degree} {nHeight nWidth nLineStride nRotateLineStride j i : Nat}

theorem column_lt (below : j < nHeight) (left : i < nWidth) :
    column nHeight nWidth j i degree < outWidth nHeight nWidth degree := by
  cases degree <;> simp only [column, outWidth] <;> omega

theorem row_lt (below : j < nHeight) (left : i < nWidth) :
    row nHeight nWidth j i degree < outHeight nHeight nWidth degree := by
  cases degree <;> simp only [row, outHeight] <;> omega

theorem index_eq (fit : RowsFit degree nHeight nWidth nLineStride nRotateLineStride)
    (below : j < nHeight) :
    degree.index nHeight nWidth nLineStride nRotateLineStride j i =
      row nHeight nWidth j i degree * nRotateLineStride + column nHeight nWidth j i degree := by
  cases degree with
  | deg90 =>
    simp only [Degree.index, row, column]
    omega
  | deg180 =>
    simp only [Degree.index, row, column]
    rw [fit.kept rfl]
  | deg270 => rfl

theorem first_index_eq (fit : RowsFit degree nHeight nWidth nLineStride nRotateLineStride)
    (below : j < nHeight) :
    degree.firstIndex nHeight nWidth nLineStride nRotateLineStride j i =
      2 * (row nHeight nWidth j i degree * nRotateLineStride +
        column nHeight nWidth j i degree) := by
  cases degree with
  | deg90 =>
    simp only [Degree.firstIndex, row, column]
    rw [Nat.mul_assoc]
    omega
  | deg180 =>
    simp only [Degree.firstIndex, row, column]
    rw [fit.kept rfl, Nat.mul_assoc, Nat.mul_add]
  | deg270 =>
    simp only [Degree.firstIndex, row, column]
    rw [Nat.mul_assoc, Nat.mul_add]

theorem second_index_eq (below : j < nHeight) :
    degree.secondIndex nHeight nWidth nLineStride nRotateLineStride j i =
      degree.firstIndex nHeight nWidth nLineStride nRotateLineStride j i + 1 := by
  cases degree with
  | deg90 =>
    simp only [Degree.firstIndex, Degree.secondIndex]
    omega
  | deg180 | deg270 => rfl

theorem grid_injective {rows columns stride other another : Nat} (narrow : columns < stride)
    (narrowToo : another < stride) (same : rows * stride + columns = other * stride + another) :
    rows = other ∧ columns = another := by
  have columnsSame : columns = another := by
    have reduced := congrArg (· % stride) same
    simpa [Nat.add_mod, Nat.mod_eq_of_lt narrow, Nat.mod_eq_of_lt narrowToo] using reduced
  subst columnsSame
  have positive : 0 < stride := by omega
  exact ⟨Nat.eq_of_mul_eq_mul_right positive (by omega), rfl⟩

theorem grid_lt {rows columns height stride : Nat} (below : rows < height)
    (narrow : columns < stride) : rows * stride + columns < height * stride := by
  calc rows * stride + columns < rows * stride + stride := by omega
    _ = (rows + 1) * stride := by rw [Nat.add_mul, Nat.one_mul]
    _ ≤ height * stride := Nat.mul_le_mul_right _ below

theorem source_of_place {j' i' : Nat} (below : j < nHeight) (left : i < nWidth)
    (below' : j' < nHeight) (left' : i' < nWidth)
    (rows : row nHeight nWidth j i degree = row nHeight nWidth j' i' degree)
    (columns : column nHeight nWidth j i degree = column nHeight nWidth j' i' degree) :
    j = j' ∧ i = i' := by
  cases degree <;> simp only [row, column] at rows columns <;> omega

theorem place_has_source {x y : Nat} (raster : Raster Byte)
    (left : x < (turned raster degree).width) (below : y < (turned raster degree).height) :
    ∃ j < raster.height, ∃ i < raster.width, column raster.height raster.width j i degree = x ∧
      row raster.height raster.width j i degree = y ∧
      (turned raster degree).sample x y = raster.sample i j := by
  cases degree with
  | deg90 =>
    change x < raster.height at left
    change y < raster.width at below
    refine ⟨raster.height - 1 - x, by omega, y, below, ?_, rfl, rfl⟩
    simp only [column]
    omega
  | deg180 =>
    change x < raster.width at left
    change y < raster.height at below
    refine ⟨raster.height - 1 - y, by omega, raster.width - 1 - x, by omega, ?_, ?_, rfl⟩
    · simp only [column]
      omega
    · simp only [row]
      omega
  | deg270 =>
    change x < raster.height at left
    change y < raster.width at below
    refine ⟨x, left, raster.width - 1 - y, by omega, rfl, ?_, rfl⟩
    simp only [row]
    omega

end Indices

section Copies

variable {degree : Degree} {pPictureIn pPictureOut : VideoPicture}

/-- The copy of the sample in row `j` and column `i` of a plane. -/
def sampleMove (degree : Degree) (nHeight nWidth nLineStride nRotateLineStride src dst j i : Nat) :
    Move :=
  ⟨dst + degree.index nHeight nWidth nLineStride nRotateLineStride j i, src + (j * nLineStride + i)⟩

def pairMove (degree : Degree) (nHeight nWidth nLineStride nRotateLineStride src dst j i : Nat) :
    Bool → Move
  | false =>
    ⟨dst + degree.firstIndex nHeight nWidth nLineStride nRotateLineStride j i,
      src + (2 * j * nLineStride + 2 * i)⟩
  | true =>
    ⟨dst + degree.secondIndex nHeight nWidth nLineStride nRotateLineStride j i,
      src + (2 * j * nLineStride + 2 * i + 1)⟩

def MovesOf (degree : Degree) (pPictureIn pPictureOut : VideoPicture) (move : Move) : Plane → Prop
  | .Y =>
    ∃ j < pPictureIn.nHeight, ∃ i < pPictureIn.nWidth,
      move = sampleMove degree pPictureIn.nHeight pPictureIn.nWidth pPictureIn.nLineStride
        pPictureOut.nLineStride pPictureIn.pData0 pPictureOut.pData0 j i
  | .C1 =>
    ∃ j < pPictureIn.nHeight / 2, ∃ i < pPictureIn.nWidth / 2,
      if pPictureOut.ePixelFormat.planar then
        move = sampleMove degree (pPictureIn.nHeight / 2) (pPictureIn.nWidth / 2)
          (pPictureIn.nLineStride / 2) (pPictureOut.nLineStride / 2) pPictureIn.pData1
          pPictureOut.pData1 j i
      else
        ∃ second, move = pairMove degree (pPictureIn.nHeight / 2) (pPictureIn.nWidth / 2)
          (pPictureIn.nLineStride / 2) (pPictureOut.nLineStride / 2) pPictureIn.pData1
          pPictureOut.pData1 j i second
  | .C2 =>
    ∃ j < pPictureIn.nHeight / 2, ∃ i < pPictureIn.nWidth / 2, pPictureOut.ePixelFormat.planar ∧
        move = sampleMove degree (pPictureIn.nHeight / 2) (pPictureIn.nWidth / 2)
          (pPictureIn.nLineStride / 2) (pPictureOut.nLineStride / 2) pPictureIn.pData2
          pPictureOut.pData2 j i

variable {plane : Plane} {move : Move} {j i j' i' : Nat}

theorem mem_luma_moves : ⟨plane, move⟩ ∈ lumaMoves degree pPictureIn pPictureOut ↔
      plane = .Y ∧ MovesOf degree pPictureIn pPictureOut move .Y := by
  simp only [lumaMoves, mem_flatMap, mem_map, mem_range, MovesOf, sampleMove, PlaneMove.mk.injEq]
  constructor
  · rintro ⟨j, below, i, left, rfl, rfl⟩
    exact ⟨rfl, j, below, i, left, rfl⟩
  · rintro ⟨rfl, j, below, i, left, rfl⟩
    exact ⟨j, below, i, left, rfl, rfl⟩

theorem mem_planar_moves (planar : pPictureOut.ePixelFormat.planar = true) :
    ⟨plane, move⟩ ∈ planarMoves degree pPictureIn pPictureOut ↔
      plane ≠ .Y ∧ MovesOf degree pPictureIn pPictureOut move plane := by
  simp only [planarMoves, mem_flatMap, mem_range, mem_cons, not_mem_nil,
    or_false, PlaneMove.mk.injEq]
  constructor
  · rintro ⟨j, below, i, left, ⟨rfl, rfl⟩ | ⟨rfl, rfl⟩⟩
    · refine ⟨by decide, j, below, i, left, ?_⟩
      rw [if_pos planar]
      rfl
    · exact ⟨by decide, j, below, i, left, planar, rfl⟩
  · rintro ⟨chroma, copied⟩
    cases plane with
    | Y => exact absurd rfl chroma
    | C1 =>
      obtain ⟨j, below, i, left, copied⟩ := copied
      rw [if_pos planar] at copied
      exact ⟨j, below, i, left, .inl ⟨rfl, copied⟩⟩
    | C2 =>
      obtain ⟨j, below, i, left, _, copied⟩ := copied
      exact ⟨j, below, i, left, .inr ⟨rfl, copied⟩⟩

theorem mem_pair_moves (pairs : pPictureOut.ePixelFormat.planar = false) :
    ⟨plane, move⟩ ∈ pairMoves degree pPictureIn pPictureOut ↔
      plane ≠ .Y ∧ MovesOf degree pPictureIn pPictureOut move plane := by
  simp only [pairMoves, mem_flatMap, mem_range, mem_cons, not_mem_nil, or_false, PlaneMove.mk.injEq]
  constructor
  · rintro ⟨j, below, i, left, ⟨rfl, rfl⟩ | ⟨rfl, rfl⟩⟩
    · refine ⟨by decide, j, below, i, left, ?_⟩
      rw [if_neg (by simp [pairs])]
      exact ⟨false, rfl⟩
    · refine ⟨by decide, j, below, i, left, ?_⟩
      rw [if_neg (by simp [pairs])]
      exact ⟨true, rfl⟩
  · rintro ⟨chroma, copied⟩
    cases plane with
    | Y => exact absurd rfl chroma
    | C1 =>
      obtain ⟨j, below, i, left, copied⟩ := copied
      rw [if_neg (by simp [pairs])] at copied
      obtain ⟨second, copied⟩ := copied
      refine ⟨j, below, i, left, ?_⟩
      cases second with
      | false => exact .inl ⟨rfl, copied⟩
      | true => exact .inr ⟨rfl, copied⟩
    | C2 =>
      obtain ⟨_, _, _, _, planar, _⟩ := copied
      rw [pairs] at planar
      cases planar

theorem mem_rotate_moves (supported : pPictureOut.ePixelFormat.supported = true) :
    ⟨plane, move⟩ ∈ rotateMoves degree pPictureIn pPictureOut ↔
      MovesOf degree pPictureIn pPictureOut move plane := by
  have split : (plane = .Y ∧ MovesOf degree pPictureIn pPictureOut move .Y) ∨
      (plane ≠ .Y ∧ MovesOf degree pPictureIn pPictureOut move plane) ↔
        MovesOf degree pPictureIn pPictureOut move plane := by
    cases plane <;> simp
  unfold rotateMoves
  cases planar : pPictureOut.ePixelFormat.planar with
  | true =>
    rw [if_pos rfl, mem_append, mem_luma_moves, mem_planar_moves planar]
    exact split
  | false =>
    rw [if_neg (by decide), if_pos supported, mem_append, mem_luma_moves, mem_pair_moves planar]
    exact split

variable {nHeight nWidth nLineStride nRotateLineStride src dst : Nat}
  (fit : RowsFit degree nHeight nWidth nLineStride nRotateLineStride)

include fit

theorem sample_move_single
    (below : j < nHeight) (left : i < nWidth) (below' : j' < nHeight) (left' : i' < nWidth)
    (same : (sampleMove degree nHeight nWidth nLineStride nRotateLineStride src dst j i).dst =
      (sampleMove degree nHeight nWidth nLineStride nRotateLineStride src dst j' i').dst) :
    j = j' ∧ i = i' := by
  have narrow : ∀ {j i}, j < nHeight → i < nWidth →
      column nHeight nWidth j i degree < nRotateLineStride :=
    fun below left => Nat.lt_of_lt_of_le (column_lt below left) fit.outWidth
  have placed := Nat.add_left_cancel same
  rw [index_eq fit below, index_eq fit below'] at placed
  obtain ⟨rows, columns⟩ := grid_injective (narrow below left) (narrow below' left') placed
  exact source_of_place below left below' left' rows columns

theorem pair_move_target (below : j < nHeight) (second : Bool) :
    (pairMove degree nHeight nWidth nLineStride nRotateLineStride src dst j i second).dst =
      dst + (2 * (row nHeight nWidth j i degree * nRotateLineStride +
        column nHeight nWidth j i degree) + second.toNat) := by
  cases second with
  | false =>
    rw [← first_index_eq fit below]
    rfl
  | true =>
    rw [← first_index_eq fit below, Bool.toNat_true, ← second_index_eq below]
    rfl

theorem pair_move_single {second second' : Bool} (below : j < nHeight) (left : i < nWidth)
    (below' : j' < nHeight) (left' : i' < nWidth)
    (same : (pairMove degree nHeight nWidth nLineStride nRotateLineStride src dst j i second).dst =
      (pairMove degree nHeight nWidth nLineStride nRotateLineStride src dst j' i' second').dst) :
    j = j' ∧ i = i' ∧ second = second' := by
  have narrow : ∀ {j i}, j < nHeight → i < nWidth →
      column nHeight nWidth j i degree < nRotateLineStride :=
    fun below left => Nat.lt_of_lt_of_le (column_lt below left) fit.outWidth
  rw [pair_move_target fit below, pair_move_target fit below'] at same
  have parity : second = second' := by cases second <;> cases second' <;> simp at same ⊢ <;> omega
  subst parity
  have placed : row nHeight nWidth j i degree * nRotateLineStride +
      column nHeight nWidth j i degree = row nHeight nWidth j' i' degree * nRotateLineStride +
          column nHeight nWidth j' i' degree := by
    omega
  obtain ⟨rows, columns⟩ := grid_injective (narrow below left) (narrow below' left') placed
  obtain ⟨sameRow, sameColumn⟩ := source_of_place below left below' left' rows columns
  exact ⟨sameRow, sameColumn, rfl⟩

omit fit

theorem moves_of_single {other : Move}
    (fit : RowsFit degree pPictureIn.nHeight pPictureIn.nWidth pPictureIn.nLineStride
      pPictureOut.nLineStride) (copied : MovesOf degree pPictureIn pPictureOut move plane)
    (too : MovesOf degree pPictureIn pPictureOut other plane) (same : move.dst = other.dst) :
    move.src = other.src := by
  cases plane with
  | Y =>
    obtain ⟨j, below, i, left, rfl⟩ := copied
    obtain ⟨j', below', i', left', rfl⟩ := too
    obtain ⟨rfl, rfl⟩ := sample_move_single fit below left below' left' same
    rfl
  | C1 =>
    obtain ⟨j, below, i, left, copied⟩ := copied
    obtain ⟨j', below', i', left', too⟩ := too
    split_ifs at copied too with planar
    · subst copied too
      obtain ⟨rfl, rfl⟩ := sample_move_single fit.halves below left below' left' same
      rfl
    · obtain ⟨second, rfl⟩ := copied
      obtain ⟨second', rfl⟩ := too
      obtain ⟨rfl, rfl, rfl⟩ := pair_move_single fit.halves below left below' left' same
      rfl
  | C2 =>
    obtain ⟨j, below, i, left, _, rfl⟩ := copied
    obtain ⟨j', below', i', left', _, rfl⟩ := too
    obtain ⟨rfl, rfl⟩ := sample_move_single fit.halves below left below' left' same
    rfl

/-- Two pictures of which neither reaches into the other. -/
def PicturesApart (pPictureIn pPictureOut : VideoPicture) : Prop :=
  pPictureIn.pData0 + pictureSize pPictureIn ≤ pPictureOut.pData0 ∨
    pPictureOut.pData0 + pictureSize pPictureOut ≤ pPictureIn.pData0

theorem rotated_sample (supported : pPictureOut.ePixelFormat.supported = true)
    (fit : RowsFit degree pPictureIn.nHeight pPictureIn.nWidth pPictureIn.nLineStride
      pPictureOut.nLineStride)
    (inside : MovesInside (rotateMoves degree pPictureIn pPictureOut) pPictureIn pPictureOut)
    (apart : PicturesApart pPictureIn pPictureOut) (mem : Nat → Byte) {plane : Plane}
    {move : Move} (copied : MovesOf degree pPictureIn pPictureOut move plane) :
    copyMoves ((rotateMoves degree pPictureIn pPictureOut).map PlaneMove.move) mem move.dst =
      mem move.src := by
  have listed : ∀ {plane move}, MovesOf degree pPictureIn pPictureOut move plane →
      ⟨plane, move⟩ ∈ rotateMoves degree pPictureIn pPictureOut :=
    fun copied => (mem_rotate_moves supported).mpr copied
  apply copy_moves_value
  · constructor
    · intro one oneCopied other otherCopied same
      obtain ⟨⟨plane, one⟩, first, rfl⟩ := mem_map.mp oneCopied
      obtain ⟨⟨plane', other⟩, second, rfl⟩ := mem_map.mp otherCopied
      have written := plane_in_picture (inside _ first).2
      have read := plane_in_picture (inside _ second).1
      unfold PicturesApart at apart
      dsimp only at same written read
      omega
    · intro one oneCopied other otherCopied same
      obtain ⟨⟨plane, one⟩, first, rfl⟩ := mem_map.mp oneCopied
      obtain ⟨⟨plane', other⟩, second, rfl⟩ := mem_map.mp otherCopied
      have written := (inside _ first).2
      have writtenToo := (inside _ second).2
      dsimp only at same written writtenToo
      rw [same] at written
      obtain rfl := plane_of_address written writtenToo
      exact moves_of_single fit ((mem_rotate_moves supported).mp first)
        ((mem_rotate_moves supported).mp second) same
  · exact mem_map.mpr ⟨⟨plane, move⟩, listed copied, rfl⟩

end Copies

section Places

variable {degree : Degree} {pPictureIn pPictureOut : VideoPicture}

theorem le_align16 (size : Nat) : size ≤ align16 size := by
  unfold align16
  omega

variable {j i nHeight nWidth nLineStride nRotateLineStride y x : Nat} {picture : VideoPicture}

theorem luma_offset_lt (below : y < picture.nHeight)
    (left : x < picture.nLineStride) : y * picture.nLineStride + x < picture.nMemSizeY := by
  calc y * picture.nLineStride + x < picture.nHeight * picture.nLineStride := grid_lt below left
    _ ≤ align16 picture.nHeight * picture.nLineStride := Nat.mul_le_mul_right _ (le_align16 _)
    _ = picture.nMemSizeY := Nat.mul_comm _ _

theorem chroma_offset_lt (below : y < picture.nHeight / 2) (left : x < picture.nLineStride / 2) :
    y * (picture.nLineStride / 2) + x < picture.nMemSizeC := by
  have inside := grid_lt below left
  have quarter : picture.nHeight / 2 * (picture.nLineStride / 2) * 4 ≤ picture.nMemSizeY := by
    have rows : picture.nHeight / 2 * 2 ≤ align16 picture.nHeight :=
      (Nat.div_mul_le_self _ _).trans (le_align16 _)
    have columns : picture.nLineStride / 2 * 2 ≤ picture.nLineStride := Nat.div_mul_le_self _ _
    calc picture.nHeight / 2 * (picture.nLineStride / 2) * 4
        = picture.nLineStride / 2 * 2 * (picture.nHeight / 2 * 2) := by ring
      _ ≤ picture.nLineStride * align16 picture.nHeight := Nat.mul_le_mul columns rows
  unfold VideoPicture.nMemSizeC
  omega

/-- The pointers to the chroma samples point to the chroma planes. -/
structure PointersSet (picture : VideoPicture) : Prop where
  first : picture.pData1 = planeStart picture .C1
  second : picture.ePixelFormat.planar = true → picture.pData2 = planeStart picture .C2

def HasChroma (picture : VideoPicture) : Prop := 2 ≤ picture.nWidth ∧ 2 ≤ picture.nHeight

theorem has_chroma (below : j < picture.nHeight / 2)
    (left : i < picture.nWidth / 2) : HasChroma picture := by
  unfold HasChroma
  omega

/-- The target has the size of the turned source. -/
structure Sized (degree : Degree) (pPictureIn pPictureOut : VideoPicture) : Prop where
  width : pPictureOut.nWidth = outWidth pPictureIn.nHeight pPictureIn.nWidth degree
  height : pPictureOut.nHeight = outHeight pPictureIn.nHeight pPictureIn.nWidth degree
  rows : RowsFit degree pPictureIn.nHeight pPictureIn.nWidth pPictureIn.nLineStride
    pPictureOut.nLineStride

theorem Sized.halfHeight (sized : Sized degree pPictureIn pPictureOut) :
    outHeight (pPictureIn.nHeight / 2) (pPictureIn.nWidth / 2) degree =
      pPictureOut.nHeight / 2 := by
  rw [sized.height]
  cases degree <;> rfl

theorem sample_move_inside
    (fit : RowsFit degree nHeight nWidth nLineStride nRotateLineStride) (below : j < nHeight)
    (left : i < nWidth) :
    ∃ y < outHeight nHeight nWidth degree, ∃ x < nRotateLineStride, ∀ src dst,
      (sampleMove degree nHeight nWidth nLineStride nRotateLineStride src dst j i).dst =
        dst + (y * nRotateLineStride + x) := by
  refine ⟨_, row_lt below left, _, Nat.lt_of_lt_of_le (column_lt below left) fit.outWidth, ?_⟩
  intro src dst
  rw [← index_eq fit below]
  rfl

theorem pair_move_inside
    (fit : RowsFit degree nHeight nWidth nLineStride nRotateLineStride) (below : j < nHeight)
    (left : i < nWidth) (second : Bool) :
    ∃ y < outHeight nHeight nWidth degree, ∃ x < nRotateLineStride, ∀ src dst,
      (pairMove degree nHeight nWidth nLineStride nRotateLineStride src dst j i second).dst =
        dst + (2 * (y * nRotateLineStride + x) + second.toNat) := by
  refine ⟨_, row_lt below left, _, Nat.lt_of_lt_of_le (column_lt below left) fit.outWidth, ?_⟩
  intro src dst
  exact pair_move_target fit below second

theorem pair_move_source {src dst : Nat} (second : Bool) :
    (pairMove degree nHeight nWidth nLineStride nRotateLineStride src dst j i second).src =
      src + (2 * (j * nLineStride + i) + second.toNat) := by
  cases second <;> simp only [pairMove, Bool.toNat_true, Bool.toNat_false] <;>
    rw [Nat.mul_assoc] <;> omega

theorem moves_inside (supported : pPictureOut.ePixelFormat.supported = true)
    (format : pPictureIn.ePixelFormat = pPictureOut.ePixelFormat)
    (sized : Sized degree pPictureIn pPictureOut) (setIn : PointersSet pPictureIn)
    (setOut : HasChroma pPictureIn → PointersSet pPictureOut) :
    MovesInside (rotateMoves degree pPictureIn pPictureOut) pPictureIn pPictureOut := by
  rintro ⟨plane, move⟩ listed
  have copied := (mem_rotate_moves supported).mp listed
  dsimp only
  cases plane with
  | Y =>
    obtain ⟨j, below, i, left, rfl⟩ := copied
    obtain ⟨y, high, x, wide, place⟩ := sample_move_inside sized.rows below left
    rw [← sized.height] at high
    have read := luma_offset_lt below (Nat.lt_of_lt_of_le left sized.rows.width)
    have written := luma_offset_lt high wide
    rw [place]
    unfold InsidePlane planeStart planeSize sampleMove
    dsimp only
    omega
  | C1 =>
    obtain ⟨j, below, i, left, copied⟩ := copied
    have read := chroma_offset_lt below (Nat.lt_of_lt_of_le left sized.rows.halves.width)
    have set := setOut (has_chroma below left)
    unfold InsidePlane planeSize
    dsimp only
    rw [format, ← setIn.first, ← set.first]
    split_ifs at copied with planar
    · subst copied
      obtain ⟨y, high, x, wide, place⟩ := sample_move_inside sized.rows.halves below left
      rw [sized.halfHeight] at high
      have written := chroma_offset_lt high wide
      rw [place, if_pos planar, if_pos planar]
      unfold sampleMove
      dsimp only
      omega
    · obtain ⟨second, rfl⟩ := copied
      obtain ⟨y, high, x, wide, place⟩ := pair_move_inside sized.rows.halves below left second
      rw [sized.halfHeight] at high
      have written := chroma_offset_lt high wide
      have bit := Bool.toNat_le second
      rw [place, pair_move_source, if_neg planar, if_neg planar]
      omega
  | C2 =>
    obtain ⟨j, below, i, left, planar, rfl⟩ := copied
    obtain ⟨y, high, x, wide, place⟩ := sample_move_inside sized.rows.halves below left
    rw [sized.halfHeight] at high
    have read := chroma_offset_lt below (Nat.lt_of_lt_of_le left sized.rows.halves.width)
    have written := chroma_offset_lt high wide
    have set := setOut (has_chroma below left)
    unfold InsidePlane planeSize
    dsimp only
    rw [format, ← setIn.second (by rw [format, planar]), ← set.second planar, place,
      if_pos planar, if_pos planar]
    unfold sampleMove
    dsimp only
    omega

end Places

section Rotations

variable {degree : Degree} {pPictureIn pPictureOut : VideoPicture}

def lumaRaster (mem : Nat → Byte) (picture : VideoPicture) : Raster Byte where
  width := picture.nWidth
  height := picture.nHeight
  sample x y := mem (planeStart picture .Y + (y * picture.nLineStride + x))

def chromaAddress (picture : VideoPicture) (second : Bool) (x y : Nat) : Nat :=
  if picture.ePixelFormat.planar then
    planeStart picture (if second then .C2 else .C1) + (y * (picture.nLineStride / 2) + x)
  else
    planeStart picture .C1 + (2 * (y * (picture.nLineStride / 2) + x) + second.toNat)

def chromaRaster (mem : Nat → Byte) (picture : VideoPicture) : Raster (Byte × Byte) where
  width := picture.nWidth / 2
  height := picture.nHeight / 2
  sample x y := (mem (chromaAddress picture false x y), mem (chromaAddress picture true x y))

structure SamePicture (mem : Nat → Byte) (picture : VideoPicture) (mem' : Nat → Byte)
    (picture' : VideoPicture) : Prop where
  luma : (lumaRaster mem picture).Same (lumaRaster mem' picture')
  chroma : (chromaRaster mem picture).Same (chromaRaster mem' picture')

structure ShowsTurned (degree : Degree) (mem : Nat → Byte) (picture : VideoPicture)
    (mem' : Nat → Byte) (picture' : VideoPicture) : Prop where
  luma : (lumaRaster mem' picture').Same (turned (lumaRaster mem picture) degree)
  chroma : (chromaRaster mem' picture').Same (turned (chromaRaster mem picture) degree)

structure LoopsReady (degree : Degree) (pPictureIn pPictureOut : VideoPicture) : Prop where
  supported : pPictureOut.ePixelFormat.supported = true
  format : pPictureIn.ePixelFormat = pPictureOut.ePixelFormat
  sized : Sized degree pPictureIn pPictureOut
  setIn : PointersSet pPictureIn
  setOut : HasChroma pPictureIn → PointersSet pPictureOut
  apart : PicturesApart pPictureIn pPictureOut

theorem turned_width (raster : Raster Byte) :
    (turned raster degree).width = outWidth raster.height raster.width degree := by
  cases degree <;> rfl

theorem turned_height (raster : Raster Byte) :
    (turned raster degree).height = outHeight raster.height raster.width degree := by
  cases degree <;> rfl

variable (mem : Nat → Byte)

theorem luma_turned (ready : LoopsReady degree pPictureIn pPictureOut) :
    (lumaRaster (copyMoves ((rotateMoves degree pPictureIn pPictureOut).map PlaneMove.move) mem)
      pPictureOut).Same (turned (lumaRaster mem pPictureIn) degree) := by
  have inside := moves_inside ready.supported ready.format ready.sized ready.setIn ready.setOut
  refine ⟨?_, ?_, ?_⟩
  · rw [turned_width]
    exact ready.sized.width
  · rw [turned_height]
    exact ready.sized.height
  · intro x left y below
    have wide : x < (turned (lumaRaster mem pPictureIn) degree).width := by
      rw [turned_width]
      exact Nat.lt_of_lt_of_eq left ready.sized.width
    have high : y < (turned (lumaRaster mem pPictureIn) degree).height := by
      rw [turned_height]
      exact Nat.lt_of_lt_of_eq below ready.sized.height
    obtain ⟨j, row, i, column, rfl, rfl, sample⟩ := place_has_source _ wide high
    have copied : MovesOf degree pPictureIn pPictureOut _ .Y := ⟨j, row, i, column, rfl⟩
    have arrived := rotated_sample ready.supported ready.sized.rows inside ready.apart mem copied
    rw [sample]
    unfold sampleMove at arrived
    dsimp only at arrived
    rw [index_eq ready.sized.rows row] at arrived
    exact arrived

def chromaPlace (picture : VideoPicture) (second : Bool) (x y : Nat) : Nat :=
  if picture.ePixelFormat.planar then
    (if second then picture.pData2 else picture.pData1) + (y * (picture.nLineStride / 2) + x)
  else picture.pData1 + (2 * (y * (picture.nLineStride / 2) + x) + second.toNat)

theorem chroma_place_set {picture : VideoPicture} (pointers : PointersSet picture)
    (second : Bool) (x y : Nat) :
    chromaPlace picture second x y = chromaAddress picture second x y := by
  unfold chromaPlace chromaAddress
  rw [← pointers.first]
  cases planar : picture.ePixelFormat.planar with
  | false => rfl
  | true =>
    cases second with
    | false => simp [← pointers.first]
    | true => simp [← pointers.second planar]

/-- The chroma samples arrive as long as the copies stay in their planes. -/
theorem chroma_arrives (supported : pPictureOut.ePixelFormat.supported = true)
    (format : pPictureIn.ePixelFormat = pPictureOut.ePixelFormat)
    (fit : RowsFit degree pPictureIn.nHeight pPictureIn.nWidth pPictureIn.nLineStride
      pPictureOut.nLineStride)
    (inside : MovesInside (rotateMoves degree pPictureIn pPictureOut) pPictureIn pPictureOut)
    (apart : PicturesApart pPictureIn pPictureOut) (second : Bool) {j i : Nat}
    (below : j < pPictureIn.nHeight / 2) (left : i < pPictureIn.nWidth / 2) :
    copyMoves ((rotateMoves degree pPictureIn pPictureOut).map PlaneMove.move) mem
      (chromaPlace pPictureOut second
        (column (pPictureIn.nHeight / 2) (pPictureIn.nWidth / 2) j i degree)
        (row (pPictureIn.nHeight / 2) (pPictureIn.nWidth / 2) j i degree)) =
      mem (chromaPlace pPictureIn second i j) := by
  have arrives := @rotated_sample _ degree pPictureIn pPictureOut supported fit inside apart mem
  unfold chromaPlace
  rw [format]
  cases planar : pPictureOut.ePixelFormat.planar with
  | true =>
    rw [if_pos rfl, if_pos rfl, ← index_eq fit.halves below]
    cases second with
    | false =>
      have copied : MovesOf degree pPictureIn pPictureOut _ .C1 :=
        ⟨j, below, i, left, by rw [if_pos planar]⟩
      exact arrives copied
    | true =>
      have copied : MovesOf degree pPictureIn pPictureOut _ .C2 := ⟨j, below, i, left, planar, rfl⟩
      exact arrives copied
  | false =>
    have copied : MovesOf degree pPictureIn pPictureOut (pairMove degree
        (pPictureIn.nHeight / 2) (pPictureIn.nWidth / 2) (pPictureIn.nLineStride / 2)
        (pPictureOut.nLineStride / 2) pPictureIn.pData1 pPictureOut.pData1 j i second) .C1 :=
      ⟨j, below, i, left, by rw [if_neg (by simp [planar])]; exact ⟨second, rfl⟩⟩
    have arrived := arrives copied
    rw [pair_move_source, pair_move_target fit.halves below] at arrived
    exact arrived

theorem chroma_turned (ready : LoopsReady degree pPictureIn pPictureOut) :
    (chromaRaster (copyMoves ((rotateMoves degree pPictureIn pPictureOut).map PlaneMove.move) mem)
      pPictureOut).Same (turned (chromaRaster mem pPictureIn) degree) := by
  have inside := moves_inside ready.supported ready.format ready.sized ready.setIn ready.setOut
  have width : pPictureOut.nWidth / 2 =
      outWidth (pPictureIn.nHeight / 2) (pPictureIn.nWidth / 2) degree := by
    rw [ready.sized.width]
    cases degree <;> rfl
  refine ⟨?_, ?_, ?_⟩
  · rw [turned_width]
    exact width
  · rw [turned_height]
    exact ready.sized.halfHeight.symm
  · intro x left y below
    have wide : x < (turned (chromaRaster mem pPictureIn) degree).width := by
      rw [turned_width]
      exact Nat.lt_of_lt_of_eq left width
    have high : y < (turned (chromaRaster mem pPictureIn) degree).height := by
      rw [turned_height]
      exact Nat.lt_of_lt_of_eq below ready.sized.halfHeight.symm
    obtain ⟨j, row, i, column, rfl, rfl, sample⟩ := place_has_source _ wide high
    have arrived := fun second => chroma_arrives mem ready.supported ready.format
      ready.sized.rows inside ready.apart second row column
    rw [sample]
    have first := arrived false
    have second := arrived true
    rw [chroma_place_set (ready.setOut (has_chroma row column)), chroma_place_set ready.setIn] at first second
    exact Prod.ext first second

theorem turned_congr {left right : Raster Byte} (same : left.Same right) :
    (turned left degree).Same (turned right degree) := by
  cases degree with
  | deg90 => exact same.quarter
  | deg180 => exact same.half
  | deg270 => exact same.threeQuarter

end Rotations

variable {degree : Degree} {pPictureIn pPictureOut : VideoPicture}

theorem set_planes_only (picture : VideoPicture) (ePixelFormat : PixelFormat) :
    ∃ pData1 pData2, picture.setPlanes ePixelFormat =
      { picture with pData1 := pData1, pData2 := pData2 } := by
  unfold VideoPicture.setPlanes
  split_ifs
  · exact ⟨_, _, rfl⟩
  · exact ⟨_, _, rfl⟩
  · exact ⟨picture.pData1, picture.pData2, rfl⟩

theorem set_planes_set {picture : VideoPicture} {ePixelFormat : PixelFormat}
    (format : picture.ePixelFormat = ePixelFormat) (supported : ePixelFormat.supported = true) :
    PointersSet (picture.setPlanes ePixelFormat) := by
  subst format
  unfold VideoPicture.setPlanes
  split_ifs with planar
  · exact ⟨rfl, fun _ => rfl⟩
  · exact ⟨rfl, fun isPlanar => absurd isPlanar planar⟩

def resized (pPictureIn pPictureOut : VideoPicture) : Degree → VideoPicture
  | .deg180 => halfSize pPictureIn pPictureOut
  | _ => quarterSize pPictureIn pPictureOut

structure Rotatable (degree : Degree) (pPictureIn pPictureOut : VideoPicture) : Prop where
  supported : pPictureIn.ePixelFormat.supported = true
  format : pPictureOut.ePixelFormat = pPictureIn.ePixelFormat
  stride : pPictureIn.nWidth ≤ pPictureIn.nLineStride
  apart : PicturesApart pPictureIn (resized pPictureIn pPictureOut degree)

/-- Where `RotatePicture270Degree` leaves `pData1`, it has to be right already. -/
def PointerKept (degree : Degree) (pPictureIn pPictureOut : VideoPicture) : Prop :=
  degree = .deg270 → HasChroma pPictureIn → pPictureIn.ePixelFormat.planar = false →
    pPictureOut.pData1 = planeStart (quarterSize pPictureIn pPictureOut) .C1

theorem prepared_in (degree : Degree) (pPictureIn pPictureOut : VideoPicture) :
    (degree.prepare pPictureIn pPictureOut).pPictureIn =
      pPictureIn.setPlanes pPictureOut.ePixelFormat := by
  cases degree <;> rfl

theorem prepared_out_only (degree : Degree) (pPictureIn pPictureOut : VideoPicture) :
    ∃ pData1 pData2, (degree.prepare pPictureIn pPictureOut).pPictureOut =
      { resized pPictureIn pPictureOut degree with pData1 := pData1, pData2 := pData2 } := by
  cases degree with
  | deg90 | deg180 => exact set_planes_only _ _
  | deg270 =>
    change ∃ pData1 pData2, (if pPictureOut.ePixelFormat.planar then _ else _) = _
    split_ifs
    · exact set_planes_only _ _
    · exact ⟨pPictureOut.pData1, pPictureOut.pData2, rfl⟩

variable (rotatable : Rotatable degree pPictureIn pPictureOut)

include rotatable

theorem prepared_out_set
    (kept : PointerKept degree pPictureIn pPictureOut) (chroma : HasChroma pPictureIn) :
    PointersSet (degree.prepare pPictureIn pPictureOut).pPictureOut := by
  have supported : pPictureOut.ePixelFormat.supported = true := by
    rw [rotatable.format, rotatable.supported]
  cases degree with
  | deg90 | deg180 => exact set_planes_set rfl supported
  | deg270 =>
    change PointersSet (if pPictureOut.ePixelFormat.planar then _ else _)
    split_ifs with planar
    · exact set_planes_set rfl supported
    · have pairs : pPictureIn.ePixelFormat.planar = false := by
        rw [← rotatable.format]
        exact Bool.eq_false_of_not_eq_true planar
      exact ⟨kept rfl chroma pairs, fun isPlanar => absurd isPlanar planar⟩

theorem resized_sized : Sized degree pPictureIn (resized pPictureIn pPictureOut degree) := by
  cases degree with
  | deg90 | deg270 => exact ⟨rfl, rfl, rotatable.stride, le_align16 _, fun half => nomatch half⟩
  | deg180 => exact ⟨rfl, rfl, rotatable.stride, rotatable.stride, fun _ => rfl⟩

theorem resized_format :
    (resized pPictureIn pPictureOut degree).ePixelFormat = pPictureIn.ePixelFormat := by
  rw [← rotatable.format]
  cases degree <;> rfl

theorem prepared_ready (kept : PointerKept degree pPictureIn pPictureOut) :
    LoopsReady degree (degree.prepare pPictureIn pPictureOut).pPictureIn
      (degree.prepare pPictureIn pPictureOut).pPictureOut := by
  have set := prepared_out_set rotatable kept
  obtain ⟨first, second, out⟩ := prepared_out_only degree pPictureIn pPictureOut
  obtain ⟨first', second', source⟩ := set_planes_only pPictureIn pPictureOut.ePixelFormat
  have setIn := set_planes_set rotatable.format.symm
    (by rw [rotatable.format, rotatable.supported])
  have sized := resized_sized rotatable
  have format := resized_format rotatable
  rw [prepared_in]
  rw [out] at set ⊢
  rw [source] at setIn ⊢
  constructor
  · exact format ▸ rotatable.supported
  · exact format.symm
  · exact ⟨sized.width, sized.height, sized.rows⟩
  · exact setIn
  · exact set
  · exact rotatable.apart

omit rotatable

theorem offsets_only (degree : Degree) (pPictureIn pPictureOut : VideoPicture) :
    ∃ nTopOffset nLeftOffset nBottomOffset nRightOffset, degree.offsets pPictureIn pPictureOut =
        { pPictureOut with
          nTopOffset := nTopOffset
          nLeftOffset := nLeftOffset
          nBottomOffset := nBottomOffset
          nRightOffset := nRightOffset } := by
  cases degree <;> exact ⟨_, _, _, _, rfl⟩

theorem rotate_turns (rotatable : Rotatable degree pPictureIn pPictureOut)
    (kept : PointerKept degree pPictureIn pPictureOut) (mem : Nat → Byte) :
    ShowsTurned degree mem pPictureIn (degree.rotate mem pPictureIn pPictureOut).mem
      (degree.rotate mem pPictureIn pPictureOut).pPictureOut := by
  have ready := prepared_ready rotatable kept
  have luma := luma_turned mem ready
  have chroma := chroma_turned mem ready
  obtain ⟨top, left, bottom, right, offsets⟩ := offsets_only degree
    (degree.prepare pPictureIn pPictureOut).pPictureIn
    (degree.prepare pPictureIn pPictureOut).pPictureOut
  obtain ⟨first, second, source⟩ := set_planes_only pPictureIn pPictureOut.ePixelFormat
  constructor
  · unfold Degree.rotate
    dsimp only
    rw [offsets]
    apply luma.trans
    rw [prepared_in, source]
    exact Raster.Same.refl _
  · unfold Degree.rotate
    dsimp only
    rw [offsets]
    apply chroma.trans
    rw [prepared_in, source]
    exact Raster.Same.refl _

end CedarC.PictureRotationTurns
