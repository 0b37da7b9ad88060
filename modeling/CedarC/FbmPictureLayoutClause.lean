import CedarC.FbmPictureLayout

/-!
# Where the layouts of a picture buffer agree

The words that `FbmAllocatePictureBuffer` places the planes of a planar picture
with, as numbers. The three computations agree on planar pictures of the formats
that `GetBufferSize` lists whose bytes an `int` can count and, with ten bits and
no compression, whose planes are three halves of the luma plane.
-/

namespace CedarC.FbmPictureLayoutClause

open AllocationLedger
open RegionPacking
open FbmAllocation FbmPictureLayout Bool

section Unlisted

variable {grants : Nat → Bool} {memory : Memory Allocator} {info : FbmCreateInfo}
  {bufInfo : FbmBufInfo} {nID : Int} {ePixelFormat : Int} {picture : VideoPicture}

theorem p010_format (layout : pictureLayout ePixelFormat = .p010) :
    ePixelFormat = PIXEL_FORMAT_P010_UV ∨ ePixelFormat = PIXEL_FORMAT_P010_VU := by
  unfold pictureLayout at layout
  split_ifs at layout with p010
  exact p010

theorem planer_format (layout : pictureLayout ePixelFormat = .planer) :
    planerListed ePixelFormat ∨ ePixelFormat = PIXEL_FORMAT_NV12 := by
  unfold pictureLayout at layout
  split_ifs at layout with p010 planer
  unfold planerListed
  tauto

theorem listed_planer (listed : planerListed ePixelFormat) :
    pictureLayout ePixelFormat = .planer := by
  unfold planerListed at listed
  rcases listed with rfl | rfl | rfl | rfl | rfl
  all_goals rfl

theorem p010_unknown (layout : pictureLayout ePixelFormat = .p010)
    (nWidth nHeight nAlignValue : Word) :
    GetBufferSize ePixelFormat nWidth nHeight nAlignValue = none := by
  rcases p010_format layout with rfl | rfl
  all_goals rfl

theorem nv12_unknown (nWidth nHeight nAlignValue : Word) :
    GetBufferSize PIXEL_FORMAT_NV12 nWidth nHeight nAlignValue = none := rfl

theorem mb32_size_kept {nWidth nHeight : Word}
    (complete : (allocateMb32 grants memory picture nWidth nHeight).complete = true) :
    (allocateMb32 grants memory picture nWidth nHeight).picture.nBufSize = picture.nBufSize ∧
      (allocateMb32 grants memory picture nWidth nHeight).picture.ePixelFormat =
        picture.ePixelFormat := by
  unfold allocateMb32 at complete ⊢
  dsimp only at complete ⊢
  split at complete
  · exact absurd complete false_ne_true
  · split at complete
    · exact absurd complete false_ne_true
    · exact ⟨rfl, rfl⟩

theorem rgba_size_kept {nAlignValue : Word}
    (complete : (allocateRgba grants memory picture nAlignValue).complete = true) :
    (allocateRgba grants memory picture nAlignValue).picture.nBufSize = picture.nBufSize ∧
      (allocateRgba grants memory picture nAlignValue).picture.ePixelFormat =
        picture.ePixelFormat := by
  unfold allocateRgba at complete ⊢
  dsimp only at complete ⊢
  split at complete
  · exact absurd complete false_ne_true
  · exact ⟨rfl, rfl⟩

end Unlisted

section Planer

variable {grants : Nat → Bool} {memory : Memory Allocator} {info : FbmCreateInfo}
  {bufInfo : FbmBufInfo} {nID : Int} {k : Nat}

theorem planer_complete {picture : VideoPicture} {nAlignValue nWidth nHeight : Word} (complete :
      (allocatePlaner grants memory picture nAlignValue nWidth nHeight).complete = true) :
    ∃ pMem pMeta, (allocatePlaner grants memory picture nAlignValue nWidth nHeight).picture =
      { fillPlaner nWidth nHeight (alignPicture picture nAlignValue nWidth nHeight).1 pMem with
        pMetaData := some pMeta } := by
  unfold allocatePlaner at complete ⊢
  dsimp only at complete ⊢
  split at complete
  · exact absurd complete false_ne_true
  · split at complete
    · exact absurd complete false_ne_true
    · exact ⟨_, _, rfl⟩

def sizedPicture (info : FbmCreateInfo) (bufInfo : FbmBufInfo) (nID : Int) : VideoPicture :=
  { newPicture info bufInfo nID info.nAlignStride with
    nLineStride := alignedTo info.nWidth info.nAlignStride
    nWidth := alignedTo info.nWidth info.nAlignStride
    nHeight := alignedTo info.nHeight info.nAlignStride }

theorem align_picture_sized (aligned : info.nAlignStride ≠ 0) :
    (alignPicture (newPicture info bufInfo nID info.nAlignStride) info.nAlignStride info.nWidth
      info.nHeight).1 = sizedPicture info bufInfo nID := by
  unfold alignPicture
  rw [if_neg aligned]
  rfl

theorem allocated_planer (layout : pictureLayout info.ePixelFormat = .planer)
    (aligned : info.nAlignStride ≠ 0)
    (complete : (allocatedPicture grants memory info bufInfo nID).complete = true) :
    ∃ pMem pMeta, (allocatedPicture grants memory info bufInfo nID).picture =
      { fillPlaner info.nWidth info.nHeight (sizedPicture info bufInfo nID) pMem with
        pMetaData := some pMeta } := by
  have planer : allocatedPicture grants memory info bufInfo nID =
      allocatePlaner grants memory (newPicture info bufInfo nID info.nAlignStride)
        info.nAlignStride info.nWidth info.nHeight := by
    unfold allocatedPicture FbmAllocatePictureBuffer
    have same : (newPicture info bufInfo nID info.nAlignStride).ePixelFormat =
        info.ePixelFormat := rfl
    rw [same, layout]
    rfl
  rw [planer] at complete ⊢
  rw [← align_picture_sized aligned]
  exact planer_complete complete

theorem listed_sizes (listed : planerListed info.ePixelFormat) (aligned : info.nAlignStride ≠ 0) :
    GetBufferSize info.ePixelFormat info.nWidth info.nHeight info.nAlignStride =
      some (sizesAllocated info bufInfo nID) := by
  have layout := listed_planer listed
  unfold GetBufferSize sizesAllocated pictureSizes
  unfold planerListed at listed
  rw [if_pos listed, align_picture_sized aligned]
  have same : (newPicture info bufInfo nID info.nAlignStride).ePixelFormat =
      info.ePixelFormat := rfl
  rw [same, layout, if_neg aligned]
  rfl

theorem listed_stride (listed : planerListed info.ePixelFormat) (aligned : info.nAlignStride ≠ 0) :
    (sizesAllocated info bufInfo nID).nYLineStride = alignedTo info.nWidth info.nAlignStride := by
  have layout := listed_planer listed
  have same : (newPicture info bufInfo nID info.nAlignStride).ePixelFormat =
      info.ePixelFormat := rfl
  unfold sizesAllocated pictureSizes
  rw [align_picture_sized aligned, same, layout]
  rfl

/-- The picture that a complete allocation leaves behind at these two addresses. -/
def filledPicture (info : FbmCreateInfo) (bufInfo : FbmBufInfo) (nID : Int)
    (pMem pMeta : Address Allocator) : VideoPicture :=
  { fillPlaner info.nWidth info.nHeight (sizedPicture info bufInfo nID) pMem with
    pMetaData := some pMeta }

variable {pMem pMeta : Address Allocator}

def lumaWord (info : FbmCreateInfo) : Word :=
  alignedTo info.nWidth info.nAlignStride * alignedTo info.nHeight info.nAlignStride

def chromaWord (info : FbmCreateInfo) : Word := planerChromaSize info.ePixelFormat (lumaWord info)

theorem filled_members :
    (filledPicture info bufInfo nID pMem pMeta).ePixelFormat = info.ePixelFormat ∧
      (filledPicture info bufInfo nID pMem pMeta).b10BitPicFlag = info.b10BitStreamFlag ∧
      (filledPicture info bufInfo nID pMem pMeta).bEnableAfbcFlag = bufInfo.bAfbcModeFlag ∧
      (filledPicture info bufInfo nID pMem pMeta).nLineStride =
        alignedTo info.nWidth info.nAlignStride ∧
      (filledPicture info bufInfo nID pMem pMeta).pData0 = some pMem := by
  unfold filledPicture fillPlaner
  dsimp only
  split_ifs
  all_goals exact ⟨rfl, rfl, rfl, rfl, rfl⟩

theorem filled_compressed_deep (deep : info.b10BitStreamFlag ≠ 0)
    (afbc : bufInfo.bAfbcModeFlag = 1) :
    let picture := filledPicture info bufInfo nID pMem pMeta
    let nAfbcBufSize := afbcBufSize info.nWidth info.nHeight 512
    picture.pData1 = none ∧ picture.nLower2BitBufOffset = nAfbcBufSize ∧
      picture.nBufSize = nAfbcBufSize + lower2BitBufSize info.nWidth info.nHeight := by
  have deep' : (sizedPicture info bufInfo nID).b10BitPicFlag ≠ 0 := deep
  have afbc' : (sizedPicture info bufInfo nID).bEnableAfbcFlag = 1 := afbc
  unfold filledPicture fillPlaner
  dsimp only
  rw [if_pos deep', if_pos afbc']
  exact ⟨rfl, rfl, rfl⟩

theorem filled_compressed (flat : info.b10BitStreamFlag = 0) (afbc : bufInfo.bAfbcModeFlag = 1) :
    let picture := filledPicture info bufInfo nID pMem pMeta
    picture.pData1 = none ∧ picture.nLower2BitBufOffset = 0 ∧
      picture.nBufSize = afbcBufSize info.nWidth info.nHeight 384 := by
  have flat' : ¬(sizedPicture info bufInfo nID).b10BitPicFlag ≠ 0 := not_not_intro flat
  have afbc' : (sizedPicture info bufInfo nID).bEnableAfbcFlag = 1 := afbc
  unfold filledPicture fillPlaner
  dsimp only
  rw [if_neg flat', if_pos afbc']
  exact ⟨rfl, rfl, rfl⟩

theorem filled_plain_deep (deep : info.b10BitStreamFlag ≠ 0) (plain : bufInfo.bAfbcModeFlag ≠ 1) :
    let picture := filledPicture info bufInfo nID pMem pMeta
    let nNormalYuvBufSize := lumaWord info + chromaWord info * 2
    picture.pData1 = some (pMem.plus (lumaWord info).toInt) ∧ picture.pData2 = none ∧
      picture.nLower2BitBufOffset = nNormalYuvBufSize ∧
      picture.nBufSize = nNormalYuvBufSize + lower2BitBufSize info.nWidth info.nHeight := by
  have deep' : (sizedPicture info bufInfo nID).b10BitPicFlag ≠ 0 := deep
  have plain' : ¬(sizedPicture info bufInfo nID).bEnableAfbcFlag = 1 := plain
  unfold filledPicture fillPlaner
  dsimp only
  rw [if_pos deep', if_neg plain']
  exact ⟨rfl, rfl, rfl, rfl⟩

theorem filled_plain (flat : info.b10BitStreamFlag = 0) (plain : bufInfo.bAfbcModeFlag ≠ 1) :
    let picture := filledPicture info bufInfo nID pMem pMeta
    picture.pData1 = some (pMem.plus (lumaWord info).toInt) ∧ picture.pData2 =
        (if info.ePixelFormat ≠ PIXEL_FORMAT_NV21 then
          some ((pMem.plus (lumaWord info).toInt).plus (chromaWord info).toInt)
        else none) ∧
      picture.nLower2BitBufOffset = 0 ∧
      picture.nBufSize = lumaWord info + chromaWord info * 2 := by
  have flat' : ¬(sizedPicture info bufInfo nID).b10BitPicFlag ≠ 0 := not_not_intro flat
  have plain' : ¬(sizedPicture info bufInfo nID).bEnableAfbcFlag = 1 := plain
  unfold filledPicture fillPlaner
  dsimp only
  rw [if_neg flat', if_neg plain']
  exact ⟨rfl, rfl, rfl, rfl⟩

end Planer

/-- A picture of at least one pixel, and an alignment that is a power of two. -/
structure PositiveSizes (info : FbmCreateInfo) (k : Nat) : Prop where
  width : 0 < info.nWidth.toInt
  height : 0 < info.nHeight.toInt
  align : info.nAlignStride = BitVec.ofNat 32 (2 ^ k)
  power : k ≤ 30

section Values

variable {info : FbmCreateInfo} {bufInfo : FbmBufInfo} {k : Nat} (sizes : PositiveSizes info k)

theorem positive_word {value : Word} (positive : 0 < value.toInt) :
    0 < value.toNat ∧ value.toNat < 2 ^ 31 := by
  rw [BitVec.toInt_eq_toNat_cond] at positive
  have bound := value.isLt
  split_ifs at positive with low
  all_goals omega

include sizes

theorem PositiveSizes.wide : 0 < info.nWidth.toNat ∧ info.nWidth.toNat < 2 ^ 31 :=
  positive_word sizes.width

theorem PositiveSizes.tall : 0 < info.nHeight.toNat ∧ info.nHeight.toNat < 2 ^ 31 :=
  positive_word sizes.height

theorem PositiveSizes.aligned : info.nAlignStride ≠ 0 := by
  have power : 2 ^ k ≤ 2 ^ 30 := Nat.pow_le_pow_right (by decide) sizes.power
  have positive : 1 ≤ 2 ^ k := Nat.one_le_two_pow
  rw [sizes.align]
  intro zero
  have value : 2 ^ k % 2 ^ 32 = 0 := by
    rw [← BitVec.toNat_ofNat, zero]
    rfl
  omega

theorem luma_ge : info.nWidth.toNat ≤ planerLuma info (2 ^ k) := by
  have wide := align_up_ge info.nWidth.toNat (2 ^ k) (Nat.two_pow_pos k)
  have tall := align_up_ge info.nHeight.toNat (2 ^ k) (Nat.two_pow_pos k)
  have rows : 1 ≤ alignUp info.nHeight.toNat (2 ^ k) := Nat.le_trans sizes.tall.1 tall
  exact Nat.le_trans wide (Nat.le_mul_of_pos_right _ rows)

theorem luma_value (fits : planerLuma info (2 ^ k) < 2 ^ 31) :
    (lumaWord info).toNat = planerLuma info (2 ^ k) := by
  have power : 2 ^ k ≤ 2 ^ 30 := Nat.pow_le_pow_right (by decide) sizes.power
  have wide := sizes.wide
  have tall := sizes.tall
  have across : (alignedTo info.nWidth info.nAlignStride).toNat =
      alignUp info.nWidth.toNat (2 ^ k) := by
    rw [sizes.align]
    exact aligned_value _ (Nat.le_succ_of_le sizes.power) (by omega)
  have down : (alignedTo info.nHeight info.nAlignStride).toNat =
      alignUp info.nHeight.toNat (2 ^ k) := by
    rw [sizes.align]
    exact aligned_value _ (Nat.le_succ_of_le sizes.power) (by omega)
  unfold planerLuma at fits ⊢
  unfold lumaWord
  rw [product_value (by rw [across, down]; omega), across, down]

theorem chroma_word_value (fits : planerLuma info (2 ^ k) < 2 ^ 31) :
    (chromaWord info).toNat = chromaBytes info.ePixelFormat (planerLuma info (2 ^ k)) := by
  have luma := luma_value sizes fits
  unfold chromaWord
  rw [chroma_value (by omega), luma]

omit sizes in
theorem lower_value (wide : info.nWidth.toNat + 3 < 2 ^ 31)
    (fits : lowerBytes info.nWidth.toNat info.nHeight.toNat < 2 ^ 31) :
    (lower2BitBufSize info.nWidth info.nHeight).toNat =
      lowerBytes info.nWidth.toNat info.nHeight.toNat := by
  apply lower_size_value wide
  unfold lowerBytes at fits
  omega

omit sizes in
theorem chroma_ge (ePixelFormat : Int) (luma : Nat) : luma / 4 ≤ chromaBytes ePixelFormat luma := by
  unfold chromaBytes
  split_ifs
  all_goals omega

/-- The two planes of chroma are at least half of the luma plane, so the picture is not as
wide as the largest `int`. -/
theorem plain_width (fits : planerLuma info (2 ^ k) +
      2 * chromaBytes info.ePixelFormat (planerLuma info (2 ^ k)) < 2 ^ 31) :
    info.nWidth.toNat + 3 < 2 ^ 31 := by
  have luma := luma_ge sizes
  have chroma := chroma_ge info.ePixelFormat (planerLuma info (2 ^ k))
  omega

theorem compressed_width {payload : Nat}
    (fits : afbcBytes info.nWidth.toNat info.nHeight.toNat payload < 2 ^ 31) :
    info.nWidth.toNat + 3 < 2 ^ 31 := by
  have tall := sizes.tall
  have rows : 1 ≤ (info.nHeight.toNat + 19) / 16 := by omega
  have columns : (info.nWidth.toNat + 15) / 16 * 16 ≤
      (info.nWidth.toNat + 15) / 16 * ((info.nHeight.toNat + 19) / 16) * (payload + 16) :=
    Nat.mul_le_mul (Nat.le_mul_of_pos_right _ rows) (by omega)
  unfold afbcBytes at fits
  omega

omit sizes in
theorem word_sum {one other : Word} {left right : Nat} (first : one.toNat = left)
    (second : other.toNat = right) (fits : left + right < 2 ^ 31) :
    (one + other).toNat = left + right := by
  rw [sum_value (by omega), first, second]

end Values

section Planes

variable {info : FbmCreateInfo} {bufInfo : FbmBufInfo} {nID : Int} {k : Nat}
  {pMem pMeta : Address Allocator} (sizes : PositiveSizes info k)
  (layout : pictureLayout info.ePixelFormat = .planer)

def filledRegions (info : FbmCreateInfo) (bufInfo : FbmBufInfo) (nID : Int)
    (pMem pMeta : Address Allocator) (k : Nat) : List (Region Allocator) :=
  regionsOf (filledPicture info bufInfo nID pMem pMeta)
    (planeBytes (filledPicture info bufInfo nID pMem pMeta) info.nWidth.toNat
      info.nHeight.toNat (2 ^ k)) pMem

include layout

theorem filled_bytes :
    planeBytes (filledPicture info bufInfo nID pMem pMeta) info.nWidth.toNat info.nHeight.toNat
        (2 ^ k) =
      { luma := planerLuma info (2 ^ k)
        chroma := chromaBytes info.ePixelFormat (planerLuma info (2 ^ k))
        afbc := afbcBytes info.nWidth.toNat info.nHeight.toNat
          (if info.b10BitStreamFlag ≠ 0 then 512 else 384)
        lower := lowerBytes info.nWidth.toNat info.nHeight.toNat } := by
  have kept := @filled_members info bufInfo nID pMem pMeta
  unfold planeBytes chromaOf
  rw [kept.1, kept.2.1, layout]
  rfl

theorem filled_is_afbc (afbc : bufInfo.bAfbcModeFlag = 1) :
    isAfbc (filledPicture info bufInfo nID pMem pMeta) := by
  have kept := @filled_members info bufInfo nID pMem pMeta
  constructor
  · rw [kept.1, layout]
  · rw [kept.2.2.1, afbc]

omit layout in
theorem filled_not_afbc (plain : bufInfo.bAfbcModeFlag ≠ 1) :
    ¬isAfbc (filledPicture info bufInfo nID pMem pMeta) := by
  intro compressed
  apply plain
  rw [← (@filled_members info bufInfo nID pMem pMeta).2.2.1]
  exact compressed.2

theorem filled_has_lower (deep : info.b10BitStreamFlag ≠ 0) :
    hasLower (filledPicture info bufInfo nID pMem pMeta) := by
  have kept := @filled_members info bufInfo nID pMem pMeta
  constructor
  · rw [kept.1, layout]
  · rw [kept.2.1]
    exact deep

omit layout in
theorem filled_no_lower (flat : info.b10BitStreamFlag = 0) :
    ¬hasLower (filledPicture info bufInfo nID pMem pMeta) := by
  intro lower
  apply lower.2
  rw [(@filled_members info bufInfo nID pMem pMeta).2.1, flat]

theorem compressed_deep_regions (deep : info.b10BitStreamFlag ≠ 0)
    (afbc : bufInfo.bAfbcModeFlag = 1) :
    filledRegions info bufInfo nID pMem pMeta k =
      [⟨pMem, afbcBytes info.nWidth.toNat info.nHeight.toNat 512⟩,
        ⟨pMem.plus (afbcBufSize info.nWidth info.nHeight 512).toInt,
          lowerBytes info.nWidth.toNat info.nHeight.toNat⟩] := by
  have filled := @filled_compressed_deep info bufInfo nID pMem pMeta deep afbc
  unfold filledRegions regionsOf chromaRegions
  rw [filled_bytes layout, if_pos (filled_is_afbc layout afbc),
    if_pos (filled_has_lower layout deep), filled.1, filled.2.1, if_pos deep]
  rfl

theorem compressed_regions (flat : info.b10BitStreamFlag = 0) (afbc : bufInfo.bAfbcModeFlag = 1) :
    filledRegions info bufInfo nID pMem pMeta k =
      [⟨pMem, afbcBytes info.nWidth.toNat info.nHeight.toNat 384⟩] := by
  have filled := @filled_compressed info bufInfo nID pMem pMeta flat afbc
  unfold filledRegions regionsOf chromaRegions
  rw [filled_bytes layout, if_pos (filled_is_afbc layout afbc), if_neg (filled_no_lower flat),
    filled.1, if_neg (not_not_intro flat)]
  rfl

theorem plain_deep_regions (deep : info.b10BitStreamFlag ≠ 0) (plain : bufInfo.bAfbcModeFlag ≠ 1) :
    filledRegions info bufInfo nID pMem pMeta k = [⟨pMem, planerLuma info (2 ^ k)⟩,
        ⟨pMem.plus (lumaWord info).toInt,
          2 * chromaBytes info.ePixelFormat (planerLuma info (2 ^ k))⟩,
        ⟨pMem.plus (lumaWord info + chromaWord info * 2).toInt,
          lowerBytes info.nWidth.toNat info.nHeight.toNat⟩] := by
  have filled := @filled_plain_deep info bufInfo nID pMem pMeta deep plain
  unfold filledRegions regionsOf chromaRegions
  rw [filled_bytes layout, if_neg (filled_not_afbc plain), if_pos (filled_has_lower layout deep),
    filled.1, filled.2.1, filled.2.2.1]
  rfl

theorem plain_nv21_regions (flat : info.b10BitStreamFlag = 0) (plain : bufInfo.bAfbcModeFlag ≠ 1)
    (combined : info.ePixelFormat = PIXEL_FORMAT_NV21) :
    filledRegions info bufInfo nID pMem pMeta k = [⟨pMem, planerLuma info (2 ^ k)⟩,
        ⟨pMem.plus (lumaWord info).toInt,
          2 * chromaBytes info.ePixelFormat (planerLuma info (2 ^ k))⟩] := by
  have filled := @filled_plain info bufInfo nID pMem pMeta flat plain
  unfold filledRegions regionsOf chromaRegions
  rw [filled_bytes layout, if_neg (filled_not_afbc plain), if_neg (filled_no_lower flat),
    filled.1, filled.2.1, if_neg (not_not_intro combined)]
  rfl

theorem plain_regions (flat : info.b10BitStreamFlag = 0) (plain : bufInfo.bAfbcModeFlag ≠ 1)
    (separate : info.ePixelFormat ≠ PIXEL_FORMAT_NV21) :
    filledRegions info bufInfo nID pMem pMeta k = [⟨pMem, planerLuma info (2 ^ k)⟩,
        ⟨pMem.plus (lumaWord info).toInt, chromaBytes info.ePixelFormat (planerLuma info (2 ^ k))⟩,
        ⟨pMem.plus ((lumaWord info).toInt + (chromaWord info).toInt),
          chromaBytes info.ePixelFormat (planerLuma info (2 ^ k))⟩] := by
  have filled := @filled_plain info bufInfo nID pMem pMeta flat plain
  have step : (pMem.plus (lumaWord info).toInt).plus (chromaWord info).toInt =
      pMem.plus ((lumaWord info).toInt + (chromaWord info).toInt) := by
    unfold Address.plus
    rw [Int.add_assoc]
  unfold filledRegions regionsOf chromaRegions
  rw [filled_bytes layout, if_neg (filled_not_afbc plain), if_neg (filled_no_lower flat),
    filled.1, filled.2.1, if_pos separate, step]
  rfl

include sizes

theorem compressed_deep_planes (deep : info.b10BitStreamFlag ≠ 0)
    (afbc : bufInfo.bAfbcModeFlag = 1) :
    LaidOut (filledRegions info bufInfo nID pMem pMeta k) pMem
        (filledPicture info bufInfo nID pMem pMeta).nBufSize.toInt ↔
      planerTotal info bufInfo (2 ^ k) < 2 ^ 31 := by
  have filled := @filled_compressed_deep info bufInfo nID pMem pMeta deep afbc
  unfold planerTotal
  rw [compressed_deep_regions layout deep afbc, filled.2.2, if_pos afbc, if_pos deep, if_pos deep]
  constructor
  · intro laidOut
    have total := two_total laidOut
    have most := @BitVec.toInt_lt 32
      (afbcBufSize info.nWidth info.nHeight 512 + lower2BitBufSize info.nWidth info.nHeight)
    dsimp only at total
    omega
  · intro fits
    have block : (afbcBufSize info.nWidth info.nHeight 512).toNat =
        afbcBytes info.nWidth.toNat info.nHeight.toNat 512 :=
      afbc_value (by decide) (by decide) sizes.wide.1 sizes.tall.1 sizes.wide.2 sizes.tall.2
        (by exact Nat.lt_of_le_of_lt (Nat.le_add_right _ _) fits)
    have lower := lower_value (compressed_width sizes
      (Nat.lt_of_le_of_lt (Nat.le_add_right _ _) fits)) (by omega)
    have sum := word_sum block lower fits
    apply two_laid
    · rw [signed_value (by omega), block]
    · rw [signed_value (by omega), sum]
      omega

theorem compressed_planes (flat : info.b10BitStreamFlag = 0) (afbc : bufInfo.bAfbcModeFlag = 1) :
    LaidOut (filledRegions info bufInfo nID pMem pMeta k) pMem
        (filledPicture info bufInfo nID pMem pMeta).nBufSize.toInt ↔
      planerTotal info bufInfo (2 ^ k) < 2 ^ 31 := by
  have filled := @filled_compressed info bufInfo nID pMem pMeta flat afbc
  have shallow : ¬info.b10BitStreamFlag ≠ 0 := not_not_intro flat
  unfold planerTotal
  rw [compressed_regions layout flat afbc, filled.2.2, if_pos afbc, if_neg shallow, if_neg shallow]
  constructor
  · intro laidOut
    have total := one_total laidOut
    have most := @BitVec.toInt_lt 32 (afbcBufSize info.nWidth info.nHeight 384)
    dsimp only at total
    omega
  · intro fits
    have block : (afbcBufSize info.nWidth info.nHeight 384).toNat =
        afbcBytes info.nWidth.toNat info.nHeight.toNat 384 :=
      afbc_value (by decide) (by decide) sizes.wide.1 sizes.tall.1 sizes.wide.2 sizes.tall.2 fits
    apply one_laid
    apply Int.le_of_eq
    rw [signed_value (by omega), block]

omit layout in
/-- The words that the planes of an uncompressed picture are placed with. -/
theorem plain_values (fits : planerLuma info (2 ^ k) +
      2 * chromaBytes info.ePixelFormat (planerLuma info (2 ^ k)) < 2 ^ 31) :
    (lumaWord info).toNat = planerLuma info (2 ^ k) ∧
      (chromaWord info).toNat = chromaBytes info.ePixelFormat (planerLuma info (2 ^ k)) ∧
      (lumaWord info + chromaWord info * 2).toNat = planerLuma info (2 ^ k) +
        2 * chromaBytes info.ePixelFormat (planerLuma info (2 ^ k)) := by
  have luma := luma_value sizes (by omega)
  have chroma := chroma_word_value sizes (by omega)
  have double : (chromaWord info * 2).toNat =
      2 * chromaBytes info.ePixelFormat (planerLuma info (2 ^ k)) := by
    rw [product_value, chroma]
    · exact Nat.mul_comm _ _
    · rw [chroma]
      change _ * 2 < 2 ^ 32
      omega
  exact ⟨luma, chroma, word_sum luma double fits⟩

theorem plain_deep_planes (deep : info.b10BitStreamFlag ≠ 0) (plain : bufInfo.bAfbcModeFlag ≠ 1) :
    LaidOut (filledRegions info bufInfo nID pMem pMeta k) pMem
        (filledPicture info bufInfo nID pMem pMeta).nBufSize.toInt ↔
      planerTotal info bufInfo (2 ^ k) < 2 ^ 31 := by
  have filled := @filled_plain_deep info bufInfo nID pMem pMeta deep plain
  unfold planerTotal
  rw [plain_deep_regions layout deep plain, filled.2.2.2, if_neg plain, if_pos deep]
  constructor
  · intro laidOut
    have total := three_total laidOut
    have most := @BitVec.toInt_lt 32
      (lumaWord info + chromaWord info * 2 + lower2BitBufSize info.nWidth info.nHeight)
    dsimp only at total
    omega
  · intro fits
    have values := plain_values sizes (Nat.lt_of_le_of_lt (Nat.le_add_right _ _) fits)
    have lower := lower_value (plain_width sizes
      (Nat.lt_of_le_of_lt (Nat.le_add_right _ _) fits)) (by omega)
    have sum := word_sum values.2.2 lower fits
    apply three_laid
    · rw [signed_value (by omega), values.1]
    · rw [signed_value (by omega), values.2.2]
      omega
    · rw [signed_value (by omega), sum]
      omega

theorem plain_planes (flat : info.b10BitStreamFlag = 0) (plain : bufInfo.bAfbcModeFlag ≠ 1) :
    LaidOut (filledRegions info bufInfo nID pMem pMeta k) pMem
        (filledPicture info bufInfo nID pMem pMeta).nBufSize.toInt ↔
      planerTotal info bufInfo (2 ^ k) < 2 ^ 31 := by
  have filled := @filled_plain info bufInfo nID pMem pMeta flat plain
  have shallow : ¬info.b10BitStreamFlag ≠ 0 := not_not_intro flat
  have most := @BitVec.toInt_lt 32 (lumaWord info + chromaWord info * 2)
  unfold planerTotal
  rw [filled.2.2.2, if_neg plain, if_neg shallow]
  by_cases combined : info.ePixelFormat = PIXEL_FORMAT_NV21
  · rw [plain_nv21_regions layout flat plain combined]
    constructor
    · intro laidOut
      have total := two_total laidOut
      dsimp only at total
      omega
    · intro fits
      have values := plain_values sizes fits
      apply two_laid
      · rw [signed_value (by omega), values.1]
      · rw [signed_value (by omega), values.2.2]
        omega
  · rw [plain_regions layout flat plain combined]
    constructor
    · intro laidOut
      have total := three_total laidOut
      dsimp only at total
      omega
    · intro fits
      have values := plain_values sizes fits
      apply three_laid
      · rw [signed_value (by omega), values.1]
      · rw [signed_value (by omega), signed_value (by omega), values.1, values.2.1]
      · rw [signed_value (by omega), values.2.2]
        omega

/-- The planes of a planar picture are in place exactly where its bytes are fewer than an
`int` can count. -/
theorem planer_planes : LaidOut (filledRegions info bufInfo nID pMem pMeta k) pMem
        (filledPicture info bufInfo nID pMem pMeta).nBufSize.toInt ↔
      planerTotal info bufInfo (2 ^ k) < 2 ^ 31 := by
  by_cases flat : info.b10BitStreamFlag = 0
  · by_cases afbc : bufInfo.bAfbcModeFlag = 1
    · exact compressed_planes sizes layout flat afbc
    · exact plain_planes sizes layout flat afbc
  · by_cases afbc : bufInfo.bAfbcModeFlag = 1
    · exact compressed_deep_planes sizes layout flat afbc
    · exact plain_deep_planes sizes layout flat afbc

end Planes

section LowerOffset

variable {info : FbmCreateInfo} {bufInfo : FbmBufInfo} {nID : Int} {k : Nat}
  {pMem pMeta : Address Allocator}

theorem halved_value {value : Word} (low : value.toNat < 2 ^ 31) :
    (value.sdiv 2).toNat = value.toNat / 2 := by
  have sign : value.msb = false := by
    rw [BitVec.msb_eq_false_iff_two_mul_lt]
    omega
  have two : (2 : Word).msb = false := by decide
  rw [BitVec.sdiv_eq, sign, two]
  exact BitVec.toNat_udiv

/-- A word above the largest `int` is negative, and so is its half unless it is zero. -/
theorem halved_negative {value : Word} (high : 2 ^ 31 ≤ value.toNat) :
    (value.sdiv 2).toNat = 0 ∨ 2 ^ 31 ≤ (value.sdiv 2).toNat := by
  have bound := value.isLt
  have sign : value.msb = true := by
    rw [BitVec.msb_eq_true_iff_two_mul_ge]
    omega
  have two : (2 : Word).msb = false := by decide
  rw [BitVec.sdiv_eq, sign, two]
  change (-(-value).udiv 2).toNat = 0 ∨ 2 ^ 31 ≤ (-(-value).udiv 2).toNat
  have negated : (-value).toNat = 2 ^ 32 - value.toNat := by
    rw [BitVec.toNat_neg, Nat.mod_eq_of_lt (by omega)]
  have half : ((-value).udiv 2).toNat = (2 ^ 32 - value.toNat) / 2 := by
    rw [← negated]
    exact BitVec.toNat_udiv
  rw [BitVec.toNat_neg, half]
  omega

theorem gpu_compressed_deep (deep : info.b10BitStreamFlag ≠ 0) (afbc : bufInfo.bAfbcModeFlag = 1) :
    (gpuPicture info bufInfo nID).nLower2BitBufOffset =
      afbcBufSize info.nWidth info.nHeight 512 := by
  have deep' : (newPicture info bufInfo nID info.nAlignStride).b10BitPicFlag ≠ 0 := deep
  have afbc' : (newPicture info bufInfo nID info.nAlignStride).bEnableAfbcFlag = 1 := afbc
  unfold gpuPicture describeGpuPicture
  dsimp only
  rw [if_pos rfl, if_pos deep', if_pos afbc']

theorem gpu_plain_deep (deep : info.b10BitStreamFlag ≠ 0) (plain : bufInfo.bAfbcModeFlag ≠ 1)
    (aligned : info.nAlignStride ≠ 0) :
    (gpuPicture info bufInfo nID).nLower2BitBufOffset = (lumaWord info * 3).sdiv 2 := by
  have deep' : (newPicture info bufInfo nID info.nAlignStride).b10BitPicFlag ≠ 0 := deep
  have plain' : ¬(newPicture info bufInfo nID info.nAlignStride).bEnableAfbcFlag = 1 := plain
  have wide : (newPicture info bufInfo nID info.nAlignStride).nWidth =
      alignedTo info.nWidth info.nAlignStride := by
    unfold newPicture
    dsimp only
    rw [if_pos aligned]
  have tall : (newPicture info bufInfo nID info.nAlignStride).nHeight =
      alignedTo info.nHeight info.nAlignStride := by
    unfold newPicture
    dsimp only
    rw [if_pos aligned]
  unfold gpuPicture describeGpuPicture
  dsimp only
  rw [if_pos rfl, if_pos deep', if_neg plain', wide, tall]
  rfl

theorem gpu_flat (flat : info.b10BitStreamFlag = 0) :
    (gpuPicture info bufInfo nID).nLower2BitBufOffset = 0 := by
  have flat' : ¬(newPicture info bufInfo nID info.nAlignStride).b10BitPicFlag ≠ 0 :=
    not_not_intro flat
  unfold gpuPicture describeGpuPicture
  dsimp only
  rw [if_pos rfl, if_neg flat']
  split_ifs
  all_goals rfl

/-- Three half luma planes are the luma plane and its chroma: with 4:2:0 where no quarter is
cut off, with 4:2:2 for one byte only, with 4:4:4 never. -/
theorem half_planes_iff {luma : Nat} (listed : planerListed info.ePixelFormat)
    (positive : 0 < luma) :
    3 * luma / 2 = luma + 2 * chromaBytes info.ePixelFormat luma ↔
      if info.ePixelFormat = PIXEL_FORMAT_YUV_PLANER_422 then luma = 1
      else info.ePixelFormat ≠ PIXEL_FORMAT_YUV_PLANER_444 ∧ luma % 4 < 2 := by
  unfold planerListed at listed
  unfold chromaBytes
  rcases listed with format | format | format | format | format
  all_goals
    rw [format]
    simp [PIXEL_FORMAT_YUV_PLANER_420, PIXEL_FORMAT_YUV_PLANER_422, PIXEL_FORMAT_YUV_PLANER_444,
      PIXEL_FORMAT_YV12, PIXEL_FORMAT_NV21]
    try omega

theorem three_halves_iff (sizes : PositiveSizes info k) (listed : planerListed info.ePixelFormat)
    (fits : planerLuma info (2 ^ k) +
      2 * chromaBytes info.ePixelFormat (planerLuma info (2 ^ k)) < 2 ^ 31) :
    (lumaWord info * 3).sdiv 2 = lumaWord info + chromaWord info * 2 ↔
      threeHalves info (2 ^ k) := by
  have values := plain_values sizes fits
  have positive : 0 < planerLuma info (2 ^ k) := Nat.lt_of_lt_of_le sizes.wide.1 (luma_ge sizes)
  have quarter := chroma_ge info.ePixelFormat (planerLuma info (2 ^ k))
  have triple : (lumaWord info * 3).toNat = 3 * planerLuma info (2 ^ k) := by
    rw [product_value, values.1]
    · exact Nat.mul_comm _ _
    · rw [values.1]
      change _ * 3 < 2 ^ 32
      omega
  unfold threeHalves
  rw [← half_planes_iff listed positive, ← BitVec.toNat_inj, values.2.2]
  by_cases low : 3 * planerLuma info (2 ^ k) < 2 ^ 31
  · rw [halved_value (by omega), triple]
    exact ⟨fun same => ⟨low, same⟩, And.right⟩
  · constructor
    · intro same
      have negative := @halved_negative (lumaWord info * 3) (by omega)
      omega
    · intro both
      exact absurd both.1 low

end LowerOffset

variable {grants : Nat → Bool} {memory : Memory Allocator} {info : FbmCreateInfo}
  {bufInfo : FbmBufInfo} {nID : Int} {k : Nat} {pMem pMeta : Address Allocator}

theorem lower_offset_iff (sizes : PositiveSizes info k) (listed : planerListed info.ePixelFormat)
    (fits : planerTotal info bufInfo (2 ^ k) < 2 ^ 31) :
    (gpuPicture info bufInfo nID).nLower2BitBufOffset =
        (filledPicture info bufInfo nID pMem pMeta).nLower2BitBufOffset ↔
      (info.b10BitStreamFlag ≠ 0 → bufInfo.bAfbcModeFlag ≠ 1 → threeHalves info (2 ^ k)) := by
  by_cases flat : info.b10BitStreamFlag = 0
  · have offset : (filledPicture info bufInfo nID pMem pMeta).nLower2BitBufOffset = 0 := by
      by_cases afbc : bufInfo.bAfbcModeFlag = 1
      · exact (filled_compressed flat afbc).2.1
      · exact (filled_plain flat afbc).2.2.1
    rw [gpu_flat flat, offset]
    exact ⟨fun _ deep => absurd flat deep, fun _ => rfl⟩
  · by_cases afbc : bufInfo.bAfbcModeFlag = 1
    · rw [gpu_compressed_deep flat afbc, (filled_compressed_deep flat afbc).2.1]
      exact ⟨fun _ _ plain => absurd afbc plain, fun _ => rfl⟩
    · have planes : planerLuma info (2 ^ k) +
          2 * chromaBytes info.ePixelFormat (planerLuma info (2 ^ k)) < 2 ^ 31 := by
        unfold planerTotal at fits
        rw [if_neg afbc] at fits
        exact Nat.lt_of_le_of_lt (Nat.le_add_right _ _) fits
      rw [gpu_plain_deep flat afbc sizes.aligned, (filled_plain_deep flat afbc).2.2.1,
        three_halves_iff sizes listed planes]
      exact ⟨fun halves _ _ => halves, fun halves => halves flat afbc⟩

theorem unset_size_fails {picture : VideoPicture} {bytes : PlaneBytes}
    (other : pictureLayout picture.ePixelFormat ≠ .planer) (unset : picture.nBufSize = 0)
    (luma : 0 < bytes.luma) :
    ¬LaidOut (regionsOf picture bytes pMem) pMem picture.nBufSize.toInt := by
  intro laidOut
  have whole : ¬isAfbc picture := fun compressed => other compressed.1
  have inside := laidOut.contained ⟨pMem, bytes.luma⟩ (by
    unfold regionsOf
    rw [if_neg whole]
    exact List.mem_cons_self)
  have zero : (0 : Word).toInt = 0 := by decide
  rw [unset, zero] at inside
  have fits := inside.2.2
  dsimp only at fits
  omega

theorem align_up_pos {value align : Nat} (positive : 0 < value) (some_align : 0 < align) :
    0 < alignUp value align :=
  Nat.lt_of_lt_of_le positive (align_up_ge value align some_align)

variable (sizes : PositiveSizes info k)

include sizes

theorem mb32_fails (layout : pictureLayout info.ePixelFormat = .mb32)
    (complete : (allocatedPicture grants memory info bufInfo nID).complete = true) :
    ¬LayoutHolds grants memory info bufInfo nID (2 ^ k) := by
  intro holds
  have tiled : allocatedPicture grants memory info bufInfo nID =
      allocateMb32 grants memory (newPicture info bufInfo nID info.nAlignStride) info.nWidth
        info.nHeight := by
    unfold allocatedPicture FbmAllocatePictureBuffer
    have same : (newPicture info bufInfo nID info.nAlignStride).ePixelFormat =
        info.ePixelFormat := rfl
    rw [same, layout]
    rfl
  have kept := mb32_size_kept (tiled ▸ complete)
  rw [← tiled] at kept
  have format : pictureLayout
      (allocatedPicture grants memory info bufInfo nID).picture.ePixelFormat = .mb32 := by
    rw [kept.2]
    exact layout
  obtain ⟨pMem, -, laidOut⟩ := holds.planes
  apply unset_size_fails _ kept.1 _ laidOut
  · rw [format]
    decide
  · unfold planeBytes
    rw [format]
    exact Nat.mul_pos (align_up_pos sizes.wide.1 (by decide))
      (align_up_pos sizes.tall.1 (by decide))

theorem rgba_fails (layout : pictureLayout info.ePixelFormat = .rgba)
    (complete : (allocatedPicture grants memory info bufInfo nID).complete = true) :
    ¬LayoutHolds grants memory info bufInfo nID (2 ^ k) := by
  intro holds
  have packed : allocatedPicture grants memory info bufInfo nID =
      allocateRgba grants memory (newPicture info bufInfo nID info.nAlignStride)
        info.nAlignStride := by
    unfold allocatedPicture FbmAllocatePictureBuffer
    have same : (newPicture info bufInfo nID info.nAlignStride).ePixelFormat =
        info.ePixelFormat := rfl
    rw [same, layout]
    rfl
  have kept := rgba_size_kept (packed ▸ complete)
  rw [← packed] at kept
  have format : pictureLayout
      (allocatedPicture grants memory info bufInfo nID).picture.ePixelFormat = .rgba := by
    rw [kept.2]
    exact layout
  obtain ⟨pMem, -, laidOut⟩ := holds.planes
  apply unset_size_fails _ kept.1 _ laidOut
  · rw [format]
    decide
  · unfold planeBytes
    rw [format]
    exact Nat.mul_pos (Nat.mul_pos (align_up_pos sizes.wide.1 (Nat.two_pow_pos k)) (by decide))
      sizes.tall.1

theorem unlisted_fails (unlisted : ¬planerListed info.ePixelFormat)
    (complete : (allocatedPicture grants memory info bufInfo nID).complete = true) :
    ¬LayoutHolds grants memory info bufInfo nID (2 ^ k) := by
  cases layout : pictureLayout info.ePixelFormat with
  | p010 =>
    intro holds
    have known := holds.sizes
    rw [p010_unknown layout] at known
    exact absurd known nofun
  | planer =>
    intro holds
    have known := holds.sizes
    rw [(planer_format layout).resolve_left unlisted, nv12_unknown] at known
    exact absurd known nofun
  | mb32 => exact mb32_fails sizes layout complete
  | rgba => exact rgba_fails sizes layout complete
  | incorrect =>
    have refused : (allocatedPicture grants memory info bufInfo nID).complete = false := by
      unfold allocatedPicture FbmAllocatePictureBuffer
      have same : (newPicture info bufInfo nID info.nAlignStride).ePixelFormat =
          info.ePixelFormat := rfl
      rw [same, layout]
    rw [refused] at complete
    exact absurd complete false_ne_true

omit sizes

/-- The three layouts of an allocated picture hold together exactly for the planar formats
that `GetBufferSize` knows whose bytes fit an `int` and whose lower two bits follow three
halves of the luma plane. -/
theorem picture_layout_iff (grants : Nat → Bool) (memory : Memory Allocator) (info : FbmCreateInfo)
    (bufInfo : FbmBufInfo) (nID : Int) (k : Nat) (sizes : PositiveSizes info k)
    (complete : (allocatedPicture grants memory info bufInfo nID).complete = true) :
    LayoutHolds grants memory info bufInfo nID (2 ^ k) ↔ LayoutAgrees info bufInfo (2 ^ k) := by
  by_cases listed : planerListed info.ePixelFormat
  · have layout := listed_planer listed
    obtain ⟨pMem, pMeta, same⟩ := allocated_planer layout sizes.aligned complete
    have filled : (allocatedPicture grants memory info bufInfo nID).picture =
        filledPicture info bufInfo nID pMem pMeta := same
    have planes := @planer_planes info bufInfo nID k pMem pMeta sizes layout
    constructor
    · intro holds
      obtain ⟨start, data, laidOut⟩ := holds.planes
      rw [filled] at data laidOut
      have base : pMem = start := by
        rw [(@filled_members info bufInfo nID pMem pMeta).2.2.2.2] at data
        exact Option.some.inj data
      subst base
      have fits := planes.mp laidOut
      have lower := holds.lower
      rw [filled] at lower
      exact ⟨listed, fits, (lower_offset_iff sizes listed fits).mp lower⟩
    · intro agrees
      constructor
      · exact ⟨pMem, by rw [filled]; exact filled_members.2.2.2.2,
          by rw [filled]; exact planes.mpr agrees.fits⟩
      · exact listed_sizes listed sizes.aligned
      · rw [listed_stride listed sizes.aligned, filled]
        exact filled_members.2.2.2.1.symm
      · rw [filled]
        exact (lower_offset_iff sizes listed agrees.fits).mpr agrees.halves
  · constructor
    · intro holds
      exact absurd holds (unlisted_fails sizes listed complete)
    · intro agrees
      exact absurd agrees.listed listed

def deepPicture (ePixelFormat : Int) : FbmCreateInfo :=
  { nFrameNum := 1
    nWidth := 64
    nHeight := 64
    ePixelFormat := ePixelFormat
    bThumbnailMode := 0
    bGpuBufValid := 0
    nAlignStride := 16
    nBufferType := BUF_TYPE_ONLY_REFERENCE
    b10BitStreamFlag := 1 }

theorem deep_sizes (ePixelFormat : Int) : PositiveSizes (deepPicture ePixelFormat) 4 := by
  constructor
  · exact show 0 < (64 : Word).toInt by decide
  · exact show 0 < (64 : Word).toInt by decide
  · exact show (16 : Word) = BitVec.ofNat 32 (2 ^ 4) by decide
  · decide

theorem deep_420_laid_out :
    LayoutHolds (fun _ => true) Memory.unused (deepPicture PIXEL_FORMAT_YUV_PLANER_420) ⟨0⟩ 0
      (2 ^ 4) :=
  (picture_layout_iff (fun _ => true) Memory.unused (deepPicture PIXEL_FORMAT_YUV_PLANER_420) ⟨0⟩ 0
    4 (deep_sizes _) (by decide)).mpr
    ⟨.inl rfl, by decide, fun _ _ => ⟨by decide, by decide⟩⟩

/-- The lower two bits of a 4:2:2 picture are behind 8192 bytes of planes, and the display is
told that they are at 6144. -/
theorem deep_422_differs : PositiveSizes (deepPicture PIXEL_FORMAT_YUV_PLANER_422) 4 ∧
      (allocatedPicture (fun _ => true) Memory.unused (deepPicture PIXEL_FORMAT_YUV_PLANER_422) ⟨0⟩
        0).complete = true ∧
      (allocatedPicture (fun _ => true) Memory.unused (deepPicture PIXEL_FORMAT_YUV_PLANER_422) ⟨0⟩
        0).picture.nLower2BitBufOffset = 8192 ∧
      (gpuPicture (deepPicture PIXEL_FORMAT_YUV_PLANER_422) ⟨0⟩ 0).nLower2BitBufOffset = 6144 ∧
      ¬LayoutHolds (fun _ => true) Memory.unused (deepPicture PIXEL_FORMAT_YUV_PLANER_422) ⟨0⟩ 0
        (2 ^ 4) := by
  have allocated : (allocatedPicture (fun _ => true) Memory.unused
      (deepPicture PIXEL_FORMAT_YUV_PLANER_422) ⟨0⟩ 0).picture.nLower2BitBufOffset = 8192 := by
    decide
  have told : (gpuPicture (deepPicture PIXEL_FORMAT_YUV_PLANER_422) ⟨0⟩ 0).nLower2BitBufOffset =
      6144 := by
    decide
  refine ⟨deep_sizes _, by decide, allocated, told, ?_⟩
  intro holds
  have lower := holds.lower
  rw [allocated, told] at lower
  exact absurd lower (by decide)

end CedarC.FbmPictureLayoutClause
