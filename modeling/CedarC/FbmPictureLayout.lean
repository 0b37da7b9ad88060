import CedarC.FbmAllocation
import CedarC.RegionPacking
import Mathlib.Algebra.Order.Ring.Int

/-!
# The layout of a picture buffer

Where `FbmAllocatePictureBuffer` puts the planes and the lower two bits of a
picture, `GetBufferSize` of `videoengine.c`, and the offset of the lower two bits
that `FbmCreateBuffer` computes for pictures of the display. The three agree
where both functions know the format and the pictures are of 4:2:0.
-/

namespace CedarC.FbmPictureLayout

open AllocationLedger
open RegionPacking
open FbmAllocation

/-- What `GetBufferSize` hands back of a format that it knows. -/
structure BufferSize where
  nYBufferSize : Word
  nCBufferSize : Word
  nYLineStride : Word
  nCLineStride : Word
deriving DecidableEq

def bufferSizeOf (nMemSizeY nMemSizeC nLineStride : Word) : BufferSize :=
  ⟨nMemSizeY, nMemSizeC, nLineStride, nLineStride.sshiftRight 1⟩

def mb32ChromaSize (ePixelFormat : Int) (nLineStride nHeight64Align : Word) : Word :=
  if ePixelFormat = PIXEL_FORMAT_YUV_MB32_420 then (nLineStride * nHeight64Align).sdiv 4
  else if ePixelFormat = PIXEL_FORMAT_YUV_MB32_422 then (nLineStride * nHeight64Align).sdiv 2
  else nLineStride * nHeight64Align

/-- `none` is the result -1 for a format that is not listed. -/
def GetBufferSize (ePixelFormat : Int) (nWidth nHeight nAlignValue : Word) : Option BufferSize :=
  if ePixelFormat = PIXEL_FORMAT_YUV_PLANER_420 ∨ ePixelFormat = PIXEL_FORMAT_YUV_PLANER_422 ∨
      ePixelFormat = PIXEL_FORMAT_YUV_PLANER_444 ∨ ePixelFormat = PIXEL_FORMAT_YV12 ∨
      ePixelFormat = PIXEL_FORMAT_NV21 then
    let (nLineStride, nMemSizeY) :=
      if nAlignValue = 0 then
        let nLineStride := (nWidth + 15) &&& ~~~15#32
        (nLineStride, nLineStride * ((nHeight + 15) &&& ~~~15#32))
      else
        let nLineStride := alignedTo nWidth nAlignValue
        (nLineStride, nLineStride * alignedTo nHeight nAlignValue)
    some (bufferSizeOf nMemSizeY (planerChromaSize ePixelFormat nMemSizeY) nLineStride)
  else if ePixelFormat = PIXEL_FORMAT_YUV_MB32_420 ∨ ePixelFormat = PIXEL_FORMAT_YUV_MB32_422 ∨
      ePixelFormat = PIXEL_FORMAT_YUV_MB32_444 then
    let nLineStride := (nWidth + 63) &&& ~~~63#32
    some (bufferSizeOf (nLineStride * ((nHeight + 31) &&& ~~~31#32))
      (mb32ChromaSize ePixelFormat nLineStride ((nHeight + 63) &&& ~~~63#32)) nLineStride)
  else if ePixelFormat = PIXEL_FORMAT_RGBA ∨ ePixelFormat = PIXEL_FORMAT_ARGB ∨
      ePixelFormat = PIXEL_FORMAT_ABGR ∨ ePixelFormat = PIXEL_FORMAT_BGRA then
    let nLineStride := nWidth * 4
    some (bufferSizeOf (nLineStride * nHeight) 0 nLineStride)
  else none

/-- `nMemSizeY`, `nMemSizeC` and the stride with which `FbmAllocatePictureBuffer` computes them. -/
def pictureSizes (picture : VideoPicture) (nAlignValue nWidth nHeight : Word) : BufferSize :=
  let sized := (alignPicture picture nAlignValue nWidth nHeight).1
  match pictureLayout picture.ePixelFormat with
  | .p010 =>
    let nMemSizeY := sized.nWidth * sized.nHeight * 2
    bufferSizeOf nMemSizeY (nMemSizeY.sshiftRight 2) sized.nLineStride
  | .planer =>
    let nMemSizeY := sized.nWidth * sized.nHeight
    bufferSizeOf nMemSizeY (planerChromaSize picture.ePixelFormat nMemSizeY) sized.nLineStride
  | .mb32 =>
    let nLineStride := (((nWidth + 31) &&& ~~~31#32) + 63) &&& ~~~63#32
    let nHeight64Align := (nHeight + 63) &&& ~~~63#32
    bufferSizeOf (nLineStride * nHeight64Align)
      (mb32ChromaSize picture.ePixelFormat nLineStride nHeight64Align) nLineStride
  | .rgba => bufferSizeOf (picture.nWidth * 4 * nHeight) 0 (picture.nWidth * 4)
  | .incorrect => bufferSizeOf 0 0 0

structure PlaneBytes where
  luma : Nat
  chroma : Nat
  afbc : Nat
  lower : Nat

def alignUp (value align : Nat) : Nat := (value + align - 1) / align * align

def chromaBytes (ePixelFormat : Int) (luma : Nat) : Nat :=
  if ePixelFormat = PIXEL_FORMAT_YUV_PLANER_420 ∨ ePixelFormat = PIXEL_FORMAT_YV12 ∨
      ePixelFormat = PIXEL_FORMAT_NV21 then luma / 4
  else if ePixelFormat = PIXEL_FORMAT_YUV_PLANER_422 then luma / 2
  else luma

def lowerBytes (width height : Nat) : Nat := alignUp ((width + 3) / 4) 32 * height * 3 / 2

def afbcBytes (width height payload : Nat) : Nat :=
  (width + 15) / 16 * ((height + 19) / 16) * (payload + 16) + 32 + 1024

def lumaBytes (layout : PictureLayout) (width height align : Nat) : Nat :=
  match layout with
  | .p010 => alignUp width align * alignUp height align * 2
  | .planer => alignUp width align * alignUp height align
  | .mb32 => alignUp width 64 * alignUp height 64
  | .rgba => alignUp width align * 4 * height
  | .incorrect => 0

def chromaOf (ePixelFormat : Int) (luma : Nat) : Nat :=
  match pictureLayout ePixelFormat with
  | .p010 => luma / 4
  | .planer => chromaBytes ePixelFormat luma
  | .mb32 =>
    if ePixelFormat = PIXEL_FORMAT_YUV_MB32_420 then luma / 4
    else if ePixelFormat = PIXEL_FORMAT_YUV_MB32_422 then luma / 2
    else luma
  | .rgba | .incorrect => 0

/-- A picture with these dimensions and this alignment. -/
def planeBytes (picture : VideoPicture) (width height align : Nat) : PlaneBytes :=
  let luma := lumaBytes (pictureLayout picture.ePixelFormat) width height align
  { luma := luma
    chroma := chromaOf picture.ePixelFormat luma
    afbc := afbcBytes width height (if picture.b10BitPicFlag ≠ 0 then 512 else 384)
    lower := lowerBytes width height }

def isAfbc (picture : VideoPicture) : Prop :=
  pictureLayout picture.ePixelFormat = .planer ∧ picture.bEnableAfbcFlag = 1
deriving Decidable

def hasLower (picture : VideoPicture) : Prop :=
  pictureLayout picture.ePixelFormat = .planer ∧ picture.b10BitPicFlag ≠ 0
deriving Decidable

def chromaRegions (picture : VideoPicture) (chroma : Nat) : List (Region Allocator) :=
  match picture.pData1, picture.pData2 with
  | some first, some second => [⟨first, chroma⟩, ⟨second, chroma⟩]
  | some both, none => [⟨both, 2 * chroma⟩]
  | none, _ => []

/-- The luma plane, the chroma planes and the lower two bits of a picture that starts at
`pMem`. -/
def regionsOf (picture : VideoPicture) (bytes : PlaneBytes) (pMem : Address Allocator) :
    List (Region Allocator) :=
  ⟨pMem, if isAfbc picture then bytes.afbc else bytes.luma⟩ ::
    (chromaRegions picture bytes.chroma ++
      if hasLower picture then [⟨pMem.plus picture.nLower2BitBufOffset.toInt, bytes.lower⟩] else [])

section Words

variable {k : Nat} {nWidth one other nHeight : Word}

theorem mask_of_power (small : k ≤ 31) :
    BitVec.ofNat 32 (2 ^ k) - 1 = BitVec.ofNat 32 (2 ^ k - 1) := by
  have power : 2 ^ k ≤ 2 ^ 31 := Nat.pow_le_pow_right (by decide) small
  have positive : 1 ≤ 2 ^ k := Nat.one_le_two_pow
  apply BitVec.eq_of_toNat_eq
  rw [BitVec.toNat_sub, BitVec.toNat_ofNat, BitVec.toNat_ofNat]
  change (2 ^ 32 - 1 + 2 ^ k % 2 ^ 32) % 2 ^ 32 = (2 ^ k - 1) % 2 ^ 32
  omega

theorem masked_value (value : Word) (small : k ≤ 31) :
    (value &&& ~~~(BitVec.ofNat 32 (2 ^ k) - 1)).toNat = value.toNat / 2 ^ k * 2 ^ k := by
  have low : 2 ^ k - 1 < 2 ^ 32 := by
    have power : 2 ^ k ≤ 2 ^ 31 := Nat.pow_le_pow_right (by decide) small
    omega
  rw [mask_of_power small]
  apply Nat.eq_of_testBit_eq
  intro i
  rw [BitVec.testBit_toNat, BitVec.getLsbD_and, BitVec.getLsbD_not, ← Nat.shiftLeft_eq,
    Nat.testBit_shiftLeft, Nat.testBit_div_two_pow]
  by_cases above : i ≥ k
  · have clear : (BitVec.ofNat 32 (2 ^ k - 1)).getLsbD i = false := by
      rw [← BitVec.testBit_toNat, BitVec.toNat_ofNat, Nat.mod_eq_of_lt low,
        Nat.testBit_two_pow_sub_one]
      exact decide_eq_false (by omega)
    rw [clear, decide_eq_true above, Nat.sub_add_cancel above, BitVec.testBit_toNat]
    by_cases inside : i < 32
    · rw [decide_eq_true inside]
      simp
    · rw [BitVec.getLsbD_of_ge value i (by omega)]
      rfl
  · have set : (BitVec.ofNat 32 (2 ^ k - 1)).getLsbD i = true := by
      rw [← BitVec.testBit_toNat, BitVec.toNat_ofNat, Nat.mod_eq_of_lt low,
        Nat.testBit_two_pow_sub_one]
      exact decide_eq_true (by omega)
    rw [set, decide_eq_false above]
    simp

theorem aligned_value (value : Word) (small : k ≤ 31) (fits : value.toNat + 2 ^ k ≤ 2 ^ 32) :
    (alignedTo value (BitVec.ofNat 32 (2 ^ k))).toNat = alignUp value.toNat (2 ^ k) := by
  have power : 2 ^ k ≤ 2 ^ 31 := Nat.pow_le_pow_right (by decide) small
  have positive : 1 ≤ 2 ^ k := Nat.one_le_two_pow
  unfold alignedTo alignUp
  rw [masked_value _ small, BitVec.toNat_sub, BitVec.toNat_add, BitVec.toNat_ofNat]
  change (2 ^ 32 - 1 + (value.toNat + 2 ^ k % 2 ^ 32) % 2 ^ 32) % 2 ^ 32 / 2 ^ k * 2 ^ k = _
  have sum : (2 ^ 32 - 1 + (value.toNat + 2 ^ k % 2 ^ 32) % 2 ^ 32) % 2 ^ 32 =
      value.toNat + 2 ^ k - 1 := by
    omega
  rw [sum]

theorem shifted_value (value : Word) (count : Nat) (positive : value.toNat < 2 ^ 31) :
    (value.sshiftRight count).toNat = value.toNat / 2 ^ count := by
  have sign : value.msb = false := by
    rw [BitVec.msb_eq_false_iff_two_mul_lt]
    omega
  rw [BitVec.toNat_sshiftRight_of_msb_false sign, Nat.shiftRight_eq_div_pow]

theorem product_value (fits : one.toNat * other.toNat < 2 ^ 32) :
    (one * other).toNat = one.toNat * other.toNat := by
  rw [BitVec.toNat_mul, Nat.mod_eq_of_lt fits]

theorem sum_value (fits : one.toNat + other.toNat < 2 ^ 32) :
    (one + other).toNat = one.toNat + other.toNat := by
  rw [BitVec.toNat_add, Nat.mod_eq_of_lt fits]

theorem signed_value {value : Word} (positive : value.toNat < 2 ^ 31) : value.toInt = value.toNat :=
  BitVec.toInt_eq_toNat_of_lt (by omega)

theorem align_up_ge (value align : Nat) (positive : 0 < align) : value ≤ alignUp value align := by
  unfold alignUp
  have split := Nat.div_add_mod (value + align - 1) align
  have rest := Nat.mod_lt (value + align - 1) positive
  rw [Nat.mul_comm] at split
  omega

theorem lower_stride_value (fits : nWidth.toNat + 3 < 2 ^ 31) :
    (lower2BitBufStride nWidth).toNat = alignUp ((nWidth.toNat + 3) / 4) 32 := by
  have three : (nWidth + 3).toNat = nWidth.toNat + 3 :=
    sum_value (show nWidth.toNat + 3 < 2 ^ 32 by omega)
  have quarter : ((nWidth + 3).sshiftRight 2).toNat = (nWidth.toNat + 3) / 4 := by
    rw [← three]
    exact shifted_value _ 2 (by omega)
  have more : ((nWidth + 3).sshiftRight 2 + 31).toNat = (nWidth.toNat + 3) / 4 + 31 := by
    rw [sum_value (show ((nWidth + 3).sshiftRight 2).toNat + 31 < 2 ^ 32 by omega), quarter]
    rfl
  have mask : 0xffffffe0#32 = ~~~(BitVec.ofNat 32 (2 ^ 5) - 1) := by decide
  unfold lower2BitBufStride
  rw [mask, masked_value _ (by decide), more]
  rfl

theorem lower_size_value (fits : nWidth.toNat + 3 < 2 ^ 31)
    (small : alignUp ((nWidth.toNat + 3) / 4) 32 * nHeight.toNat * 3 < 2 ^ 32) :
    (lower2BitBufSize nWidth nHeight).toNat = lowerBytes nWidth.toNat nHeight.toNat := by
  have stride := lower_stride_value fits
  have lines : (lower2BitBufStride nWidth * nHeight).toNat =
      alignUp ((nWidth.toNat + 3) / 4) 32 * nHeight.toNat := by
    rw [product_value (by rw [stride]; omega), stride]
  have triple : (lower2BitBufStride nWidth * nHeight * 3).toNat =
      alignUp ((nWidth.toNat + 3) / 4) 32 * nHeight.toNat * 3 := by
    rw [product_value (by rw [lines]; exact small), lines]
    rfl
  unfold lower2BitBufSize lowerBytes
  change (lower2BitBufStride nWidth * nHeight * 3).toNat / 2 = _
  rw [triple]

theorem afbc_value {payload : Word} (low : 384 ≤ payload.toNat)
    (high : payload.toNat ≤ 512) (width : 0 < nWidth.toNat) (height : 0 < nHeight.toNat)
    (wide : nWidth.toNat < 2 ^ 31) (tall : nHeight.toNat < 2 ^ 31)
    (fits : afbcBytes nWidth.toNat nHeight.toNat payload.toNat < 2 ^ 31) :
    (afbcBufSize nWidth nHeight payload).toNat =
      afbcBytes nWidth.toNat nHeight.toNat payload.toNat := by
  unfold afbcBytes at fits ⊢
  have columns : 1 ≤ (nWidth.toNat + 15) / 16 := by omega
  have rows : 1 ≤ (nHeight.toNat + 19) / 16 := by omega
  have blocks : (nWidth.toNat + 15) / 16 * ((nHeight.toNat + 19) / 16) * 400 < 2 ^ 31 := by
    have smaller := Nat.mul_le_mul_left ((nWidth.toNat + 15) / 16 * ((nHeight.toNat + 19) / 16))
      (show 400 ≤ payload.toNat + 16 by omega)
    omega
  have narrow : (nWidth.toNat + 15) / 16 ≤
      (nWidth.toNat + 15) / 16 * ((nHeight.toNat + 19) / 16) := Nat.le_mul_of_pos_right _ rows
  have short : (nHeight.toNat + 19) / 16 ≤
      (nWidth.toNat + 15) / 16 * ((nHeight.toNat + 19) / 16) := Nat.le_mul_of_pos_left _ columns
  have across : ((nWidth + 15).sshiftRight 4).toNat = (nWidth.toNat + 15) / 16 := by
    have sum : (nWidth + 15).toNat = nWidth.toNat + 15 :=
      sum_value (show nWidth.toNat + 15 < 2 ^ 32 by omega)
    rw [← sum]
    exact shifted_value _ 4 (by omega)
  have down : ((nHeight + 4 + 15).sshiftRight 4).toNat = (nHeight.toNat + 19) / 16 := by
    have four : (nHeight + 4).toNat = nHeight.toNat + 4 :=
      sum_value (show nHeight.toNat + 4 < 2 ^ 32 by omega)
    have sum : (nHeight + 4 + 15).toNat = nHeight.toNat + 19 := by
      rw [sum_value (show (nHeight + 4).toNat + 15 < 2 ^ 32 by omega), four]
      rfl
    rw [← sum]
    exact shifted_value _ 4 (by omega)
  have pieces : ((nWidth + 15).sshiftRight 4 * (nHeight + 4 + 15).sshiftRight 4).toNat =
      (nWidth.toNat + 15) / 16 * ((nHeight.toNat + 19) / 16) := by
    rw [product_value (by rw [across, down]; omega), across, down]
  have body : (payload + 16).toNat = payload.toNat + 16 :=
    sum_value (show payload.toNat + 16 < 2 ^ 32 by omega)
  have whole : ((nWidth + 15).sshiftRight 4 * (nHeight + 4 + 15).sshiftRight 4 *
      (payload + 16)).toNat =
      (nWidth.toNat + 15) / 16 * ((nHeight.toNat + 19) / 16) * (payload.toNat + 16) := by
    rw [product_value (by rw [pieces, body]; omega), pieces, body]
  unfold afbcBufSize
  rw [sum_value, sum_value, whole]
  · rfl
  · rw [whole]
    change _ + 32 < 2 ^ 32
    omega
  · rw [sum_value, whole]
    · change _ + 32 + 1024 < 2 ^ 32
      omega
    · rw [whole]
      change _ + 32 < 2 ^ 32
      omega

theorem chroma_value {luma : Word} (fits : luma.toNat < 2 ^ 31) (ePixelFormat : Int) :
    (planerChromaSize ePixelFormat luma).toNat = chromaBytes ePixelFormat luma.toNat := by
  unfold planerChromaSize chromaBytes
  split_ifs
  · exact shifted_value luma 2 fits
  · exact shifted_value luma 1 fits
  · rfl

end Words

variable (grants : Nat → Bool) (memory : Memory Allocator) (info : FbmCreateInfo)
  (bufInfo : FbmBufInfo) (nID : Int)

/-- A new picture of `FbmCreateBuffer` after `FbmAllocatePictureBuffer`. -/
def allocatedPicture : AllocatedPicture :=
  FbmAllocatePictureBuffer grants memory (newPicture info bufInfo nID info.nAlignStride)
    info.nAlignStride info.nWidth info.nHeight

def gpuPicture : VideoPicture :=
  describeGpuPicture { info with bGpuBufValid := 1 } (newPicture info bufInfo nID info.nAlignStride)

def sizesAllocated : BufferSize :=
  pictureSizes (newPicture info bufInfo nID info.nAlignStride) info.nAlignStride info.nWidth
    info.nHeight

/-- The regions of the picture are apart and inside its buffer, and the three places that
compute sizes, strides and the offset of the lower two bits agree. -/
structure LayoutHolds (align : Nat) : Prop where
  planes : ∃ pMem, (allocatedPicture grants memory info bufInfo nID).picture.pData0 = some pMem ∧
    LaidOut
      (regionsOf (allocatedPicture grants memory info bufInfo nID).picture
        (planeBytes (allocatedPicture grants memory info bufInfo nID).picture
          info.nWidth.toNat info.nHeight.toNat align) pMem) pMem
      (allocatedPicture grants memory info bufInfo nID).picture.nBufSize.toInt
  sizes : GetBufferSize info.ePixelFormat info.nWidth info.nHeight info.nAlignStride =
    some (sizesAllocated info bufInfo nID)
  stride : (sizesAllocated info bufInfo nID).nYLineStride =
    (allocatedPicture grants memory info bufInfo nID).picture.nLineStride
  lower : (gpuPicture info bufInfo nID).nLower2BitBufOffset =
    (allocatedPicture grants memory info bufInfo nID).picture.nLower2BitBufOffset

/-- The planar formats of `GetBufferSize`. -/
def planerListed (ePixelFormat : Int) : Prop :=
  ePixelFormat = PIXEL_FORMAT_YUV_PLANER_420 ∨ ePixelFormat = PIXEL_FORMAT_YUV_PLANER_422 ∨
    ePixelFormat = PIXEL_FORMAT_YUV_PLANER_444 ∨ ePixelFormat = PIXEL_FORMAT_YV12 ∨
    ePixelFormat = PIXEL_FORMAT_NV21

def planerLuma (align : Nat) : Nat :=
  alignUp info.nWidth.toNat align * alignUp info.nHeight.toNat align

def planerTotal (align : Nat) : Nat :=
  (if bufInfo.bAfbcModeFlag = 1 then
    afbcBytes info.nWidth.toNat info.nHeight.toNat
      (if info.b10BitStreamFlag ≠ 0 then 512 else 384)
  else planerLuma info align + 2 * chromaBytes info.ePixelFormat (planerLuma info align)) +
    if info.b10BitStreamFlag ≠ 0 then lowerBytes info.nWidth.toNat info.nHeight.toNat else 0

/-- Three half luma planes are the planes of the format, and three luma planes fit an `int`. -/
def threeHalves (align : Nat) : Prop :=
  3 * planerLuma info align < 2 ^ 31 ∧
    if info.ePixelFormat = PIXEL_FORMAT_YUV_PLANER_422 then planerLuma info align = 1
    else info.ePixelFormat ≠ PIXEL_FORMAT_YUV_PLANER_444 ∧ planerLuma info align % 4 < 2

structure LayoutAgrees (align : Nat) : Prop where
  listed : planerListed info.ePixelFormat
  fits : planerTotal info bufInfo align < 2 ^ 31
  halves : info.b10BitStreamFlag ≠ 0 → bufInfo.bAfbcModeFlag ≠ 1 → threeHalves info align

end CedarC.FbmPictureLayout
