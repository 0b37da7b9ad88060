import CedarC.H264PicOrder
import Mathlib.Algebra.BigOperators.Group.List.Basic

/-!
# The H264 decoder's picture order counts against the derivation of the standard

The three derivations over the syntax of a sequence parameter set and of a slice
header, beside `H264DecodeSps` and `H264InitPoc`. The decoder branches on a type
that nothing writes, so that the derivation with the cycle of offsets never runs.
-/

namespace CedarC.H264PocClause

open FixedWidth H264PicOrder

/-- The picture order count syntax of a sequence parameter set, the offsets in the range
that they are coded in; the cycle is as long as its offsets. -/
structure SeqParameterSet where
  log2_max_frame_num_minus4 : Nat
  pic_order_cnt_type : Nat
  log2_max_pic_order_cnt_lsb_minus4 : Nat
  delta_pic_order_always_zero_flag : Bool
  offset_for_non_ref_pic : Int
  offset_for_top_to_bottom_field : Int
  offset_for_ref_frame : List Int
  nonRefRange : InS32 offset_for_non_ref_pic
  topToBottomRange : InS32 offset_for_top_to_bottom_field
  refRange : ∀ offset ∈ offset_for_ref_frame, InS32 offset

/-- The types are stored in 8 bits and the offsets of the cycle in 16 without a sign. -/
def H264DecodeSps (sps : SeqParameterSet) : Option H264SpsInfo :=
  let pSpsInf : H264SpsInfo :=
    { nPocType := sps.pic_order_cnt_type % 2 ^ 8
      bDeltaPicOrderAlwaysZeroFlag := false
      nLog2MaxFrmNum := sps.log2_max_frame_num_minus4 + 4
      nLog2MaxPocLsb := 0
      nPocCycleLength := 0
      nOffsetForRefFrm := fun _ => 0
      nOffsetForNonRefPic := 0
      nOffsetForTopToBottomField := 0 }
  if pSpsInf.nPocType = 0 then
    some { pSpsInf with nLog2MaxPocLsb := sps.log2_max_pic_order_cnt_lsb_minus4 + 4 }
  else if pSpsInf.nPocType = 1 then
    if sps.offset_for_ref_frame.length > 256 then none
    else
      some
        { pSpsInf with
          bDeltaPicOrderAlwaysZeroFlag := sps.delta_pic_order_always_zero_flag
          nOffsetForNonRefPic := sps.offset_for_non_ref_pic
          nOffsetForTopToBottomField := sps.offset_for_top_to_bottom_field
          nPocCycleLength := sps.offset_for_ref_frame.length
          nOffsetForRefFrm := fun i => sps.offset_for_ref_frame.getD i 0 % 2 ^ 16 }
  else if pSpsInf.nPocType ≠ 2 then none
  else some pSpsInf

/-- What a derivation takes from the pictures before. -/
structure PreviousPicture where
  prevPicOrderCntMsb : Int
  prevPicOrderCntLsb : Int
  prevFrameNum : Int
  prevFrameNumOffset : Int
  msbRange : InS32 prevPicOrderCntMsb
  lsbRange : 0 ≤ prevPicOrderCntLsb ∧ prevPicOrderCntLsb < 2 ^ 31
  offsetRange : InS32 prevFrameNumOffset

section Clause

variable (sps : SeqParameterSet) (prev : PreviousPicture) (sh : SliceHeader)

def maxFrameNum : Int := 2 ^ (sps.log2_max_frame_num_minus4 + 4)

def maxPicOrderCntLsb : Int := 2 ^ (sps.log2_max_pic_order_cnt_lsb_minus4 + 4)

def frameNumOffset : Int :=
  if sh.bIdrFrmFlag then 0
  else if prev.prevFrameNum > sh.nFrmNum then prev.prevFrameNumOffset + maxFrameNum sps
  else prev.prevFrameNumOffset

def predictedFrom : Int × Int :=
  if sh.bIdrFrmFlag then (0, 0) else (prev.prevPicOrderCntMsb, prev.prevPicOrderCntLsb)

def picOrderCntMsb : Int :=
  let (prevMsb, prevLsb) := predictedFrom prev sh
  if sh.nPocLsb < prevLsb ∧ prevLsb - sh.nPocLsb ≥ maxPicOrderCntLsb sps / 2 then
    prevMsb + maxPicOrderCntLsb sps
  else if sh.nPocLsb > prevLsb ∧ sh.nPocLsb - prevLsb > maxPicOrderCntLsb sps / 2 then
    prevMsb - maxPicOrderCntLsb sps
  else prevMsb

/-- Syntax elements that are absent are inferred to be 0. -/
def deltaPicOrderCntBottom : Int :=
  if sh.pPicOrderPresent ∧ sh.nPicStructure = .PICT_FRAME then sh.nDeltaPocBottom else 0

def deltaPicOrderCnt0 : Int :=
  if sps.delta_pic_order_always_zero_flag then 0 else sh.nDeltaPoc0

def deltaPicOrderCnt1 : Int :=
  if sps.delta_pic_order_always_zero_flag then 0
  else if sh.pPicOrderPresent ∧ sh.nPicStructure = .PICT_FRAME then sh.nDeltaPoc1
  else 0

def absFrameNum : Int :=
  let absFrameNum :=
    if sps.offset_for_ref_frame.length ≠ 0 then frameNumOffset sps prev sh + sh.nFrmNum else 0
  if sh.nNalRefIdc = 0 ∧ absFrameNum > 0 then absFrameNum - 1 else absFrameNum

def expectedPicOrderCnt : Int :=
  let offsets := sps.offset_for_ref_frame
  let frames := absFrameNum sps prev sh
  let expected :=
    if frames > 0 then
      (frames - 1) / offsets.length * offsets.sum +
        (offsets.take (((frames - 1) % offsets.length).toNat + 1)).sum
    else 0
  if sh.nNalRefIdc = 0 then expected + sps.offset_for_non_ref_pic else expected

def tempPicOrderCnt : Int :=
  if sh.bIdrFrmFlag then 0
  else if sh.nNalRefIdc = 0 then 2 * (frameNumOffset sps prev sh + sh.nFrmNum) - 1
  else 2 * (frameNumOffset sps prev sh + sh.nFrmNum)

def topFieldOrderCnt : Int :=
  match sps.pic_order_cnt_type with
  | 0 => picOrderCntMsb sps prev sh + sh.nPocLsb
  | 1 => expectedPicOrderCnt sps prev sh + deltaPicOrderCnt0 sps sh
  | _ => tempPicOrderCnt sps prev sh

def bottomFieldOrderCnt : Int :=
  match sps.pic_order_cnt_type with
  | 0 =>
    if sh.nPicStructure = .PICT_FRAME then
      topFieldOrderCnt sps prev sh + deltaPicOrderCntBottom sh
    else picOrderCntMsb sps prev sh + sh.nPocLsb
  | 1 =>
    if sh.nPicStructure = .PICT_FRAME then
      topFieldOrderCnt sps prev sh + sps.offset_for_top_to_bottom_field + deltaPicOrderCnt1 sps sh
    else
      expectedPicOrderCnt sps prev sh + sps.offset_for_top_to_bottom_field +
        deltaPicOrderCnt0 sps sh
  | _ => tempPicOrderCnt sps prev sh

/-- The constraint of the derivations on a stream: their values have 32 bits. -/
def ValuesFit : Prop :=
  InS32 (frameNumOffset sps prev sh) ∧
    (sps.pic_order_cnt_type = 0 → InS32 (picOrderCntMsb sps prev sh)) ∧
    (sh.nPicStructure ≠ .PICT_BOTTOM_FIELD → InS32 (topFieldOrderCnt sps prev sh)) ∧
    (sh.nPicStructure ≠ .PICT_TOP_FIELD → InS32 (bottomFieldOrderCnt sps prev sh))
deriving Decidable

def CountsOfClause (pic : H264PicInfo) : Prop :=
  (sh.nPicStructure ≠ .PICT_BOTTOM_FIELD → pic.nFieldPoc0 = topFieldOrderCnt sps prev sh) ∧
    (sh.nPicStructure ≠ .PICT_TOP_FIELD → pic.nFieldPoc1 = bottomFieldOrderCnt sps prev sh)

end Clause

section Operations

variable (hCtx : H264Context)

/-- The sum of the first offsets of the cycle without a wrap. -/
def offsetSum (count : Nat) : Int := ((List.range count).map hCtx.pCurSps.nOffsetForRefFrm).sum

/-- The operations of the derivation with low bits: two differences and up to three sums. -/
def LowBitsDefined : Prop :=
  let (prevMsb, prevLsb) :=
    if hCtx.bIdrFrmFlag then (0, 0) else (hCtx.nPrevPocMsb, hCtx.nPrevPocLsb)
  let maxPocLsb : Int := 2 ^ hCtx.pCurSps.nLog2MaxPocLsb
  let msb := pocMsb maxPocLsb prevMsb prevLsb hCtx.nPocLsb
  hCtx.pCurSps.nLog2MaxPocLsb ≤ 30 ∧ (hCtx.nPocLsb ≠ prevLsb → InS32 (prevLsb - hCtx.nPocLsb)) ∧
    (hCtx.nPocLsb < prevLsb ∧ prevLsb - hCtx.nPocLsb ≥ maxPocLsb / 2 →
      InS32 (prevMsb + maxPocLsb)) ∧
    (hCtx.nPocLsb > prevLsb ∧ prevLsb - hCtx.nPocLsb < -maxPocLsb / 2 →
      InS32 (prevMsb - maxPocLsb)) ∧
    InS32 (msb + hCtx.nPocLsb) ∧
    (hCtx.nPicStructure = .PICT_FRAME → InS32 (msb + hCtx.nPocLsb + hCtx.nDeltaPocBottom))

/-- The operations of the derivation with a cycle, the division among them. -/
def CycleDefined : Prop :=
  let length := hCtx.pCurSps.nPocCycleLength
  let frames := if length ≠ 0 then hCtx.nFrmNumOffset + hCtx.nFrmNum else 0
  let frames := if hCtx.nNalRefIdc = 0 ∧ frames > 0 then frames - 1 else frames
  let turns := (frames - 1) / length * offsetSum hCtx length
  let inner := ((frames - 1) % length).toNat + 1
  let expected := if frames > 0 then turns + offsetSum hCtx inner else 0
  let poc :=
    if hCtx.nNalRefIdc = 0 then expected + hCtx.pCurSps.nOffsetForNonRefPic else expected
  let top := poc + hCtx.nDeltaPoc0
  let bottom := top + hCtx.pCurSps.nOffsetForTopToBottomField
  (length ≠ 0 → InS32 (hCtx.nFrmNumOffset + hCtx.nFrmNum)) ∧
    (∀ count ≤ length, InS32 (offsetSum hCtx count)) ∧
    (frames > 0 →
      length ≠ 0 ∧ InS32 turns ∧ ∀ count ≤ inner, InS32 (turns + offsetSum hCtx count)) ∧
    InS32 poc ∧ InS32 top ∧ InS32 bottom ∧
    (hCtx.nPicStructure = .PICT_FRAME → InS32 (bottom + hCtx.nDeltaPoc1))

/-- The operations of the derivation from the frame number alone. -/
def FrameNumDefined : Prop :=
  hCtx.bIdrFrmFlag = false → InS32 (hCtx.nFrmNumOffset + hCtx.nFrmNum) ∧
      InS32 (2 * (hCtx.nFrmNumOffset + hCtx.nFrmNum)) ∧
      (hCtx.nNalRefIdc = 0 → InS32 (2 * (hCtx.nFrmNumOffset + hCtx.nFrmNum) - 1))

/-- No shift, sum or product of `H264InitPoc` leaves 32 bits and no divisor is 0. -/
def Defined : Prop :=
  hCtx.pCurSps.nLog2MaxFrmNum ≤ 30 ∧ (hCtx.bIdrFrmFlag = false → hCtx.nFrmNum < hCtx.nPrevFrmNum →
      InS32 (hCtx.nPrevFrmNumOffset + 2 ^ hCtx.pCurSps.nLog2MaxFrmNum)) ∧
    if hCtx.pCurSps.nPocType = 0 then LowBitsDefined hCtx
    else if hCtx.nPocType = 1 then CycleDefined (initFrmNumOffset hCtx)
    else FrameNumDefined (initFrmNumOffset hCtx)

end Operations

section Header

variable {sps : SeqParameterSet} {prev : PreviousPicture} {hCtx : H264Context} {sh : SliceHeader}

/-- What the header of a first slice leaves for `H264InitPoc`. -/
def sliceContext (hCtx : H264Context) (sh : SliceHeader) : H264Context :=
  readPocs
    { hCtx with
      pCurSps := sh.pCurSps
      bIdrFrmFlag := sh.bIdrFrmFlag
      bFstField := sh.bFstField
      nPicStructure := sh.nPicStructure
      nNalRefIdc := sh.nNalRefIdc
      nFrmNum := sh.nFrmNum }
    sh

/-- A first slice read with a parsed parameter set; the context holds what the pictures
before leave and a type that nothing writes. -/
structure FirstSlice (sps : SeqParameterSet) (prev : PreviousPicture) (hCtx : H264Context)
    (sh : SliceHeader) : Prop where
  parsed : H264DecodeSps sps = some sh.pCurSps
  first : hCtx.nCurSliceNum = 0
  unwritten : hCtx.nPocType = 0
  msb : hCtx.nPrevPocMsb = prev.prevPicOrderCntMsb
  lsb : hCtx.nPrevPocLsb = prev.prevPicOrderCntLsb
  frameNum : hCtx.nPrevFrmNum = prev.prevFrameNum
  offset : hCtx.nPrevFrmNumOffset = prev.prevFrameNumOffset
  lowBits : 0 ≤ sh.nPocLsb ∧ sh.nPocLsb < maxPicOrderCntLsb sps

def RightCounts (sps : SeqParameterSet) (prev : PreviousPicture) (hCtx : H264Context)
    (sh : SliceHeader) : Prop :=
  Defined (sliceContext hCtx sh) ∧
    CountsOfClause sps prev sh (H264DecodeSliceHeader hCtx sh).pCurPicturePtr

/-- The shifts are in range, the values have 32 bits, no frame without a coded distance of
its bottom field finds one from before, and a cycle gives no other count than the frame
number alone. -/
def Meets (sps : SeqParameterSet) (prev : PreviousPicture) (hCtx : H264Context)
    (sh : SliceHeader) : Prop :=
  sps.log2_max_frame_num_minus4 + 4 ≤ 30 ∧ ValuesFit sps prev sh ∧ (sps.pic_order_cnt_type = 0 →
      sps.log2_max_pic_order_cnt_lsb_minus4 + 4 ≤ 30 ∧
        (sh.nPicStructure = .PICT_FRAME → sh.pPicOrderPresent = false → hCtx.nDeltaPocBottom = 0)) ∧
    (sps.pic_order_cnt_type ≠ 0 → sh.bIdrFrmFlag = false →
      InS32 (2 * (frameNumOffset sps prev sh + sh.nFrmNum))) ∧
    (sps.pic_order_cnt_type = 1 → (sh.nPicStructure ≠ .PICT_BOTTOM_FIELD →
        topFieldOrderCnt sps prev sh = tempPicOrderCnt sps prev sh) ∧
      (sh.nPicStructure ≠ .PICT_TOP_FIELD →
        bottomFieldOrderCnt sps prev sh = tempPicOrderCnt sps prev sh))
deriving Decidable

theorem slice_context_fields (hCtx : H264Context) (sh : SliceHeader) :
    (sliceContext hCtx sh).pCurSps = sh.pCurSps ∧
      (sliceContext hCtx sh).bIdrFrmFlag = sh.bIdrFrmFlag ∧
      (sliceContext hCtx sh).nPicStructure = sh.nPicStructure ∧
      (sliceContext hCtx sh).nNalRefIdc = sh.nNalRefIdc ∧
      (sliceContext hCtx sh).nFrmNum = sh.nFrmNum ∧
      (sliceContext hCtx sh).nPocType = hCtx.nPocType ∧
      (sliceContext hCtx sh).nPrevPocMsb = hCtx.nPrevPocMsb ∧
      (sliceContext hCtx sh).nPrevPocLsb = hCtx.nPrevPocLsb ∧
      (sliceContext hCtx sh).nPrevFrmNum = hCtx.nPrevFrmNum ∧
      (sliceContext hCtx sh).nPrevFrmNumOffset = hCtx.nPrevFrmNumOffset := by
  unfold sliceContext readPocs
  dsimp only
  split_ifs <;> exact ⟨rfl, rfl, rfl, rfl, rfl, rfl, rfl, rfl, rfl, rfl⟩

theorem slice_context_low_bits (hCtx : H264Context) (type : sh.pCurSps.nPocType = 0) :
    (sliceContext hCtx sh).nPocLsb = sh.nPocLsb ∧ (sliceContext hCtx sh).nDeltaPocBottom =
        if sh.pPicOrderPresent ∧ sh.nPicStructure = .PICT_FRAME then sh.nDeltaPocBottom
        else hCtx.nDeltaPocBottom := by
  unfold sliceContext readPocs
  simp [type]

theorem first_slice_record (first : hCtx.nCurSliceNum = 0) :
    (H264DecodeSliceHeader hCtx sh).pCurPicturePtr =
      (H264InitPoc (sliceContext hCtx sh)).pCurPicturePtr := by
  have unread : ∀ context : H264Context, (readPocs context sh).nCurSliceNum =
      context.nCurSliceNum := by
    intro context
    unfold readPocs
    dsimp only
    split_ifs <;> rfl
  unfold H264DecodeSliceHeader sliceContext
  dsimp only
  rw [if_pos first, unread, if_pos first]

theorem stored_counts (context : H264Context) (pocs : Int × Int)
    (structured : context.nPicStructure = sh.nPicStructure) :
    CountsOfClause sps prev sh (storeFieldPocs context pocs).pCurPicturePtr ↔
      (sh.nPicStructure ≠ .PICT_BOTTOM_FIELD → pocs.1 = topFieldOrderCnt sps prev sh) ∧
        (sh.nPicStructure ≠ .PICT_TOP_FIELD → pocs.2 = bottomFieldOrderCnt sps prev sh) := by
  unfold CountsOfClause storeFieldPocs
  rw [structured]
  cases sh.nPicStructure <;> cases context.bFstField <;> simp

theorem parsed_type (info : H264SpsInfo) (parsed : H264DecodeSps sps = some info)
    (known : sps.pic_order_cnt_type ≤ 2) :
    info.nPocType = sps.pic_order_cnt_type ∧
      info.nLog2MaxFrmNum = sps.log2_max_frame_num_minus4 + 4 ∧
      (sps.pic_order_cnt_type = 0 →
        info.nLog2MaxPocLsb = sps.log2_max_pic_order_cnt_lsb_minus4 + 4) := by
  have narrow : sps.pic_order_cnt_type % 2 ^ 8 = sps.pic_order_cnt_type := by omega
  unfold H264DecodeSps at parsed
  dsimp only at parsed
  rw [narrow] at parsed
  split_ifs at parsed with zero one long other
  all_goals
    cases parsed
    refine ⟨rfl, rfl, ?_⟩
  · intro _
    rfl
  all_goals
    intro absent
    omega

end Header

section LowBits

variable (sps : SeqParameterSet) (prev : PreviousPicture) (sh : SliceHeader)

theorem low_bits_even :
    maxPicOrderCntLsb sps = 2 * 2 ^ (sps.log2_max_pic_order_cnt_lsb_minus4 + 3) := by
  unfold maxPicOrderCntLsb
  rw [Int.pow_succ, Int.mul_comm]

theorem predicted_from_range : InS32 (predictedFrom prev sh).1 ∧
      0 ≤ (predictedFrom prev sh).2 ∧ (predictedFrom prev sh).2 < 2 ^ 31 := by
  unfold predictedFrom
  split_ifs
  · decide
  · exact ⟨prev.msbRange, prev.lsbRange⟩

theorem poc_msb_of_clause :
    pocMsb (maxPicOrderCntLsb sps) (predictedFrom prev sh).1 (predictedFrom prev sh).2
        sh.nPocLsb =
      s32 (picOrderCntMsb sps prev sh) := by
  have kept := s32_of_range (predicted_from_range prev sh).1
  unfold pocMsb picOrderCntMsb
  dsimp only
  rw [low_bits_even]
  generalize (2 : Int) ^ (sps.log2_max_pic_order_cnt_lsb_minus4 + 3) = half
  split_ifs <;> first | rfl | exact kept.symm | omega

theorem high_bits_defined : ((sh.nPocLsb < (predictedFrom prev sh).2 ∧
        (predictedFrom prev sh).2 - sh.nPocLsb ≥ maxPicOrderCntLsb sps / 2 →
          InS32 ((predictedFrom prev sh).1 + maxPicOrderCntLsb sps)) ∧
      (sh.nPocLsb > (predictedFrom prev sh).2 ∧
        (predictedFrom prev sh).2 - sh.nPocLsb < -maxPicOrderCntLsb sps / 2 →
          InS32 ((predictedFrom prev sh).1 - maxPicOrderCntLsb sps))) ↔
      InS32 (picOrderCntMsb sps prev sh) := by
  have range := (predicted_from_range prev sh).1
  unfold picOrderCntMsb
  dsimp only
  rw [low_bits_even]
  generalize (2 : Int) ^ (sps.log2_max_pic_order_cnt_lsb_minus4 + 3) = half
  unfold InS32 at range ⊢
  split_ifs <;> omega

variable {sps prev sh} {hCtx : H264Context} (slice : FirstSlice sps prev hCtx sh)

include slice

/-- The operations on the low bits are defined exactly where the shift is and the sums
have 32 bits. -/
theorem low_bits_defined (type : sps.pic_order_cnt_type = 0) :
    LowBitsDefined (sliceContext hCtx sh) ↔ sps.log2_max_pic_order_cnt_lsb_minus4 + 4 ≤ 30 ∧
        InS32 (picOrderCntMsb sps prev sh) ∧
        InS32 (s32 (picOrderCntMsb sps prev sh) + sh.nPocLsb) ∧
        (sh.nPicStructure = .PICT_FRAME → InS32 (s32 (picOrderCntMsb sps prev sh) + sh.nPocLsb +
            (sliceContext hCtx sh).nDeltaPocBottom)) := by
  have parsed := parsed_type sh.pCurSps slice.parsed (by omega)
  have low := slice_context_low_bits hCtx (parsed.1.trans type)
  rcases slice_context_fields hCtx sh with
    ⟨samesps, idr, structured, -, -, -, prevMsb, prevLsb, -, -⟩
  have from_before : (if sh.bIdrFrmFlag = true then ((0 : Int), (0 : Int))
      else (hCtx.nPrevPocMsb, hCtx.nPrevPocLsb)) = predictedFrom prev sh := by
    rw [slice.msb, slice.lsb]
    rfl
  have range := (predicted_from_range prev sh).2
  unfold LowBitsDefined
  rw [samesps, idr, structured, prevMsb, prevLsb, low.1, from_before, parsed.2.2 type]
  dsimp only
  rw [show (2 : Int) ^ (sps.log2_max_pic_order_cnt_lsb_minus4 + 4) = maxPicOrderCntLsb sps from
    rfl, poc_msb_of_clause]
  have high := high_bits_defined sps prev sh
  constructor
  · rintro ⟨shift, -, up, down, sums⟩
    exact ⟨shift, high.mp ⟨up, down⟩, sums⟩
  · rintro ⟨shift, fits, sums⟩
    refine ⟨shift, fun _ => ?_, (high.mpr fits).1, (high.mpr fits).2, sums⟩
    have small : maxPicOrderCntLsb sps ≤ 2 ^ 30 := by
      unfold maxPicOrderCntLsb
      exact_mod_cast Nat.pow_le_pow_right (show 0 < 2 by decide) shift
    have coded := slice.lowBits
    unfold InS32
    omega

theorem low_bits_counts (type : sps.pic_order_cnt_type = 0) :
    CountsOfClause sps prev sh (H264DecodeSliceHeader hCtx sh).pCurPicturePtr ↔
      (sh.nPicStructure ≠ .PICT_BOTTOM_FIELD →
        s32 (s32 (picOrderCntMsb sps prev sh) + sh.nPocLsb) = topFieldOrderCnt sps prev sh) ∧
      (sh.nPicStructure ≠ .PICT_TOP_FIELD →
        (if sh.nPicStructure = .PICT_FRAME then
            s32 (s32 (s32 (picOrderCntMsb sps prev sh) + sh.nPocLsb) +
              (sliceContext hCtx sh).nDeltaPocBottom)
          else s32 (s32 (picOrderCntMsb sps prev sh) + sh.nPocLsb)) =
            bottomFieldOrderCnt sps prev sh) := by
  have parsed := parsed_type sh.pCurSps slice.parsed (by omega)
  have low := slice_context_low_bits hCtx (parsed.1.trans type)
  rcases slice_context_fields hCtx sh with
    ⟨samesps, idr, structured, -, -, -, prevMsb, prevLsb, -, -⟩
  have stored_type : (sliceContext hCtx sh).pCurSps.nPocType = 0 := by
    rw [samesps]
    exact parsed.1.trans type
  have msb : (H264InitPoc (sliceContext hCtx sh)).nPocMsb = s32 (picOrderCntMsb sps prev sh) := by
    rw [init_poc_msb stored_type, idr, prevMsb, prevLsb, low.1, samesps, parsed.2.2 type,
      slice.msb, slice.lsb, ← poc_msb_of_clause]
    unfold predictedFrom maxPicOrderCntLsb
    cases sh.bIdrFrmFlag <;> rfl
  rw [first_slice_record slice.first, init_poc_record stored_type, msb, low.1, structured]
  exact stored_counts (sliceContext hCtx sh) _ structured

/-- The shift for the frame number, the sum with it and the branch taken. -/
theorem slice_defined (known : sps.pic_order_cnt_type ≤ 2) : Defined (sliceContext hCtx sh) ↔
      (sps.log2_max_frame_num_minus4 + 4 ≤ 30 ∧ InS32 (frameNumOffset sps prev sh)) ∧
        if sps.pic_order_cnt_type = 0 then LowBitsDefined (sliceContext hCtx sh)
        else FrameNumDefined (initFrmNumOffset (sliceContext hCtx sh)) := by
  have parsed := parsed_type sh.pCurSps slice.parsed known
  rcases slice_context_fields hCtx sh with
    ⟨samesps, idr, -, -, frameNum, unwritten, -, -, prevFrameNum, prevOffset⟩
  unfold Defined
  rw [samesps, idr, frameNum, unwritten, prevFrameNum, prevOffset, parsed.1, parsed.2.1,
    slice.frameNum, slice.offset, slice.unwritten, if_neg (show ¬(0 : Nat) = 1 by decide),
    ← and_assoc]
  apply and_congr_left
  intro _
  apply and_congr_right
  intro _
  unfold frameNumOffset maxFrameNum
  cases sh.bIdrFrmFlag with
  | true => simp [InS32]
  | false =>
    by_cases wrapped : sh.nFrmNum < prev.prevFrameNum
    · simp [wrapped]
    · simp [wrapped, prev.offsetRange]

/-- With low bits the counts are right exactly where the values fit and nothing is left
from a picture before. -/
theorem low_bits_right (type : sps.pic_order_cnt_type = 0) :
    RightCounts sps prev hCtx sh ↔ Meets sps prev hCtx sh := by
  have parsed := parsed_type sh.pCurSps slice.parsed (by omega)
  have delta := (slice_context_low_bits hCtx (parsed.1.trans type)).2
  have defined := low_bits_defined slice type
  unfold RightCounts Meets ValuesFit
  rw [low_bits_counts slice type, slice_defined slice (by omega), if_pos type, defined, delta]
  unfold bottomFieldOrderCnt topFieldOrderCnt deltaPicOrderCntBottom
  rw [type]
  generalize picOrderCntMsb sps prev sh = msb
  generalize frameNumOffset sps prev sh = offset
  by_cases fits : InS32 msb
  · rw [s32_of_range fits]
    cases sh.nPicStructure <;> cases sh.pPicOrderPresent <;>
      simp only [ne_eq, reduceCtorEq, not_false_eq_true, not_true_eq_false, forall_const,
        false_imp_iff, and_true, true_and, if_true, if_false, and_false,
        Bool.false_eq_true, Bool.true_eq_false, fits, and_self]
    all_goals
      unfold InS32 s32
      omega
  · simp [fits]

end LowBits

section FrameNum

variable {sps : SeqParameterSet} {prev : PreviousPicture} {hCtx : H264Context} {sh : SliceHeader}

theorem init_offset_of_clause (slice : FirstSlice sps prev hCtx sh)
    (known : sps.pic_order_cnt_type ≤ 2) :
    (initFrmNumOffset (sliceContext hCtx sh)).nFrmNumOffset = s32 (frameNumOffset sps prev sh) := by
  have parsed := parsed_type sh.pCurSps slice.parsed known
  rcases slice_context_fields hCtx sh with
    ⟨samesps, idr, -, -, frameNum, -, -, -, prevFrameNum, prevOffset⟩
  have kept := s32_of_range prev.offsetRange
  unfold initFrmNumOffset frameNumOffset maxFrameNum
  rw [samesps, idr, frameNum, prevFrameNum, prevOffset, parsed.2.1, slice.frameNum, slice.offset]
  split_ifs
  · rfl
  · rfl
  · exact kept.symm

theorem frame_num_counts (slice : FirstSlice sps prev hCtx sh)
    (known : sps.pic_order_cnt_type ≤ 2) (type : sps.pic_order_cnt_type ≠ 0) :
    CountsOfClause sps prev sh (H264DecodeSliceHeader hCtx sh).pCurPicturePtr ↔
      (sh.nPicStructure ≠ .PICT_BOTTOM_FIELD →
        frameNumPoc (initFrmNumOffset (sliceContext hCtx sh)) = topFieldOrderCnt sps prev sh) ∧
      (sh.nPicStructure ≠ .PICT_TOP_FIELD → frameNumPoc (initFrmNumOffset (sliceContext hCtx sh)) =
          bottomFieldOrderCnt sps prev sh) := by
  have parsed := parsed_type sh.pCurSps slice.parsed known
  rcases slice_context_fields hCtx sh with ⟨samesps, -, structured, -, -, unwritten, -⟩
  have other : (sliceContext hCtx sh).pCurSps.nPocType ≠ 0 := by
    rw [samesps, parsed.1]
    exact type
  have no_cycle : (sliceContext hCtx sh).nPocType ≠ 1 := by
    rw [unwritten, slice.unwritten]
    decide
  have pair : fieldPocs (initFrmNumOffset (sliceContext hCtx sh)) =
      (frameNumPoc (initFrmNumOffset (sliceContext hCtx sh)),
        frameNumPoc (initFrmNumOffset (sliceContext hCtx sh))) := by
    unfold fieldPocs
    rw [if_neg (show ¬(initFrmNumOffset (sliceContext hCtx sh)).pCurSps.nPocType = 0 from other),
      if_neg (show ¬(initFrmNumOffset (sliceContext hCtx sh)).nPocType = 1 from no_cycle)]
  rw [first_slice_record slice.first]
  unfold H264InitPoc
  dsimp only
  rw [if_neg (show ¬(initFrmNumOffset (sliceContext hCtx sh)).pCurSps.nPocType = 0 from other),
    pair]
  exact stored_counts (initFrmNumOffset (sliceContext hCtx sh)) _ structured

/-- Where the derivation is that of the frame number the condition on a cycle is void. -/
theorem frame_num_counts_agree (known : sps.pic_order_cnt_type ≤ 2)
    (type : sps.pic_order_cnt_type ≠ 0) :
    (sps.pic_order_cnt_type = 1 → (sh.nPicStructure ≠ .PICT_BOTTOM_FIELD →
        topFieldOrderCnt sps prev sh = tempPicOrderCnt sps prev sh) ∧
      (sh.nPicStructure ≠ .PICT_TOP_FIELD →
        bottomFieldOrderCnt sps prev sh = tempPicOrderCnt sps prev sh)) ↔
    (sh.nPicStructure ≠ .PICT_BOTTOM_FIELD →
      topFieldOrderCnt sps prev sh = tempPicOrderCnt sps prev sh) ∧
    (sh.nPicStructure ≠ .PICT_TOP_FIELD →
      bottomFieldOrderCnt sps prev sh = tempPicOrderCnt sps prev sh) := by
  by_cases cyclic : sps.pic_order_cnt_type = 1
  · simp [cyclic]
  · have number : sps.pic_order_cnt_type = 2 := by omega
    unfold topFieldOrderCnt bottomFieldOrderCnt
    simp [number]

/-- Behind any type but 0 the counts are right exactly where the values fit and are those
of the frame number. -/
theorem frame_num_right (slice : FirstSlice sps prev hCtx sh)
    (known : sps.pic_order_cnt_type ≤ 2) (type : sps.pic_order_cnt_type ≠ 0) :
    RightCounts sps prev hCtx sh ↔ Meets sps prev hCtx sh := by
  have offset := init_offset_of_clause slice known
  rcases slice_context_fields hCtx sh with ⟨-, idr, -, reference, frameNum, -⟩
  have number : (initFrmNumOffset (sliceContext hCtx sh)).nFrmNum = sh.nFrmNum := frameNum
  have refIdc : (initFrmNumOffset (sliceContext hCtx sh)).nNalRefIdc = sh.nNalRefIdc := reference
  have same_idr : (initFrmNumOffset (sliceContext hCtx sh)).bIdrFrmFlag = sh.bIdrFrmFlag := idr
  unfold RightCounts Meets ValuesFit
  rw [frame_num_counts_agree known type, frame_num_counts slice known type,
    slice_defined slice known, if_neg type]
  unfold frameNumPoc FrameNumDefined tempPicOrderCnt
  rw [number, refIdc, same_idr, offset]
  generalize frameNumOffset sps prev sh = base
  generalize topFieldOrderCnt sps prev sh = top
  generalize bottomFieldOrderCnt sps prev sh = bottom
  by_cases fits : InS32 base
  · rw [s32_of_range fits]
    cases sh.nPicStructure <;> cases sh.bIdrFrmFlag <;> by_cases unused : sh.nNalRefIdc = 0 <;>
      simp only [ne_eq, reduceCtorEq, not_false_eq_true, not_true_eq_false, forall_const,
        false_imp_iff, and_true, true_and, if_true, if_false, type,
        Bool.false_eq_true, Bool.true_eq_false, fits, unused]
    all_goals
      simp only [InS32, s32]
      omega
  · simp [fits]

end FrameNum

section Cycle

variable {sps : SeqParameterSet}

/-- A field in no reference picture, on its own, with a coded distance of 0. -/
def plainField (info : H264SpsInfo) (nFrmNum : Int) : SliceHeader :=
  { pCurSps := info
    pPicOrderPresent := false
    bIdrFrmFlag := false
    bFstField := true
    nPicStructure := .PICT_TOP_FIELD
    nNalRefIdc := 0
    nFrmNum := nFrmNum
    nPocLsb := 0
    nDeltaPocBottom := 0
    nDeltaPoc0 := 0
    nDeltaPoc1 := 0 }

def nothingBefore : PreviousPicture :=
  { prevPicOrderCntMsb := 0
    prevPicOrderCntLsb := 0
    prevFrameNum := 0
    prevFrameNumOffset := 0
    msbRange := by decide
    lsbRange := by decide
    offsetRange := by decide }

variable (info : H264SpsInfo)

include info

theorem plain_field_slice (parsed : H264DecodeSps sps = some info)
    (nFrmNum : Int) : FirstSlice sps nothingBefore newContext (plainField info nFrmNum) := by
  constructor
  · exact parsed
  · rfl
  · rfl
  · rfl
  · rfl
  · rfl
  · rfl
  · exact ⟨Int.le_refl 0, Int.pow_pos (by decide)⟩

theorem plain_field_count (cyclic : sps.pic_order_cnt_type = 1)
    (nFrmNum : Int) (least : 0 ≤ nFrmNum) (most : nFrmNum ≤ 1) :
    topFieldOrderCnt sps nothingBefore (plainField info nFrmNum) = sps.offset_for_non_ref_pic := by
  have offset : frameNumOffset sps nothingBefore (plainField info nFrmNum) = 0 := by
    unfold frameNumOffset plainField nothingBefore
    simp only [Bool.false_eq_true, if_false]
    rw [if_neg (by omega)]
  have frames : absFrameNum sps nothingBefore (plainField info nFrmNum) = 0 := by
    unfold absFrameNum
    rw [offset]
    unfold plainField
    dsimp only
    split_ifs <;> omega
  unfold topFieldOrderCnt
  rw [cyclic]
  unfold expectedPicOrderCnt deltaPicOrderCnt0
  rw [frames]
  unfold plainField
  simp

theorem cycle_miscounted (parsed : H264DecodeSps sps = some info)
    (cyclic : sps.pic_order_cnt_type = 1) :
    ¬∀ nFrmNum : Int, 0 ≤ nFrmNum → nFrmNum ≤ 1 →
      RightCounts sps nothingBefore newContext (plainField info nFrmNum) := by
  intro right
  have counts : ∀ nFrmNum : Int, 0 ≤ nFrmNum → nFrmNum ≤ 1 →
      sps.offset_for_non_ref_pic = 2 * nFrmNum - 1 := by
    intro nFrmNum least most
    have slice := plain_field_slice info parsed nFrmNum
    have meets := (frame_num_right slice (by omega) (by omega)).mp (right nFrmNum least most)
    have same := (meets.2.2.2.2 cyclic).1 nofun
    rw [plain_field_count info cyclic nFrmNum least most] at same
    rw [same]
    unfold tempPicOrderCnt frameNumOffset plainField nothingBefore
    simp only [Bool.false_eq_true, if_false, if_true]
    rw [if_neg (by omega)]
    omega
  have zero := counts 0 (by decide) (by decide)
  have one := counts 1 (by decide) (by decide)
  omega

theorem plain_field_fits (cyclic : sps.pic_order_cnt_type = 1)
    (nFrmNum : Int) (least : 0 ≤ nFrmNum) (most : nFrmNum ≤ 1) :
    ValuesFit sps nothingBefore (plainField info nFrmNum) := by
  have offset : frameNumOffset sps nothingBefore (plainField info nFrmNum) = 0 := by
    unfold frameNumOffset plainField nothingBefore
    simp only [Bool.false_eq_true, if_false]
    rw [if_neg (by omega)]
  unfold ValuesFit
  rw [offset, plain_field_count info cyclic nFrmNum least most]
  refine ⟨by decide, fun low => by omega, fun _ => sps.nonRefRange, fun bottom => ?_⟩
  exact absurd rfl bottom

end Cycle

/-- A parsed parameter set of a known type: a first slice has its counts by defined
operations exactly where it meets the condition, and with a cycle some slice that fits
has not. -/
theorem counts_of_clause_iff (sps : SeqParameterSet) (info : H264SpsInfo)
    (known : sps.pic_order_cnt_type ≤ 2) (parsed : H264DecodeSps sps = some info) :
    (∀ (prev : PreviousPicture) (hCtx : H264Context) (sh : SliceHeader),
      FirstSlice sps prev hCtx sh → (RightCounts sps prev hCtx sh ↔ Meets sps prev hCtx sh)) ∧
    (sps.pic_order_cnt_type = 1 →
      ¬∀ (prev : PreviousPicture) (hCtx : H264Context) (sh : SliceHeader),
        FirstSlice sps prev hCtx sh → ValuesFit sps prev sh → RightCounts sps prev hCtx sh) := by
  constructor
  · intro prev hCtx sh slice
    by_cases type : sps.pic_order_cnt_type = 0
    · exact low_bits_right slice type
    · exact frame_num_right slice known type
  · intro cyclic right
    apply cycle_miscounted info parsed cyclic
    intro nFrmNum least most
    exact right _ _ _ (plain_field_slice info parsed nFrmNum)
      (plain_field_fits info cyclic nFrmNum least most)

/-- The high bits go up, and the bottom field of the frame is coded apart. -/
def lowBitsSps : SeqParameterSet :=
  { log2_max_frame_num_minus4 := 0
    pic_order_cnt_type := 0
    log2_max_pic_order_cnt_lsb_minus4 := 0
    delta_pic_order_always_zero_flag := false
    offset_for_non_ref_pic := 0
    offset_for_top_to_bottom_field := 0
    offset_for_ref_frame := []
    nonRefRange := by decide
    topToBottomRange := by decide
    refRange := by decide }

def afterFourteen : PreviousPicture :=
  { prevPicOrderCntMsb := 0
    prevPicOrderCntLsb := 14
    prevFrameNum := 15
    prevFrameNumOffset := 0
    msbRange := by decide
    lsbRange := by decide
    offsetRange := by decide }

def lowBitsFrame : SliceHeader :=
  { pCurSps := lowBits
    pPicOrderPresent := true
    bIdrFrmFlag := false
    bFstField := false
    nPicStructure := .PICT_FRAME
    nNalRefIdc := 1
    nFrmNum := 0
    nPocLsb := 2
    nDeltaPocBottom := -1
    nDeltaPoc0 := 0
    nDeltaPoc1 := 0 }

def lowBitsContext : H264Context :=
  { newContext with nPrevFrmNum := 15, nPrevPocLsb := 14, nDeltaPocBottom := 5 }

theorem low_bits_frame_counts :
    RightCounts lowBitsSps afterFourteen lowBitsContext lowBitsFrame := by
  have slice : FirstSlice lowBitsSps afterFourteen lowBitsContext lowBitsFrame := by
    constructor <;> first | rfl | decide
  exact ((counts_of_clause_iff lowBitsSps lowBits (by decide) rfl).1 _ _ _ slice).mpr
    (by decide)

def cyclicSps : SeqParameterSet :=
  { lowBitsSps with
    pic_order_cnt_type := 1
    delta_pic_order_always_zero_flag := true
    offset_for_non_ref_pic := -2
    offset_for_ref_frame := [6, -2]
    nonRefRange := by decide
    refRange := by decide }

def cyclicInfo : H264SpsInfo :=
  { nPocType := 1
    bDeltaPicOrderAlwaysZeroFlag := true
    nLog2MaxFrmNum := 4
    nLog2MaxPocLsb := 0
    nPocCycleLength := 2
    nOffsetForRefFrm := fun i => [6, -2].getD i 0 % 2 ^ 16
    nOffsetForNonRefPic := -2
    nOffsetForTopToBottomField := 0 }

def cyclicFrame : SliceHeader :=
  { lowBitsFrame with
    pCurSps := cyclicInfo
    pPicOrderPresent := false
    nFrmNum := 1
    nPocLsb := 0 }

/-- The derivation counts 6 and the decoder 2. -/
theorem cyclic_frame_miscounted :
    ¬∀ (sps : SeqParameterSet) (info : H264SpsInfo), sps.pic_order_cnt_type ≤ 2 →
      H264DecodeSps sps = some info →
        ∀ (prev : PreviousPicture) (hCtx : H264Context) (sh : SliceHeader),
          FirstSlice sps prev hCtx sh → ValuesFit sps prev sh → RightCounts sps prev hCtx sh := by
  intro right
  have slice : FirstSlice cyclicSps nothingBefore newContext cyclicFrame := by
    constructor <;> first | rfl | decide
  have fits : ValuesFit cyclicSps nothingBefore cyclicFrame := by decide
  have counts := right cyclicSps cyclicInfo (by decide) rfl _ _ _ slice fits
  have top := counts.2.1 nofun
  revert top
  decide

end CedarC.H264PocClause
