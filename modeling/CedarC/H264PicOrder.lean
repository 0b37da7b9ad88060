import CedarC.FixedWidth
import CedarC.ResidueWindow
import Mathlib.Data.List.Forall2

/-!
# Picture order counts of the H264 decoder

`H264InitPoc` with the part of `H264DecodeSliceHeader` that calls it and the end
of a picture in `H264DecoderDecode` that keeps the previous count. A picture is a
frame or a field. The copies of flags into the picture's record and the checks of
the field pairs are left out.
-/

namespace CedarC.H264PicOrder

open FixedWidth ResidueWindow

inductive PicStructure
  | PICT_TOP_FIELD
  | PICT_BOTTOM_FIELD
  | PICT_FRAME
deriving DecidableEq

/-- `nOffsetForRefFrm` is a table of `u16`. -/
structure H264SpsInfo where
  nPocType : Nat
  bDeltaPicOrderAlwaysZeroFlag : Bool
  nLog2MaxFrmNum : Nat
  nLog2MaxPocLsb : Nat
  nPocCycleLength : Nat
  nOffsetForRefFrm : Nat → Int
  nOffsetForNonRefPic : Int
  nOffsetForTopToBottomField : Int

structure H264PicInfo where
  nFieldPoc0 : Int
  nFieldPoc1 : Int
  nPoc : Int
deriving DecidableEq

structure H264Context where
  pCurSps : H264SpsInfo
  pCurPicturePtr : H264PicInfo
  bIdrFrmFlag : Bool
  bFstField : Bool
  nPicStructure : PicStructure
  nNalRefIdc : Nat
  nCurSliceNum : Nat
  nFrmNum : Int
  nFrmNumOffset : Int
  nPrevFrmNum : Int
  nPrevFrmNumOffset : Int
  nPocType : Nat
  nPocMsb : Int
  nPocLsb : Int
  nPrevPocMsb : Int
  nPrevPocLsb : Int
  nDeltaPocBottom : Int
  nDeltaPoc0 : Int
  nDeltaPoc1 : Int
  nPicPocDeltaNum : Nat

section InitPoc

variable (hCtx : H264Context)

def pocMsb (maxPocLsb nPrevPocMsb nPrevPocLsb nPocLsb : Int) : Int :=
  if nPocLsb < nPrevPocLsb ∧ nPrevPocLsb - nPocLsb ≥ maxPocLsb / 2 then
    s32 (nPrevPocMsb + maxPocLsb)
  else if nPocLsb > nPrevPocLsb ∧ nPrevPocLsb - nPocLsb < -maxPocLsb / 2 then
    s32 (nPrevPocMsb - maxPocLsb)
  else nPrevPocMsb

def initFrmNumOffset : H264Context :=
  { hCtx with
    nFrmNumOffset :=
      if hCtx.bIdrFrmFlag then 0
      else if hCtx.nFrmNum < hCtx.nPrevFrmNum then
        s32 (hCtx.nPrevFrmNumOffset + 2 ^ hCtx.pCurSps.nLog2MaxFrmNum)
      else hCtx.nPrevFrmNumOffset }

def initPrevPoc : H264Context :=
  if hCtx.bIdrFrmFlag then { hCtx with nPrevPocMsb := 0, nPrevPocLsb := 0 } else hCtx

def initPocMsb : H264Context :=
  { hCtx with
    nPocMsb :=
      pocMsb (2 ^ hCtx.pCurSps.nLog2MaxPocLsb) hCtx.nPrevPocMsb hCtx.nPrevPocLsb hCtx.nPocLsb }

def offsetsOfCycle (count : Nat) : Int :=
  (List.range count).foldl (fun sum i => s32 (sum + hCtx.pCurSps.nOffsetForRefFrm i)) 0

def expectedPoc : Int :=
  let absFrmNum :=
    if hCtx.pCurSps.nPocCycleLength ≠ 0 then s32 (hCtx.nFrmNumOffset + hCtx.nFrmNum) else 0
  let absFrmNum := if hCtx.nNalRefIdc = 0 ∧ absFrmNum > 0 then absFrmNum - 1 else absFrmNum
  let expectedPoc :=
    if absFrmNum > 0 then
      let nPocCycleCnt := (absFrmNum - 1) / hCtx.pCurSps.nPocCycleLength
      let nFrmNumInnPocCycle := (absFrmNum - 1) % hCtx.pCurSps.nPocCycleLength
      s32 (s32 (nPocCycleCnt * offsetsOfCycle hCtx hCtx.pCurSps.nPocCycleLength) +
        offsetsOfCycle hCtx (nFrmNumInnPocCycle.toNat + 1))
    else 0
  if hCtx.nNalRefIdc = 0 then s32 (expectedPoc + hCtx.pCurSps.nOffsetForNonRefPic)
  else expectedPoc

def frameNumPoc : Int :=
  if hCtx.bIdrFrmFlag then 0
  else if hCtx.nNalRefIdc ≠ 0 then s32 (2 * (hCtx.nFrmNumOffset + hCtx.nFrmNum))
  else s32 (2 * (hCtx.nFrmNumOffset + hCtx.nFrmNum) - 1)

/-- Type 1 is read from `hCtx->nPocType`, which no function writes. -/
def fieldPocs : Int × Int :=
  if hCtx.pCurSps.nPocType = 0 then
    let nFieldPoc := s32 (hCtx.nPocMsb + hCtx.nPocLsb)
    (nFieldPoc,
      if hCtx.nPicStructure = .PICT_FRAME then s32 (nFieldPoc + hCtx.nDeltaPocBottom)
      else nFieldPoc)
  else if hCtx.nPocType = 1 then
    let nFieldPoc := s32 (expectedPoc hCtx + hCtx.nDeltaPoc0)
    let bottom := s32 (nFieldPoc + hCtx.pCurSps.nOffsetForTopToBottomField)
    (nFieldPoc, if hCtx.nPicStructure = .PICT_FRAME then s32 (bottom + hCtx.nDeltaPoc1) else bottom)
  else (frameNumPoc hCtx, frameNumPoc hCtx)

def storeFieldPocs (nFieldPoc : Int × Int) : H264Context :=
  let pic := hCtx.pCurPicturePtr
  let pic :=
    if hCtx.nPicStructure ≠ .PICT_BOTTOM_FIELD then
      { pic with nFieldPoc0 := nFieldPoc.1, nPoc := nFieldPoc.1 }
    else pic
  let pic :=
    if hCtx.nPicStructure ≠ .PICT_TOP_FIELD then
      { pic with nFieldPoc1 := nFieldPoc.2, nPoc := nFieldPoc.2 }
    else pic
  let pic :=
    if hCtx.nPicStructure = .PICT_FRAME ∨ hCtx.bFstField = false then
      { pic with nPoc := min pic.nFieldPoc0 pic.nFieldPoc1 }
    else pic
  { hCtx with
    pCurPicturePtr := pic
    nPicPocDeltaNum :=
      if hCtx.nPicStructure ≠ .PICT_BOTTOM_FIELD ∧ nFieldPoc.1.tmod 2 = 1 then 1
      else hCtx.nPicPocDeltaNum }

def H264InitPoc : H264Context :=
  let hCtx := initFrmNumOffset hCtx
  let hCtx := if hCtx.pCurSps.nPocType = 0 then initPocMsb (initPrevPoc hCtx) else hCtx
  storeFieldPocs hCtx (fieldPocs hCtx)

/-- A slice header as coded; `nDeltaPocBottom` and `nDeltaPoc1` are there only for a frame
whose picture parameter set says so. -/
structure SliceHeader where
  pCurSps : H264SpsInfo
  pPicOrderPresent : Bool
  bIdrFrmFlag : Bool
  bFstField : Bool
  nPicStructure : PicStructure
  nNalRefIdc : Nat
  nFrmNum : Int
  nPocLsb : Int
  nDeltaPocBottom : Int
  nDeltaPoc0 : Int
  nDeltaPoc1 : Int

def readPocs (sh : SliceHeader) : H264Context :=
  let bottomCoded := sh.pPicOrderPresent ∧ sh.nPicStructure = .PICT_FRAME
  let hCtx :=
    if sh.pCurSps.nPocType = 0 then
      { hCtx with
        nPocLsb := sh.nPocLsb
        nDeltaPocBottom := if bottomCoded then sh.nDeltaPocBottom else hCtx.nDeltaPocBottom }
    else hCtx
  if sh.pCurSps.nPocType = 1 ∧ sh.pCurSps.bDeltaPicOrderAlwaysZeroFlag = false then
    { hCtx with
      nDeltaPoc0 := sh.nDeltaPoc0
      nDeltaPoc1 := if bottomCoded then sh.nDeltaPoc1 else hCtx.nDeltaPoc1 }
  else hCtx

/-- `H264DecodeSliceHeader`, as far as the picture order count goes. -/
def H264DecodeSliceHeader (sh : SliceHeader) : H264Context :=
  let hCtx :=
    { hCtx with
      pCurSps := sh.pCurSps
      bIdrFrmFlag := sh.bIdrFrmFlag
      bFstField := if hCtx.nCurSliceNum = 0 then sh.bFstField else hCtx.bFstField
      nPicStructure := sh.nPicStructure
      nNalRefIdc := sh.nNalRefIdc
      nFrmNum := sh.nFrmNum }
  let hCtx := readPocs hCtx sh
  let hCtx := if hCtx.nCurSliceNum = 0 then H264InitPoc hCtx else hCtx
  { hCtx with nCurSliceNum := hCtx.nCurSliceNum + 1 }

/-- The end of a decoded picture; the conditional assignment repeats the one before it. -/
def processDecodeResult : H264Context :=
  let hCtx :=
    { hCtx with
      nPrevFrmNumOffset := hCtx.nFrmNumOffset
      nPrevFrmNum := hCtx.nFrmNum
      nPrevPocMsb := hCtx.nPocMsb
      nPrevPocLsb := hCtx.nPocLsb }
  if hCtx.nNalRefIdc ≠ 0 then
    { hCtx with nPrevPocMsb := hCtx.nPocMsb, nPrevPocLsb := hCtx.nPocLsb }
  else hCtx

end InitPoc

/-- A frame or a field to be coded: `poc` is the count of its top field, that of a
bottom field its own, `delta` what the bottom field of a frame adds. `record` is what
a new picture's record holds from before. -/
structure CodedPicture where
  pCurSps : H264SpsInfo
  pPicOrderPresent : Bool
  bIdrFrmFlag : Bool
  bFstField : Bool
  nPicStructure : PicStructure
  nNalRefIdc : Nat
  mmco5 : Bool
  nFrmNum : Int
  poc : Int
  delta : Int
  record : H264PicInfo
  laterSlices : Nat

def CodedPicture.modulus (pic : CodedPicture) : Int := 2 ^ pic.pCurSps.nLog2MaxPocLsb

def CodedPicture.deltaCoded (pic : CodedPicture) : Bool :=
  pic.pPicOrderPresent ∧ pic.nPicStructure = .PICT_FRAME

def CodedPicture.header (pic : CodedPicture) : SliceHeader :=
  { pCurSps := pic.pCurSps
    pPicOrderPresent := pic.pPicOrderPresent
    bIdrFrmFlag := pic.bIdrFrmFlag
    bFstField := pic.bFstField
    nPicStructure := pic.nPicStructure
    nNalRefIdc := pic.nNalRefIdc
    nFrmNum := pic.nFrmNum
    nPocLsb := pic.poc % pic.modulus
    nDeltaPocBottom := pic.delta
    nDeltaPoc0 := 0
    nDeltaPoc1 := 0 }

def decodeSlices (pic : CodedPicture) : Nat → H264Context → H264Context
  | 0, hCtx => hCtx
  | count + 1, hCtx => decodeSlices pic count (H264DecodeSliceHeader hCtx pic.header)

/-- The slices of a picture; a frame and a first field begin a new record. -/
def decodePicture (hCtx : H264Context) (pic : CodedPicture) : H264Context :=
  let begun :=
    { hCtx with
      nCurSliceNum := 0
      pCurPicturePtr :=
        if pic.nPicStructure = .PICT_FRAME ∨ pic.bFstField then pic.record
        else hCtx.pCurPicturePtr }
  decodeSlices pic (pic.laterSlices + 1) begun

/-- The records along a sequence, each as the picture leaves it. -/
def decodePictures : H264Context → List CodedPicture → List H264PicInfo
  | _, [] => []
  | hCtx, pic :: rest =>
    (decodePicture hCtx pic).pCurPicturePtr ::
      decodePictures (processDecodeResult (decodePicture hCtx pic)) rest

/-- What the next count is coded from: the low bits' number and the count of the
reference picture before. -/
structure Sent where
  nLog2MaxPocLsb : Nat
  previous : Int

/-- A reference picture that resets the marking counts from 0 at its first field. -/
def Sent.next (sent : Sent) (pic : CodedPicture) : Sent :=
  { nLog2MaxPocLsb := pic.pCurSps.nLog2MaxPocLsb
    previous :=
      if pic.nNalRefIdc = 0 then sent.previous
      else if pic.mmco5 then
        if pic.nPicStructure = .PICT_FRAME then pic.poc - min pic.poc (pic.poc + pic.delta)
        else 0
      else pic.poc }

/-- The count is less than half the low bits' range off that of the reference picture
before, or off 0 for an IDR picture, which is a reference. -/
def Codable (sent : Sent) (pic : CodedPicture) : Prop :=
  pic.pCurSps.nPocType = 0 ∧ 0 < pic.pCurSps.nLog2MaxPocLsb ∧ pic.pCurSps.nLog2MaxPocLsb ≤ 30 ∧
    (pic.bIdrFrmFlag = false → pic.pCurSps.nLog2MaxPocLsb = sent.nLog2MaxPocLsb) ∧
    (pic.bIdrFrmFlag = true → pic.nNalRefIdc ≠ 0) ∧
    InS32 pic.poc ∧ InS32 (pic.poc + pic.delta) ∧ InS32 pic.delta ∧
    (pic.deltaCoded = false → pic.delta = 0) ∧
    -pic.modulus < 2 * (pic.poc - if pic.bIdrFrmFlag then 0 else sent.previous) ∧
    2 * (pic.poc - if pic.bIdrFrmFlag then 0 else sent.previous) < pic.modulus
deriving Decidable

def CodableAlong : Sent → List CodedPicture → Prop
  | _, [] => True
  | sent, pic :: rest => Codable sent pic ∧ CodableAlong (sent.next pic) rest

instance codableAlongDecidable :
    (sent : Sent) → (pics : List CodedPicture) → Decidable (CodableAlong sent pics)
  | _, [] => .isTrue trivial
  | sent, pic :: rest =>
    @instDecidableAnd _ _ inferInstance (codableAlongDecidable (sent.next pic) rest)

def HasCounts (pic : CodedPicture) (info : H264PicInfo) : Prop :=
  match pic.nPicStructure with
  | .PICT_FRAME =>
    info.nFieldPoc0 = pic.poc ∧ info.nFieldPoc1 = pic.poc + pic.delta ∧
      info.nPoc = min pic.poc (pic.poc + pic.delta)
  | .PICT_TOP_FIELD =>
    info.nFieldPoc0 = pic.poc ∧
      info.nPoc = if pic.bFstField then pic.poc else min pic.poc info.nFieldPoc1
  | .PICT_BOTTOM_FIELD =>
    info.nFieldPoc1 = pic.poc ∧
      info.nPoc = if pic.bFstField then pic.poc else min info.nFieldPoc0 pic.poc

/-- What the decoder carries: the count of the picture decoded just before, a reference
or not, and the last coded distance of a bottom field. -/
structure Carried where
  count : Int
  delta : Int

def Carried.next (carried : Carried) (pic : CodedPicture) : Carried :=
  { count := pic.poc
    delta := if pic.deltaCoded then pic.delta else carried.delta }

/-- The count is at most half the low bits' range off that of the picture just before,
and no frame without a coded distance follows one with it. -/
def Predicted (carried : Carried) (pic : CodedPicture) : Prop :=
  (pic.bIdrFrmFlag = false → Near pic.modulus carried.count pic.poc) ∧
    (pic.nPicStructure = .PICT_FRAME → pic.pPicOrderPresent = false → carried.delta = 0)
deriving Decidable

def PredictedAlong : Carried → List CodedPicture → Prop
  | _, [] => True
  | carried, pic :: rest => Predicted carried pic ∧ PredictedAlong (carried.next pic) rest

instance predictedAlongDecidable :
    (carried : Carried) → (pics : List CodedPicture) → Decidable (PredictedAlong carried pics)
  | _, [] => .isTrue trivial
  | carried, pic :: rest =>
    @instDecidableAnd _ _ inferInstance (predictedAlongDecidable (carried.next pic) rest)

section Prediction

variable {hCtx : H264Context} {pic : CodedPicture} {sent : Sent} {carried : Carried}

theorem modulus_facts (some_bits : 0 < pic.pCurSps.nLog2MaxPocLsb)
    (few : pic.pCurSps.nLog2MaxPocLsb ≤ 30) :
    0 < pic.modulus ∧ 2 ∣ pic.modulus ∧ pic.modulus ∣ 2 ^ 31 ∧ pic.modulus ≤ 2 ^ 30 := by
  unfold CodedPicture.modulus
  refine ⟨Int.pow_pos (by decide), ?_, ?_, ?_⟩
  · obtain ⟨fewer, more⟩ : ∃ fewer, pic.pCurSps.nLog2MaxPocLsb = fewer + 1 :=
      ⟨pic.pCurSps.nLog2MaxPocLsb - 1, by omega⟩
    rw [more, Int.pow_succ]
    exact Int.dvd_mul_left _ _
  · exact_mod_cast Nat.pow_dvd_pow 2 (show pic.pCurSps.nLog2MaxPocLsb ≤ 31 by omega)
  · exact_mod_cast Nat.pow_le_pow_right (show 0 < 2 by decide) few

/-- The decoder's split of the count before is aligned and it is no full range off
the count the coder starts from. -/
structure Holds (hCtx : H264Context) (sent : Sent) (carried : Carried) : Prop where
  count : hCtx.nPrevPocMsb + hCtx.nPrevPocLsb = carried.count
  aligned : (2 : Int) ^ sent.nLog2MaxPocLsb ∣ hCtx.nPrevPocMsb
  low : 0 ≤ hCtx.nPrevPocLsb
  high : hCtx.nPrevPocLsb < 2 ^ sent.nLog2MaxPocLsb
  range : InS32 carried.count
  apart : -2 ^ 31 ≤ carried.count - sent.previous ∧ carried.count - sent.previous ≤ 2 ^ 31
  delta : hCtx.nDeltaPocBottom = carried.delta
  deltaRange : InS32 carried.delta

theorem s32_of_sum (value more : Int) : s32 (s32 value + more) = s32 (value + more) := by
  unfold s32
  omega

theorem multiple_in_range {modulus poc : Int} (positive : 0 < modulus) (whole : modulus ∣ 2 ^ 31)
    (range : InS32 poc) : -2 ^ 31 ≤ poc - poc % modulus := by
  rcases whole with ⟨turns, turn⟩
  have split := Int.mul_ediv_add_emod poc modulus
  have least : -turns ≤ poc / modulus := by
    apply Int.le_ediv_of_mul_le positive
    rw [Int.neg_mul, Int.mul_comm, ← turn]
    exact range.1
  have below : modulus * -turns ≤ modulus * (poc / modulus) :=
    Int.mul_le_mul_of_nonneg_left least (Int.le_of_lt positive)
  rw [Int.mul_neg, ← turn] at below
  omega

section Window

variable {modulus prevMsb prevLsb poc base : Int}

/-- In the window around the count before, the high bits are those of the count. -/
theorem poc_msb_recovers (positive : 0 < modulus) (even : 2 ∣ modulus)
    (whole : modulus ∣ 2 ^ 31) (aligned : modulus ∣ prevMsb) (low : 0 ≤ prevLsb)
    (high : prevLsb < modulus) (range : InS32 poc) (near : Near modulus (prevMsb + prevLsb) poc) :
    pocMsb modulus prevMsb prevLsb (poc % modulus) = poc - poc % modulus := by
  have recovered := next_msb_recovers even positive aligned ⟨low, high⟩ near
  have least := multiple_in_range positive whole range
  have lsbLow := Int.emod_nonneg poc (Int.ne_of_gt positive)
  unfold InS32 at range
  unfold nextMsb at recovered
  unfold pocMsb s32
  split_ifs at recovered ⊢ <;> omega

theorem poc_msb_misses (positive : 0 < modulus) (even : 2 ∣ modulus) (small : modulus ≤ 2 ^ 30)
    (low : 0 ≤ prevLsb) (high : prevLsb < modulus) (before : InS32 (prevMsb + prevLsb))
    (range : InS32 poc)
    (apart : -2 ^ 31 ≤ prevMsb + prevLsb - base ∧ prevMsb + prevLsb - base ≤ 2 ^ 31)
    (coded : -modulus < 2 * (poc - base) ∧ 2 * (poc - base) < modulus)
    (recovered : s32 (pocMsb modulus prevMsb prevLsb (poc % modulus) + poc % modulus) = poc) :
    Near modulus (prevMsb + prevLsb) poc := by
  have lsbLow := Int.emod_nonneg poc (Int.ne_of_gt positive)
  have lsbHigh := Int.emod_lt_of_pos poc positive
  unfold Near
  unfold InS32 at before range
  unfold pocMsb at recovered
  split_ifs at recovered
  · rw [s32_of_sum] at recovered
    unfold s32 at recovered
    omega
  · rw [s32_of_sum] at recovered
    unfold s32 at recovered
    omega
  · unfold s32 at recovered
    omega

end Window

end Prediction

section Pictures

variable {hCtx : H264Context} {pic : CodedPicture} {sent : Sent} {carried : Carried}

/-- The split of the count before that a picture is predicted from. -/
def prevPoc (hCtx : H264Context) (pic : CodedPicture) : Int × Int :=
  if pic.bIdrFrmFlag then (0, 0) else (hCtx.nPrevPocMsb, hCtx.nPrevPocLsb)

def pictureMsb (hCtx : H264Context) (pic : CodedPicture) : Int :=
  pocMsb pic.modulus (prevPoc hCtx pic).1 (prevPoc hCtx pic).2 (pic.poc % pic.modulus)

def pictureCount (hCtx : H264Context) (pic : CodedPicture) : Int :=
  s32 (pictureMsb hCtx pic + pic.poc % pic.modulus)

def pictureDelta (hCtx : H264Context) (pic : CodedPicture) : Int :=
  if pic.deltaCoded then pic.delta else hCtx.nDeltaPocBottom

/-- The record of a picture behind `H264InitPoc`. -/
def pictureRecord (hCtx : H264Context) (pic : CodedPicture) : H264PicInfo :=
  let count := pictureCount hCtx pic
  match pic.nPicStructure with
  | .PICT_FRAME =>
    let bottom := s32 (count + pictureDelta hCtx pic)
    { nFieldPoc0 := count, nFieldPoc1 := bottom, nPoc := min count bottom }
  | .PICT_TOP_FIELD =>
    { nFieldPoc0 := count
      nFieldPoc1 := hCtx.pCurPicturePtr.nFieldPoc1
      nPoc := if pic.bFstField then count else min count hCtx.pCurPicturePtr.nFieldPoc1 }
  | .PICT_BOTTOM_FIELD =>
    { nFieldPoc0 := hCtx.pCurPicturePtr.nFieldPoc0
      nFieldPoc1 := count
      nPoc := if pic.bFstField then count else min hCtx.pCurPicturePtr.nFieldPoc0 count }

/-- What a picture's slices leave of the picture order count. -/
structure Decoded (hCtx decoded : H264Context) (pic : CodedPicture) : Prop where
  msb : decoded.nPocMsb = pictureMsb hCtx pic
  lsb : decoded.nPocLsb = pic.poc % pic.modulus
  delta : decoded.nDeltaPocBottom = pictureDelta hCtx pic
  record : decoded.pCurPicturePtr = pictureRecord hCtx pic
  begun : decoded.nCurSliceNum ≠ 0

/-- A header of type 0 changes the low bits and the coded distance only. -/
theorem read_pocs_of_type (type : pic.pCurSps.nPocType = 0) : readPocs hCtx pic.header =
      { hCtx with
        nPocLsb := pic.poc % pic.modulus
        nDeltaPocBottom := pictureDelta hCtx pic } := by
  unfold readPocs pictureDelta CodedPicture.deltaCoded CodedPicture.header
  simp [type]

variable (type : hCtx.pCurSps.nPocType = 0)

include type

theorem init_poc_keeps : (H264InitPoc hCtx).nPocLsb = hCtx.nPocLsb ∧
      (H264InitPoc hCtx).nDeltaPocBottom = hCtx.nDeltaPocBottom := by
  cases idr : hCtx.bIdrFrmFlag <;>
    simp [H264InitPoc, initFrmNumOffset, initPrevPoc, initPocMsb, storeFieldPocs, type, idr]

theorem init_poc_msb : (H264InitPoc hCtx).nPocMsb = pocMsb (2 ^ hCtx.pCurSps.nLog2MaxPocLsb)
        (if hCtx.bIdrFrmFlag then 0 else hCtx.nPrevPocMsb)
        (if hCtx.bIdrFrmFlag then 0 else hCtx.nPrevPocLsb) hCtx.nPocLsb := by
  cases idr : hCtx.bIdrFrmFlag <;>
    simp [H264InitPoc, initFrmNumOffset, initPrevPoc, initPocMsb, storeFieldPocs, type, idr]

theorem init_poc_record : (H264InitPoc hCtx).pCurPicturePtr = (storeFieldPocs hCtx
        (s32 ((H264InitPoc hCtx).nPocMsb + hCtx.nPocLsb),
          if hCtx.nPicStructure = .PICT_FRAME then
            s32 (s32 ((H264InitPoc hCtx).nPocMsb + hCtx.nPocLsb) + hCtx.nDeltaPocBottom)
          else s32 ((H264InitPoc hCtx).nPocMsb + hCtx.nPocLsb))).pCurPicturePtr := by
  cases idr : hCtx.bIdrFrmFlag <;>
    simp [H264InitPoc, initFrmNumOffset, initPrevPoc, initPocMsb, storeFieldPocs, fieldPocs,
      type, idr]

omit type

theorem first_slice_decoded (ready : hCtx.nCurSliceNum = 0) (type : pic.pCurSps.nPocType = 0) :
    Decoded hCtx (H264DecodeSliceHeader hCtx pic.header) pic := by
  have header : H264DecodeSliceHeader hCtx pic.header =
      let read : H264Context :=
        { hCtx with
          pCurSps := pic.pCurSps
          bIdrFrmFlag := pic.bIdrFrmFlag
          bFstField := pic.bFstField
          nPicStructure := pic.nPicStructure
          nNalRefIdc := pic.nNalRefIdc
          nFrmNum := pic.nFrmNum
          nPocLsb := pic.poc % pic.modulus
          nDeltaPocBottom := pictureDelta hCtx pic }
      { H264InitPoc read with nCurSliceNum := (H264InitPoc read).nCurSliceNum + 1 } := by
    unfold H264DecodeSliceHeader
    dsimp only
    rw [read_pocs_of_type type]
    simp [CodedPicture.header, ready, pictureDelta]
  rw [header]
  dsimp only
  generalize read_is : ({ hCtx with
    pCurSps := pic.pCurSps
    bIdrFrmFlag := pic.bIdrFrmFlag
    bFstField := pic.bFstField
    nPicStructure := pic.nPicStructure
    nNalRefIdc := pic.nNalRefIdc
    nFrmNum := pic.nFrmNum
    nPocLsb := pic.poc % pic.modulus
    nDeltaPocBottom := pictureDelta hCtx pic } : H264Context) = read
  have same_type : read.pCurSps.nPocType = 0 := by
    rw [← read_is]
    exact type
  have msb : (H264InitPoc read).nPocMsb = pictureMsb hCtx pic := by
    rw [init_poc_msb same_type, ← read_is]
    unfold pictureMsb prevPoc CodedPicture.modulus
    cases pic.bIdrFrmFlag <;> rfl
  have record : (H264InitPoc read).pCurPicturePtr = pictureRecord hCtx pic := by
    rw [init_poc_record same_type, msb, ← read_is]
    unfold pictureRecord pictureCount storeFieldPocs
    cases pic.nPicStructure <;> cases pic.bFstField <;> simp
  have kept := init_poc_keeps same_type
  rw [← read_is] at kept
  constructor
  · exact msb
  · rw [← read_is]
    exact kept.1
  · rw [← read_is]
    exact kept.2
  · exact record
  · exact Nat.succ_ne_zero _

theorem later_slice_decoded {start : H264Context} (type : pic.pCurSps.nPocType = 0)
    (decoded : Decoded start hCtx pic) :
    Decoded start (H264DecodeSliceHeader hCtx pic.header) pic := by
  have header : H264DecodeSliceHeader hCtx pic.header =
      { hCtx with
        pCurSps := pic.pCurSps
        bIdrFrmFlag := pic.bIdrFrmFlag
        nPicStructure := pic.nPicStructure
        nNalRefIdc := pic.nNalRefIdc
        nFrmNum := pic.nFrmNum
        nPocLsb := pic.poc % pic.modulus
        nDeltaPocBottom := pictureDelta hCtx pic
        nCurSliceNum := hCtx.nCurSliceNum + 1 } := by
    unfold H264DecodeSliceHeader
    dsimp only
    rw [read_pocs_of_type type]
    simp [CodedPicture.header, decoded.begun, pictureDelta]
  rw [header]
  constructor
  · exact decoded.msb
  · rfl
  · change pictureDelta hCtx pic = pictureDelta start pic
    unfold pictureDelta
    rw [decoded.delta]
    unfold pictureDelta
    split_ifs <;> rfl
  · exact decoded.record
  · exact Nat.succ_ne_zero _

theorem slices_decoded {start : H264Context} (type : pic.pCurSps.nPocType = 0) (count : Nat)
    (decoded : Decoded start hCtx pic) : Decoded start (decodeSlices pic count hCtx) pic := by
  induction count generalizing hCtx with
  | zero => exact decoded
  | succ count later => exact later (later_slice_decoded type decoded)

def begunRecord (hCtx : H264Context) (pic : CodedPicture) : H264PicInfo :=
  if pic.nPicStructure = .PICT_FRAME ∨ pic.bFstField then pic.record else hCtx.pCurPicturePtr

theorem picture_decoded (hCtx : H264Context) (type : pic.pCurSps.nPocType = 0) :
    Decoded { hCtx with nCurSliceNum := 0, pCurPicturePtr := begunRecord hCtx pic }
      (decodePicture hCtx pic) pic := by
  unfold decodePicture
  have first := @first_slice_decoded
    { hCtx with nCurSliceNum := 0, pCurPicturePtr := begunRecord hCtx pic } pic rfl type
  exact slices_decoded type pic.laterSlices first

theorem decode_result_keeps (hCtx : H264Context) :
    (processDecodeResult hCtx).nPrevPocMsb = hCtx.nPocMsb ∧
      (processDecodeResult hCtx).nPrevPocLsb = hCtx.nPocLsb ∧
      (processDecodeResult hCtx).nDeltaPocBottom = hCtx.nDeltaPocBottom := by
  unfold processDecodeResult
  dsimp only
  split_ifs <;> exact ⟨rfl, rfl, rfl⟩

theorem record_has_counts (deltaRange : InS32 hCtx.nDeltaPocBottom)
    (range : InS32 (pic.poc + pic.delta)) (ownRange : InS32 pic.poc)
    (inferred : pic.deltaCoded = false → pic.delta = 0) :
    HasCounts pic (pictureRecord hCtx pic) ↔ pictureCount hCtx pic = pic.poc ∧
        (pic.nPicStructure = .PICT_FRAME → pic.pPicOrderPresent = false →
          hCtx.nDeltaPocBottom = 0) := by
  unfold HasCounts pictureRecord
  cases structured : pic.nPicStructure with
  | PICT_FRAME =>
    dsimp only
    unfold pictureDelta
    cases present : pic.pPicOrderPresent with
    | true =>
      have coded : pic.deltaCoded = true := by simp [CodedPicture.deltaCoded, present, structured]
      rw [if_pos coded]
      constructor
      · intro counts
        exact ⟨counts.1, fun _ absent => by cases absent⟩
      · intro counts
        rw [counts.1, s32_of_range range]
        exact ⟨rfl, rfl, rfl⟩
    | false =>
      have coded : pic.deltaCoded = false := by simp [CodedPicture.deltaCoded, present]
      have no_delta := inferred coded
      simp only [coded, Bool.false_eq_true, if_false, no_delta, Int.add_zero]
      constructor
      · intro counts
        apply And.intro counts.1
        intro _ _
        have bottom := counts.2.1
        rw [counts.1] at bottom
        unfold s32 at bottom
        unfold InS32 at deltaRange
        omega
      · intro counts
        have stale := counts.2 trivial trivial
        rw [counts.1, stale, Int.add_zero, s32_of_range ownRange]
        exact ⟨rfl, rfl, rfl⟩
  | PICT_TOP_FIELD | PICT_BOTTOM_FIELD =>
    constructor
    · intro counts
      exact ⟨counts.1, fun absent => by cases absent⟩
    · intro counts
      dsimp only
      rw [counts.1]
      exact ⟨rfl, rfl⟩

/-- The split of the count before, aligned also for the low bits of an IDR picture. -/
theorem split_before (holds : Holds hCtx sent carried) (coded : Codable sent pic) :
    pic.modulus ∣ (prevPoc hCtx pic).1 ∧ 0 ≤ (prevPoc hCtx pic).2 ∧
      (prevPoc hCtx pic).2 < pic.modulus ∧
      (prevPoc hCtx pic).1 + (prevPoc hCtx pic).2 =
        if pic.bIdrFrmFlag then 0 else carried.count := by
  rcases coded with ⟨-, some_bits, few, kept, -⟩
  have facts := modulus_facts some_bits few
  unfold prevPoc
  cases idr : pic.bIdrFrmFlag with
  | true =>
    exact ⟨Int.dvd_zero _, Int.le_refl 0, facts.1, rfl⟩
  | false =>
    have same : pic.modulus = 2 ^ sent.nLog2MaxPocLsb := by
      unfold CodedPicture.modulus
      rw [kept idr]
    rw [same]
    exact ⟨holds.aligned, holds.low, holds.high, holds.count⟩

theorem predicted_near (coded : Codable sent pic) :
    (pic.bIdrFrmFlag = false → Near pic.modulus carried.count pic.poc) ↔
      Near pic.modulus (if pic.bIdrFrmFlag then 0 else carried.count) pic.poc := by
  rcases coded with ⟨-, -, -, -, -, -, -, -, -, near⟩
  cases idr : pic.bIdrFrmFlag with
  | true =>
    rw [idr] at near
    unfold Near
    simp only [if_true] at near ⊢
    constructor
    · intro _
      omega
    · intro _ absent
      cases absent
  | false => simp

theorem picture_count_right (holds : Holds hCtx sent carried) (coded : Codable sent pic) :
    pictureCount hCtx pic = pic.poc ↔
      Near pic.modulus (if pic.bIdrFrmFlag then 0 else carried.count) pic.poc := by
  have split := split_before holds coded
  rcases coded with ⟨-, some_bits, few, -, -, range, -, -, -, near⟩
  rcases split with ⟨aligned, low, high, sum⟩
  rcases modulus_facts some_bits few with ⟨positive, even, whole, small⟩
  rw [← sum]
  unfold pictureCount pictureMsb
  constructor
  · intro recovered
    apply poc_msb_misses positive even small low high _ range _ near recovered
    · rw [sum]
      split_ifs
      · decide
      · exact holds.range
    · rw [sum]
      split_ifs
      · decide
      · exact holds.apart
  · intro window
    rw [poc_msb_recovers positive even whole aligned low high range window]
    have back : pic.poc - pic.poc % pic.modulus + pic.poc % pic.modulus = pic.poc := by omega
    rw [back]
    exact s32_of_range range

theorem prediction_kept (holds : Holds hCtx sent carried) (coded : Codable sent pic)
    (predicted : Predicted carried pic) :
    Holds (processDecodeResult (decodePicture hCtx pic)) (sent.next pic) (carried.next pic) := by
  have window := (predicted_near coded).mp predicted.1
  have split := split_before holds coded
  rcases coded with
    ⟨type, some_bits, few, -, reference, range, bottomRange, deltaRange, -, near⟩
  rcases split with ⟨aligned, low, high, sum⟩
  rcases modulus_facts some_bits few with ⟨positive, even, whole, small⟩
  have decoded := picture_decoded hCtx type
  have result := decode_result_keeps (decodePicture hCtx pic)
  have msb : (decodePicture hCtx pic).nPocMsb = pic.poc - pic.poc % pic.modulus := by
    rw [decoded.msb]
    rw [← sum] at window
    exact poc_msb_recovers positive even whole aligned low high range window
  constructor
  · rw [result.1, result.2.1, msb, decoded.lsb]
    unfold Carried.next
    dsimp only
    omega
  · rw [result.1, msb]
    exact Int.dvd_self_sub_emod
  · rw [result.2.1, decoded.lsb]
    exact Int.emod_nonneg _ (Int.ne_of_gt positive)
  · rw [result.2.1, decoded.lsb]
    exact Int.emod_lt_of_pos _ positive
  · exact range
  · have apart := holds.apart
    unfold InS32 at range bottomRange
    unfold Carried.next Sent.next
    dsimp only
    cases idr : pic.bIdrFrmFlag with
    | true =>
      have referenced := reference idr
      rw [if_neg referenced]
      split_ifs <;> omega
    | false =>
      rw [idr] at near
      simp only [Bool.false_eq_true, if_false] at near
      split_ifs <;> omega
  · rw [result.2.2, decoded.delta]
    unfold pictureDelta Carried.next
    rw [← holds.delta]
  · unfold Carried.next
    dsimp only
    split_ifs
    · exact deltaRange
    · exact holds.deltaRange

/-- Along a sequence every picture has its counts exactly where each is predicted from
the picture just before. -/
theorem counts_along (pics : List CodedPicture) (holds : Holds hCtx sent carried)
    (coded : CodableAlong sent pics) :
    List.Forall₂ HasCounts pics (decodePictures hCtx pics) ↔ PredictedAlong carried pics := by
  induction pics generalizing hCtx sent carried with
  | nil => simp [decodePictures, PredictedAlong]
  | cons pic rest later =>
    have decoded := picture_decoded hCtx coded.1.1
    have counts : HasCounts pic (decodePicture hCtx pic).pCurPicturePtr ↔
        Predicted carried pic := by
      rw [decoded.record]
      have right := picture_count_right holds coded.1
      have begun : pictureCount
          { hCtx with nCurSliceNum := 0, pCurPicturePtr := begunRecord hCtx pic } pic =
            pictureCount hCtx pic := rfl
      rw [record_has_counts _ coded.1.2.2.2.2.2.2.1 coded.1.2.2.2.2.2.1
        coded.1.2.2.2.2.2.2.2.2.1]
      · unfold Predicted
        rw [begun, right, predicted_near coded.1]
        dsimp only
        rw [holds.delta]
      · dsimp only
        rw [holds.delta]
        exact holds.deltaRange
    unfold decodePictures PredictedAlong
    rw [List.forall₂_cons, counts]
    apply and_congr_right
    intro predicted
    exact later (prediction_kept holds coded.1 predicted) coded.2

theorem new_decoder_holds (nLog2MaxPocLsb : Nat) (msb : hCtx.nPrevPocMsb = 0)
    (lsb : hCtx.nPrevPocLsb = 0) (delta : hCtx.nDeltaPocBottom = 0) :
    Holds hCtx ⟨nLog2MaxPocLsb, 0⟩ ⟨0, 0⟩ := by
  constructor
  · rw [msb, lsb]
    rfl
  · rw [msb]
    exact Int.dvd_zero _
  · exact Int.le_of_eq lsb.symm
  · rw [lsb]
    exact Int.pow_pos (by decide)
  · decide
  · dsimp only
    omega
  · exact delta
  · decide

/-- From a new decoder every picture has its counts exactly where each is predicted from
the picture just before. -/
theorem counts_from_new_decoder (hCtx : H264Context) (nLog2MaxPocLsb : Nat)
    (pics : List CodedPicture) (msb : hCtx.nPrevPocMsb = 0) (lsb : hCtx.nPrevPocLsb = 0)
    (delta : hCtx.nDeltaPocBottom = 0) (coded : CodableAlong ⟨nLog2MaxPocLsb, 0⟩ pics) :
    List.Forall₂ HasCounts pics (decodePictures hCtx pics) ↔ PredictedAlong ⟨0, 0⟩ pics :=
  counts_along pics (new_decoder_holds nLog2MaxPocLsb msb lsb delta) coded

end Pictures

def lowBits : H264SpsInfo :=
  { nPocType := 0
    bDeltaPicOrderAlwaysZeroFlag := false
    nLog2MaxFrmNum := 4
    nLog2MaxPocLsb := 4
    nPocCycleLength := 0
    nOffsetForRefFrm := fun _ => 0
    nOffsetForNonRefPic := 0
    nOffsetForTopToBottomField := 0 }

def newContext : H264Context :=
  { pCurSps := lowBits
    pCurPicturePtr := ⟨0, 0, 0⟩
    bIdrFrmFlag := false
    bFstField := false
    nPicStructure := .PICT_FRAME
    nNalRefIdc := 0
    nCurSliceNum := 0
    nFrmNum := 0
    nFrmNumOffset := 0
    nPrevFrmNum := 0
    nPrevFrmNumOffset := 0
    nPocType := 0
    nPocMsb := 0
    nPocLsb := 0
    nPrevPocMsb := 0
    nPrevPocLsb := 0
    nDeltaPocBottom := 0
    nDeltaPoc0 := 0
    nDeltaPoc1 := 0
    nPicPocDeltaNum := 0 }

def frame (bIdrFrmFlag : Bool) (nNalRefIdc : Nat) (mmco5 : Bool) (poc delta : Int) : CodedPicture :=
  { pCurSps := lowBits
    pPicOrderPresent := true
    bIdrFrmFlag := bIdrFrmFlag
    bFstField := false
    nPicStructure := .PICT_FRAME
    nNalRefIdc := nNalRefIdc
    mmco5 := mmco5
    nFrmNum := 0
    poc := poc
    delta := delta
    record := ⟨0, 0, 0⟩
    laterSlices := 1 }

def field (nPicStructure : PicStructure) (bFstField : Bool) (poc : Int) : CodedPicture :=
  { frame false 1 false poc 0 with
    nPicStructure := nPicStructure
    bFstField := bFstField
    pPicOrderPresent := false }

/-- The low bits wrap at the fields, and the frame before the last is no reference. -/
def steadySequence : List CodedPicture :=
  [frame true 1 false 0 1, frame false 1 false 7 1, field .PICT_TOP_FIELD true 14,
    field .PICT_BOTTOM_FIELD false 15, frame false 0 false 12 (-1), frame false 1 false 18 1]

theorem steady_sequence_codable : CodableAlong ⟨4, 0⟩ steadySequence := by decide

theorem steady_sequence_predicted : PredictedAlong ⟨0, 0⟩ steadySequence := by decide

theorem steady_sequence_counts :
    List.Forall₂ HasCounts steadySequence (decodePictures newContext steadySequence) :=
  (counts_from_new_decoder newContext 4 steadySequence rfl rfl rfl
    steady_sequence_codable).mpr steady_sequence_predicted

/-- A frame that is no reference is 7 above a reference frame, the next one 7 below it. -/
def crossingSequence : List CodedPicture :=
  [frame true 1 false 0 0, frame false 1 false 7 0, frame false 0 false 14 0,
    frame false 1 false 0 0]

/-- The decoder predicts the last count 0 from 14 instead of 7 and gets 16. -/
theorem crossing_sequence_miscounted :
    ¬ ∀ (hCtx : H264Context) (nLog2MaxPocLsb : Nat) (pics : List CodedPicture),
      hCtx.nPrevPocMsb = 0 → hCtx.nPrevPocLsb = 0 → hCtx.nDeltaPocBottom = 0 →
        CodableAlong ⟨nLog2MaxPocLsb, 0⟩ pics →
          List.Forall₂ HasCounts pics (decodePictures hCtx pics) := by
  intro recovers
  have coded : CodableAlong ⟨4, 0⟩ crossingSequence := by decide
  have counts := recovers newContext 4 crossingSequence rfl rfl rfl coded
  simp only [crossingSequence, decodePictures, List.forall₂_cons] at counts
  have last := counts.2.2.2.1.1
  revert last
  decide

end CedarC.H264PicOrder
