import CedarC.H265RefLists

/-!
# The H265 decoder from NAL to NAL

`HevcDecodeSliceHeader` as far as it touches pictures and references,
`HevcFrameStart`, the slices and the other NALs of `DecoderDecodeOneNalu`,
`HevcDecDecodeOneFrame` and `HevcResetDecoder`. The syntax elements of a slice are
given as the reader of bits returns them, the answers of the hardware and of the
frame buffer managers come with each NAL.
-/

namespace CedarC.H265DecodeFrame

open FixedWidth
open CedarC.H265PicOrder (HevcNaluType HEVC_IS_IDR HEVC_IS_BLA updatesPocTid0)
open CedarC.H265ShortTermRps (HevcShortTermRPS)
open H265Dpb H265RefLists

/-- The decoder's context with what is kept from NAL to NAL. -/
structure Decoder where
  dpb : HevcContex
  nPocTid0 : Int
  nMaxRa : Int
  bPreHdrFlag : Option Bool
  SliceHeader : HevcSliceHeader
  bDependentSliceSegmentFlag : Bool
  RefPicList : RefList → RefSlots
  eFirstNaluType : HevcNaluType
  bErrorFrameFlag : Bool
  bFindKeyFrameOnly : Bool
  nPts : Int
  nLastPts : Int

/-- The loop of `HevcDecoderAddPtsToList`: up to the time stamp itself or a free entry. -/
def addPts (nPts : Int) : List Int → List Int
  | [] => []
  | entry :: rest =>
    if entry = nPts then entry :: rest
    else if entry = -1 then nPts :: rest
    else entry :: addPts nPts rest

/-- `HevcDecoderDeleteOnePtsFromList`. -/
def deletePts (nPts : Int) : List Int → List Int
  | [] => []
  | entry :: rest => if entry = nPts then -1 :: rest else entry :: deletePts nPts rest

/-- `HevcDecoderAddPtsToList`; a frame that repeats the last time stamp gets one that is
one duration later. -/
def HevcDecoderAddPtsToList (nFrameDuration : Int) (dec : Decoder) : Decoder :=
  let nPts :=
    if dec.nPts = dec.nLastPts then
      dec.nPts + if nFrameDuration = 0 then 33300 else nFrameDuration
    else dec.nPts
  { dec with
    nPts := nPts
    nLastPts := nPts
    dpb := { dec.dpb with PtsList := addPts nPts dec.dpb.PtsList } }

/-- The time stamp part of `HevcDecRequestOneFrameStreamNew`. -/
def requestFrame (nFrameDuration nPts : Int) (dec : Decoder) : Decoder :=
  HevcDecoderAddPtsToList nFrameDuration (if nPts ≠ -1 then { dec with nPts := nPts } else dec)

def HevcDecoderDeleteOnePtsFromList (dec : Decoder) : Decoder :=
  { dec with dpb := { dec.dpb with PtsList := deletePts dec.nLastPts dec.dpb.PtsList } }

/-- A long term reference as coded; the cycle is the sum that the loop forms. -/
structure LongTermSyntax where
  pocLsbLt : Int
  usedByCurrPicLt : Bool
  deltaPocMsbCycleLt : Option Int
deriving DecidableEq

/-- A slice segment: its NAL header, the sets its ids name, and its syntax elements.
Without a named set the slice header is refused, without a short term set its index is
out of the table, and a long term set that is not coded leaves the old one. -/
structure SliceSegment where
  eNaluType : HevcNaluType
  nTemporalId : Nat
  nNuhLayerId : Nat
  bFirstSliceInPicFlag : Bool
  pCurSps : Option HevcSPS
  bHdrFlag : Bool
  bDependentSliceSegmentFlag : Bool
  bPicOutputFlag : Bool
  nPicOrderCntLsb : Int
  shortTermRps : Option HevcShortTermRPS
  longTermRps : Option (List LongTermSyntax)
  references : HevcSliceHeader

def HevcParseLongTermRefSet (nPoc nMaxPocLsb nPicOrderCntLsb : Int)
    (coded : List LongTermSyntax) : List LongTermRef :=
  coded.map fun long =>
    { nPoc :=
        long.deltaPocMsbCycleLt.elim long.pocLsbLt fun nDeltaPocMsbCycleLt =>
          s32 (long.pocLsbLt + (nPoc - nDeltaPocMsbCycleLt * nMaxPocLsb - nPicOrderCntLsb))
      bUsed := long.usedByCurrPicLt }

inductive SliceHeaderResult
  | decoded
  | refused
  | sizeChange
deriving DecidableEq

/-- A new sequence starts, and the leading pictures of its first one may be skipped. -/
def nextSequence (dec : Decoder) : Decoder :=
  { dec with
    dpb := { dec.dpb with nSeqDecode := dec.dpb.nSeqDecode + 1 }
    nMaxRa := HEVC_INT_MAX }

def clearRefs (dec : Decoder) : Decoder := { dec with dpb := HevcClearRefs dec.dpb }

def startSequence (dec : Decoder) (slice : SliceSegment) : Decoder :=
  if slice.bFirstSliceInPicFlag ∧ HEVC_IS_IDR slice.eNaluType then clearRefs (nextSequence dec)
  else if slice.bFirstSliceInPicFlag ∧ HEVC_IS_BLA slice.eNaluType then nextSequence dec
  else dec

/-- The active set follows the slice; another picture size or number of buffers needs a
new decoder. -/
def activateSps (dec : Decoder) (pCurSps : HevcSPS) (bHdrFlag : Bool) :
    Decoder × SliceHeaderResult :=
  match dec.dpb.pSps with
  | none =>
    (nextSequence (clearRefs
      { dec with
        dpb := { dec.dpb with pSps := some pCurSps }
        bPreHdrFlag := some bHdrFlag }), .decoded)
  | some pSps =>
    if pSps = pCurSps then (dec, .decoded)
    else
      let hdrChange := dec.bPreHdrFlag.elim false fun bPreHdrFlag => bPreHdrFlag != bHdrFlag
      ({ dec with
          dpb := { dec.dpb with pSps := some pCurSps }
          bPreHdrFlag := some bHdrFlag },
        if hdrChange ∨ pSps.nWidth ≠ pCurSps.nWidth ∨ pSps.nHeight ≠ pCurSps.nHeight ∨
            pSps.nSpsMaxNumReoderPics ≠ pCurSps.nSpsMaxNumReoderPics ∨
            pSps.nSpsMaxDecPicBuffering ≠ pCurSps.nSpsMaxDecPicBuffering then .sizeChange
        else .decoded)

def sliceCount (dec : Decoder) (slice : SliceSegment) : Int :=
  let nPoc := H265PicOrder.HevcComputePoc
    { eNaluType := slice.eNaluType
      nTemporalId := slice.nTemporalId
      nLog2MaxPocLsb := dec.dpb.pSps.elim 0 HevcSPS.nLog2MaxPocLsb
      nPoc := dec.dpb.nPoc
      nPocTid0 := dec.nPocTid0 } slice.nPicOrderCntLsb
  if ¬ slice.bFirstSliceInPicFlag ∧ nPoc ≠ dec.dpb.nPoc then dec.dpb.nPoc else nPoc

def decodeSets (dec : Decoder) (slice : SliceSegment) : Decoder × SliceHeaderResult :=
  if HEVC_IS_IDR slice.eNaluType then
    ({ dec with
        dpb := { dec.dpb with nPoc := 0, pShortTermRps := none, LongTermRps := [] } }, .decoded)
  else
    let nPoc := sliceCount dec slice
    let dec := { dec with dpb := { dec.dpb with nPoc := nPoc } }
    match slice.shortTermRps with
    | none => (dec, .refused)
    | some pShortTermRps =>
      ({ dec with
          dpb :=
            { dec.dpb with
              pShortTermRps := some pShortTermRps
              LongTermRps := slice.longTermRps.elim dec.dpb.LongTermRps
                (HevcParseLongTermRefSet nPoc (nMaxPocLsb dec.dpb) slice.nPicOrderCntLsb) } },
        .decoded)

/-- The part of an independent slice segment; `bPicOutputFlag` is read before the sets. -/
def decodeIndependent (dec : Decoder) (slice : SliceSegment) : Decoder × SliceHeaderResult :=
  match decodeSets
    { dec with
      dpb := { dec.dpb with bPicOutputFlag := slice.bPicOutputFlag }
      SliceHeader := { dec.SliceHeader with eSliceType := slice.references.eSliceType } } slice with
  | (dec, .decoded) =>
    ({ dec with
        nPocTid0 :=
          if updatesPocTid0 slice.eNaluType slice.nTemporalId then dec.dpb.nPoc
          else dec.nPocTid0
        SliceHeader := slice.references }, .decoded)
  | refused => refused

def HevcDecodeSliceHeader (dec : Decoder) (slice : SliceSegment) : Decoder × SliceHeaderResult :=
  let dec := startSequence
    { dec with dpb := { dec.dpb with eNaluType := slice.eNaluType } } slice
  match slice.pCurSps with
  | none => (dec, .refused)
  | some pCurSps =>
    match activateSps dec pCurSps slice.bHdrFlag with
    | (dec, .decoded) =>
      let bDependentSliceSegmentFlag :=
        !slice.bFirstSliceInPicFlag && slice.bDependentSliceSegmentFlag
      let dec := { dec with bDependentSliceSegmentFlag := bDependentSliceSegmentFlag }
      if bDependentSliceSegmentFlag then (dec, .decoded) else decodeIndependent dec slice
    | changed => changed

/-- What comes with a NAL from outside: the answers of the managers, and whether the
hardware reports an error. -/
structure NaluEnv where
  answers : FbmAnswers
  bHardwareError : Bool
deriving DecidableEq

/-- `HevcClearPocList`. -/
def clearPocList (dpb : HevcContex) : HevcContex :=
  { dpb with
    nSqueueFramePocList := List.replicate HEVC_MAX_FRAMES_ONE_SQUEUE HEVC_POC_INIT_VALUE }

/-- A count that is already in the list of the sequence empties `DPB`; before a key
frame the list is emptied too. -/
def checkSqueuePoc (dpb : HevcContex) : HevcContex :=
  if dpb.nPoc ∈ dpb.nSqueueFramePocList then
    let dpb := flushAndClear dpb
    if HEVC_IS_KEYFRAME dpb.eNaluType then clearPocList dpb else dpb
  else dpb

def HevcFrameStart (dpb : HevcContex) (nNuhLayerId : Nat) (answers : FbmAnswers) :
    HevcContex × HevcDecodeFrameResult :=
  match HevcConstuctFrameRps (checkSqueuePoc dpb) with
  | (dpb, .HEVC_RESULT_OK) => HevcSetNewRef dpb dpb.nPoc nNuhLayerId answers
  | failed => failed

/-- Leading pictures of the picture that decoding starts from are skipped. -/
def updateMaxRa (dec : Decoder) : Decoder :=
  if dec.nMaxRa = HEVC_INT_MAX then
    if dec.dpb.eNaluType = .HEVC_NAL_CRA_NUT ∨ HEVC_IS_BLA dec.dpb.eNaluType then
      { dec with nMaxRa := dec.dpb.nPoc }
    else if HEVC_IS_IDR dec.dpb.eNaluType then { dec with nMaxRa := HEVC_INT_MINI }
    else dec
  else dec

def skipsRasl (dec : Decoder) : Bool :=
  (decide (dec.dpb.eNaluType = .HEVC_NAL_RASL_R) ||
    decide (dec.dpb.eNaluType = .HEVC_NAL_RASL_N)) && decide (dec.dpb.nPoc ≤ dec.nMaxRa)

/-- A slice up to its submission to the hardware; `some` is an earlier end. -/
def startPicture (dec : Decoder) (slice : SliceSegment) (answers : FbmAnswers) :
    Decoder × Option HevcDecodeFrameResult :=
  if slice.bFirstSliceInPicFlag then
    match HevcFrameStart dec.dpb slice.nNuhLayerId answers with
    | (dpb, .HEVC_RESULT_OK) =>
      ({ dec with dpb := dpb, eFirstNaluType := dec.dpb.eNaluType }, none)
    | (dpb, .HEVC_RESULT_DROP_THE_FRAME) =>
      (HevcDecoderDeleteOnePtsFromList
        { dec with dpb := dpb, eFirstNaluType := dec.dpb.eNaluType },
        some .HEVC_RESULT_DROP_THE_FRAME)
    | (dpb, failed) => ({ dec with dpb := dpb, eFirstNaluType := dec.dpb.eNaluType }, some failed)
  else if dec.dpb.pCurrDPB.isNone then (dec, some .HEVC_RESULT_NULA_DATA_ERROR)
  else (dec, none)

/-- `HevcSliceRps` where the slice has lists of its own; its failure only marks the
picture. -/
def sliceReferences (dec : Decoder) : Decoder :=
  if dec.bDependentSliceSegmentFlag ∨ dec.SliceHeader.eSliceType = .HEVC_I_SLICE then dec
  else
    match HevcSliceRps dec.dpb dec.SliceHeader dec.RefPicList with
    | (RefPicList, .built) => { dec with RefPicList := RefPicList }
    | (RefPicList, .failed) => { dec with RefPicList := RefPicList, bErrorFrameFlag := true }
    | (RefPicList, .dropped) =>
      { dec with
        RefPicList := RefPicList
        bErrorFrameFlag := true
        dpb := dec.dpb.pCurrDPB.elim dec.dpb fun pCurrDPB =>
          dec.dpb.setFrame pCurrDPB { dec.dpb.frame pCurrDPB with bDropFlag := true } }

/-- The slice header and what is decided before the picture is started. -/
def prepareHeader (dec : Decoder) (slice : SliceSegment) : Decoder × Option HevcDecodeFrameResult :=
  if !(dec.dpb.bHadFindSpsFlag && dec.dpb.bHadFindPpsFlag) then
    (HevcDecoderDeleteOnePtsFromList
      { dec with dpb := { dec.dpb with eNaluType := slice.eNaluType } },
      some .HEVC_RESULT_DROP_THE_FRAME)
  else
    match HevcDecodeSliceHeader dec slice with
    | (dec, .sizeChange) => (dec, some .HEVC_RESULT_PICTURES_SIZE_CHANGE)
    | (dec, result) =>
      let dec := updateMaxRa
        (if result = .refused then { dec with bErrorFrameFlag := true } else dec)
      if skipsRasl dec then
        (HevcDecoderDeleteOnePtsFromList dec, some .HEVC_RESULT_DROP_THE_FRAME)
      else
        (if dec.dpb.eNaluType = .HEVC_NAL_RASL_R ∧ dec.nMaxRa < dec.dpb.nPoc then
            { dec with nMaxRa := HEVC_INT_MINI }
          else dec, none)

def prepareSlice (dec : Decoder) (slice : SliceSegment) (answers : FbmAnswers) :
    Decoder × Option HevcDecodeFrameResult :=
  match prepareHeader dec slice with
  | (dec, some ended) => (dec, some ended)
  | (dec, none) =>
    match startPicture dec slice answers with
    | (dec, some ended) => (dec, some ended)
    | (dec, none) =>
      if dec.dpb.eNaluType ≠ dec.eFirstNaluType then
        (dec, some .HEVC_RESULT_NULA_DATA_ERROR)
      else
        let dec := sliceReferences dec
        if dec.dpb.pCurrDPB.elim false fun index => (dec.dpb.frame index).bDropFlag then
          (dec, some .HEVC_RESULT_DROP_THE_FRAME)
        else (dec, none)

/-- The current entry of `DPB` becomes one with an error. -/
def markError (dpb : HevcContex) : HevcContex :=
  dpb.pCurrDPB.elim dpb fun pCurrDPB =>
    dpb.setFrame pCurrDPB { dpb.frame pCurrDPB with bErrorFrameFlag := true }

def submitSlice (dec : Decoder) (bHardwareError : Bool) : Decoder × HevcDecodeFrameResult :=
  (if refsWithError dec.dpb dec.SliceHeader dec.RefPicList then
      { dec with dpb := markError dec.dpb }
    else dec,
    if bHardwareError then .HEVC_RESULT_NULA_DATA_ERROR else .HEVC_RESULT_OK)

def decodeSlice (dec : Decoder) (slice : SliceSegment) (env : NaluEnv) :
    Decoder × HevcDecodeFrameResult :=
  match prepareSlice dec slice env.answers with
  | (dec, some ended) => (dec, ended)
  | (dec, none) => submitSlice dec env.bHardwareError

/-- The NALs that `DecoderDecodeOneNalu` tells apart. A set that is found with other bits
per sample needs a new decoder; pictures below 64 by 64 are not found. The types below
those of IDR pictures are skipped in the search for a key frame, whatever they are. -/
inductive Nalu
  | slice (segment : SliceSegment)
  | sps (small : Bool)
  | pps
  | bitDepthChange
  | endOfSequence
  | damaged (keyFrame : Option Bool)
  | other (keyFrame : Option Bool)

def decodeSliceNalu (dec : Decoder) (slice : SliceSegment) (env : NaluEnv) :
    Decoder × HevcDecodeFrameResult :=
  decodeSlice
    (if HEVC_IS_IDR slice.eNaluType then { dec with dpb := clearPocList dec.dpb } else dec)
    slice env

def decodeOneNalu (dec : Decoder) (nalu : Nalu) (env : NaluEnv) : Decoder × HevcDecodeFrameResult :=
  match nalu with
  | .slice slice => decodeSliceNalu dec slice env
  | .sps small =>
    ({ dec with dpb := { dec.dpb with bHadFindSpsFlag := !small } }, .HEVC_RESULT_OK)
  | .pps => ({ dec with dpb := { dec.dpb with bHadFindPpsFlag := true } }, .HEVC_RESULT_OK)
  | .bitDepthChange => (dec, .HEVC_RESULT_PICTURES_SIZE_CHANGE)
  | .endOfSequence => (nextSequence dec, .HEVC_RESULT_OK)
  | .damaged _ => (dec, .HEVC_RESULT_NULA_DATA_ERROR)
  | .other _ => (dec, .HEVC_RESULT_OK)

def endsKeyFrameSearch : HevcNaluType → Bool
  | .HEVC_NAL_IDR_W_RADL | .HEVC_NAL_IDR_N_LP | .HEVC_NAL_CRA_NUT => true
  | _ => false

/-- Whether the search ends at the NAL (`true`) or skips it (`false`). -/
def Nalu.keyFrame : Nalu → Option Bool
  | .slice segment => some (endsKeyFrameSearch segment.eNaluType)
  | .damaged keyFrame => keyFrame
  | .other keyFrame => keyFrame
  | _ => none

/-- A NAL that `HevcDecDecodeOneFrame` does not skip. -/
def decodeNalu (dec : Decoder) (nalu : Nalu) (env : NaluEnv) : Decoder × HevcDecodeFrameResult :=
  decodeOneNalu
    (if nalu.keyFrame = some true then { dec with bFindKeyFrameOnly := false } else dec) nalu env

/-- The loop of `HevcDecDecodeOneFrame`; errors of single NALs do not end it. -/
def decodeNalus (bSkipNonKeyFrame : Bool) :
    Decoder → List (Nalu × NaluEnv) → Decoder × Option HevcDecodeFrameResult
  | dec, [] => (dec, none)
  | dec, (nalu, env) :: rest =>
    if nalu.keyFrame = some false ∧ bSkipNonKeyFrame then
      decodeNalus bSkipNonKeyFrame (HevcDecoderDeleteOnePtsFromList dec) rest
    else
      match decodeNalu dec nalu env with
      | (dec, .HEVC_RESULT_OK) => decodeNalus bSkipNonKeyFrame dec rest
      | (dec, .HEVC_RESULT_NULA_DATA_ERROR) => decodeNalus bSkipNonKeyFrame dec rest
      | (dec, ended) => (dec, some ended)

/-- The place of the count in the list of the sequence: the first free entry, else the
first with the smallest count. -/
def squeueIndex (pocs : List Int) : Nat :=
  let i := pocs.findIdx fun poc => poc = HEVC_POC_INIT_VALUE
  if i < HEVC_MAX_FRAMES_ONE_SQUEUE then i
  else
    (pocs.zipIdx.foldl
      (fun (best : Int × Nat) (entry : Int × Nat) =>
        if entry.1 < best.1 ∨ best.1 = -1 then entry else best)
      (-1, 0)).2

/-- The end of `HevcDecDecodeOneFrame`. -/
def finishFrame (dec : Decoder) (bCtuMissing : Bool) : Decoder :=
  let dec :=
    if dec.dpb.pSps.isSome ∧ bCtuMissing then { dec with bErrorFrameFlag := true } else dec
  let dec := if dec.bErrorFrameFlag then { dec with dpb := markError dec.dpb } else dec
  dec.dpb.pCurrDPB.elim dec fun pCurrDPB =>
    { dec with
      dpb :=
        { dec.dpb with
          nSqueueFramePocList := dec.dpb.nSqueueFramePocList.set
            (squeueIndex dec.dpb.nSqueueFramePocList) (dec.dpb.frame pCurrDPB).nPoc } }

/-- A frame as it is decoded: its NALs and what the hardware has counted in the end. -/
structure FrameInput where
  nalus : List (Nalu × NaluEnv)
  bDecodeKeyFrameOnly : Bool
  bCtuMissing : Bool

/-- The fields that `HevcDecDecodeOneFrame` sets first. -/
def startFrame (dec : Decoder) : Decoder :=
  { dec with dpb := { dec.dpb with pCurrDPB := none }, bErrorFrameFlag := false }

def HevcDecDecodeOneFrame (dec : Decoder) (input : FrameInput) : Decoder × HevcDecodeFrameResult :=
  let bSkipNonKeyFrame := input.bDecodeKeyFrameOnly || dec.bFindKeyFrameOnly
  match decodeNalus bSkipNonKeyFrame (startFrame dec) input.nalus with
  | (dec, some ended) => (dec, ended)
  | (dec, none) => (finishFrame dec input.bCtuMissing, .HEVC_RESULT_OK)

/-- The fields that `HevcResetDecoder` sets. -/
def HevcResetDecoder (dec : Decoder) : Decoder :=
  { dec with
    dpb :=
      { clearPocList (HevcResetClearRefs dec.dpb) with
        PtsList := List.replicate HEVC_PTS_LIST_SIZE (-1)
        Rps := fun _ => []
        pShortTermRps := none }
    bFindKeyFrameOnly := true
    nPts := 0
    nLastPts := -1 }

/-- The context after `HevcDecInitContext`, for the given configuration. -/
def Decoder.start (secOutputEnabled bDisplayErrorFrameFlag : Bool) : Decoder where
  dpb :=
    { secOutputEnabled := secOutputEnabled
      bDisplayErrorFrameFlag := bDisplayErrorFrameFlag
      bHadFindSpsFlag := false
      bHadFindPpsFlag := false
      pSps := none
      bFbmInitFlag := false
      pCurrFrame := none
      pCurrSecFrame := none
      DPB := List.replicate HEVC_MAX_DPB_SIZE {}
      pCurrDPB := none
      nSeqDecode := 0
      nSeqOutput := 0
      Rps := fun _ => []
      eNaluType := .HEVC_NAL_TRAIL_N
      nPoc := 0
      pShortTermRps := none
      LongTermRps := []
      bPicOutputFlag := false
      bDropFrameAdaptiveEnable := false
      nSqueueFramePocList := List.replicate HEVC_MAX_FRAMES_ONE_SQUEUE HEVC_POC_INIT_VALUE
      nLastDispPoc := 0
      bIsFirstPicture := true
      nCurrentFramePts := 0
      PtsList := List.replicate HEVC_PTS_LIST_SIZE (-1)
      fbmCalls := []
      outputs := [] }
  nPocTid0 := 0
  nMaxRa := HEVC_INT_MAX
  bPreHdrFlag := none
  SliceHeader :=
    { eSliceType := .HEVC_I_SLICE
      nNumOfRefs := fun _ => 0
      bRplModificationFlag := fun _ => false
      ListEntryLx := fun _ _ => 0 }
  bDependentSliceSegmentFlag := false
  RefPicList := fun _ => List.replicate HEVC_MAX_REFS none
  eFirstNaluType := .HEVC_NAL_TRAIL_N
  bErrorFrameFlag := false
  bFindKeyFrameOnly := true
  nPts := 0
  nLastPts := -1

end CedarC.H265DecodeFrame
