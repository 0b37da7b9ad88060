import CedarC.SbmFrameModel

/-!
# Frame detectors

A transcription of the detectors of `vdecoder/sbm/sbmFrameH264.c` (with
`ADD_ONE_FRAME` off) and `sbmFrameH265.c`, and of the read message of
`ProcessThread`. The two files repeat each other: what they share is defined
once, and a detector is the record of what differs. One pass is one turn of the
`while(1)` loop together with the head of the function, which does nothing
while a frame is under construction. `char` has no sign, as on the processors
of the library. `none` stands for `abort()` and for a cursor outside the ring,
where the next read is undefined.
-/

namespace CedarC.SbmFrameDetect

open FixedWidth SbmFrameModel

def MAX_INVALID_STREAM_DATA_SIZE : Int := 1048576
def MAX_NALU_NUM_IN_FRAME : Nat := 1024
def MAX_FRAME_PTS_LIST_NUM : Nat := 10

section Bytes

variable (pSbm : SbmFrame)

def readByteIdx (p i : Int) : UInt8 :=
  if p + i ≤ pSbm.pStreamBufferEnd then pSbm.bytes (p + i)
  else
    let d := s32 (pSbm.pStreamBufferEnd - p) + 1
    pSbm.bytes (pSbm.pStreamBuffer + (i - d))

def ptrPlusOne (p : Int) : Int :=
  if p = pSbm.pStreamBufferEnd then pSbm.pStreamBuffer else p + 1

def shiftIn (n : Int) (c : UInt8) : Int := s32 (n * 256 + c.toNat)

/-- `count` bytes from index `i` on are shifted into `n`. -/
def readBytes (p : Int) : Nat → Int → Int → Int
  | 0, _, n => n
  | count + 1, i, n => readBytes p count (i + 1) (shiftIn n (readByteIdx pSbm p i))

def readWord (p i : Int) : Int := readBytes pSbm p 4 i 0

/-- The loop of `searchStartCode` with the way it reads and moves `pBuf`. -/
def searchLoop (readByte : Int → Int → UInt8) (plusOne : Int → Int) : Nat → Int → Int → Option Int
  | 0, _, _ => none
  | nSize + 1, pBuf, nAfterStartCodeIdx =>
    if readByte pBuf 0 = 0 ∧ readByte pBuf 1 = 0 ∧ readByte pBuf 2 = 1 then
      some (nAfterStartCodeIdx + 3)
    else searchLoop readByte plusOne nSize (plusOne pBuf) (nAfterStartCodeIdx + 1)

/-- The index behind the next start code from `pBuf` on. -/
def searchStartCode (pBuf nCurStreamDataSize : Int) : Option Int :=
  let nSize := (nCurStreamDataSize - 3).toNat
  if pSbm.mDetectInfo.nCurStreamRebackFlag then
    searchLoop (readByteIdx pSbm) (ptrPlusOne pSbm) nSize pBuf 0
  else searchLoop (fun p i => pSbm.bytes (p + i)) (· + 1) nSize pBuf 0

end Bytes

section StreamType

variable (pSbm : SbmFrame) (pStream : VideoStreamDataInfo)

/-- `checkBitStreamTypeWithStartCode` of H.264 from `nHadCheckBytesLen` on. -/
def avcStartCodeFrom : Nat → Int → Bool
  | 0, _ => false
  | fuel + 1, nHadCheckBytesLen =>
    if nHadCheckBytesLen + 4 < pStream.nLength then
      let nCheck4BitsValue := readWord pSbm pStream.pData nHadCheckBytesLen
      if nCheck4BitsValue = 0 then avcStartCodeFrom fuel (nHadCheckBytesLen + 1)
      else if nCheck4BitsValue = 1 then true
      else if nCheck4BitsValue / 256 = 1 then true
      else avcStartCodeFrom fuel (nHadCheckBytesLen + 4)
    else false

def avcCheckBitStreamTypeWithStartCode : Bool :=
  avcStartCodeFrom pSbm pStream pStream.nLength.toNat 0

/-- `checkBitStreamTypeWithoutStartCode` of H.264; `nDataSize` keeps its value
from one length to the next. -/
def avcLengthsFrom : Nat → Int → Int → Int → Bool
  | 0, _, _, _ => false
  | fuel + 1, nHadProcessLen, pBuf, nDataSize =>
    if nHadProcessLen < pStream.nLength then
      let nRemainSize := pStream.nLength - nHadProcessLen
      let nDataSize := readBytes pSbm pBuf pSbm.nNaluLength 0 nDataSize
      if nDataSize > nRemainSize - pSbm.nNaluLength ∨ nDataSize < 0 then false
      else if nDataSize = nRemainSize - pSbm.nNaluLength ∧ nDataSize ≠ 0 then true
      else
        avcLengthsFrom fuel (nHadProcessLen + (nDataSize + pSbm.nNaluLength))
          (pBuf + (nDataSize + pSbm.nNaluLength)) nDataSize
    else false

def avcCheckBitStreamTypeWithoutStartCode : Bool :=
  avcLengthsFrom pSbm pStream pStream.nLength.toNat 0 pStream.pData 0

/-- Forbidden bit 0 and temporal id at least 1, from the two bytes of a header. -/
def hevcHeaderPlausible (first second : UInt8) : Bool := (second &&& 0x7) ≥ 1 ∧ first >>> 7 = 0

/-- `checkBitStreamTypeWithStartCode` of H.265 from `nHadCheckBytesLen` on. -/
def hevcStartCodeFrom : Nat → Int → Bool
  | 0, _ => false
  | fuel + 1, nHadCheckBytesLen =>
    if nHadCheckBytesLen + 6 < pStream.nLength then
      let tmpBuf := fun i => readByteIdx pSbm pStream.pData (nHadCheckBytesLen + i)
      let nCheck4BitsValue := readWord pSbm pStream.pData nHadCheckBytesLen
      if nCheck4BitsValue = 0 then hevcStartCodeFrom fuel (nHadCheckBytesLen + 1)
      else if nCheck4BitsValue = 1 then
        if hevcHeaderPlausible (tmpBuf 4) (tmpBuf 5) then true
        else hevcStartCodeFrom fuel (nHadCheckBytesLen + 4)
      else if nCheck4BitsValue / 256 = 1 then
        if hevcHeaderPlausible (tmpBuf 3) (tmpBuf 4) then true
        else hevcStartCodeFrom fuel (nHadCheckBytesLen + 3)
      else hevcStartCodeFrom fuel (nHadCheckBytesLen + 4)
    else false

def hevcCheckBitStreamTypeWithStartCode : Bool :=
  hevcStartCodeFrom pSbm pStream pStream.nLength.toNat 0

/-- `checkBitStreamTypeWithoutStartCode` of H.265. -/
def hevcLengthsFrom : Nat → Int → Int → Bool
  | 0, _, _ => false
  | fuel + 1, nHadProcessLen, pBuf =>
    if nHadProcessLen < pStream.nLength then
      let nRemainSize := pStream.nLength - nHadProcessLen
      let nDataSize := readWord pSbm pBuf 0
      if nDataSize > nRemainSize - 4 ∨ nDataSize < 0 ∨
          hevcHeaderPlausible (readByteIdx pSbm pBuf 4) (readByteIdx pSbm pBuf 5) = false then
        false
      else if nDataSize = nRemainSize - 4 ∧ nDataSize ≠ 0 then true
      else
        let nHadProcessLen := nHadProcessLen + (nDataSize + 4)
        let pBuf := pStream.pData + nHadProcessLen
        let pBuf :=
          if pBuf - pSbm.pStreamBufferEnd > 0 then
            pSbm.pStreamBuffer + (pBuf - pSbm.pStreamBufferEnd)
          else pBuf
        hevcLengthsFrom fuel nHadProcessLen pBuf
    else false

def hevcCheckBitStreamTypeWithoutStartCode : Bool :=
  hevcLengthsFrom pSbm pStream pStream.nLength.toNat 0 pStream.pData

/-- What the two checks of a chunk say of the stream. -/
def streamTypeOf (withStartCode withoutStartCode : Bool) : Int :=
  if withStartCode ∧ withoutStartCode then 0
  else if withStartCode ∧ !withoutStartCode then 1
  else if !withStartCode ∧ withoutStartCode then 0
  else -1

def CHECK_LIMIT : Nat := 50

/-- The loop of `CheckBitStreamType`: a chunk that tells nothing is dropped. -/
def checkBitStreamType (withStartCode withoutStartCode : SbmFrame → VideoStreamDataInfo → Bool) :
    Nat → SbmFrame → Option SbmFrame
  | 0, pSbm => some pSbm
  | count + 1, pSbm =>
    match requestStream pSbm with
    | (pSbm, none) => some pSbm
    | (pSbm, some p) =>
      let pStream := pSbm.frameFifo.pFrames p
      if pStream.nLength = 0 ∨ pStream.pData = 0 then
        (flushStream pSbm p true).bind fun (pSbm, _) =>
          checkBitStreamType withStartCode withoutStartCode count pSbm
      else
        let found := streamTypeOf (withStartCode pSbm pStream) (withoutStartCode pSbm pStream)
        let pSbm := { pSbm with bStreamWithStartCode := found }
        if found = -1 then
          (flushStream pSbm p true).bind fun (pSbm, _) =>
            checkBitStreamType withStartCode withoutStartCode count pSbm
        else (returnStream pSbm p).map fun (pSbm, _) => pSbm

def avcSbmFrameCheckBitStreamType : Option SbmFrame :=
  checkBitStreamType avcCheckBitStreamTypeWithStartCode avcCheckBitStreamTypeWithoutStartCode
    CHECK_LIMIT pSbm

def hevcSbmFrameCheckBitStreamType : Option SbmFrame :=
  checkBitStreamType hevcCheckBitStreamTypeWithStartCode hevcCheckBitStreamTypeWithoutStartCode
    CHECK_LIMIT pSbm

end StreamType

section Frame

variable (pSbm : SbmFrame)

/-- The first time stamp of the list that is set, or -1. -/
def chooseFramePts (nCurFramePtsList : Nat → Int) : Int :=
  match (List.range MAX_FRAME_PTS_LIST_NUM).find? fun i => nCurFramePtsList i ≠ -1 with
  | some i => nCurFramePtsList i
  | none => -1

def initFramePicInfo (pCurFramePic : Nat) : SbmFrame :=
  let frame :=
    { pSbm.curFrame pCurFramePic with
      bValidFlag := true
      nlength := 0
      pDataStartAddr := none
      nPts := -1
      nPcr := -1
      pNaluInfoList := [] }
  (pSbm.setFrame pCurFramePic frame).setDetect
    { pSbm.mDetectInfo with
      pCurFramePic := some pCurFramePic
      nCurFramePtsList := fun _ => -1 }

def emitFramePic (pCurFramePic : Nat) : Option SbmFrame :=
  let frame :=
    { pSbm.curFrame pCurFramePic with
      nPts := chooseFramePts pSbm.mDetectInfo.nCurFramePtsList }
  (addFramePic (pSbm.setFrame pCurFramePic frame) pCurFramePic).map fun (pSbm, _) =>
    pSbm.setDetect
      { pSbm.mDetectInfo with bCurFrameStartCodeFound := false, pCurFramePic := none }

/-- Two ways to return -1 are told apart: nothing to read, and an empty chunk. -/
inductive Supply
  | supplied
  | noStream
  | emptyStream
deriving DecidableEq

/-- The rest of the chunk under detection joins the frame, and the chunk leaves
the FIFO; its bytes stay in the ring until the frame is flushed. -/
def releaseStream (pCurFramePic : Nat) : Option SbmFrame :=
  match pSbm.mDetectInfo.pCurStream with
  | none => some pSbm
  | some pCurStream =>
    (flushStream pSbm pCurStream false).map fun (pSbm, _) =>
      let frame := pSbm.curFrame pCurFramePic
      (pSbm.setFrame pCurFramePic
        { frame with nlength := s32 (frame.nlength + pSbm.mDetectInfo.nCurStreamDataSize) }
        ).setDetect
        { pSbm.mDetectInfo with
          pCurStream := none, nCurStreamDataSize := 0, pCurStreamDataptr := none }

def supplyStreamData (nReback : SbmFrame → VideoStreamDataInfo → Bool) (pCurFramePic : Nat) :
    Option (SbmFrame × Supply) :=
  (releaseStream pSbm pCurFramePic).bind fun pSbm =>
    match requestStream pSbm with
    | (pSbm, none) => some (pSbm, .noStream)
    | (pSbm, some p) =>
      let pStream := pSbm.frameFifo.pFrames p
      if pStream.nLength ≤ 0 then
        (flushStream pSbm p false).map fun (pSbm, _) => (pSbm, .emptyStream)
      else
        some (pSbm.setDetect
          { pSbm.mDetectInfo with
            pCurStream := some p
            nCurStreamDataSize := pStream.nLength
            pCurStreamDataptr := some pStream.pData
            nCurStreamRebackFlag := nReback pSbm pStream }, .supplied)

/-- An invalid chunk becomes a frame of its own, or joins the frame under
construction, which is given up when it grows too long. -/
def disposeInvalidStreamData (pCurFramePic : Nat) : Option SbmFrame :=
  pSbm.mDetectInfo.pCurStream.bind fun pCurStream =>
    let pStream := pSbm.frameFifo.pFrames pCurStream
    let frame := pSbm.curFrame pCurFramePic
    let (frame, bNeedAddFramePic) :=
      if pSbm.mDetectInfo.pCurStreamDataptr = some pStream.pData ∧ frame.nlength = 0 then
        ({ frame with
            pDataStartAddr := some pStream.pData
            nlength := pStream.nLength
            bValidFlag := false }, true)
      else
        let nlength := s32 (frame.nlength + pSbm.mDetectInfo.nCurStreamDataSize)
        if nlength > MAX_INVALID_STREAM_DATA_SIZE then
          ({ frame with nlength := nlength, bValidFlag := false }, true)
        else ({ frame with nlength := nlength }, false)
    (flushStream (pSbm.setFrame pCurFramePic frame) pCurStream false).bind fun (pSbm, _) =>
      let pSbm := pSbm.setDetect
        { pSbm.mDetectInfo with
          pCurStream := none, nCurStreamDataSize := 0, pCurStreamDataptr := none }
      if bNeedAddFramePic then
        (addFramePic pSbm pCurFramePic).map fun (pSbm, _) =>
          pSbm.setDetect { pSbm.mDetectInfo with pCurFramePic := none }
      else some pSbm

/-- The cursor behind the skipped bytes, with the wrap at the end of the ring. -/
def skipPtr (pCurStreamDataptr nSkipSize : Int) : Int :=
  let ptr := pCurStreamDataptr + nSkipSize
  if ptr > pSbm.pStreamBufferEnd then pSbm.pStreamBuffer + (ptr - pSbm.pStreamBufferEnd - 1)
  else ptr

def skipCurStreamDataBytes (pCurFramePic : Nat) (pCurStreamDataptr nSkipSize : Int) : SbmFrame :=
  let frame := pSbm.curFrame pCurFramePic
  (pSbm.setFrame pCurFramePic { frame with nlength := s32 (frame.nlength + nSkipSize) }).setDetect
    { pSbm.mDetectInfo with
      pCurStreamDataptr := some (skipPtr pSbm pCurStreamDataptr nSkipSize)
      nCurStreamDataSize := s32 (pSbm.mDetectInfo.nCurStreamDataSize - nSkipSize) }

/-- A NAL joins the frame under construction; only the H.264 file takes the
video information flag of the chunk over. -/
def storeNaluInfo (bTakeVideoInfo : Bool) (pCurFramePic : Nat) (pStream : VideoStreamDataInfo)
    (pNaluInfo : NaluInfo) : SbmFrame :=
  let frame := pSbm.curFrame pCurFramePic
  let nNaluIdx := frame.nCurNaluIdx
  let nCurFramePtsList := pSbm.mDetectInfo.nCurFramePtsList
  (pSbm.setFrame pCurFramePic
    { frame with
      pNaluInfoList := frame.pNaluInfoList ++ [pNaluInfo]
      bVideoInfoFlag :=
        if bTakeVideoInfo ∧ pStream.bVideoInfoFlag = 1 then 1 else frame.bVideoInfoFlag }).setDetect
    { pSbm.mDetectInfo with
      nCurFramePtsList :=
        if nNaluIdx < MAX_FRAME_PTS_LIST_NUM then
          Function.update nCurFramePtsList nNaluIdx pStream.nPts
        else nCurFramePtsList }

end Frame

/-- What a NAL means for the frame under construction. -/
inductive Boundary
  | newFrame
  | firstOfFrame
  | sameFrame
deriving DecidableEq

/-- How a pass ends; all but `again` return from the function. -/
inductive Outcome
  | again
  | noFramePic
  | noStream
  | emptyStream
  | eosFrame
  | invalid
  | frame
deriving DecidableEq

/-- What the four detectors do each in their way, at a cursor with the bytes
left of the chunk: the bytes in front of the NAL unless they are invalid, the
size of the NAL from the cursors before and behind these, its type and
reference flag from its first byte, and what it means for the frame. -/
structure Detector where
  nReback : SbmFrame → VideoStreamDataInfo → Bool
  beforeNalu : SbmFrame → Int → Int → Option Int
  naluSize : SbmFrame → Int → Int → Int → Int
  naluType : UInt8 → Nat
  nalRefIdc : UInt8 → Nat
  boundary : SbmFrame → Int → Nat → Boundary
  bTakeVideoInfo : Bool

def recordNalu (detector : Detector) (pSbm : SbmFrame) (pCurFramePic : Nat)
    (pStream : VideoStreamDataInfo) (ptr nBefore : Int) (naluHeader : UInt8) : SbmFrame :=
  let skipped := skipCurStreamDataBytes pSbm pCurFramePic ptr nBefore
  let pNaluBuf := skipPtr pSbm ptr nBefore
  let nNaluSize :=
    s32 (detector.naluSize skipped ptr pNaluBuf skipped.mDetectInfo.nCurStreamDataSize)
  let stored := storeNaluInfo skipped detector.bTakeVideoInfo pCurFramePic pStream
    { nType := detector.naluType naluHeader
      nNalRefIdc := detector.nalRefIdc naluHeader
      pDataBuf := pNaluBuf
      nDataSize := nNaluSize }
  skipCurStreamDataBytes stored pCurFramePic pNaluBuf nNaluSize

/-- The frame starts where its first bytes are looked at. -/
def markStart (pSbm : SbmFrame) (pCurFramePic : Nat) (pStream : VideoStreamDataInfo) (ptr : Int) :
    SbmFrame :=
  let frame := pSbm.curFrame pCurFramePic
  if frame.pDataStartAddr = none then
    pSbm.setFrame pCurFramePic
      { frame with pDataStartAddr := some ptr, pVideoInfo := pStream.pVideoInfo }
  else pSbm

def markFound (pSbm : SbmFrame) (pCurFramePic nNaluType : Nat) : SbmFrame :=
  (pSbm.setFrame pCurFramePic
    { pSbm.curFrame pCurFramePic with nFrameNaluType := nNaluType }).setDetect
    { pSbm.mDetectInfo with bCurFrameStartCodeFound := true }

/-- A pass from the point where there is a frame to fill and a chunk to read. -/
def detectNalu (detector : Detector) (pSbm : SbmFrame) (pCurFramePic pCurStream : Nat)
    (ptr : Int) : Option (SbmFrame × Outcome) :=
  if ptr < pSbm.pStreamBuffer ∨ pSbm.pStreamBufferEnd < ptr then none
  else
    let pStream := pSbm.frameFifo.pFrames pCurStream
    let pSbm := markStart pSbm pCurFramePic pStream ptr
    match detector.beforeNalu pSbm ptr pSbm.mDetectInfo.nCurStreamDataSize with
    | none => (disposeInvalidStreamData pSbm pCurFramePic).map fun pSbm => (pSbm, .invalid)
    | some nBefore =>
      if (pSbm.curFrame pCurFramePic).nCurNaluIdx > MAX_NALU_NUM_IN_FRAME then
        (disposeInvalidStreamData pSbm pCurFramePic).map fun pSbm => (pSbm, .invalid)
      else
        let naluHeader := readByteIdx pSbm (ptr + nBefore) 0
        match detector.boundary pSbm (ptr + nBefore) (detector.naluType naluHeader) with
        | .newFrame => (emitFramePic pSbm pCurFramePic).map fun pSbm => (pSbm, .frame)
        | .firstOfFrame =>
          let pSbm := markFound pSbm pCurFramePic (detector.naluType naluHeader)
          some (recordNalu detector pSbm pCurFramePic pStream ptr nBefore naluHeader, .again)
        | .sameFrame =>
          some (recordNalu detector pSbm pCurFramePic pStream ptr nBefore naluHeader, .again)

/-- A pass without data: at the end of the stream a frame that has begun is complete. -/
def detectNothing (pSbm : SbmFrame) (pCurFramePic : Nat) (outcome : Outcome) :
    Option (SbmFrame × Outcome) :=
  if pSbm.mDetectInfo.bCurFrameStartCodeFound ∧ pSbm.nEosFlag = 1 then
    (emitFramePic pSbm pCurFramePic).map fun pSbm => (pSbm, .eosFrame)
  else some (pSbm, outcome)

/-- A pass from the point where there is a frame to fill. -/
def detectInFrame (detector : Detector) (pSbm : SbmFrame) (pCurFramePic : Nat) :
    Option (SbmFrame × Outcome) :=
  let supply :=
    if pSbm.mDetectInfo.nCurStreamDataSize < 5 ∨ pSbm.mDetectInfo.pCurStreamDataptr = none then
      supplyStreamData pSbm detector.nReback pCurFramePic
    else some (pSbm, .supplied)
  supply.bind fun (pSbm, result) =>
    match result with
    | .noStream => detectNothing pSbm pCurFramePic .noStream
    | .emptyStream => detectNothing pSbm pCurFramePic .emptyStream
    | .supplied =>
      pSbm.mDetectInfo.pCurStream.bind fun pCurStream =>
        pSbm.mDetectInfo.pCurStreamDataptr.bind fun ptr =>
          detectNalu detector pSbm pCurFramePic pCurStream ptr

def detectPass (detector : Detector) (pSbm : SbmFrame) : Option (SbmFrame × Outcome) :=
  match pSbm.mDetectInfo.pCurFramePic with
  | some pCurFramePic => detectInFrame detector pSbm pCurFramePic
  | none =>
    match requestEmptyFramePic pSbm with
    | none => some (pSbm, .noFramePic)
    | some pCurFramePic =>
      detectInFrame detector (initFramePicInfo pSbm pCurFramePic) pCurFramePic

/-- `detectOneFramePic`: passes until one returns. A frame takes at most
`MAX_NALU_NUM_IN_FRAME + 1` NALs, so the fuel never runs out. -/
def detectOneFramePic (detector : Detector) : Nat → SbmFrame → Option (SbmFrame × Outcome)
  | 0, _ => none
  | fuel + 1, pSbm =>
    (detectPass detector pSbm).bind fun (pSbm, outcome) =>
      if outcome = .again then detectOneFramePic detector fuel pSbm
      else some (pSbm, outcome)

def sizeToStartCode (pSbm : SbmFrame) (pNaluBuf nCurStreamDataSize : Int) : Int :=
  match searchStartCode pSbm pNaluBuf nCurStreamDataSize with
  | none => nCurStreamDataSize
  | some nAfterStartCodeIdx => nAfterStartCodeIdx - 3

def avcReback (pSbm : SbmFrame) (pStream : VideoStreamDataInfo) : Bool :=
  pStream.nLength > pSbm.pStreamBufferEnd - pStream.pData + 1

def avcNaluType (c : UInt8) : Nat := (c &&& 0x1f).toNat

def avcNalRefIdc (c : UInt8) : Nat := if c &&& 0x60 ≠ 0 then 1 else 0

def avcBoundary (pSbm : SbmFrame) : Boundary :=
  if pSbm.mDetectInfo.bCurFrameStartCodeFound = false then .firstOfFrame else .newFrame

def avcNaluSize (pSbm : SbmFrame) (ptr : Int) : Int := readBytes pSbm ptr pSbm.nNaluLength 0 0

/-- `detectWithStartCode` of H.264. -/
def avcWithStartCode : Detector :=
  { nReback := avcReback
    beforeNalu := searchStartCode
    naluSize := fun pSbm _ pNaluBuf nCurStreamDataSize =>
      sizeToStartCode pSbm pNaluBuf nCurStreamDataSize
    naluType := avcNaluType
    nalRefIdc := avcNalRefIdc
    boundary := fun pSbm _ _ => avcBoundary pSbm
    bTakeVideoInfo := true }

/-- `detectWithoutStartCode` of H.264. -/
def avcWithoutStartCode : Detector :=
  { nReback := avcReback
    beforeNalu := fun pSbm ptr nCurStreamDataSize =>
      let nNaluSize := avcNaluSize pSbm ptr
      if nNaluSize > nCurStreamDataSize - pSbm.nNaluLength ∨ nNaluSize = 0 then none
      else some pSbm.nNaluLength
    naluSize := fun pSbm ptr _ _ => avcNaluSize pSbm ptr
    naluType := avcNaluType
    nalRefIdc := avcNalRefIdc
    boundary := fun pSbm _ _ => avcBoundary pSbm
    bTakeVideoInfo := true }

def hevcReback (pSbm : SbmFrame) (pStream : VideoStreamDataInfo) : Bool :=
  pStream.pData + pStream.nLength > pSbm.pStreamBufferEnd

def hevcNaluType (c : UInt8) : Nat := ((c &&& 0x7e) >>> 1).toNat

def SBM_HEVC_NAL_CRA_NUT : Nat := 21
def SBM_HEVC_NAL_VPS : Nat := 32
def SBM_HEVC_NAL_AUD : Nat := 35
def SBM_HEVC_NAL_SEI_PREFIX : Nat := 39

def beginsAccessUnit (nNaluType : Nat) : Bool :=
  (SBM_HEVC_NAL_VPS ≤ nNaluType ∧ nNaluType ≤ SBM_HEVC_NAL_AUD) ∨
    nNaluType = SBM_HEVC_NAL_SEI_PREFIX

def isFrameNalu (nNaluType : Nat) : Bool := nNaluType ≤ SBM_HEVC_NAL_CRA_NUT

def hevcBoundary (pSbm : SbmFrame) (pAfterStartCodeBuf : Int) (nNaluType : Nat) : Boundary :=
  if beginsAccessUnit nNaluType ∧ pSbm.mDetectInfo.bCurFrameStartCodeFound then .newFrame
  else if isFrameNalu nNaluType ∧ readByteIdx pSbm pAfterStartCodeBuf 2 >>> 7 = 1 then
    if pSbm.mDetectInfo.bCurFrameStartCodeFound = false then .firstOfFrame else .newFrame
  else .sameFrame

/-- The length prefix as `unsigned int`. -/
def hevcNaluSize (pSbm : SbmFrame) (ptr : Int) : Int := u32 (readWord pSbm ptr 0)

/-- `detectWithStartCode` of H.265. -/
def hevcWithStartCode : Detector :=
  { nReback := hevcReback
    beforeNalu := searchStartCode
    naluSize := fun pSbm _ pNaluBuf nCurStreamDataSize =>
      sizeToStartCode pSbm pNaluBuf nCurStreamDataSize
    naluType := hevcNaluType
    nalRefIdc := fun _ => 0
    boundary := hevcBoundary
    bTakeVideoInfo := false }

/-- `detectWithoutStartCode` of H.265. -/
def hevcWithoutStartCode : Detector :=
  { nReback := hevcReback
    beforeNalu := fun pSbm ptr nCurStreamDataSize =>
      let nNaluSize := hevcNaluSize pSbm ptr
      if nNaluSize > u32 (nCurStreamDataSize - 4) ∨ nNaluSize = 0 then none else some 4
    naluSize := fun pSbm ptr _ _ => hevcNaluSize pSbm ptr
    naluType := hevcNaluType
    nalRefIdc := fun _ => 0
    boundary := hevcBoundary
    bTakeVideoInfo := false }

def avcDetector (pSbm : SbmFrame) : Detector :=
  if pSbm.bStreamWithStartCode = 1 then avcWithStartCode else avcWithoutStartCode

/-- `HevcSbmFrameDetectOneFramePic` chooses by the type of the stream. -/
def hevcDetector (pSbm : SbmFrame) : Detector :=
  if pSbm.bStreamWithStartCode = 1 then hevcWithStartCode else hevcWithoutStartCode

/-- `SBM_TYPE_FRAME_AVC` and `SBM_TYPE_FRAME`. -/
inductive Codec
  | avc
  | hevc
deriving DecidableEq

def detectorOf : Codec → SbmFrame → Detector
  | .avc => avcDetector
  | .hevc => hevcDetector

def checkBitStreamTypeOf : Codec → SbmFrame → Option SbmFrame
  | .avc => avcSbmFrameCheckBitStreamType
  | .hevc => hevcSbmFrameCheckBitStreamType

def DETECT_FUEL : Nat := MAX_NALU_NUM_IN_FRAME + 3

/-- The read message of `ProcessThread`; the type check is no detection. -/
def readMessage (codec : Codec) (pSbm : SbmFrame) : Option (SbmFrame × Option Outcome) :=
  if pSbm.bStreamWithStartCode = -1 then
    (checkBitStreamTypeOf codec pSbm).map fun pSbm => (pSbm, none)
  else
    (detectOneFramePic (detectorOf codec pSbm) DETECT_FUEL pSbm).map fun (pSbm, outcome) =>
      (pSbm, some outcome)

end CedarC.SbmFrameDetect
