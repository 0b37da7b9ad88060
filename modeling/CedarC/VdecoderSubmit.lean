import CedarC.SbmStreamModel
import CedarC.CyclicBuffer

/-!
# Partial submission of stream data

A transcription of `RequestVideoStreamBuffer` and `SubmitVideoStreamData` of
`vdecoder/vdecoder.c` for one `nStreamBufIndex`. A frame is submitted in parts;
`partialStreamDataInfo` gathers them until the last part, or the first part of
the next frame, adds the frame to the stream buffer manager.
-/

namespace CedarC.VdecoderSubmit

open FixedWidth CyclicBuffer SbmStreamModel

structure VideoDecoderContext where
  pSbm : Option SbmStream
  partialStreamDataInfo : VideoStreamDataInfo

structure StreamPart extends VideoStreamDataInfo where
  bIsFirstPart : Int
  bIsLastPart : Int
deriving DecidableEq

/-- The four results of a request: the granted bytes, in two pieces where they
run over the end of the ring. -/
structure StreamBuffer where
  pBuf : Int
  nBufSize : Int
  pRingBuf : Int
  nRingBufSize : Int
deriving DecidableEq

/-- `none` where the source returns -1. -/
def requestVideoStreamBuffer (p : VideoDecoderContext) (nRequireSize : Int) : Option StreamBuffer :=
  match p.pSbm with
  | none => none
  | some pSbm =>
    let nPartial := p.partialStreamDataInfo.nLength
    let nRequireSize := if nRequireSize = 0 then 4 else nRequireSize
    let nRequireSize := s32 (nRequireSize + nPartial)
    match sbmStreamRequestBuffer pSbm nRequireSize with
    | none => none
    | some (pMem, nFreeSize) =>
      if nFreeSize ≤ nPartial then none
      else
        let pStreamBufEnd := pSbm.pStreamBuffer + pSbm.nStreamBufferSize
        let pStart := pMem + nPartial
        let pStart :=
          if pStart ≥ pStreamBufEnd then pStart - pSbm.nStreamBufferSize else pStart
        let nFreeSize := s32 (nFreeSize - nPartial)
        if pStart + nFreeSize ≤ pStreamBufEnd then some ⟨pStart, nFreeSize, 0, 0⟩
        else
          let nBufSize := pStreamBufEnd - pStart
          some ⟨pStart, nBufSize, pSbm.pStreamBuffer, nFreeSize - nBufSize⟩

/-- `SbmAddStream` on the gathered frame, which a successful add marks valid. -/
def addPartial (pSbm : SbmStream) (info : VideoStreamDataInfo) : SbmStream × VideoStreamDataInfo :=
  let (next, result) := sbmStreamAddStream pSbm info
  (next, if result = 0 ∧ info.bValid = 0 then { info with bValid := 1 } else info)

def clearPartial (info : VideoStreamDataInfo) : VideoStreamDataInfo :=
  { info with pData := 0, nLength := 0, nPts := -1 }

/-- The first test of the submit: a first part takes the place of the gathered
frame, which is added before when it has bytes; another part extends it. -/
def gatherPart (pSbm : SbmStream) (info : VideoStreamDataInfo) (pDataInfo : StreamPart) :
    SbmStream × VideoStreamDataInfo :=
  if pDataInfo.bIsFirstPart ≠ 0 then
    let (pSbm, info) := if info.nLength ≠ 0 then addPartial pSbm info else (pSbm, info)
    (pSbm, { info with
      pData := pDataInfo.pData, nLength := pDataInfo.nLength, nPts := pDataInfo.nPts })
  else
    (pSbm, { info with
      nLength := s32 (info.nLength + pDataInfo.nLength)
      nPts := if info.nPts = -1 ∧ pDataInfo.nPts ≠ -1 then pDataInfo.nPts else info.nPts })

/-- The second test of the submit: a last part adds the gathered frame. The
result of the add is not looked at. -/
def closeFrame (pSbm : SbmStream) (info : VideoStreamDataInfo) (pDataInfo : StreamPart) :
    SbmStream × VideoStreamDataInfo :=
  if pDataInfo.bIsLastPart ≠ 0 then
    let (pSbm, info) := addPartial pSbm info
    (pSbm, clearPartial info)
  else (pSbm, info)

def submitVideoStreamData (p : VideoDecoderContext) (pDataInfo : StreamPart) :
    VideoDecoderContext × Int :=
  match p.pSbm with
  | none => (p, -1)
  | some pSbm =>
    let (pSbm, info) := gatherPart pSbm p.partialStreamDataInfo pDataInfo
    let (pSbm, info) := closeFrame pSbm info pDataInfo
    (⟨some pSbm, info⟩, 0)

def copyTo (memory : Int → UInt8) (address : Int) (data : List UInt8) : Int → UInt8 :=
  fun place =>
    if address ≤ place then (data[(place - address).toNat]?).getD (memory place)
    else memory place

def fillBuffer (memory : Int → UInt8) (granted : StreamBuffer) (data : List UInt8) : Int → UInt8 :=
  copyTo (copyTo memory granted.pBuf (data.take granted.nBufSize.toNat)) granted.pRingBuf
    (data.drop granted.nBufSize.toNat)

def readRing (memory : Int → UInt8) (pSbm : SbmStream) (pData nLength : Int) : List UInt8 :=
  (List.range nLength.toNat).map fun (i : Nat) =>
    memory (pSbm.pStreamBuffer + (pData - pSbm.pStreamBuffer + i) % pSbm.nStreamBufferSize)

end CedarC.VdecoderSubmit
