import CedarC.FixedWidth

/-!
# Stream buffer manager

A transcription of `vdecoder/sbm/sbmStream.c`. An address is an integer, with 0
for NULL; a `VideoStreamDataInfo*` into the frame FIFO is the index of the
entry. Sizes are `int`: each sum is wrapped to 32 bits where the source may
leave the range. The mutex makes every call one step. `none` stands for
`abort()`.
-/

namespace CedarC.SbmStreamModel

open FixedWidth

def SBM_FRAME_FIFO_SIZE : Nat := 2048

/-- The fields that the calls read or write; the others are copied with them. -/
structure VideoStreamDataInfo where
  pData : Int
  nLength : Int
  nPts : Int
  bValid : Int
deriving DecidableEq

structure StreamFrameFifo where
  pFrames : Nat → VideoStreamDataInfo
  nMaxFrameNum : Nat
  nValidFrameNum : Nat
  nUnReadFrameNum : Nat
  nReadPos : Nat
  nWritePos : Nat
  nFlushPos : Nat

structure SbmStream where
  pStreamBuffer : Int
  pStreamBufferEnd : Int
  nStreamBufferSize : Int
  pWriteAddr : Int
  nValidDataSize : Int
  frameFifo : StreamFrameFifo

/-- `SbmStreamInit` with the address that the allocation returned. -/
def sbmStreamInit (nSbmBufferTotalSize pSbmBuf : Int) : Option SbmStream :=
  if nSbmBufferTotalSize ≤ 0 then none
  else if pSbmBuf = 0 then none
  else some
    { pStreamBuffer := pSbmBuf
      pStreamBufferEnd := pSbmBuf + nSbmBufferTotalSize - 1
      nStreamBufferSize := nSbmBufferTotalSize
      pWriteAddr := pSbmBuf
      nValidDataSize := 0
      frameFifo :=
        { pFrames := fun _ => ⟨0, 0, 0, 0⟩
          nMaxFrameNum := SBM_FRAME_FIFO_SIZE
          nValidFrameNum := 0
          nUnReadFrameNum := 0
          nReadPos := 0
          nWritePos := 0
          nFlushPos := 0 } }

/-- The granted address and size, unless the call returns -1. -/
def sbmStreamRequestBuffer (pSbm : SbmStream) (nRequireSize : Int) : Option (Int × Int) :=
  if pSbm.frameFifo.nMaxFrameNum ≤ pSbm.frameFifo.nValidFrameNum then none
  else if pSbm.nValidDataSize < pSbm.nStreamBufferSize then
    let nFreeSize := s32 (pSbm.nStreamBufferSize - pSbm.nValidDataSize)
    if s32 (nRequireSize + 64) > nFreeSize then none
    else some (pSbm.pWriteAddr, nRequireSize)
  else none

def sbmStreamAddStream (pSbm : SbmStream) (pDataInfo : VideoStreamDataInfo) : SbmStream × Int :=
  if pDataInfo.pData = 0 then (pSbm, -1)
  else if pSbm.frameFifo.nMaxFrameNum ≤ pSbm.frameFifo.nValidFrameNum then (pSbm, -1)
  else if s32 (pDataInfo.nLength + pSbm.nValidDataSize) > pSbm.nStreamBufferSize then (pSbm, -1)
  else
    let pDataInfo :=
      if pDataInfo.bValid = 0 then { pDataInfo with bValid := 1 } else pDataInfo
    let nWritePos := pSbm.frameFifo.nWritePos
    let pFrames := Function.update pSbm.frameFifo.pFrames nWritePos pDataInfo
    let nWritePos :=
      if pSbm.frameFifo.nMaxFrameNum ≤ nWritePos + 1 then 0 else nWritePos + 1
    let pNewWriteAddr := pSbm.pWriteAddr + pDataInfo.nLength
    let pNewWriteAddr :=
      if pNewWriteAddr > pSbm.pStreamBufferEnd then pNewWriteAddr - pSbm.nStreamBufferSize
      else pNewWriteAddr
    ({ pSbm with
        frameFifo :=
          { pSbm.frameFifo with
            pFrames := pFrames
            nWritePos := nWritePos
            nValidFrameNum := pSbm.frameFifo.nValidFrameNum + 1
            nUnReadFrameNum := pSbm.frameFifo.nUnReadFrameNum + 1 }
        nValidDataSize := s32 (pSbm.nValidDataSize + pDataInfo.nLength)
        pWriteAddr := pNewWriteAddr }, 0)

def sbmStreamRequestStream (pSbm : SbmStream) : SbmStream × Option Nat :=
  let frameFifo := pSbm.frameFifo
  if frameFifo.nUnReadFrameNum = 0 then (pSbm, none)
  else
    let nReadPos :=
      if frameFifo.nMaxFrameNum ≤ frameFifo.nReadPos + 1 then 0 else frameFifo.nReadPos + 1
    ({ pSbm with
        frameFifo :=
          { frameFifo with
            nReadPos := nReadPos
            nUnReadFrameNum := frameFifo.nUnReadFrameNum - 1 } }, some frameFifo.nReadPos)

def sbmStreamReturnStream (pSbm : SbmStream) (pDataInfo : Nat) : Option (SbmStream × Int) :=
  let frameFifo := pSbm.frameFifo
  if frameFifo.nValidFrameNum = 0 then some (pSbm, -1)
  else
    let nReadPos :=
      if frameFifo.nReadPos = 0 then frameFifo.nMaxFrameNum - 1 else frameFifo.nReadPos - 1
    if pDataInfo ≠ nReadPos then none
    else
      some ({ pSbm with
        frameFifo :=
          { frameFifo with
            nUnReadFrameNum := frameFifo.nUnReadFrameNum + 1
            pFrames := Function.update frameFifo.pFrames nReadPos (frameFifo.pFrames pDataInfo)
            nReadPos := nReadPos } }, 0)

def sbmStreamFlushStream (pSbm : SbmStream) (pDataInfo : Nat) : Option (SbmStream × Int) :=
  let frameFifo := pSbm.frameFifo
  if frameFifo.nValidFrameNum = 0 then some (pSbm, -1)
  else if pDataInfo ≠ frameFifo.nFlushPos then none
  else
    let nFlushPos :=
      if frameFifo.nMaxFrameNum ≤ frameFifo.nFlushPos + 1 then 0 else frameFifo.nFlushPos + 1
    some ({ pSbm with
      frameFifo :=
        { frameFifo with
          nValidFrameNum := frameFifo.nValidFrameNum - 1
          nFlushPos := nFlushPos }
      nValidDataSize := s32 (pSbm.nValidDataSize - (frameFifo.pFrames pDataInfo).nLength) }, 0)

end CedarC.SbmStreamModel
