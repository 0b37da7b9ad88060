import CedarC.FixedWidth

/-!
# Frame stream buffer manager

A transcription of `vdecoder/sbm/sbmFrameBase.c` with the memory program of
`bUseNewVeMemoryProgram` switched off, as the header has it. Addresses are
integers; a pointer into one of the two FIFOs is the index of the entry. Sizes
are `int`. Every call is one step under the mutex; the semaphores only end a
timed wait early and are left out. `none` stands for `abort()`.
-/

namespace CedarC.SbmFrameModel

open FixedWidth

def SBM_FRAME_FIFO_SIZE : Nat := 2048
def MAX_FRAME_PIC_NUM : Nat := 100

/-- The fields that the calls read or write; the others are copied with them. -/
structure VideoStreamDataInfo where
  pData : Int
  nLength : Int
  nPts : Int
  bValid : Int
  bVideoInfoFlag : Nat
  pVideoInfo : Int
deriving DecidableEq

structure NaluInfo where
  nType : Nat
  nNalRefIdc : Nat
  pDataBuf : Int
  nDataSize : Int
deriving DecidableEq

/-- A frame picture; the list holds the `nCurNaluIdx` entries in use, the
reallocation to `nMaxNaluNum` entries always leaves room for one more. -/
structure FramePicInfo where
  pNaluInfoList : List NaluInfo
  nlength : Int
  pDataStartAddr : Option Int
  nPts : Int
  nPcr : Int
  bValidFlag : Bool
  nFrameNaluType : Nat
  bVideoInfoFlag : Nat
  pVideoInfo : Int
deriving DecidableEq

def FramePicInfo.nCurNaluIdx (pFramePic : FramePicInfo) : Nat := pFramePic.pNaluInfoList.length

/-- `StreamFrameFifo`, and `FramePicFifo` with the same fields. -/
structure FrameFifo (Frame : Type) where
  pFrames : Nat → Frame
  nMaxFrameNum : Nat
  nValidFrameNum : Nat
  nUnReadFrameNum : Nat
  nReadPos : Nat
  nWritePos : Nat
  nFlushPos : Nat

structure DetectFramePicInfo where
  pCurStream : Option Nat
  pCurStreamDataptr : Option Int
  nCurStreamDataSize : Int
  nCurStreamRebackFlag : Bool
  pCurFramePic : Option Nat
  bCurFrameStartCodeFound : Bool
  nCurFramePtsList : Nat → Int

structure SbmFrame where
  bytes : Int → UInt8
  pStreamBuffer : Int
  pStreamBufferEnd : Int
  nStreamBufferSize : Int
  pWriteAddr : Int
  nValidDataSize : Int
  frameFifo : FrameFifo VideoStreamDataInfo
  mFramePicFifo : FrameFifo FramePicInfo
  bStreamWithStartCode : Int
  mDetectInfo : DetectFramePicInfo
  nNaluLength : Nat
  nEosFlag : Int

def FrameFifo.init {Frame : Type} (frame : Frame) (nMaxFrameNum : Nat) : FrameFifo Frame :=
  { pFrames := fun _ => frame
    nMaxFrameNum := nMaxFrameNum
    nValidFrameNum := 0
    nUnReadFrameNum := 0
    nReadPos := 0
    nWritePos := 0
    nFlushPos := 0 }

/-- `SbmFrameInit` with the address and the bytes of the allocation. -/
def sbmFrameInit (nSbmBufferTotalSize : Int) (nNaluLength : Nat) (pSbmBuf : Int)
    (bytes : Int → UInt8) : Option SbmFrame :=
  if nSbmBufferTotalSize ≤ 0 then none
  else if pSbmBuf = 0 then none
  else some
    { bytes := bytes
      pStreamBuffer := pSbmBuf
      pStreamBufferEnd := pSbmBuf + nSbmBufferTotalSize - 1
      nStreamBufferSize := nSbmBufferTotalSize
      pWriteAddr := pSbmBuf
      nValidDataSize := 0
      frameFifo := FrameFifo.init ⟨0, 0, 0, 0, 0, 0⟩ SBM_FRAME_FIFO_SIZE
      mFramePicFifo := FrameFifo.init ⟨[], 0, none, 0, 0, false, 0, 0, 0⟩ MAX_FRAME_PIC_NUM
      bStreamWithStartCode := -1
      mDetectInfo := ⟨none, none, 0, false, none, false, fun _ => 0⟩
      nNaluLength := nNaluLength
      nEosFlag := 0 }

section Fifo

variable {Frame : Type}

def FrameFifo.nextPos (fifo : FrameFifo Frame) (pos : Nat) : Nat :=
  if fifo.nMaxFrameNum ≤ pos + 1 then 0 else pos + 1

def FrameFifo.advanceRead (fifo : FrameFifo Frame) : FrameFifo Frame :=
  { fifo with
    nReadPos := fifo.nextPos fifo.nReadPos
    nUnReadFrameNum := fifo.nUnReadFrameNum - 1 }

def FrameFifo.advanceWrite (fifo : FrameFifo Frame) : FrameFifo Frame :=
  { fifo with
    nWritePos := fifo.nextPos fifo.nWritePos
    nValidFrameNum := fifo.nValidFrameNum + 1
    nUnReadFrameNum := fifo.nUnReadFrameNum + 1 }

def FrameFifo.advanceFlush (fifo : FrameFifo Frame) : FrameFifo Frame :=
  { fifo with
    nValidFrameNum := fifo.nValidFrameNum - 1
    nFlushPos := fifo.nextPos fifo.nFlushPos }

def FrameFifo.request (fifo : FrameFifo Frame) : FrameFifo Frame × Option Nat :=
  if fifo.nUnReadFrameNum = 0 then (fifo, none)
  else (fifo.advanceRead, some fifo.nReadPos)

/-- The entry that was read last becomes unread again; any other one aborts. -/
def FrameFifo.giveBack (fifo : FrameFifo Frame) (pFrame : Nat) : Option (FrameFifo Frame × Int) :=
  if fifo.nValidFrameNum = 0 then some (fifo, -1)
  else
    let nReadPos := if fifo.nReadPos = 0 then fifo.nMaxFrameNum - 1 else fifo.nReadPos - 1
    if pFrame ≠ nReadPos then none
    else
      some ({ fifo with
        nReadPos := nReadPos
        nUnReadFrameNum := fifo.nUnReadFrameNum + 1 }, 0)

def FrameFifo.flush (fifo : FrameFifo Frame) (pFrame : Nat) : Option (FrameFifo Frame × Int) :=
  if fifo.nValidFrameNum = 0 then some (fifo, -1)
  else if pFrame ≠ fifo.nFlushPos then none
  else some (fifo.advanceFlush, 0)

def FrameFifo.store (fifo : FrameFifo Frame) (pFrame : Nat) (frame : Frame) : FrameFifo Frame :=
  { fifo with pFrames := Function.update fifo.pFrames pFrame frame }

end Fifo

section Access

variable (pSbm : SbmFrame)

def SbmFrame.curFrame (pCurFramePic : Nat) : FramePicInfo := pSbm.mFramePicFifo.pFrames pCurFramePic

def SbmFrame.setFrame (pCurFramePic : Nat) (frame : FramePicInfo) : SbmFrame :=
  { pSbm with mFramePicFifo := pSbm.mFramePicFifo.store pCurFramePic frame }

def SbmFrame.setDetect (pDetectInfo : DetectFramePicInfo) : SbmFrame :=
  { pSbm with mDetectInfo := pDetectInfo }

end Access

section Chunks

variable (pSbm : SbmFrame)

/-- The granted address and size, unless the call returns -1. -/
def sbmFrameRequestBuffer (nRequireSize : Int) : Option (Int × Int) :=
  if pSbm.frameFifo.nMaxFrameNum ≤ pSbm.frameFifo.nValidFrameNum then none
  else if pSbm.nValidDataSize < pSbm.nStreamBufferSize then
    let nFreeSize := s32 (pSbm.nStreamBufferSize - pSbm.nValidDataSize)
    if s32 (nRequireSize + 64) > nFreeSize then none
    else some (pSbm.pWriteAddr, nRequireSize)
  else none

def sbmFrameAddStream (pDataInfo : VideoStreamDataInfo) : SbmFrame × Int :=
  if pDataInfo.pData = 0 then (pSbm, -1)
  else if pSbm.frameFifo.nMaxFrameNum ≤ pSbm.frameFifo.nValidFrameNum then (pSbm, -1)
  else if s32 (pDataInfo.nLength + pSbm.nValidDataSize) > pSbm.nStreamBufferSize then (pSbm, -1)
  else
    let pDataInfo :=
      if pDataInfo.bValid = 0 then { pDataInfo with bValid := 1 } else pDataInfo
    let pNewWriteAddr := pSbm.pWriteAddr + pDataInfo.nLength
    let pNewWriteAddr :=
      if pNewWriteAddr > pSbm.pStreamBufferEnd then pNewWriteAddr - pSbm.nStreamBufferSize
      else pNewWriteAddr
    ({ pSbm with
        frameFifo := (pSbm.frameFifo.store pSbm.frameFifo.nWritePos pDataInfo).advanceWrite
        nValidDataSize := s32 (pSbm.nValidDataSize + pDataInfo.nLength)
        pWriteAddr := pNewWriteAddr }, 0)

def requestStream : SbmFrame × Option Nat :=
  let (frameFifo, pDataInfo) := pSbm.frameFifo.request
  ({ pSbm with frameFifo := frameFifo }, pDataInfo)

def returnStream (pDataInfo : Nat) : Option (SbmFrame × Int) :=
  (pSbm.frameFifo.giveBack pDataInfo).map fun (frameFifo, result) =>
    ({ pSbm with frameFifo := frameFifo }, result)

/-- A chunk leaves the FIFO; with `bFlush` its bytes leave the ring as well. -/
def flushStream (pDataInfo : Nat) (bFlush : Bool) : Option (SbmFrame × Int) :=
  (pSbm.frameFifo.flush pDataInfo).map fun (frameFifo, result) =>
    if result = 0 ∧ bFlush then
      ({ pSbm with
          frameFifo := frameFifo
          nValidDataSize :=
            s32 (pSbm.nValidDataSize - (pSbm.frameFifo.pFrames pDataInfo).nLength) }, result)
    else ({ pSbm with frameFifo := frameFifo }, result)

def sbmFrameSetEos (nEosFlag : Int) : SbmFrame := { pSbm with nEosFlag := nEosFlag }

end Chunks

variable (pSbm : SbmFrame)

def requestEmptyFramePic : Option Nat :=
  if pSbm.mFramePicFifo.nMaxFrameNum ≤ pSbm.mFramePicFifo.nValidFrameNum then none
  else some pSbm.mFramePicFifo.nWritePos

def addFramePic (pFramePic : Nat) : Option (SbmFrame × Int) :=
  if pSbm.mFramePicFifo.nMaxFrameNum ≤ pSbm.mFramePicFifo.nValidFrameNum then some (pSbm, -1)
  else if pFramePic ≠ pSbm.mFramePicFifo.nWritePos then none
  else some ({ pSbm with mFramePicFifo := pSbm.mFramePicFifo.advanceWrite }, 0)

def sbmFrameRequestFramePic : SbmFrame × Option Nat :=
  let (mFramePicFifo, pFramePic) := pSbm.mFramePicFifo.request
  ({ pSbm with mFramePicFifo := mFramePicFifo }, pFramePic)

def sbmFrameReturnFramePic (pFramePic : Nat) : Option (SbmFrame × Int) :=
  (pSbm.mFramePicFifo.giveBack pFramePic).map fun (mFramePicFifo, result) =>
    ({ pSbm with mFramePicFifo := mFramePicFifo }, result)

def sbmFrameFlushFramePic (pFramePic : Nat) : Option (SbmFrame × Int) :=
  (pSbm.mFramePicFifo.flush pFramePic).map fun (mFramePicFifo, result) =>
    if result = 0 then
      ({ pSbm with
          mFramePicFifo := mFramePicFifo
          nValidDataSize :=
            s32 (pSbm.nValidDataSize - (pSbm.mFramePicFifo.pFrames pFramePic).nlength) }, result)
    else ({ pSbm with mFramePicFifo := mFramePicFifo }, result)

end CedarC.SbmFrameModel
