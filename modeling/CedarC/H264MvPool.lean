import CedarC.LinkedQueue
import Mathlib

/-!
# Motion vector buffers of the H.264 decoder

A transcription of the pool of `pH264MvBufInf` nodes in `h264_nalu.c`,
`h264_dec.c` and `h264_mmco.c` with `ENABLE_MV_BUF_OPTIMIZATION_PROGRAM` on, and
of what moves its nodes: a slice header that takes one, the reference marking,
the sorting for display, the refresh and the reset. A picture is the number of
its slot. The picture buffers of the two frame buffer managers are flags. Which
free slot a picture gets, whether the managers grant it a buffer, and which
delayed picture is shown are inputs, as is what the parser reads. The decoder
has one stream. The entry with index 0 of pools of 18 slots and more, which only
mirrors pictures that no list names, is left out. `none` stands for `abort()`,
an access through a null pointer and a walk along a queue that does not end.
-/

namespace CedarC.H264MvPool

open LinkedQueue

def PICT_TOP_FIELD : Nat := 1
def PICT_BOTTOM_FIELD : Nat := 2
def PICT_FRAME : Nat := 3
def DELAYED_PIC_REF : Nat := 4
def MAX_PICTURE_COUNT : Nat := 32
def INIT_MV_BUF_CALCULATE_NUM : Nat := 0xFFFFFFFF

inductive SliceType
  | H264_P_TYPE
  | H264_B_TYPE
  | H264_I_TYPE
  | H264_SP_TYPE
  | H264_SI_TYPE
deriving DecidableEq

inductive VResult
  | VDECODE_RESULT_OK
  | VDECODE_RESULT_CONTINUE
  | VDECODE_RESULT_NO_FRAME_BUFFER
  | VRESULT_DEC_FRAME_ERROR
  | VRESULT_ERR_FAIL
  | VRESULT_DROP_B_FRAME
deriving DecidableEq

structure H264PicInfo where
  nReference : Nat
  nH264MvBufIndex : Nat
  pVPicture : Bool
  pScaleDownVPicture : Bool
  bHasDispedFlag : Bool
  bDropBFrame : Bool
  nFrmNum : Nat
  nNalRefIdc : Nat
  nPictType : SliceType
deriving DecidableEq

structure H264MvBufManager where
  nCalculateNum : Nat
  pCurPicturePtr : Option Nat
deriving DecidableEq

/-- `bSeparateOutput` stands for rotation, scaling down and the two output
formats, which give a picture a buffer of its own for display. -/
structure H264Context where
  bSeparateOutput : Bool
  bDispErrorFrame : Bool
  nH264MvBufNum : Nat
  pH264MvBufEmptyQueue : Queue Nat
  pH264MvBufInf : Nat → H264MvBufManager
  picture : Nat → H264PicInfo
  pShortRef : List Nat
  pLongRef : Nat → Option Nat
  nLongRefCount : Int
  pDelayedPic : List Nat
  pDelayedOutPutPic : Option Nat
  pCurPicturePtr : Option Nat
  nPicStructure : Nat
  bFstField : Nat
  nCurSliceNum : Nat
  bDecStarted : Bool
  bLastMbInSlice : Nat
  bLastDropBFrame : Bool
  nFrmNum : Nat
  nSliceType : SliceType
  nLastSliceType : SliceType
  nNalRefIdc : Nat
  nCurFrmNum : Nat

section Pool

variable (h : H264Context)

def H264Context.setPicture (slot : Nat) (pic : H264PicInfo) : H264Context :=
  { h with picture := Function.update h.picture slot pic }

def giveBackNode (node : Nat) : Option H264Context :=
  (enqueue h.nH264MvBufNum h.pH264MvBufEmptyQueue node).map fun queue =>
    { h with
      pH264MvBufEmptyQueue := queue
      pH264MvBufInf := Function.update h.pH264MvBufInf node
        { h.pH264MvBufInf node with nCalculateNum := INIT_MV_BUF_CALCULATE_NUM } }

def Unmarked (nReference : Nat) : Prop := nReference = 0 ∨ nReference = DELAYED_PIC_REF
deriving Decidable

/-- A picture has its buffer and has been shown, or is shown from another one. -/
def Shown (pic : H264PicInfo) : Prop :=
  pic.pVPicture = true ∧ (pic.bHasDispedFlag = true ∨ pic.pScaleDownVPicture = true)
deriving Decidable

/-- The end of both branches of `H264UnnReferencePic`: an unmarked picture that
display has done with gives its buffer and its node back. -/
def releaseUnmarked (slot nReference : Nat) : Option H264Context :=
  let pic := { h.picture slot with nReference := nReference }
  if Unmarked nReference ∧ Shown pic then
    giveBackNode (h.setPicture slot
      { pic with pVPicture := false, bHasDispedFlag := false, nReference := 0 })
      pic.nH264MvBufIndex
  else some (h.setPicture slot pic)

def isDelayed (slot : Nat) : Bool := h.pDelayedOutPutPic = some slot ∨ slot ∈ h.pDelayedPic

def h264UnnReferencePic (slot refmask : Nat) : Option (H264Context × Bool) :=
  let nReference := (h.picture slot).nReference &&& refmask
  if nReference ≠ 0 then (releaseUnmarked h slot nReference).map fun h => (h, false)
  else
    (releaseUnmarked h slot (if isDelayed h slot then DELAYED_PIC_REF else 0)).map fun h =>
      (h, true)

/-- A picture that has left its list, if there is one. -/
def unreference : Option Nat → Option H264Context
  | none => some h
  | some slot => (h264UnnReferencePic h slot 0).map Prod.fst

def unreferenceAll (slots : List Nat) : Option H264Context :=
  slots.foldlM (fun h slot => unreference h (some slot)) h

def refillQueue : Option H264Context :=
  (drain (h.nH264MvBufNum + 1) h.pH264MvBufEmptyQueue).bind fun queue =>
    (enqueueAll h.nH264MvBufNum queue (List.range h.nH264MvBufNum)).map fun queue =>
      { h with
        pH264MvBufEmptyQueue := queue
        pH264MvBufInf := fun node =>
          if node < h.nH264MvBufNum then
            { h.pH264MvBufInf node with nCalculateNum := INIT_MV_BUF_CALCULATE_NUM }
          else h.pH264MvBufInf node }

/-- The long-term pictures are those with an index below their number. -/
def countedLongRefs : List Nat :=
  (List.range (min h.nLongRefCount.toNat MAX_PICTURE_COUNT)).filterMap h.pLongRef

def h264ReferenceRefresh : Option H264Context :=
  (unreferenceAll h (countedLongRefs h)).bind fun h =>
    (unreferenceAll h h.pShortRef).bind fun h =>
      refillQueue
        { h with
          pLongRef := fun i =>
            if i < min h.nLongRefCount.toNat MAX_PICTURE_COUNT then none else h.pLongRef i
          nLongRefCount := 0
          pShortRef := [] }

end Pool

section Reset

variable (h : H264Context)

/-- `H264FlushDelayedPictures`: every picture loses its buffers and its marks. -/
def h264FlushDelayedPictures : H264Context :=
  { h with
    picture := fun slot =>
      { h.picture slot with pVPicture := false, pScaleDownVPicture := false, nReference := 0 }
    pDelayedPic := [] }

def h264ResetDecoderParams : Option H264Context :=
  (h264ReferenceRefresh h).map fun h =>
    { h with
      nPicStructure := 0xFF
      bFstField := 0xFF
      nCurSliceNum := 0
      nCurFrmNum := 0
      bDecStarted := false
      pDelayedOutPutPic := none
      pCurPicturePtr := none }

def resetDecoder : Option H264Context := h264ResetDecoderParams (h264FlushDelayedPictures h)

end Reset

section Take

variable (h : H264Context)

/-- The least number of a node in use, and the node. -/
def leastCalculateNum : Nat × Nat :=
  (List.range h.nH264MvBufNum).foldl
    (fun (minCalculteNum, index) i =>
      if (h.pH264MvBufInf i).nCalculateNum < minCalculteNum then
        ((h.pH264MvBufInf i).nCalculateNum, i)
      else (minCalculteNum, index))
    (INIT_MV_BUF_CALCULATE_NUM, 0)

def H264PicInfo.stolen (pic : H264PicInfo) : H264PicInfo :=
  { pic with
    nReference := 0
    pVPicture := false
    pScaleDownVPicture := false
    bHasDispedFlag := false }

/-- The queue is empty: the picture that took its node first loses it. -/
def stealNode : Option H264Context :=
  let (minCalculteNum, index) := leastCalculateNum h
  if minCalculteNum = INIT_MV_BUF_CALCULATE_NUM then none
  else
    let h :=
      match (h.pH264MvBufInf index).pCurPicturePtr with
      | none => h
      | some slot => h.setPicture slot (h.picture slot).stolen
    giveBackNode h index

/-- `nCalculateNum -= 0x7fffff00` for the nodes in use, when the numbers grow large. -/
def rebaseNum (nCurFrmNum : Nat) (manager : H264MvBufManager) : H264MvBufManager :=
  if nCurFrmNum ≥ 0x7fffffff ∧ manager.nCalculateNum ≠ INIT_MV_BUF_CALCULATE_NUM then
    { manager with nCalculateNum := (manager.nCalculateNum + 2 ^ 32 - 0x7fffff00) % 2 ^ 32 }
  else manager

def assignNode (slot node : Nat) : H264Context :=
  let inUse := Function.update h.pH264MvBufInf node ⟨h.nCurFrmNum, some slot⟩
  { h.setPicture slot { h.picture slot with nH264MvBufIndex := node } with
    pH264MvBufInf := fun i =>
      if i < h.nH264MvBufNum then rebaseNum h.nCurFrmNum (inUse i) else inUse i }

def dequeueNode (slot : Nat) : Option H264Context :=
  match dequeue h.pH264MvBufEmptyQueue with
  | (_, none) => none
  | (queue, some node) => some (assignNode { h with pH264MvBufEmptyQueue := queue } slot node)

def takeNode (slot : Nat) : Option H264Context :=
  if h.pH264MvBufEmptyQueue.head = none then (stealNode h).bind fun h => dequeueNode h slot
  else dequeueNode h slot

end Take

section Marking

variable (h : H264Context)

inductive MmcoOp
  | MMCO_SHORT_TO_UNUSED (nShortPicNum : Nat)
  | MMCO_SHORT_TO_LONG (nShortPicNum bLongArg : Nat)
  | MMCO_LONG_TO_UNUSED (bLongArg : Nat)
  | MMCO_LONG (bLongArg : Nat)
  | MMCO_SET_MAX_LONG (bLongArg : Nat)
  | MMCO_RESET
deriving DecidableEq

/-- `H264PicNumExtract`: the frame number or long-term index, and the fields. -/
def h264PicNumExtract (picNum : Nat) : Nat × Nat :=
  if h.nPicStructure ≠ PICT_FRAME then
    (picNum / 2, if picNum % 2 = 0 then h.nPicStructure ^^^ PICT_FRAME else h.nPicStructure)
  else (picNum, h.nPicStructure)

def h264FindShort (frameNum : Nat) : Option Nat :=
  h.pShortRef.findIdx? fun slot => (h.picture slot).nFrmNum = frameNum

def removeShortAtIndex (i : Nat) : H264Context := { h with pShortRef := h.pShortRef.eraseIdx i }

/-- `H264RemoveShort`, with the picture that it removes. -/
def h264RemoveShort (frameNum : Nat) : H264Context × Option Nat :=
  match h264FindShort h frameNum with
  | none => (h, none)
  | some i => (removeShortAtIndex h i, h.pShortRef[i]?)

def removeLongAtIndex (i : Nat) : H264Context :=
  { h with
    pLongRef := Function.update h.pLongRef i none
    nLongRefCount := h.nLongRefCount - 1 }

/-- `H264RemoveLong`, with the picture that it removes. -/
def h264RemoveLong (i : Nat) : H264Context × Option Nat :=
  match h.pLongRef i with
  | none => (h, none)
  | some slot => (removeLongAtIndex h i, some slot)

/-- A long-term picture leaves its index and is unmarked. -/
def dropLong (i : Nat) : Option H264Context :=
  let (h, pic) := h264RemoveLong h i
  unreference h pic

def dropShort (frameNum : Nat) : Option H264Context :=
  let (h, pic) := h264RemoveShort h frameNum
  unreference h pic

def dropLongs (indices : List Nat) : Option H264Context := indices.foldlM dropLong h

/-- The loop of `MMCO_RESET` over the short-term pictures; the first one has its
own frame number, so that each turn removes the first. -/
def dropShorts : Option H264Context := (unreferenceAll { h with pShortRef := [] } h.pShortRef)

def markCurrent (slot nReference : Nat) : H264Context :=
  h.setPicture slot { h.picture slot with nReference := nReference }

/-- The other field of a pair has moved the picture to this index. -/
def MovedAlready (nShortPicNum bLongArg : Nat) : Prop :=
  h.nPicStructure ≠ PICT_FRAME ∧ bLongArg < h.nLongRefCount ∧
    (h.pLongRef bLongArg).any fun pic => (h.picture pic).nFrmNum = nShortPicNum / 2
deriving Decidable

def KeepsPlace (slot bLongArg : Nat) : Prop :=
  h.nPicStructure ≠ PICT_FRAME ∧ h.bFstField = 0 ∧
    (h.pLongRef bLongArg = some slot ∨ (h.picture slot).nReference ≠ 0)
deriving Decidable

/-- One operation, and whether it assigned the picture in hand. -/
def executeMmco (slot : Nat) : MmcoOp → Option (H264Context × Bool)
  | .MMCO_SHORT_TO_UNUSED nShortPicNum =>
    let (frameNum, structure_) := h264PicNumExtract h nShortPicNum
    match h264FindShort h frameNum with
    | none => some (h, false)
    | some i =>
      h.pShortRef[i]?.bind fun pic =>
        (h264UnnReferencePic h pic (structure_ ^^^ PICT_FRAME)).map fun (h, gone) =>
          (if gone then removeShortAtIndex h i else h, false)
  | .MMCO_SHORT_TO_LONG nShortPicNum bLongArg =>
    if MAX_PICTURE_COUNT ≤ bLongArg then none
    else if MovedAlready h nShortPicNum bLongArg then some (h, false)
    else
      let frameNum := if h.nPicStructure ≠ PICT_FRAME then nShortPicNum / 2 else nShortPicNum
      (dropLong h bLongArg).map fun h =>
        let (h, pic) := h264RemoveShort h frameNum
        ({ h with
            pLongRef := Function.update h.pLongRef bLongArg pic
            nLongRefCount := if pic.isSome then h.nLongRefCount + 1 else h.nLongRefCount },
          false)
  | .MMCO_LONG_TO_UNUSED bLongArg =>
    let (j, structure_) := h264PicNumExtract h bLongArg
    if MAX_PICTURE_COUNT ≤ j then none
    else
      match h.pLongRef j with
      | none => some (h, false)
      | some pic =>
        (h264UnnReferencePic h pic (structure_ ^^^ PICT_FRAME)).map fun (h, gone) =>
          (if gone then removeLongAtIndex h j else h, false)
  | .MMCO_LONG bLongArg =>
    if MAX_PICTURE_COUNT ≤ bLongArg then none
    else
      let assigned :=
        if KeepsPlace h slot bLongArg then some h
        else
          (dropLong h bLongArg).map fun h =>
            { h with
              pLongRef := Function.update h.pLongRef bLongArg (some slot)
              nLongRefCount := h.nLongRefCount + 1 }
      assigned.map fun h =>
        (markCurrent h slot ((h.picture slot).nReference ||| h.nPicStructure), true)
  | .MMCO_SET_MAX_LONG bLongArg =>
    (dropLongs h ((List.range 16).filter fun j => bLongArg ≤ j)).map fun h => (h, false)
  | .MMCO_RESET =>
    (dropShorts h).bind fun h => (dropLongs h (List.range 16)).map fun h => (h, false)

def executeMmcos (slot : Nat) : List MmcoOp → H264Context → Bool → Option (H264Context × Bool)
  | [], h, assigned => some (h, assigned)
  | op :: ops, h, assigned =>
    (executeMmco h slot op).bind fun (h, now) => executeMmcos slot ops h (assigned || now)

def SecondReferenceField (slot : Nat) : Prop :=
  h.nPicStructure ≠ PICT_FRAME ∧ h.bFstField = 0 ∧ (h.picture slot).nReference ≠ 0
deriving Decidable

/-- The second field needs no place in a list; any other picture becomes the
first short-term one. -/
def assignCurrent (slot : Nat) : Option H264Context :=
  if SecondReferenceField h slot then
    some (if h.pShortRef.head? = some slot then markCurrent h slot PICT_FRAME else h)
  else
    (dropShort h (h.picture slot).nFrmNum).map fun h =>
      markCurrent { h with pShortRef := slot :: h.pShortRef } slot
        ((h.picture slot).nReference ||| h.nPicStructure)

def firstLong : Nat := ((List.range 16).find? fun i => (h.pLongRef i).isSome).getD 16

/-- With more pictures than the stream may have, one is discarded. -/
def discarded : H264Context × Option Nat :=
  if h.nLongRefCount ≠ 0 ∧ h.pShortRef = [] then
    (removeLongAtIndex h (firstLong h), h.pLongRef (firstLong h))
  else (removeShortAtIndex h (h.pShortRef.length - 1), h.pShortRef.getLast?)

def limitReferences (nRefFrmCount : Nat) : Option H264Context :=
  if h.nLongRefCount + h.pShortRef.length > nRefFrmCount then
    let (h, pic) := discarded h
    unreference h pic
  else some h

def h264ExecuteRefPicMarking (slot : Nat) (mmco : List MmcoOp) (nRefFrmCount : Nat) :
    Option H264Context :=
  (executeMmcos slot mmco h false).bind fun (h, assigned) =>
    (if assigned then some h else assignCurrent h slot).bind fun h =>
      limitReferences h nRefFrmCount

end Marking

section Display

variable (h : H264Context)

def showPicture (out : Nat) : H264Context :=
  match h.pDelayedPic[out]? with
  | none => h
  | some slot =>
    let pic := { h.picture slot with bHasDispedFlag := true, bDropBFrame := false }
    let pic :=
      if h.bSeparateOutput then
        let pic := { pic with pScaleDownVPicture := false }
        if Unmarked pic.nReference ∧ pic.pVPicture = true then
          { pic with pVPicture := false, nReference := 0 }
        else pic
      else if Unmarked pic.nReference then
        { pic with pVPicture := false, nReference := 0, bHasDispedFlag := false }
      else pic
    { h.setPicture slot pic with
      pDelayedPic := h.pDelayedPic.eraseIdx out
      pDelayedOutPutPic := some slot }

def showNext : Option Nat → H264Context
  | none => h
  | some out => showPicture h out

def delayPicture (slot : Nat) : H264Context :=
  { h with pDelayedPic := h.pDelayedPic ++ [slot], pCurPicturePtr := none }

def sortKeyFrame (slot : Nat) : Option H264Context :=
  let pic := h.picture slot
  let pic :=
    if h.bSeparateOutput then { pic with pScaleDownVPicture := false }
    else { pic with pVPicture := false }
  giveBackNode (h.setPicture slot { pic with nReference := 0 }) pic.nH264MvBufIndex

def h264SortDisplayFrameOrder (bDecodeKeyFrameOnly : Bool) (out : Option Nat) :
    Option H264Context :=
  h.pCurPicturePtr.bind fun slot =>
    if bDecodeKeyFrameOnly then sortKeyFrame h slot
    else
      let sorted :=
        if h.nNalRefIdc = 0 then giveBackNode h (h.picture slot).nH264MvBufIndex else some h
      sorted.map fun h => showNext (delayPicture h slot) out

end Display

/-- The three values of `nPicStructure` in a slice header. -/
inductive PicSyntax
  | frame
  | topField
  | bottomField
deriving DecidableEq

def PicSyntax.code : PicSyntax → Nat
  | .frame => PICT_FRAME
  | .topField => PICT_TOP_FIELD
  | .bottomField => PICT_BOTTOM_FIELD

/-- A slice as the parser reads it, with the answers of the frame buffer
managers, of the clock and of the engine. -/
structure SliceNalu where
  bIdr : Bool
  nNalRefIdc : Nat
  bDecodeKeyFrameOnly : Bool
  bFstMbInSlice : Nat
  headerFails : Bool
  nSliceType : SliceType
  nFrmNum : Nat
  gapsAllowed : Bool
  picture : PicSyntax
  bufIndex : Nat
  bufferGranted : Bool
  bFrameDelayed : Bool
  decMbNum : Nat
  bPictureComplete : Bool
  bDecErrorFlag : Bool
  mmco : List MmcoOp
  nRefFrmCount : Nat
  out : Option Nat

section Header

variable (nalu : SliceNalu) (h : H264Context)

/-- An early return of the header. -/
abbrev Exit := H264Context × VResult

/-- `H264CheckNewFrame`: a new picture begins before the last one is complete. -/
def h264CheckNewFrame : Except Exit H264Context :=
  match h.bDecStarted, h.pCurPicturePtr with
  | true, some slot =>
    if h.bFstField = 0 ∨ h.nPicStructure = PICT_FRAME then
      .error ({ h with
        nNalRefIdc := (h.picture slot).nNalRefIdc
        nSliceType := (h.picture slot).nPictType
        nFrmNum := (h.picture slot).nFrmNum
        bDecStarted := false
        bLastMbInSlice := 0
        nCurSliceNum := 0 }, .VRESULT_DEC_FRAME_ERROR)
    else
      .error ({ h with
        bLastMbInSlice := if h.bFstField = 1 then 0 else h.bLastMbInSlice
        nCurSliceNum := 0 }, .VRESULT_DEC_FRAME_ERROR)
  | _, _ => .ok h

def newPicture : Except Exit H264Context :=
  if nalu.bFstMbInSlice = 0 ∨ (h.bLastMbInSlice > nalu.bFstMbInSlice ∧
      h.bLastMbInSlice ≠ 2 * nalu.bFstMbInSlice) then
    match h264CheckNewFrame h with
    | .error exit => .error exit
    | .ok h => .ok { h with nCurSliceNum := 0 }
  else .ok h

def leaveEarly : Except Exit H264Context :=
  if nalu.bFstMbInSlice ≠ 0 ∧ h.bDecStarted = false ∧ h.bLastDropBFrame then
    .error (h, .VRESULT_DROP_B_FRAME)
  else if nalu.headerFails then .error (h, .VRESULT_ERR_FAIL)
  else .ok { h with nSliceType := nalu.nSliceType }

/-- Frame numbers are missing. With `VDECODE_RESULT_CONTINUE` the reset follows. -/
def checkFrameNum : Except Exit H264Context :=
  let nLastFrmNum := h.nFrmNum
  let diffFrmNum := max nLastFrmNum nalu.nFrmNum - min nLastFrmNum nalu.nFrmNum
  let h := { h with nFrmNum := nalu.nFrmNum }
  if nalu.bDecodeKeyFrameOnly = false ∧ h.nCurFrmNum ≥ 2 ∧ nLastFrmNum ≠ 0 ∧ h.nFrmNum ≠ 0 ∧
      diffFrmNum ≥ 2 ∧ nalu.gapsAllowed = false ∧ h.nSliceType ≠ .H264_I_TYPE then
    match h264CheckNewFrame h with
    | .error exit => .error exit
    | .ok h =>
      if h.bFstField = 1 ∧ h.nPicStructure ≠ PICT_FRAME then
        .error ({ h with bLastMbInSlice := 0, bFstField := 0 }, .VRESULT_DEC_FRAME_ERROR)
      else if h.bDispErrorFrame = false then .error (h, .VDECODE_RESULT_CONTINUE)
      else .ok h
  else .ok h

def brokenFields (slot : Nat) : Exit :=
  ({ h with
      nNalRefIdc := (h.picture slot).nNalRefIdc
      nSliceType := (h.picture slot).nPictType
      nFrmNum := (h.picture slot).nFrmNum
      bDecStarted := false
      bFstField := 0 }, .VRESULT_DEC_FRAME_ERROR)

/-- The structure of the picture; the first field is still waiting where
`bFstField` is 1. A null picture there is an access through the null pointer. -/
def readStructure : Except Exit H264Context :=
  let lastPicStructure := h.nPicStructure
  if nalu.bFstMbInSlice ≠ 0 then .ok h
  else
    let h := { h with nPicStructure := nalu.picture.code }
    if h.bFstField = 1 ∧ (h.nPicStructure = PICT_FRAME ∨ h.nPicStructure = lastPicStructure) then
      .error (brokenFields h (h.pCurPicturePtr.getD MAX_PICTURE_COUNT))
    else .ok h

/-- `bFstField` for the first slice of a frame or field. -/
def fieldState (nLastFrmNum lastPicStructure : Nat) : Except Exit H264Context :=
  if h.nCurSliceNum ≠ 0 then .ok h
  else if h.nPicStructure = PICT_FRAME then .ok { h with bFstField := 0 }
  else if h.bFstField = 1 then
    let sameFrame := nLastFrmNum = h.nFrmNum ∧ h.nSliceType = h.nLastSliceType ∧
      (h.nSliceType = .H264_P_TYPE ∨ h.nSliceType = .H264_I_TYPE)
    if h.nPicStructure = lastPicStructure ∧ ¬ (sameFrame ∨ nLastFrmNum ≠ h.nFrmNum) then
      let slot := h.pCurPicturePtr.getD MAX_PICTURE_COUNT
      let broken :=
        if (h.picture slot).pVPicture then (brokenFields h slot).1
        else { h with bDecStarted := false, bFstField := 0 }
      .error ({ broken with bLastMbInSlice := 0, nCurSliceNum := 0 }, .VRESULT_DEC_FRAME_ERROR)
    else
      match h.pCurPicturePtr with
      | some slot =>
        if nLastFrmNum ≠ h.nFrmNum then
          .error ({ (brokenFields h slot).1 with bLastMbInSlice := 0, nCurSliceNum := 0 },
            .VRESULT_DEC_FRAME_ERROR)
        else .ok { h with bFstField := 0 }
      | none => .ok { h with bFstField := 0 }
  else .ok { h with bFstField := 1 }

def StartsPicture : Prop := h.nCurSliceNum = 0 ∧ (h.nPicStructure = PICT_FRAME ∨ h.bFstField = 1)
deriving Decidable

/-- Everything of the header in front of `H264FrameStart`. -/
def headerControl : Except Exit H264Context :=
  match newPicture nalu h with
  | .error exit => .error exit
  | .ok h =>
    match leaveEarly nalu h with
    | .error exit => .error exit
    | .ok h =>
      let nLastFrmNum := h.nFrmNum
      match checkFrameNum nalu h with
      | .error exit => .error exit
      | .ok h =>
        let lastPicStructure := h.nPicStructure
        match readStructure nalu h with
        | .error exit => .error exit
        | .ok h => fieldState h nLastFrmNum lastPicStructure

def FreeSlot (slot : Nat) : Prop :=
  slot < MAX_PICTURE_COUNT ∧ (h.picture slot).pVPicture = false ∧
    (h.picture slot).pScaleDownVPicture = false
deriving Decidable

/-- `H264FrameStart` in a slot that has got its buffers. -/
def h264FrameStart (slot : Nat) : H264Context :=
  { h.setPicture slot
      { h.picture slot with
        nReference := if h.nNalRefIdc ≠ 0 then h.nPicStructure else 0
        pVPicture :=
          if h.bSeparateOutput then h.nNalRefIdc ≠ 0 ∧ nalu.bDecodeKeyFrameOnly = false
          else true
        pScaleDownVPicture := h.bSeparateOutput
        bHasDispedFlag := false
        nPictType := h.nSliceType } with
    pCurPicturePtr := some slot }

def describePicture (slot : Nat) : H264Context :=
  h.setPicture slot
    { h.picture slot with
      nFrmNum := h.nFrmNum
      nNalRefIdc := h.nNalRefIdc
      nPictType := h.nSliceType }

/-- A B picture that comes too late loses its buffers. -/
def dropBFrame (slot : Nat) : H264Context :=
  let pic := h.picture slot
  let pic :=
    if pic.pScaleDownVPicture then { pic with pScaleDownVPicture := false }
    else { pic with pVPicture := false }
  { h.setPicture slot { pic with bDropBFrame := true } with bLastDropBFrame := true }

def countSlice : Exit :=
  ({ h with
      bLastDropBFrame := false
      nLastSliceType := nalu.nSliceType
      nCurSliceNum := h.nCurSliceNum + 1 }, .VDECODE_RESULT_OK)

/-- The first slice of a picture, from `H264FrameStart` to the node; `before` has
the structure that a picture without buffers leaves. -/
def startPicture (before : H264Context) : Option Exit :=
  if FreeSlot h nalu.bufIndex ∧ nalu.bufferGranted then
    let h := describePicture (h264FrameStart nalu h nalu.bufIndex) nalu.bufIndex
    if nalu.bFrameDelayed ∧ nalu.nSliceType = .H264_B_TYPE ∧ h.nNalRefIdc = 0 then
      some (dropBFrame h nalu.bufIndex, .VRESULT_DROP_B_FRAME)
    else (takeNode h nalu.bufIndex).map (countSlice nalu)
  else
    some ({ h with nPicStructure := before.nPicStructure, bFstField := before.bFstField },
      .VDECODE_RESULT_NO_FRAME_BUFFER)

def continuePicture : Exit :=
  match h.pCurPicturePtr with
  | none => (h, .VRESULT_ERR_FAIL)
  | some slot => countSlice nalu (describePicture h slot)

def h264DecodeSliceHeader : Option Exit :=
  match headerControl nalu h with
  | .error (h, ret) =>
    if ret = .VDECODE_RESULT_CONTINUE then (resetDecoder h).map fun h => (h, ret)
    else some (h, ret)
  | .ok next =>
    if StartsPicture next then startPicture nalu next h else some (continuePicture nalu next)

end Header

section Slice

variable (nalu : SliceNalu) (h : H264Context)

/-- A damaged reference picture that must not be shown ends the decoding. -/
def endsDecoding : Bool := nalu.bDecErrorFlag ∧ h.bDispErrorFrame = false ∧ h.nNalRefIdc ≠ 0

def hasDisplayBuffer (slot : Nat) : Bool :=
  if h.bSeparateOutput then (h.picture slot).pScaleDownVPicture else (h.picture slot).pVPicture

def finishPicture (slot : Nat) : Option H264Context :=
  if h.bFstField = 1 then some h
  else if endsDecoding nalu h then resetDecoder h
  else if hasDisplayBuffer h slot then
    h264SortDisplayFrameOrder { h with nCurFrmNum := h.nCurFrmNum + 1 } nalu.bDecodeKeyFrameOnly
      nalu.out
  else some h

def markPicture (slot : Nat) : Option H264Context :=
  if h.nNalRefIdc ≠ 0 then h264ExecuteRefPicMarking h slot nalu.mmco nalu.nRefFrmCount else some h

/-- Step 4 of `H264DecoderDecodeSbmFrame`. -/
def processDecodeResult : Option H264Context :=
  h.pCurPicturePtr.bind fun slot =>
    (markPicture nalu h slot).bind fun h => finishPicture nalu h slot

def decodedSlice : H264Context :=
  if nalu.bPictureComplete then
    { h with bDecStarted := false, nCurSliceNum := 0, bLastMbInSlice := 0 }
  else { h with bDecStarted := true, bLastMbInSlice := nalu.decMbNum }

/-- What `H264DecoderDecodeSbmFrame` makes of the result of the header. -/
def afterHeader : Exit → Option H264Context
  | (h, .VDECODE_RESULT_OK) =>
    if nalu.bPictureComplete then processDecodeResult nalu (decodedSlice nalu h)
    else some (decodedSlice nalu h)
  | (h, .VRESULT_DEC_FRAME_ERROR) => processDecodeResult nalu { h with bDecStarted := false }
  | (h, .VRESULT_DROP_B_FRAME) =>
    if h.pCurPicturePtr.isSome then
      h264SortDisplayFrameOrder h nalu.bDecodeKeyFrameOnly nalu.out
    else some h
  | (h, _) => some h

def enterSlice : Option H264Context :=
  let h := { h with nNalRefIdc := nalu.nNalRefIdc }
  if nalu.bIdr then h264ReferenceRefresh h else some h

/-- A slice from `H264ProcessNaluUnit` to the end of the loop turn. -/
def decodeSlice : Option H264Context :=
  (enterSlice nalu h).bind fun h => (h264DecodeSliceHeader nalu h).bind (afterHeader nalu)

end Slice

def H264PicInfo.unused : H264PicInfo := ⟨0, 0, false, false, false, false, 0, 0, .H264_P_TYPE⟩

/-- The decoder behind `H264MallocBuffer`, with its nodes in the queue. -/
def H264Context.start (bSeparateOutput bDispErrorFrame : Bool) (nRefFrmCount : Nat) :
    Option H264Context :=
  (enqueueAll (nRefFrmCount + 1) ⟨none, fun _ => none⟩ (List.range (nRefFrmCount + 1))).map
    fun queue =>
      { bSeparateOutput := bSeparateOutput
        bDispErrorFrame := bDispErrorFrame
        nH264MvBufNum := nRefFrmCount + 1
        pH264MvBufEmptyQueue := queue
        pH264MvBufInf := fun _ => ⟨INIT_MV_BUF_CALCULATE_NUM, none⟩
        picture := fun _ => .unused
        pShortRef := []
        pLongRef := fun _ => none
        nLongRefCount := 0
        pDelayedPic := []
        pDelayedOutPutPic := none
        pCurPicturePtr := none
        nPicStructure := 0xFF
        bFstField := 0xFF
        nCurSliceNum := 0
        bDecStarted := false
        bLastMbInSlice := 0
        bLastDropBFrame := false
        nFrmNum := 0
        nSliceType := .H264_P_TYPE
        nLastSliceType := .H264_P_TYPE
        nNalRefIdc := 0
        nCurFrmNum := 0 }

end CedarC.H264MvPool
