import CedarC.LinkedChain

/-!
# Frame buffer manager

A transcription of `vdecoder/fbm.c` for an Fbm that is not shared by two
streams (`bTwoStreamShareOneFbm == 0`), so the prologues that redirect the
calls of a minor stream are not entered. A picture pointer is the index of the
frame node it points into; `pVPicture->nID` is the id stored there, which a
release or forbid tag makes different from the index. A call returns `none`
when a list walk does not end.
-/

namespace CedarC.FbmFrameModel

open LinkedChain

def FRM_FORBID_USE_TAG : Nat := 0xff
def FRM_RELEASE_TAG : Nat := 0xee
def FBM_NEW_DISP_INVALID_TAG : Nat := 0xdd
def MAJOR_DISP_USE_FLAG : Nat := 4

structure FrameNodeFlag where
  bUsedByDecoder : Bool := false
  bUsedByRender : Bool := false
  bInValidPictureQueue : Bool := false
  bAlreadyDisplayed : Bool := false
  bNeedRelease : Bool := false
deriving DecidableEq

/-- The fields of a picture that the manager reads or writes. -/
structure VideoPicture where
  nID : Nat
  nBufId : Nat
  nBufStatus : Nat
deriving DecidableEq

structure FrameNode where
  flag : FrameNodeFlag
  vpicture : VideoPicture
deriving DecidableEq

/-- The three intrusive lists, by the name of the head that anchors them. -/
inductive FbmQueue where
  | pEmptyBufferQueue
  | pValidPictureQueue
  | pReleaseBufferQueue
deriving DecidableEq

structure Fbm where
  nMaxFrameNum : Nat
  nEmptyBufferNum : Int
  nValidPictureNum : Int
  nReleaseBufferNum : Int
  head : FbmQueue → Option Nat
  pFrames : Nat → FrameNode
  pNext : Nat → Option Nat
  bUseGpuBuf : Bool
  nDecoderHoldingNum : Int
  nRenderHoldingNum : Int
  nWaitForDispNum : Int
  /-- `nValidBufNum` of the `VideoFbmInfo` that owns this Fbm. -/
  nValidBufNum : Nat

def Fbm.flag (fbm : Fbm) (node : Nat) : FrameNodeFlag := (fbm.pFrames node).flag

def Fbm.nID (fbm : Fbm) (node : Nat) : Nat := (fbm.pFrames node).vpicture.nID

def Fbm.setFlag (fbm : Fbm) (node : Nat) (change : FrameNodeFlag → FrameNodeFlag) : Fbm :=
  { fbm with
    pFrames := Function.update fbm.pFrames node
      { fbm.pFrames node with flag := change (fbm.flag node) } }

def Fbm.setPicture (fbm : Fbm) (node : Nat) (change : VideoPicture → VideoPicture) : Fbm :=
  { fbm with
    pFrames := Function.update fbm.pFrames node
      { fbm.pFrames node with vpicture := change (fbm.pFrames node).vpicture } }

/-- The flags only depend on the nodes, whatever the lists and counters are. -/
@[simp] theorem Fbm.flag_with (fbm : Fbm) (nMaxFrameNum nValidBufNum : Nat)
    (empty valid release decoder render wait : Int) (head : FbmQueue → Option Nat)
    (next : Nat → Option Nat) (bUseGpuBuf : Bool) :
    (Fbm.mk nMaxFrameNum empty valid release head fbm.pFrames next bUseGpuBuf decoder render
      wait nValidBufNum).flag = fbm.flag := rfl

@[simp] theorem Fbm.flag_setFlag (fbm : Fbm) (node : Nat)
    (change : FrameNodeFlag → FrameNodeFlag) :
    (fbm.setFlag node change).flag node = change (fbm.flag node) := by
  simp [Fbm.flag, Fbm.setFlag]

@[simp] theorem Fbm.flag_setPicture (fbm : Fbm) (node other : Nat)
    (change : VideoPicture → VideoPicture) :
    (fbm.setPicture node change).flag other = fbm.flag other := by
  by_cases here : other = node
  · subst here
    simp [Fbm.flag, Fbm.setPicture]
  · simp [Fbm.flag, Fbm.setPicture, here]

def fbmEnqueue (fbm : Fbm) (queue : FbmQueue) (node : Nat) : Option Fbm :=
  (enqueue fbm.pNext (fbm.head queue) fbm.nMaxFrameNum node).map fun (next, head) =>
    { fbm with pNext := next, head := Function.update fbm.head queue head }

def fbmDequeue (fbm : Fbm) (queue : FbmQueue) : Fbm × Option Nat :=
  let (next, head, node) := dequeue fbm.pNext (fbm.head queue)
  ({ fbm with pNext := next, head := Function.update fbm.head queue head }, node)

/-- `FbmCreateBuffer` once every frame has its memory. With GPU buffers the
lists stay empty until `FbmSetFbmBufAddress` brings the buffers. -/
def fbmCreateBuffer (nFrameNum : Nat) (bUseGpuBuf : Bool) : Option Fbm :=
  let created : Fbm :=
    { nMaxFrameNum := nFrameNum
      nEmptyBufferNum := 0
      nValidPictureNum := 0
      nReleaseBufferNum := 0
      head := fun _ => none
      pFrames := fun i =>
        { flag := {}
          vpicture := { nID := i, nBufId := FBM_NEW_DISP_INVALID_TAG, nBufStatus := 0 } }
      pNext := fun _ => none
      bUseGpuBuf := bUseGpuBuf
      nDecoderHoldingNum := 0
      nRenderHoldingNum := 0
      nWaitForDispNum := 0
      nValidBufNum := 0 }
  if bUseGpuBuf then some created
  else
    ((List.range nFrameNum).foldlM
      (fun fbm i => fbmEnqueue fbm .pEmptyBufferQueue i) created).map fun fbm =>
        { fbm with nEmptyBufferNum := nFrameNum }

def fbmRequestBuffer (fbm : Fbm) : Fbm × Option Nat :=
  match fbmDequeue fbm .pEmptyBufferQueue with
  | (fbm, none) => (fbm, none)
  | (fbm, some node) =>
    -- the node is already unlinked when its status is found invalid
    if (fbm.flag node).bUsedByDecoder || (fbm.flag node).bInValidPictureQueue ||
        (fbm.flag node).bUsedByRender || (fbm.flag node).bAlreadyDisplayed then
      (fbm, none)
    else
      ({ fbm.setFlag node fun flag => { flag with bUsedByDecoder := true } with
          nEmptyBufferNum := fbm.nEmptyBufferNum - 1
          nDecoderHoldingNum := fbm.nDecoderHoldingNum + 1 }, some node)

/-- The part of `FbmReturnBuffer` under the mutex. -/
def fbmReturnNode (fbm : Fbm) (node : Nat) (bValidPicture : Bool) : Option Fbm :=
  if (fbm.flag node).bUsedByDecoder = false then some fbm
  else
    let fbm := fbm.setFlag node fun flag => { flag with bUsedByDecoder := false }
    if (fbm.flag node).bNeedRelease && !(fbm.flag node).bInValidPictureQueue then
      -- returns here, without the decrement of nDecoderHoldingNum below
      (fbmEnqueue fbm .pReleaseBufferQueue node).map fun fbm =>
        { fbm.setFlag node fun flag =>
            { flag with bAlreadyDisplayed := false, bInValidPictureQueue := false } with
          nReleaseBufferNum := fbm.nReleaseBufferNum + 1 }
    else if (fbm.flag node).bInValidPictureQueue then
      if (fbm.flag node).bUsedByRender || (fbm.flag node).bAlreadyDisplayed then some fbm
      else some { fbm with nDecoderHoldingNum := fbm.nDecoderHoldingNum - 1 }
    else if (fbm.flag node).bUsedByRender then
      some { fbm with nDecoderHoldingNum := fbm.nDecoderHoldingNum - 1 }
    else if (fbm.flag node).bAlreadyDisplayed then
      (fbmEnqueue (fbm.setFlag node fun flag => { flag with bAlreadyDisplayed := false })
          .pEmptyBufferQueue node).map fun fbm =>
        { fbm with
          nEmptyBufferNum := fbm.nEmptyBufferNum + 1
          nDecoderHoldingNum := fbm.nDecoderHoldingNum - 1 }
    else if bValidPicture then
      (fbmEnqueue fbm .pValidPictureQueue node).map fun fbm =>
        { fbm.setFlag node fun flag => { flag with bInValidPictureQueue := true } with
          nValidPictureNum := fbm.nValidPictureNum + 1
          nWaitForDispNum := fbm.nWaitForDispNum + 1
          nDecoderHoldingNum := fbm.nDecoderHoldingNum - 1 }
    else
      (fbmEnqueue fbm .pEmptyBufferQueue node).map fun fbm =>
        { fbm with
          nEmptyBufferNum := fbm.nEmptyBufferNum + 1
          nDecoderHoldingNum := fbm.nDecoderHoldingNum - 1 }

def fbmReturnBuffer (fbm : Fbm) (pVPicture : Nat) (bValidPicture : Bool) : Option Fbm :=
  let index := fbm.nID pVPicture
  if fbm.nMaxFrameNum ≤ index then some fbm
  else if pVPicture ≠ index then some fbm
  else fbmReturnNode fbm index bValidPicture

def fbmShareBuffer (fbm : Fbm) (pVPicture : Nat) : Option Fbm :=
  let index := fbm.nID pVPicture
  if fbm.nMaxFrameNum ≤ index then some fbm
  else if pVPicture ≠ index then some fbm
  else if (fbm.flag index).bNeedRelease then some fbm
  else if !(fbm.flag index).bUsedByDecoder || (fbm.flag index).bInValidPictureQueue ||
      (fbm.flag index).bAlreadyDisplayed then some fbm
  else
    (fbmEnqueue (fbm.setFlag index fun flag => { flag with bInValidPictureQueue := true })
        .pValidPictureQueue index).map fun fbm =>
      { fbm with
        nValidPictureNum := fbm.nValidPictureNum + 1
        nWaitForDispNum := fbm.nWaitForDispNum + 1 }

def fbmRequestPicture (fbm : Fbm) : Fbm × Option Nat :=
  match fbmDequeue fbm .pValidPictureQueue with
  | (fbm, none) => (fbm, none)
  | (fbm, some node) =>
    if !(fbm.flag node).bInValidPictureQueue || (fbm.flag node).bUsedByRender ||
        (fbm.flag node).bAlreadyDisplayed then (fbm, none)
    else
      let fbm := fbm.setFlag node fun flag =>
        { flag with bInValidPictureQueue := false, bUsedByRender := true }
      ({ fbm.setPicture node fun picture =>
          { picture with nBufStatus := picture.nBufStatus ||| MAJOR_DISP_USE_FLAG } with
        nValidPictureNum := fbm.nValidPictureNum - 1
        nWaitForDispNum := fbm.nWaitForDispNum - 1
        nRenderHoldingNum := fbm.nRenderHoldingNum + 1 }, some node)

/-- The branch of `FbmReturnPicture` for an id tagged with the forbid tag. -/
def fbmReturnForbidden (fbm : Fbm) (pVPicture : Nat) : Option (Fbm × Int) :=
  let node := fbm.nID pVPicture - FRM_FORBID_USE_TAG
  if (fbm.flag node).bUsedByRender || (fbm.flag node).bInValidPictureQueue ||
      (fbm.flag node).bAlreadyDisplayed then some (fbm, -1)
  else
    (fbmEnqueue fbm .pEmptyBufferQueue node).map fun fbm =>
      ({ fbm.setPicture pVPicture fun picture =>
          { picture with nID := picture.nID - FRM_FORBID_USE_TAG } with
        nEmptyBufferNum := fbm.nEmptyBufferNum + 1 }, 0)

/-- The part of `FbmReturnPicture` under the mutex for a valid index. -/
def fbmReturnShown (fbm : Fbm) (node : Nat) : Option (Fbm × Int) :=
  if !(fbm.flag node).bUsedByRender || (fbm.flag node).bInValidPictureQueue ||
      (fbm.flag node).bAlreadyDisplayed then some (fbm, -1)
  else
    let fbm := { fbm.setFlag node fun flag => { flag with bUsedByRender := false } with
      nRenderHoldingNum := fbm.nRenderHoldingNum - 1 }
    if (fbm.flag node).bUsedByDecoder then
      some (fbm.setFlag node fun flag => { flag with bAlreadyDisplayed := true }, 0)
    else if (fbm.flag node).bNeedRelease = false then
      (fbmEnqueue fbm .pEmptyBufferQueue node).map fun fbm =>
        ({ fbm with nEmptyBufferNum := fbm.nEmptyBufferNum + 1 }, 0)
    else
      (fbmEnqueue fbm .pReleaseBufferQueue node).map fun fbm =>
        ({ fbm with nReleaseBufferNum := fbm.nReleaseBufferNum + 1 }, 0)

/-- The result of `FbmReturnPicture` is 0 when the picture was taken back. -/
def fbmReturnPicture (fbm : Fbm) (pVPicture : Nat) : Option (Fbm × Int) :=
  let index := fbm.nID pVPicture
  if fbm.nMaxFrameNum ≤ index then
    if FRM_FORBID_USE_TAG ≤ index then fbmReturnForbidden fbm pVPicture
    else some (fbm, -1)
  else if pVPicture ≠ index then some (fbm, -1)
  else fbmReturnShown fbm index

/-- The loop of `FbmFlush`; its exit on an invalid status leaves the rest of
the list queued. -/
def fbmFlushLoop : Nat → Fbm → Option Fbm
  | 0, _ => none
  | fuel + 1, fbm =>
    match fbmDequeue fbm .pValidPictureQueue with
    | (fbm, none) => some fbm
    | (fbm, some node) =>
      let fbm := { fbm.setPicture node fun picture => { picture with nBufStatus := 0 } with
        nValidPictureNum := fbm.nValidPictureNum - 1 }
      if (fbm.flag node).bUsedByRender || (fbm.flag node).bAlreadyDisplayed then some fbm
      else
        let fbm := fbm.setFlag node fun flag => { flag with bInValidPictureQueue := false }
        if (fbm.flag node).bUsedByDecoder = false then
          (fbmEnqueue fbm .pEmptyBufferQueue node).bind fun fbm =>
            fbmFlushLoop fuel { fbm with nEmptyBufferNum := fbm.nEmptyBufferNum + 1 }
        else
          fbmFlushLoop fuel
            (fbm.setFlag node fun flag => { flag with bAlreadyDisplayed := true })

def fbmFlush (fbm : Fbm) : Option Fbm := fbmFlushLoop (fbm.nMaxFrameNum + 1) fbm

def fbmNewDispReleaseLoop : Nat → Fbm → Option Fbm
  | 0, _ => none
  | fuel + 1, fbm =>
    match fbmDequeue fbm .pEmptyBufferQueue with
    | (fbm, none) => some fbm
    | (fbm, some node) =>
      if (fbm.flag node).bUsedByDecoder || (fbm.flag node).bInValidPictureQueue ||
          (fbm.flag node).bUsedByRender || (fbm.flag node).bAlreadyDisplayed then some fbm
      else
        (fbmEnqueue { fbm with nEmptyBufferNum := fbm.nEmptyBufferNum - 1 }
            .pReleaseBufferQueue node).bind fun fbm =>
          fbmNewDispReleaseLoop fuel
            { fbm with nReleaseBufferNum := fbm.nReleaseBufferNum + 1 }

def fbmNewDispRelease (fbm : Fbm) : Option Fbm := fbmNewDispReleaseLoop (fbm.nMaxFrameNum + 1) fbm

/-- The first loop of `FbmSetNewDispRelease`: every frame that was given a
buffer is marked. -/
def fbmMarkNeedRelease (fbm : Fbm) : Fbm :=
  { fbm with
    pFrames := fun index =>
      if index < fbm.nMaxFrameNum ∧
          (fbm.pFrames index).vpicture.nBufId ≠ FBM_NEW_DISP_INVALID_TAG then
        { fbm.pFrames index with flag := { fbm.flag index with bNeedRelease := true } }
      else fbm.pFrames index }

def fbmSetNewDispRelease (fbm : Fbm) : Option Fbm :=
  (fbmFlush (fbmMarkNeedRelease fbm)).bind fbmNewDispRelease

def fbmRequestReleasePicture (fbm : Fbm) : Fbm × Option Nat :=
  match fbmDequeue fbm .pReleaseBufferQueue with
  | (fbm, none) => (fbm, none)
  | (fbm, some node) =>
    ({ fbm.setPicture node fun picture => { picture with nID := FRM_RELEASE_TAG } with
      nReleaseBufferNum := fbm.nReleaseBufferNum - 1 }, some node)

/-- The frame the search loop of `FbmReturnReleasePicture` stops at. -/
def fbmReleaseSlot (fbm : Fbm) : Option Nat :=
  (List.range fbm.nMaxFrameNum).find? fun index =>
    (fbm.flag index).bNeedRelease && fbm.nID index == FRM_RELEASE_TAG

/-- `nBufId` stands for the buffer described by the returned picture. -/
def fbmReturnReleasePicture (fbm : Fbm) (nBufId : Nat) (bForbidUseFlag : Bool) :
    Option (Fbm × Option Nat) :=
  match fbmReleaseSlot fbm with
  | none => some (fbm, none)
  | some index =>
    let fbm := fbm.setFlag index fun flag => { flag with bNeedRelease := false }
    let fbm := fbm.setPicture index fun picture =>
      { picture with nBufId := nBufId, nID := index }
    if bForbidUseFlag = false then
      (fbmEnqueue fbm .pEmptyBufferQueue index).map fun fbm =>
        ({ fbm with nEmptyBufferNum := fbm.nEmptyBufferNum + 1 }, some index)
    else
      some (fbm.setPicture index fun picture =>
        { picture with nID := picture.nID + FRM_FORBID_USE_TAG }, some index)

/-- The node written is `pFrames[nValidBufNum]`, with no bound check. -/
def fbmSetFbmBufAddress (fbm : Fbm) (nBufId : Nat) (bForbidUseFlag : Bool) : Option (Fbm × Nat) :=
  let node := fbm.nValidBufNum
  let fbm := fbm.setPicture node fun picture => { picture with nBufId := nBufId, nID := node }
  if bForbidUseFlag = false then
    (fbmEnqueue fbm .pEmptyBufferQueue node).map fun fbm =>
      ({ fbm with
        nEmptyBufferNum := fbm.nEmptyBufferNum + 1
        nValidBufNum := fbm.nValidBufNum + 1 }, node)
  else
    some ({ fbm.setPicture node fun picture =>
        { picture with nID := picture.nID + FRM_FORBID_USE_TAG } with
      nValidBufNum := fbm.nValidBufNum + 1 }, node)

end CedarC.FbmFrameModel
