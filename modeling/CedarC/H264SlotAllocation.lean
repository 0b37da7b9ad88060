import CedarC.H264DisplayOrderRuns
import CedarC.H264RefMarking

/-!
# The entry of a new picture

`H264GetValidBufferIndex` looks for an entry of `picture` without buffers, and
`H264FrameStart` asks for its buffers. The system has every step of the decoder that writes to
the entries: marks, the display order, dropped pictures, flushes, resets and the entries that
lose their motion vectors. The pictures and the display order are those of the display model.
-/

namespace CedarC.H264SlotAllocation

open GuardedRuns H264DisplayOrder H264DisplayOrderRuns
open CedarC.H264RefMarking (PicStructure)

/-- The entries of `picture` that the context uses. -/
def entries (hCtx : H264Context) : List Nat :=
  (List.range hCtx.nMaxValidFrmBufNum).map fun i => hCtx.nBufIndexOffset + i

def takeEntry (hCtx : H264Context) (i nDecodeBufIndex : Nat) : Nat × H264Context :=
  (i, hCtx.setPicture i fun pic =>
    { pic with nReference := 0, nDecodeBufIndex := nDecodeBufIndex, nDispBufIndex := i })

/-- `none` where there is no frame buffer. -/
def H264GetValidBufferIndex (hCtx : H264Context) (nNalRefIdc : Nat) : Option (Nat × H264Context) :=
  if hCtx.nMaxValidFrmBufNum < 18 then
    ((entries hCtx).find? fun i =>
      bufferless (hCtx.picture i) && (hCtx.picture i).bDropBFrame != 1).map fun i =>
        takeEntry hCtx i i
  else if nNalRefIdc = 0 then
    ((List.range hCtx.nMaxValidFrmBufNum).reverse.find? fun i : Nat =>
      decide (hCtx.nRefFrmCount + 2 ≤ (i : Int)) && bufferless (hCtx.picture i)).map fun i =>
        takeEntry hCtx i (if i < 18 then i else 0)
  else
    ((List.range' 1 17).find? fun i => bufferless (hCtx.picture i)).map fun i =>
      takeEntry hCtx i i

/-- What the slice says of a picture, and the buffers that are there for it. -/
structure FrameInput where
  nNalRefIdc : Nat
  nPicStructure : PicStructure
  bKeyFrame : Int
  bDecodeKeyFrameOnly : Int
  pVPicture : Option Nat
  pScaleDownVPicture : Option Nat

/-- The decoding orders of the pictures start again when their counter has come to its end. -/
def renumber (hCtx : H264Context) : H264Context :=
  if hCtx.nCurFrmNum < 0xffffffff then hCtx
  else
    let held := (entries hCtx).filter fun i => (hCtx.picture i).pVPicture.isSome
    let minDecFrmOrder :=
      held.foldl (fun least i => min least (hCtx.picture i).nDecFrameOrder) 0xffffffff
    { hCtx with
      nCurFrmNum := hCtx.nCurFrmNum - minDecFrmOrder
      picture := fun i =>
        if i ∈ held then
          { hCtx.picture i with
            nDecFrameOrder := (hCtx.picture i).nDecFrameOrder - minDecFrmOrder }
        else hCtx.picture i }

/-- The buffers of an entry, and whether it has got what it needs. -/
def requestBuffers (vconfig : VConfig) (hCtx : H264Context) (i : Nat) (frame : FrameInput) :
    H264Context × Bool :=
  if scaledOutput vconfig hCtx = true then
    let hCtx := hCtx.setPicture i fun pic =>
      { pic with pScaleDownVPicture := frame.pScaleDownVPicture }
    if frame.pScaleDownVPicture = none then (hCtx, false)
    else if frame.nNalRefIdc ≠ 0 ∧ frame.bDecodeKeyFrameOnly = 0 then
      let hCtx := hCtx.setPicture i fun pic => { pic with pVPicture := frame.pVPicture }
      if frame.pVPicture = none then
        ((hCtx.call (.FbmReturnBuffer .pFbmScaledown frame.pScaleDownVPicture 0)).setPicture i
          fun pic => { pic with pScaleDownVPicture := none }, false)
      else (hCtx, true)
    else (hCtx, true)
  else
    (hCtx.setPicture i fun pic => { pic with pVPicture := frame.pVPicture }, frame.pVPicture.isSome)

def startPicture (hCtx : H264Context) (i : Nat) (frame : FrameInput) : H264Context :=
  let hCtx := hCtx.setPicture i fun pic => { pic with bHasDispedFlag := 0 }
  let cur := hCtx.picture i
  let hCtx :=
    if cur.nDecodeBufIndex ≠ cur.nDispBufIndex then
      hCtx.setPicture cur.nDecodeBufIndex fun pic => { pic with pVPicture := cur.pVPicture }
    else hCtx
  let hCtx := hCtx.setPicture i fun pic =>
    { pic with
      bDecErrorFlag := 0
      bKeyFrame := frame.bKeyFrame
      nReference := if frame.nNalRefIdc ≠ 0 then (frame.nPicStructure.bits : Int) else 0 }
  { hCtx with pCurPicturePtr := some i }

def DELAYED_PIC_REF : Int := 4

/-- A picture that is no reference any more gives its buffer back if it has been shown or has
another one to be shown from. -/
def returnUnreferenced (hCtx : H264Context) (pic : Nat) : H264Context :=
  let info := hCtx.picture pic
  if unreferenced info = true ∧ info.pVPicture ≠ none ∧
      (info.bHasDispedFlag = 1 ∨ info.pScaleDownVPicture ≠ none) then
    let hCtx := hCtx.call (.FbmReturnBuffer .pFbm info.pVPicture 0)
    let hCtx :=
      if info.nDispBufIndex < MAX_PICTURE_COUNT then
        hCtx.setPicture info.nDispBufIndex fun other => { other with pVPicture := none }
      else hCtx
    hCtx.setPicture pic fun info =>
      { info with pVPicture := none, bHasDispedFlag := 0, nReference := 0 }
  else hCtx

def listedDelayed (hCtx : H264Context) : List (Option Nat) :=
  ((List.range MAX_PICTURE_COUNT).map hCtx.pDelayedPic).takeWhile Option.isSome

def H264UnnReferencePic (hCtx : H264Context) (pic refmask : Nat) : H264Context :=
  let nReference := ((hCtx.picture pic).nReference.toNat &&& refmask : Nat)
  let nReference : Int :=
    if nReference ≠ 0 then nReference
    else if hCtx.pDelayedOutPutPic = some pic ∨ some pic ∈ listedDelayed hCtx then DELAYED_PIC_REF
    else 0
  returnUnreferenced (hCtx.setPicture pic fun info => { info with nReference := nReference }) pic

/-- What is set of the current picture before it is sorted for display. -/
structure FinishInput where
  nPoc : Int
  bDecErrorFlag : Int
  nPicPocDeltaNum : Int
  bDecodeKeyFrameOnly : Int

def finishPicture (hCtx : H264Context) (cur : Nat) (input : FinishInput) : H264Context :=
  let hCtx := hCtx.setPicture cur fun pic =>
    { pic with
      nPoc := input.nPoc
      bDecErrorFlag := input.bDecErrorFlag
      nDecFrameOrder := hCtx.nCurFrmNum }
  { hCtx with
    nCurFrmNum := hCtx.nCurFrmNum + 1
    nPicPocDeltaNum := input.nPicPocDeltaNum }

def dropPicture (hCtx : H264Context) (cur : Nat) : H264Context :=
  let pic := hCtx.picture cur
  let hCtx :=
    if pic.pScaleDownVPicture ≠ none then
      let hCtx := hCtx.call (.FbmReturnBuffer .pFbmScaledown pic.pScaleDownVPicture 0)
      let hCtx := hCtx.setPicture pic.nDispBufIndex fun pic =>
        { pic with pScaleDownVPicture := none }
      hCtx.setPicture pic.nDecodeBufIndex fun pic => { pic with pScaleDownVPicture := none }
    else
      let hCtx := hCtx.call (.FbmReturnBuffer .pFbm pic.pVPicture 0)
      let hCtx := hCtx.setPicture pic.nDispBufIndex fun pic => { pic with pVPicture := none }
      hCtx.setPicture pic.nDecodeBufIndex fun pic => { pic with pVPicture := none }
  hCtx.setPicture pic.nDecodeBufIndex fun pic => { pic with bDropBFrame := 1 }

def loseReference (hCtx : H264Context) (pic : Nat) : H264Context :=
  hCtx.setPicture pic fun info => { info with nReference := 0, pVPicture := none }

/-- `H264ResetDecoderParams`, with the pictures that are in the reference lists. -/
def H264ResetDecoderParams (hCtx : H264Context) (refs : List Nat) : H264Context :=
  let hCtx := (List.range 18).foldl
    (fun hCtx i => (hCtx.pDelayedPic i).elim hCtx (loseReference hCtx)) hCtx
  let hCtx := hCtx.pDelayedOutPutPic.elim hCtx (loseReference hCtx)
  let hCtx := hCtx.pCurPicturePtr.elim hCtx (loseReference hCtx)
  let hCtx := refs.foldl (fun hCtx pic => H264UnnReferencePic hCtx pic 0) hCtx
  { hCtx with
    nCurFrmNum := 0
    nMinDispPoc := 0
    nDelayedPicNum := 0
    pDelayedOutPutPic := none
    pCurPicturePtr := none }

/-- The picture whose motion vectors are needed for another one. -/
def reclaimPicture (hCtx : H264Context) (pic : Nat) : H264Context :=
  let info := hCtx.picture pic
  let hCtx :=
    if info.pVPicture ≠ none then hCtx.call (.FbmReturnBuffer .pFbm info.pVPicture 0) else hCtx
  let hCtx :=
    if info.pScaleDownVPicture ≠ none then
      hCtx.call (.FbmReturnBuffer .pFbm info.pScaleDownVPicture 0)
    else hCtx
  hCtx.setPicture pic fun info =>
    { info with
      nReference := 0, pVPicture := none, pScaleDownVPicture := none, bHasDispedFlag := 0 }

/-- The choice of an entry, with the context that it was made in and whether a picture was being
decoded. -/
structure Allocation where
  before : H264Context
  decoding : Bool
  slot : Nat
  nDecodeBufIndex : Nat

/-- `decoding` from the start of a picture until it is sorted or flushed. -/
structure SlotSystem where
  hCtx : H264Context
  decoding : Bool
  allocations : List Allocation

/-- `refs` are the pictures in the reference lists, `pic` any picture. -/
inductive SlotOp
  | sps (nRefFrmCount : Int)
  | frameStart (frame : FrameInput)
  | mark (nPicStructure : PicStructure)
  | unreference (pic refmask : Nat)
  | sort (input : FinishInput)
  | dropB (nPoc bDecodeKeyFrameOnly : Int)
  | reclaim (pic : Nat)
  | flush
  | reset (refs : List Nat)

def SlotSystem.start (nMaxValidFrmBufNum nBufIndexOffset : Nat)
    (bYv12OutFlag bNv21OutFlag : Int) : SlotSystem :=
  ⟨(DisplaySystem.start nMaxValidFrmBufNum nBufIndexOffset bYv12OutFlag bNv21OutFlag).hCtx,
    false, []⟩

def H264FrameStart (vconfig : VConfig) (system : SlotSystem) (frame : FrameInput) : SlotSystem :=
  let hCtx := renumber system.hCtx
  match H264GetValidBufferIndex hCtx frame.nNalRefIdc with
  | none => { system with hCtx := hCtx }
  | some (i, taken) =>
    let allocations := system.allocations ++
      [⟨hCtx, system.decoding, i, (taken.picture i).nDecodeBufIndex⟩]
    let (given, enough) := requestBuffers vconfig taken i frame
    if enough = true then ⟨startPicture given i frame, true, allocations⟩
    else ⟨given, system.decoding, allocations⟩

def exec (vconfig : VConfig) (system : SlotSystem) : SlotOp → Option SlotSystem
  | .sps nRefFrmCount =>
    some { system with hCtx := { system.hCtx with nRefFrmCount := nRefFrmCount } }
  | .frameStart frame => some (H264FrameStart vconfig system frame)
  | .mark nPicStructure =>
    system.hCtx.pCurPicturePtr.map fun cur =>
      { system with
        hCtx := system.hCtx.setPicture cur fun pic =>
          { pic with nReference := (pic.nReference.toNat ||| nPicStructure.bits : Nat) } }
  | .unreference pic refmask =>
    some { system with hCtx := H264UnnReferencePic system.hCtx pic refmask }
  | .sort input =>
    system.hCtx.pCurPicturePtr.bind fun cur =>
      (H264SortDisplayFrameOrder vconfig (finishPicture system.hCtx cur input)
        input.bDecodeKeyFrameOnly).map fun hCtx =>
          { system with hCtx := hCtx, decoding := false }
  | .dropB nPoc bDecodeKeyFrameOnly =>
    system.hCtx.pCurPicturePtr.bind fun cur =>
      if (system.hCtx.picture cur).nReference ≠ 0 then none
      else
        let hCtx := system.hCtx.setPicture cur fun pic => { pic with nPoc := nPoc }
        (H264SortDisplayFrameOrder vconfig (dropPicture hCtx cur) bDecodeKeyFrameOnly).map
          fun hCtx => { system with hCtx := hCtx, decoding := false }
  | .reclaim pic => some { system with hCtx := reclaimPicture system.hCtx pic }
  | .flush =>
    (H264FlushDelayedPictures vconfig system.hCtx).map fun hCtx =>
      { system with hCtx := hCtx, decoding := false }
  | .reset refs =>
    (H264FlushDelayedPictures vconfig system.hCtx).map fun hCtx =>
      { system with hCtx := H264ResetDecoderParams hCtx refs, decoding := false }

/-- The entry is one of those in use and free: it is no reference, not delayed and not the one
that is being decoded; and no reference and no picture being decoded has its decode index. -/
structure AllocationRight (record : Allocation) : Prop where
  inUse : record.slot ∈ entries record.before ∧ record.slot < MAX_PICTURE_COUNT
  bare : bufferless (record.before.picture record.slot) = true
  noReference : unreferenced (record.before.picture record.slot) = true
  notDelayed : record.slot ∉ delayedSlots record.before
  notCurrent : record.decoding = true → record.before.pCurPicturePtr ≠ some record.slot
  small : record.nDecodeBufIndex < 18
  apart : ∀ other, other ≠ record.slot → (unreferenced (record.before.picture other) = false ∨
      record.decoding = true ∧ record.before.pCurPicturePtr = some other) →
    (record.before.picture other).nDecodeBufIndex ≠ record.nDecodeBufIndex

/-- Either the entries in use are among the first 18, or there are at least as many, from the
first one of the table on. -/
def Arranged (nMaxValidFrmBufNum nBufIndexOffset : Nat) : Prop :=
  (nMaxValidFrmBufNum < 18 ∧ nBufIndexOffset + nMaxValidFrmBufNum ≤ 18) ∨
    (18 ≤ nMaxValidFrmBufNum ∧ nMaxValidFrmBufNum ≤ MAX_PICTURE_COUNT ∧ nBufIndexOffset = 0)

def Low (hCtx : H264Context) (cur : Nat) : Prop := 18 ≤ hCtx.nMaxValidFrmBufNum → cur < 18
deriving Decidable

/-- With many entries no picture is started while one of the later entries is being decoded.
Marks, the display order and drops are for the picture being decoded, which has a buffer of its
own once it is a reference; with many entries it is an early one then, and none is dropped. Motion
vectors are taken from a picture that is neither delayed nor being decoded. -/
def SlotGuard (system : SlotSystem) : SlotOp → Prop
  | .frameStart _ =>
    0 ≤ system.hCtx.nRefFrmCount ∧
      (system.decoding = true → ∀ cur ∈ system.hCtx.pCurPicturePtr, Low system.hCtx cur)
  | .mark _ =>
    system.decoding = true ∧ ∀ cur ∈ system.hCtx.pCurPicturePtr,
      Low system.hCtx cur ∧ (system.hCtx.picture cur).pVPicture ≠ none
  | .sort input =>
    system.decoding = true ∧ (input.bDecodeKeyFrameOnly ≠ 1 →
      ∀ cur ∈ system.hCtx.pCurPicturePtr, unreferenced (system.hCtx.picture cur) = false →
        (system.hCtx.picture cur).pVPicture ≠ none)
  | .dropB _ _ => system.decoding = true ∧ system.hCtx.nMaxValidFrmBufNum < 18
  | .reclaim pic =>
    pic ∉ delayedSlots system.hCtx ∧
      (system.decoding = true → system.hCtx.pCurPicturePtr ≠ some pic)
  | _ => True

instance (system : SlotSystem) : ∀ op, Decidable (SlotGuard system op)
  | .frameStart _ => inferInstanceAs (Decidable (_ ∧ (_ → ∀ cur ∈ (_ : Option Nat), _)))
  | .mark _ => inferInstanceAs (Decidable (_ ∧ ∀ cur ∈ (_ : Option Nat), _))
  | .sort _ => inferInstanceAs (Decidable (_ ∧ (_ → ∀ cur ∈ (_ : Option Nat), _ → _)))
  | .dropB _ _ => inferInstanceAs (Decidable (_ ∧ _))
  | .reclaim _ => inferInstanceAs (Decidable (_ ∧ (_ → _)))
  | .sps _ | .unreference _ _ | .flush | .reset _ => isTrue trivial

end CedarC.H264SlotAllocation
