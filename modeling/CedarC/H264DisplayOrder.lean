import CedarC.FixedWidth
import Mathlib

/-!
# Display order of the H264 decoder

`H264SortDisplayFrameOrder` of `h264_dec.c` and `H264FlushDelayedPictures` of
`h264.c`. A picture is its index in `frmBufInf.picture`, a `VideoPicture*` a
number. The calls into the frame buffer manager are kept in order; the motion
vector buffers of the pictures are left out. `none` is an `abort()` or an
access through NULL or outside a table.
-/

namespace CedarC.H264DisplayOrder

open FixedWidth

def MAX_PICTURE_COUNT : Nat := 32

structure H264PicInfo where
  nPoc : Int
  nReference : Int
  bKeyFrame : Int
  nDecodeBufIndex : Nat
  nDispBufIndex : Nat
  nDecFrameOrder : Int
  pVPicture : Option Nat
  pScaleDownVPicture : Option Nat
  bHasDispedFlag : Int
  bDecErrorFlag : Int
  bDropBFrame : Int
deriving DecidableEq

structure VConfig where
  bRotationEn : Int
  bScaleDownEn : Int
  bDispErrorFrame : Int
  bIs3DStream : Int
deriving DecidableEq

/-- The two pools of frame buffers. -/
inductive Fbm
  | pFbm
  | pFbmScaledown
deriving DecidableEq

inductive FbmCall
  | FbmReturnBuffer (pool : Fbm) (pVPicture : Option Nat) (bValidFlag : Int)
  | FbmShareBuffer (pool : Fbm) (pVPicture : Nat)
deriving DecidableEq

structure H264Context where
  picture : Nat → H264PicInfo
  pDelayedPic : Nat → Option Nat
  pDelayedOutPutPic : Option Nat
  pCurPicturePtr : Option Nat
  nMaxValidFrmBufNum : Nat
  nBufIndexOffset : Nat
  nDelayedPicNum : Nat
  nMinDispPoc : Int
  nPicPocDeltaNum : Int
  nCurFrmNum : Int
  nRefFrmCount : Int
  bYv12OutFlag : Int
  bNv21OutFlag : Int
  fbmCalls : List FbmCall

def H264Context.setPicture (hCtx : H264Context) (index : Nat)
    (change : H264PicInfo → H264PicInfo) : H264Context :=
  { hCtx with picture := Function.update hCtx.picture index (change (hCtx.picture index)) }

def H264Context.call (hCtx : H264Context) (fbmCall : FbmCall) : H264Context :=
  { hCtx with fbmCalls := hCtx.fbmCalls ++ [fbmCall] }

/-- The pictures are shown from the buffers of the second pool. -/
def scaledOutput (vconfig : VConfig) (hCtx : H264Context) : Bool :=
  decide (vconfig.bRotationEn = 1 ∨ vconfig.bScaleDownEn = 1 ∨ hCtx.bYv12OutFlag = 1 ∨
    hCtx.bNv21OutFlag = 1)

def unreferenced (pic : H264PicInfo) : Bool := decide (pic.nReference = 0 ∨ pic.nReference = 4)

def dispFrameFlag (vconfig : VConfig) (pic : H264PicInfo) : Int :=
  if vconfig.bDispErrorFrame = 1 then 1
  else if vconfig.bIs3DStream = 0 then (if pic.bDecErrorFlag = 0 then 1 else 0)
  else 1

/-- With `bDecodeKeyFrameOnly` the picture is shown at once. -/
def showKeyFrame (vconfig : VConfig) (hCtx : H264Context) (curPicInf : Nat) : Option H264Context :=
  let cur := hCtx.picture curPicInf
  if scaledOutput vconfig hCtx = true then
    let hCtx := hCtx.call (.FbmReturnBuffer .pFbmScaledown cur.pScaleDownVPicture 1)
    let hCtx := hCtx.setPicture curPicInf fun pic => { pic with pScaleDownVPicture := none }
    if MAX_PICTURE_COUNT ≤ cur.nDispBufIndex then none
    else
      let hCtx := hCtx.setPicture cur.nDispBufIndex fun pic =>
        { pic with pScaleDownVPicture := none }
      some (hCtx.setPicture curPicInf fun pic => { pic with nReference := 0 })
  else
    let hCtx := hCtx.call (.FbmReturnBuffer .pFbm cur.pVPicture 1)
    let hCtx := hCtx.setPicture curPicInf fun pic => { pic with pVPicture := none }
    if MAX_PICTURE_COUNT ≤ cur.nDispBufIndex then none
    else
      let hCtx := hCtx.setPicture cur.nDispBufIndex fun pic => { pic with pVPicture := none }
      some (hCtx.setPicture curPicInf fun pic => { pic with nReference := 0 })

/-- A picture that was decoded into another slot than its own gives that slot back. -/
def freeDecodeSlot (hCtx : H264Context) (curPicInf : Nat) : Option H264Context :=
  let cur := hCtx.picture curPicInf
  if cur.nDecodeBufIndex ≠ cur.nDispBufIndex then
    if MAX_PICTURE_COUNT ≤ cur.nDecodeBufIndex then none
    else
      some (hCtx.setPicture cur.nDecodeBufIndex fun pic =>
        { pic with pVPicture := none, pScaleDownVPicture := none, nReference := 0 })
  else some hCtx

def delayPicture (hCtx : H264Context) (curPicInf : Nat) : Option H264Context :=
  let nDelayedPicNum := hCtx.nDelayedPicNum
  if MAX_PICTURE_COUNT ≤ nDelayedPicNum then none
  else if MAX_PICTURE_COUNT ≤ nDelayedPicNum + 1 then none
  else
    some { hCtx with
      pDelayedPic := Function.update
        (Function.update hCtx.pDelayedPic nDelayedPicNum (some curPicInf))
        (nDelayedPicNum + 1) none
      nDelayedPicNum := nDelayedPicNum + 1
      pCurPicturePtr := none }

structure Search where
  minPoc : Int
  anciDelayedBufIndex : Nat
  outPicInf : Option (Nat × Nat)
  nonRefFrameNum : Int
  refFrameNum : Int
  findDispFlag : Bool
deriving DecidableEq

def Search.start : Search := ⟨0x7fffffff, 0xff, none, 0, 0, false⟩

/-- One turn of the search; `outPicInf` goes with its `delayedBufIndex`. -/
def searchStep (hCtx : H264Context) (search : Search) (i : Nat) : Option Search :=
  match hCtx.pDelayedPic i with
  | none => none
  | some delayed =>
    let pic := hCtx.picture delayed
    let search :=
      if unreferenced pic = true then
        { search with nonRefFrameNum := search.nonRefFrameNum + 1 }
      else { search with refFrameNum := search.refFrameNum + 1 }
    if pic.nPoc < search.minPoc then
      let search := { search with minPoc := pic.nPoc, anciDelayedBufIndex := i }
      if search.findDispFlag = true then some search
      else if pic.nPoc ≤ hCtx.nMinDispPoc ∧ i ≠ 0 then
        some { search with findDispFlag := true }
      else some { search with outPicInf := some (delayed, i) }
    else some search

def searchDelayed (hCtx : H264Context) : Nat → Option Search
  | 0 => some Search.start
  | count + 1 => (searchDelayed hCtx count).bind fun search => searchStep hCtx search count

/-- What is done about the picture that was found. -/
inductive Choice
  | wait (nMinDispPoc : Int)
  | output (outPicInf delayedBufIndex : Nat)
  | nothing
deriving DecidableEq

def chooseNext (hCtx : H264Context) (search : Search) (outPicInf delayedBufIndex : Nat) :
    Option Choice :=
  let pic := hCtx.picture outPicInf
  if pic.nPoc = 0 ∧ search.minPoc < 0 ∧ MAX_PICTURE_COUNT ≤ search.anciDelayedBufIndex then none
  else
    let instead :=
      if pic.nPoc = 0 ∧ search.minPoc < 0 then
        (hCtx.pDelayedPic search.anciDelayedBufIndex).map fun other =>
          (other, search.anciDelayedBufIndex)
      else some (outPicInf, delayedBufIndex)
    match instead with
    | none => none
    | some (outPicInf, delayedBufIndex) =>
      let out := hCtx.picture outPicInf
      let distance := s32 (out.nPoc - hCtx.nMinDispPoc)
      let flag2 := decide (out.nPoc = 0)
      let flag3 := decide (distance = hCtx.nPicPocDeltaNum)
      let early := !flag2 && !flag3 && decide (search.nonRefFrameNum = 0)
      if early = true ∧ (distance < 0 ∨ 32 < distance) then
        some (.wait (s32 (out.nPoc - hCtx.nPicPocDeltaNum)))
      else if early = true ∧
          (out.pScaleDownVPicture ≠ none ∨ search.refFrameNum ≤ hCtx.nRefFrmCount) then
        some (.wait hCtx.nMinDispPoc)
      else if flag3 = true ∧ hCtx.nCurFrmNum = 2 ∧ hCtx.nPicPocDeltaNum = 2 ∧
          1 < hCtx.nRefFrmCount ∧ out.bDropBFrame ≠ 1 then
        some (.wait hCtx.nMinDispPoc)
      else some (.output outPicInf delayedBufIndex)

def chooseOutput (hCtx : H264Context) (search : Search) : Option Choice :=
  match hCtx.pDelayedOutPutPic, search.outPicInf with
  | none, none => some .nothing
  | none, some (outPicInf, delayedBufIndex) => some (.output outPicInf delayedBufIndex)
  | some _, none => none
  | some _, some (outPicInf, delayedBufIndex) => chooseNext hCtx search outPicInf delayedBufIndex

/-- The picture is shown from the second pool; its own buffer goes back when no
picture refers to it. -/
def showScaled (hCtx : H264Context) (outPicInf : Nat) (bDispFrameFlag : Int) : Option H264Context :=
  let out := hCtx.picture outPicInf
  let hCtx := hCtx.call (.FbmReturnBuffer .pFbmScaledown out.pScaleDownVPicture bDispFrameFlag)
  if MAX_PICTURE_COUNT ≤ out.nDispBufIndex then none
  else
    let hCtx := hCtx.setPicture out.nDispBufIndex fun pic => { pic with pScaleDownVPicture := none }
    let hCtx := hCtx.setPicture outPicInf fun pic => { pic with pScaleDownVPicture := none }
    if unreferenced out = true ∧ (hCtx.picture outPicInf).pVPicture ≠ none then
      let hCtx := hCtx.call (.FbmReturnBuffer .pFbm (hCtx.picture outPicInf).pVPicture 0)
      let hCtx := hCtx.setPicture out.nDispBufIndex fun pic => { pic with pVPicture := none }
      some (hCtx.setPicture outPicInf fun pic => { pic with pVPicture := none, nReference := 0 })
    else some hCtx

/-- The picture is shown from its own buffer, which is shared while it is a reference. -/
def showUnscaled (hCtx : H264Context) (outPicInf : Nat) (bDispFrameFlag : Int) :
    Option H264Context :=
  let out := hCtx.picture outPicInf
  if unreferenced out = true then
    let hCtx :=
      if out.pVPicture ≠ none then
        hCtx.call (.FbmReturnBuffer .pFbm out.pVPicture bDispFrameFlag)
      else hCtx
    if MAX_PICTURE_COUNT ≤ out.nDispBufIndex then none
    else
      let hCtx := hCtx.setPicture out.nDispBufIndex fun pic => { pic with pVPicture := none }
      some (hCtx.setPicture outPicInf fun pic =>
        { pic with pVPicture := none, nReference := 0, bHasDispedFlag := 0 })
  else if bDispFrameFlag = 1 then
    match out.pVPicture with
    | some pVPicture => some (hCtx.call (.FbmShareBuffer .pFbm pVPicture))
    | none => some hCtx
  else some hCtx

def showPicture (vconfig : VConfig) (hCtx : H264Context) (outPicInf : Nat) : Option H264Context :=
  let hCtx := hCtx.setPicture outPicInf fun pic => { pic with bHasDispedFlag := 1 }
  let bDispFrameFlag := dispFrameFlag vconfig (hCtx.picture outPicInf)
  if scaledOutput vconfig hCtx = true then showScaled hCtx outPicInf bDispFrameFlag
  else showUnscaled hCtx outPicInf bDispFrameFlag

/-- The entries from an index on move down over it, `count` at most. -/
def moveDelayed (pDelayedPic : Nat → Option Nat) (i : Nat) : Nat → Option (Nat → Option Nat)
  | 0 => some pDelayedPic
  | count + 1 =>
    if MAX_PICTURE_COUNT ≤ i + 1 then none
    else moveDelayed (Function.update pDelayedPic i (pDelayedPic (i + 1))) (i + 1) count

def removeDelayed (hCtx : H264Context) (outPicInf delayedBufIndex : Nat) : Option H264Context :=
  (moveDelayed hCtx.pDelayedPic delayedBufIndex (hCtx.nDelayedPicNum - delayedBufIndex)).map
    fun pDelayedPic =>
      let i := max delayedBufIndex hCtx.nDelayedPicNum
      let pDelayedPic :=
        if i < MAX_PICTURE_COUNT then Function.update pDelayedPic i none else pDelayedPic
      let hCtx := { hCtx with
        pDelayedPic := pDelayedPic
        nMinDispPoc := (hCtx.picture outPicInf).nPoc
        nDelayedPicNum := hCtx.nDelayedPicNum - 1
        pDelayedOutPutPic := some outPicInf }
      if (hCtx.picture outPicInf).bDropBFrame = 1 then
        hCtx.setPicture outPicInf fun pic => { pic with bDropBFrame := 0 }
      else hCtx

def H264SortDisplayFrameOrder (vconfig : VConfig) (hCtx : H264Context)
    (bDecodeKeyFrameOnly : Int) : Option H264Context :=
  match hCtx.pCurPicturePtr with
  | none => none
  | some curPicInf =>
    if bDecodeKeyFrameOnly = 1 then showKeyFrame vconfig hCtx curPicInf
    else
      (freeDecodeSlot hCtx curPicInf).bind fun hCtx =>
      (delayPicture hCtx curPicInf).bind fun hCtx =>
      (searchDelayed hCtx hCtx.nDelayedPicNum).bind fun search =>
      (chooseOutput hCtx search).bind fun choice =>
        match choice with
        | .wait nMinDispPoc => some { hCtx with nMinDispPoc := nMinDispPoc }
        | .nothing => some hCtx
        | .output outPicInf delayedBufIndex =>
          (showPicture vconfig hCtx outPicInf).bind fun hCtx =>
            removeDelayed hCtx outPicInf delayedBufIndex

def bufferless (pic : H264PicInfo) : Bool :=
  decide (pic.pVPicture = none ∧ pic.pScaleDownVPicture = none)

/-- The search of the flush from index `i` on, over the entries left in the
table: pictures without buffers are struck out. -/
def flushSearch (picture : Nat → H264PicInfo) :
    Nat → (Nat → Option Nat) → Nat → Nat × Nat → Option ((Nat → Option Nat) × (Nat × Nat))
  | 0, _, _, _ => none
  | left + 1, pDelayedPic, i, (outPicPtr, outIdx) =>
    match pDelayedPic i with
    | none => some (pDelayedPic, (outPicPtr, outIdx))
    | some delayed =>
      let pic := picture delayed
      if pic.bKeyFrame ≠ 0 then some (pDelayedPic, (outPicPtr, outIdx))
      else if bufferless pic = true then
        flushSearch picture left (Function.update pDelayedPic i none) (i + 1)
          (outPicPtr, outIdx)
      else if pic.nPoc < (picture outPicPtr).nPoc then
        flushSearch picture left pDelayedPic (i + 1) (delayed, i)
      else flushSearch picture left pDelayedPic (i + 1) (outPicPtr, outIdx)

/-- The entries from an index on move down, up to the first NULL. -/
def closeDelayed : Nat → (Nat → Option Nat) → Nat → Option (Nat → Option Nat)
  | 0, _, _ => none
  | left + 1, pDelayedPic, i =>
    match pDelayedPic i with
    | none => some pDelayedPic
    | some _ =>
      if MAX_PICTURE_COUNT ≤ i + 1 then none
      else closeDelayed left (Function.update pDelayedPic i (pDelayedPic (i + 1))) (i + 1)

def flushPicture (vconfig : VConfig) (hCtx : H264Context) (outPicPtr : Nat) : Option H264Context :=
  let out := hCtx.picture outPicPtr
  let bDispFrameFlag := dispFrameFlag vconfig out
  if out.pScaleDownVPicture ≠ none then
    let hCtx := hCtx.call (.FbmReturnBuffer .pFbmScaledown out.pScaleDownVPicture bDispFrameFlag)
    let hCtx := hCtx.setPicture outPicPtr fun pic => { pic with pScaleDownVPicture := none }
    if MAX_PICTURE_COUNT ≤ out.nDispBufIndex then none
    else some (hCtx.setPicture out.nDispBufIndex fun pic => { pic with pScaleDownVPicture := none })
  else if out.pVPicture ≠ none then
    let hCtx := hCtx.call (.FbmReturnBuffer .pFbm out.pVPicture bDispFrameFlag)
    if MAX_PICTURE_COUNT ≤ out.nDispBufIndex then none
    else
      let hCtx := hCtx.setPicture out.nDispBufIndex fun pic => { pic with pVPicture := none }
      some (hCtx.setPicture outPicPtr fun pic => { pic with pVPicture := none })
  else some hCtx

/-- The turns of `while(1)`, one for each picture at the front of the table. -/
def flushLoop (vconfig : VConfig) : Nat → H264Context → Option H264Context
  | 0, _ => none
  | turns + 1, hCtx =>
    match hCtx.pDelayedPic 0 with
    | none => some hCtx
    | some first =>
      (flushSearch hCtx.picture (MAX_PICTURE_COUNT - 1) hCtx.pDelayedPic 1 (first, 0)).bind
        fun (pDelayedPic, (outPicPtr, outIdx)) =>
      (closeDelayed (MAX_PICTURE_COUNT - outIdx) pDelayedPic outIdx).bind fun pDelayedPic =>
      (flushPicture vconfig { hCtx with pDelayedPic := pDelayedPic } outPicPtr).bind
        (flushLoop vconfig turns)

/-- The buffers that a slot still has go back without being shown. -/
def sweepPicture (hCtx : H264Context) (i : Nat) : Option H264Context :=
  if MAX_PICTURE_COUNT ≤ i then none
  else
    let pic := hCtx.picture i
    let hCtx :=
      if pic.pVPicture ≠ none then hCtx.call (.FbmReturnBuffer .pFbm pic.pVPicture 0) else hCtx
    let hCtx :=
      if pic.pScaleDownVPicture ≠ none then
        hCtx.call (.FbmReturnBuffer .pFbmScaledown pic.pScaleDownVPicture 0)
      else hCtx
    some (hCtx.setPicture i fun pic =>
      { pic with
        pVPicture := none, pScaleDownVPicture := none, nReference := 0, nDecFrameOrder := 0 })

def sweepPictures (hCtx : H264Context) : Nat → Option H264Context
  | 0 => some hCtx
  | count + 1 =>
    (sweepPictures hCtx count).bind fun next => sweepPicture next (hCtx.nBufIndexOffset + count)

/-- Each turn of the loop takes an entry out of the table, so that one more than
the table has ends it. -/
def H264FlushDelayedPictures (vconfig : VConfig) (hCtx : H264Context) : Option H264Context :=
  (flushLoop vconfig (MAX_PICTURE_COUNT + 1) hCtx).bind fun hCtx =>
    sweepPictures { hCtx with pDelayedPic := fun _ => none, nDelayedPicNum := 0 }
      hCtx.nMaxValidFrmBufNum

end CedarC.H264DisplayOrder
