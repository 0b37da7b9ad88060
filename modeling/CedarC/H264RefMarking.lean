import CedarC.FixedWidth
import CedarC.SlotTables

/-!
# Reference marking of the H264 decoder

The reference lists of `H264Context` and the functions of `h264_mmco.c` that
edit them. A picture is its index in `frmBufInf.picture`; giving its buffer back
clears `pVPicture`. The motion vector buffers of the pictures are left out.
`none` is an `abort()` or an access through NULL or outside a table.
-/

namespace CedarC.H264RefMarking

open FixedWidth SlotTables Function

def MAX_PICTURE_COUNT : Nat := 32
def MAX_MMCO_COUNT : Nat := 66
def DELAYED_PIC_REF : Nat := 4

abbrev Pic := Fin MAX_PICTURE_COUNT

inductive PicStructure
  | PICT_TOP_FIELD
  | PICT_BOTTOM_FIELD
  | PICT_FRAME
deriving DecidableEq

def PicStructure.bits : PicStructure → Nat
  | .PICT_TOP_FIELD => 1
  | .PICT_BOTTOM_FIELD => 2
  | .PICT_FRAME => 3

/-- Any operation code above `MMCO_LONG` is `unknown`. -/
inductive H264MmcoInfo
  | MMCO_SHORT_TO_UNUSED (nShortPicNum : Int)
  | MMCO_LONG_TO_UNUSED (bLongArg : Nat)
  | MMCO_SHORT_TO_LONG (nShortPicNum : Int) (bLongArg : Nat)
  | MMCO_SET_MAX_LONG (bLongArg : Nat)
  | MMCO_RESET
  | MMCO_LONG (bLongArg : Nat)
  | unknown
deriving DecidableEq

structure H264PicInfo where
  nFrmNum : Int
  bLongRef : Bool
  nReference : Nat
  pVPicture : Bool
  pScaleDownVPicture : Bool
  bHasDispedFlag : Bool

/-- `mmco` holds the first `nMmcoIndex` commands, `pDelayedPic` the pictures
before the first NULL. -/
structure H264Context where
  picture : Pic → H264PicInfo
  pLongRef : Nat → Option Pic
  pShortRef : Nat → Option Pic
  pDelayedPic : List Pic
  pDelayedOutPutPic : Option Pic
  pCurPicturePtr : Option Pic
  nPicStructure : PicStructure
  bFstField : Bool
  bIdrFrmFlag : Bool
  nLongRefCount : Int
  nShortRefCount : Nat
  nCurPicNum : UInt32
  nMaxPicNum : UInt32
  nRefFrmCount : Int
  mmco : List H264MmcoInfo

def H264Context.init : H264Context :=
  { picture := fun _ => ⟨0, false, 0, false, false, false⟩
    pLongRef := fun _ => none
    pShortRef := fun _ => none
    pDelayedPic := []
    pDelayedOutPutPic := none
    pCurPicturePtr := none
    nPicStructure := .PICT_FRAME
    bFstField := false
    bIdrFrmFlag := false
    nLongRefCount := 0
    nShortRefCount := 0
    nCurPicNum := 0
    nMaxPicNum := 0
    nRefFrmCount := 0
    mmco := [] }

def H264Context.setPicture (hCtx : H264Context) (pic : Pic) (info : H264PicInfo) : H264Context :=
  { hCtx with picture := update hCtx.picture pic info }

def H264Context.setReference (hCtx : H264Context) (pic : Pic) (nReference : Nat) : H264Context :=
  hCtx.setPicture pic { hCtx.picture pic with nReference := nReference }

def H264Context.isField (hCtx : H264Context) : Bool := decide (hCtx.nPicStructure ≠ .PICT_FRAME)

/-- The number and the structure that a picture number names. -/
def H264PicNumExtract (hCtx : H264Context) (picNum : Int) : Int × Nat :=
  let structure_ := hCtx.nPicStructure.bits
  if hCtx.isField then
    (picNum / 2, if picNum % 2 = 0 then structure_ ^^^ 3 else structure_)
  else (picNum, structure_)

/-- Gives back the buffer of a picture that is neither a reference nor waits for
display. -/
def returnBuffer (hCtx : H264Context) (pic : Pic) : H264Context :=
  let info := hCtx.picture pic
  if (info.nReference = 0 ∨ info.nReference = DELAYED_PIC_REF) ∧ info.pVPicture ∧
      (info.bHasDispedFlag ∨ info.pScaleDownVPicture) then
    hCtx.setPicture pic { info with pVPicture := false, bHasDispedFlag := false, nReference := 0 }
  else hCtx

def markDelayed (hCtx : H264Context) (pic : Pic) : H264Context :=
  if hCtx.pDelayedOutPutPic = some pic ∨ pic ∈ hCtx.pDelayedPic then
    hCtx.setReference pic DELAYED_PIC_REF
  else hCtx

def H264UnnReferencePic (hCtx : H264Context) (pic : Pic) (refmask : Nat) : H264Context × Bool :=
  let nReference := (hCtx.picture pic).nReference &&& refmask
  let hCtx := hCtx.setReference pic nReference
  if nReference ≠ 0 then (returnBuffer hCtx pic, false)
  else (returnBuffer (markDelayed hCtx pic) pic, true)

def findShortFrom (hCtx : H264Context) (frameNum : Int) : Nat → Nat → Option (Option (Pic × Nat))
  | 0, _ => some none
  | left + 1, i =>
    if MAX_PICTURE_COUNT ≤ i then findShortFrom hCtx frameNum left (i + 1)
    else
      (hCtx.pShortRef i).bind fun pic =>
        if (hCtx.picture pic).nFrmNum = frameNum then some (some (pic, i))
        else findShortFrom hCtx frameNum left (i + 1)

def H264FindShort (hCtx : H264Context) (frameNum : Int) : Option (Option (Pic × Nat)) :=
  findShortFrom hCtx frameNum hCtx.nShortRefCount 0

def H264RemoveShort_at_index (hCtx : H264Context) (i : Nat) : Option H264Context :=
  if MAX_PICTURE_COUNT ≤ i then none
  else
    let cleared := update hCtx.pShortRef i none
    match hCtx.nShortRefCount with
    | 0 => none
    | 1 => some { hCtx with pShortRef := cleared, nShortRefCount := 0 }
    | count + 1 =>
      if MAX_PICTURE_COUNT ≤ i + 1 then none
      else some { hCtx with pShortRef := moveDown i count cleared, nShortRefCount := count }

def H264RemoveShort (hCtx : H264Context) (frameNum : Int) : Option (H264Context × Option Pic) :=
  (H264FindShort hCtx frameNum).bind fun
    | none => some (hCtx, none)
    | some (pic, i) => (H264RemoveShort_at_index hCtx i).map fun hCtx => (hCtx, some pic)

def H264RemoveLong_at_index (hCtx : H264Context) (i : Nat) : Option H264Context :=
  if MAX_PICTURE_COUNT ≤ i then none
  else
    some { hCtx with
      pLongRef := update hCtx.pLongRef i none
      nLongRefCount := hCtx.nLongRefCount - 1 }

def H264RemoveLong (hCtx : H264Context) (i : Nat) : Option (H264Context × Option Pic) :=
  if MAX_PICTURE_COUNT ≤ i then none
  else
    match hCtx.pLongRef i with
    | none => some (hCtx, none)
    | some pic => (H264RemoveLong_at_index hCtx i).map fun hCtx => (hCtx, some pic)

/-- `H264UnnReferencePic` on a picture that may be NULL, with an empty mask. -/
def unreference (hCtx : H264Context) : Option Pic → H264Context
  | none => hCtx
  | some pic => (H264UnnReferencePic hCtx pic 0).1

def dropShort (hCtx : H264Context) (frameNum : Int) : Option H264Context :=
  (H264RemoveShort hCtx frameNum).map fun (hCtx, pic) => unreference hCtx pic

def dropLong (hCtx : H264Context) (i : Nat) : Option H264Context :=
  (H264RemoveLong hCtx i).map fun (hCtx, pic) => unreference hCtx pic

/-- The `ue` values that follow the flags, by their position. -/
abbrev UeValues := Nat → UInt32

structure MarkingSyntax where
  longTermReferenceFlag : Bool
  adaptiveFlag : Bool
  values : UeValues

def shortPicNum (hCtx : H264Context) (difference : UInt32) : Int :=
  s32 ((hCtx.nCurPicNum - difference - 1) &&& (hCtx.nMaxPicNum - 1)).toNat

def longArg (hCtx : H264Context) (toUnused : Bool) (bLongArg : UInt32) : Option Nat :=
  if bLongArg.toNat > 32 ∨ (16 ≤ bLongArg.toNat ∧ ¬ (toUnused ∧ hCtx.isField)) then none
  else some bLongArg.toNat

/-- The commands from a position on, up to `MMCO_END`. -/
def decodeMmcos (hCtx : H264Context) (values : UeValues) : Nat → Nat → Option (List H264MmcoInfo)
  | 0, _ => some []
  | left + 1, pos =>
    match (values pos).toNat with
    | 0 => some []
    | 1 =>
      (decodeMmcos hCtx values left (pos + 2)).map fun rest =>
        .MMCO_SHORT_TO_UNUSED (shortPicNum hCtx (values (pos + 1))) :: rest
    | 2 =>
      (longArg hCtx true (values (pos + 1))).bind fun bLongArg =>
        (decodeMmcos hCtx values left (pos + 2)).map fun rest =>
          .MMCO_LONG_TO_UNUSED bLongArg :: rest
    | 3 =>
      (longArg hCtx false (values (pos + 2))).bind fun bLongArg =>
        (decodeMmcos hCtx values left (pos + 3)).map fun rest =>
          .MMCO_SHORT_TO_LONG (shortPicNum hCtx (values (pos + 1))) bLongArg :: rest
    | 4 =>
      (longArg hCtx false (values (pos + 1))).bind fun bLongArg =>
        (decodeMmcos hCtx values left (pos + 2)).map fun rest =>
          .MMCO_SET_MAX_LONG bLongArg :: rest
    | 5 => (decodeMmcos hCtx values left (pos + 1)).map fun rest => .MMCO_RESET :: rest
    | 6 =>
      (longArg hCtx false (values (pos + 1))).bind fun bLongArg =>
        (decodeMmcos hCtx values left (pos + 2)).map fun rest => .MMCO_LONG bLongArg :: rest
    | _ => (decodeMmcos hCtx values left (pos + 1)).map fun rest => .unknown :: rest

def slidingWindow (hCtx : H264Context) : Option (List H264MmcoInfo) :=
  if hCtx.nShortRefCount ≠ 0 ∧
      hCtx.nLongRefCount + hCtx.nShortRefCount = hCtx.nRefFrmCount then
    hCtx.pCurPicturePtr.bind fun cur =>
      if hCtx.isField ∧ ¬ hCtx.bFstField ∧ (hCtx.picture cur).nReference ≠ 0 then some []
      else if MAX_PICTURE_COUNT ≤ hCtx.nShortRefCount - 1 then none
      else
        (hCtx.pShortRef (hCtx.nShortRefCount - 1)).map fun pic =>
          let nFrmNum := (hCtx.picture pic).nFrmNum
          if hCtx.isField then
            [.MMCO_SHORT_TO_UNUSED (s32 (nFrmNum * 2)),
              .MMCO_SHORT_TO_UNUSED (s32 (s32 (nFrmNum * 2) + 1))]
          else [.MMCO_SHORT_TO_UNUSED nFrmNum]
  else some []

def H264DecodeRefPicMarking (hCtx : H264Context) (coded : MarkingSyntax) : Option H264Context :=
  if hCtx.bIdrFrmFlag then
    some { hCtx with mmco := if coded.longTermReferenceFlag then [.MMCO_LONG 0] else [] }
  else if coded.adaptiveFlag then
    some { hCtx with mmco := (decodeMmcos hCtx coded.values MAX_MMCO_COUNT 0).getD [] }
  else (slidingWindow hCtx).map fun mmco => { hCtx with mmco := mmco }

def shortToUnused (hCtx : H264Context) (nShortPicNum : Int) : Option H264Context :=
  let (frameNum, structure_) := H264PicNumExtract hCtx nShortPicNum
  (H264FindShort hCtx frameNum).bind fun
    | none => some hCtx
    | some (pic, j) =>
      let (hCtx, unused) := H264UnnReferencePic hCtx pic (structure_ ^^^ 3)
      if unused then H264RemoveShort_at_index hCtx j else some hCtx

def alreadyMoved (hCtx : H264Context) (nShortPicNum : Int) (bLongArg : Nat) : Bool :=
  (hCtx.pLongRef bLongArg).any fun pic =>
    hCtx.isField && decide ((bLongArg : Int) < hCtx.nLongRefCount) &&
      decide ((hCtx.picture pic).nFrmNum = nShortPicNum / 2)

def shortToLong (hCtx : H264Context) (nShortPicNum : Int) (bLongArg : Nat) : Option H264Context :=
  if MAX_PICTURE_COUNT ≤ bLongArg then none
  else if alreadyMoved hCtx nShortPicNum bLongArg then some hCtx
  else
    let frameNum := if hCtx.isField then nShortPicNum / 2 else nShortPicNum
    (dropLong hCtx bLongArg).bind fun hCtx =>
      (H264RemoveShort hCtx frameNum).map fun
        | (hCtx, none) => { hCtx with pLongRef := update hCtx.pLongRef bLongArg none }
        | (hCtx, some pic) =>
          { hCtx.setPicture pic { hCtx.picture pic with bLongRef := true } with
            pLongRef := update hCtx.pLongRef bLongArg (some pic)
            nLongRefCount := hCtx.nLongRefCount + 1 }

def longToUnused (hCtx : H264Context) (bLongArg : Nat) : Option H264Context :=
  let (j, structure_) := H264PicNumExtract hCtx bLongArg
  if MAX_PICTURE_COUNT ≤ j.toNat then none
  else
    match hCtx.pLongRef j.toNat with
    | none => some hCtx
    | some pic =>
      let (hCtx, unused) := H264UnnReferencePic hCtx pic (structure_ ^^^ 3)
      if unused then H264RemoveLong_at_index hCtx j.toNat else some hCtx

/-- `unRefPic` in the source: the current picture takes the slot over, unless it
is a second field whose first field is a reference. -/
def takesSlot (hCtx : H264Context) (cur : Pic) (bLongArg : Nat) : Bool :=
  !(hCtx.isField && !hCtx.bFstField &&
    (decide (hCtx.pLongRef bLongArg = some cur) || decide ((hCtx.picture cur).nReference ≠ 0)))

def putLong (hCtx : H264Context) (cur : Pic) (bLongArg : Nat) : Option H264Context :=
  (dropLong hCtx bLongArg).map fun hCtx =>
    { hCtx.setPicture cur { hCtx.picture cur with bLongRef := true } with
      pLongRef := update hCtx.pLongRef bLongArg (some cur)
      nLongRefCount := hCtx.nLongRefCount + 1 }

def addStructure (hCtx : H264Context) (cur : Pic) : H264Context :=
  hCtx.setReference cur ((hCtx.picture cur).nReference ||| hCtx.nPicStructure.bits)

def long (hCtx : H264Context) (bLongArg : Nat) : Option H264Context :=
  if MAX_PICTURE_COUNT ≤ bLongArg then none
  else
    hCtx.pCurPicturePtr.bind fun cur =>
      (if takesSlot hCtx cur bLongArg then putLong hCtx cur bLongArg else some hCtx).map
        fun hCtx => addStructure hCtx cur

/-- The `while` loop over the short list; without a NULL entry every round takes
one entry out. -/
def resetShort : Nat → H264Context → Option H264Context
  | 0, hCtx => if hCtx.nShortRefCount = 0 then some hCtx else none
  | left + 1, hCtx =>
    if hCtx.nShortRefCount = 0 then some hCtx
    else
      (hCtx.pShortRef 0).bind fun pic =>
        (dropShort hCtx (hCtx.picture pic).nFrmNum).bind fun hCtx => resetShort left hCtx

/-- `H264RemoveLong` and `H264UnnReferencePic` on the slots from `first` to 15. -/
def dropLongFrom (hCtx : H264Context) (first : Nat) : Option H264Context :=
  (List.range' first (16 - first)).foldlM dropLong hCtx

/-- One round of the command loop; the flag is `currentRefAssigned`. -/
def executeMmco (hCtx : H264Context) (currentRefAssigned : Bool) :
    H264MmcoInfo → Option (H264Context × Bool)
  | .MMCO_SHORT_TO_UNUSED nShortPicNum =>
    (shortToUnused hCtx nShortPicNum).map fun hCtx => (hCtx, currentRefAssigned)
  | .MMCO_LONG_TO_UNUSED bLongArg =>
    (longToUnused hCtx bLongArg).map fun hCtx => (hCtx, currentRefAssigned)
  | .MMCO_SHORT_TO_LONG nShortPicNum bLongArg =>
    (shortToLong hCtx nShortPicNum bLongArg).map fun hCtx => (hCtx, currentRefAssigned)
  | .MMCO_SET_MAX_LONG bLongArg =>
    (dropLongFrom hCtx bLongArg).map fun hCtx => (hCtx, currentRefAssigned)
  | .MMCO_RESET =>
    (resetShort hCtx.nShortRefCount hCtx).bind fun hCtx =>
      (dropLongFrom hCtx 0).map fun hCtx => (hCtx, currentRefAssigned)
  | .MMCO_LONG bLongArg => (long hCtx bLongArg).map fun hCtx => (hCtx, true)
  | .unknown => some (hCtx, currentRefAssigned)

def continuesReference (hCtx : H264Context) (cur : Pic) : Bool :=
  hCtx.isField && !hCtx.bFstField && decide ((hCtx.picture cur).nReference ≠ 0)

def insertShort (hCtx : H264Context) (cur : Pic) : Option H264Context :=
  (dropShort hCtx (hCtx.picture cur).nFrmNum).bind fun hCtx =>
    if MAX_PICTURE_COUNT ≤ hCtx.nShortRefCount then none
    else
      let hCtx := { hCtx.setPicture cur { hCtx.picture cur with bLongRef := false } with
        pShortRef := update (moveUp hCtx.nShortRefCount hCtx.pShortRef) 0 (some cur)
        nShortRefCount := hCtx.nShortRefCount + 1 }
      some (addStructure hCtx cur)

/-- Discards one picture when the lists hold too many. -/
def dropSurplus (hCtx : H264Context) : Option H264Context :=
  if hCtx.nRefFrmCount < hCtx.nLongRefCount + hCtx.nShortRefCount then
    if hCtx.nLongRefCount ≠ 0 ∧ hCtx.nShortRefCount = 0 then
      let i := ((List.range 16).find? fun i => (hCtx.pLongRef i).isSome).getD 16
      (H264RemoveLong_at_index hCtx i).map fun removed => unreference removed (hCtx.pLongRef i)
    else
      match hCtx.nShortRefCount with
      | 0 => none
      | count + 1 =>
        (H264RemoveShort_at_index hCtx count).map fun removed =>
          unreference removed (hCtx.pShortRef count)
  else some hCtx

def placeCurrent (hCtx : H264Context) (cur : Pic) (currentRefAssigned : Bool) :
    Option H264Context :=
  if currentRefAssigned then some hCtx
  else if continuesReference hCtx cur then
    if hCtx.nShortRefCount ≠ 0 ∧ hCtx.pShortRef 0 = some cur then
      some (hCtx.setReference cur PicStructure.PICT_FRAME.bits)
    else some hCtx
  else insertShort hCtx cur

/-- What `H264ExecuteRefPicMarking` does after the commands. -/
def finishMarking (hCtx : H264Context) (currentRefAssigned : Bool) : Option H264Context :=
  hCtx.pCurPicturePtr.bind fun cur =>
    (placeCurrent hCtx cur currentRefAssigned).bind dropSurplus

def executeMmcos : List H264MmcoInfo → H264Context → Bool → Option (H264Context × Bool)
  | [], hCtx, currentRefAssigned => some (hCtx, currentRefAssigned)
  | command :: rest, hCtx, currentRefAssigned =>
    (executeMmco hCtx currentRefAssigned command).bind fun (hCtx, currentRefAssigned) =>
      executeMmcos rest hCtx currentRefAssigned

def H264ExecuteRefPicMarking (hCtx : H264Context) : Option H264Context :=
  (executeMmcos hCtx.mmco hCtx false).bind fun (hCtx, currentRefAssigned) =>
    finishMarking hCtx currentRefAssigned

def refreshLongSlot (hCtx : H264Context) (i : Nat) : H264Context :=
  if i < MAX_PICTURE_COUNT then
    match hCtx.pLongRef i with
    | none => hCtx
    | some pic =>
      { (H264UnnReferencePic hCtx pic 0).1 with
        pLongRef := update hCtx.pLongRef i none }
  else hCtx

def refreshShortSlot (hCtx : H264Context) (i : Nat) : Option H264Context :=
  if i < MAX_PICTURE_COUNT then
    (hCtx.pShortRef i).map fun pic =>
      { (H264UnnReferencePic hCtx pic 0).1 with
        pShortRef := update hCtx.pShortRef i none }
  else some hCtx

/-- The first loop goes to `nLongRefCount`, though the table is sparse. -/
def refreshLong (hCtx : H264Context) : H264Context :=
  (List.range hCtx.nLongRefCount.toNat).foldl refreshLongSlot hCtx

def refreshShort (hCtx : H264Context) : Option H264Context :=
  (List.range hCtx.nShortRefCount).foldlM refreshShortSlot hCtx

def H264ReferenceRefresh (hCtx : H264Context) : Option H264Context :=
  (refreshShort { refreshLong hCtx with nLongRefCount := 0 }).map fun hCtx =>
    { hCtx with nShortRefCount := 0 }

end CedarC.H264RefMarking
