import CedarC.H264DefaultRefLists

/-!
# Reordering of the reference lists

`H264DecodeRefPicListReordering` of `h264_mmco.c` and what its caller makes of
the result. A list is the array of a slice with its 48 entries, each a copy of a
picture; `none` is an `abort()` or an access outside a table. The counts that
`H264DirectRefListInit` copies out of the finished lists are left out.
-/

namespace CedarC.H264RefListReordering

open FixedWidth H264RefMarking H264DefaultRefLists

def REF_LIST_SIZE : Nat := 48
def VRESULT_ERR_FAIL : Int := 0xFB

/-- The copy of a picture in a list; zeroed memory names no picture. -/
structure ListPic where
  pic : Option Pic
  nFrmNum : Int
  bLongRef : Bool
  nReference : Nat
  nPicStructure : Nat
  nPicId : Int
deriving DecidableEq

def ListPic.zero : ListPic := ⟨none, 0, false, 0, 0, 0⟩

abbrev RefList := Nat → ListPic

structure ReorderCode where
  reorderingOfPicNumsIdc : UInt32
  value : UInt32
deriving DecidableEq

/-- What the lists of a slice are read with; a list without its flag has no commands. -/
structure SliceLists where
  bIntra : Bool
  nListCount : Nat
  nRefCount : Nat → Nat
  defaultRefList : Nat → RefList
  codes : Nat → Option (List ReorderCode)
  pMajorRefFrame : Option ListPic

/-- The picture that a command names. -/
inductive Search
  | refused
  | missing
  | found (ref : Pic) (nPicId : Int) (pPicStructure : Nat)
deriving DecidableEq

variable (hCtx : H264Context) (order : Pic → PicOrder)

/-- The loop over the short-term pictures, from the last one down. -/
def searchShort (frameNum : Int) (pPicStructure : Nat) : Nat → Option (Option Pic)
  | 0 => some none
  | i + 1 =>
    if MAX_PICTURE_COUNT ≤ i then none
    else
      (hCtx.pShortRef i).bind fun ref =>
        let info := hCtx.picture ref
        if info.pVPicture ∧ info.nFrmNum = frameNum ∧ info.nReference &&& pPicStructure ≠ 0 ∧
            ¬ info.bLongRef then
          some (some ref)
        else searchShort frameNum pPicStructure i

/-- The prediction behind a command on a short-term picture, and the picture. -/
def searchShortTerm (pred : UInt32) (code : ReorderCode) : Option (UInt32 × Search) :=
  let absDiffPicNum := code.value + 1
  if absDiffPicNum > hCtx.nMaxPicNum then some (pred, .refused)
  else
    let moved :=
      if code.reorderingOfPicNumsIdc = 0 then pred - absDiffPicNum else pred + absDiffPicNum
    let pred := moved &&& (hCtx.nMaxPicNum - 1)
    let picNum := s32 pred.toNat
    let (frameNum, pPicStructure) := H264PicNumExtract hCtx picNum
    (searchShort hCtx frameNum pPicStructure hCtx.nShortRefCount).map fun
      | none => (pred, .missing)
      | some ref => (pred, .found ref picNum pPicStructure)

def searchLongTerm (code : ReorderCode) : Option Search :=
  let nPicId := s32 code.value.toNat
  let (longIdx, pPicStructure) := H264PicNumExtract hCtx nPicId
  if longIdx ≥ MAX_PICTURE_COUNT then some .refused
  else if longIdx < 0 then none
  else
    match hCtx.pLongRef longIdx.toNat with
    | none => some .missing
    | some ref =>
      if (hCtx.picture ref).nReference &&& pPicStructure ≠ 0 then
        some (.found ref nPicId pPicStructure)
      else some .missing

def searchRef (pred : UInt32) (code : ReorderCode) : Option (UInt32 × Search) :=
  if code.reorderingOfPicNumsIdc < 2 then searchShortTerm hCtx pred code
  else (searchLongTerm hCtx code).map fun search => (pred, search)

def copyOf (ref : Pic) (nPicId : Int) (pPicStructure : Nat) : ListPic :=
  let info := hCtx.picture ref
  { pic := some ref
    nFrmNum := info.nFrmNum
    bLongRef := info.bLongRef
    nReference := if hCtx.isField then pPicStructure else info.nReference
    nPicStructure := if hCtx.isField then pPicStructure else (order ref).nPicStructure
    nPicId := nPicId }

/-- The entry with this mark and number, or the last one, from the entry `i` on. -/
def findListed (refList : RefList) (bLongRef : Bool) (nPicId : Int) (nRefCount : Nat) :
    Nat → Nat → Option Nat
  | 0, i => some i
  | left + 1, i =>
    if i + 1 < nRefCount then
      if REF_LIST_SIZE ≤ i then none
      else if bLongRef = (refList i).bLongRef ∧ nPicId = (refList i).nPicId then some i
      else findListed refList bLongRef nPicId nRefCount left (i + 1)
    else some i

/-- The entries from `index` on move up, the last of them over the entry `i`. -/
def shiftList (index : Nat) : Nat → RefList → Option RefList
  | 0, refList => some refList
  | i + 1, refList =>
    if i + 1 > index then
      if REF_LIST_SIZE ≤ i + 1 then none
      else shiftList index i (Function.update refList (i + 1) (refList i))
    else some refList

def placeRef (refList : RefList) (nRefCount index : Nat) (entry : ListPic) : Option RefList :=
  (findListed refList entry.bLongRef entry.nPicId nRefCount nRefCount index).bind fun i =>
    (shiftList index i refList).bind fun refList =>
      if REF_LIST_SIZE ≤ index then none else some (Function.update refList index entry)

/-- The loop of `H264ReorderInterviewPic` that makes room; entries behind the list are skipped. -/
def shiftInterview (refIdxLx : Nat) : Nat → RefList → RefList
  | 0, refList => refList
  | cIdx + 1, refList =>
    if cIdx + 1 > refIdxLx then
      shiftInterview refIdxLx cIdx
        (if REF_LIST_SIZE ≤ cIdx + 1 then refList
          else Function.update refList (cIdx + 1) (refList cIdx))
    else refList

/-- The loop that takes the current picture out behind the new entry. -/
def dropInterview (nCurPicNum : UInt32) (last : Nat) : Nat → Nat → Nat → RefList → RefList
  | 0, _, _, refList => refList
  | left + 1, cIdx, nIdx, refList =>
    if cIdx ≤ last then
      if REF_LIST_SIZE ≤ cIdx then dropInterview nCurPicNum last left (cIdx + 1) nIdx refList
      else if (refList cIdx).bLongRef ∨ (refList cIdx).nFrmNum ≠ s32 nCurPicNum.toNat then
        dropInterview nCurPicNum last left (cIdx + 1) (nIdx + 1)
          (Function.update refList nIdx (refList cIdx))
      else dropInterview nCurPicNum last left (cIdx + 1) nIdx refList
    else refList

def H264ReorderInterviewPic (pMajorRefFrame : Option ListPic) (refList : RefList)
    (nRefCount refIdxLx : Nat) : RefList :=
  match pMajorRefFrame with
  | none => refList
  | some pPicLX =>
    if pPicLX.bLongRef then refList
    else
      dropInterview hCtx.nCurPicNum nRefCount (nRefCount + 1) (refIdxLx + 1) (refIdxLx + 1)
        (Function.update (shiftInterview refIdxLx nRefCount refList) refIdxLx pPicLX)

/-- The loop over the commands of a list, with the result and the list it leaves. -/
def reorderFrom (slice : SliceLists) (nRefCount : Nat) :
    List ReorderCode → Nat → UInt32 → RefList → Option (Int × RefList)
  | [], _, _, refList => some (0, refList)
  | code :: rest, index, pred, refList =>
    if nRefCount ≤ index then some (VRESULT_ERR_FAIL, refList)
    else if code.reorderingOfPicNumsIdc < 3 then
      (searchRef hCtx pred code).bind fun
        | (_, .refused) => some (VRESULT_ERR_FAIL, refList)
        | (_, .missing) =>
          if REF_LIST_SIZE ≤ index then none
          else some (VRESULT_ERR_FAIL, Function.update refList index .zero)
        | (pred, .found ref nPicId pPicStructure) =>
          (placeRef refList nRefCount index (copyOf hCtx order ref nPicId pPicStructure)).bind
            fun refList => reorderFrom slice nRefCount rest (index + 1) pred refList
    else if code.reorderingOfPicNumsIdc = 4 ∨ code.reorderingOfPicNumsIdc = 5 then
      reorderFrom slice nRefCount rest (index + 1) pred
        (H264ReorderInterviewPic hCtx slice.pMajorRefFrame refList nRefCount index)
    else reorderFrom slice nRefCount rest (index + 1) pred refList

def copyDefault (slice : SliceLists) (list : Nat) (refList : RefList) : Option RefList :=
  if MAX_PICTURE_COUNT < slice.nRefCount list then none
  else
    some fun i => if i < slice.nRefCount list then slice.defaultRefList list i else refList i

def reorderList (slice : SliceLists) (list : Nat) (refList : RefList) : Option (Int × RefList) :=
  (copyDefault slice list refList).bind fun refList =>
    match slice.codes list with
    | none => some (0, refList)
    | some codes =>
      reorderFrom hCtx order slice (slice.nRefCount list) codes 0 hCtx.nCurPicNum refList

/-- The loop over the lists, which a refused command ends. -/
def reorderLists (slice : SliceLists) : Nat → Nat → (Nat → RefList) → Option (Int × (Nat → RefList))
  | 0, _, refList => some (0, refList)
  | left + 1, list, refList =>
    if 2 ≤ list then reorderLists slice left (list + 1) refList
    else
      (reorderList hCtx order slice list (refList list)).bind fun (result, left_over) =>
        let refList := Function.update refList list left_over
        if result ≠ 0 then some (result, refList)
        else reorderLists slice left (list + 1) refList

def H264DecodeRefPicListReordering (slice : SliceLists) (refList : Nat → RefList) :
    Option (Int × (Nat → RefList)) :=
  if slice.bIntra then some (0, refList)
  else reorderLists hCtx order slice slice.nListCount 0 refList

/-- `nCurPicNum` and `nMaxPicNum`, as `H264DecodeSliceHeader` sets them. -/
def slicePicNums (isField : Bool) (nFrmNum nLog2MaxFrmNum : Nat) : UInt32 × UInt32 :=
  if isField then
    (UInt32.ofNat (2 * nFrmNum + 1), UInt32.ofNat (2 ^ (nLog2MaxFrmNum + 1)))
  else (UInt32.ofNat nFrmNum, UInt32.ofNat (2 ^ nLog2MaxFrmNum))

/-- What `H264DecodeSliceHeader` does behind the lists. -/
inductive SliceHeader
  | rejected
  | goesOn (logged : Bool) (refList : Nat → RefList)

def sliceHeaderLists (slice : SliceLists) (refList : Nat → RefList) : Option SliceHeader :=
  (H264DecodeRefPicListReordering hCtx order slice refList).map fun (result, refList) =>
    .goesOn (decide (result < 0)) refList

end CedarC.H264RefListReordering
