import CedarC.H265Dpb
import Mathlib.Data.Nat.Digits.Defs

/-!
# The reference picture lists of a slice and the words written for them

`HevcSliceRps` builds `RefPicList` from the sets of the picture, and
`HevcSetFrameBufInfoReg` packs four entries into each word of the hardware's list.
Both run over the entries of the slice header, whatever the lists really have.
-/

namespace CedarC.H265RefLists

open H265Dpb

inductive HevcSliceType
  | HEVC_B_SLICE
  | HEVC_P_SLICE
  | HEVC_I_SLICE
  | unknown
deriving DecidableEq

/-- The two reference picture lists. -/
inductive RefList
  | L0
  | L1
deriving DecidableEq

structure HevcSliceHeader where
  eSliceType : HevcSliceType
  nNumOfRefs : RefList → Nat
  bRplModificationFlag : RefList → Bool
  ListEntryLx : RefList → Nat → Nat

/-- An entry of `HevcRefPicList` whose `Ref` is not null. -/
structure RefSlot where
  Ref : Nat
  List : Int
  bIsLongTerm : Bool
deriving DecidableEq

/-- The arrays of `HevcRefPicList`, up to `HEVC_MAX_REFS`; null entries are `none`. -/
abbrev RefSlots : Type := List (Option RefSlot)

def candLists : RefList → List HevcRPSType
  | .L0 => [.HEVC_ST_CURR_BEF, .HEVC_ST_CURR_AFT, .HEVC_LT_CURR]
  | .L1 => [.HEVC_ST_CURR_AFT, .HEVC_ST_CURR_BEF, .HEVC_LT_CURR]

/-- The entries that one pass over the candidates goes through. -/
def candSlots (pHevcDec : HevcContex) (nListIdx : RefList) : List RefSlot :=
  (candLists nListIdx).flatMap fun type =>
    (pHevcDec.Rps type).map fun entry =>
      ⟨entry.Ref, entry.List, decide (type = .HEVC_LT_CURR)⟩

/-- The loop that repeats the candidates until there are enough of them; each pass
stops at `HEVC_MAX_REFS`. -/
def fillTemp (cands : List RefSlot) (nNumOfRefs : Nat) : Nat → List RefSlot → List RefSlot
  | 0, RplTemp => RplTemp
  | fuel + 1, RplTemp =>
    if RplTemp.length < nNumOfRefs then
      fillTemp cands nNumOfRefs fuel ((RplTemp ++ cands).take HEVC_MAX_REFS)
    else RplTemp

/-- The modified list, written entry by entry over the old one; `none` when an index
is behind the candidates. -/
def modifyList (RplTemp : List RefSlot) (entries : Nat → Nat) : Nat → RefSlots → RefSlots × Bool
  | 0, pRpl => (pRpl, true)
  | count + 1, pRpl =>
    match modifyList RplTemp entries count pRpl with
    | (pRpl, false) => (pRpl, false)
    | (pRpl, true) =>
      match RplTemp[entries count]? with
      | none => (pRpl, false)
      | some slot => (pRpl.set count (some slot), true)

/-- The array after `memcpy` from the temporary one. -/
def copyList (RplTemp : List RefSlot) : RefSlots :=
  RplTemp.map some ++ List.replicate (HEVC_MAX_REFS - RplTemp.length) none

/-- One list of `HevcSliceRps`, where it has not more than `HEVC_MAX_REFS` entries. -/
def buildList (pHevcDec : HevcContex) (pSh : HevcSliceHeader) (nListIdx : RefList)
    (pRpl : RefSlots) : RefSlots × Bool :=
  let nNumOfRefs := pSh.nNumOfRefs nListIdx
  let RplTemp := fillTemp (candSlots pHevcDec nListIdx) nNumOfRefs HEVC_MAX_REFS []
  if pSh.bRplModificationFlag nListIdx then
    modifyList RplTemp (pSh.ListEntryLx nListIdx) nNumOfRefs pRpl
  else (copyList RplTemp, true)

/-- The lists that `HevcSliceRps` builds; slices that are not of type B have one. -/
def sliceLists : HevcSliceType → List RefList
  | .HEVC_B_SLICE => [.L0, .L1]
  | _ => [.L0]

/-- How `HevcSliceRps` ended; a list that is too long drops the current picture. -/
inductive SliceRpsResult
  | built
  | failed
  | dropped
deriving DecidableEq

def buildLists (pHevcDec : HevcContex) (pSh : HevcSliceHeader) :
    List RefList → (RefList → RefSlots) → (RefList → RefSlots) × SliceRpsResult
  | [], RefPicList => (RefPicList, .built)
  | nListIdx :: rest, RefPicList =>
    if HEVC_MAX_REFS < pSh.nNumOfRefs nListIdx then (RefPicList, .dropped)
    else
      match buildList pHevcDec pSh nListIdx (RefPicList nListIdx) with
      | (pRpl, true) =>
        buildLists pHevcDec pSh rest (Function.update RefPicList nListIdx pRpl)
      | (pRpl, false) => (Function.update RefPicList nListIdx pRpl, .failed)

/-- Without any candidate the lists of an earlier slice stay. -/
def HevcSliceRps (pHevcDec : HevcContex) (pSh : HevcSliceHeader)
    (RefPicList : RefList → RefSlots) : (RefList → RefSlots) × SliceRpsResult :=
  if candSlots pHevcDec .L0 = [] then (RefPicList, .failed)
  else buildLists pHevcDec pSh (sliceLists pSh.eSliceType) RefPicList

/-- `ReferenceList`: the index in five bits, the long term flag in bit 7. -/
def refByte (slot : RefSlot) : Nat := slot.Ref % 32 + if slot.bIsLongTerm then 128 else 0

/-- The entries that the word from `i` on is for. -/
def wordSlots (pRpl : RefSlots) (nNumOfRefs i : Nat) : List (Option RefSlot) :=
  (List.range (min 4 (nNumOfRefs - i))).map fun k => pRpl.getD (i + k) none

def packedSlots (pRpl : RefSlots) (nNumOfRefs i : Nat) : List RefSlot :=
  ((wordSlots pRpl nNumOfRefs i).takeWhile Option.isSome).reduceOption

def packBytes (bytes : List Nat) : Nat := Nat.ofDigits 256 bytes

/-- A null entry leaves the turn of the loop, whereby the word is not written. -/
def refWord (pRpl : RefSlots) (nNumOfRefs i : Nat) : Option Nat :=
  if (wordSlots pRpl nNumOfRefs i).all Option.isSome then
    some (packBytes ((packedSlots pRpl nNumOfRefs i).map refByte))
  else none

def wordStarts (nNumOfRefs : Nat) : List Nat :=
  (List.range ((nNumOfRefs + 3) / 4)).map fun word => 4 * word

/-- The words that reach the hardware one after the other. -/
def refWords (pRpl : RefSlots) (nNumOfRefs : Nat) : List Nat :=
  (wordStarts nNumOfRefs).filterMap (refWord pRpl nNumOfRefs)

def writtenLists : HevcSliceType → List RefList
  | .HEVC_B_SLICE => [.L0, .L1]
  | .HEVC_P_SLICE => [.L0]
  | .HEVC_I_SLICE | .unknown => []

/-- A reference with an error makes the current picture one with an error. -/
def refsWithError (pHevcDec : HevcContex) (pSh : HevcSliceHeader)
    (RefPicList : RefList → RefSlots) : Bool :=
  (writtenLists pSh.eSliceType).any fun nListIdx =>
    (wordStarts (pSh.nNumOfRefs nListIdx)).any fun i =>
      (packedSlots (RefPicList nListIdx) (pSh.nNumOfRefs nListIdx) i).any fun slot =>
        (pHevcDec.frame slot.Ref).bErrorFrameFlag

end CedarC.H265RefLists
