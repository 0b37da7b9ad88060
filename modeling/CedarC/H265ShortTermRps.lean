import CedarC.FixedWidth

/-!
# Short-term reference picture sets of the H265 parser

A transcription of `HevcParseShortTermRefSet` and of the two places that call
it, in `vdecoder/videoengine/h265/h265_parser.c`. The bit reader is represented
by the values that it returns for the named syntax elements, each `ue(v)` as a
`u32`. `none` stands for an access outside an array.
-/

namespace CedarC.H265ShortTermRps

open FixedWidth

def HEVC_MAX_SHORT_TERM_RPS_COUNT : Nat := 64
def HEVC_MAX_REFS : Int := 16

/-- The length of `nDeltaPoc` and `bUsed`. -/
def rpsArraySize : Nat := 32

structure RpsSyntax where
  interRefPicSetPredictionFlag : Bool
  deltaIdxMinus1 : UInt32
  deltaRpsSign : Bool
  absDeltaRpsMinus1 : UInt32
  usedByCurrPicFlag : Nat → Bool
  useDeltaFlag : Nat → Bool
  numNegativePics : UInt32
  numPositivePics : UInt32
  deltaPocS0Minus1 : Nat → UInt32
  usedByCurrPicS0Flag : Nat → Bool
  deltaPocS1Minus1 : Nat → UInt32
  usedByCurrPicS1Flag : Nat → Bool

structure HevcShortTermRPS where
  nNumNegativePics : Int
  nNumDeltaPocs : Int
  nDeltaPoc : Nat → Int
  bUsed : Nat → Bool

structure HevcSPS where
  nNumStRps : Nat
  StRps : Nat → HevcShortTermRPS

/-- What `pRps` points to: an entry of `pSps->StRps`, or the set of the slice header. -/
inductive RpsPlace
  | stRps (i : Nat)
  | sliceRps
deriving DecidableEq

namespace HevcShortTermRPS

def setEntry (pRps : HevcShortTermRPS) (k : Nat) (nDeltaPoc : Int) (bUsed : Bool) :
    HevcShortTermRPS :=
  { pRps with
    nDeltaPoc := Function.update pRps.nDeltaPoc k nDeltaPoc
    bUsed := Function.update pRps.bUsed k bUsed }

/-- The inner loop of the sort, from `k - 1` down to 0. -/
def sinkEntry (nDeltaPoc : Int) (bUsed : Bool) : Nat → HevcShortTermRPS → HevcShortTermRPS
  | 0, pRps => pRps
  | k + 1, pRps =>
    if nDeltaPoc < pRps.nDeltaPoc k then
      sinkEntry nDeltaPoc bUsed k
        ((pRps.setEntry (k + 1) (pRps.nDeltaPoc k) (pRps.bUsed k)).setEntry k nDeltaPoc bUsed)
    else sinkEntry nDeltaPoc bUsed k pRps

def sortEntries (pRps : HevcShortTermRPS) : HevcShortTermRPS :=
  if pRps.nNumDeltaPocs ≠ 0 then
    (List.range' 1 (pRps.nNumDeltaPocs.toNat - 1)).foldl
      (fun pRps i => pRps.sinkEntry (pRps.nDeltaPoc i) (pRps.bUsed i) i) pRps
  else pRps

def flipNegative (pRps : HevcShortTermRPS) : HevcShortTermRPS :=
  let nNumNegativePics := pRps.nNumNegativePics.toNat
  if pRps.nNumNegativePics / 2 ≠ 0 then
    (List.range (nNumNegativePics / 2)).foldl
      (fun pRps i =>
        let k := nNumNegativePics - 1 - i
        (pRps.setEntry i (pRps.nDeltaPoc k) (pRps.bUsed k)).setEntry k
          (pRps.nDeltaPoc i) (pRps.bUsed i)) pRps
  else pRps

end HevcShortTermRPS

structure PredictLoop where
  pRps : HevcShortTermRPS
  k : Nat
  k0 : Nat
  bUseDeltaFlag : Bool

def predictEntry (syn : RpsSyntax) (nDeltaRps : Int) (pRpsRidx : HevcShortTermRPS)
    (s : PredictLoop) (i : Nat) : Option PredictLoop :=
  let bUsed := syn.usedByCurrPicFlag i
  if rpsArraySize ≤ s.k then none
  else
    let pRps := { s.pRps with bUsed := Function.update s.pRps.bUsed s.k bUsed }
    let bUseDeltaFlag := if bUsed then s.bUseDeltaFlag else syn.useDeltaFlag i
    if bUsed || bUseDeltaFlag then
      if (i : Int) < pRpsRidx.nNumDeltaPocs ∧ rpsArraySize ≤ i then none
      else
        let nDeltaPoc :=
          if (i : Int) < pRpsRidx.nNumDeltaPocs then s32 (nDeltaRps + pRpsRidx.nDeltaPoc i)
          else nDeltaRps
        some
          { pRps := { pRps with nDeltaPoc := Function.update pRps.nDeltaPoc s.k nDeltaPoc }
            k := s.k + 1
            k0 := if nDeltaPoc < 0 then s.k0 + 1 else s.k0
            bUseDeltaFlag := bUseDeltaFlag }
    else some { s with pRps := pRps, bUseDeltaFlag := bUseDeltaFlag }

/-- The signed step from the reference set to the predicted one. -/
def deltaRps (syn : RpsSyntax) : Int :=
  let nAbsDeltaRps := s32 (syn.absDeltaRpsMinus1.toNat + 1)
  s32 ((1 - if syn.deltaRpsSign then 2 else 0) * nAbsDeltaRps)

def predictSet (syn : RpsSyntax) (pRpsRidx pRps : HevcShortTermRPS) : Option HevcShortTermRPS :=
  ((List.range (pRpsRidx.nNumDeltaPocs + 1).toNat).foldlM
      (predictEntry syn (deltaRps syn) pRpsRidx) ⟨pRps, 0, 0, false⟩).map fun s =>
    ({ s.pRps with nNumDeltaPocs := s.k, nNumNegativePics := s.k0 }).sortEntries.flipNegative

/-- One entry of a list of deltas that accumulate from `nPrev` on. -/
def readDelta (sign : Int) (deltaPocMinus1 : Nat → UInt32) (usedByCurrPicFlag : Nat → Bool)
    (offset : Int) (s : HevcShortTermRPS × Int) (i : Nat) : Option (HevcShortTermRPS × Int) :=
  let nDeltaPoc := s32 ((deltaPocMinus1 i).toNat + 1)
  let nPrev := s32 (s.2 + sign * nDeltaPoc)
  if 0 ≤ offset + i ∧ offset + i < rpsArraySize then
    some (s.1.setEntry (offset + i).toNat nPrev (usedByCurrPicFlag i), nPrev)
  else none

def explicitSet (syn : RpsSyntax) (pRps : HevcShortTermRPS) : Option (HevcShortTermRPS × Int) :=
  let pRps := { pRps with nNumNegativePics := s32 syn.numNegativePics.toNat }
  let nNumPositivePics := s32 syn.numPositivePics.toNat
  if HEVC_MAX_REFS ≤ pRps.nNumNegativePics ∨ HEVC_MAX_REFS ≤ nNumPositivePics then
    some (pRps, -1)
  else
    let pRps := { pRps with nNumDeltaPocs := s32 (pRps.nNumNegativePics + nNumPositivePics) }
    if pRps.nNumDeltaPocs ≠ 0 then
      ((List.range pRps.nNumNegativePics.toNat).foldlM
          (readDelta (-1) syn.deltaPocS0Minus1 syn.usedByCurrPicS0Flag 0) (pRps, 0)).bind fun s =>
        ((List.range nNumPositivePics.toNat).foldlM
          (readDelta 1 syn.deltaPocS1Minus1 syn.usedByCurrPicS1Flag pRps.nNumNegativePics)
          (s.1, 0)).map fun s => (s.1, 0)
    else some (pRps, 0)

/-- The set at `place` after the call and the result code. -/
def hevcParseShortTermRefSet (syn : RpsSyntax) (place : RpsPlace) (pRps : HevcShortTermRPS)
    (pSps : HevcSPS) : Option (HevcShortTermRPS × Int) :=
  let bRpsPredict :=
    if place ≠ .stRps 0 ∧ pSps.nNumStRps ≠ 0 then syn.interRefPicSetPredictionFlag else false
  if bRpsPredict then
    match place with
    | .sliceRps =>
      let nDeltaIdx := (syn.deltaIdxMinus1.toNat + 1) % 2 ^ 32
      if nDeltaIdx > pSps.nNumStRps then some (pRps, -1)
      else if HEVC_MAX_SHORT_TERM_RPS_COUNT ≤ pSps.nNumStRps - nDeltaIdx then none
      else
        (predictSet syn (pSps.StRps (pSps.nNumStRps - nDeltaIdx)) pRps).map fun pRps => (pRps, 0)
    | .stRps i => (predictSet syn (pSps.StRps (i - 1)) pRps).map fun pRps => (pRps, 0)
  else explicitSet syn pRps

/-- The result of the call for set `i`, when `pSps` is the state before it. -/
def parseStRps (sets : Nat → RpsSyntax) (pSps : HevcSPS) (i : Nat) :
    Option (HevcShortTermRPS × Int) :=
  hevcParseShortTermRefSet (sets i) (.stRps i) (pSps.StRps i) pSps

/-- The loop of `HevcDecodeNalSps` over the sets, which drops the result codes. -/
def stRpsAfter (sets : Nat → RpsSyntax) (pSps : HevcSPS) : Nat → Option HevcSPS
  | 0 => some pSps
  | i + 1 =>
    (stRpsAfter sets pSps i).bind fun pSps =>
      (parseStRps sets pSps i).map fun result =>
        { pSps with StRps := Function.update pSps.StRps i result.1 }

/-- `HevcDecodeNalSps` up to the sets; the inner `none` is a refused SPS. -/
def hevcDecodeNalSpsRps (numShortTermRefPicSets : UInt32) (sets : Nat → RpsSyntax)
    (pSps : HevcSPS) : Option (Option HevcSPS) :=
  let pSps := { pSps with nNumStRps := numShortTermRefPicSets.toNat }
  if pSps.nNumStRps > HEVC_MAX_SHORT_TERM_RPS_COUNT then some none
  else (stRpsAfter sets pSps pSps.nNumStRps).map some

structure SliceSyntax where
  shortTermRefPicSetSpsFlag : Bool
  set : RpsSyntax
  shortTermRefPicSetIdx : Nat

/-- The table lookup of `HevcLog2` is the logarithm, with 0 for 0. -/
def hevcCeilLog2 (x : Nat) : Nat := Nat.log2 ((((x : Int) - 1) * 2) % 2 ^ 32).toNat

def rpsIdx (nNumStRps : Nat) (slice : SliceSyntax) : Nat :=
  let nBits := hevcCeilLog2 nNumStRps
  if nBits > 0 then slice.shortTermRefPicSetIdx % 2 ^ nBits else 0

/-- The part of `HevcDecodeSliceHeader` that sets `pShortTermRps`: the set of
the slice header after it and the set the slice uses, or no set when the header
is refused. The result of the parse is dropped. -/
def hevcDecodeSliceRps (pSps : HevcSPS) (sliceRps : HevcShortTermRPS) (slice : SliceSyntax) :
    Option (HevcShortTermRPS × Option RpsPlace) :=
  if !slice.shortTermRefPicSetSpsFlag then
    (hevcParseShortTermRefSet slice.set .sliceRps sliceRps pSps).map fun result =>
      (result.1, some .sliceRps)
  else
    let nRpsIdx := rpsIdx pSps.nNumStRps slice
    if nRpsIdx ≥ HEVC_MAX_SHORT_TERM_RPS_COUNT then some (sliceRps, none)
    else some (sliceRps, some (.stRps nRpsIdx))

end CedarC.H265ShortTermRps
