import CedarC.H265TileTables

/-!
# Parameter sets of the H265 decoder

The three tables of parameter sets, what the SPS and PPS parsers store in them
and what the slice header activates, from `h265_parser.c` and the slice case of
`HevcDecodeNalUnit` in `h265.c`. A PPS lives at an address, so that a freed one
can be told from a live one; an SPS is only ever copied. The syntax elements
that reach neither the tables nor the activation are represented by whether the
parser refuses the NAL unit for them. `none` is an access outside a table or to
freed memory.
-/

namespace CedarC.H265ParamSets

open FixedWidth H265TileTables

def HEVC_MAX_SPS_NUM : Nat := 32
def HEVC_MAX_PPS_NUM : Nat := 256

variable {Rest : Type}

structure TemporalLayer where
  nSpsMaxDecPicBuffering : Int
  nSpsMaxNumReoderPics : Int
deriving DecidableEq, Inhabited

/-- The fields that the activation reads; `rest` stands for the others, which
it only compares. -/
structure HevcSPS (Rest : Type) where
  nMaxSubLayers : Nat
  TemporalLayer : List TemporalLayer
  nWidth : Int
  nHeight : Int
  sizes : CtbSizes
  rest : Rest
deriving DecidableEq

structure HevcPPS where
  nSpsId : Nat
  tiles : Option TileSyntax
  tables : Option TileTables

structure SpsNal (Rest : Type) where
  nVpsId : Fin 16
  spsSeqParameterSetId : UInt32
  nMaxSubLayers : Nat
  TemporalLayer : List TemporalLayer
  nWidth : Int
  nHeight : Int
  nLog2CtbSize : Nat
  rest : Rest
  refused : Bool

structure PpsNal where
  ppsPicParameterSetId : UInt32
  ppsSeqParameterSetId : UInt32
  tiles : Option TileSyntax
  refused : Bool

structure ParamSets (Rest : Type) where
  VpsList : Fin 16 → Bool
  SpsList : Nat → Option (HevcSPS Rest)
  PpsList : Nat → Option Nat
  memory : Nat → Option HevcPPS
  pSps : Option (HevcSPS Rest)
  pPps : Option Nat
  bHdrFlag : Int
  bPreHdrFlag : Int
  bHadFindSpsFlag : Bool
  bHadFindPpsFlag : Bool

def ParamSets.init : ParamSets Rest :=
  { VpsList := fun _ => false
    SpsList := fun _ => none
    PpsList := fun _ => none
    memory := fun _ => none
    pSps := none
    pPps := none
    bHdrFlag := 0
    bPreHdrFlag := -1
    bHadFindSpsFlag := false
    bHadFindPpsFlag := false }

def ctbSizes (nWidth nHeight : Int) (nLog2CtbSize : Nat) : CtbSizes :=
  let nCtbWidth := s32 ((nWidth + 2 ^ nLog2CtbSize - 1) / 2 ^ nLog2CtbSize)
  let nCtbHeight := s32 ((nHeight + 2 ^ nLog2CtbSize - 1) / 2 ^ nLog2CtbSize)
  ⟨nCtbWidth, nCtbHeight, s32 (nCtbWidth * nCtbHeight)⟩

def SpsNal.toSps (nal : SpsNal Rest) : HevcSPS Rest :=
  { nMaxSubLayers := nal.nMaxSubLayers
    TemporalLayer := nal.TemporalLayer
    nWidth := nal.nWidth
    nHeight := nal.nHeight
    sizes := ctbSizes nal.nWidth nal.nHeight nal.nLog2CtbSize
    rest := nal.rest }

/-- Storing the same SPS again keeps the old copy, which is equal. -/
def hevcDecodeNalSps (dec : ParamSets Rest) (nal : SpsNal Rest) : Option (ParamSets Rest × Int) :=
  let nSpsId := s32 nal.spsSeqParameterSetId.toNat
  if dec.VpsList nal.nVpsId = false then some (dec, -1)
  else if nSpsId > HEVC_MAX_SPS_NUM then some (dec, -1)
  else if nal.refused then some (dec, -1)
  else if nSpsId < 0 ∨ HEVC_MAX_SPS_NUM ≤ nSpsId then none
  else
    let pSps := nal.toSps
    some ({ dec with
      SpsList := Function.update dec.SpsList nSpsId.toNat (some pSps)
      bHadFindSpsFlag := !(decide (pSps.nWidth < 64) && decide (pSps.nHeight < 64)) }, 0)

/-- Frees the PPS of a slot of `PpsList` with its tables, if there is one. -/
def freePps (memory : Nat → Option HevcPPS) : Option Nat → Nat → Option HevcPPS
  | some old => Function.update memory old none
  | none => memory

/-- `address` is what the allocation of the PPS returned. -/
def hevcDecodeNalPps (dec : ParamSets Rest) (nal : PpsNal) (address : Nat) :
    Option (ParamSets Rest × Int) :=
  let nPpsId := s32 nal.ppsPicParameterSetId.toNat
  let nSpsId := nal.ppsSeqParameterSetId.toNat
  if nPpsId > HEVC_MAX_PPS_NUM then some (dec, -1)
  else if nSpsId > HEVC_MAX_SPS_NUM then some (dec, -1)
  else if HEVC_MAX_SPS_NUM ≤ nSpsId then none
  else
    match dec.SpsList nSpsId with
    | none => some (dec, -1)
    | some pSps =>
      if nal.refused then some (dec, -1)
      else
        match derived pSps.sizes nal.tiles with
        | none => some (dec, -1)
        | some tables =>
          if nPpsId < 0 ∨ HEVC_MAX_PPS_NUM ≤ nPpsId then none
          else
            some ({ dec with
              PpsList := Function.update dec.PpsList nPpsId.toNat (some address)
              memory := Function.update (freePps dec.memory (dec.PpsList nPpsId.toNat))
                address (some ⟨nSpsId, nal.tiles, tables⟩)
              bHadFindPpsFlag := true }, 0)

inductive SliceResult
  | accepted
  | refused
  | sizeChange
deriving DecidableEq

def highestLayer (pSps : HevcSPS Rest) : TemporalLayer :=
  pSps.TemporalLayer.getD (pSps.nMaxSubLayers - 1) default

def reportsChange (dec : ParamSets Rest) (old pCurSps : HevcSPS Rest) : Bool :=
  (dec.bPreHdrFlag != -1 && dec.bPreHdrFlag != dec.bHdrFlag) ||
    (old.nWidth != pCurSps.nWidth || old.nHeight != pCurSps.nHeight) ||
    decide (highestLayer old ≠ highestLayer pCurSps)

/-- The activation in `HevcDecodeSliceHeader`. -/
def hevcDecodeSliceHeader [DecidableEq Rest] (dec : ParamSets Rest)
    (slicePicParameterSetId : UInt32) : Option (ParamSets Rest × SliceResult) :=
  let nPpsId := s32 slicePicParameterSetId.toNat
  if HEVC_MAX_PPS_NUM ≤ nPpsId then some (dec, .refused)
  else if nPpsId < 0 then none
  else
    match dec.PpsList nPpsId.toNat with
    | none => some (dec, .refused)
    | some address =>
      (dec.memory address).bind fun pPps =>
        if HEVC_MAX_SPS_NUM ≤ pPps.nSpsId then none
        else
          let dec := { dec with pPps := some address }
          match dec.SpsList pPps.nSpsId, dec.pSps with
          | none, _ => some (dec, .refused)
          | some pCurSps, none =>
            some ({ dec with pSps := some pCurSps, bPreHdrFlag := dec.bHdrFlag }, .accepted)
          | some pCurSps, some old =>
            if old = pCurSps then some (dec, .accepted)
            else
              some ({ dec with pSps := some pCurSps, bPreHdrFlag := dec.bHdrFlag },
                if reportsChange dec old pCurSps then .sizeChange else .accepted)

end CedarC.H265ParamSets
