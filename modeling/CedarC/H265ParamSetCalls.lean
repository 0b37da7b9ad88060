import CedarC.H265TileTables

/-!
# Parameter set calls of the H265 decoder and their blocks

`HevcDecodeNalVps`, `HevcDecodeNalSps` and `HevcDecodeNalPps` of `h265_parser.c` with the blocks
that they allocate and free. The heap is the set of the live addresses. Syntax elements that no
check and no effect looks at are the `rest` of a set. `none` is an access through a null pointer
or outside a list.
-/

namespace CedarC.H265ParamSetCalls

open FixedWidth H265TileTables Function

abbrev Pointer := Option Nat

abbrev Heap := Nat → Bool

def HevcFree (heap : Heap) : Pointer → Heap
  | none => heap
  | some address => update heap address false

def HEVC_MAX_SUB_LAYERS : Nat := 7
def HEVC_MAX_SPS_NUM : Nat := 32
def HEVC_MAX_PPS_NUM : Nat := 256
def HEVC_MAX_DPB_SIZE : Nat := 16 + 4
def HEVC_MAX_SHORT_TERM_RPS_COUNT : Nat := 64
def HEVC_RESULT_PICTURES_SIZE_CHANGE : Int := 33

variable {Rest : Type}

structure HevcVPS (Rest : Type) where
  nVpsMaxSubLayers : Nat
  nProfileIdc : Nat
  layers : List (Nat × Nat)
  rest : Rest
deriving DecidableEq

structure HevcSPS (Rest : Type) where
  nVpsId : Nat
  nMaxSubLayers : Nat
  nProfileIdc : Nat
  nWidth : Int
  nHeight : Int
  sizes : CtbSizes
  rest : Rest
deriving DecidableEq

inductive PpsTable
  | ColumnWidth
  | RowHeight
  | ColumBoundary
  | RowBoundary
  | ColumIdxX
  | CtbAddrRsToTs
  | CtbAddrTsToRs
  | TileId
  | TileIdInRs
  | TilePosInfo
  | TilePositionRs
deriving DecidableEq

structure HevcPPS (Rest : Type) where
  nSpsId : Nat
  tables : PpsTable → Pointer
  rest : Rest

structure HevcContex (Rest : Type) where
  VpsList : Nat → Option (Nat × HevcVPS Rest)
  SpsList : Nat → Option (Nat × HevcSPS Rest)
  PpsList : Nat → Option (Nat × HevcPPS Rest)
  b10BitStreamFlag : Int
  bHadFindSpsFlag : Bool
  bHadFindPpsFlag : Bool
  nVpsMaxDecPicBuffering : Nat
  nVpsNumReorderPics : Nat
  heap : Heap

/-- The state of a new decoder. -/
def HevcContex.init : HevcContex Rest :=
  ⟨fun _ => none, fun _ => none, fun _ => none, -1, false, false, 0, 0, fun _ => false⟩

/-- `HevcParsePTL`: the flag behind it, and whether it reports a change of size. -/
def HevcParsePTL (b10BitStreamFlag : Int) (nProfileIdc : Nat) : Int × Bool :=
  if nProfileIdc = 1 then (0, b10BitStreamFlag = 1)
  else if nProfileIdc = 2 then (1, b10BitStreamFlag = 0)
  else (0, false)

structure VpsNal (Rest : Type) where
  vpsVideoParameterSetId : Fin 16
  vpsReservedThree2bits : Nat
  vpsMaxSubLayersMinus1 : Fin 8
  vpsReserved0xffff16bits : Nat
  generalProfileIdc : Fin 32
  bVpsSubLayerOrderingInfoPresentFlag : Bool
  layer : Nat → UInt32 × UInt32
  rest : Rest

def layersRead (present : Bool) (maxSubLayersMinus1 : Nat) (layer : Nat → UInt32 × UInt32) :
    List (UInt32 × UInt32) :=
  if present then (List.range (maxSubLayersMinus1 + 1)).map layer else [layer maxSubLayersMinus1]

/-- The loop over the layers: the values in the context behind it, and the layers unless one is
refused. -/
def vpsLayers (buffers : Nat × Nat) : List (UInt32 × UInt32) →
    (Nat × Nat) × Option (List (Nat × Nat))
  | [] => (buffers, some [])
  | (decPicBufferingMinus1, numReorderPics) :: rest =>
      let nMaxDecPicBuffering := (decPicBufferingMinus1.toNat + 1) % 2 ^ 32
      let nNumReorderPics := numReorderPics.toNat
      if nMaxDecPicBuffering > HEVC_MAX_DPB_SIZE then
        ((nMaxDecPicBuffering, nNumReorderPics), none)
      else
        let stored :=
          if nNumReorderPics > (nMaxDecPicBuffering + (2 ^ 32 - 1)) % 2 ^ 32 then
            (nNumReorderPics + 1) % 2 ^ 32
          else nMaxDecPicBuffering
        let (buffers, layers) := vpsLayers (nMaxDecPicBuffering, nNumReorderPics) rest
        (buffers, layers.map ((stored, nNumReorderPics) :: ·))

def VpsNal.layers (nal : VpsNal Rest) (buffers : Nat × Nat) :
    (Nat × Nat) × Option (List (Nat × Nat)) :=
  vpsLayers buffers (layersRead nal.bVpsSubLayerOrderingInfoPresentFlag
    nal.vpsMaxSubLayersMinus1 nal.layer)

def VpsNal.toVps (nal : VpsNal Rest) (layers : List (Nat × Nat)) : HevcVPS Rest :=
  ⟨nal.vpsMaxSubLayersMinus1 + 1, nal.generalProfileIdc, layers, nal.rest⟩

/-- A set is kept where the same one is sent again, else it takes the place of the old one. -/
def storeSet {Set : Type} [DecidableEq Set] (list : Nat → Option (Nat × Set)) (heap : Heap)
    (id address : Nat) (set : Set) : (Nat → Option (Nat × Set)) × Heap :=
  match list id with
  | none => (update list id (some (address, set)), heap)
  | some (old, stored) =>
      if stored = set then (list, HevcFree heap (some address))
      else (update list id (some (address, set)), HevcFree heap (some old))

/-- `HEVC_DECODE_VPS_ERROR` and `HEVC_DECODE_SPS_ERROR`. -/
def errorExit (dec : HevcContex Rest) (address : Nat) : Option (HevcContex Rest × Int) :=
  some ({ dec with heap := HevcFree dec.heap (some address) }, -1)

/-- A failed allocation does not leave the function: the macro returns for a block only. -/
def HevcDecodeNalVps [DecidableEq Rest] (dec : HevcContex Rest) (nal : VpsNal Rest)
    (calloc : Pointer) : Option (HevcContex Rest × Int) :=
  calloc.bind fun pVps =>
    let dec := { dec with heap := update dec.heap pVps true }
    if nal.vpsReservedThree2bits ≠ 3 then errorExit dec pVps
    else if nal.vpsReserved0xffff16bits ≠ 0xffff then errorExit dec pVps
    else if (nal.vpsMaxSubLayersMinus1 : Nat) + 1 > HEVC_MAX_SUB_LAYERS then errorExit dec pVps
    else
      let (b10BitStreamFlag, sizeChange) := HevcParsePTL dec.b10BitStreamFlag nal.generalProfileIdc
      let dec := { dec with b10BitStreamFlag := b10BitStreamFlag }
      if sizeChange then some (dec, HEVC_RESULT_PICTURES_SIZE_CHANGE)
      else
        let ((nMaxDecPicBuffering, nNumReorderPics), layers) :=
          nal.layers (dec.nVpsMaxDecPicBuffering, dec.nVpsNumReorderPics)
        let dec := { dec with
          nVpsMaxDecPicBuffering := nMaxDecPicBuffering, nVpsNumReorderPics := nNumReorderPics }
        match layers with
        | none => errorExit dec pVps
        | some layers =>
            let (VpsList, heap) := storeSet dec.VpsList dec.heap nal.vpsVideoParameterSetId pVps
              (nal.toVps layers)
            some ({ dec with VpsList := VpsList, heap := heap }, 0)

structure SpsNal (Rest : Type) where
  spsVideoParameterSetId : Fin 16
  spsMaxSubLayersMinus1 : Fin 8
  generalProfileIdc : Fin 32
  spsSeqParameterSetId : UInt32
  chromaFormatIdc : UInt32
  log2MaxPicOrderCntLsbMinus4 : UInt32
  bSpsSubLayerOrderingInfoPresentFlag : Bool
  layer : Nat → UInt32 × UInt32
  numShortTermRefPicSets : UInt32
  nWidth : Int
  nHeight : Int
  sizes : CtbSizes
  rest : Rest

def spsLayerRefused (layer : UInt32 × UInt32) : Bool :=
  let nSpsMaxDecPicBuffering := s32 (layer.1.toNat + 1)
  let nSpsMaxNumReoderPics := s32 layer.2.toNat
  decide (nSpsMaxDecPicBuffering > HEVC_MAX_DPB_SIZE) ||
    (decide (nSpsMaxNumReoderPics > s32 (nSpsMaxDecPicBuffering - 1)) &&
      decide (nSpsMaxNumReoderPics > HEVC_MAX_DPB_SIZE))

def SpsNal.nSpsId (nal : SpsNal Rest) : Int := s32 nal.spsSeqParameterSetId.toNat

/-- The checks behind the profile, in their order. -/
def SpsNal.refused (nal : SpsNal Rest) : Bool :=
  decide (nal.nSpsId > HEVC_MAX_SPS_NUM) || decide (nal.chromaFormatIdc ≠ 1) ||
    decide ((nal.log2MaxPicOrderCntLsbMinus4.toNat + 4) % 2 ^ 32 > 16) ||
    (layersRead nal.bSpsSubLayerOrderingInfoPresentFlag nal.spsMaxSubLayersMinus1 nal.layer).any
      spsLayerRefused ||
    decide (nal.numShortTermRefPicSets.toNat > HEVC_MAX_SHORT_TERM_RPS_COUNT)

def SpsNal.toSps (nal : SpsNal Rest) : HevcSPS Rest :=
  ⟨nal.spsVideoParameterSetId, nal.spsMaxSubLayersMinus1 + 1, nal.generalProfileIdc, nal.nWidth,
    nal.nHeight, nal.sizes, nal.rest⟩

def HevcDecodeNalSps [DecidableEq Rest] (dec : HevcContex Rest) (nal : SpsNal Rest) :
    Pointer → Option (HevcContex Rest × Int)
  | none => some (dec, -1)
  | some pSps =>
      let dec := { dec with heap := update dec.heap pSps true }
      if (dec.VpsList nal.spsVideoParameterSetId).isNone then errorExit dec pSps
      else if (nal.spsMaxSubLayersMinus1 : Nat) + 1 > HEVC_MAX_SUB_LAYERS then errorExit dec pSps
      else
        let (b10BitStreamFlag, sizeChange) :=
          HevcParsePTL dec.b10BitStreamFlag nal.generalProfileIdc
        let dec := { dec with b10BitStreamFlag := b10BitStreamFlag }
        if sizeChange then some (dec, HEVC_RESULT_PICTURES_SIZE_CHANGE)
        else if nal.refused then errorExit dec pSps
        else if nal.nSpsId < 0 ∨ HEVC_MAX_SPS_NUM ≤ nal.nSpsId then none
        else
          let (SpsList, heap) := storeSet dec.SpsList dec.heap nal.nSpsId.toNat pSps nal.toSps
          some ({ dec with
            SpsList := SpsList
            heap := heap
            bHadFindSpsFlag := !(decide (nal.nWidth < 64) && decide (nal.nHeight < 64)) }, 0)

section Pps

open PpsTable

structure PpsNal (Rest : Type) where
  ppsPicParameterSetId : UInt32
  ppsSeqParameterSetId : UInt32
  nPpsCbQpOffset : Int
  nPpsCrQpOffset : Int
  tiles : Option TileSyntax
  deblockingOffsetsDiv2 : Option (Int × Int)
  rest : Rest

def PpsNal.nPpsId (nal : PpsNal Rest) : Int := s32 nal.ppsPicParameterSetId.toNat

structure Allocated where
  tables : PpsTable → Pointer
  heap : Heap

def allocate (calloc : PpsTable → Pointer) (set : Allocated) (tables : List PpsTable) : Allocated :=
  { tables := fun table => if table ∈ tables then calloc table else set.tables table
    heap := tables.foldl (fun heap table =>
      (calloc table).elim heap fun address => update heap address true) set.heap }

def freeTables (tables : PpsTable → Pointer) (heap : Heap) (freed : List PpsTable) : Heap :=
  freed.foldl (fun heap table => HevcFree heap (tables table)) heap

def freedByError2 : List PpsTable := [RowHeight, ColumnWidth]

def freedByError3 : List PpsTable :=
  [RowHeight, ColumnWidth, ColumBoundary, RowBoundary, ColumIdxX, CtbAddrRsToTs, CtbAddrTsToRs,
    TileId, TileIdInRs, TilePosInfo]

/-- `HevcFreePpsBuffer`. -/
def freedByBuffer : List PpsTable :=
  [RowHeight, ColumnWidth, ColumnWidth, ColumBoundary, RowBoundary, ColumIdxX, CtbAddrRsToTs,
    CtbAddrTsToRs, TileId, TileIdInRs, TilePositionRs, TilePosInfo]

def tileSizeTables : List PpsTable := [ColumnWidth, RowHeight]

def contextTables : List (List PpsTable) :=
  [[ColumBoundary, RowBoundary, ColumIdxX],
    [CtbAddrRsToTs, CtbAddrTsToRs, TileId, TileIdInRs, TilePosInfo], [TilePositionRs]]

def missing (calloc : PpsTable → Pointer) (tables : List PpsTable) : Bool :=
  tables.any fun table => (calloc table).isNone

def allocateContexts (calloc : PpsTable → Pointer) : List (List PpsTable) → Allocated →
    Allocated × Bool
  | [], set => (set, true)
  | tables :: later, set =>
      if missing calloc tables then (allocate calloc set tables, false)
      else allocateContexts calloc later (allocate calloc set tables)

def offsetRefused (nOffset : Int) : Bool := decide (nOffset < -12) || decide (nOffset > 12)

def halfRefused (nOffsetDiv2 : Int) : Bool :=
  decide (Int.tdiv (s32 (nOffsetDiv2 * 2)) 2 < -6) ||
    decide (Int.tdiv (s32 (nOffsetDiv2 * 2)) 2 > 6)

def tileSizesRefused (sizes : CtbSizes) (tiles : TileSyntax) : Bool :=
  !tiles.uniformSpacingFlag &&
    ((codedSizes (s32 (tiles.numTileColumnsMinus1.toNat + 1)) sizes.nCtbWidth
        tiles.columnWidthMinus1).isNone ||
      (codedSizes (s32 (tiles.numTileRowsMinus1.toNat + 1)) sizes.nCtbHeight
        tiles.rowHeightMinus1).isNone)

/-- `HEVC_DECODE_PPS_ERROR`, and `2` and `3` with their tables. -/
def ppsErrorExit (dec : HevcContex Rest) (pPps : Nat) (set : Allocated) (freed : List PpsTable) :
    Option (HevcContex Rest × Int) :=
  some ({ dec with heap := HevcFree (freeTables set.tables set.heap freed) (some pPps) }, -1)

/-- Behind `HevcDecodePpsExit`. -/
def storedPps (dec : HevcContex Rest) (nal : PpsNal Rest) (id pPps : Nat) (set : Allocated) :
    HevcContex Rest :=
  { dec with
    PpsList := update dec.PpsList id
      (some (pPps, ⟨nal.ppsSeqParameterSetId.toNat, set.tables, nal.rest⟩))
    heap := (dec.PpsList id).elim set.heap fun (old, stored) =>
      HevcFree (freeTables stored.tables set.heap freedByBuffer) (some old)
    bHadFindPpsFlag := true }

def storePps (dec : HevcContex Rest) (nal : PpsNal Rest) (pPps : Nat) (set : Allocated) :
    Option (HevcContex Rest × Int) :=
  if nal.nPpsId < 0 ∨ HEVC_MAX_PPS_NUM ≤ nal.nPpsId then none
  else some (storedPps dec nal nal.nPpsId.toNat pPps set, 0)

/-- What follows the lookup of the SPS. The uniform sizes are not allocated once more, since the
tables are there. -/
def parsePps (dec : HevcContex Rest) (nal : PpsNal Rest) (calloc : Option PpsTable → Pointer)
    (pPps : Nat) (set : Allocated) (sizes : CtbSizes) : Option (HevcContex Rest × Int) :=
  let table := fun name => calloc (some name)
  let deblockingRefused := nal.deblockingOffsetsDiv2.any fun offsets =>
    halfRefused offsets.1 || halfRefused offsets.2
  if offsetRefused nal.nPpsCbQpOffset || offsetRefused nal.nPpsCrQpOffset then
    ppsErrorExit dec pPps set []
  else
    match nal.tiles with
    | none =>
      if deblockingRefused then ppsErrorExit dec pPps set freedByError2
      else storePps dec nal pPps set
    | some tiles =>
      let set := allocate table set tileSizeTables
      if missing table tileSizeTables then ppsErrorExit dec pPps set freedByError2
      else if tileSizesRefused sizes tiles then ppsErrorExit dec pPps set freedByError2
      else if deblockingRefused then ppsErrorExit dec pPps set freedByError2
      else
        let (set, complete) := allocateContexts table contextTables set
        if complete then storePps dec nal pPps set
        else ppsErrorExit dec pPps set freedByError3

/-- `calloc none` is the block of the set. -/
def HevcDecodeNalPps (dec : HevcContex Rest) (nal : PpsNal Rest)
    (calloc : Option PpsTable → Pointer) : Option (HevcContex Rest × Int) :=
  match calloc none with
  | none => some (dec, -1)
  | some pPps =>
    let set : Allocated := ⟨fun _ => none, update dec.heap pPps true⟩
    if nal.nPpsId > HEVC_MAX_PPS_NUM then ppsErrorExit dec pPps set []
    else if nal.ppsSeqParameterSetId.toNat > HEVC_MAX_SPS_NUM then ppsErrorExit dec pPps set []
    else if HEVC_MAX_SPS_NUM ≤ nal.ppsSeqParameterSetId.toNat then none
    else
      (dec.SpsList nal.ppsSeqParameterSetId.toNat).elim (ppsErrorExit dec pPps set []) fun pSps =>
        parsePps dec nal calloc pPps set pSps.2.sizes

end Pps

inductive ParamNal (Rest : Type)
  | vps (nal : VpsNal Rest)
  | sps (nal : SpsNal Rest)
  | pps (nal : PpsNal Rest)

def decodeNal [DecidableEq Rest] (dec : HevcContex Rest) (calloc : Option PpsTable → Pointer) :
    ParamNal Rest → Option (HevcContex Rest × Int)
  | .vps nal => HevcDecodeNalVps dec nal (calloc none)
  | .sps nal => HevcDecodeNalSps dec nal (calloc none)
  | .pps nal => HevcDecodeNalPps dec nal calloc

inductive Slot
  | vps (id : Nat)
  | sps (id : Nat)
  | pps (id : Nat)
deriving DecidableEq

def ParamNal.slot : ParamNal Rest → Slot
  | .vps nal => .vps nal.vpsVideoParameterSetId
  | .sps nal => .sps nal.nSpsId.toNat
  | .pps nal => .pps nal.nPpsId.toNat

def Owns (dec : HevcContex Rest) (block : Nat) : Slot → Prop
  | .vps id => ∃ set, dec.VpsList id = some (block, set)
  | .sps id => ∃ set, dec.SpsList id = some (block, set)
  | .pps id => ∃ stored, dec.PpsList id = some stored ∧
      (block = stored.1 ∨ ∃ table, stored.2.tables table = some block)

def SlotKept (before after : HevcContex Rest) : Slot → Prop
  | .vps id => after.VpsList id = before.VpsList id
  | .sps id => after.SpsList id = before.SpsList id
  | .pps id => after.PpsList id = before.PpsList id

/-- The slot has the set that was sent. -/
def Holds (after : HevcContex Rest) : ParamNal Rest → Prop
  | .vps nal => ∃ address layers, (nal.layers (0, 0)).2 = some layers ∧
      after.VpsList nal.vpsVideoParameterSetId = some (address, nal.toVps layers)
  | .sps nal => ∃ address, after.SpsList nal.nSpsId.toNat = some (address, nal.toSps)
  | .pps nal => ∃ address stored, after.PpsList nal.nPpsId.toNat = some (address, stored) ∧
      stored.nSpsId = nal.ppsSeqParameterSetId.toNat ∧ stored.rest = nal.rest

/-- One slot may change; the blocks of the set that it had are freed, those of the set that it
has are live and no one else's, and all others are as before. -/
structure Stored (before after : HevcContex Rest) (slot : Slot) : Prop where
  others : ∀ other, other ≠ slot → SlotKept before after other
  own : ∀ block, Owns after block slot → Owns before block slot ∨ before.heap block = false
  blocks : ∀ block, after.heap block = true ↔
    Owns after block slot ∨ before.heap block = true ∧ ¬ Owns before block slot

/-- A call that fails changes nothing and leaves no block behind. -/
def CallRight (before : HevcContex Rest) (nal : ParamNal Rest) :
    Option (HevcContex Rest × Int) → Prop
  | none => False
  | some (after, nRet) =>
      if nRet ≠ 0 then after = before else Stored before after nal.slot ∧ Holds after nal

/-- What `calloc` returns: blocks that are not in use, each once. -/
structure Fresh (heap : Heap) (calloc : Option PpsTable → Pointer) : Prop where
  unused : ∀ name block, calloc name = some block → heap block = false
  once : ∀ name other block, calloc name = some block → calloc other = some block → name = other

inductive Reached [DecidableEq Rest] : HevcContex Rest → Prop
  | start : Reached HevcContex.init
  | call {dec after : HevcContex Rest} {nal : ParamNal Rest} {calloc : Option PpsTable → Pointer}
      {nRet : Int} (earlier : Reached dec) (fresh : Fresh dec.heap calloc)
      (result : decodeNal dec calloc nal = some (after, nRet)) : Reached after

section Condition

/-- Refused before the profile is parsed. -/
def VpsNal.refusedFirst (nal : VpsNal Rest) : Bool :=
  nal.vpsReservedThree2bits != 3 || nal.vpsReserved0xffff16bits != 0xffff ||
    decide ((nal.vpsMaxSubLayersMinus1 : Nat) + 1 > HEVC_MAX_SUB_LAYERS)

def vpsLayerRefused (layer : UInt32 × UInt32) : Bool :=
  decide ((layer.1.toNat + 1) % 2 ^ 32 > HEVC_MAX_DPB_SIZE)

def VpsNal.refusedLayer (nal : VpsNal Rest) : Option (UInt32 × UInt32) :=
  (layersRead nal.bVpsSubLayerOrderingInfoPresentFlag nal.vpsMaxSubLayersMinus1 nal.layer).find?
    vpsLayerRefused

/-- There is a block, no change of size is reported, and a set that is refused for a layer has
changed neither the flag nor the values of the context. -/
def VpsClean (dec : HevcContex Rest) (nal : VpsNal Rest) (calloc : Pointer) : Prop :=
  calloc ≠ none ∧ (nal.refusedFirst = false →
    (HevcParsePTL dec.b10BitStreamFlag nal.generalProfileIdc).2 = false ∧
      ∀ layer, nal.refusedLayer = some layer →
        (HevcParsePTL dec.b10BitStreamFlag nal.generalProfileIdc).1 = dec.b10BitStreamFlag ∧
          (layer.1.toNat + 1) % 2 ^ 32 = dec.nVpsMaxDecPicBuffering ∧
          layer.2.toNat = dec.nVpsNumReorderPics)

def spsRefusedFirst (dec : HevcContex Rest) (nal : SpsNal Rest) : Bool :=
  (dec.VpsList nal.spsVideoParameterSetId).isNone ||
    decide ((nal.spsMaxSubLayersMinus1 : Nat) + 1 > HEVC_MAX_SUB_LAYERS)

/-- No change of size is reported, a set that is refused behind the profile has not changed the
flag, and a set that is stored has an id of the list. -/
def SpsClean (dec : HevcContex Rest) (nal : SpsNal Rest) (calloc : Pointer) : Prop :=
  calloc ≠ none → spsRefusedFirst dec nal = false →
    (HevcParsePTL dec.b10BitStreamFlag nal.generalProfileIdc).2 = false ∧
      if nal.refused then
        (HevcParsePTL dec.b10BitStreamFlag nal.generalProfileIdc).1 = dec.b10BitStreamFlag
      else 0 ≤ nal.nSpsId ∧ nal.nSpsId < HEVC_MAX_SPS_NUM

def ppsIdsRefused (nal : PpsNal Rest) : Bool :=
  decide (nal.nPpsId > HEVC_MAX_PPS_NUM) ||
    decide (nal.ppsSeqParameterSetId.toNat > HEVC_MAX_SPS_NUM)

/-- Refused for its SPS, for an element or for a block that is missing. -/
def ppsRefused (dec : HevcContex Rest) (nal : PpsNal Rest) (calloc : Option PpsTable → Pointer) :
    Bool :=
  (dec.SpsList nal.ppsSeqParameterSetId.toNat).elim true fun pSps =>
    (offsetRefused nal.nPpsCbQpOffset || offsetRefused nal.nPpsCrQpOffset) ||
      ((nal.deblockingOffsetsDiv2.any fun offsets =>
        halfRefused offsets.1 || halfRefused offsets.2) ||
      nal.tiles.any fun tiles => missing (fun name => calloc (some name)) tileSizeTables ||
        (tileSizesRefused pSps.2.sizes tiles ||
          contextTables.any (missing fun name => calloc (some name))))

/-- The ids are inside the lists where the lists are looked at. -/
def PpsClean (dec : HevcContex Rest) (nal : PpsNal Rest) (calloc : Option PpsTable → Pointer) :
    Prop :=
  calloc none ≠ none → ppsIdsRefused nal = false →
    nal.ppsSeqParameterSetId.toNat ≠ HEVC_MAX_SPS_NUM ∧
      (ppsRefused dec nal calloc = false → 0 ≤ nal.nPpsId ∧ nal.nPpsId < HEVC_MAX_PPS_NUM)

def CallClean (dec : HevcContex Rest) (calloc : Option PpsTable → Pointer) : ParamNal Rest → Prop
  | .vps nal => VpsClean dec nal (calloc none)
  | .sps nal => SpsClean dec nal (calloc none)
  | .pps nal => PpsClean dec nal calloc

/-- The ends of a call, each with what it says of the condition. -/
inductive Outcome (before : HevcContex Rest) (nal : ParamNal Rest) (clean : Prop) :
    Option (HevcContex Rest × Int) → Prop
  | crashed (unclean : ¬ clean) : Outcome before nal clean none
  | failed {after : HevcContex Rest} {nRet : Int} (error : nRet ≠ 0)
      (others : ∀ slot, SlotKept before after slot)
      (grows : ∀ block, before.heap block = true → after.heap block = true)
      (same : after = before ↔ clean) : Outcome before nal clean (some (after, nRet))
  | stored {after : HevcContex Rest} (holds : clean) (stored : Stored before after nal.slot)
      (sent : Holds after nal) : Outcome before nal clean (some (after, 0))

variable {before : HevcContex Rest} {nal : ParamNal Rest} {clean : Prop}

theorem Outcome.unchanged
    (holds : clean) : Outcome before nal clean (some (before, -1)) := by
  apply Outcome.failed (by decide) _ (fun _ => id) (iff_of_true rfl holds)
  intro slot
  cases slot <;> rfl

theorem Outcome.right_iff
    {result : Option (HevcContex Rest × Int)} (outcome : Outcome before nal clean result) :
    CallRight before nal result ↔ clean := by
  cases outcome with
  | crashed unclean => exact iff_of_false id unclean
  | failed error _ _ same =>
    rw [← same]
    exact iff_of_eq (if_pos error)
  | stored holds stored sent => exact iff_of_true ⟨stored, sent⟩ holds

end Condition

section Blocks

variable {heap : Heap} {block : Nat}

theorem freed_back (unused : heap block = false) :
    HevcFree (update heap block true) (some block) = heap := by
  change update (update heap block true) block false = heap
  rw [update_idem, ← unused, update_eq_self]

theorem free_apply (pointer : Pointer) (other : Nat) :
    HevcFree heap pointer other = true ↔ heap other = true ∧ pointer ≠ some other := by
  cases pointer with
  | none => simp [HevcFree]
  | some freed =>
    by_cases same : other = freed
    · simp [HevcFree, same]
    · simp [HevcFree, same, Ne.symm same]

theorem update_apply (other : Nat) :
    update heap block true other = true ↔ heap other = true ∨ other = block := by
  by_cases same : other = block <;> simp [same]

/-- A set that is stored is the only change of its list, and its block takes the place of the
block of the old one. -/
theorem store_set_spec {Set : Type} [DecidableEq Set] {list : Nat → Option (Nat × Set)} {id : Nat}
    {set : Set} (unused : heap block = false)
    (live : ∀ old stored, list id = some (old, stored) → heap old = true)
    {after : (Nat → Option (Nat × Set)) × Heap}
    (result : storeSet list (update heap block true) id block set = after) :
    (∃ address, after.1 id = some (address, set) ∧
        ((∃ stored, list id = some (address, stored)) ∨ heap address = false)) ∧
      (∀ other, other ≠ id → after.1 other = list other) ∧ ∀ other, after.2 other = true ↔
        (∃ stored, after.1 id = some (other, stored)) ∨
          heap other = true ∧ ¬ ∃ stored, list id = some (other, stored) := by
  unfold storeSet at result
  cases slot : list id with
  | none =>
    rw [slot] at result
    subst result
    refine ⟨⟨block, update_self _ _ _, Or.inr unused⟩, ?_, ?_⟩
    · intro other apart
      exact update_of_ne apart _ _
    · intro other
      by_cases here : other = block
      · simp [here]
      · simp [here, Ne.symm here]
  | some old =>
    rcases old with ⟨old, stored⟩
    rw [slot] at result
    have old_live := live old stored slot
    dsimp only at result
    split at result
    · rename_i same
      subst result
      rw [freed_back unused]
      dsimp only
      rw [slot, same]
      refine ⟨⟨old, rfl, Or.inl ⟨_, rfl⟩⟩, fun _ _ => rfl, ?_⟩
      intro other
      by_cases here : other = old
      · simp [here, old_live]
      · simp [Ne.symm here]
    · subst result
      refine ⟨⟨block, update_self _ _ _, Or.inr unused⟩, ?_, ?_⟩
      · intro other apart
        exact update_of_ne apart _ _
      · intro other
        rw [free_apply, update_apply]
        by_cases here : other = block
        · have apart : old ≠ block := by
            intro same
            rw [same, unused] at old_live
            cases old_live
          simp [here, apart]
        · simp [here, Ne.symm here]

variable {dec after : HevcContex Rest}

theorem same_lists (same : after.VpsList = dec.VpsList ∧
    after.SpsList = dec.SpsList ∧ after.PpsList = dec.PpsList) (slot : Slot) :
    SlotKept dec after slot := by
  rcases same with ⟨vps, sps, pps⟩
  cases slot with
  | vps id => exact congrFun vps id
  | sps id => exact congrFun sps id
  | pps id => exact congrFun pps id

theorem grown (block : Nat) {other : Nat} (lives : heap other = true) :
    update heap block true other = true :=
  (update_apply other).mpr (Or.inl lives)

theorem leaked {pNew : Nat} (fresh : dec.heap pNew = false)
    (grown : after.heap = update dec.heap pNew true) : after ≠ dec := by
  rintro rfl
  rw [grown, update_self] at fresh
  cases fresh

end Blocks

section Vps

variable {dec : HevcContex Rest} {nal : VpsNal Rest} {pVps : Nat}

/-- The first layer that is refused ends the loop, and its values stay in the context. -/
theorem vps_layers_spec (buffers : Nat × Nat) (layers : List (UInt32 × UInt32)) :
    (layers.find? vpsLayerRefused = none →
      (vpsLayers buffers layers).2 = (vpsLayers (0, 0) layers).2 ∧
        ∃ stored, (vpsLayers buffers layers).2 = some stored) ∧
    ∀ layer, layers.find? vpsLayerRefused = some layer → vpsLayers buffers layers =
      (((layer.1.toNat + 1) % 2 ^ 32, layer.2.toNat), none) := by
  induction layers generalizing buffers with
  | nil => simp [vpsLayers]
  | cons first rest ih =>
    by_cases refused : vpsLayerRefused first = true
    · have large := of_decide_eq_true refused
      rw [List.find?_cons_of_pos refused]
      constructor
      · intro none
        cases none
      · rintro layer ⟨⟩
        unfold vpsLayers
        dsimp only
        rw [if_pos large]
    · have small : ¬ (first.1.toNat + 1) % 2 ^ 32 > HEVC_MAX_DPB_SIZE :=
        fun large => refused (decide_eq_true large)
      rw [List.find?_cons_of_neg refused]
      rcases ih ((first.1.toNat + 1) % 2 ^ 32, first.2.toNat) with ⟨accepted, stops⟩
      unfold vpsLayers
      dsimp only
      rw [if_neg small]
      constructor
      · intro none
        rcases (accepted none).2 with ⟨stored, held⟩
        rw [held]
        exact ⟨rfl, _, rfl⟩
      · intro layer found
        rw [stops layer found]
        rfl

theorem error_exit_spec {dec : HevcContex Rest} {heap : Heap} {address : Nat}
    (fresh : heap address = false) (same : dec.heap = update heap address true) :
    errorExit dec address = some ({ dec with heap := heap }, -1) := by
  unfold errorExit
  rw [same, freed_back fresh]

theorem vps_outcome [DecidableEq Rest] (fresh : dec.heap pVps = false)
    (live : ∀ id old stored, dec.VpsList id = some (old, stored) → dec.heap old = true) :
    Outcome dec (.vps nal) (VpsClean dec nal (some pVps))
      (HevcDecodeNalVps dec nal (some pVps)) := by
  unfold HevcDecodeNalVps
  rw [Option.bind_some]
  dsimp only
  have freed := @error_exit_spec Rest { dec with heap := update dec.heap pVps true }
    dec.heap pVps fresh rfl
  by_cases first : nal.refusedFirst = true
  · have clean : VpsClean dec nal (some pVps) :=
      ⟨nofun, fun goes => absurd first (ne_true_of_eq_false goes)⟩
    simp only [VpsNal.refusedFirst, Bool.or_eq_true, bne_iff_ne, decide_eq_true_eq] at first
    rcases first with (reserved | reserved) | layers
    · rw [if_pos reserved, freed]
      exact Outcome.unchanged clean
    · rw [if_pos reserved, freed, ite_self]
      exact Outcome.unchanged clean
    · rw [if_pos layers, freed, ite_self, ite_self]
      exact Outcome.unchanged clean
  · have goes := eq_false_of_ne_true first
    simp only [VpsNal.refusedFirst, Bool.or_eq_true, bne_iff_ne, decide_eq_true_eq, not_or]
      at first
    rw [if_neg first.1.1, if_neg first.1.2, if_neg first.2]
    split_ifs with change
    · refine Outcome.failed (by decide) (same_lists ⟨rfl, rfl, rfl⟩) (fun _ => grown pVps) ?_
      apply iff_of_false (leaked fresh rfl)
      rintro ⟨_, clean⟩
      rw [(clean goes).1] at change
      cases change
    · rcases vps_layers_spec (dec.nVpsMaxDecPicBuffering, dec.nVpsNumReorderPics)
        (layersRead nal.bVpsSubLayerOrderingInfoPresentFlag nal.vpsMaxSubLayersMinus1 nal.layer)
        with ⟨accepted, stops⟩
      unfold VpsNal.layers
      cases found : nal.refusedLayer with
      | some layer =>
        rw [stops layer found]
        dsimp only
        rw [error_exit_spec fresh rfl]
        refine Outcome.failed (by decide) (same_lists ⟨rfl, rfl, rfl⟩) (fun _ => id) ?_
        have quiet := eq_false_of_ne_true change
        rcases dec with ⟨_⟩
        simp [VpsClean, goes, found, quiet]
      | none =>
        rcases accepted found with ⟨same, layers, held⟩
        rw [held]
        rcases store_set_spec fresh (live nal.vpsVideoParameterSetId) rfl with
          ⟨⟨address, here, own⟩, others, blocks⟩
        apply Outcome.stored
        · simpa [VpsClean, goes, found] using change
        · constructor
          · intro other apart
            cases other with
            | vps id => exact others id fun here => apart (congrArg Slot.vps here)
            | sps id | pps id => rfl
          · rintro block ⟨set, held⟩
            obtain ⟨rfl, _⟩ := Prod.mk.inj (Option.some.inj (here.symm.trans held))
            exact own
          · exact blocks
        · exact ⟨address, layers, same.symm.trans held, here⟩

end Vps

section Sps

variable {dec : HevcContex Rest} {nal : SpsNal Rest} {pSps : Nat}

theorem sps_outcome [DecidableEq Rest] (fresh : dec.heap pSps = false)
    (live : ∀ id old stored, dec.SpsList id = some (old, stored) → dec.heap old = true) :
    Outcome dec (.sps nal) (SpsClean dec nal (some pSps))
      (HevcDecodeNalSps dec nal (some pSps)) := by
  unfold HevcDecodeNalSps
  dsimp only
  have freed := @error_exit_spec Rest { dec with heap := update dec.heap pSps true }
    dec.heap pSps fresh rfl
  by_cases first : spsRefusedFirst dec nal = true
  · have clean : SpsClean dec nal (some pSps) :=
      fun _ goes => absurd first (ne_true_of_eq_false goes)
    simp only [spsRefusedFirst, Bool.or_eq_true, decide_eq_true_eq] at first
    rcases first with unknown | layers
    · rw [if_pos unknown, freed]
      exact Outcome.unchanged clean
    · rw [if_pos layers, freed, ite_self]
      exact Outcome.unchanged clean
  · have goes := eq_false_of_ne_true first
    simp only [spsRefusedFirst, Bool.or_eq_true, decide_eq_true_eq, not_or] at first
    rw [if_neg first.1, if_neg first.2]
    split_ifs with change refused outside
    · refine Outcome.failed (by decide) (same_lists ⟨rfl, rfl, rfl⟩) (fun _ => grown pSps) ?_
      apply iff_of_false (leaked fresh rfl)
      intro clean
      rw [(clean nofun goes).1] at change
      cases change
    · rw [error_exit_spec fresh rfl]
      refine Outcome.failed (by decide) (same_lists ⟨rfl, rfl, rfl⟩) (fun _ => id) ?_
      have quiet := eq_false_of_ne_true change
      rcases dec with ⟨_⟩
      simp [SpsClean, goes, refused, quiet]
    · apply Outcome.crashed
      intro clean
      unfold SpsClean at clean
      rw [if_neg refused] at clean
      have inside := clean (Option.some_ne_none pSps) goes
      omega
    · rcases store_set_spec fresh (live nal.nSpsId.toNat) rfl with
        ⟨⟨address, here, own⟩, others, blocks⟩
      apply Outcome.stored
      · intro _ _
        rw [if_neg refused]
        exact ⟨eq_false_of_ne_true change, by omega⟩
      · constructor
        · intro other apart
          cases other with
          | vps id | pps id => rfl
          | sps id => exact others id fun here => apart (congrArg Slot.sps here)
        · rintro block ⟨set, held⟩
          obtain ⟨rfl, _⟩ := Prod.mk.inj (Option.some.inj (here.symm.trans held))
          exact own
        · exact blocks
      · exact ⟨address, here⟩

end Sps

section Pps

variable {dec : HevcContex Rest} {nal : PpsNal Rest} {pPps : Nat}
  {calloc : Option PpsTable → Pointer} {set : Allocated} {names more : List PpsTable}

structure AllocatedFrom (heap : Heap) (pPps : Nat) (calloc : Option PpsTable → Pointer)
    (names : List PpsTable) (set : Allocated) : Prop where
  tables : ∀ name, set.tables name = if name ∈ names then calloc (some name) else none
  heap : ∀ block, set.heap block = true ↔
    heap block = true ∨ block = pPps ∨ ∃ name ∈ names, calloc (some name) = some block

theorem allocated_more (from_names : AllocatedFrom dec.heap pPps calloc names set) :
    AllocatedFrom dec.heap pPps calloc (names ++ more)
      (allocate (fun name => calloc (some name)) set more) := by
  constructor
  · intro name
    unfold allocate
    dsimp only
    rw [from_names.tables]
    by_cases new : name ∈ more <;> simp [new]
  · intro block
    have grown : (more.foldl (fun heap table => (calloc (some table)).elim heap fun address =>
        update heap address true) set.heap block = true) ↔
          set.heap block = true ∨ ∃ name ∈ more, calloc (some name) = some block := by
      generalize set.heap = heap
      induction more generalizing heap with
      | nil => simp
      | cons name rest ih =>
        rw [List.foldl_cons, ih]
        cases block_of : calloc (some name) with
        | none => simp [block_of]
        | some address =>
          rw [Option.elim_some, update_apply]
          simp [block_of, or_assoc, @eq_comm _ address]
    unfold allocate
    dsimp only
    rw [grown, from_names.heap]
    simp only [List.mem_append, or_and_right, exists_or, or_assoc]

theorem free_tables_apply (tables : PpsTable → Pointer) (heap : Heap) (freed : List PpsTable)
    (block : Nat) : freeTables tables heap freed block = true ↔
      heap block = true ∧ ∀ name ∈ freed, tables name ≠ some block := by
  unfold freeTables
  induction freed generalizing heap with
  | nil => simp
  | cons name rest ih => simp [ih, free_apply, and_assoc]

/-- The macros free what has been allocated, as far as it was given out. -/
theorem pps_error_exit_spec (fresh : Fresh dec.heap calloc) (block : calloc none = some pPps)
    {freed : List PpsTable} (from_names : AllocatedFrom dec.heap pPps calloc names set)
    (covered : ∀ name ∈ names, name ∈ freed ∨ calloc (some name) = none) :
    ppsErrorExit dec pPps set freed = some (dec, -1) := by
  have same : HevcFree (freeTables set.tables set.heap freed) (some pPps) = dec.heap := by
    funext other
    rw [Bool.eq_iff_iff, free_apply, free_tables_apply, from_names.heap]
    constructor
    · rintro ⟨⟨live | own | ⟨name, listed, table⟩, kept⟩, apart⟩
      · exact live
      · exact absurd (congrArg some own.symm) apart
      · rcases covered name listed with gone | missing
        · apply absurd _ (kept name gone)
          rw [from_names.tables, if_pos listed, table]
        · rw [missing] at table
          cases table
    · intro live
      refine ⟨⟨Or.inl live, ?_⟩, ?_⟩
      · intro name _ table
        rw [from_names.tables] at table
        split at table
        · rw [fresh.unused _ _ table] at live
          cases live
        · cases table
      · rintro ⟨⟩
        rw [fresh.unused _ _ block] at live
        cases live
  unfold ppsErrorExit
  rw [same]

theorem all_freed_by_buffer (name : PpsTable) : name ∈ freedByBuffer := by
  cases name <;> decide

theorem stored_pps_spec {id : Nat} (fresh : Fresh dec.heap calloc) (block : calloc none = some pPps)
    (live : ∀ other, Owns dec other (.pps id) → dec.heap other = true)
    (from_names : AllocatedFrom dec.heap pPps calloc names set) :
    Stored dec (storedPps dec nal id pPps set) (.pps id) := by
  have own : ∀ other, Owns (storedPps dec nal id pPps set) other (.pps id) ↔
      other = pPps ∨ ∃ name ∈ names, calloc (some name) = some other := by
    intro other
    simp only [Owns, storedPps, update_self, Option.some.injEq, exists_eq_left', from_names.tables]
    apply or_congr_right
    apply exists_congr
    intro name
    by_cases listed : name ∈ names <;> simp [listed]
  have unused : ∀ other, Owns (storedPps dec nal id pPps set) other (.pps id) →
      dec.heap other = false := by
    intro other owned
    rcases (own other).mp owned with rfl | ⟨name, _, table⟩
    · exact fresh.unused _ _ block
    · exact fresh.unused _ _ table
  constructor
  · intro other apart
    cases other with
    | vps id | sps id => rfl
    | pps other => exact update_of_ne (fun here => apart (congrArg Slot.pps here)) _ _
  · exact fun other owned => Or.inr (unused other owned)
  · intro other
    have grown := from_names.heap other
    rw [← own] at grown
    change (dec.PpsList id).elim set.heap _ other = true ↔ _
    cases before : dec.PpsList id with
    | none =>
      rw [Option.elim_none, grown, or_comm]
      simp [Owns, before]
    | some old =>
      rcases old with ⟨old, stored⟩
      have owned : Owns dec other (.pps id) ↔
          other = old ∨ ∃ table, stored.tables table = some other := by
        simp [Owns, before]
      rw [Option.elim_some]
      dsimp only
      rw [free_apply, free_tables_apply, grown]
      constructor
      · rintro ⟨⟨held | new, kept⟩, apart⟩
        · refine Or.inr ⟨held, ?_⟩
          rw [owned]
          rintro (rfl | ⟨table, here⟩)
          · exact apart rfl
          · exact kept table (all_freed_by_buffer table) here
        · exact Or.inl new
      · intro held
        have apart : ¬ Owns dec other (.pps id) := by
          intro earlier
          rcases held with new | ⟨_, apart⟩
          · have lives := live other earlier
            rw [unused other new] at lives
            cases lives
          · exact apart earlier
        rw [owned, not_or, not_exists] at apart
        refine ⟨⟨?_, fun table _ => apart.2 table⟩, fun same => apart.1 (Option.some.inj same).symm⟩
        rcases held with new | ⟨lives, _⟩
        · exact Or.inr new
        · exact Or.inl lives

theorem stored_pps_slot (id : Nat) : (storedPps dec nal id pPps set).PpsList id =
    some (pPps, ⟨nal.ppsSeqParameterSetId.toNat, set.tables, nal.rest⟩) :=
  update_self _ _ _

/-- The contexts stop at the first that misses a block, and then `TilePositionRs` is not there. -/
theorem contexts_cases
    (from_names : AllocatedFrom dec.heap pPps calloc tileSizeTables set) :
    ∃ names after, AllocatedFrom dec.heap pPps calloc names after ∧
      allocateContexts (fun name => calloc (some name)) contextTables set =
        (after, !contextTables.any (missing fun name => calloc (some name))) ∧
      (contextTables.any (missing fun name => calloc (some name)) = true →
        ∀ name ∈ names, name ∈ freedByError3 ∨ calloc (some name) = none) := by
  have first := @allocated_more _ _ _ _ _ _ [.ColumBoundary, .RowBoundary, .ColumIdxX] from_names
  have second := @allocated_more _ _ _ _ _ _
    [.CtbAddrRsToTs, .CtbAddrTsToRs, .TileId, .TileIdInRs, .TilePosInfo] first
  have third := @allocated_more _ _ _ _ _ _ [.TilePositionRs] second
  unfold contextTables allocateContexts
  split_ifs with none
  · refine ⟨_, _, first, by simp [none], fun _ => ?_⟩
    simp [tileSizeTables, freedByError3]
  · unfold allocateContexts
    split_ifs with none'
    · refine ⟨_, _, second, by simp [none, none'], fun _ => ?_⟩
      simp [tileSizeTables, freedByError3]
    · unfold allocateContexts
      split_ifs with none''
      · refine ⟨_, _, third, by simp [none, none', none''], fun _ => ?_⟩
        simpa [tileSizeTables, freedByError3, missing] using none''
      · refine ⟨_, _, third, by simp [allocateContexts, none, none', none''], ?_⟩
        simp [none, none', none'']

/-- Behind the lookup of the SPS the set is refused, with all of it freed, or stored. -/
theorem parse_pps_cases {sizes : CtbSizes} (fresh : Fresh dec.heap calloc)
    (block : calloc none = some pPps) (bare : AllocatedFrom dec.heap pPps calloc [] set) :
    let refused := (offsetRefused nal.nPpsCbQpOffset || offsetRefused nal.nPpsCrQpOffset) ||
      ((nal.deblockingOffsetsDiv2.any fun offsets =>
        halfRefused offsets.1 || halfRefused offsets.2) ||
      nal.tiles.any fun tiles => missing (fun name => calloc (some name)) tileSizeTables ||
        (tileSizesRefused sizes tiles ||
          contextTables.any (missing fun name => calloc (some name))))
    refused = true ∧ parsePps dec nal calloc pPps set sizes = some (dec, -1) ∨
      refused = false ∧ ∃ names after, AllocatedFrom dec.heap pPps calloc names after ∧
        parsePps dec nal calloc pPps set sizes = storePps dec nal pPps after := by
  have two := @allocated_more _ _ _ _ _ _ tileSizeTables bare
  have error := fun freed => @pps_error_exit_spec Rest dec pPps calloc _ _ fresh block freed bare
    (by simp)
  have error2 := @pps_error_exit_spec Rest dec pPps calloc _ _ fresh block freedByError2 two
    (by simp [tileSizeTables, freedByError2])
  unfold parsePps
  dsimp only
  by_cases offset : (offsetRefused nal.nPpsCbQpOffset || offsetRefused nal.nPpsCrQpOffset) = true
  · rw [if_pos offset, error]
    exact Or.inl ⟨by simp [offset], rfl⟩
  · rw [if_neg offset]
    rw [eq_false_of_ne_true offset, Bool.false_or]
    cases nal.tiles with
    | none =>
      dsimp only
      rw [Option.any_none, Bool.or_false]
      split_ifs with deblocking
      · exact Or.inl ⟨deblocking, error _⟩
      · exact Or.inr ⟨eq_false_of_ne_true deblocking, [], set, bare, rfl⟩
    | some tiles =>
      dsimp only
      rw [Option.any_some]
      split_ifs with first second deblocking complete
      · exact Or.inl ⟨by simp [first], error2⟩
      · exact Or.inl ⟨by simp [second], error2⟩
      · exact Or.inl ⟨by simp [deblocking], error2⟩
      · rcases contexts_cases two with ⟨names, after, from_names, result, _⟩
        rw [result] at complete ⊢
        refine Or.inr ⟨?_, names, after, from_names, rfl⟩
        simp_all
      · rcases contexts_cases two with ⟨names, after, from_names, result, covered⟩
        rw [result] at complete ⊢
        have none : contextTables.any (missing fun name => calloc (some name)) = true := by
          simpa using complete
        refine Or.inl ⟨by simp [none], ?_⟩
        exact pps_error_exit_spec fresh block from_names (covered none)

theorem pps_outcome (fresh : Fresh dec.heap calloc) (block : calloc none = some pPps)
    (live : ∀ slot other, Owns dec other slot → dec.heap other = true) :
    Outcome dec (.pps nal) (PpsClean dec nal calloc) (HevcDecodeNalPps dec nal calloc) := by
  have bare : AllocatedFrom dec.heap pPps calloc []
      ⟨fun _ => none, update dec.heap pPps true⟩ := by
    constructor
    · intro name
      simp
    · intro other
      simp [update_apply]
  have error := fun freed => @pps_error_exit_spec Rest dec pPps calloc _ _ fresh block freed bare
    (by simp)
  have given : calloc none ≠ none := by simp [block]
  unfold HevcDecodeNalPps
  rw [block]
  dsimp only
  by_cases ids : ppsIdsRefused nal = true
  · have clean : PpsClean dec nal calloc := fun _ goes => absurd ids (ne_true_of_eq_false goes)
    simp only [ppsIdsRefused, Bool.or_eq_true, decide_eq_true_eq] at ids
    rcases ids with large | large
    · rw [if_pos large, error]
      exact Outcome.unchanged clean
    · rw [if_pos large, error, ite_self]
      exact Outcome.unchanged clean
  · have goes := eq_false_of_ne_true ids
    simp only [ppsIdsRefused, Bool.or_eq_true, decide_eq_true_eq, not_or] at ids
    rw [if_neg ids.1, if_neg ids.2]
    by_cases last : HEVC_MAX_SPS_NUM ≤ nal.ppsSeqParameterSetId.toNat
    · rw [if_pos last]
      exact Outcome.crashed fun clean => (clean given goes).1 (by omega)
    · rw [if_neg last]
      have apart : nal.ppsSeqParameterSetId.toNat ≠ HEVC_MAX_SPS_NUM := by omega
      have refused_clean (refused : ppsRefused dec nal calloc = true) : PpsClean dec nal calloc :=
        fun _ _ => ⟨apart, fun accepted => absurd refused (ne_true_of_eq_false accepted)⟩
      unfold ppsRefused at refused_clean
      cases slot : dec.SpsList nal.ppsSeqParameterSetId.toNat with
      | none =>
        rw [slot] at refused_clean
        rw [Option.elim_none, error]
        exact Outcome.unchanged (refused_clean rfl)
      | some pSps =>
        rw [slot] at refused_clean
        rw [Option.elim_some]
        rcases @parse_pps_cases Rest dec nal pPps calloc _ pSps.2.sizes fresh block bare with
          ⟨refused, result⟩ | ⟨accepted, names, set, from_names, result⟩
        · rw [result]
          exact Outcome.unchanged (refused_clean refused)
        · rw [result]
          have accepted : ppsRefused dec nal calloc = false := by
            unfold ppsRefused
            rw [slot]
            exact accepted
          unfold storePps
          split_ifs with outside
          · apply Outcome.crashed
            intro clean
            have inside := (clean given goes).2 accepted
            omega
          · apply Outcome.stored
            · exact fun _ _ => ⟨apart, fun _ => by omega⟩
            · exact stored_pps_spec fresh block (live _) from_names
            · exact ⟨pPps, _, stored_pps_slot nal.nPpsId.toNat, rfl, rfl⟩

end Pps

variable {dec after : HevcContex Rest} {nal : ParamNal Rest} {slot : Slot}
  {calloc : Option PpsTable → Pointer}

/-- The blocks of the sets are live, and no two sets share one. -/
structure BlocksKept (dec : HevcContex Rest) : Prop where
  live : ∀ slot block, Owns dec block slot → dec.heap block = true
  apart : ∀ slot other block, Owns dec block slot → Owns dec block other → slot = other

theorem owns_kept (kept : SlotKept dec after slot) (block : Nat) :
    Owns after block slot ↔ Owns dec block slot := by
  cases slot <;> simp only [SlotKept] at kept <;> simp only [Owns, kept]

theorem stored_kept (kept : BlocksKept dec) (stored : Stored dec after slot) :
    BlocksKept after := by
  have before : ∀ other block, other ≠ slot → Owns after block other → Owns dec block other :=
    fun other block apart => (owns_kept (stored.others other apart) block).mp
  have separate : ∀ other block, other ≠ slot → Owns after block other →
      ¬ Owns after block slot := by
    intro other block apart owned here
    rcases stored.own block here with earlier | unused
    · exact apart (kept.apart other slot block (before other block apart owned) earlier)
    · rw [kept.live other block (before other block apart owned)] at unused
      cases unused
  constructor
  · intro other block owned
    rw [stored.blocks]
    by_cases same : other = slot
    · exact Or.inl (same ▸ owned)
    · have earlier := before other block same owned
      exact Or.inr ⟨kept.live other block earlier,
        fun here => same (kept.apart other slot block earlier here)⟩
  · intro first second block one two
    by_cases left : first = slot
    · by_cases right : second = slot
      · exact left.trans right.symm
      · exact absurd (left ▸ one) (separate second block right two)
    · by_cases right : second = slot
      · exact absurd (right ▸ two) (separate first block left one)
      · exact kept.apart first second block (before first block left one)
          (before second block right two)

/-- A call that stores nothing leaves the lists, and frees no block of theirs. -/
theorem lists_kept (kept : BlocksKept dec) (others : ∀ slot, SlotKept dec after slot)
    (grows : ∀ block, dec.heap block = true → after.heap block = true) : BlocksKept after := by
  constructor
  · intro slot block owned
    exact grows block (kept.live slot block ((owns_kept (others slot) block).mp owned))
  · intro first second block one two
    exact kept.apart first second block ((owns_kept (others first) block).mp one)
      ((owns_kept (others second) block).mp two)

theorem call_outcome [DecidableEq Rest] (kept : BlocksKept dec) (fresh : Fresh dec.heap calloc) :
    Outcome dec nal (CallClean dec calloc nal) (decodeNal dec calloc nal) := by
  cases nal with
  | vps nal =>
    change Outcome dec _ (VpsClean dec nal (calloc none)) (HevcDecodeNalVps dec nal (calloc none))
    cases block : calloc none with
    | none => exact Outcome.crashed fun clean => clean.1 rfl
    | some pVps =>
      exact vps_outcome (fresh.unused _ _ block) fun id old set here =>
        kept.live (.vps id) old ⟨set, here⟩
  | sps nal =>
    change Outcome dec _ (SpsClean dec nal (calloc none)) (HevcDecodeNalSps dec nal (calloc none))
    cases block : calloc none with
    | none => exact Outcome.unchanged fun given => absurd rfl given
    | some pSps =>
      exact sps_outcome (fresh.unused _ _ block) fun id old set here =>
        kept.live (.sps id) old ⟨set, here⟩
  | pps nal =>
    cases block : calloc none with
    | none =>
      change Outcome dec _ (PpsClean dec nal calloc) (HevcDecodeNalPps dec nal calloc)
      unfold HevcDecodeNalPps
      rw [block]
      exact Outcome.unchanged fun given => absurd block given
    | some pPps => exact pps_outcome fresh block kept.live

/-- The step lemma. -/
theorem outcome_kept {clean : Prop} {nRet : Int} (kept : BlocksKept dec)
    (outcome : Outcome dec nal clean (some (after, nRet))) : BlocksKept after := by
  cases outcome with
  | failed _ others grows _ => exact lists_kept kept others grows
  | stored _ stored _ => exact stored_kept kept stored

theorem reached_kept [DecidableEq Rest] (reached : Reached dec) : BlocksKept dec := by
  induction reached with
  | start =>
    have empty : ∀ slot block, ¬ Owns (HevcContex.init : HevcContex Rest) block slot := by
      intro slot block
      cases slot <;> simp [Owns, HevcContex.init]
    exact ⟨fun slot block owned => absurd owned (empty slot block),
      fun slot other block owned => absurd owned (empty slot block)⟩
  | @call dec after nal calloc nRet _ fresh result kept =>
    have outcome := @call_outcome Rest dec nal calloc _ kept fresh
    rw [result] at outcome
    exact outcome_kept kept outcome

theorem call_right_iff [DecidableEq Rest] (reached : Reached dec) (fresh : Fresh dec.heap calloc) :
    CallRight dec nal (decodeNal dec calloc nal) ↔ CallClean dec calloc nal :=
  (call_outcome (reached_kept reached) fresh).right_iff

def oneBlock (address : Nat) : Option PpsTable → Pointer
  | none => some address
  | some _ => none

theorem one_block_fresh {heap : Heap} {address : Nat} (unused : heap address = false) :
    Fresh heap (oneBlock address) := by
  constructor
  · rintro (_ | name) block ⟨⟩
    exact unused
  · rintro (_ | name) (_ | other) block ⟨⟩ ⟨⟩
    rfl

def profileVps (generalProfileIdc : Fin 32) : VpsNal Unit :=
  ⟨0, 3, 0, 0xffff, generalProfileIdc, true, fun _ => (4, 2), ()⟩

theorem first_vps_right : CallRight HevcContex.init (.vps (profileVps 1))
    (decodeNal HevcContex.init (oneBlock 0) (.vps (profileVps 1))) :=
  (call_right_iff Reached.start (one_block_fresh rfl)).mpr
    ⟨nofun, fun _ => ⟨rfl, fun _ found => nomatch found⟩⟩

/-- A VPS of profile 2 behind one of profile 1 reports the change of size: the flag has changed,
and the block of the new set stays. -/
theorem size_change_wrong : ∃ dec : HevcContex Unit, Reached dec ∧ Fresh dec.heap (oneBlock 1) ∧
    ¬ CallRight dec (.vps (profileVps 2)) (decodeNal dec (oneBlock 1) (.vps (profileVps 2))) := by
  refine ⟨_, @Reached.call Unit _ _ _ (.vps (profileVps 1)) (oneBlock 0) 0 Reached.start
    (one_block_fresh rfl) rfl, one_block_fresh rfl, ?_⟩
  intro right
  have leaked := congrFun (congrArg HevcContex.heap right) 1
  revert leaked
  decide

end CedarC.H265ParamSetCalls
