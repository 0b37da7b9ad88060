import CedarC.FixedWidth

/-!
# Tile tables of the H265 picture parameter set

The part of `HevcDecodeNalPps` that derives the tile tables from the tile
syntax and from the sizes of the SPS in CTBs. A table is a function of its
index; the source does not check the index either. `none` is a refused PPS.
-/

namespace CedarC.H265TileTables

open FixedWidth Function

/-- What the tables take from the SPS. -/
structure CtbSizes where
  nCtbWidth : Int
  nCtbHeight : Int
  nCtbSize : Int
deriving DecidableEq

/-- The syntax elements of a PPS with `tiles_enabled_flag`. -/
structure TileSyntax where
  numTileColumnsMinus1 : UInt32
  numTileRowsMinus1 : UInt32
  uniformSpacingFlag : Bool
  columnWidthMinus1 : Nat → UInt32
  rowHeightMinus1 : Nat → UInt32

structure HevcTilePositionInfo where
  nTileStartAddrX : Int
  nTileStartAddrY : Int
  nTileEndAddrX : Int
  nTileEndAddrY : Int

abbrev Table := Int → Int

structure TileTables where
  nNumTileColums : Int
  nNumTileRows : Int
  ColumnWidth : Table
  RowHeight : Table
  ColumBoundary : Table
  RowBoundary : Table
  ColumIdxX : Table
  CtbAddrRsToTs : Table
  CtbAddrTsToRs : Table
  TileId : Table
  TileIdInRs : Table
  TilePosInfo : Int → HevcTilePositionInfo
  TilePositionRs : Table

/-- The integers of a loop from `first` to below `last`. -/
def loopRange (first last : Int) : List Int :=
  (List.range (last - first).toNat).map fun (i : Nat) => first + i

/-- The column widths, or the row heights, of a PPS that codes all but the last. -/
def codedSizes (count total : Int) (sizeMinus1 : Nat → UInt32) : Option Table :=
  let (table, nSum) := (List.range (count - 1).toNat).foldl
    (fun (table, nSum) i =>
      let size := u32 ((sizeMinus1 i).toNat + 1)
      (update table (i : Int) size, s32 (nSum + size)))
    ((fun _ => 0 : Table), (0 : Int))
  if nSum > total then none
  else some (update table (count - 1) (u32 (total - nSum)))

def uniformSizes (count total : Int) : Table := fun i =>
  u32 (Int.tdiv (s32 ((i + 1) * total)) count - Int.tdiv (s32 (i * total)) count)

def boundaries (count : Int) (sizes : Table) : Table :=
  (loopRange 0 count).foldl
    (fun table i => update table (i + 1) (s32 (table i + sizes i))) fun _ => 0

def columIdxX (nCtbWidth : Int) (ColumBoundary : Table) : Table :=
  ((loopRange 0 nCtbWidth).foldl
    (fun (table, j) i =>
      let j := if i > ColumBoundary j then j + 1 else j
      (update table i j, j))
    ((fun _ => 0 : Table), (0 : Int))).1

/-- The first tile whose end is behind `position`, else tile 0. -/
def tileOf (count : Int) (boundary : Table) (position : Int) : Int :=
  ((loopRange 0 count).find? fun i => position < boundary (i + 1)).getD 0

def tileScanAddr (sizes : CtbSizes) (nNumTileColums nNumTileRows : Int)
    (ColumnWidth RowHeight ColumBoundary RowBoundary : Table) (nCtbAddrRs : Int) : Int :=
  let nTbX := Int.tmod nCtbAddrRs sizes.nCtbWidth
  let nTbY := Int.tdiv nCtbAddrRs sizes.nCtbWidth
  let nTileX := tileOf nNumTileColums ColumBoundary nTbX
  let nTileY := tileOf nNumTileRows RowBoundary nTbY
  let nVal := (loopRange 0 nTileX).foldl
    (fun nVal i => s32 (nVal + RowHeight nTileY * ColumnWidth i)) 0
  let nVal := (loopRange 0 nTileY).foldl
    (fun nVal i => s32 (nVal + sizes.nCtbWidth * RowHeight i)) nVal
  s32 (nVal + ((nTbY - RowBoundary nTileY) * ColumnWidth nTileX + nTbX - ColumBoundary nTileX))

def tilePositions (nNumTileColums nNumTileRows : Int) : List (Int × Int) :=
  (loopRange 0 nNumTileRows).flatMap fun j => (loopRange 0 nNumTileColums).map fun i => (i, j)

def tablesOfSizes (sizes : CtbSizes) (nNumTileColums nNumTileRows : Int)
    (ColumnWidth RowHeight : Table) : TileTables :=
  let ColumBoundary := boundaries nNumTileColums ColumnWidth
  let RowBoundary := boundaries nNumTileRows RowHeight
  let (CtbAddrRsToTs, CtbAddrTsToRs) := (loopRange 0 sizes.nCtbSize).foldl
    (fun (rsToTs, tsToRs) nCtbAddrRs =>
      let nVal := tileScanAddr sizes nNumTileColums nNumTileRows ColumnWidth RowHeight
        ColumBoundary RowBoundary nCtbAddrRs
      (update rsToTs nCtbAddrRs nVal, update tsToRs nVal nCtbAddrRs))
    ((fun _ => 0 : Table), (fun _ => 0 : Table))
  let (TilePosInfo, TileIdInRs, TileId) :=
    (tilePositions nNumTileColums nNumTileRows).zipIdx.foldl
      (fun (posInfo, idInRs, id) ((i, j), nTileId) =>
        let posInfo := update posInfo (nTileId : Int)
          { nTileStartAddrX := s16 (ColumBoundary i)
            nTileStartAddrY := s16 (RowBoundary j)
            nTileEndAddrX := s16 (ColumBoundary (i + 1) - 1)
            nTileEndAddrY := s16 (RowBoundary (j + 1) - 1) }
        (loopRange (RowBoundary j) (RowBoundary (j + 1))).foldl
          (fun (posInfo, idInRs, id) y =>
            (loopRange (ColumBoundary i) (ColumBoundary (i + 1))).foldl
              (fun (posInfo, idInRs, id) x =>
                (posInfo, update idInRs (y * sizes.nCtbWidth + x) (nTileId : Int),
                  update id (CtbAddrRsToTs (y * sizes.nCtbWidth + x)) (nTileId : Int)))
              (posInfo, idInRs, id))
          (posInfo, idInRs, id))
      ((fun _ => ⟨0, 0, 0, 0⟩ : Int → HevcTilePositionInfo), (fun _ => 0 : Table),
        (fun _ => 0 : Table))
  { nNumTileColums := nNumTileColums
    nNumTileRows := nNumTileRows
    ColumnWidth := ColumnWidth
    RowHeight := RowHeight
    ColumBoundary := ColumBoundary
    RowBoundary := RowBoundary
    ColumIdxX := columIdxX sizes.nCtbWidth ColumBoundary
    CtbAddrRsToTs := CtbAddrRsToTs
    CtbAddrTsToRs := CtbAddrTsToRs
    TileId := TileId
    TileIdInRs := TileIdInRs
    TilePosInfo := TilePosInfo
    TilePositionRs := (tilePositions nNumTileColums nNumTileRows).foldl
      (fun table (i, j) => update table (j * nNumTileColums + i)
        (s32 (RowBoundary j * sizes.nCtbWidth + ColumBoundary i))) fun _ => 0 }

def tileTables (sizes : CtbSizes) (tiles : TileSyntax) : Option TileTables :=
  let nNumTileColums := s32 (tiles.numTileColumnsMinus1.toNat + 1)
  let nNumTileRows := s32 (tiles.numTileRowsMinus1.toNat + 1)
  let widths :=
    if tiles.uniformSpacingFlag then some (uniformSizes nNumTileColums sizes.nCtbWidth)
    else codedSizes nNumTileColums sizes.nCtbWidth tiles.columnWidthMinus1
  let heights :=
    if tiles.uniformSpacingFlag then some (uniformSizes nNumTileRows sizes.nCtbHeight)
    else codedSizes nNumTileRows sizes.nCtbHeight tiles.rowHeightMinus1
  widths.bind fun ColumnWidth => heights.map fun RowHeight =>
    tablesOfSizes sizes nNumTileColums nNumTileRows ColumnWidth RowHeight

def derived (sizes : CtbSizes) : Option TileSyntax → Option (Option TileTables)
  | none => some none
  | some tiles => (tileTables sizes tiles).map some

end CedarC.H265TileTables
