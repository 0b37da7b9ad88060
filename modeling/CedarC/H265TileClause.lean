import CedarC.H265TileScan
import Mathlib.Tactic.Positivity

/-!
# The tiles of an H265 picture

What the tables of an accepted PPS are: tiles that partition the picture, a tile scan with its
inverse and the tile of each CTB, with every access inside its table. They are that exactly where
the fields leave no tile empty, and the table of columns is right only for columns of one CTB.
-/

namespace CedarC.H265TileClause

open FixedWidth GridScan List
open CedarC.H265ParamSets (ctbSizes)
open H265TileTables H265TileScan

/-- An access to a table of so many entries. -/
structure Access where
  size : Int
  index : Int

def Access.Inside (access : Access) : Prop := 0 ≤ access.index ∧ access.index < access.size

def sizeAccesses (uniform : Bool) (count : Int) : List Access :=
  if uniform then (loopRange 0 count).map fun i => ⟨count, i⟩
  else ((loopRange 0 (count - 1)).map fun i => ⟨count, i⟩) ++ [⟨count, count - 1⟩]

def boundaryAccesses (count : Int) : List Access :=
  ⟨count + 1, 0⟩ :: (loopRange 0 count).flatMap fun i =>
    [⟨count + 1, i⟩, ⟨count, i⟩, ⟨count + 1, i + 1⟩]

/-- The column that is compared with is the one that was written before. -/
def indexAccesses (sizes : CtbSizes) (tables : TileTables) : List Access :=
  (loopRange 0 sizes.nCtbWidth).flatMap fun i =>
    [⟨tables.nNumTileColums + 1, if i = 0 then 0 else tables.ColumIdxX (i - 1)⟩,
      ⟨sizes.nCtbWidth, i⟩]

def searchAccesses (count : Int) : List Access :=
  (loopRange 0 count).map fun i => ⟨count + 1, i + 1⟩

def scanAccesses (sizes : CtbSizes) (tables : TileTables) (nCtbAddrRs : Int) : List Access :=
  let nTileX := tileOf tables.nNumTileColums tables.ColumBoundary
    (Int.tmod nCtbAddrRs sizes.nCtbWidth)
  let nTileY := tileOf tables.nNumTileRows tables.RowBoundary
    (Int.tdiv nCtbAddrRs sizes.nCtbWidth)
  searchAccesses tables.nNumTileColums ++ searchAccesses tables.nNumTileRows ++
    (loopRange 0 nTileX).map (fun i => ⟨tables.nNumTileColums, i⟩) ++
    (loopRange 0 nTileY).map (fun i => ⟨tables.nNumTileRows, i⟩) ++
    [⟨tables.nNumTileRows, nTileY⟩, ⟨tables.nNumTileRows + 1, nTileY⟩,
      ⟨tables.nNumTileColums, nTileX⟩, ⟨tables.nNumTileColums + 1, nTileX⟩,
      ⟨sizes.nCtbSize, nCtbAddrRs⟩, ⟨sizes.nCtbSize, tables.CtbAddrRsToTs nCtbAddrRs⟩]

def tileAccesses (sizes : CtbSizes) (tables : TileTables) (tile : (Int × Int) × Nat) :
    List Access :=
  let ((i, j), nTileId) := tile
  [⟨tables.nNumTileRows * tables.nNumTileColums, nTileId⟩, ⟨tables.nNumTileColums + 1, i⟩,
    ⟨tables.nNumTileColums + 1, i + 1⟩, ⟨tables.nNumTileRows + 1, j⟩,
    ⟨tables.nNumTileRows + 1, j + 1⟩,
    ⟨tables.nNumTileRows * tables.nNumTileColums, j * tables.nNumTileColums + i⟩] ++
  (tileCells tables.ColumBoundary tables.RowBoundary i j).flatMap fun (x, y) =>
    [⟨sizes.nCtbSize, y * sizes.nCtbWidth + x⟩,
      ⟨sizes.nCtbSize, tables.CtbAddrRsToTs (y * sizes.nCtbWidth + x)⟩]

def accesses (sizes : CtbSizes) (tiles : TileSyntax) (tables : TileTables) : List Access :=
  sizeAccesses tiles.uniformSpacingFlag tables.nNumTileColums ++
    sizeAccesses tiles.uniformSpacingFlag tables.nNumTileRows ++
    boundaryAccesses tables.nNumTileColums ++ boundaryAccesses tables.nNumTileRows ++
    indexAccesses sizes tables ++
    (loopRange 0 sizes.nCtbSize).flatMap (scanAccesses sizes tables) ++
    (tilePositions tables.nNumTileColums tables.nNumTileRows).zipIdx.flatMap
      (tileAccesses sizes tables)

structure TilesRight (sizes : CtbSizes) (tiles : TileSyntax) (tables : TileTables)
    (columns rows : Nat) : Prop where
  counts : tables.nNumTileColums = columns ∧ tables.nNumTileRows = rows
  some : 0 < columns ∧ 0 < rows
  columnCuts : Cuts (fun i => tables.ColumBoundary i) columns sizes.nCtbWidth
  rowCuts : Cuts (fun i => tables.RowBoundary i) rows sizes.nCtbHeight
  widths : ∀ i < columns, tables.ColumnWidth i =
    tables.ColumBoundary (i + 1 : Nat) - tables.ColumBoundary i
  heights : ∀ j < rows, tables.RowHeight j = tables.RowBoundary (j + 1 : Nat) - tables.RowBoundary j
  whole : sizes.nCtbSize = sizes.nCtbWidth * sizes.nCtbHeight
  places : ∀ a, 0 ≤ a → a < sizes.nCtbSize → 0 ≤ tables.CtbAddrRsToTs a ∧
    tables.CtbAddrRsToTs a < sizes.nCtbSize ∧ tables.CtbAddrTsToRs (tables.CtbAddrRsToTs a) = a
  inverse : ∀ t, 0 ≤ t → t < sizes.nCtbSize → 0 ≤ tables.CtbAddrTsToRs t ∧
    tables.CtbAddrTsToRs t < sizes.nCtbSize ∧ tables.CtbAddrRsToTs (tables.CtbAddrTsToRs t) = t
  tile : ∀ i < columns, ∀ j < rows, ∀ x y,
    InTile (fun i => tables.ColumBoundary i) (fun j => tables.RowBoundary j) i j x y →
      tables.TileIdInRs (y * sizes.nCtbWidth + x) = ((j * columns + i : Nat) : Int)
  agree : ∀ a, 0 ≤ a → a < sizes.nCtbSize →
    tables.TileId (tables.CtbAddrRsToTs a) = tables.TileIdInRs a
  ordered : ∀ a b, 0 ≤ a → a < sizes.nCtbSize → 0 ≤ b → b < sizes.nCtbSize →
    (tables.CtbAddrRsToTs a < tables.CtbAddrRsToTs b ↔
      tables.TileIdInRs a < tables.TileIdInRs b ∨ tables.TileIdInRs a = tables.TileIdInRs b ∧ a < b)
  inside : ∀ access ∈ accesses sizes tiles tables, access.Inside

def ColumnsIndexed (tables : TileTables) : Prop :=
  ∀ i x, 0 ≤ i → i < tables.nNumTileColums → tables.ColumBoundary i ≤ x →
    x < tables.ColumBoundary (i + 1) → tables.ColumIdxX x = i

/-- The fields leave no tile empty, and the picture's CTBs can be counted. -/
def TilesFit (sizes : CtbSizes) (tiles : TileSyntax) : Prop :=
  SizesFit tiles.uniformSpacingFlag tiles.numTileColumnsMinus1 tiles.columnWidthMinus1
      sizes.nCtbWidth ∧
    SizesFit tiles.uniformSpacingFlag tiles.numTileRowsMinus1 tiles.rowHeightMinus1
      sizes.nCtbHeight ∧
    sizes.nCtbWidth * sizes.nCtbHeight < 2 ^ 31

section ColumnTable

variable {columns : Nat} {sizes : Table} {width : Int}

def loopColumn (ColumBoundary : Table) : Nat → Int
  | 0 => 0
  | i + 1 =>
    if (i : Int) > ColumBoundary (loopColumn ColumBoundary i) then loopColumn ColumBoundary i + 1
    else loopColumn ColumBoundary i

theorem index_loop (ColumBoundary : Table) (count : Nat) : ∃ table, (loopRange 0 count).foldl
        (fun ((table, j) : Table × Int) i =>
          let j := if i > ColumBoundary j then j + 1 else j
          (Function.update table i j, j)) ((fun _ => 0 : Table), (0 : Int)) =
        (table, loopColumn ColumBoundary count) ∧
      ∀ i < count, table (i : Int) = loopColumn ColumBoundary (i + 1) := by
  induction count with
  | zero => exact ⟨_, rfl, by simp⟩
  | succ count ih =>
    rcases ih with ⟨table, steps, read⟩
    rw [loop_range_nat] at steps ⊢
    rw [range_succ, map_append, foldl_append, steps]
    refine ⟨_, rfl, ?_⟩
    intro i within
    by_cases here : i = count
    · rw [here]
      exact Function.update_self ..
    · dsimp only
      rw [Function.update_of_ne (by omega)]
      exact read i (by omega)

theorem colum_idx_at {ColumBoundary : Table} {count i : Nat} (within : i < count) :
    columIdxX count ColumBoundary i = loopColumn ColumBoundary (i + 1) := by
  rcases index_loop ColumBoundary count with ⟨table, steps, read⟩
  unfold columIdxX
  rw [steps]
  exact read i within

/-- Past the first CTB the loop has the column behind that of the CTB in front. -/
theorem loop_column_spec {i k : Nat} (cuts : Cuts (cutAt columns sizes) columns width)
    (within : k < columns) (low : cutAt columns sizes k ≤ i)
    (high : (i : Int) < cutAt columns sizes (k + 1)) :
    loopColumn (boundaries columns sizes) (i + 2) = k + 1 := by
  induction i generalizing k with
  | zero =>
    have start : boundaries columns sizes 0 = 0 := boundaries_zero columns
    have front : k = 0 := by
      have many := index_le_cut cuts within.le
      omega
    rw [front]
    simp [loopColumn, start]
  | succ i ih =>
    by_cases begins : cutAt columns sizes k = (i + 1 : Nat)
    · cases k with
      | zero =>
        rw [cuts.start] at begins
        omega
      | succ k =>
        have grows := cuts.grows k (by omega)
        have before := @ih k (by omega) (by omega) (by omega)
        unfold cutAt at begins
        rw [loopColumn, before]
        push_cast at begins ⊢
        rw [if_pos (by omega)]
    · have before := @ih k within (by omega) (by omega)
      unfold cutAt at high
      rw [loopColumn, before]
      push_cast at high ⊢
      rw [if_neg (by omega)]

end ColumnTable

section Accesses

variable {sizes : CtbSizes} {tiles : TileSyntax} {tables : TileTables} {columns rows : Nat}

theorem size_accesses_inside {uniform : Bool} {count : Nat} (positive : 0 < count) :
    ∀ access ∈ sizeAccesses uniform count, access.Inside := by
  intro access member
  unfold sizeAccesses at member
  split_ifs at member
  · rcases mem_map.mp member with ⟨i, inside, rfl⟩
    exact mem_loop_range.mp inside
  · rcases mem_append.mp member with early | last
    · rcases mem_map.mp early with ⟨i, inside, rfl⟩
      have bounds := mem_loop_range.mp inside
      exact ⟨bounds.1, by dsimp only; omega⟩
    · rw [mem_singleton.mp last]
      exact ⟨by dsimp only; omega, by dsimp only; omega⟩

theorem boundary_accesses_inside {count : Nat} :
    ∀ access ∈ boundaryAccesses count, access.Inside := by
  intro access member
  rcases mem_cons.mp member with rfl | later
  · exact ⟨Int.le_refl _, by dsimp only; omega⟩
  · rcases mem_flatMap.mp later with ⟨i, inside, entry⟩
    have bounds := mem_loop_range.mp inside
    simp only [mem_cons, not_mem_nil, or_false] at entry
    unfold Access.Inside
    rcases entry with rfl | rfl | rfl
    all_goals dsimp only
    all_goals omega

variable (held : TiledTables sizes tiles tables columns rows)

include held

theorem index_accesses_inside : ∀ access ∈ indexAccesses sizes tables, access.Inside := by
  intro access member
  rcases mem_flatMap.mp member with ⟨i, inside, entry⟩
  have bounds := mem_loop_range.mp inside
  have wide := held.tiled.positive.1
  have width : sizes.nCtbWidth = (sizes.nCtbWidth.toNat : Int) := by omega
  simp only [mem_cons, not_mem_nil, or_false] at entry
  rcases entry with rfl | rfl
  · have loop : ∀ k : Nat, (k : Int) < sizes.nCtbWidth → 0 ≤ loopColumn tables.ColumBoundary k ∧
          loopColumn tables.ColumBoundary k < tables.nNumTileColums + 1 := by
      intro k within
      rw [held.built.boundary, held.counts.1]
      cases k with
      | zero => exact ⟨Int.le_refl _, by dsimp only [loopColumn]; omega⟩
      | succ k =>
        cases k with
        | zero =>
          have start : boundaries columns tables.ColumnWidth 0 = 0 := boundaries_zero columns
          simp [loopColumn, start]
        | succ k =>
          rcases segment_exists held.tiled.cuts (show (0 : Int) ≤ k by omega)
            (show (k : Int) < sizes.nCtbWidth by omega) with ⟨column, small, low, high⟩
          rw [loop_column_spec held.tiled.cuts small low high]
          omega
    unfold Access.Inside
    dsimp only
    split_ifs with front
    · rw [held.counts.1]
      omega
    · have before : i - 1 = ((i - 1).toNat : Int) := by omega
      rw [held.built.index, width, before, colum_idx_at (by omega)]
      have again := loop ((i - 1).toNat + 1) (by omega)
      exact again
  · exact bounds

theorem scan_accesses_inside {a : Int} (low : 0 ≤ a) (high : a < sizes.nCtbSize) :
    ∀ access ∈ scanAccesses sizes tables a, access.Inside := by
  rcases address_cell held low high with ⟨i, column, j, row, x, y, cell, rfl⟩
  rcases tile_inside held.tiled column row cell with ⟨left, right, top, _⟩
  rcases address_split left right top with ⟨rest, quotient⟩
  have place := place_range held column row cell
  have search : ∀ count : Nat, ∀ access ∈ searchAccesses count, access.Inside := by
    intro count access member
    rcases mem_map.mp member with ⟨k, inside, rfl⟩
    have bounds := mem_loop_range.mp inside
    exact ⟨by dsimp only; omega, by dsimp only; omega⟩
  have loops : ∀ {count k : Nat}, k < count →
      ∀ access ∈ (loopRange 0 k).map (fun i => (⟨count, i⟩ : Access)), access.Inside := by
    intro count k within access member
    rcases mem_map.mp member with ⟨l, inside, rfl⟩
    have bounds := mem_loop_range.mp inside
    exact ⟨bounds.1, by dsimp only; omega⟩
  intro access member
  unfold scanAccesses at member
  dsimp only at member
  rw [rest, quotient, rs_to_ts_cell held column row cell, held.built.boundary,
    held.built.rowBoundary, held.counts.1, held.counts.2,
    tile_of_spec held.tiled.cuts column cell.left cell.right,
    tile_of_spec held.tiled.rowCuts row cell.top cell.bottom] at member
  simp only [mem_append] at member
  rcases member with (((first | second) | third) | fourth) | last
  · exact search columns access first
  · exact search rows access second
  · exact loops column access third
  · exact loops row access fourth
  · simp only [mem_cons, not_mem_nil, or_false] at last
    unfold Access.Inside
    rcases last with rfl | rfl | rfl | rfl | rfl | rfl
    all_goals dsimp only
    all_goals omega

theorem tile_accesses_inside {i j : Int} {nTileId : Nat} (tile : ((i, j), nTileId) ∈
      (tilePositions tables.nNumTileColums tables.nNumTileRows).zipIdx) :
    ∀ access ∈ tileAccesses sizes tables ((i, j), nTileId), access.Inside := by
  rw [held.counts.1, held.counts.2] at tile
  rcases mem_tile_positions.mp tile with ⟨k, l, column, row, rfl, rfl, rfl⟩
  have id : l * columns + k < rows * columns := by
    have scaled := Nat.mul_le_mul_right columns (show l + 1 ≤ rows from row)
    rw [Nat.succ_mul] at scaled
    omega
  have idInt : (l : Int) * columns + k < (rows : Int) * columns := by exact_mod_cast id
  have nonneg : (0 : Int) ≤ (l : Int) * columns := by positivity
  intro access member
  rcases mem_append.mp member with first | later
  · rw [held.counts.1, held.counts.2] at first
    simp only [mem_cons, not_mem_nil, or_false] at first
    unfold Access.Inside
    rcases first with rfl | rfl | rfl | rfl | rfl | rfl
    all_goals
      dsimp only
      push_cast
      omega
  · rcases mem_flatMap.mp later with ⟨⟨x, y⟩, member', entry⟩
    have inside := mem_tile_cells.mp member'
    rw [held.built.boundary, held.built.rowBoundary, held.counts.1, held.counts.2] at inside
    have cell : CellOf tables columns rows k l x y :=
      ⟨inside.1, inside.2.1, inside.2.2.1, inside.2.2.2⟩
    simp only [mem_cons, not_mem_nil, or_false] at entry
    rcases entry with rfl | rfl
    · exact cell_address held column row cell
    · dsimp only [Access.Inside]
      rw [rs_to_ts_cell held column row cell]
      exact place_range held column row cell

theorem accesses_inside (positive : 0 < columns ∧ 0 < rows) :
    ∀ access ∈ accesses sizes tiles tables, access.Inside := by
  intro access member
  simp only [accesses, mem_append] at member
  rcases member with (((((widths | heights) | first) | second) | index) | scan) | tile
  · rw [held.counts.1] at widths
    exact size_accesses_inside positive.1 access widths
  · rw [held.counts.2] at heights
    exact size_accesses_inside positive.2 access heights
  · rw [held.counts.1] at first
    exact boundary_accesses_inside access first
  · rw [held.counts.2] at second
    exact boundary_accesses_inside access second
  · exact index_accesses_inside held access index
  · rcases mem_flatMap.mp scan with ⟨a, inside, entry⟩
    have bounds := mem_loop_range.mp inside
    exact scan_accesses_inside held bounds.1 bounds.2 access entry
  · rcases mem_flatMap.mp tile with ⟨⟨⟨i, j⟩, nTileId⟩, place, entry⟩
    exact tile_accesses_inside held place access entry

end Accesses

variable {sizes : CtbSizes} {tiles : TileSyntax} {tables : TileTables} {columns rows : Nat}

theorem column_cuts (built : Built sizes tiles tables) (count : tables.nNumTileColums = columns) :
    (fun i : Nat => tables.ColumBoundary i) = cutAt columns tables.ColumnWidth := by
  funext i
  rw [built.boundary, count]
  rfl

theorem row_cuts (built : Built sizes tiles tables) (count : tables.nNumTileRows = rows) :
    (fun j : Nat => tables.RowBoundary j) = cutAt rows tables.RowHeight := by
  funext j
  rw [built.rowBoundary, count]
  rfl

theorem tiled_tables_right (held : TiledTables sizes tiles tables columns rows)
    (positive : 0 < columns ∧ 0 < rows) : TilesRight sizes tiles tables columns rows := by
  have columnCut := column_cuts held.built held.counts.1
  have rowCut := row_cuts held.built held.counts.2
  constructor
  · exact held.counts
  · exact positive
  · rw [columnCut]
    exact held.tiled.cuts
  · rw [rowCut]
    exact held.tiled.rowCuts
  · intro i within
    have size := held.tiled.widths i within
    rw [← columnCut] at size
    exact size
  · intro j within
    have size := held.tiled.heights j within
    rw [← rowCut] at size
    exact size
  · exact held.whole
  · intro a low high
    rcases address_cell held low high with ⟨i, column, j, row, x, y, cell, rfl⟩
    have range := place_range held column row cell
    rw [rs_to_ts_cell held column row cell]
    exact ⟨range.1, range.2, ts_to_rs_cell held column row cell⟩
  · intro t low high
    rw [held.whole] at high
    rcases scan_surjective held.tiled.cuts held.tiled.rowCuts low high with
      ⟨i, column, j, row, x, y, cell, rfl⟩
    have address := cell_address held column row cell
    have back := ts_to_rs_cell held column row cell
    unfold placeOf at back
    rw [back]
    exact ⟨address.1, address.2, rs_to_ts_cell held column row cell⟩
  · intro i column j row x y cell
    rw [columnCut, rowCut] at cell
    exact id_in_rs_cell held column row cell
  · intro a low high
    rcases address_cell held low high with ⟨i, column, j, row, x, y, cell, rfl⟩
    rw [rs_to_ts_cell held column row cell, id_cell held column row cell,
      id_in_rs_cell held column row cell]
  · intro a b low high low' high'
    rcases address_cell held low high with ⟨i, column, j, row, x, y, cell, rfl⟩
    rcases address_cell held low' high' with ⟨i', column', j', row', x', y', cell', rfl⟩
    have before := scan_before_iff held column row column' row' cell cell'
    rw [rs_to_ts_cell held column row cell, rs_to_ts_cell held column' row' cell',
      id_in_rs_cell held column row cell, id_in_rs_cell held column' row' cell', ← before]
    constructor
    · intro less
      rcases @scan_total i j i' j' x y x' y' with first | ⟨rfl, rfl⟩ | later
      · exact first
      · rcases tile_unique held column row column' row' cell cell' with ⟨rfl, rfl⟩
        exact absurd less (lt_irrefl _)
      · have greater := scan_lt held.tiled.cuts held.tiled.rowCuts column' column row cell' cell
          later
        unfold placeOf at less
        omega
    · exact scan_lt held.tiled.cuts held.tiled.rowCuts column column' row' cell cell'
  · exact accesses_inside held positive

theorem tiles_right_iff (positive : 0 < sizes.nCtbWidth ∧ 0 < sizes.nCtbHeight)
    (range : sizes.nCtbWidth < 2 ^ 31 ∧ sizes.nCtbHeight < 2 ^ 31)
    (counted : sizes.nCtbSize = s32 (sizes.nCtbWidth * sizes.nCtbHeight))
    (accepted : tileTables sizes tiles = some tables) :
    (∃ columns rows, TilesRight sizes tiles tables columns rows) ↔ TilesFit sizes tiles := by
  have built := tile_tables_built accepted
  have widths := built.widths
  have heights := built.heights
  rw [built.columns] at widths
  rw [built.rows] at heights
  have columnIff := tile_sizes_cuts_iff positive.1 range.1 widths
  have rowIff := tile_sizes_cuts_iff positive.2 range.2 heights
  constructor
  · rintro ⟨columns, rows, right⟩
    have columnCuts := right.columnCuts
    have rowCuts := right.rowCuts
    rw [column_cuts built right.counts.1] at columnCuts
    rw [row_cuts built right.counts.2] at rowCuts
    refine ⟨columnIff.mp ⟨columns, ?_, right.some.1, columnCuts⟩,
      rowIff.mp ⟨rows, ?_, right.some.2, rowCuts⟩, ?_⟩
    · rw [← built.columns]
      exact right.counts.1
    · rw [← built.rows]
      exact right.counts.2
    · rw [← right.whole, counted]
      exact (s32_range _).2
  · rintro ⟨columnsFit, rowsFit, small⟩
    rcases columnIff.mpr columnsFit with ⟨columns, count, someColumns, cuts⟩
    rcases rowIff.mpr rowsFit with ⟨rows, count', someRows, cuts'⟩
    have product := Int.mul_pos positive.1 positive.2
    have unsigned : ∀ i, 0 ≤ tables.ColumnWidth i ∧ tables.ColumnWidth i < 2 ^ 32 :=
      tile_sizes_unsigned (by omega) widths
    have unsigned' : ∀ i, 0 ≤ tables.RowHeight i ∧ tables.RowHeight i < 2 ^ 32 :=
      tile_sizes_unsigned (by omega) heights
    have held : TiledTables sizes tiles tables columns rows := by
      constructor
      · exact built
      · exact ⟨built.columns.trans count, built.rows.trans count'⟩
      · exact ⟨cuts, cuts', fun k within => size_of_cuts cuts unsigned within,
          fun k within => size_of_cuts cuts' unsigned' within, positive, small⟩
      · rw [counted, s32_of_range]
        unfold InS32
        omega
    exact ⟨columns, rows, tiled_tables_right held ⟨someColumns, someRows⟩⟩

theorem columns_indexed_iff (built : Built sizes tiles tables)
    (count : tables.nNumTileColums = columns)
    (cuts : Cuts (cutAt columns tables.ColumnWidth) columns sizes.nCtbWidth)
    (positive : 0 < sizes.nCtbWidth) :
    ColumnsIndexed tables ↔ (columns : Int) = sizes.nCtbWidth := by
  have width : sizes.nCtbWidth = (sizes.nCtbWidth.toNat : Int) := by omega
  have many := index_le_cut cuts (Nat.le_refl _)
  rw [cuts.finish] at many
  have entry : ∀ x : Nat, (x : Int) < sizes.nCtbWidth →
      tables.ColumIdxX x = loopColumn (boundaries columns tables.ColumnWidth) (x + 1) := by
    intro x inside
    rw [built.index, built.boundary, count, width, colum_idx_at (by omega)]
  have boundary : ∀ k : Nat, tables.ColumBoundary k = cutAt columns tables.ColumnWidth k := by
    intro k
    rw [built.boundary, count]
    rfl
  constructor
  · intro indexed
    have narrow : ∀ k < columns, cutAt columns tables.ColumnWidth (k + 1) =
        cutAt columns tables.ColumnWidth k + 1 := by
      intro k within
      by_contra wide
      have grows := cuts.grows k within
      have low := cut_nonneg cuts within.le
      have high := cut_le_total cuts (show k + 1 ≤ columns from within)
      have next := boundary (k + 1)
      have right := indexed k ((cutAt columns tables.ColumnWidth k).toNat + 1 : Nat) (by omega)
        (by omega) (by rw [boundary]; omega) (by push_cast at next ⊢; omega)
      rw [entry _ (by omega), loop_column_spec cuts within (by omega) (by omega)] at right
      omega
    have cut : ∀ k ≤ columns, cutAt columns tables.ColumnWidth k = k := by
      intro k
      induction k with
      | zero =>
        intro _
        rw [cuts.start]
        rfl
      | succ k ih =>
        intro within
        rw [narrow k within, ih (by omega)]
        rfl
    rw [← cuts.finish, cut columns (Nat.le_refl _)]
  · intro same i x low high left right
    have small : i = (i.toNat : Int) := by omega
    have within : i.toNat < columns := by omega
    have next := boundary (i.toNat + 1)
    have first := index_le_cut cuts within.le
    have last := cut_le_rest cuts (show i.toNat + 1 ≤ columns from within)
    push_cast at next last
    rw [small, boundary] at left
    rw [small, next] at right
    have here : x = (i.toNat : Int) := by omega
    rw [small, here, entry i.toNat (by omega)]
    cases number : i.toNat with
    | zero =>
      have start : boundaries columns tables.ColumnWidth 0 = 0 := boundaries_zero columns
      simp [loopColumn, start]
    | succ k =>
      rw [number] at within last
      have earlier := cut_le_rest cuts (show k ≤ columns by omega)
      have later := index_le_cut cuts (show k + 1 ≤ columns by omega)
      rw [loop_column_spec cuts (show k < columns by omega) (by omega) (by omega)]
      rfl

/-- Of an accepted PPS the tables other than that of the columns are right exactly where the fields
fit the picture, and all are exactly where in addition each column of tiles is one CTB wide. -/
theorem tile_tables_right_iff {nWidth nHeight : Int} {nLog2CtbSize : Nat}
    (positive : 0 < (ctbSizes nWidth nHeight nLog2CtbSize).nCtbWidth ∧
      0 < (ctbSizes nWidth nHeight nLog2CtbSize).nCtbHeight)
    (accepted : tileTables (ctbSizes nWidth nHeight nLog2CtbSize) tiles = some tables) :
    ((∃ columns rows, TilesRight (ctbSizes nWidth nHeight nLog2CtbSize) tiles tables columns
        rows) ↔ TilesFit (ctbSizes nWidth nHeight nLog2CtbSize) tiles) ∧
      ((∃ columns rows, TilesRight (ctbSizes nWidth nHeight nLog2CtbSize) tiles tables columns
          rows) ∧ ColumnsIndexed tables ↔
        TilesFit (ctbSizes nWidth nHeight nLog2CtbSize) tiles ∧
          (tiles.numTileColumnsMinus1.toNat : Int) + 1 =
            (ctbSizes nWidth nHeight nLog2CtbSize).nCtbWidth) := by
  have built := tile_tables_built accepted
  have range : (ctbSizes nWidth nHeight nLog2CtbSize).nCtbWidth < 2 ^ 31 ∧
      (ctbSizes nWidth nHeight nLog2CtbSize).nCtbHeight < 2 ^ 31 :=
    ⟨(s32_range _).2, (s32_range _).2⟩
  have rightIff := tiles_right_iff positive range rfl accepted
  refine ⟨rightIff, ?_⟩
  rw [← rightIff]
  apply and_congr_right
  rintro ⟨columns, rows, right⟩
  have cuts := right.columnCuts
  rw [column_cuts built right.counts.1] at cuts
  have count := built.columns.symm.trans right.counts.1
  have bound := tiles.numTileColumnsMinus1.toNat_lt
  have some := right.some.1
  rw [columns_indexed_iff built right.counts.1 cuts positive.1]
  unfold s32 at count
  omega

def singleTiles : TileSyntax := ⟨3, 1, true, fun _ => 0, fun _ => 0⟩

theorem single_tiles_right : ∃ tables, tileTables (ctbSizes 256 128 6) singleTiles = some tables ∧
      (∃ columns rows, TilesRight (ctbSizes 256 128 6) singleTiles tables columns rows) ∧
        ColumnsIndexed tables := by
  have taken : (tileTables (ctbSizes 256 128 6) singleTiles).isSome = true := by decide
  rcases Option.isSome_iff_exists.mp taken with ⟨tables, accepted⟩
  have positive : 0 < (ctbSizes 256 128 6).nCtbWidth ∧ 0 < (ctbSizes 256 128 6).nCtbHeight := by
    decide
  refine ⟨tables, accepted, (tile_tables_right_iff positive accepted).2.mpr ⟨?_, by decide⟩⟩
  exact ⟨by unfold SizesFit; decide, by unfold SizesFit; decide, by decide⟩

/-- The same picture with two columns of tiles, uniform or the first as wide as the picture. -/
def halvedTiles : TileSyntax := ⟨1, 0, true, fun _ => 0, fun _ => 0⟩

def emptyTile : TileSyntax := ⟨1, 0, false, fun _ => 3, fun _ => 0⟩

/-- The table of columns is wrong for two columns of two CTBs, and a column of tiles without CTBs
is accepted. -/
theorem halved_tiles_wrong : (∃ tables, tileTables (ctbSizes 256 128 6) halvedTiles = some tables ∧
        ¬ ColumnsIndexed tables) ∧
      ∃ tables, tileTables (ctbSizes 256 128 6) emptyTile = some tables ∧
        ¬ ∃ columns rows, TilesRight (ctbSizes 256 128 6) emptyTile tables columns rows := by
  have halved : (tileTables (ctbSizes 256 128 6) halvedTiles).map (fun tables =>
      (tables.nNumTileColums, tables.ColumBoundary 0, tables.ColumBoundary 1,
        tables.ColumIdxX 1)) = some (2, 0, 2, 1) := by
    decide
  have empty : (tileTables (ctbSizes 256 128 6) emptyTile).map (fun tables =>
      (tables.nNumTileColums, tables.ColumBoundary 1, tables.ColumBoundary 2)) =
        some (2, 4, 4) := by
    decide +kernel
  constructor
  · rcases Option.map_eq_some_iff.mp halved with ⟨tables, accepted, values⟩
    simp only [Prod.mk.injEq] at values
    rcases values with ⟨count, first, second, index⟩
    refine ⟨tables, accepted, ?_⟩
    intro indexed
    have wrong := indexed 0 1 (by decide) (by rw [count]; decide) (by rw [first]; decide)
      (by rw [Int.zero_add, second]; decide)
    rw [index] at wrong
    exact absurd wrong (by decide)
  · rcases Option.map_eq_some_iff.mp empty with ⟨tables, accepted, values⟩
    simp only [Prod.mk.injEq] at values
    rcases values with ⟨count, first, second⟩
    refine ⟨tables, accepted, ?_⟩
    rintro ⟨columns, rows, right⟩
    have two := right.counts.1
    rw [count] at two
    have grows := right.columnCuts.grows 1 (by omega)
    push_cast at grows
    rw [first] at grows
    change (4 : Int) < tables.ColumBoundary 2 at grows
    omega

end CedarC.H265TileClause
