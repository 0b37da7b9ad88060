import CedarC.H265TileClause

/-!
# The entry point table of an H265 picture

`HevcSetTilesInfoReg` of `h265_register.c` over the slices of a picture with tiles. Each slice
appends its records to a table of `HEVC_ENTRY_POINT_OFFSET_BUFFER_SIZE` bytes through a cursor
that `HevcFrameStart` sets to 0: records of four words for tiles, of one word with entropy coding
synchronisation.
-/

namespace CedarC.H265EntryPoints

open FixedWidth TableWrites H265TileTables H265TileScan List
open CedarC.H265TileClause (singleTiles)
open CedarC.H265ParamSets (ctbSizes)

def HEVC_ENTRY_POINT_OFFSET_BUFFER_SIZE : Nat := 4 * 1024

def tableWords : Nat := HEVC_ENTRY_POINT_OFFSET_BUFFER_SIZE / 4

structure HevcPPS where
  bEntropyCodingSyncEnabledFlag : Bool
  tables : TileTables

structure Slice where
  nSliceSegmentAddr : Int
  numEntryPointOffsets : UInt32
  EntryPointOffset : Nat → Int

def Slice.nNumEntryPointOffsets (slice : Slice) : Int := s32 slice.numEntryPointOffsets.toNat

def ctbWord (y x : Int) : Int := s32 ((u32 (y * 2 ^ 16)).toNat ||| (u32 x).toNat : Nat)

/-- The writes of entry point `j`, counted from 1: the index of a word and its value. -/
def recordWrites (pPps : HevcPPS) (nLastEntryPointOffset : Int) (slice : Slice) (j : Int) :
    List (Int × Int) :=
  let nTileId := u32 (pPps.tables.TileIdInRs slice.nSliceSegmentAddr + j)
  let offset := slice.EntryPointOffset (j - 1).toNat
  if pPps.bEntropyCodingSyncEnabledFlag then [(s32 (nLastEntryPointOffset + j), offset)]
  else
    let tile := pPps.tables.TilePosInfo nTileId
    let index := s32 (nLastEntryPointOffset + s32 (4 * (j - 1)))
    [(index, offset), (s32 (index + 1), 0),
      (s32 (index + 2), ctbWord tile.nTileStartAddrY tile.nTileStartAddrX),
      (s32 (index + 3), ctbWord tile.nTileEndAddrY tile.nTileEndAddrX)]

/-- What goes to the registers and to the table for a slice. -/
structure TilesInfo where
  startTile : Option HevcTilePositionInfo
  entryPointAddr : Int
  writes : List (Int × Int)
  nLastEntryPointOffset : Int

def HevcSetTilesInfoReg (pPps : HevcPPS) (nLastEntryPointOffset : Int) (slice : Slice) :
    TilesInfo :=
  let nNumEntryPointOffsets := slice.nNumEntryPointOffsets
  let last := s32 (nNumEntryPointOffsets + 1)
  { startTile :=
      if nNumEntryPointOffsets = 0 ∨ 0 < last then
        some (pPps.tables.TilePosInfo (pPps.tables.TileIdInRs slice.nSliceSegmentAddr))
      else none
    entryPointAddr := s32 (nLastEntryPointOffset * 4)
    writes := (loopRange 1 last).flatMap (recordWrites pPps nLastEntryPointOffset slice)
    nLastEntryPointOffset :=
      if pPps.bEntropyCodingSyncEnabledFlag then s32 (nLastEntryPointOffset + nNumEntryPointOffsets)
      else s32 (nLastEntryPointOffset + s32 (nNumEntryPointOffsets * 4)) }

/-- The slices of a picture, each with the cursor that it finds. -/
def runsFrom (pPps : HevcPPS) : Int → List Slice → List (Int × Slice)
  | _, [] => []
  | nLastEntryPointOffset, slice :: rest =>
    (nLastEntryPointOffset, slice) :: runsFrom pPps
      (HevcSetTilesInfoReg pPps nLastEntryPointOffset slice).nLastEntryPointOffset rest

def sliceWrites (pPps : HevcPPS) (run : Int × Slice) : List (Int × Int) :=
  (HevcSetTilesInfoReg pPps run.1 run.2).writes

def pictureTable (pPps : HevcPPS) (slices : List Slice) : Int → Option Int :=
  writeAll (fun _ => none) (((runsFrom pPps 0 slices).flatMap (sliceWrites pPps)).map
    fun write => (write.1, some write.2))

section Contract

variable (sizes : CtbSizes) (pPps : HevcPPS)

/-- The entries that `TilePosInfo` is allocated with. -/
def tileCount : Int := s32 (pPps.tables.nNumTileRows * pPps.tables.nNumTileColums)

/-- The words of record `j`: the offset, and with tiles the start and the end of the tile. -/
def recordWords (slice : Slice) (j : Nat) : List Int :=
  let tile := pPps.tables.TilePosInfo (pPps.tables.TileIdInRs slice.nSliceSegmentAddr + j)
  if pPps.bEntropyCodingSyncEnabledFlag then [slice.EntryPointOffset (j - 1)]
  else
    [slice.EntryPointOffset (j - 1), 0, ctbWord tile.nTileStartAddrY tile.nTileStartAddrX,
      ctbWord tile.nTileEndAddrY tile.nTileEndAddrX]

def recordIndex (nLastEntryPointOffset : Int) (j : Nat) : Int :=
  if pPps.bEntropyCodingSyncEnabledFlag then nLastEntryPointOffset + j
  else nLastEntryPointOffset + 4 * (j - 1)

def TileExists (slice : Slice) (j : Nat) : Prop :=
  (0 ≤ slice.nSliceSegmentAddr ∧ slice.nSliceSegmentAddr < sizes.nCtbSize) ∧
    0 ≤ pPps.tables.TileIdInRs slice.nSliceSegmentAddr + j ∧
    pPps.tables.TileIdInRs slice.nSliceSegmentAddr + j < tileCount pPps

def RecordsHeld (table : Int → Option Int) (run : Int × Slice) : Prop :=
  ∀ j, 1 ≤ j → j ≤ run.2.numEntryPointOffsets.toNat →
    (∀ k < (recordWords pPps run.2 j).length, table (recordIndex pPps run.1 j + k) =
      (recordWords pPps run.2 j)[k]?) ∧
    (pPps.bEntropyCodingSyncEnabledFlag = false → TileExists sizes pPps run.2 j)

structure EntryPointsRight (slices : List Slice) : Prop where
  inside : ∀ run ∈ runsFrom pPps 0 slices, ∀ write ∈ sliceWrites pPps run,
    0 ≤ write.1 ∧ write.1 < tableWords
  disjoint : (runsFrom pPps 0 slices).Pairwise fun first second =>
    ∀ write ∈ sliceWrites pPps first, ∀ other ∈ sliceWrites pPps second, write.1 ≠ other.1
  held : ∀ run ∈ runsFrom pPps 0 slices, RecordsHeld sizes pPps (pictureTable pPps slices) run

def entryPoints (slices : List Slice) : Nat :=
  (slices.map fun slice => slice.numEntryPointOffsets.toNat).sum

/-- The entry points of the picture fit the table, and no slice has more than there are tiles
behind its first one. -/
structure EntryPointsFit (slices : List Slice) : Prop where
  room : if pPps.bEntropyCodingSyncEnabledFlag then entryPoints slices < tableWords
    else 4 * entryPoints slices ≤ tableWords
  tiles : pPps.bEntropyCodingSyncEnabledFlag = false → ∀ slice ∈ slices,
    slice.numEntryPointOffsets ≠ 0 →
      (0 ≤ slice.nSliceSegmentAddr ∧ slice.nSliceSegmentAddr < sizes.nCtbSize) ∧
      pPps.tables.TileIdInRs slice.nSliceSegmentAddr + slice.numEntryPointOffsets.toNat <
        tileCount pPps

end Contract

section Records

variable (pPps : HevcPPS)

def recordSize : Nat := if pPps.bEntropyCodingSyncEnabledFlag then 1 else 4

/-- The records of a synchronised slice start a word behind the cursor. -/
def recordBase : Nat := if pPps.bEntropyCodingSyncEnabledFlag then 1 else 0

def sliceSize (slice : Slice) : Nat := recordSize pPps * slice.numEntryPointOffsets.toNat

def runEnd (run : Int × Slice) : Int := run.1 + recordBase pPps + sliceSize pPps run.2

variable {pPps}

theorem record_words_length (slice : Slice) (j : Nat) :
    (recordWords pPps slice j).length = recordSize pPps := by
  cases sync : pPps.bEntropyCodingSyncEnabledFlag <;> simp [recordWords, recordSize, sync]

theorem record_index_eq (cursor : Int) (j : Nat) : recordIndex pPps cursor j =
    cursor + recordBase pPps + recordSize pPps * ((j : Int) - 1) := by
  cases sync : pPps.bEntropyCodingSyncEnabledFlag <;>
    simp [recordIndex, recordBase, recordSize, sync]

theorem record_size_cases : (recordBase pPps = 1 ∧ recordSize pPps = 1) ∨
    (recordBase pPps = 0 ∧ recordSize pPps = 4) := by
  cases sync : pPps.bEntropyCodingSyncEnabledFlag <;> simp [recordBase, recordSize, sync]

theorem room_iff (slices : List Slice) :
    (if pPps.bEntropyCodingSyncEnabledFlag then entryPoints slices < tableWords
      else 4 * entryPoints slices ≤ tableWords) ↔
      recordBase pPps + recordSize pPps * entryPoints slices ≤ tableWords := by
  cases sync : pPps.bEntropyCodingSyncEnabledFlag <;> simp [recordBase, recordSize, sync]
  omega

variable {cursor : Int} {slice : Slice} {write : Int × Int}

theorem next_cursor (low : 0 ≤ cursor) (fits : runEnd pPps (cursor, slice) ≤ tableWords) :
    (HevcSetTilesInfoReg pPps cursor slice).nLastEntryPointOffset =
      cursor + sliceSize pPps slice := by
  have words : tableWords = 1024 := rfl
  unfold runEnd at fits
  dsimp only at fits
  cases sync : pPps.bEntropyCodingSyncEnabledFlag
  · simp only [sliceSize, recordSize, recordBase, sync, words] at fits ⊢
    simp only [HevcSetTilesInfoReg, Slice.nNumEntryPointOffsets, sync, s32]
    simp only [Bool.false_eq_true, if_false] at fits ⊢
    omega
  · simp only [sliceSize, recordSize, recordBase, sync, words] at fits ⊢
    simp only [HevcSetTilesInfoReg, Slice.nNumEntryPointOffsets, sync, s32]
    simp only [if_true] at fits ⊢
    omega

def blockWrites (start : Int) (words : List Int) : List (Int × Int) :=
  words.zipIdx.map fun (word, k) => (start + (k : Nat), word)

theorem mem_block_writes {start : Int} {words : List Int} : write ∈ blockWrites start words ↔
      ∃ k : Nat, words[k]? = some write.2 ∧ write.1 = start + k := by
  unfold blockWrites
  rw [mem_map]
  constructor
  · rintro ⟨⟨word, k⟩, member, rfl⟩
    exact ⟨k, mem_zipIdx_iff_getElem?.mp member, rfl⟩
  · rintro ⟨k, word, index⟩
    refine ⟨(write.2, k), mem_zipIdx_iff_getElem?.mpr word, ?_⟩
    rw [Prod.ext_iff]
    exact ⟨index.symm, rfl⟩

theorem block_of_four (start first second third fourth : Int) :
    blockWrites start [first, second, third, fourth] = [(start, first), (start + 1, second),
      (start + 2, third), (start + 3, fourth)] := by
  simp [blockWrites]

theorem record_writes_eq {j : Nat} (low : 0 ≤ cursor) (first : 1 ≤ j)
    (last : j ≤ slice.numEntryPointOffsets.toNat) (fits : runEnd pPps (cursor, slice) ≤ tableWords)
    (tile : pPps.bEntropyCodingSyncEnabledFlag = false →
      0 ≤ pPps.tables.TileIdInRs slice.nSliceSegmentAddr + j ∧
        pPps.tables.TileIdInRs slice.nSliceSegmentAddr + j < 2 ^ 31) :
    recordWrites pPps cursor slice j =
      blockWrites (recordIndex pPps cursor j) (recordWords pPps slice j) := by
  have words : tableWords = 1024 := rfl
  have place : ((j : Int) - 1).toNat = j - 1 := by omega
  unfold runEnd at fits
  dsimp only at fits
  cases sync : pPps.bEntropyCodingSyncEnabledFlag
  · have known := tile sync
    simp only [sliceSize, recordSize, recordBase, sync, words] at fits
    simp only [Bool.false_eq_true, if_false] at fits
    have id : u32 (pPps.tables.TileIdInRs slice.nSliceSegmentAddr + j) =
        pPps.tables.TileIdInRs slice.nSliceSegmentAddr + j := by
      unfold u32
      omega
    have start : s32 (cursor + s32 (4 * ((j : Int) - 1))) = cursor + 4 * ((j : Int) - 1) := by
      unfold s32
      omega
    have behind : ∀ k : Int, 1 ≤ k → k ≤ 3 →
        s32 (cursor + 4 * ((j : Int) - 1) + k) = cursor + 4 * ((j : Int) - 1) + k := by
      intro k least most
      apply s32_of_range
      unfold InS32
      omega
    simp only [recordWrites, recordWords, recordIndex, sync, id, start, place,
      behind 1 (by omega) (by omega), behind 2 (by omega) (by omega),
      behind 3 (by omega) (by omega)]
    rw [if_neg Bool.false_ne_true, if_neg Bool.false_ne_true, if_neg Bool.false_ne_true,
      block_of_four]
  · simp only [sliceSize, recordSize, recordBase, sync, words] at fits
    simp only [if_true] at fits
    have start : s32 (cursor + (j : Int)) = cursor + j := by
      unfold s32
      omega
    simp only [recordWrites, recordWords, recordIndex, sync, start, place]
    rw [if_pos trivial, if_pos trivial, if_pos trivial]
    simp [blockWrites]

theorem mem_slice_writes {run : Int × Slice} (low : 0 ≤ run.1) (fits : runEnd pPps run ≤ tableWords)
    (tiles : pPps.bEntropyCodingSyncEnabledFlag = false → ∀ j : Nat, 1 ≤ j →
      j ≤ run.2.numEntryPointOffsets.toNat →
        0 ≤ pPps.tables.TileIdInRs run.2.nSliceSegmentAddr + j ∧
          pPps.tables.TileIdInRs run.2.nSliceSegmentAddr + j < 2 ^ 31) :
    write ∈ sliceWrites pPps run ↔ ∃ j, 1 ≤ j ∧ j ≤ run.2.numEntryPointOffsets.toNat ∧ ∃ k : Nat,
        (recordWords pPps run.2 j)[k]? = some write.2 ∧ write.1 = recordIndex pPps run.1 j + k := by
  have words : tableWords = 1024 := rfl
  have small : run.2.numEntryPointOffsets.toNat ≤ 1024 := by
    unfold runEnd sliceSize at fits
    rcases @record_size_cases pPps with ⟨base, size⟩ | ⟨base, size⟩ <;>
      rw [base, size, words] at fits <;> push_cast at fits <;> omega
  have last : s32 (run.2.nNumEntryPointOffsets + 1) = run.2.numEntryPointOffsets.toNat + 1 := by
    unfold Slice.nNumEntryPointOffsets s32
    omega
  unfold sliceWrites HevcSetTilesInfoReg
  dsimp only
  rw [last, mem_flatMap]
  constructor
  · rintro ⟨i, member, written⟩
    rw [mem_loop_range] at member
    have whole : i = (i.toNat : Nat) := by omega
    rw [whole] at written
    refine ⟨i.toNat, by omega, by omega, ?_⟩
    rw [record_writes_eq low (by omega) (by omega) fits
      fun sync => tiles sync i.toNat (by omega) (by omega)] at written
    exact mem_block_writes.mp written
  · rintro ⟨j, first, bound, held⟩
    refine ⟨j, mem_loop_range.mpr ⟨by omega, by omega⟩, ?_⟩
    rw [record_writes_eq low first bound fits fun sync => tiles sync j first bound]
    exact mem_block_writes.mpr held

end Records

section Runs

variable {sizes : CtbSizes} {pPps : HevcPPS} {tiles : TileSyntax}

theorem entry_points_cons (slice : Slice) (rest : List Slice) : entryPoints (slice :: rest) =
    slice.numEntryPointOffsets.toNat + entryPoints rest := by
  simp [entryPoints]

def picturePlace (pPps : HevcPPS) (cursor : Int) (slices : List Slice) : Int :=
  cursor + recordBase pPps + (recordSize pPps * entryPoints slices : Nat)

theorem picture_place_cons (cursor : Int) (slice : Slice) (rest : List Slice) :
    picturePlace pPps cursor (slice :: rest) =
      picturePlace pPps (cursor + sliceSize pPps slice) rest := by
  unfold picturePlace sliceSize
  rw [entry_points_cons, Nat.mul_add]
  push_cast
  omega

theorem run_end_le (cursor : Int) (slice : Slice) (rest : List Slice) :
    runEnd pPps (cursor, slice) ≤ picturePlace pPps cursor (slice :: rest) := by
  rw [picture_place_cons]
  unfold runEnd picturePlace
  dsimp only
  omega

variable {slices : List Slice} {cursor : Int}

theorem runs_placed (low : 0 ≤ cursor) (room : picturePlace pPps cursor slices ≤ tableWords) :
    ∀ run ∈ runsFrom pPps cursor slices, run.2 ∈ slices ∧ cursor ≤ run.1 ∧
      runEnd pPps run ≤ tableWords := by
  induction slices generalizing cursor with
  | nil => simp [runsFrom]
  | cons slice rest ih =>
    have fits := (run_end_le cursor slice rest).trans room
    rw [picture_place_cons] at room
    intro run member
    rw [runsFrom, next_cursor low fits, mem_cons] at member
    rcases member with rfl | behind
    · exact ⟨mem_cons_self, Int.le_refl _, fits⟩
    · rcases ih (by omega) room run behind with ⟨listed, after, inside⟩
      exact ⟨mem_cons_of_mem _ listed, by omega, inside⟩

theorem runs_ordered (low : 0 ≤ cursor) (room : picturePlace pPps cursor slices ≤ tableWords) :
    (runsFrom pPps cursor slices).Pairwise fun first second =>
      runEnd pPps first ≤ second.1 + recordBase pPps := by
  induction slices generalizing cursor with
  | nil => exact List.Pairwise.nil
  | cons slice rest ih =>
    have fits := (run_end_le cursor slice rest).trans room
    rw [picture_place_cons] at room
    rw [runsFrom, next_cursor low fits]
    apply List.Pairwise.cons _ (ih (by omega) room)
    intro run member
    have after := (runs_placed (by omega) room run member).2.1
    unfold runEnd
    dsimp only
    omega

theorem room_of_ends (low : 0 ≤ cursor) (start : cursor + recordBase pPps ≤ tableWords)
    (ends : ∀ run ∈ runsFrom pPps cursor slices, run.2.numEntryPointOffsets.toNat ≠ 0 →
      runEnd pPps run ≤ tableWords) : picturePlace pPps cursor slices ≤ tableWords := by
  induction slices generalizing cursor with
  | nil => simpa [picturePlace, entryPoints] using start
  | cons slice rest ih =>
    have fits : runEnd pPps (cursor, slice) ≤ tableWords := by
      by_cases none : slice.numEntryPointOffsets.toNat = 0
      · simpa [runEnd, sliceSize, none] using start
      · exact ends _ (by simp [runsFrom]) none
    rw [picture_place_cons]
    apply ih
    · omega
    · unfold runEnd at fits
      dsimp only at fits
      omega
    · intro run member
      apply ends
      rw [runsFrom, next_cursor low fits]
      exact mem_cons_of_mem _ member

theorem picture_table_written {index value : Int}
    (held : pictureTable pPps slices index = some value) :
    ∃ run ∈ runsFrom pPps 0 slices, ∃ write ∈ sliceWrites pPps run, write.1 = index := by
  by_contra never
  unfold pictureTable at held
  rw [write_all_apart] at held
  · exact absurd held (by simp)
  · intro write member same
    rw [mem_map] at member
    rcases member with ⟨source, member, rfl⟩
    rcases mem_flatMap.mp member with ⟨run, listed, written⟩
    exact never ⟨run, listed, source, written, same⟩

theorem tile_id_nonneg (accepted : tileTables sizes tiles = some pPps.tables) (address : Int) :
    0 ≤ pPps.tables.TileIdInRs address := by
  rw [(tile_tables_built accepted).idInRs]
  apply @write_all_values _ _ _ (fun id => 0 ≤ id) _ _ _ fun _ => Int.le_refl 0
  intro write member
  rcases mem_flatMap.mp member with ⟨tile, _, cell⟩
  rcases mem_map.mp cell with ⟨_, _, rfl⟩
  exact Int.natCast_nonneg _

end Runs

variable {sizes : CtbSizes} {pPps : HevcPPS} {tiles : TileSyntax} {slices : List Slice}

/-- The writes of two runs that reach one word put the same value there. -/
def Agree (pPps : HevcPPS) (first second : Int × Slice) : Prop :=
  ∀ write ∈ sliceWrites pPps first, ∀ other ∈ sliceWrites pPps second,
    write.1 = other.1 → write.2 = other.2

variable {run : Int × Slice} {j k : Nat} {word : Int} {slice : Slice} {write : Int × Int}

theorem record_place (first : 1 ≤ j) (last : j ≤ run.2.numEntryPointOffsets.toNat)
    (held : (recordWords pPps run.2 j)[k]? = some word) :
    run.1 + recordBase pPps ≤ recordIndex pPps run.1 j + k ∧
      recordIndex pPps run.1 j + k < runEnd pPps run := by
  have inside := (List.getElem?_eq_some_iff.mp held).1
  rw [record_words_length] at inside
  rw [record_index_eq]
  unfold runEnd sliceSize
  rcases @record_size_cases pPps with ⟨base, size⟩ | ⟨base, size⟩ <;>
    rw [base, size] <;> rw [size] at inside <;> push_cast <;> omega

theorem record_unique {cursor : Int} {i l : Nat} {other : Int}
    (held : (recordWords pPps slice j)[k]? = some word)
    (second : (recordWords pPps slice i)[l]? = some other)
    (same : recordIndex pPps cursor j + k = recordIndex pPps cursor i + l) : j = i ∧ k = l := by
  have inside := (List.getElem?_eq_some_iff.mp held).1
  have within := (List.getElem?_eq_some_iff.mp second).1
  rw [record_words_length] at inside within
  rw [record_index_eq, record_index_eq] at same
  rcases @record_size_cases pPps with ⟨base, size⟩ | ⟨base, size⟩ <;>
    rw [size] at inside within same <;> push_cast at same <;> omega

theorem place_of_fit (fit : EntryPointsFit sizes pPps slices) :
    picturePlace pPps 0 slices ≤ tableWords := by
  have room := (room_iff slices).mp fit.room
  unfold picturePlace
  omega

variable (accepted : tileTables sizes tiles = some pPps.tables)

include accepted

theorem tiles_of_fit (fit : EntryPointsFit sizes pPps slices) (listed : slice ∈ slices)
    (first : 1 ≤ j) (last : j ≤ slice.numEntryPointOffsets.toNat)
    (tiled : pPps.bEntropyCodingSyncEnabledFlag = false) : TileExists sizes pPps slice j := by
  have some : slice.numEntryPointOffsets ≠ 0 := by
    intro none
    rw [none] at last
    exact absurd (first.trans last) (by decide)
  rcases fit.tiles tiled slice listed some with ⟨address, exist⟩
  have low := tile_id_nonneg accepted slice.nSliceSegmentAddr
  exact ⟨address, by omega, by omega⟩

theorem mem_run_writes (fit : EntryPointsFit sizes pPps slices)
    (member : run ∈ runsFrom pPps 0 slices) : write ∈ sliceWrites pPps run ↔
      ∃ j, 1 ≤ j ∧ j ≤ run.2.numEntryPointOffsets.toNat ∧ ∃ k : Nat,
        (recordWords pPps run.2 j)[k]? = some write.2 ∧ write.1 = recordIndex pPps run.1 j + k := by
  rcases runs_placed (Int.le_refl 0) (place_of_fit fit) run member with ⟨listed, low, inside⟩
  apply mem_slice_writes low inside
  intro tiled j first last
  rcases tiles_of_fit accepted fit listed first last tiled with ⟨_, least, most⟩
  have bound := (s32_range (pPps.tables.nNumTileRows * pPps.tables.nNumTileColums)).2
  exact ⟨least, most.trans bound⟩

theorem run_writes_place (fit : EntryPointsFit sizes pPps slices)
    (member : run ∈ runsFrom pPps 0 slices) (written : write ∈ sliceWrites pPps run) :
    run.1 + recordBase pPps ≤ write.1 ∧ write.1 < runEnd pPps run := by
  rcases (mem_run_writes accepted fit member).mp written with ⟨j, first, last, k, word, index⟩
  rw [index]
  exact record_place first last word

theorem writes_disjoint (fit : EntryPointsFit sizes pPps slices) :
    (runsFrom pPps 0 slices).Pairwise fun first second =>
      ∀ write ∈ sliceWrites pPps first, ∀ other ∈ sliceWrites pPps second,
        write.1 ≠ other.1 := by
  apply List.Pairwise.imp_of_mem _ (runs_ordered (Int.le_refl 0) (place_of_fit fit))
  intro first second member later ordered write written other found same
  have low := run_writes_place accepted fit member written
  have high := run_writes_place accepted fit later found
  omega

theorem writes_agree (fit : EntryPointsFit sizes pPps slices) : ∀ first ∈ runsFrom pPps 0 slices,
      ∀ second ∈ runsFrom pPps 0 slices, Agree pPps first second := by
  have symmetric : Std.Symm (Agree pPps) := by
    constructor
    intro first second agree write written other found same
    exact (agree other found write written same.symm).symm
  have apart : (runsFrom pPps 0 slices).Pairwise (Agree pPps) := by
    apply List.Pairwise.imp _ (writes_disjoint accepted fit)
    intro first second differ write written other found same
    exact absurd same (differ write written other found)
  have once : ∀ run ∈ runsFrom pPps 0 slices, Agree pPps run run := by
    intro run member write written other found same
    rcases (mem_run_writes accepted fit member).mp written with ⟨j, _, _, k, word, index⟩
    rcases (mem_run_writes accepted fit member).mp found with ⟨i, _, _, l, second, place⟩
    rw [index, place] at same
    rcases record_unique word second same with ⟨rfl, rfl⟩
    exact Option.some.inj (word.symm.trans second)
  intro first member second later
  exact apart.forall_of_forall once member later

theorem record_held
    (fit : EntryPointsFit sizes pPps slices) (member : run ∈ runsFrom pPps 0 slices) (first : 1 ≤ j)
    (last : j ≤ run.2.numEntryPointOffsets.toNat)
    (held : (recordWords pPps run.2 j)[k]? = some word) :
    pictureTable pPps slices (recordIndex pPps run.1 j + k) = some word := by
  have written : (recordIndex pPps run.1 j + k, word) ∈ sliceWrites pPps run :=
    (mem_run_writes accepted fit member).mpr ⟨j, first, last, k, held, rfl⟩
  apply write_all_agree
  · intro write source same
    rcases mem_map.mp source with ⟨other, found, rfl⟩
    rcases mem_flatMap.mp found with ⟨second, later, found⟩
    exact congrArg some (writes_agree accepted fit second later run member other found _ written
      same)
  · exact ⟨_, mem_map.mpr ⟨_, mem_flatMap.mpr ⟨run, member, written⟩, rfl⟩, rfl⟩

theorem right_of_fit
    (fit : EntryPointsFit sizes pPps slices) : EntryPointsRight sizes pPps slices where
  inside := by
    intro run member write written
    rcases runs_placed (Int.le_refl 0) (place_of_fit fit) run member with ⟨_, low, inside⟩
    have place := run_writes_place accepted fit member written
    omega
  disjoint := writes_disjoint accepted fit
  held := by
    intro run member j first last
    constructor
    · intro k inside
      rw [List.getElem?_eq_getElem inside]
      exact record_held accepted fit member first last (List.getElem?_eq_getElem inside)
    · have listed := (runs_placed (Int.le_refl 0) (place_of_fit fit) run member).1
      exact tiles_of_fit accepted fit listed first last

omit accepted

theorem end_of_right (right : EntryPointsRight sizes pPps slices)
    (member : run ∈ runsFrom pPps 0 slices) (some : run.2.numEntryPointOffsets.toNat ≠ 0) :
    runEnd pPps run ≤ tableWords := by
  have length := @record_words_length pPps run.2 run.2.numEntryPointOffsets.toNat
  have inside : recordSize pPps - 1 <
      (recordWords pPps run.2 run.2.numEntryPointOffsets.toNat).length := by
    rcases @record_size_cases pPps with ⟨_, size⟩ | ⟨_, size⟩ <;> omega
  have held := (right.held run member _ (by omega) (Nat.le_refl _)).1 _ inside
  rw [List.getElem?_eq_getElem inside] at held
  rcases picture_table_written held with ⟨other, listed, write, written, place⟩
  have bound := (right.inside other listed write written).2
  rw [place, record_index_eq] at bound
  unfold runEnd sliceSize
  rcases @record_size_cases pPps with ⟨base, size⟩ | ⟨base, size⟩ <;>
    rw [base, size] at bound ⊢ <;> push_cast at bound ⊢ <;> omega

theorem slice_has_run (cursor : Int) {slice : Slice} (listed : slice ∈ slices) :
    ∃ start, (start, slice) ∈ runsFrom pPps cursor slices := by
  induction slices generalizing cursor with
  | nil => simp at listed
  | cons head rest ih =>
    rcases mem_cons.mp listed with rfl | behind
    · exact ⟨cursor, mem_cons_self⟩
    · rcases ih (HevcSetTilesInfoReg pPps cursor head).nLastEntryPointOffset behind with
        ⟨start, member⟩
      exact ⟨start, mem_cons_of_mem _ member⟩

theorem fit_of_right (right : EntryPointsRight sizes pPps slices) :
    EntryPointsFit sizes pPps slices where
  room := by
    rw [room_iff]
    have start : (0 : Int) + recordBase pPps ≤ tableWords := by
      have words : tableWords = 1024 := rfl
      rcases @record_size_cases pPps with ⟨base, _⟩ | ⟨base, _⟩ <;> omega
    have place := room_of_ends (Int.le_refl 0) start fun run member =>
      end_of_right right member
    unfold picturePlace at place
    omega
  tiles := by
    intro tiled slice listed some
    rcases @slice_has_run pPps slices 0 slice listed with ⟨start, member⟩
    have positive : 1 ≤ slice.numEntryPointOffsets.toNat := by
      by_contra none
      exact some (UInt32.toNat.inj (by simp; omega))
    have last := (right.held _ member _ positive (Nat.le_refl _)).2 tiled
    exact ⟨last.1, last.2.2⟩

/-- The entry points of a picture are in the table, each with its tile, exactly where they all
have room and no slice counts more tiles than there are. -/
theorem entry_points_right_iff (accepted : tileTables sizes tiles = some pPps.tables) :
    EntryPointsRight sizes pPps slices ↔ EntryPointsFit sizes pPps slices :=
  ⟨fit_of_right, right_of_fit accepted⟩

def threePoints : Slice := ⟨0, 3, fun j => 100 + j⟩

theorem three_points_held : ∃ pPps : HevcPPS,
    tileTables (ctbSizes 256 128 6) singleTiles = some pPps.tables ∧
      EntryPointsRight (ctbSizes 256 128 6) pPps [threePoints] := by
  have read : (tileTables (ctbSizes 256 128 6) singleTiles).map (fun tables =>
      (tables.TileIdInRs 0, tables.nNumTileRows, tables.nNumTileColums)) = some (0, 2, 4) := by
    decide +kernel
  rcases Option.map_eq_some_iff.mp read with ⟨tables, accepted, values⟩
  simp only [Prod.mk.injEq] at values
  rcases values with ⟨id, rows, columns⟩
  refine ⟨⟨false, tables⟩, accepted, (entry_points_right_iff accepted).mpr ⟨?_, ?_⟩⟩
  · change 4 * entryPoints [threePoints] ≤ tableWords
    decide
  · intro _ slice listed _
    rw [mem_singleton] at listed
    subst listed
    refine ⟨by decide, ?_⟩
    change tables.TileIdInRs 0 + 3 < s32 (tables.nNumTileRows * tables.nNumTileColums)
    rw [id, rows, columns]
    decide

/-- A slice with more entry points than tiles, and one over the 260 tiles of a larger picture. -/
def eightPoints : Slice := ⟨0, 8, fun j => 100 + j⟩

def largeTiles : TileSyntax := ⟨19, 12, true, fun _ => 0, fun _ => 0⟩

def manyPoints : Slice := ⟨0, 259, fun j => 100 + j⟩

theorem many_points_wrong :
    (∃ pPps : HevcPPS, tileTables (ctbSizes 256 128 6) singleTiles = some pPps.tables ∧
      ¬ EntryPointsRight (ctbSizes 256 128 6) pPps [eightPoints]) ∧
    ∃ pPps : HevcPPS, tileTables (ctbSizes 1280 832 6) largeTiles = some pPps.tables ∧
      ¬ EntryPointsRight (ctbSizes 1280 832 6) pPps [manyPoints] := by
  have read : (tileTables (ctbSizes 256 128 6) singleTiles).map (fun tables =>
      (tables.TileIdInRs 0, tables.nNumTileRows, tables.nNumTileColums)) = some (0, 2, 4) := by
    decide +kernel
  have taken : (tileTables (ctbSizes 1280 832 6) largeTiles).isSome = true := by decide
  constructor
  · rcases Option.map_eq_some_iff.mp read with ⟨tables, accepted, values⟩
    simp only [Prod.mk.injEq] at values
    rcases values with ⟨id, rows, columns⟩
    refine ⟨⟨false, tables⟩, accepted, ?_⟩
    intro right
    have missing := ((fit_of_right right).tiles rfl eightPoints (by simp) (by decide)).2
    change tables.TileIdInRs 0 + 8 < s32 (tables.nNumTileRows * tables.nNumTileColums) at missing
    rw [id, rows, columns] at missing
    exact absurd missing (by decide)
  · rcases Option.isSome_iff_exists.mp taken with ⟨tables, accepted⟩
    refine ⟨⟨false, tables⟩, accepted, ?_⟩
    intro right
    have room := (fit_of_right right).room
    change 4 * entryPoints [manyPoints] ≤ tableWords at room
    exact absurd room (by decide)

end CedarC.H265EntryPoints
