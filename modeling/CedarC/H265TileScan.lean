import CedarC.H265ParamSets
import CedarC.TableWrites
import CedarC.GridScan
import Mathlib.Data.List.Range

/-!
# Tile scan of the H265 picture parameter set

What the loops of `HevcDecodeNalPps` leave in the tables: the boundaries of the tiles, the tile
of each CTB and its place in the tile scan.
-/

namespace CedarC.H265TileScan

open FixedWidth TableWrites GridScan H265TileTables List Function

@[simp] theorem loop_range_nat (count : Nat) :
    loopRange 0 count = (List.range count).map fun (i : Nat) => (i : Int) := by
  simp [loopRange]

@[simp] theorem loop_range_self (first : Int) : loopRange first first = [] := by simp [loopRange]

theorem mem_loop_range {first last i : Int} : i ∈ loopRange first last ↔ first ≤ i ∧ i < last := by
  simp only [loopRange, mem_map, mem_range]
  constructor
  · rintro ⟨k, bound, rfl⟩
    omega
  · rintro ⟨low, high⟩
    exact ⟨(i - first).toNat, by omega, by omega⟩

section Boundaries

variable {sizes : Table}

theorem boundaries_succ (count : Nat) : boundaries (count + 1 : Nat) sizes =
    update (boundaries count sizes) (count + 1)
      (s32 (boundaries count sizes count + sizes count)) := by
  unfold boundaries
  rw [loop_range_nat, loop_range_nat, range_succ, map_append, foldl_append]
  rfl

theorem boundaries_zero (count : Nat) : boundaries count sizes 0 = 0 := by
  induction count with
  | zero => rfl
  | succ count ih =>
    rw [boundaries_succ, update_of_ne (by omega)]
    exact ih

theorem boundaries_below {count i : Nat} (within : i ≤ count) :
    boundaries count sizes i = boundaries i sizes i := by
  induction within with
  | refl => rfl
  | @step count below ih =>
    have apart : (i : Int) ≠ count + 1 := by
      have order : i ≤ count := below
      omega
    rw [boundaries_succ, update_of_ne apart]
    exact ih

theorem boundaries_step {count i : Nat} (within : i < count) :
    boundaries count sizes (i + 1) = s32 (boundaries count sizes i + sizes i) := by
  have next := @boundaries_below sizes count (i + 1) within
  rw [boundaries_succ] at next
  rw [boundaries_below within.le]
  push_cast at next
  rw [next, update_self]

def cutAt (count : Nat) (sizes : Table) (i : Nat) : Int := boundaries count sizes i

theorem cut_at_step {count i : Nat} (within : i < count) :
    cutAt count sizes (i + 1) = s32 (cutAt count sizes i + sizes i) := by
  have step := @boundaries_step sizes count i within
  unfold cutAt
  push_cast
  exact step

variable {count : Nat} {total : Int}

/-- Where the boundaries cut the picture, the sizes are what is between them. -/
theorem size_of_cuts (cuts : Cuts (cutAt count sizes) count total)
    (unsigned : ∀ i, 0 ≤ sizes i ∧ sizes i < 2 ^ 32) {i : Nat} (within : i < count) :
    sizes i = cutAt count sizes (i + 1) - cutAt count sizes i := by
  have low := cut_nonneg cuts within.le
  have high := cut_le_total cuts (show i + 1 ≤ count from within)
  have grows := cuts.grows i within
  have step := @cut_at_step sizes count i within
  have bounds := unsigned i
  unfold s32 at step
  omega

theorem cuts_of_sizes (ends : Nat → Int) (start : ends 0 = 0)
    (finish : ends count = total) (range : total < 2 ^ 31)
    (sized : ∀ i < count, 0 < sizes i ∧ sizes i = ends (i + 1) - ends i) :
    Cuts (cutAt count sizes) count total := by
  have grows : ∀ i < count, ends i < ends (i + 1) := by
    intro i within
    have size := sized i within
    omega
  have cuts : Cuts ends count total := ⟨start, finish, grows⟩
  have same : ∀ i ≤ count, cutAt count sizes i = ends i := by
    intro i
    induction i with
    | zero =>
      intro _
      rw [start]
      exact boundaries_zero count
    | succ i ih =>
      intro within
      have low := cut_nonneg cuts within
      have high := cut_le_total cuts within
      rw [cut_at_step within, ih (by omega), (sized i within).2]
      unfold s32
      omega
  constructor
  · rw [same 0 (Nat.zero_le _), start]
  · rw [same count (Nat.le_refl _), finish]
  · intro i within
    rw [same i within.le, same (i + 1) within]
    exact grows i within

end Boundaries

section Sizes

def codedSum (sizeMinus1 : Nat → UInt32) (count : Nat) : Nat :=
  ((List.range count).map fun i => (sizeMinus1 i).toNat + 1).sum

theorem coded_sum_succ (sizeMinus1 : Nat → UInt32) (count : Nat) : codedSum sizeMinus1 (count + 1) =
      codedSum sizeMinus1 count + ((sizeMinus1 count).toNat + 1) := by
  simp [codedSum, range_succ]

/-- The fields of a PPS cut a picture of so many CTBs into tiles. -/
def SizesFit (uniform : Bool) (countMinus1 : UInt32) (sizeMinus1 : Nat → UInt32) (total : Int) :
    Prop :=
  if uniform = true then
    (countMinus1.toNat : Int) + 1 ≤ total ∧ ((countMinus1.toNat : Int) + 1) * total < 2 ^ 31
  else (codedSum sizeMinus1 countMinus1.toNat : Int) < total

def tileSizes (uniform : Bool) (count total : Int) (sizeMinus1 : Nat → UInt32) : Option Table :=
  if uniform then some (uniformSizes count total) else codedSizes count total sizeMinus1

def readSize (sizeMinus1 : Nat → UInt32) (pair : Table × Int) (i : Nat) : Table × Int :=
  let size := u32 ((sizeMinus1 i).toNat + 1)
  (update pair.1 (i : Int) size, s32 (pair.2 + size))

theorem coded_loop (sizeMinus1 : Nat → UInt32) (count : Nat) :
    ∃ table nSum, (List.range count).foldl (readSize sizeMinus1)
        ((fun _ => 0 : Table), (0 : Int)) = (table, nSum) ∧
      (∀ i < count, table (i : Int) = u32 ((sizeMinus1 i).toNat + 1)) ∧
      (∀ key, 0 ≤ table key ∧ table key < 2 ^ 32) ∧
      ((codedSum sizeMinus1 count : Int) < 2 ^ 31 → nSum = codedSum sizeMinus1 count) := by
  induction count with
  | zero => exact ⟨_, _, rfl, by simp, by simp, fun _ => rfl⟩
  | succ count ih =>
    rcases ih with ⟨table, nSum, steps, read, bounds, sum⟩
    rw [range_succ, foldl_append, steps]
    refine ⟨_, _, rfl, ?_, ?_, ?_⟩
    · intro i within
      dsimp only
      rw [update_apply]
      split_ifs with here
      · rw [Int.ofNat_inj.mp here]
      · exact read i (by omega)
    · intro key
      dsimp only
      rw [update_apply]
      split_ifs
      · unfold u32
        omega
      · exact bounds key
    · intro small
      rw [coded_sum_succ] at small ⊢
      dsimp only
      rw [sum (by omega)]
      unfold s32 u32
      omega

variable {total : Int} {sizeMinus1 : Nat → UInt32} {table : Table} {count : Nat} {uniform : Bool}

theorem coded_sizes_spec (coded : codedSizes (count + 1 : Nat) total sizeMinus1 = some table) :
    (∀ i < count, table (i : Int) = u32 ((sizeMinus1 i).toNat + 1)) ∧
      (∀ key, 0 ≤ table key ∧ table key < 2 ^ 32) ∧
      ((codedSum sizeMinus1 count : Int) < 2 ^ 31 →
        table count = u32 (total - codedSum sizeMinus1 count)) := by
  rcases coded_loop sizeMinus1 count with ⟨before, nSum, steps, read, bounds, sum⟩
  have turns : (((count + 1 : Nat) : Int) - 1).toNat = count := by omega
  have last : ((count + 1 : Nat) : Int) - 1 = count := by omega
  unfold codedSizes at coded
  rw [turns, last] at coded
  change (match (List.range count).foldl (readSize sizeMinus1)
    ((fun _ => 0 : Table), (0 : Int)) with
    | (table, nSum) => if nSum > total then none
      else some (update table (count : Int) (u32 (total - nSum)))) = some table at coded
  rw [steps] at coded
  dsimp only at coded
  split_ifs at coded
  rw [← Option.some.inj coded]
  refine ⟨?_, ?_, ?_⟩
  · intro i within
    rw [update_of_ne (by omega)]
    exact read i within
  · intro key
    rw [update_apply]
    split_ifs
    · unfold u32
      omega
    · exact bounds key
  · intro small
    rw [update_self, sum small]

theorem coded_sum_le {sizeMinus1 : Nat → UInt32} {i count : Nat} (within : i ≤ count) :
    codedSum sizeMinus1 i ≤ codedSum sizeMinus1 count := by
  induction within with
  | refl => exact Nat.le_refl _
  | step _ ih =>
    rw [coded_sum_succ]
    omega

theorem coded_sum_ge (sizeMinus1 : Nat → UInt32) (count : Nat) :
    count ≤ codedSum sizeMinus1 count := by
  induction count with
  | zero => exact Nat.zero_le _
  | succ count ih =>
    rw [coded_sum_succ]
    omega

theorem coded_cuts_iff (range : total < 2 ^ 31)
    (coded : codedSizes (count + 1 : Nat) total sizeMinus1 = some table) :
    Cuts (cutAt (count + 1) table) (count + 1) total ↔
      (codedSum sizeMinus1 count : Int) < total := by
  rcases coded_sizes_spec coded with ⟨read, bounds, last⟩
  constructor
  · intro cuts
    have cut : ∀ i ≤ count, cutAt (count + 1) table i = codedSum sizeMinus1 i := by
      intro i
      induction i with
      | zero => exact fun _ => boundaries_zero _
      | succ i ih =>
        intro within
        have size := size_of_cuts cuts bounds (show i < count + 1 by omega)
        have grows := cuts.grows i (by omega)
        have small := (sizeMinus1 i).toNat_lt
        rw [read i within, ih (by omega)] at size
        rw [ih (by omega)] at grows
        rw [coded_sum_succ]
        unfold u32 at size
        omega
    have grows := cuts.grows count (by omega)
    rw [cut count (Nat.le_refl _), cuts.finish] at grows
    exact grows
  · intro fits
    have behind : table count = total - codedSum sizeMinus1 count := by
      rw [last (by omega)]
      unfold u32
      omega
    apply cuts_of_sizes (fun i => if i ≤ count then (codedSum sizeMinus1 i : Int) else total)
    · simp [codedSum]
    · simp
    · exact range
    · intro i within
      rcases Nat.lt_or_eq_of_le (Nat.le_of_lt_succ within) with early | rfl
      · have below := @coded_sum_le sizeMinus1 (i + 1) count early
        rw [read i early, if_pos (by omega), if_pos (by omega)]
        rw [coded_sum_succ] at below ⊢
        unfold u32
        omega
      · rw [behind, if_neg (by omega), if_pos (Nat.le_refl _)]
        omega

theorem tdiv_range {value count : Int} (positive : 0 < count) :
    (0 ≤ value → 0 ≤ Int.tdiv value count ∧ Int.tdiv value count * count ≤ value) ∧
      (value < 0 → value ≤ Int.tdiv value count ∧ Int.tdiv value count ≤ 0) := by
  constructor
  · intro nonneg
    rw [Int.tdiv_eq_ediv_of_nonneg nonneg]
    exact ⟨Int.ediv_nonneg nonneg positive.le, Int.ediv_mul_le _ (by omega)⟩
  · intro negative
    have flipped : Int.tdiv value count = -(-value / count) := by
      rw [← Int.tdiv_eq_ediv_of_nonneg (by omega), Int.neg_tdiv, Int.neg_neg]
    have nonneg : 0 ≤ -value / count := Int.ediv_nonneg (by omega) positive.le
    have small : -value / count ≤ -value := Int.ediv_le_self _ (by omega)
    rw [flipped]
    omega

/-- Uniform sizes cut the picture exactly where no tile is empty and the products are exact. -/
theorem uniform_cuts_iff (positive : 0 < total) (range : total < 2 ^ 31) :
    Cuts (cutAt (count + 1) (uniformSizes (count + 1 : Nat) total)) (count + 1) total ↔
      (count : Int) + 1 ≤ total ∧ ((count : Int) + 1) * total < 2 ^ 31 := by
  have counted : (0 : Int) < ((count + 1 : Nat) : Int) := by omega
  have bounds : ∀ i : Int, 0 ≤ uniformSizes (count + 1 : Nat) total i ∧
      uniformSizes (count + 1 : Nat) total i < 2 ^ 32 := by
    intro i
    unfold uniformSizes u32
    omega
  constructor
  · intro cuts
    have many := index_le_cut cuts (Nat.le_refl _)
    rw [cuts.finish] at many
    push_cast at many
    refine ⟨many, ?_⟩
    have cut : ∀ i ≤ count + 1, (cutAt (count + 1) (uniformSizes (count + 1 : Nat) total) i -
          Int.tdiv (s32 (i * total)) (count + 1 : Nat)) % 2 ^ 32 = 0 := by
      intro i
      induction i with
      | zero =>
        intro _
        rw [cuts.start]
        simp [s32]
      | succ i ih =>
        intro within
        have earlier := ih (by omega)
        have size := size_of_cuts cuts bounds within
        have value : uniformSizes (count + 1 : Nat) total i =
            (Int.tdiv (s32 ((i + 1) * total)) (count + 1 : Nat) -
              Int.tdiv (s32 (i * total)) (count + 1 : Nat)) % 2 ^ 32 := rfl
        rw [value] at size
        push_cast at size earlier ⊢
        omega
    have last := cut (count + 1) (Nat.le_refl _)
    rw [cuts.finish] at last
    have product := s32_range (((count + 1 : Nat) : Int) * total)
    rcases @tdiv_range (s32 (((count + 1 : Nat) : Int) * total)) _ counted with ⟨above, below⟩
    unfold InS32 at product
    have exact : Int.tdiv (s32 (((count + 1 : Nat) : Int) * total)) (count + 1 : Nat) = total := by
      rcases Int.lt_or_le (s32 (((count + 1 : Nat) : Int) * total)) 0 with negative | nonneg
      · have small := below negative
        omega
      · have small := Int.mul_le_mul_of_nonneg_left (show 1 ≤ ((count + 1 : Nat) : Int) by omega)
          (above nonneg).1
        have large := (above nonneg).2
        omega
    have nonneg : 0 ≤ s32 (((count + 1 : Nat) : Int) * total) := by
      by_contra negative
      have small := (below (by omega)).2
      omega
    have large := (above nonneg).2
    rw [exact, Int.mul_comm total] at large
    push_cast at large product
    omega
  · rintro ⟨many, product⟩
    have small : ∀ i ≤ count + 1, 0 ≤ (i : Int) * total ∧
        (i : Int) * total ≤ ((count : Int) + 1) * total := by
      intro i within
      exact ⟨Int.mul_nonneg (by omega) positive.le,
        Int.mul_le_mul_of_nonneg_right (by omega) positive.le⟩
    apply cuts_of_sizes (fun i => (i : Int) * total / (count + 1 : Nat))
    · simp
    · exact Int.mul_ediv_cancel_left _ (by omega)
    · exact range
    · intro i within
      have here := small i within.le
      have next := small (i + 1) within
      have step : ((i + 1 : Nat) : Int) * total = (i : Int) * total + total := by
        push_cast
        ring
      have grows : (i : Int) * total / (count + 1 : Nat) + 1 ≤
          ((i + 1 : Nat) : Int) * total / (count + 1 : Nat) := by
        have floor := Int.ediv_mul_le (i * total) (show ((count + 1 : Nat) : Int) ≠ 0 by omega)
        rw [Int.le_ediv_iff_mul_le counted, Int.add_mul, step]
        push_cast at floor ⊢
        omega
      have high : ((i + 1 : Nat) : Int) * total / (count + 1 : Nat) ≤
          ((i + 1 : Nat) : Int) * total := Int.ediv_le_self _ next.1
      have low : 0 ≤ (i : Int) * total / (count + 1 : Nat) := Int.ediv_nonneg here.1 (by omega)
      have value : uniformSizes (count + 1 : Nat) total i =
          ((i + 1 : Nat) : Int) * total / (count + 1 : Nat) -
            (i : Int) * total / (count + 1 : Nat) := by
        change u32 (Int.tdiv (s32 (((i + 1 : Nat) : Int) * total)) (count + 1 : Nat) -
          Int.tdiv (s32 ((i : Int) * total)) (count + 1 : Nat)) = _
        rw [s32_of_range (by unfold InS32; omega), s32_of_range (by unfold InS32; omega),
          Int.tdiv_eq_ediv_of_nonneg here.1, Int.tdiv_eq_ediv_of_nonneg next.1]
        unfold u32
        omega
      rw [value]
      omega

theorem tile_sizes_unsigned {count : Int} (positive : 0 < count)
    (sized : tileSizes uniform count total sizeMinus1 = some table) (i : Int) :
    0 ≤ table i ∧ table i < 2 ^ 32 := by
  unfold tileSizes at sized
  split_ifs at sized
  · rw [← Option.some.inj sized]
    unfold uniformSizes u32
    omega
  · have counted : count = ((count - 1).toNat + 1 : Nat) := by omega
    rw [counted] at sized
    exact (coded_sizes_spec sized).2.1 i

/-- The sizes that are accepted cut the picture exactly where the fields fit it. -/
theorem tile_sizes_cuts_iff {countMinus1 : UInt32} (positive : 0 < total) (range : total < 2 ^ 31)
    (sized : tileSizes uniform (s32 (countMinus1.toNat + 1)) total sizeMinus1 = some table) :
    (∃ count : Nat, s32 (countMinus1.toNat + 1) = count ∧ 0 < count ∧
        Cuts (cutAt count table) count total) ↔
      SizesFit uniform countMinus1 sizeMinus1 total := by
  have bound := countMinus1.toNat_lt
  by_cases small : countMinus1.toNat + 1 < 2 ^ 31
  · have counted : s32 (countMinus1.toNat + 1) = (countMinus1.toNat + 1 : Nat) := by
      rw [s32_of_range]
      · rfl
      · unfold InS32
        omega
    rw [counted] at sized ⊢
    have only : (∃ count : Nat, ((countMinus1.toNat + 1 : Nat) : Int) = count ∧ 0 < count ∧
        Cuts (cutAt count table) count total) ↔
        Cuts (cutAt (countMinus1.toNat + 1) table) (countMinus1.toNat + 1) total := by
      constructor
      · rintro ⟨count, same, _, cuts⟩
        rw [Int.ofNat_inj.mp same]
        exact cuts
      · exact fun cuts => ⟨_, rfl, Nat.succ_pos _, cuts⟩
    rw [only]
    unfold tileSizes at sized
    unfold SizesFit
    by_cases even : uniform = true
    · rw [if_pos even] at sized
      rw [if_pos even, ← Option.some.inj sized]
      exact uniform_cuts_iff positive range
    · rw [if_neg even] at sized
      rw [if_neg even]
      exact coded_cuts_iff range sized
  · apply iff_of_false
    · rintro ⟨count, same, counted, _⟩
      unfold s32 at same
      omega
    · have many := coded_sum_ge sizeMinus1 countMinus1.toNat
      unfold SizesFit
      split_ifs
      · omega
      · omega

end Sizes

section Places

variable {columns rows : Nat} {width height : Int} {ColumnWidth RowHeight : Table}
  {i count j : Nat} {x y total : Int} {sizes : Table}

theorem tile_of_spec {position : Int}
    (cuts : Cuts (cutAt count sizes) count total) (within : i < count)
    (low : cutAt count sizes i ≤ position) (high : position < cutAt count sizes (i + 1)) :
    tileOf count (boundaries count sizes) position = i := by
  have found : (List.range count).find?
      (fun k : Nat => decide (position < boundaries count sizes ((k : Int) + 1))) = some i := by
    rw [List.find?_range_eq_some]
    refine ⟨?_, mem_range.mpr within, ?_⟩
    · unfold cutAt at high
      push_cast at high
      exact decide_eq_true high
    · intro k before
      have below := cut_le cuts (show k + 1 ≤ i from before) within.le
      unfold cutAt at below low
      push_cast at below
      simp only [Bool.not_eq_true', decide_eq_false_iff_not, not_lt]
      omega
  unfold tileOf
  rw [loop_range_nat, List.find?_map]
  change (Option.map (fun (k : Nat) => (k : Int)) ((List.range count).find?
    fun k : Nat => decide (position < boundaries count sizes ((k : Int) + 1)))).getD 0 = i
  rw [found]
  rfl

theorem scaled_sum {scale start : Int} (cuts : Cuts (cutAt count sizes) count total)
    (widths : ∀ k < count, sizes k = cutAt count sizes (k + 1) - cutAt count sizes k)
    (within : i ≤ count) (nonneg : 0 ≤ start) (scaled : 0 ≤ scale)
    (range : start + scale * cutAt count sizes i < 2 ^ 31) :
    (loopRange 0 i).foldl (fun nVal k => s32 (nVal + scale * sizes k)) start =
      start + scale * cutAt count sizes i := by
  induction i with
  | zero =>
    rw [cuts.start, Int.mul_zero, Int.add_zero]
    rfl
  | succ i ih =>
    have grows := Int.mul_le_mul_of_nonneg_left (cuts.grows i within).le scaled
    have low := Int.mul_nonneg scaled (cut_nonneg cuts within)
    have earlier := ih (by omega) (by omega)
    rw [loop_range_nat, range_succ, map_append, foldl_append, ← loop_range_nat, earlier]
    simp only [map_cons, map_nil, foldl_cons, foldl_nil]
    rw [widths i within]
    have sum : start + scale * cutAt count sizes i +
        scale * (cutAt count sizes (i + 1) - cutAt count sizes i) =
        start + scale * cutAt count sizes (i + 1) := by
      ring
    rw [sum, s32_of_range]
    unfold InS32
    omega

structure Tiled (columns rows : Nat) (ColumnWidth RowHeight : Table) (width height : Int) : Prop
    where
  cuts : Cuts (cutAt columns ColumnWidth) columns width
  rowCuts : Cuts (cutAt rows RowHeight) rows height
  widths : ∀ k < columns, ColumnWidth k =
    cutAt columns ColumnWidth (k + 1) - cutAt columns ColumnWidth k
  heights : ∀ k < rows, RowHeight k = cutAt rows RowHeight (k + 1) - cutAt rows RowHeight k
  positive : 0 < width ∧ 0 < height
  range : width * height < 2 ^ 31

theorem address_split {width : Int} (low : 0 ≤ x) (high : x < width) (nonneg : 0 ≤ y) :
    Int.tmod (y * width + x) width = x ∧ Int.tdiv (y * width + x) width = y := by
  have product : 0 ≤ y * width := Int.mul_nonneg nonneg (by omega)
  rw [Int.tmod_eq_emod_of_nonneg (by omega), Int.tdiv_eq_ediv_of_nonneg (by omega)]
  constructor
  · rw [Int.add_comm, Int.add_mul_emod_self_right, Int.emod_eq_of_lt low high]
  · rw [Int.add_comm, Int.add_mul_ediv_right _ _ (by omega), Int.ediv_eq_zero_of_lt low high,
      Int.zero_add]

theorem address_exists {width height a : Int} (positive : 0 < width) (low : 0 ≤ a)
    (high : a < width * height) :
    ∃ x y, a = y * width + x ∧ 0 ≤ x ∧ x < width ∧ 0 ≤ y ∧ y < height := by
  refine ⟨a % width, a / width, ?_, Int.emod_nonneg _ (by omega), Int.emod_lt_of_pos _ positive,
    Int.ediv_nonneg low (by omega), ?_⟩
  · rw [Int.mul_comm]
    exact (Int.mul_ediv_add_emod a width).symm
  · rw [Int.mul_comm] at high
    exact Int.ediv_lt_of_lt_mul positive high

theorem tile_exists (tiled : Tiled columns rows ColumnWidth RowHeight width height)
    (left : 0 ≤ x) (right : x < width) (top : 0 ≤ y) (bottom : y < height) :
    ∃ i < columns, ∃ j < rows,
      InTile (cutAt columns ColumnWidth) (cutAt rows RowHeight) i j x y := by
  rcases segment_exists tiled.cuts left right with ⟨i, column, first, last⟩
  rcases segment_exists tiled.rowCuts top bottom with ⟨j, row, first', last'⟩
  exact ⟨i, column, j, row, first, last, first', last'⟩

theorem tile_inside
    (tiled : Tiled columns rows ColumnWidth RowHeight width height) (column : i < columns)
    (row : j < rows) (inTile : InTile (cutAt columns ColumnWidth) (cutAt rows RowHeight) i j x y) :
    0 ≤ x ∧ x < width ∧ 0 ≤ y ∧ y < height :=
  ⟨(cut_nonneg tiled.cuts column.le).trans inTile.left,
    inTile.right.trans_le (cut_le_total tiled.cuts column),
    (cut_nonneg tiled.rowCuts row.le).trans inTile.top,
    inTile.bottom.trans_le (cut_le_total tiled.rowCuts row)⟩

theorem tile_scan_addr_spec {sizes : CtbSizes}
    (tiled : Tiled columns rows ColumnWidth RowHeight sizes.nCtbWidth height)
    (column : i < columns) (row : j < rows)
    (inTile : InTile (cutAt columns ColumnWidth) (cutAt rows RowHeight) i j x y) :
    tileScanAddr sizes columns rows ColumnWidth RowHeight (boundaries columns ColumnWidth)
        (boundaries rows RowHeight) (y * sizes.nCtbWidth + x) =
      gridScan (cutAt columns ColumnWidth) (cutAt rows RowHeight) sizes.nCtbWidth i j x y := by
  rcases tile_inside tiled column row inTile with ⟨left, right, top, _⟩
  rcases address_split left right top with ⟨rest, quotient⟩
  have bounds := scan_bounds tiled.cuts tiled.rowCuts column row inTile
  have tall : 0 ≤ cutAt rows RowHeight (j + 1) - cutAt rows RowHeight j := by
    have grows := tiled.rowCuts.grows j row
    omega
  have above := Int.mul_nonneg tall (cut_nonneg tiled.cuts column.le)
  have rowAbove := Int.mul_nonneg tiled.positive.1.le (cut_nonneg tiled.rowCuts row.le)
  have inside : 0 ≤ (y - cutAt rows RowHeight j) *
      (cutAt columns ColumnWidth (i + 1) - cutAt columns ColumnWidth i) := by
    apply Int.mul_nonneg
    · have first := inTile.top
      omega
    · have grows := tiled.cuts.grows i column
      omega
  have range := tiled.range
  have first := inTile.left
  unfold tileScanAddr
  dsimp only
  rw [rest, quotient, tile_of_spec tiled.cuts column inTile.left inTile.right,
    tile_of_spec tiled.rowCuts row inTile.top inTile.bottom, tiled.heights j row,
    tiled.widths i column]
  unfold gridScan at bounds ⊢
  rw [scaled_sum tiled.cuts tiled.widths column.le (Int.le_refl 0) tall (by omega),
    scaled_sum tiled.rowCuts tiled.heights row.le (by omega) tiled.positive.1.le (by omega)]
  change s32 (0 + (cutAt rows RowHeight (j + 1) - cutAt rows RowHeight j) *
    cutAt columns ColumnWidth i + sizes.nCtbWidth * cutAt rows RowHeight j +
      ((y - cutAt rows RowHeight j) *
        (cutAt columns ColumnWidth (i + 1) - cutAt columns ColumnWidth i) + x -
        cutAt columns ColumnWidth i)) = _
  rw [s32_of_range]
  · omega
  · unfold InS32
    omega

end Places

section Tables

theorem scan_loop (scan : Int → Int) (addresses : List Int) (rsToTs tsToRs : Table) :
    addresses.foldl (fun ((rsToTs, tsToRs) : Table × Table) nCtbAddrRs =>
        (update rsToTs nCtbAddrRs (scan nCtbAddrRs),
          update tsToRs (scan nCtbAddrRs) nCtbAddrRs)) (rsToTs, tsToRs) =
      (writeAll rsToTs (addresses.map fun a => (a, scan a)),
        writeAll tsToRs (addresses.map fun a => (scan a, a))) := by
  induction addresses generalizing rsToTs tsToRs with
  | nil => rfl
  | cons a addresses ih => exact ih _ _

def tileCells (ColumBoundary RowBoundary : Table) (i j : Int) : List (Int × Int) :=
  (loopRange (RowBoundary j) (RowBoundary (j + 1))).flatMap fun y =>
    (loopRange (ColumBoundary i) (ColumBoundary (i + 1))).map fun x => (x, y)

def idWrites (place : Int → Int → Int) (ColumBoundary RowBoundary : Table)
    (tile : (Int × Int) × Nat) : List (Int × Int) :=
  (tileCells ColumBoundary RowBoundary tile.1.1 tile.1.2).map fun cell =>
    (place cell.1 cell.2, (tile.2 : Int))

theorem cell_loop {Info : Type*} (rs ts : Int → Int → Int) (id : Int) (ys xs : List Int)
    (info : Info) (idInRs ids : Table) :
    ys.foldl (fun ((posInfo, idInRs, ids) : Info × Table × Table) y =>
        xs.foldl (fun ((posInfo, idInRs, ids) : Info × Table × Table) x =>
            (posInfo, update idInRs (rs x y) id, update ids (ts x y) id))
          (posInfo, idInRs, ids)) (info, idInRs, ids) =
      (info, writeAll idInRs ((ys.flatMap fun y => xs.map fun x => (x, y)).map fun cell =>
          (rs cell.1 cell.2, id)),
        writeAll ids ((ys.flatMap fun y => xs.map fun x => (x, y)).map fun cell =>
          (ts cell.1 cell.2, id))) := by
  have row : ∀ y idInRs ids, xs.foldl (fun ((posInfo, idInRs, ids) : Info × Table × Table) x =>
          (posInfo, update idInRs (rs x y) id, update ids (ts x y) id))
        (info, idInRs, ids) =
      (info, writeAll idInRs (xs.map fun x => (rs x y, id)),
        writeAll ids (xs.map fun x => (ts x y, id))) := by
    intro y
    induction xs with
    | nil => exact fun _ _ => rfl
    | cons x xs ih => exact fun _ _ => ih _ _
  induction ys generalizing idInRs ids with
  | nil => rfl
  | cons y ys ih =>
    rw [foldl_cons]
    dsimp only
    rw [row, ih]
    simp [comp_def]

theorem tile_loop (sizes : CtbSizes) (ColumBoundary RowBoundary CtbAddrRsToTs : Table)
    (tiles : List ((Int × Int) × Nat)) (posInfo : Int → HevcTilePositionInfo)
    (idInRs id : Table) :
    ∃ positions, tiles.foldl
        (fun ((posInfo, idInRs, id) : (Int → HevcTilePositionInfo) × Table × Table)
          (((i, j), nTileId) : (Int × Int) × Nat) =>
          let posInfo := update posInfo (nTileId : Int)
            { nTileStartAddrX := s16 (ColumBoundary i)
              nTileStartAddrY := s16 (RowBoundary j)
              nTileEndAddrX := s16 (ColumBoundary (i + 1) - 1)
              nTileEndAddrY := s16 (RowBoundary (j + 1) - 1) }
          (loopRange (RowBoundary j) (RowBoundary (j + 1))).foldl
            (fun (posInfo, idInRs, id) y =>
              (loopRange (ColumBoundary i) (ColumBoundary (i + 1))).foldl
                (fun (posInfo, idInRs, id) x =>
                  (posInfo, update idInRs (y * sizes.nCtbWidth + x) (nTileId : Int),
                    update id (CtbAddrRsToTs (y * sizes.nCtbWidth + x)) (nTileId : Int)))
                (posInfo, idInRs, id))
            (posInfo, idInRs, id)) (posInfo, idInRs, id) =
      (positions, writeAll idInRs (tiles.flatMap (idWrites (fun x y => y * sizes.nCtbWidth + x)
          ColumBoundary RowBoundary)),
        writeAll id (tiles.flatMap (idWrites (fun x y => CtbAddrRsToTs (y * sizes.nCtbWidth + x))
          ColumBoundary RowBoundary))) := by
  induction tiles generalizing posInfo idInRs id with
  | nil => exact ⟨posInfo, rfl⟩
  | cons tile tiles ih =>
    rw [foldl_cons]
    dsimp only
    rw [cell_loop (fun x y => y * sizes.nCtbWidth + x)
      (fun x y => CtbAddrRsToTs (y * sizes.nCtbWidth + x))]
    simp only [flatMap_cons, write_all_append]
    exact ih _ _ _

structure Built (sizes : CtbSizes) (tiles : TileSyntax) (tables : TileTables) : Prop where
  columns : tables.nNumTileColums = s32 (tiles.numTileColumnsMinus1.toNat + 1)
  rows : tables.nNumTileRows = s32 (tiles.numTileRowsMinus1.toNat + 1)
  widths : tileSizes tiles.uniformSpacingFlag tables.nNumTileColums sizes.nCtbWidth
    tiles.columnWidthMinus1 = some tables.ColumnWidth
  heights : tileSizes tiles.uniformSpacingFlag tables.nNumTileRows sizes.nCtbHeight
    tiles.rowHeightMinus1 = some tables.RowHeight
  boundary : tables.ColumBoundary = boundaries tables.nNumTileColums tables.ColumnWidth
  rowBoundary : tables.RowBoundary = boundaries tables.nNumTileRows tables.RowHeight
  index : tables.ColumIdxX = columIdxX sizes.nCtbWidth tables.ColumBoundary
  rsToTs : tables.CtbAddrRsToTs = writeAll (fun _ => 0) ((loopRange 0 sizes.nCtbSize).map fun a =>
    (a, tileScanAddr sizes tables.nNumTileColums tables.nNumTileRows tables.ColumnWidth
      tables.RowHeight tables.ColumBoundary tables.RowBoundary a))
  tsToRs : tables.CtbAddrTsToRs = writeAll (fun _ => 0) ((loopRange 0 sizes.nCtbSize).map fun a =>
    (tileScanAddr sizes tables.nNumTileColums tables.nNumTileRows tables.ColumnWidth
      tables.RowHeight tables.ColumBoundary tables.RowBoundary a, a))
  idInRs : tables.TileIdInRs = writeAll (fun _ => 0)
    ((tilePositions tables.nNumTileColums tables.nNumTileRows).zipIdx.flatMap
      (idWrites (fun x y => y * sizes.nCtbWidth + x) tables.ColumBoundary tables.RowBoundary))
  id : tables.TileId = writeAll (fun _ => 0)
    ((tilePositions tables.nNumTileColums tables.nNumTileRows).zipIdx.flatMap
      (idWrites (fun x y => tables.CtbAddrRsToTs (y * sizes.nCtbWidth + x)) tables.ColumBoundary
        tables.RowBoundary))

variable {sizes : CtbSizes} {tiles : TileSyntax}

theorem tables_of_sizes_built {count rowCount : Int} {ColumnWidth RowHeight : Table}
    (columns : count = s32 (tiles.numTileColumnsMinus1.toNat + 1))
    (rows : rowCount = s32 (tiles.numTileRowsMinus1.toNat + 1))
    (widths : tileSizes tiles.uniformSpacingFlag count sizes.nCtbWidth tiles.columnWidthMinus1 =
      some ColumnWidth) (heights : tileSizes tiles.uniformSpacingFlag rowCount sizes.nCtbHeight
      tiles.rowHeightMinus1 = some RowHeight) :
    Built sizes tiles (tablesOfSizes sizes count rowCount ColumnWidth RowHeight) := by
  have scans := scan_loop (tileScanAddr sizes count rowCount ColumnWidth RowHeight
    (boundaries count ColumnWidth) (boundaries rowCount RowHeight)) (loopRange 0 sizes.nCtbSize)
    (fun _ => 0) (fun _ => 0)
  rcases tile_loop sizes (boundaries count ColumnWidth) (boundaries rowCount RowHeight)
    (writeAll (fun _ => 0) ((loopRange 0 sizes.nCtbSize).map fun a =>
      (a, tileScanAddr sizes count rowCount ColumnWidth RowHeight (boundaries count ColumnWidth)
        (boundaries rowCount RowHeight) a)))
    (tilePositions count rowCount).zipIdx (fun _ => ⟨0, 0, 0, 0⟩) (fun _ => 0) (fun _ => 0) with
    ⟨positions, ids⟩
  unfold tablesOfSizes
  dsimp only
  rw [scans]
  dsimp only
  rw [ids]
  exact ⟨columns, rows, widths, heights, rfl, rfl, rfl, rfl, rfl, rfl, rfl⟩

theorem tile_tables_built {tables : TileTables}
    (accepted : tileTables sizes tiles = some tables) : Built sizes tiles tables := by
  rw [tileTables, Option.bind_eq_some_iff] at accepted
  rcases accepted with ⟨ColumnWidth, widths, accepted⟩
  rw [Option.map_eq_some_iff] at accepted
  rcases accepted with ⟨RowHeight, heights, rfl⟩
  exact tables_of_sizes_built rfl rfl widths heights

end Tables

variable {sizes : CtbSizes} {tiles : TileSyntax} {tables : TileTables} {columns rows : Nat}

structure TiledTables (sizes : CtbSizes) (tiles : TileSyntax) (tables : TileTables)
    (columns rows : Nat) : Prop where
  built : Built sizes tiles tables
  counts : tables.nNumTileColums = columns ∧ tables.nNumTileRows = rows
  tiled : Tiled columns rows tables.ColumnWidth tables.RowHeight sizes.nCtbWidth sizes.nCtbHeight
  whole : sizes.nCtbSize = sizes.nCtbWidth * sizes.nCtbHeight

def placeOf (sizes : CtbSizes) (tables : TileTables) (columns rows i j : Nat) (x y : Int) : Int :=
  gridScan (cutAt columns tables.ColumnWidth) (cutAt rows tables.RowHeight) sizes.nCtbWidth i j x y

abbrev CellOf (tables : TileTables) (columns rows i j : Nat) (x y : Int) : Prop :=
  InTile (cutAt columns tables.ColumnWidth) (cutAt rows tables.RowHeight) i j x y

variable {x y x' y' : Int} {i j nTileId i' j' : Nat}
  (held : TiledTables sizes tiles tables columns rows)

include held

theorem cell_scan
    (column : i < columns) (row : j < rows) (cell : CellOf tables columns rows i j x y) :
    tileScanAddr sizes tables.nNumTileColums tables.nNumTileRows tables.ColumnWidth
        tables.RowHeight tables.ColumBoundary tables.RowBoundary (y * sizes.nCtbWidth + x) =
      placeOf sizes tables columns rows i j x y := by
  rw [held.built.boundary, held.built.rowBoundary, held.counts.1, held.counts.2]
  exact tile_scan_addr_spec held.tiled column row cell

theorem cell_address
    (column : i < columns) (row : j < rows) (cell : CellOf tables columns rows i j x y) :
    0 ≤ y * sizes.nCtbWidth + x ∧ y * sizes.nCtbWidth + x < sizes.nCtbSize := by
  rcases tile_inside held.tiled column row cell with ⟨left, right, top, bottom⟩
  have first := Int.mul_nonneg top held.tiled.positive.1.le
  have last := Int.mul_le_mul_of_nonneg_right (show y + 1 ≤ sizes.nCtbHeight from bottom)
    held.tiled.positive.1.le
  have expand : (y + 1) * sizes.nCtbWidth = y * sizes.nCtbWidth + sizes.nCtbWidth := by ring
  rw [held.whole, Int.mul_comm sizes.nCtbWidth]
  omega

theorem address_cell {a : Int} (low : 0 ≤ a) (high : a < sizes.nCtbSize) :
    ∃ i < columns, ∃ j < rows, ∃ x y, CellOf tables columns rows i j x y ∧
      a = y * sizes.nCtbWidth + x := by
  rw [held.whole] at high
  rcases address_exists held.tiled.positive.1 low high with ⟨x, y, same, left, right, top, bottom⟩
  rcases tile_exists held.tiled left right top bottom with ⟨i, column, j, row, cell⟩
  exact ⟨i, column, j, row, x, y, cell, same⟩

omit held

theorem address_injective (left : 0 ≤ x ∧ x < sizes.nCtbWidth ∧ 0 ≤ y)
    (right : 0 ≤ x' ∧ x' < sizes.nCtbWidth ∧ 0 ≤ y')
    (same : y * sizes.nCtbWidth + x = y' * sizes.nCtbWidth + x') : x = x' ∧ y = y' := by
  rcases address_split left.1 left.2.1 left.2.2 with ⟨rest, quotient⟩
  rcases address_split right.1 right.2.1 right.2.2 with ⟨rest', quotient'⟩
  rw [same] at rest quotient
  exact ⟨rest.symm.trans rest', quotient.symm.trans quotient'⟩

variable (held : TiledTables sizes tiles tables columns rows)

include held

theorem place_range
    (column : i < columns) (row : j < rows) (cell : CellOf tables columns rows i j x y) :
    0 ≤ placeOf sizes tables columns rows i j x y ∧
      placeOf sizes tables columns rows i j x y < sizes.nCtbSize := by
  rw [held.whole]
  exact scan_bounds held.tiled.cuts held.tiled.rowCuts column row cell

theorem rs_to_ts_cell
    (column : i < columns) (row : j < rows) (cell : CellOf tables columns rows i j x y) :
    tables.CtbAddrRsToTs (y * sizes.nCtbWidth + x) = placeOf sizes tables columns rows i j x y := by
  rw [held.built.rsToTs, ← cell_scan held column row cell]
  apply write_all_agree
  · intro write member same
    rcases mem_map.mp member with ⟨a, _, rfl⟩
    rw [← same]
  · refine ⟨_, mem_map_of_mem (mem_loop_range.mpr (cell_address held column row cell)), rfl⟩

theorem ts_to_rs_cell
    (column : i < columns) (row : j < rows) (cell : CellOf tables columns rows i j x y) :
    tables.CtbAddrTsToRs (placeOf sizes tables columns rows i j x y) = y * sizes.nCtbWidth + x := by
  rw [held.built.tsToRs]
  apply write_all_agree
  · intro write member same
    rcases mem_map.mp member with ⟨a, inside, rfl⟩
    rcases mem_loop_range.mp inside with ⟨low, high⟩
    rcases address_cell held low high with ⟨i', column', j', row', x', y', cell', rfl⟩
    dsimp only at same ⊢
    rw [cell_scan held column' row' cell'] at same
    rcases scan_injective held.tiled.cuts held.tiled.rowCuts column' column row' row cell' cell
      same with ⟨rfl, rfl⟩
    rfl
  · refine ⟨_, mem_map_of_mem (mem_loop_range.mpr (cell_address held column row cell)), ?_⟩
    exact cell_scan held column row cell

omit held

theorem mem_tile_row {columns l start : Nat} {i j : Int} :
    ((i, j), nTileId) ∈ ((loopRange 0 columns).map fun i => (i, (l : Int))).zipIdx start ↔
      ∃ k : Nat, k < columns ∧ i = k ∧ j = l ∧ nTileId = start + k := by
  rw [mem_zipIdx_iff_le_and_getElem?_sub, loop_range_nat, map_map, List.getElem?_map]
  constructor
  · rintro ⟨later, entry⟩
    rcases Option.map_eq_some_iff.mp entry with ⟨k, place, same⟩
    have inside := List.getElem?_eq_some_iff.mp place
    rcases inside with ⟨bound, value⟩
    rw [length_range] at bound
    rw [getElem_range] at value
    rcases Prod.mk.inj same with ⟨rfl, rfl⟩
    exact ⟨k, by omega, rfl, rfl, by omega⟩
  · rintro ⟨k, bound, rfl, rfl, rfl⟩
    refine ⟨Nat.le_add_right _ _, ?_⟩
    rw [Nat.add_sub_cancel_left, List.getElem?_range bound]
    rfl

theorem tile_positions_succ (columns rows : Nat) :
    tilePositions columns (rows + 1 : Nat) = tilePositions columns rows ++
      (loopRange 0 columns).map fun i => (i, (rows : Int)) := by
  unfold tilePositions
  rw [loop_range_nat (rows + 1), loop_range_nat rows, range_succ, map_append, flatMap_append]
  simp

theorem tile_positions_length (columns rows : Nat) :
    (tilePositions columns rows).length = rows * columns := by
  induction rows with
  | zero => simp [tilePositions, -loop_range_nat]
  | succ rows ih =>
    rw [tile_positions_succ, length_append, ih, Nat.succ_mul]
    simp

theorem mem_tile_positions {columns rows : Nat} {i j : Int} :
    ((i, j), nTileId) ∈ (tilePositions columns rows).zipIdx ↔
      ∃ k l : Nat, k < columns ∧ l < rows ∧ i = k ∧ j = l ∧ nTileId = l * columns + k := by
  induction rows with
  | zero => simp [tilePositions, -loop_range_nat]
  | succ rows ih =>
    rw [tile_positions_succ, zipIdx_append, mem_append, ih, mem_tile_row,
      tile_positions_length, Nat.zero_add]
    constructor
    · rintro (⟨k, l, column, row, same⟩ | ⟨k, column, same, same', id⟩)
      · exact ⟨k, l, column, by omega, same⟩
      · exact ⟨k, rows, column, by omega, same, same', id⟩
    · rintro ⟨k, l, column, row, same, same', id⟩
      rcases Nat.lt_or_eq_of_le (Nat.le_of_lt_succ row) with before | rfl
      · exact Or.inl ⟨k, l, column, before, same, same', id⟩
      · exact Or.inr ⟨k, column, same, same', id⟩

theorem mem_tile_cells {ColumBoundary RowBoundary : Table} {i j : Int} :
    (x, y) ∈ tileCells ColumBoundary RowBoundary i j ↔
      ColumBoundary i ≤ x ∧ x < ColumBoundary (i + 1) ∧ RowBoundary j ≤ y ∧
        y < RowBoundary (j + 1) := by
  simp only [tileCells, mem_flatMap, mem_map, mem_loop_range, Prod.mk.injEq]
  constructor
  · rintro ⟨_, row, _, column, rfl, rfl⟩
    exact ⟨column.1, column.2, row.1, row.2⟩
  · rintro ⟨left, right, top, bottom⟩
    exact ⟨y, ⟨top, bottom⟩, x, ⟨left, right⟩, rfl, rfl⟩

variable (held : TiledTables sizes tiles tables columns rows)

include held

theorem mem_id_writes {place : Int → Int → Int} {write : Int × Int}
    :
    write ∈ (tilePositions tables.nNumTileColums tables.nNumTileRows).zipIdx.flatMap
        (idWrites place tables.ColumBoundary tables.RowBoundary) ↔
      ∃ i < columns, ∃ j < rows, ∃ x y, CellOf tables columns rows i j x y ∧
        write = (place x y, ((j * columns + i : Nat) : Int)) := by
  rw [held.counts.1, held.counts.2, mem_flatMap]
  constructor
  · rintro ⟨⟨⟨i, j⟩, nTileId⟩, tile, member⟩
    rcases mem_tile_positions.mp tile with ⟨k, l, column, row, rfl, rfl, rfl⟩
    rcases mem_map.mp member with ⟨⟨x, y⟩, cell, rfl⟩
    have inside := mem_tile_cells.mp cell
    rw [held.built.boundary, held.built.rowBoundary, held.counts.1, held.counts.2] at inside
    exact ⟨k, column, l, row, x, y, ⟨inside.1, inside.2.1, inside.2.2.1, inside.2.2.2⟩, rfl⟩
  · rintro ⟨i, column, j, row, x, y, cell, rfl⟩
    refine ⟨((i, j), j * columns + i),
      mem_tile_positions.mpr ⟨i, j, column, row, rfl, rfl, rfl⟩, ?_⟩
    refine mem_map.mpr ⟨(x, y), mem_tile_cells.mpr ?_, rfl⟩
    rw [held.built.boundary, held.built.rowBoundary, held.counts.1, held.counts.2]
    exact ⟨cell.left, cell.right, cell.top, cell.bottom⟩

theorem tile_unique (column : i < columns) (row : j < rows)
    (column' : i' < columns) (row' : j' < rows) (cell : CellOf tables columns rows i j x y)
    (cell' : CellOf tables columns rows i' j' x y) : i = i' ∧ j = j' :=
  ⟨segment_unique held.tiled.cuts column column' ⟨cell.left, cell.right⟩ ⟨cell'.left, cell'.right⟩,
    segment_unique held.tiled.rowCuts row row' ⟨cell.top, cell.bottom⟩ ⟨cell'.top, cell'.bottom⟩⟩

theorem id_in_rs_cell
    (column : i < columns) (row : j < rows) (cell : CellOf tables columns rows i j x y) :
    tables.TileIdInRs (y * sizes.nCtbWidth + x) = ((j * columns + i : Nat) : Int) := by
  rw [held.built.idInRs]
  apply write_all_agree
  · intro write member same
    rcases (mem_id_writes held).mp member with ⟨i', column', j', row', x', y', cell', rfl⟩
    rcases tile_inside held.tiled column row cell with ⟨left, right, top, _⟩
    rcases tile_inside held.tiled column' row' cell' with ⟨left', right', top', _⟩
    rcases address_injective ⟨left', right', top'⟩ ⟨left, right, top⟩ same with ⟨rfl, rfl⟩
    rcases tile_unique held column' row' column row cell' cell with ⟨rfl, rfl⟩
    rfl
  · exact ⟨_, (mem_id_writes held).mpr ⟨i, column, j, row, x, y, cell, rfl⟩, rfl⟩

theorem id_cell
    (column : i < columns) (row : j < rows) (cell : CellOf tables columns rows i j x y) :
    tables.TileId (placeOf sizes tables columns rows i j x y) =
      ((j * columns + i : Nat) : Int) := by
  rw [held.built.id]
  apply write_all_agree
  · intro write member same
    rcases (mem_id_writes held).mp member with ⟨i', column', j', row', x', y', cell', rfl⟩
    dsimp only at same ⊢
    rw [rs_to_ts_cell held column' row' cell'] at same
    rcases scan_injective held.tiled.cuts held.tiled.rowCuts column' column row' row cell' cell
      same with ⟨rfl, rfl⟩
    rcases tile_unique held column' row' column row cell' cell with ⟨rfl, rfl⟩
    rfl
  · exact ⟨_, (mem_id_writes held).mpr ⟨i, column, j, row, x, y, cell, rfl⟩,
      rs_to_ts_cell held column row cell⟩

omit held

theorem quotient_rest_lt {width q r q' r' : Int} (low : 0 ≤ r) (high : r < width) (low' : 0 ≤ r')
    (high' : r' < width) :
    q * width + r < q' * width + r' ↔ q < q' ∨ q = q' ∧ r < r' := by
  have apart : ∀ {first second : Int}, first < second → first * width + width ≤ second * width := by
    intro first second less
    have scaled := Int.mul_le_mul_of_nonneg_right (show first + 1 ≤ second from less)
      (show 0 ≤ width by omega)
    rw [Int.add_mul, Int.one_mul] at scaled
    exact scaled
  rcases Int.lt_trichotomy q q' with less | rfl | more
  · have gap := apart less
    omega
  · omega
  · have gap := apart more
    omega

theorem scan_before_iff
    (held : TiledTables sizes tiles tables columns rows) (column : i < columns) (row : j < rows)
    (column' : i' < columns) (row' : j' < rows) (cell : CellOf tables columns rows i j x y)
    (cell' : CellOf tables columns rows i' j' x' y') :
    ScanBefore i j x y i' j' x' y' ↔
      ((j * columns + i : Nat) : Int) < ((j' * columns + i' : Nat) : Int) ∨
        ((j * columns + i : Nat) : Int) = ((j' * columns + i' : Nat) : Int) ∧
          y * sizes.nCtbWidth + x < y' * sizes.nCtbWidth + x' := by
  rcases tile_inside held.tiled column row cell with ⟨left, right, top, _⟩
  rcases tile_inside held.tiled column' row' cell' with ⟨left', right', top', _⟩
  have addresses := @quotient_rest_lt sizes.nCtbWidth y x y' x' left right left' right'
  have ids := @quotient_rest_lt columns j i j' i' (by omega) (by omega) (by omega) (by omega)
  have idsBack := @quotient_rest_lt columns j' i' j i (by omega) (by omega) (by omega) (by omega)
  push_cast
  unfold ScanBefore
  omega

end CedarC.H265TileScan
