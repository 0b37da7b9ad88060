import Mathlib.Tactic.Ring
import Mathlib.Tactic.Linarith

/-!
# Grids that are cut into tiles

An interval is cut into segments by increasing boundaries. A grid that is cut both ways has
tiles, and its tile scan counts the cells of the tiles in front and then those of the cell's own
tile, row by row.
-/

namespace CedarC.GridScan

/-- The boundaries of `count` segments of the integers below `total`. -/
structure Cuts (cut : Nat → Int) (count : Nat) (total : Int) : Prop where
  start : cut 0 = 0
  finish : cut count = total
  grows : ∀ i < count, cut i < cut (i + 1)

section Segments

variable {cut : Nat → Int} {count : Nat} {total : Int} {i j : Nat} {x : Int}
  (cuts : Cuts cut count total)

include cuts

theorem cut_le (ordered : i ≤ j) (within : j ≤ count) : cut i ≤ cut j := by
  induction ordered with
  | refl => exact Int.le_refl _
  | step _ ih => exact (ih (by omega)).trans (cuts.grows _ (by omega)).le

theorem cut_nonneg (within : i ≤ count) : 0 ≤ cut i := by
  rw [← cuts.start]
  exact cut_le cuts (Nat.zero_le i) within

theorem cut_le_total (within : i ≤ count) : cut i ≤ total := by
  rw [← cuts.finish]
  exact cut_le cuts within (Nat.le_refl _)

theorem index_le_cut (within : i ≤ count) : (i : Int) ≤ cut i := by
  induction i with
  | zero => simp [cuts.start]
  | succ i ih =>
    have before := ih (by omega)
    have grows := cuts.grows i (by omega)
    omega

/-- What is left of the total has a place for each segment that is left. -/
theorem cut_le_rest (within : i ≤ count) : cut i + ((count : Int) - i) ≤ total := by
  induction within using Nat.decreasingInduction with
  | self => simp [cuts.finish]
  | of_succ i below ih =>
    have grows := cuts.grows i below
    push_cast at ih
    omega

theorem segment_exists (low : 0 ≤ x) (high : x < total) :
    ∃ i < count, cut i ≤ x ∧ x < cut (i + 1) := by
  have reaches : ∀ k ≤ count, x < cut k → ∃ i < count, cut i ≤ x ∧ x < cut (i + 1) := by
    intro k
    induction k with
    | zero =>
      intro _ above
      rw [cuts.start] at above
      omega
    | succ k ih =>
      intro within above
      by_cases here : cut k ≤ x
      · exact ⟨k, by omega, here, above⟩
      · exact ih (by omega) (by omega)
  exact reaches count (Nat.le_refl _) (by rw [cuts.finish]; exact high)

theorem segment_lt {x' : Int} (ordered : i < j)
    (within : j ≤ count) (before : x < cut (i + 1)) (behind : cut j ≤ x') : x < x' :=
  (before.trans_le (cut_le cuts ordered within)).trans_le behind

theorem segment_unique (left : i < count) (right : j < count) (first : cut i ≤ x ∧ x < cut (i + 1))
    (second : cut j ≤ x ∧ x < cut (j + 1)) : i = j := by
  rcases Nat.lt_trichotomy i j with less | same | more
  · exact absurd (segment_lt cuts less right.le first.2 second.1) (lt_irrefl x)
  · exact same
  · exact absurd (segment_lt cuts more left.le second.2 first.1) (lt_irrefl x)

end Segments

variable {cut row : Nat → Int} {columns rows : Nat} {width height : Int}

def gridScan (cut row : Nat → Int) (width : Int) (i j : Nat) (x y : Int) : Int :=
  width * row j + (row (j + 1) - row j) * cut i + (y - row j) * (cut (i + 1) - cut i) + (x - cut i)

structure InTile (cut row : Nat → Int) (i j : Nat) (x y : Int) : Prop where
  left : cut i ≤ x
  right : x < cut (i + 1)
  top : row j ≤ y
  bottom : y < row (j + 1)

theorem scan_in_tile {i j : Nat} {x y : Int} (inTile : InTile cut row i j x y) :
    width * row j + (row (j + 1) - row j) * cut i ≤ gridScan cut row width i j x y ∧
      gridScan cut row width i j x y < width * row j + (row (j + 1) - row j) * cut (i + 1) := by
  have wide : 0 ≤ cut (i + 1) - cut i := by
    have left := inTile.left
    have right := inTile.right
    omega
  have above : 0 ≤ (y - row j) * (cut (i + 1) - cut i) :=
    Int.mul_nonneg (by have top := inTile.top; omega) wide
  have below : (y - row j) * (cut (i + 1) - cut i) ≤
      (row (j + 1) - row j - 1) * (cut (i + 1) - cut i) :=
    Int.mul_le_mul_of_nonneg_right (by have bottom := inTile.bottom; omega) wide
  have expand : (row (j + 1) - row j - 1) * (cut (i + 1) - cut i) =
      (row (j + 1) - row j) * cut (i + 1) - (row (j + 1) - row j) * cut i -
        (cut (i + 1) - cut i) := by
    ring
  have left := inTile.left
  have right := inTile.right
  unfold gridScan
  constructor
  · linarith
  · linarith

theorem scan_in_row {i j : Nat} {x y : Int} (cuts : Cuts cut columns width) (within : i < columns)
    (inTile : InTile cut row i j x y) :
    width * row j ≤ gridScan cut row width i j x y ∧
      gridScan cut row width i j x y < width * row (j + 1) := by
  rcases @scan_in_tile cut row width i j x y inTile with ⟨low, high⟩
  have tall : 0 ≤ row (j + 1) - row j := by
    have top := inTile.top
    have bottom := inTile.bottom
    omega
  have first : 0 ≤ (row (j + 1) - row j) * cut i := Int.mul_nonneg tall (cut_nonneg cuts within.le)
  have last : (row (j + 1) - row j) * cut (i + 1) ≤ (row (j + 1) - row j) * width :=
    Int.mul_le_mul_of_nonneg_left (cut_le_total cuts within) tall
  have expand : (row (j + 1) - row j) * width = width * row (j + 1) - width * row j := by ring
  constructor
  · linarith
  · linarith

variable {i j i' j' : Nat} {x y x' y' : Int}

theorem scan_bounds (cuts : Cuts cut columns width)
    (rowCuts : Cuts row rows height) (withinColumns : i < columns) (withinRows : j < rows)
    (inTile : InTile cut row i j x y) :
    0 ≤ gridScan cut row width i j x y ∧ gridScan cut row width i j x y < width * height := by
  rcases @scan_in_row cut row columns width i j x y cuts withinColumns inTile with ⟨low, high⟩
  have wide : 0 ≤ width := by
    rw [← cuts.finish]
    exact cut_nonneg cuts (Nat.le_refl _)
  have first : 0 ≤ width * row j := Int.mul_nonneg wide (cut_nonneg rowCuts withinRows.le)
  have last : width * row (j + 1) ≤ width * height :=
    Int.mul_le_mul_of_nonneg_left (cut_le_total rowCuts withinRows) wide
  constructor
  · linarith
  · linarith

/-- The order of the scan: by the row of tiles, the column of tiles, the row and the column. -/
def ScanBefore (i j : Nat) (x y : Int) (i' j' : Nat) (x' y' : Int) : Prop :=
  j < j' ∨ j = j' ∧ (i < i' ∨ i = i' ∧ (y < y' ∨ y = y' ∧ x < x'))

theorem scan_lt (cuts : Cuts cut columns width)
    (rowCuts : Cuts row rows height) (left : i < columns) (right : i' < columns) (low : j' < rows)
    (inTile : InTile cut row i j x y) (inTile' : InTile cut row i' j' x' y')
    (before : ScanBefore i j x y i' j' x' y') :
    gridScan cut row width i j x y < gridScan cut row width i' j' x' y' := by
  have wide : 0 ≤ width := by
    rw [← cuts.finish]
    exact cut_nonneg cuts (Nat.le_refl _)
  rcases before with rowLess | ⟨rfl, columnLess | ⟨rfl, less | ⟨rfl, less⟩⟩⟩
  · have first := (scan_in_row cuts left inTile).2
    have second := (scan_in_row cuts right inTile').1
    have apart : width * row (j + 1) ≤ width * row j' :=
      Int.mul_le_mul_of_nonneg_left (cut_le rowCuts rowLess low.le) wide
    linarith
  · have first := (@scan_in_tile cut row width i j x y inTile).2
    have second := (@scan_in_tile cut row width i' j x' y' inTile').1
    have tall : 0 ≤ row (j + 1) - row j := by
      have top := inTile.top
      have bottom := inTile.bottom
      omega
    have apart : (row (j + 1) - row j) * cut (i + 1) ≤ (row (j + 1) - row j) * cut i' :=
      Int.mul_le_mul_of_nonneg_left (cut_le cuts columnLess right.le) tall
    linarith
  · have positive : 0 ≤ cut (i + 1) - cut i := by
      have first := inTile.left
      have last := inTile.right
      omega
    have apart : (y - row j + 1) * (cut (i + 1) - cut i) ≤ (y' - row j) * (cut (i + 1) - cut i) :=
      Int.mul_le_mul_of_nonneg_right (by omega) positive
    have expand : (y - row j + 1) * (cut (i + 1) - cut i) =
        (y - row j) * (cut (i + 1) - cut i) + (cut (i + 1) - cut i) := by
      ring
    have first := inTile.right
    have second := inTile'.left
    unfold gridScan
    linarith
  · unfold gridScan
    linarith

theorem scan_total {i j i' j' : Nat} {x y x' y' : Int} :
    ScanBefore i j x y i' j' x' y' ∨ (x = x' ∧ y = y') ∨ ScanBefore i' j' x' y' i j x y := by
  unfold ScanBefore
  omega

theorem scan_injective (cuts : Cuts cut columns width)
    (rowCuts : Cuts row rows height) (left : i < columns) (right : i' < columns) (top : j < rows)
    (low : j' < rows) (inTile : InTile cut row i j x y) (inTile' : InTile cut row i' j' x' y')
    (same : gridScan cut row width i j x y = gridScan cut row width i' j' x' y') :
    x = x' ∧ y = y' := by
  rcases @scan_total i j i' j' x y x' y' with before | equal | behind
  · exact absurd same (scan_lt cuts rowCuts left right low inTile inTile' before).ne
  · exact equal
  · exact absurd same.symm (scan_lt cuts rowCuts right left top inTile' inTile behind).ne

theorem scan_surjective {place : Int} (cuts : Cuts cut columns width)
    (rowCuts : Cuts row rows height) (low : 0 ≤ place) (high : place < width * height) :
    ∃ i < columns, ∃ j < rows, ∃ x y, InTile cut row i j x y ∧
      gridScan cut row width i j x y = place := by
  have wide : 0 < width := by
    have nonneg : 0 ≤ width := by
      rw [← cuts.finish]
      exact cut_nonneg cuts (Nat.le_refl _)
    rcases Int.lt_or_eq_of_le nonneg with positive | zero
    · exact positive
    · rw [← zero, Int.zero_mul] at high
      omega
  rw [Int.mul_comm] at high
  rcases segment_exists rowCuts (Int.ediv_nonneg low wide.le) (Int.ediv_lt_of_lt_mul wide high) with
    ⟨j, withinRows, top, bottom⟩
  have tall : 0 < row (j + 1) - row j := Int.sub_pos_of_lt (rowCuts.grows j withinRows)
  have first : row j * width ≤ place := (Int.le_ediv_iff_mul_le wide).mp top
  have last : place < row (j + 1) * width := (Int.ediv_lt_iff_lt_mul wide).mp bottom
  have rowRange : place - row j * width < width * (row (j + 1) - row j) := by
    have expand : width * (row (j + 1) - row j) = row (j + 1) * width - row j * width := by ring
    omega
  rcases segment_exists cuts (Int.ediv_nonneg (Int.sub_nonneg_of_le first) tall.le)
    (Int.ediv_lt_of_lt_mul tall rowRange) with ⟨i, withinColumns, left, right⟩
  have positive : 0 < cut (i + 1) - cut i := Int.sub_pos_of_lt (cuts.grows i withinColumns)
  have start : cut i * (row (j + 1) - row j) ≤ place - row j * width :=
    (Int.le_ediv_iff_mul_le tall).mp left
  have stop : place - row j * width < cut (i + 1) * (row (j + 1) - row j) :=
    (Int.ediv_lt_iff_lt_mul tall).mp right
  generalize rest : place - row j * width - cut i * (row (j + 1) - row j) = offset
  have nonneg : 0 ≤ offset := by omega
  have below : offset < (row (j + 1) - row j) * (cut (i + 1) - cut i) := by
    have expand : (row (j + 1) - row j) * (cut (i + 1) - cut i) =
        cut (i + 1) * (row (j + 1) - row j) - cut i * (row (j + 1) - row j) := by
      ring
    omega
  have modulo := Int.emod_lt_of_pos offset positive
  have quotient := Int.ediv_lt_of_lt_mul positive below
  refine ⟨i, withinColumns, j, withinRows, cut i + offset % (cut (i + 1) - cut i),
    row j + offset / (cut (i + 1) - cut i), ⟨?_, ?_, ?_, ?_⟩, ?_⟩
  · have small := Int.emod_nonneg offset (show cut (i + 1) - cut i ≠ 0 by omega)
    omega
  · omega
  · have small := Int.ediv_nonneg nonneg positive.le
    omega
  · omega
  · have division := Int.mul_ediv_add_emod offset (cut (i + 1) - cut i)
    unfold gridScan
    have cancel : row j + offset / (cut (i + 1) - cut i) - row j =
        offset / (cut (i + 1) - cut i) := by
      omega
    rw [cancel]
    linarith

end CedarC.GridScan
