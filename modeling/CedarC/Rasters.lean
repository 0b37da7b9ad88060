import Mathlib.Data.List.Induction
import Mathlib.Data.List.Basic

/-!
# Rasters and copied samples

A raster is a rectangle of samples; it can be turned by quarters. Programs turn one by
copying its samples one after the other, which a list of moves describes.
-/

namespace CedarC.Rasters

open List

variable {Sample : Type*}

/-- A sample that is copied from one place to another. -/
structure Move where
  dst : Nat
  src : Nat
deriving DecidableEq

def copyMove (mem : Nat → Sample) (move : Move) : Nat → Sample :=
  Function.update mem move.dst (mem move.src)

def copyMoves (moves : List Move) (mem : Nat → Sample) : Nat → Sample := moves.foldl copyMove mem

theorem copy_moves_append (first second : List Move) (mem : Nat → Sample) :
    copyMoves (first ++ second) mem = copyMoves second (copyMoves first mem) := by
  unfold copyMoves
  exact foldl_append

theorem copy_moves_untouched {moves : List Move} {place : Nat}
    (untouched : ∀ move ∈ moves, move.dst ≠ place) (mem : Nat → Sample) :
    copyMoves moves mem place = mem place := by
  induction moves generalizing mem with
  | nil => rfl
  | cons move rest ih =>
    have here : move.dst ≠ place := untouched move mem_cons_self
    have later := ih (fun other member => untouched other (mem_cons_of_mem _ member))
      (copyMove mem move)
    calc copyMoves (move :: rest) mem place
        = copyMove mem move place := later
      _ = mem place := Function.update_of_ne here.symm _ _

/-- No move writes where another one reads, and moves to one place read one place. -/
structure MovesApart (moves : List Move) : Prop where
  sources : ∀ move ∈ moves, ∀ other ∈ moves, move.dst ≠ other.src
  single : ∀ move ∈ moves, ∀ other ∈ moves, move.dst = other.dst → move.src = other.src

theorem copy_moves_value {moves : List Move} (apart : MovesApart moves) (mem : Nat → Sample)
    {move : Move} (member : move ∈ moves) : copyMoves moves mem move.dst = mem move.src := by
  induction moves using List.reverseRecOn generalizing move with
  | nil => cases member
  | append_singleton rest last ih =>
    have final : last ∈ rest ++ [last] := by simp
    have before : ∀ other ∈ rest, other ∈ rest ++ [last] :=
      fun _ earlier => mem_append_left _ earlier
    rw [copy_moves_append]
    change copyMove (copyMoves rest mem) last move.dst = _
    unfold copyMove
    by_cases same : move.dst = last.dst
    · rw [same, Function.update_self, apart.single move member last final same]
      apply copy_moves_untouched
      exact fun other earlier => apart.sources other (before other earlier) last final
    · rw [Function.update_of_ne same]
      have earlier : move ∈ rest := by
        cases mem_append.mp member with
        | inl inside => exact inside
        | inr atEnd => exact absurd (by rw [mem_singleton.mp atEnd]) same
      apply ih _ earlier
      constructor
      · exact fun one first other second =>
          apart.sources one (before one first) other (before other second)
      · exact fun one first other second =>
          apart.single one (before one first) other (before other second)

/-- The samples of a rectangle by column and row. -/
structure Raster (Sample : Type*) where
  width : Nat
  height : Nat
  sample : Nat → Nat → Sample

namespace Raster

structure Same (left right : Raster Sample) : Prop where
  width : left.width = right.width
  height : left.height = right.height
  sample : ∀ x < left.width, ∀ y < left.height, left.sample x y = right.sample x y

namespace Same

variable {left middle right : Raster Sample}

theorem refl (raster : Raster Sample) : Same raster raster := ⟨rfl, rfl, fun _ _ _ _ => rfl⟩

theorem symm (same : Same left right) : Same right left := by
  refine ⟨same.width.symm, same.height.symm, ?_⟩
  intro x column y row
  rw [← same.width] at column
  rw [← same.height] at row
  exact (same.sample x column y row).symm

theorem trans (first : Same left middle) (second : Same middle right) : Same left right := by
  refine ⟨first.width.trans second.width, first.height.trans second.height, ?_⟩
  intro x column y row
  rw [first.sample x column y row]
  apply second.sample
  · rwa [← first.width]
  · rwa [← first.height]

end Same

def quarter (raster : Raster Sample) : Raster Sample where
  width := raster.height
  height := raster.width
  sample x y := raster.sample y (raster.height - 1 - x)

def half (raster : Raster Sample) : Raster Sample where
  width := raster.width
  height := raster.height
  sample x y := raster.sample (raster.width - 1 - x) (raster.height - 1 - y)

def threeQuarter (raster : Raster Sample) : Raster Sample where
  width := raster.height
  height := raster.width
  sample x y := raster.sample (raster.width - 1 - y) x

variable {left right : Raster Sample}

theorem Same.quarter (same : Same left right) : Same left.quarter right.quarter := by
  refine ⟨same.height, same.width, ?_⟩
  intro x column y row
  change left.sample y (left.height - 1 - x) = right.sample y (right.height - 1 - x)
  rw [← same.height]
  apply same.sample y row
  change x < left.height at column
  omega

theorem Same.half (same : Same left right) : Same left.half right.half := by
  refine ⟨same.width, same.height, ?_⟩
  intro x column y row
  change left.sample (left.width - 1 - x) (left.height - 1 - y) =
    right.sample (right.width - 1 - x) (right.height - 1 - y)
  rw [← same.width, ← same.height]
  change x < left.width at column
  change y < left.height at row
  apply same.sample
  · omega
  · omega

theorem Same.threeQuarter (same : Same left right) : Same left.threeQuarter right.threeQuarter := by
  refine ⟨same.height, same.width, ?_⟩
  intro x column y row
  change left.sample (left.width - 1 - y) x = right.sample (right.width - 1 - y) x
  rw [← same.width]
  change y < left.width at row
  apply same.sample _ _ x column
  omega

theorem quarter_three_quarter (raster : Raster Sample) :
    Same raster.quarter.threeQuarter raster := by
  refine ⟨rfl, rfl, ?_⟩
  intro x column y row
  change raster.sample x (raster.height - 1 - (raster.height - 1 - y)) = raster.sample x y
  change y < raster.height at row
  rw [show raster.height - 1 - (raster.height - 1 - y) = y by omega]

theorem quarter_quarter (raster : Raster Sample) : Same raster.quarter.quarter raster.half :=
  ⟨rfl, rfl, fun _ _ _ _ => rfl⟩

theorem half_half (raster : Raster Sample) : Same raster.half.half raster := by
  refine ⟨rfl, rfl, ?_⟩
  intro x column y row
  change raster.sample (raster.width - 1 - (raster.width - 1 - x))
    (raster.height - 1 - (raster.height - 1 - y)) = raster.sample x y
  change x < raster.width at column
  change y < raster.height at row
  rw [show raster.width - 1 - (raster.width - 1 - x) = x by omega,
    show raster.height - 1 - (raster.height - 1 - y) = y by omega]

end Raster

end CedarC.Rasters
