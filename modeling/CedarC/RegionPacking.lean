import CedarC.AllocationLedger

/-!
# Regions of a block

A block of memory is divided into regions of so many bytes. They are laid out in
the block where no two of them overlap and each is inside it. Regions that are
laid out need no more bytes than the block has, and regions that follow each
other are laid out as soon as their bytes fit.
-/

namespace CedarC.RegionPacking

open AllocationLedger List

variable {Pool : Type}

structure Region (Pool : Type) where
  start : Address Pool
  size : Nat

def Apart (one other : Region Pool) : Prop :=
  one.start.block ≠ other.start.block ∨ one.start.offset + one.size ≤ other.start.offset ∨
    other.start.offset + other.size ≤ one.start.offset

/-- The regions are apart, and in the block of this address within so many bytes from it. -/
structure LaidOut (regions : List (Region Pool)) (base : Address Pool) (size : Int) : Prop where
  apart : regions.Pairwise Apart
  contained : ∀ region ∈ regions, region.start.block = base.block ∧
    base.offset ≤ region.start.offset ∧ region.start.offset + region.size ≤ base.offset + size

variable {base : Address Pool} {size : Int} {one two : Region Pool} {first second : Nat}

theorem one_total (laidOut : LaidOut [one] base size) : (one.size : Int) ≤ size := by
  have inside := laidOut.contained one mem_cons_self
  omega

theorem two_total (laidOut : LaidOut [one, two] base size) :
    (one.size + two.size : Int) ≤ size := by
  have first := laidOut.contained one (by simp)
  have second := laidOut.contained two (by simp)
  have apart : Apart one two := (pairwise_cons.mp laidOut.apart).1 two (by simp)
  rcases apart with blocks | before | after
  · exact absurd (first.1.trans second.1.symm) blocks
  · omega
  · omega

/-- Regions that are apart take no more room than the block that they are in. -/
theorem three_total {three : Region Pool} (laidOut : LaidOut [one, two, three] base size) :
    (one.size + two.size + three.size : Int) ≤ size := by
  have first := laidOut.contained one (by simp)
  have second := laidOut.contained two (by simp)
  have third := laidOut.contained three (by simp)
  have apart := pairwise_cons.mp laidOut.apart
  have one_two : Apart one two := apart.1 two (by simp)
  have one_three : Apart one three := apart.1 three (by simp)
  have two_three : Apart two three := (pairwise_cons.mp apart.2).1 three (by simp)
  have ordered (left right : Region Pool) (leftBlock : left.start.block = base.block)
      (rightBlock : right.start.block = base.block) (apart : Apart left right) :
      left.start.offset + left.size ≤ right.start.offset ∨
        right.start.offset + right.size ≤ left.start.offset :=
    apart.resolve_left fun blocks => blocks (leftBlock.trans rightBlock.symm)
  have one_two := ordered one two first.1 second.1 one_two
  have one_three := ordered one three first.1 third.1 one_three
  have two_three := ordered two three second.1 third.1 two_three
  omega

theorem one_laid (fits : (first : Int) ≤ size) : LaidOut [⟨base, first⟩] base size where
  apart := pairwise_singleton _ _
  contained := by
    intro region member
    rw [mem_singleton.mp member]
    exact ⟨rfl, Int.le_refl _, Int.add_le_add_left fits _⟩

theorem three_laid {third : Nat} {next last : Int} (follows : next = first)
    (ends : last = first + second) (fits : (first + second + third : Int) ≤ size) :
    LaidOut [⟨base, first⟩, ⟨base.plus next, second⟩, ⟨base.plus last, third⟩] base size where
  apart := by
    subst follows ends
    simp only [pairwise_cons, mem_cons, not_mem_nil, or_false, forall_eq_or_imp,
      forall_eq, Apart, Address.plus]
    refine ⟨⟨.inr (.inl (Int.le_refl _)), .inr (.inl ?_)⟩, .inr (.inl ?_), ?_, List.Pairwise.nil⟩
    · omega
    · omega
    · intro region member
      exact False.elim member
  contained := by
    subst follows ends
    intro region member
    simp only [mem_cons, not_mem_nil, or_false] at member
    rcases member with rfl | rfl | rfl
    · exact ⟨rfl, Int.le_refl _, by dsimp only; omega⟩
    all_goals
      refine ⟨rfl, ?_, ?_⟩
      all_goals simp only [Address.plus]; omega

theorem two_laid {next : Int} (follows : next = first) (fits : (first + second : Int) ≤ size) :
    LaidOut [⟨base, first⟩, ⟨base.plus next, second⟩] base size := by
  have three : LaidOut [⟨base, first⟩, ⟨base.plus next, second⟩,
      ⟨base.plus (first + second), 0⟩] base size := three_laid follows rfl (by omega)
  have fewer : @List.Sublist (Region Pool) [⟨base, first⟩, ⟨base.plus next, second⟩]
      [⟨base, first⟩, ⟨base.plus next, second⟩, ⟨base.plus (first + second), 0⟩] :=
    ((nil_sublist _).cons_cons _).cons_cons _
  constructor
  · exact List.Pairwise.sublist fewer three.apart
  · intro region member
    exact three.contained region (fewer.subset member)

end CedarC.RegionPacking
