import Mathlib.Data.List.Perm.Basic
import Mathlib.Data.List.Nodup

/-!
# Allocation ledgers

A program that asks several allocators for blocks and hands addresses back to
their free routines leaves a record of both. The record is balanced when every
granted block went back exactly once, by its first address and to the allocator
that granted it. While the program runs its ledger is kept open: some releases are
still owed, some blocks are lost, and some releases name no block.
-/

namespace CedarC.AllocationLedger

open List

variable {Pool : Type}

structure Block (Pool : Type) where
  pool : Pool
  number : Nat
deriving DecidableEq

structure Address (Pool : Type) where
  block : Block Pool
  offset : Int
deriving DecidableEq

def Address.plus (address : Address Pool) (distance : Int) : Address Pool :=
  ⟨address.block, address.offset + distance⟩

/-- An address given to the free routine of one allocator. -/
structure Release (Pool : Type) where
  pool : Pool
  address : Address Pool
deriving DecidableEq

def Block.start (block : Block Pool) : Address Pool := ⟨block, 0⟩

def Block.release (block : Block Pool) : Release Pool := ⟨block.pool, block.start⟩

theorem release_injective : Function.Injective (@Block.release Pool) := by
  intro first second same
  have addresses := congrArg Release.address same
  exact congrArg Address.block addresses

structure Memory (Pool : Type) where
  requests : Nat
  allocated : List (Block Pool)
  freed : List (Release Pool)
deriving DecidableEq

def Memory.unused : Memory Pool := ⟨0, [], []⟩

/-- Request number `n` is granted when `grants n` says so. -/
def Memory.allocate (grants : Nat → Bool) (memory : Memory Pool) (pool : Pool) :
    Memory Pool × Option (Address Pool) :=
  if grants memory.requests then
    ({ memory with
        requests := memory.requests + 1
        allocated := memory.allocated ++ [⟨pool, memory.requests⟩] },
      some (Block.start ⟨pool, memory.requests⟩))
  else ({ memory with requests := memory.requests + 1 }, none)

def Memory.free (memory : Memory Pool) (pool : Pool) (address : Address Pool) : Memory Pool :=
  { memory with freed := memory.freed ++ [⟨pool, address⟩] }

/-- Every block went back exactly once, and nothing but blocks went back. -/
def FreedOnce [DecidableEq Pool] (memory : Memory Pool) : Prop :=
  (∀ block ∈ memory.allocated, memory.freed.count block.release = 1) ∧
    ∀ release ∈ memory.freed, ∃ block ∈ memory.allocated, release = block.release

instance [DecidableEq Pool] (memory : Memory Pool) : Decidable (FreedOnce memory) :=
  inferInstanceAs (Decidable ((∀ _ ∈ _, _) ∧ ∀ _ ∈ _, ∃ _ ∈ _, _))

structure Ledger (memory : Memory Pool) (owed lost stray : List (Release Pool)) : Prop where
  numbers : ∀ block ∈ memory.allocated, block.number < memory.requests
  distinct : memory.allocated.Nodup
  entries : (memory.freed ++ owed ++ lost).Perm
    (memory.allocated.map Block.release ++ stray)

theorem unused_ledger : Ledger (@Memory.unused Pool) [] [] [] := by
  constructor
  · intro block inside
    cases inside
  · exact nodup_nil
  · exact List.Perm.refl _

section Entries

variable {memory : Memory Pool} {owed lost stray : List (Release Pool)}

theorem Ledger.refuse (ledger : Ledger memory owed lost stray) :
    Ledger { memory with requests := memory.requests + 1 } owed lost stray := by
  constructor
  · intro block inside
    exact Nat.lt_succ_of_lt (ledger.numbers block inside)
  · exact ledger.distinct
  · exact ledger.entries

variable {others : List (Release Pool)}

theorem Ledger.settle (releases : List (Release Pool))
    (ledger : Ledger memory owed lost stray) (split : owed.Perm (releases ++ others)) :
    Ledger { memory with freed := memory.freed ++ releases } others lost stray := by
  constructor
  · exact ledger.numbers
  · exact ledger.distinct
  · have entries := ledger.entries
    rw [append_assoc memory.freed releases others]
    exact ((split.symm.append_left memory.freed).append_right lost).trans entries

theorem Ledger.reorder (ledger : Ledger memory owed lost stray) (same : owed.Perm others) :
    Ledger memory others lost stray := by
  constructor
  · exact ledger.numbers
  · exact ledger.distinct
  · exact ((same.symm.append_left memory.freed).append_right lost).trans ledger.entries

variable [DecidableEq Pool]

theorem Ledger.grant (ledger : Ledger memory owed lost stray) (pool : Pool) : Ledger
      { memory with
        requests := memory.requests + 1
        allocated := memory.allocated ++ [⟨pool, memory.requests⟩] }
      (owed ++ [Block.release ⟨pool, memory.requests⟩]) lost stray := by
  constructor
  · intro block inside
    rcases mem_append.mp inside with earlier | last
    · exact Nat.lt_succ_of_lt (ledger.numbers block earlier)
    · rw [mem_singleton.mp last]
      exact Nat.lt_succ_self _
  · apply List.Nodup.append ledger.distinct (nodup_singleton _)
    intro block earlier last
    have bound := ledger.numbers block earlier
    rw [mem_singleton.mp last] at bound
    exact Nat.lt_irrefl _ bound
  · have entries := ledger.entries
    simp only [map_append, map_cons, map_nil]
    rw [perm_iff_count] at entries ⊢
    intro release
    have counted := entries release
    simp only [count_append] at counted ⊢
    omega

theorem Ledger.lose {release : Release Pool}
    (ledger : Ledger memory (owed ++ [release]) lost stray) :
    Ledger memory owed (lost ++ [release]) stray := by
  constructor
  · exact ledger.numbers
  · exact ledger.distinct
  · have entries := ledger.entries
    rw [perm_iff_count] at entries ⊢
    intro other
    have counted := entries other
    simp only [count_append] at counted ⊢
    omega

theorem Ledger.promise (ledger : Ledger memory owed lost stray) (release : Release Pool) :
    Ledger memory (owed ++ [release]) lost (stray ++ [release]) := by
  constructor
  · exact ledger.numbers
  · exact ledger.distinct
  · have entries := ledger.entries
    rw [perm_iff_count] at entries ⊢
    intro other
    have counted := entries other
    simp only [count_append] at counted ⊢
    omega

end Entries

theorem freed_once_iff_perm [DecidableEq Pool] {memory : Memory Pool}
    (distinct : memory.allocated.Nodup) :
    FreedOnce memory ↔ memory.freed.Perm (memory.allocated.map Block.release) := by
  have images := distinct.map release_injective
  constructor
  · intro once
    rw [perm_iff_count]
    intro release
    by_cases granted : release ∈ memory.allocated.map Block.release
    · obtain ⟨block, inside, rfl⟩ := mem_map.mp granted
      rw [once.1 block inside, count_eq_one_of_mem images granted]
    · rw [count_eq_zero_of_not_mem granted]
      apply count_eq_zero_of_not_mem
      intro given
      obtain ⟨block, inside, rfl⟩ := once.2 release given
      exact granted (mem_map_of_mem inside)
  · intro same
    constructor
    · intro block inside
      rw [same.count_eq]
      exact count_eq_one_of_mem images (mem_map_of_mem inside)
    · intro release given
      obtain ⟨block, inside, image⟩ := mem_map.mp (same.mem_iff.mp given)
      exact ⟨block, inside, image.symm⟩

/-- A closed ledger with one kind of wrong entries is balanced when it has none. -/
theorem Ledger.balanced_iff [DecidableEq Pool] {memory : Memory Pool}
    {lost stray : List (Release Pool)} (ledger : Ledger memory [] lost stray)
    (one : lost = [] ∨ stray = []) : FreedOnce memory ↔ lost = [] ∧ stray = [] := by
  rw [freed_once_iff_perm ledger.distinct]
  have entries := ledger.entries
  rw [append_nil] at entries
  have lengths := entries.length_eq
  simp only [length_append] at lengths
  constructor
  · intro same
    have equal := same.length_eq
    rcases one with none_lost | none_stray
    · refine ⟨none_lost, eq_nil_of_length_eq_zero ?_⟩
      rw [none_lost] at lengths
      simp only [length_nil] at lengths
      omega
    · refine ⟨eq_nil_of_length_eq_zero ?_, none_stray⟩
      rw [none_stray] at lengths
      simp only [length_nil] at lengths
      omega
  · rintro ⟨rfl, rfl⟩
    simpa only [append_nil] using entries

end CedarC.AllocationLedger
