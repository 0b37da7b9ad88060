import Mathlib.Data.List.Nodup

/-!
# Pools of nodes with owners

Every node of a pool is free or has one owner. An owner knows its node, and the
node points back to its owner; what the two say about others is left open. The
nodes and the owners are anything with decidable equality. An owner gives its
node back, or another one takes a free node.
-/

namespace CedarC.NodePool

open List Function

variable {Node Slot : Type}

structure Partitioned (pool : Node → Prop) (free : List Node) (owner : Slot → Prop)
    (node : Slot → Node) (back : Node → Option Slot) : Prop where
  free_in_pool : ∀ p ∈ free, pool p
  owned_in_pool : ∀ s, owner s → pool (node s)
  owned_not_free : ∀ s, owner s → node s ∉ free
  back_owner : ∀ s, owner s → back (node s) = some s
  covered : ∀ p, pool p → p ∈ free ∨ ∃ s, owner s ∧ node s = p

variable {pool : Node → Prop} {free : List Node} {owner : Slot → Prop} {node : Slot → Node}
  {back : Node → Option Slot} {s : Slot} {others : Slot → Prop}
  (parted : Partitioned pool free owner node back)

include parted

theorem node_injective {t : Slot}
    (first : owner s) (second : owner t) (same : node s = node t) : s = t := by
  have backFirst := parted.back_owner s first
  rw [same, parted.back_owner t second] at backFirst
  exact (Option.some.inj backFirst).symm

theorem free_iff_unowned {p : Node} (inPool : pool p) : p ∈ free ↔ ∀ s, owner s → node s ≠ p := by
  constructor
  · rintro isFree s owns rfl
    exact parted.owned_not_free s owns isFree
  · intro unowned
    rcases parted.covered p inPool with isFree | ⟨s, owns, same⟩
    · exact isFree
    · exact absurd same (unowned s owns)

theorem same_owners {nodes : Slot → Node} (sameOwners : ∀ s, others s ↔ owner s)
    (sameNodes : ∀ s, owner s → nodes s = node s) :
    Partitioned pool free others nodes back where
  free_in_pool := parted.free_in_pool
  owned_in_pool s owns := by
    have before := (sameOwners s).mp owns
    rw [sameNodes s before]
    exact parted.owned_in_pool s before
  owned_not_free s owns := by
    have before := (sameOwners s).mp owns
    rw [sameNodes s before]
    exact parted.owned_not_free s before
  back_owner s owns := by
    have before := (sameOwners s).mp owns
    rw [sameNodes s before]
    exact parted.back_owner s before
  covered p inPool := by
    rcases parted.covered p inPool with isFree | ⟨s, owns, same⟩
    · exact .inl isFree
    · exact .inr ⟨s, (sameOwners s).mpr owns, (sameNodes s owns).trans same⟩

theorem released (owns : owner s) (rest : ∀ t, others t ↔ owner t ∧ t ≠ s) :
    Partitioned pool (free ++ [node s]) others node back where
  free_in_pool p isFree := by
    rcases mem_append.mp isFree with before | new
    · exact parted.free_in_pool p before
    · rw [mem_singleton.mp new]
      exact parted.owned_in_pool s owns
  owned_in_pool t left := parted.owned_in_pool t ((rest t).mp left).1
  owned_not_free t left isFree := by
    obtain ⟨before, other⟩ := (rest t).mp left
    rcases mem_append.mp isFree with inFree | same
    · exact parted.owned_not_free t before inFree
    · exact other (node_injective parted before owns (mem_singleton.mp same))
  back_owner t left := parted.back_owner t ((rest t).mp left).1
  covered p inPool := by
    rcases parted.covered p inPool with isFree | ⟨t, before, rfl⟩
    · exact .inl (mem_append_left _ isFree)
    · by_cases same : node t = node s
      · apply Or.inl
        rw [same]
        exact mem_append_right _ mem_cons_self
      · have other : t ≠ s := fun equal => same (by rw [equal])
        exact .inr ⟨t, (rest t).mpr ⟨before, other⟩, rfl⟩

omit parted

variable [DecidableEq Node] [DecidableEq Slot]

theorem taken {p : Node} (parted : Partitioned pool (p :: free) owner node back)
    (distinct : (p :: free).Nodup) (idle : ¬ owner s) (added : ∀ t, others t ↔ owner t ∨ t = s) :
    Partitioned pool free others (update node s p)
      (update back p (some s)) := by
  have unowned : ∀ t, owner t → node t ≠ p := by
    rintro t owns rfl
    exact parted.owned_not_free t owns mem_cons_self
  have other : ∀ t, owner t → t ≠ s := by
    rintro t owns rfl
    exact idle owns
  constructor
  · intro q isFree
    exact parted.free_in_pool q (mem_cons_of_mem _ isFree)
  · intro t owns
    rcases (added t).mp owns with before | rfl
    · rw [update_of_ne (other t before)]
      exact parted.owned_in_pool t before
    · rw [update_self]
      exact parted.free_in_pool p mem_cons_self
  · intro t owns
    rcases (added t).mp owns with before | rfl
    · rw [update_of_ne (other t before)]
      intro isFree
      exact parted.owned_not_free t before (mem_cons_of_mem _ isFree)
    · rw [update_self]
      exact (nodup_cons.mp distinct).1
  · intro t owns
    rcases (added t).mp owns with before | rfl
    · rw [update_of_ne (other t before), update_of_ne (unowned t before)]
      exact parted.back_owner t before
    · rw [update_self, update_self]
  · intro q inPool
    rcases parted.covered q inPool with isFree | ⟨t, owns, same⟩
    · rcases mem_cons.mp isFree with rfl | later
      · exact .inr ⟨s, (added s).mpr (.inr rfl), update_self ..⟩
      · exact .inl later
    · refine .inr ⟨t, (added t).mpr (.inl owns), ?_⟩
      rw [update_of_ne (other t owns)]
      exact same

omit [DecidableEq Node] [DecidableEq Slot] in
theorem all_free (everything : ∀ p, p ∈ free ↔ pool p) (nobody : ∀ s, ¬ owner s) :
    Partitioned pool free owner node back where
  free_in_pool p isFree := (everything p).mp isFree
  owned_in_pool s owns := absurd owns (nobody s)
  owned_not_free s owns := absurd owns (nobody s)
  back_owner s owns := absurd owns (nobody s)
  covered p inPool := .inl ((everything p).mpr inPool)

end CedarC.NodePool
