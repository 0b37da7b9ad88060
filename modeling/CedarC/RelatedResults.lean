import CedarC.SlotTables
import Mathlib.Data.Option.Basic

/-!
# Two computations on related data

Partial results are related when both are there and related or neither is, and
tables of slots when the slots are. A relation that pairs names off carries over
from two tables to their updates.
-/

namespace CedarC.RelatedResults

open SlotTables Function

section Results

variable {One Other OneNext OtherNext : Type*} {related : One → Other → Prop}
  {relatedNext : OneNext → OtherNext → Prop} {one : Option One} {other : Option Other}

theorem rel_bind {oneNext : One → Option OneNext} {otherNext : Other → Option OtherNext}
    (results : Option.Rel related one other) (next : ∀ left right, related left right →
      Option.Rel relatedNext (oneNext left) (otherNext right)) :
    Option.Rel relatedNext (one.bind oneNext) (other.bind otherNext) := by
  cases results with
  | none => exact .none
  | some values => exact next _ _ values

theorem rel_map {oneNext : One → OneNext} {otherNext : Other → OtherNext}
    (results : Option.Rel related one other)
    (next : ∀ left right, related left right → relatedNext (oneNext left) (otherNext right)) :
    Option.Rel relatedNext (one.map oneNext) (other.map otherNext) := by
  cases results with
  | none => exact .none
  | some values => exact .some (next _ _ values)

variable {left : One} {right : Other} (results : Option.Rel related one other)

include results

theorem rel_values
    (first : one = some left) (second : other = some right) : related left right := by
  subst first
  subst second
  cases results with
  | some values => exact values

theorem rel_cases : (one = none ∧ other = none) ∨
      ∃ left right, one = some left ∧ other = some right ∧ related left right := by
  cases results with
  | none => exact .inl ⟨rfl, rfl⟩
  | some values => exact .inr ⟨_, _, rfl, rfl, values⟩

theorem rel_isSome : one.isSome = other.isSome := by
  cases results with
  | none | some _ => rfl

theorem rel_mono {wider : One → Other → Prop}
    (weaker : ∀ left right, related left right → wider left right) :
    Option.Rel wider one other := by
  cases results with
  | none => exact .none
  | some values => exact .some (weaker _ _ values)

omit results

theorem rel_foldlM {Entry : Type*} {oneStep : One → Entry → Option One}
    {otherStep : Other → Entry → Option Other} (step : ∀ left right entry, related left right →
      Option.Rel related (oneStep left entry) (otherStep right entry))
    (entries : List Entry) (start : related left right) :
    Option.Rel related (entries.foldlM oneStep left) (entries.foldlM otherStep right) := by
  induction entries generalizing left right with
  | nil => exact .some start
  | cons entry rest later =>
    apply rel_bind (step left right entry start)
    intro nextLeft nextRight next
    exact later next

end Results

section Tables

variable {One Other : Type*} {related : One → Other → Prop} {size : Nat}
  {one : Nat → Option One} {other : Nat → Option Other}

def Matching (related : One → Other → Prop) (size : Nat) (one : Nat → Option One)
    (other : Nat → Option Other) : Prop :=
  ∀ i, i < size → Option.Rel related (one i) (other i)

theorem matching_update {left : Option One} {right : Option Other} {slot : Nat}
    (matching : Matching related size one other) (entry : Option.Rel related left right) :
    Matching related size (update one slot left) (update other slot right) := by
  intro i inside
  by_cases here : i = slot
  · rw [here, update_self, update_self]
    exact entry
  · rw [update_of_ne here, update_of_ne here]
    exact matching i inside

theorem matching_move_down {slot : Nat} (matching : Matching related (size + 1) one other) :
    Matching related size (moveDown slot size one) (moveDown slot size other) := by
  intro i inside
  unfold moveDown
  split_ifs
  · exact matching (i + 1) (by omega)
  · exact matching i (by omega)

theorem matching_move_up {left : One} {right : Other} (matching : Matching related size one other)
    (entry : related left right) :
    Matching related (size + 1) (update (moveUp size one) 0 (some left))
      (update (moveUp size other) 0 (some right)) := by
  intro i inside
  by_cases front : i = 0
  · rw [front, update_self, update_self]
    exact .some entry
  · rw [update_of_ne front, update_of_ne front]
    unfold moveUp
    split_ifs
    · exact matching (i - 1) (by omega)
    · exact matching i (by omega)

end Tables

variable {One Other : Type*} {pairs : One → Other → Prop}

/-- Each name on either side has at most one partner. -/
structure PairsOff (pairs : One → Other → Prop) : Prop where
  functional : ∀ left right right', pairs left right → pairs left right' → right = right'
  injective : ∀ left left' right, pairs left right → pairs left' right → left = left'

theorem pairs_off_iff (paired : PairsOff pairs) {left left' : One} {right right' : Other}
    (first : pairs left right) (second : pairs left' right') : left = left' ↔ right = right' := by
  constructor
  · intro same
    rw [← same] at second
    exact paired.functional left right right' first second
  · intro same
    rw [← same] at second
    exact paired.injective left left' right first second

/-- A pair for two names whose earlier partners are given up. -/
def repaired (pairs : One → Other → Prop) (one : One) (other : Other) : One → Other → Prop :=
  fun left right => (left = one ∧ right = other) ∨ (left ≠ one ∧ right ≠ other ∧ pairs left right)

theorem repaired_pairs_off (paired : PairsOff pairs) (one : One) (other : Other) :
    PairsOff (repaired pairs one other) := by
  constructor
  · rintro left right right' (⟨rfl, rfl⟩ | ⟨leftApart, apart, first⟩)
      (⟨same, rfl⟩ | ⟨again, apart', second⟩)
    · rfl
    · exact absurd rfl again
    · exact absurd same leftApart
    · exact paired.functional left right right' first second
  · rintro left left' right (⟨rfl, rfl⟩ | ⟨leftApart, apart, first⟩)
      (⟨rfl, same⟩ | ⟨again, apart', second⟩)
    · rfl
    · exact absurd rfl apart'
    · exact absurd same apart
    · exact paired.injective left left' right first second

end CedarC.RelatedResults
