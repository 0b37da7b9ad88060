import Mathlib.Data.List.Nodup

/-!
# Taking from two lists in turn

The items of two lists are taken alternately, starting with the first list.
When one of them is used up the rest of the other follows in its order. The
lists are the marked indices from two cursors on, when each cursor skips to the
next marked index.
-/

namespace CedarC.ListAlternation

open List

section Alternate

variable {Item : Type}

def alternate : List Item → List Item → List Item
  | [], right => right
  | x :: left, [] => x :: left
  | x :: left, y :: right => x :: y :: alternate left right

@[simp] theorem alternate_nil_left (right : List Item) : alternate [] right = right := rfl

@[simp] theorem alternate_nil_right (left : List Item) : alternate left [] = left := by
  cases left with
  | nil | cons x left => rfl

theorem alternate_perm (left right : List Item) : (alternate left right).Perm (left ++ right) := by
  induction left generalizing right with
  | nil => exact List.Perm.refl _
  | cons x left ih =>
    cases right with
    | nil =>
      rw [alternate_nil_right, append_nil]
    | cons y right =>
      rw [alternate, cons_append]
      apply List.Perm.cons
      have rest : (y :: alternate left right).Perm (y :: (left ++ right)) := (ih right).cons y
      exact rest.trans perm_middle.symm

theorem alternate_map {Other : Type} (f : Item → Other) (left right : List Item) :
    (alternate left right).map f = alternate (left.map f) (right.map f) := by
  induction left generalizing right with
  | nil => rfl
  | cons x left ih =>
    cases right with
    | nil => rfl
    | cons y right => simp [alternate, ih]

end Alternate

/-- The marked indices from `i` on. -/
def markedFrom (marked : Nat → Bool) (bound i : Nat) : List Nat :=
  (List.range' i (bound - i)).filter marked

variable (marked : Nat → Bool)

include marked

theorem marked_from_end {bound i : Nat} (ended : bound ≤ i) : markedFrom marked bound i = [] := by
  unfold markedFrom
  rw [Nat.sub_eq_zero_of_le ended]
  rfl

theorem marked_from_step {bound i : Nat} (inside : i < bound) : markedFrom marked bound i =
      if marked i then i :: markedFrom marked bound (i + 1) else markedFrom marked bound (i + 1) := by
  unfold markedFrom
  have count : bound - i = (bound - (i + 1)) + 1 := by omega
  rw [count, range'_succ, filter_cons]

theorem mem_marked_from (bound i slot : Nat) :
    slot ∈ markedFrom marked bound i ↔ i ≤ slot ∧ slot < bound ∧ marked slot = true := by
  unfold markedFrom
  rw [mem_filter, mem_range'_1]
  constructor
  · rintro ⟨⟨low, high⟩, isMarked⟩
    exact ⟨low, by omega, isMarked⟩
  · rintro ⟨low, high, isMarked⟩
    exact ⟨⟨low, by omega⟩, isMarked⟩

theorem marked_from_nodup (bound i : Nat) : (markedFrom marked bound i).Nodup := by
  unfold markedFrom
  apply List.Nodup.filter
  exact nodup_range'

end CedarC.ListAlternation
