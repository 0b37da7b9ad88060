import Mathlib.Data.List.Range

/-!
# Tables of slots

A table is a function from slot numbers to what the slot holds. A sparse table
is counted slot by slot; a dense one has a list in front, which moves down when
an entry is taken out and up when one is put before it.
-/

namespace CedarC.SlotTables

open Function List

variable {α : Type*}

/-- The slots below `size` that hold something. -/
def used (size : Nat) (table : Nat → Option α) : Nat :=
  (List.range size).countP fun i => (table i).isSome

theorem used_succ (size : Nat) (table : Nat → Option α) :
    used (size + 1) table = used size table + if (table size).isSome then 1 else 0 := by
  unfold used
  rw [range_succ, countP_append]
  simp [countP_cons]

theorem used_update_outside {size slot : Nat} {table : Nat → Option α} {entry : Option α}
    (outside : size ≤ slot) : used size (update table slot entry) = used size table := by
  induction size with
  | zero => rfl
  | succ size ih =>
    have apart : size ≠ slot := by omega
    rw [used_succ, used_succ, ih (by omega), update_of_ne apart]

theorem used_update {size slot : Nat} {table : Nat → Option α} {entry : Option α}
    (inside : slot < size) :
    used size (update table slot entry) + (if (table slot).isSome then 1 else 0) =
      used size table + if entry.isSome then 1 else 0 := by
  induction size with
  | zero => omega
  | succ size ih =>
    rw [used_succ, used_succ]
    by_cases last : slot = size
    · subst last
      rw [used_update_outside (Nat.le_refl slot), update_self]
      omega
    · rw [update_of_ne (Ne.symm last)]
      have earlier := ih (by omega)
      omega

theorem used_take {size slot : Nat} {table : Nat → Option α} {held : α} (inside : slot < size)
    (holds : table slot = some held) :
    used size (update table slot none) + 1 = used size table := by
  simpa [holds] using @used_update α size slot table none inside

theorem used_put {size slot : Nat} {table : Nat → Option α} {entry : α} (inside : slot < size)
    (empty : table slot = none) :
    used size (update table slot (some entry)) = used size table + 1 := by
  simpa [empty] using @used_update α size slot table (some entry) inside

theorem used_eq_zero {size : Nat} {table : Nat → Option α} :
    used size table = 0 ↔ ∀ slot, slot < size → table slot = none := by
  unfold used
  rw [countP_eq_zero]
  simp

def Front (table : Nat → Option α) (list : List α) : Prop :=
  ∀ slot, slot < list.length → table slot = list[slot]?

def moveDown (slot count : Nat) (table : Nat → Option α) : Nat → Option α := fun i =>
  if slot ≤ i ∧ i < count then table (i + 1) else table i

/-- The first `count` entries move up by one. -/
def moveUp (count : Nat) (table : Nat → Option α) : Nat → Option α := fun i =>
  if 1 ≤ i ∧ i ≤ count then table (i - 1) else table i

theorem front_nil (table : Nat → Option α) : Front table [] := by
  intro slot inside
  simp at inside

variable {table : Nat → Option α} {list : List α}

theorem front_move_down {slot : Nat} (front : Front table list) (inside : slot < list.length) :
    Front (moveDown slot (list.length - 1) (update table slot none))
      (list.eraseIdx slot) := by
  intro i below
  rw [length_eraseIdx_of_lt inside] at below
  rw [List.getElem?_eraseIdx]
  unfold moveDown
  by_cases before : i < slot
  · rw [if_neg (by omega), if_pos before, update_of_ne (by omega)]
    exact front i (by omega)
  · rw [if_pos (by omega), if_neg before, update_of_ne (by omega)]
    exact front (i + 1) (by omega)

theorem front_move_up (entry : α) (front : Front table list) :
    Front (update (moveUp list.length table) 0 (some entry)) (entry :: list) := by
  intro i below
  cases i with
  | zero => simp
  | succ i =>
    have inside : i < list.length := by simpa using below
    rw [update_of_ne (by omega), List.getElem?_cons_succ]
    unfold moveUp
    rw [if_pos (by omega)]
    exact front i inside

theorem front_holds {entry : α} (front : Front table list) :
    (∃ slot, slot < list.length ∧ table slot = some entry) ↔ entry ∈ list := by
  rw [mem_iff_getElem?]
  constructor
  · intro held
    obtain ⟨slot, inside, holds⟩ := held
    exact ⟨slot, (front slot inside).symm.trans holds⟩
  · intro listed
    obtain ⟨slot, holds⟩ := listed
    have inside : slot < list.length := (List.getElem?_eq_some_iff.mp holds).1
    exact ⟨slot, inside, (front slot inside).trans holds⟩

end CedarC.SlotTables
