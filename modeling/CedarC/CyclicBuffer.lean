import Mathlib.Algebra.Order.Ring.Int
import Mathlib.Data.List.Range

/-!
# Cyclic buffers by unbounded positions

A cyclic buffer is read and written at positions that only grow; position `p`
lives in slot `p % capacity`. A window is a run of positions that is no longer
than the capacity, so its positions live in different slots.
-/

namespace CedarC.CyclicBuffer

open List Function

variable {Item : Type*} {capacity : Nat}

theorem slots_differ {left right : Nat} (ordered : left < right)
    (within : right < left + capacity) : left % capacity ≠ right % capacity := by
  intro same
  have distance := Nat.sub_mod_eq_zero_of_mod_eq same.symm
  rw [Nat.mod_eq_of_lt (by omega)] at distance
  omega

theorem cursor_next (position : Nat) (positive : 0 < capacity) :
    (if capacity ≤ position % capacity + 1 then 0 else position % capacity + 1) =
      (position + 1) % capacity := by
  have bound := Nat.mod_lt position positive
  rw [← Nat.mod_add_mod]
  by_cases last : capacity ≤ position % capacity + 1
  · have whole : position % capacity + 1 = capacity := by omega
    rw [if_pos last, whole, Nat.mod_self]
  · rw [if_neg last]
    exact (Nat.mod_eq_of_lt (by omega)).symm

theorem cursor_previous (position : Nat) (positive : 0 < capacity) :
    (if (position + 1) % capacity = 0 then capacity - 1 else (position + 1) % capacity - 1) =
      position % capacity := by
  have next := cursor_next position positive
  have bound := Nat.mod_lt position positive
  by_cases last : capacity ≤ position % capacity + 1
  · rw [if_pos last] at next
    rw [← next, if_pos rfl]
    omega
  · rw [if_neg last] at next
    rw [← next, if_neg (by omega)]
    omega

/-- The slot of the position `index` behind `position` is at this distance from it. -/
theorem distance_of_slot {index : Nat} (position : Nat) (positive : 0 < capacity)
    (turn : index < capacity) :
    ((position + index) % capacity + (capacity - position % capacity)) % capacity = index := by
  have bound := Nat.mod_lt position positive
  rw [← Nat.mod_add_mod position]
  generalize position % capacity = place at bound ⊢
  by_cases same : place + index < capacity
  · rw [Nat.mod_eq_of_lt same, show place + index + (capacity - place) = index + capacity by omega,
      Nat.add_mod_right, Nat.mod_eq_of_lt turn]
  · have wrapped : (place + index) % capacity = place + index - capacity := by
      rw [Nat.mod_eq_sub_mod (by omega), Nat.mod_eq_of_lt (by omega)]
    rw [wrapped, show place + index - capacity + (capacity - place) = index by omega,
      Nat.mod_eq_of_lt turn]

theorem slot_of_distance {slot : Nat} (position : Nat) (positive : 0 < capacity)
    (inside : slot < capacity) :
    (position + (slot + (capacity - position % capacity)) % capacity) % capacity = slot := by
  have bound := Nat.mod_lt position positive
  rw [← Nat.mod_add_mod]
  generalize position % capacity = place at bound ⊢
  rw [Nat.add_mod_mod, show place + (slot + (capacity - place)) = slot + capacity by omega,
    Nat.add_mod_right, Nat.mod_eq_of_lt inside]

/-- The items at `count` positions from `first` on. -/
def window (slots : Nat → Item) (capacity first count : Nat) : List Item :=
  (List.range count).map fun i => slots ((first + i) % capacity)

@[simp] theorem window_length (slots : Nat → Item) (capacity first count : Nat) :
    (window slots capacity first count).length = count := by
  simp [window]

theorem window_cursor (slots : Nat → Item) (capacity first count : Nat) :
    window slots capacity (first % capacity) count = window slots capacity first count := by
  unfold window
  simp only [Nat.mod_add_mod]

theorem window_get {slots : Nat → Item} {capacity first count index : Nat}
    (inside : index < count) :
    (window slots capacity first count)[index]? = some (slots ((first + index) % capacity)) := by
  simp [window, inside]

theorem window_front (slots : Nat → Item) (capacity first count : Nat) :
    window slots capacity first (count + 1) =
      slots (first % capacity) :: window slots capacity (first + 1) count := by
  unfold window
  rw [range_succ_eq_map, map_cons, map_map]
  congr 1
  apply map_congr_left
  intro i _
  simp only [comp_apply]
  congr 2
  omega

theorem window_back (slots : Nat → Item) (capacity first count : Nat) :
    window slots capacity first (count + 1) =
      window slots capacity first count ++ [slots ((first + count) % capacity)] := by
  unfold window
  rw [range_succ, map_append, map_singleton]

theorem window_split (slots : Nat → Item) (capacity first left right : Nat) :
    window slots capacity first (left + right) =
      window slots capacity first left ++ window slots capacity (first + left) right := by
  induction right with
  | zero => simp [window]
  | succ right ih =>
    rw [← Nat.add_assoc, window_back, ih, window_back, append_assoc, Nat.add_assoc]

theorem window_write {slots : Nat → Item} {capacity first count : Nat}
    (room : count < capacity) (item : Item) :
    window (Function.update slots ((first + count) % capacity) item) capacity first count =
      window slots capacity first count := by
  unfold window
  apply map_congr_left
  intro i member
  have before := mem_range.mp member
  have different : (first + i) % capacity ≠ (first + count) % capacity :=
    slots_differ (by omega) (by omega)
  rw [update_of_ne different]

theorem window_append {slots : Nat → Item} {first count : Nat}
    (room : count < capacity) (item : Item) :
    window (Function.update slots ((first + count) % capacity) item) capacity first (count + 1) =
      window slots capacity first count ++ [item] := by
  rw [window_back, window_write room, update_self]

section Logs

def HoldsLog (slots : Nat → Item) (capacity first : Nat) (log : List Item) : Prop :=
  ∀ position, first ≤ position → position < log.length →
    log[position]? = some (slots (position % capacity))

variable {slots : Nat → Item} {capacity first : Nat} {log : List Item}
  (holds : HoldsLog slots capacity first log)

include holds

theorem holds_log_later {later : Nat}
    (ordered : first ≤ later) : HoldsLog slots capacity later log := by
  intro position low high
  exact holds position (by omega) high

theorem window_of_log {start count : Nat}
    (low : first ≤ start) (high : start + count ≤ log.length) :
    window slots capacity start count = (log.drop start).take count := by
  apply ext_getElem?
  intro index
  by_cases inside : index < count
  · rw [window_get inside, List.getElem?_take_of_lt inside, List.getElem?_drop]
    exact (holds (start + index) (by omega) (by omega)).symm
  · rw [List.getElem?_eq_none (by simpa using inside),
      List.getElem?_eq_none (by
        rw [length_take, length_drop]
        omega)]

theorem holds_log_write (room : log.length < first + capacity) (item : Item) :
    HoldsLog (Function.update slots (log.length % capacity) item) capacity first log := by
  intro position low high
  have different : position % capacity ≠ log.length % capacity := slots_differ high (by omega)
  rw [update_of_ne different]
  exact holds position low high

theorem holds_log_append :
    HoldsLog slots capacity first (log ++ [slots (log.length % capacity)]) := by
  intro position low high
  by_cases last : position = log.length
  · subst last
    simp
  · have inside : position < log.length := by
      simp only [length_append, length_singleton] at high
      omega
    rw [List.getElem?_append_left inside]
    exact holds position low inside

theorem holds_log_extend {written : Nat → Item} {items : List Item}
    (room : log.length + items.length ≤ first + capacity) (inside : ∀ index, index < items.length →
      items[index]? = some (written ((log.length + index) % capacity)))
    (outside : ∀ position, first ≤ position → position < log.length →
      (∀ index, index < items.length → position % capacity ≠ (log.length + index) % capacity) →
      written (position % capacity) = slots (position % capacity)) :
    HoldsLog written capacity first (log ++ items) := by
  intro position low high
  rw [length_append] at high
  by_cases before : position < log.length
  · have untouched : ∀ index, index < items.length →
        position % capacity ≠ (log.length + index) % capacity := by
      intro index bound
      exact slots_differ (by omega) (by omega)
    rw [List.getElem?_append_left before, outside position low before untouched]
    exact holds position low before
  · have place : log.length + (position - log.length) = position := by omega
    have item := inside (position - log.length) (by omega)
    rw [place] at item
    rw [List.getElem?_append_right (by omega)]
    exact item

end Logs

/-- No byte of one range shares its slot with a byte of the other. -/
def RangesApart (capacity left leftLength right rightLength : Int) : Prop :=
  ∀ i j : Int, 0 ≤ i → i < leftLength → 0 ≤ j → j < rightLength →
    (left + i) % capacity ≠ (right + j) % capacity

variable {left leftLength right rightLength : Int} {range : Int × Int}

theorem ranges_apart_of_order {capacity : Int}
    (ordered : left + leftLength ≤ right) (within : right + rightLength ≤ left + capacity) :
    RangesApart capacity left leftLength right rightLength := by
  intro i j lowLeft inLeft lowRight inRight same
  have distance : (right + j - (left + i)) % capacity = 0 :=
    Int.emod_eq_emod_iff_emod_sub_eq_zero.mp same.symm
  rw [Int.emod_eq_of_lt (by omega) (by omega)] at distance
  omega

theorem ranges_apart_congr {capacity left' right' : Int}
    (sameLeft : left % capacity = left' % capacity)
    (sameRight : right % capacity = right' % capacity)
    (apart : RangesApart capacity left' leftLength right' rightLength) :
    RangesApart capacity left leftLength right rightLength := by
  intro i j lowLeft inLeft lowRight inRight
  rw [← Int.emod_add_emod left, sameLeft, Int.emod_add_emod,
    ← Int.emod_add_emod right, sameRight, Int.emod_add_emod]
  exact apart i j lowLeft inLeft lowRight inRight

def Consecutive (capacity : Int) : Int → List (Int × Int) → Prop
  | _, [] => True
  | position, (address, length) :: rest =>
    address % capacity = position % capacity ∧ 0 ≤ length ∧
      Consecutive capacity (position + length) rest

def totalLength (ranges : List (Int × Int)) : Int := (ranges.map Prod.snd).sum

variable {capacity position address length : Int} {ranges : List (Int × Int)}

theorem consecutive_append : Consecutive capacity position (ranges ++ [(address, length)]) ↔
      Consecutive capacity position ranges ∧
        address % capacity = (position + totalLength ranges) % capacity ∧ 0 ≤ length := by
  induction ranges generalizing position with
  | nil => simp [Consecutive, totalLength]
  | cons range rest ih =>
    simp only [cons_append, Consecutive, ih, totalLength, map_cons, sum_cons,
      Int.add_assoc, and_assoc]

variable (consecutive : Consecutive capacity position ranges)

include consecutive

theorem consecutive_total_nonneg : 0 ≤ totalLength ranges := by
  induction ranges generalizing position with
  | nil => simp [totalLength]
  | cons first rest ih =>
    have nonneg : 0 ≤ first.2 := consecutive.2.1
    have tail := ih consecutive.2.2
    simp only [totalLength, map_cons, sum_cons] at tail ⊢
    omega

theorem consecutive_member (member : range ∈ ranges) :
    ∃ place, position ≤ place ∧ place + range.2 ≤ position + totalLength ranges ∧
      range.1 % capacity = place % capacity := by
  induction ranges generalizing position with
  | nil => cases member
  | cons first rest ih =>
    have here : first.1 % capacity = position % capacity := consecutive.1
    have nonneg : 0 ≤ first.2 := consecutive.2.1
    have split : totalLength (first :: rest) = first.2 + totalLength rest := by simp [totalLength]
    have tail_nonneg := consecutive_total_nonneg consecutive.2.2
    rcases mem_cons.mp member with rfl | later
    · exact ⟨position, by omega, by omega, here⟩
    · rcases ih consecutive.2.2 later with ⟨place, low, high, same⟩
      exact ⟨place, by omega, by omega, same⟩

theorem consecutive_range_apart
    (behind : address % capacity = (position + totalLength ranges) % capacity)
    (within : totalLength ranges + length ≤ capacity)
    (member : range ∈ ranges) : RangesApart capacity range.1 range.2 address length := by
  rcases consecutive_member consecutive member with ⟨place, low, high, same⟩
  exact ranges_apart_congr same behind (ranges_apart_of_order high (by omega))

theorem consecutive_pairwise_apart (within : totalLength ranges ≤ capacity) :
    ranges.Pairwise fun left right => RangesApart capacity left.1 left.2 right.1 right.2 := by
  induction ranges generalizing position with
  | nil => exact List.Pairwise.nil
  | cons first rest ih =>
    have here : first.1 % capacity = position % capacity := consecutive.1
    have nonneg : 0 ≤ first.2 := consecutive.2.1
    have split : totalLength (first :: rest) = first.2 + totalLength rest := by simp [totalLength]
    apply List.Pairwise.cons
    · intro later member
      rcases consecutive_member consecutive.2.2 member with ⟨place, low, high, same⟩
      exact ranges_apart_congr here same (ranges_apart_of_order low (by omega))
    · exact ih consecutive.2.2 (by omega)

end CedarC.CyclicBuffer
