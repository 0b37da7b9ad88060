import Mathlib.Data.List.Sort

/-!
# Passes over the front of an array

An array is a function from indices to items. The passes are the ones that
programs write by hand: insertion by neighbour exchange, where the inner loop
runs to the start of the array, and reversal by exchanging from both ends.
-/

namespace CedarC.ArrayPasses

open List Function

variable {Item Key : Type*} [LinearOrder Key] (key : Item → Key)

/-- The first `count` items. -/
def front (items : Nat → Item) (count : Nat) : List Item := (List.range count).map items

@[simp] theorem front_zero (items : Nat → Item) : front items 0 = [] := rfl

@[simp] theorem front_length (items : Nat → Item) (count : Nat) :
    (front items count).length = count := by
  simp [front]

theorem front_succ (items : Nat → Item) (count : Nat) :
    front items (count + 1) = front items count ++ [items count] := by
  simp [front, range_succ]

variable {count : Nat} {items : Nat → Item}

theorem front_congr {left right : Nat → Item}
    (same : ∀ i < count, left i = right i) : front left count = front right count := by
  apply map_congr_left
  intro i member
  exact same i (mem_range.mp member)

theorem front_update {index : Nat} (outside : count ≤ index)
    (item : Item) : front (update items index item) count = front items count := by
  apply front_congr
  intro i below
  exact update_of_ne (by omega) _ _

theorem front_add (items : Nat → Item) (left right : Nat) : front items (left + right) =
      front items left ++ (List.range right).map fun i => items (left + i) := by
  simp [front, range_add, comp_def]

theorem mem_front {item : Item} : item ∈ front items count ↔ ∃ i < count, items i = item := by
  simp [front]

section Insertion

/-- Moves `held` down from index `index`, past every larger neighbour. -/
def sink (held : Item) : Nat → (Nat → Item) → Nat → Item
  | 0, items => items
  | index + 1, items =>
    if key held < key (items index) then
      sink held index (update (update items (index + 1) (items index)) index held)
    else sink held index items

/-- Insertion sort of the first `count` items. -/
def sortFront (count : Nat) (items : Nat → Item) : Nat → Item :=
  (List.range' 1 (count - 1)).foldl (fun items i => sink key (items i) i items) items

variable {key} {held : Item} {index : Nat} {items : Nat → Item}

theorem sink_of_le
    (above : ∀ i < index, key (items i) ≤ key held) : sink key held index items = items := by
  induction index with
  | zero => rfl
  | succ index ih =>
    rw [sink, if_neg (not_lt.mpr (above index (by omega)))]
    exact ih fun i below => above i (by omega)

theorem sink_above {position : Nat}
    (above : index < position) : sink key held index items position = items position := by
  induction index generalizing items with
  | zero => rfl
  | succ index ih =>
    rw [sink]
    split_ifs
    · rw [ih (by omega), update_of_ne (by omega), update_of_ne (by omega)]
    · exact ih (by omega)

theorem sink_sorted (here : items index = held)
    (sorted : (front items index).Pairwise fun left right => key left ≤ key right) :
    (front (sink key held index items) (index + 1)).Perm (front items (index + 1)) ∧
      (front (sink key held index items) (index + 1)).Pairwise
        fun left right => key left ≤ key right := by
  induction index generalizing items with
  | zero => exact ⟨List.Perm.refl _, by simp [front, sink]⟩
  | succ index ih =>
    rw [front_succ, pairwise_append] at sorted
    by_cases larger : key held < key (items index)
    · have moved := @ih (update (update items (index + 1) (items index)) index
        held) (update_self _ _ _)
        (by rw [front_update (Nat.le_refl _), front_update (by omega)]; exact sorted.1)
      have members : ∀ item ∈ front (sink key held index (update (update items
          (index + 1) (items index)) index held)) (index + 1), key item ≤ key (items index) := by
        intro item member
        have source := moved.1.mem_iff.mp member
        rw [front_succ, update_self, front_update (Nat.le_refl _),
          front_update (by omega), mem_append, mem_singleton] at source
        rcases source with source | rfl
        · exact sorted.2.2 item source _ (mem_singleton_self _)
        · exact le_of_lt larger
      rw [sink, if_pos larger, front_succ, sink_above (by omega),
        update_of_ne (by omega), update_self]
      constructor
      · have exchanged := moved.1
        rw [front_succ (update _ _ _), update_self, front_update (Nat.le_refl _),
          front_update (by omega)] at exchanged
        rw [front_succ items (index + 1), front_succ items index, here]
        refine (exchanged.append_right _).trans ?_
        simp only [append_assoc]
        exact List.Perm.append_left _ (List.Perm.swap _ _ _)
      · rw [pairwise_append]
        refine ⟨moved.2, by simp, ?_⟩
        intro item member last inLast
        obtain rfl := mem_singleton.mp inLast
        exact members item member
    · have below : ∀ i < index + 1, key (items i) ≤ key held := by
        intro i inside
        rcases Nat.lt_succ_iff_lt_or_eq.mp inside with earlier | rfl
        · exact le_trans (sorted.2.2 _ (mem_front.mpr ⟨i, earlier, rfl⟩) _
            (mem_singleton_self _)) (not_lt.mp larger)
        · exact not_lt.mp larger
      rw [sink_of_le below]
      refine ⟨List.Perm.refl _, ?_⟩
      rw [front_succ, pairwise_append, front_succ, pairwise_append, here]
      refine ⟨sorted, by simp, ?_⟩
      intro item member last inLast
      obtain rfl := mem_singleton.mp inLast
      rw [← front_succ] at member
      rcases mem_front.mp member with ⟨i, inside, rfl⟩
      exact below i inside

theorem sort_front_sorted (count : Nat) (items : Nat → Item) :
    (front (sortFront key count items) count).Perm (front items count) ∧
      (front (sortFront key count items) count).Pairwise
        (fun left right => key left ≤ key right) ∧
      ∀ position ≥ count, sortFront key count items position = items position := by
  induction count with
  | zero => exact ⟨List.Perm.refl _, List.Pairwise.nil, fun _ _ => rfl⟩
  | succ count ih =>
    cases count with
    | zero => exact ⟨List.Perm.refl _, by simp [front, sortFront], fun _ _ => rfl⟩
    | succ count =>
      have step : sortFront key (count + 2) items =
          sink key (sortFront key (count + 1) items (count + 1)) (count + 1)
            (sortFront key (count + 1) items) := by
        simp [sortFront, range'_concat, Nat.add_comm]
      have moved := sink_sorted rfl ih.2.1
      rw [step]
      refine ⟨moved.1.trans ?_, moved.2, ?_⟩
      · rw [front_succ, front_succ items (count + 1), ih.2.2 (count + 1) (Nat.le_refl _)]
        exact ih.1.append_right _
      · intro position outside
        rw [sink_above (by omega)]
        exact ih.2.2 position (by omega)

theorem split_sorted {low : Item → Bool} {items : List Item}
    (threshold : ∀ left right, key left ≤ key right → low right = true → low left = true)
    (sorted : items.Pairwise fun left right => key left ≤ key right) :
    items.take (items.countP low) = items.filter low ∧
      items.drop (items.countP low) = items.filter fun item => !low item := by
  induction items with
  | nil => exact ⟨rfl, rfl⟩
  | cons item rest ih =>
    rw [pairwise_cons] at sorted
    by_cases below : low item = true
    · have tail := ih sorted.2
      simp [below, tail.1, tail.2]
    · have none : ∀ later ∈ rest, ¬ low later = true := fun later member isLow =>
        below (threshold item later (sorted.1 later member) isLow)
      rw [countP_cons_of_neg below, filter_cons_of_neg below,
        countP_eq_zero.mpr none, filter_eq_nil_iff.mpr none]
      refine ⟨rfl, ?_⟩
      symm
      rw [drop_zero, filter_eq_self]
      intro later member
      rcases mem_cons.mp member with rfl | member
      · simpa using below
      · simpa using none later member

/-- Lists with the same items are equal when one rises strictly in the key and
the other rises. -/
theorem eq_of_perm_strict {left right : List Item} (perm : left.Perm right)
    (monotone : left.Pairwise fun earlier later => key earlier ≤ key later)
    (strict : right.Pairwise fun earlier later => key earlier < key later) : left = right := by
  have distinct : (right.map key).Nodup := pairwise_map.mpr (strict.imp fun less => ne_of_lt less)
  apply perm.eq_of_pairwise _ monotone (strict.imp fun less => le_of_lt less)
  intro first second firstMember secondMember below above
  exact inj_on_of_nodup_map distinct (perm.mem_iff.mp firstMember) secondMember
    (le_antisymm below above)

end Insertion

def swapItems (items : Nat → Item) (left right : Nat) : Nat → Item :=
  update (update items left (items right)) right (items left)

/-- Reverses the first `count` items by exchanges from both ends. -/
def flipFront (count : Nat) (items : Nat → Item) : Nat → Item :=
  (List.range (count / 2)).foldl (fun items i => swapItems items i (count - 1 - i)) items

theorem flip_steps (count steps : Nat) (items : Nat → Item) (within : steps ≤ count / 2) :
    ∀ position, (List.range steps).foldl (fun items i => swapItems items i (count - 1 - i)) items
        position =
      if position < steps ∨ (count - steps ≤ position ∧ position < count) then
        items (count - 1 - position)
      else items position := by
  induction steps with
  | zero =>
    intro position
    rw [if_neg (by omega)]
    rfl
  | succ steps ih =>
    intro position
    have before := ih (by omega)
    rw [range_succ, foldl_append, foldl_cons, foldl_nil, swapItems]
    by_cases right : position = count - 1 - steps
    · subst right
      rw [update_self, before, if_neg (by omega), if_pos (by omega)]
      congr 1
      omega
    · rw [update_of_ne right]
      by_cases left : position = steps
      · subst left
        rw [update_self, before, if_neg (by omega), if_pos (by omega)]
      · rw [update_of_ne left, before]
        by_cases done : position < steps ∨ (count - steps ≤ position ∧ position < count)
        · rw [if_pos done, if_pos (by omega)]
        · rw [if_neg done, if_neg (by omega)]

variable {count position : Nat}

theorem flip_front_inside (items : Nat → Item) (inside : position < count) :
    flipFront count items position = items (count - 1 - position) := by
  rw [flipFront, flip_steps count (count / 2) items (Nat.le_refl _)]
  split_ifs with exchanged
  · rfl
  · congr 1
    omega

theorem flip_front_outside (items : Nat → Item)
    (outside : count ≤ position) : flipFront count items position = items position := by
  rw [flipFront, flip_steps count (count / 2) items (Nat.le_refl _), if_neg (by omega)]

theorem front_flip (count : Nat) (items : Nat → Item) :
    front (flipFront count items) count = (front items count).reverse := by
  apply ext_getElem
  · simp
  · intro i left right
    simp only [front_length] at left
    simp only [front, getElem_map, getElem_range, getElem_reverse, length_map, length_range]
    exact flip_front_inside items left

theorem front_flip_part {part : Nat} (items : Nat → Item) (within : part ≤ count) :
    front (flipFront part items) count =
      ((front items count).take part).reverse ++ (front items count).drop part := by
  obtain ⟨rest, rfl⟩ := Nat.exists_eq_add_of_le within
  rw [front_add, front_add items, front_flip, take_left' (front_length _ _),
    drop_left' (front_length _ _)]
  congr 1
  apply map_congr_left
  intro i _
  exact flip_front_outside items (Nat.le_add_right _ _)

end CedarC.ArrayPasses
