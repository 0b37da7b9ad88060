import Mathlib.Data.List.Sort

/-!
# Taking the first smallest item again and again

A list is drained by taking out, each time, the first of the items with the
smallest key. The order in which the items come out is the stable sort by the
key. A list that is cut into segments at marked items is drained segment by
segment.
-/

namespace CedarC.SelectionOrder

open List

variable {Item Key : Type*} [LinearOrder Key] (key : Item → Key)

abbrev KeyLE (left right : Item) : Prop := key left ≤ key right

section FirstMin

structure FirstMin (items : List Item) (index : Nat) (item : Item) : Prop where
  place : items[index]? = some item
  before : ∀ earlier other, earlier < index → items[earlier]? = some other → key item < key other
  least : ∀ other ∈ items, key item ≤ key other

variable {key} {items : List Item} {index : Nat} {item : Item}

theorem first_min_tail {head : Item} (first : FirstMin key (head :: items) (index + 1) item) :
    FirstMin key items index item where
  place := first.place
  before := by
    intro earlier other inside at_other
    exact first.before (earlier + 1) other (Nat.succ_lt_succ inside) at_other
  least := fun other member => first.least other (mem_cons_of_mem _ member)

theorem insertion_sort_first_min (first : FirstMin key items index item) :
    items.insertionSort (KeyLE key) = item :: (items.eraseIdx index).insertionSort (KeyLE key) := by
  induction items generalizing index with
  | nil => cases first.place
  | cons head rest ih =>
    cases index with
    | zero =>
      obtain rfl : head = item := Option.some.inj first.place
      apply insertionSort_cons_of_forall_rel
      intro other member
      exact first.least other (mem_cons_of_mem _ member)
    | succ index =>
      have smaller := first.before 0 head (Nat.succ_pos _) rfl
      rw [insertionSort_cons, ih (first_min_tail first), eraseIdx_cons_succ, insertionSort_cons]
      exact orderedInsert_of_not_le (KeyLE key) _ (not_le.mpr smaller)

end FirstMin

section Filtering

variable {key}

theorem filter_ordered_insert (keep : Item → Bool) (item : Item) {sorted : List Item}
    (ordered : sorted.Pairwise (KeyLE key)) :
    (sorted.orderedInsert (KeyLE key) item).filter keep =
      if keep item then (sorted.filter keep).orderedInsert (KeyLE key) item
      else sorted.filter keep := by
  induction sorted with
  | nil => by_cases kept : keep item <;> simp [kept]
  | cons head rest ih =>
    have tail := List.Pairwise.of_cons ordered
    by_cases before : key item ≤ key head
    · rw [orderedInsert_cons_of_le (KeyLE key) _ before]
      by_cases kept : keep item
      · rw [if_pos kept, filter_cons_of_pos kept]
        cases survivors : (head :: rest).filter keep with
        | nil => rfl
        | cons first later =>
          have member : first ∈ head :: rest := (mem_filter.mp (survivors ▸ mem_cons_self)).1
          have after : key item ≤ key first := by
            rcases mem_cons.mp member with rfl | inside
            · exact before
            · exact le_trans before (rel_of_pairwise_cons ordered inside)
          exact (orderedInsert_cons_of_le (KeyLE key) _ after).symm
      · rw [if_neg kept, filter_cons_of_neg kept]
    · rw [orderedInsert_of_not_le (KeyLE key) _ before]
      by_cases kept_head : keep head
      · rw [filter_cons_of_pos kept_head, ih tail, filter_cons_of_pos kept_head]
        by_cases kept : keep item
        · rw [if_pos kept, if_pos kept, orderedInsert_of_not_le (KeyLE key) _ before]
        · rw [if_neg kept, if_neg kept]
      · rw [filter_cons_of_neg kept_head, ih tail, filter_cons_of_neg kept_head]

theorem filter_insertion_sort (keep : Item → Bool) (items : List Item) :
    (items.insertionSort (KeyLE key)).filter keep =
      (items.filter keep).insertionSort (KeyLE key) := by
  induction items with
  | nil => rfl
  | cons head rest ih =>
    rw [insertionSort_cons, filter_ordered_insert keep head (pairwise_insertionSort _ rest), ih]
    by_cases kept : keep head
    · rw [if_pos kept, filter_cons_of_pos kept, insertionSort_cons]
    · rw [if_neg kept, filter_cons_of_neg kept]

end Filtering

section Scan

/-- A scan that keeps the first smallest of the usable items and its index,
starting from the best that is known. -/
def scanMin (usable : Item → Bool) : Item × Nat → Nat → List Item → Item × Nat
  | best, _, [] => best
  | best, index, item :: rest =>
    scanMin usable
      (if usable item = true ∧ key item < key best.1 then (item, index) else best)
      (index + 1) rest

variable {key} {usable : Item → Bool}

theorem scan_min_spec (best : Item × Nat) (start : Nat) (items : List Item) :
    let found := scanMin key usable best start items
    (∀ other ∈ items, usable other = true → key found.1 ≤ key other) ∧
      (found = best ∨ ∃ offset, found.2 = start + offset ∧ items[offset]? = some found.1 ∧
        usable found.1 = true ∧ key found.1 < key best.1 ∧
        ∀ earlier other, earlier < offset → items[earlier]? = some other →
          usable other = true → key found.1 < key other) ∧
      key found.1 ≤ key best.1 := by
  induction items generalizing best start with
  | nil => exact ⟨by simp, Or.inl rfl, le_refl _⟩
  | cons head rest ih =>
    rcases ih (if usable head = true ∧ key head < key best.1 then (head, start) else best)
      (start + 1) with ⟨least, place, below⟩
    rw [← scanMin] at least place below
    generalize scanMin key usable best start (head :: rest) = found at least place below ⊢
    by_cases taken : usable head = true ∧ key head < key best.1
    · rw [if_pos taken] at place below
      refine ⟨?_, Or.inr ?_, le_trans below taken.2.le⟩
      · intro other member use
        rcases mem_cons.mp member with rfl | inside
        · exact below
        · exact least other inside use
      · rcases place with rfl | ⟨offset, index, item, use, smaller, before⟩
        · refine ⟨0, rfl, rfl, taken.1, taken.2, ?_⟩
          intro earlier other inside
          exact absurd inside (Nat.not_lt_zero _)
        · refine ⟨offset + 1, by omega, item, use, lt_trans smaller taken.2, ?_⟩
          intro earlier other inside at_other use_other
          cases earlier with
          | zero =>
            obtain rfl : head = other := Option.some.inj at_other
            exact smaller
          | succ earlier => exact before earlier other (by omega) at_other use_other
    · rw [if_neg taken] at place below
      refine ⟨?_, ?_, below⟩
      · intro other member use
        rcases mem_cons.mp member with rfl | inside
        · exact le_trans below (not_lt.mp fun smaller => taken ⟨use, smaller⟩)
        · exact least other inside use
      · rcases place with same | ⟨offset, index, item, use, smaller, before⟩
        · exact Or.inl same
        · refine Or.inr ⟨offset + 1, by omega, item, use, smaller, ?_⟩
          intro earlier other inside at_other use_other
          cases earlier with
          | zero =>
            obtain rfl : head = other := Option.some.inj at_other
            exact lt_of_lt_of_le smaller
              (not_lt.mp fun less => taken ⟨use_other, less⟩)
          | succ earlier => exact before earlier other (by omega) at_other use_other

theorem scan_min_congr {key' : Item → Key} {usable' : Item → Bool} (best : Item × Nat)
    (start : Nat) (items : List Item) (sameKey : ∀ item ∈ best.1 :: items, key item = key' item)
    (sameUse : ∀ item ∈ items, usable item = usable' item) :
    scanMin key usable best start items = scanMin key' usable' best start items := by
  induction items generalizing best start with
  | nil => rfl
  | cons head rest ih =>
    have bestKey := sameKey best.1 mem_cons_self
    have headKey := sameKey head (mem_cons_of_mem _ mem_cons_self)
    have tail : ∀ item ∈ rest, key item = key' item := fun item member =>
      sameKey item (mem_cons_of_mem _ (mem_cons_of_mem _ member))
    rw [scanMin, scanMin, sameUse head mem_cons_self, headKey, bestKey]
    apply ih
    · intro item member
      rcases mem_cons.mp member with rfl | inside
      · split_ifs
        · exact headKey
        · exact bestKey
      · exact tail item inside
    · exact fun item member => sameUse item (mem_cons_of_mem _ member)

theorem scan_first_min {head : Item} {rest : List Item} (all : ∀ item ∈ rest, usable item = true) :
    FirstMin key (head :: rest) (scanMin key usable (head, 0) 1 rest).2
      (scanMin key usable (head, 0) 1 rest).1 := by
  rcases @scan_min_spec _ _ _ key usable (head, 0) 1 rest with ⟨least, place, below⟩
  generalize scanMin key usable (head, 0) 1 rest = found at least place below ⊢
  constructor
  · rcases place with rfl | ⟨offset, index, item, -⟩
    · rfl
    · rw [index, Nat.add_comm]
      exact item
  · intro earlier other inside at_other
    rcases place with rfl | ⟨offset, index, item, use, smaller, before⟩
    · exact absurd inside (Nat.not_lt_zero _)
    · cases earlier with
      | zero =>
        obtain rfl : head = other := Option.some.inj at_other
        exact smaller
      | succ earlier =>
        have here : rest[earlier]? = some other := at_other
        exact before earlier other (by omega) here (all other (mem_of_getElem? here))
  · intro other member
    rcases mem_cons.mp member with rfl | inside
    · exact below
    · exact least other inside (all other inside)

end Scan

def segments (cut : Item → Bool) : List Item → List (List Item)
  | [] => []
  | item :: rest =>
    match segments cut rest with
    | (next :: segment) :: later =>
      if cut next then [item] :: (next :: segment) :: later
      else (item :: next :: segment) :: later
    | other => [item] :: other

variable {cut : Item → Bool}

theorem segments_head (item : Item) (rest : List Item) :
    ∃ segment later, segments cut (item :: rest) = (item :: segment) :: later := by
  unfold segments
  split
  · split_ifs <;> exact ⟨_, _, rfl⟩
  · exact ⟨_, _, rfl⟩

theorem segments_cons (head : Item) {segment later : List Item}
    (unmarked : ∀ item ∈ segment, cut item = false)
    (ended : ∀ item, later.head? = some item → cut item = true) :
    segments cut (head :: (segment ++ later)) = (head :: segment) :: segments cut later := by
  induction segment generalizing head with
  | nil =>
    cases later with
    | nil => rfl
    | cons next rest =>
      rcases @segments_head _ cut next rest with ⟨more, others, split⟩
      rw [nil_append]
      conv_lhs => unfold segments
      simp only [split, ended next rfl, if_true]
  | cons next rest ih =>
    have tail := ih next fun item member => unmarked item (mem_cons_of_mem _ member)
    rw [cons_append]
    conv_lhs => unfold segments
    simp only [tail, unmarked next mem_cons_self, Bool.false_eq_true, if_false]

theorem segments_flatten (cut : Item → Bool) (items : List Item) :
    (segments cut items).flatten = items := by
  induction items with
  | nil => rfl
  | cons item rest ih =>
    unfold segments
    split
    · rename_i next segment later split
      rw [split] at ih
      split_ifs <;> simpa using congrArg (item :: ·) ih
    · simpa using congrArg (item :: ·) ih

def segmentOrder (cut : Item → Bool) (items : List Item) : List Item :=
  ((segments cut items).map (List.insertionSort (KeyLE key))).flatten

end CedarC.SelectionOrder
