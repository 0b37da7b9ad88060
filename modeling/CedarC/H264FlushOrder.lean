import CedarC.SelectionOrder
import CedarC.H264DisplayOrder
import Mathlib.Data.List.TakeWhile

/-!
# The order of the flush

The flush of the delayed pictures as passes over a list. A pass takes the first
smallest picture of the first segment, which ends in front of a key frame, and
strikes out the pictures of the segment that have no buffers. What is behind a
struck out picture is lost, unless the same pass took it.
-/

namespace CedarC.H264FlushOrder

open SelectionOrder H264DisplayOrder List Function

section Passes

variable {Item Key : Type*} [LinearOrder Key] (key : Item → Key)
  (cut usable displayable : Item → Bool)

def headSegment (rest : List Item) : List Item := rest.takeWhile fun item => !cut item

def taken (head : Item) (rest : List Item) : Item × Nat :=
  scanMin key usable (head, 0) 1 (headSegment cut rest)

/-- What a pass leaves in front of the first struck out item. -/
def remaining (head : Item) (rest : List Item) : List Item :=
  let outIdx := (taken key cut usable head rest).2
  if (headSegment cut rest).all usable = true then (head :: rest).eraseIdx outIdx
  else
    let reached := head :: (headSegment cut rest).takeWhile usable
    if outIdx < reached.length then reached.eraseIdx outIdx else reached

def drain : Nat → List Item → List Item
  | 0, _ => []
  | _ + 1, [] => []
  | turns + 1, head :: rest =>
    (taken key cut usable head rest).1 :: drain turns (remaining key cut usable head rest)

/-- Behind a struck out item nothing is to be shown but what the same pass takes. -/
def NothingBehind : List (List Item) → Prop
  | [] => True
  | [] :: later => NothingBehind later
  | (head :: segment) :: later =>
    if segment.all usable = true then NothingBehind later
    else
      ∀ item ∈ segment.dropWhile usable ++ later.flatten, displayable item = true →
        item = (scanMin key usable (head, 0) 1 segment).1

instance decidableNothingBehind [DecidableEq Item] :
    ∀ list, Decidable (NothingBehind key usable displayable list)
  | [] => inferInstanceAs (Decidable True)
  | [] :: later =>
    have : Decidable (NothingBehind key usable displayable later) := decidableNothingBehind later
    inferInstanceAs (Decidable (NothingBehind key usable displayable later))
  | (_ :: segment) :: later =>
    have : Decidable (NothingBehind key usable displayable later) := decidableNothingBehind later
    inferInstanceAs (Decidable (if segment.all usable = true then _ else _))

variable {key cut usable displayable} {head : Item} {segment later rest : List Item}

theorem head_segment_eq (unmarked : ∀ item ∈ segment, cut item = false)
    (ended : ∀ item, later.head? = some item → cut item = true) :
    headSegment cut (segment ++ later) = segment := by
  unfold headSegment
  rw [takeWhile_append_of_pos]
  · cases later with
    | nil => simp
    | cons next rest => simp [ended next rfl]
  · intro item member
    simp [unmarked item member]

theorem split_segment (cut : Item → Bool) (rest : List Item) :
    ∃ segment later, rest = segment ++ later ∧ (∀ item ∈ segment, cut item = false) ∧
      ∀ item, later.head? = some item → cut item = true := by
  refine ⟨rest.takeWhile fun item => !cut item, rest.dropWhile fun item => !cut item,
    takeWhile_append_dropWhile.symm, ?_, ?_⟩
  · intro item member
    simpa using mem_takeWhile_imp member
  · intro item first
    have stopped := List.head?_dropWhile_not (fun item => !cut item) rest
    rw [first] at stopped
    simpa using stopped

theorem reached_length (usable : Item → Bool) (unusable : ¬ segment.all usable = true) :
    (segment.takeWhile usable).length < segment.length := by
  have split := congrArg List.length (@takeWhile_append_dropWhile _ usable segment)
  rw [length_append] at split
  have stopped : segment.dropWhile usable ≠ [] := by
    intro none
    apply unusable
    rw [dropWhile_eq_nil_iff] at none
    simpa using none
  have positive := length_pos_iff.mpr stopped
  omega

theorem head_segment_length (cut : Item → Bool) (rest : List Item) :
    (headSegment cut rest).length ≤ rest.length :=
  (List.takeWhile_prefix _).length_le

theorem taken_first_min (all : ∀ item ∈ headSegment cut rest, usable item = true) :
    FirstMin key (head :: headSegment cut rest) (taken key cut usable head rest).2
      (taken key cut usable head rest).1 :=
  scan_first_min all

theorem remaining_length (key : Item → Key) (cut usable : Item → Bool) (head : Item)
    (rest : List Item) : (remaining key cut usable head rest).length ≤ rest.length := by
  have within := head_segment_length cut rest
  unfold remaining
  dsimp only
  by_cases all : (headSegment cut rest).all usable = true
  · rw [if_pos all]
    have place := (@taken_first_min _ _ _ key cut usable head rest (by simpa using all)).place
    have inside := (List.getElem?_eq_some_iff.mp place).1
    rw [length_cons] at inside
    rw [length_eraseIdx_of_lt (by rw [length_cons]; omega), length_cons]
    omega
  · rw [if_neg all]
    have reached := reached_length usable all
    have erased := length_eraseIdx_le (head :: (headSegment cut rest).takeWhile usable)
      (taken key cut usable head rest).2
    rw [length_cons] at erased
    split_ifs
    · omega
    · rw [length_cons]
      omega

@[simp] theorem drain_nil (turns : Nat) : drain key cut usable turns [] = [] := by
  cases turns <;> rfl

theorem erase_tail (index : Nat) :
    ∀ item ∈ ((head :: segment).eraseIdx index).tail, item ∈ segment := by
  intro item member
  cases index with
  | zero => exact mem_of_mem_tail member
  | succ index => exact mem_of_mem_eraseIdx member

/-- Passes over a segment without unusable items take it in its stable order. -/
theorem drain_segment {turns : Nat} (unmarked : ∀ item ∈ segment, cut item = false)
    (all : ∀ item ∈ segment, usable item = true)
    (ended : ∀ item, later.head? = some item → cut item = true) :
    drain key cut usable (turns + (segment.length + 1)) (head :: (segment ++ later)) =
      (head :: segment).insertionSort (KeyLE key) ++ drain key cut usable turns later := by
  induction size : segment.length generalizing head segment with
  | zero =>
    obtain rfl : segment = [] := length_eq_zero_iff.mp size
    have whole := @head_segment_eq _ cut [] later (by simp) ended
    rw [nil_append] at whole
    have first : taken key cut usable head later = (head, 0) := by
      unfold taken
      rw [whole]
      rfl
    rw [nil_append, drain, first]
    simp [remaining, first, whole]
  | succ count ih =>
    have whole := head_segment_eq unmarked ended
    have allHere : ∀ item ∈ headSegment cut (segment ++ later), usable item = true := by
      rw [whole]
      exact all
    have first := @taken_first_min _ _ _ key cut usable head (segment ++ later) allHere
    have left : remaining key cut usable head (segment ++ later) =
        (head :: (segment ++ later)).eraseIdx
          (taken key cut usable head (segment ++ later)).2 := by
      unfold remaining
      dsimp only
      rw [if_pos (by simpa using allHere)]
    rw [whole] at first
    rw [← Nat.add_assoc, drain, left]
    generalize taken key cut usable head (segment ++ later) = found at first ⊢
    have inside := (List.getElem?_eq_some_iff.mp first.place).1
    have shorter := length_eraseIdx_of_lt inside
    rw [← cons_append, eraseIdx_append_of_lt_length inside,
      insertion_sort_first_min first, cons_append]
    congr 1
    cases rest_eq : (head :: segment).eraseIdx found.2 with
    | nil =>
      rw [rest_eq, length_cons] at shorter
      simp at shorter
      omega
    | cons next others =>
      have members : ∀ item ∈ others, item ∈ segment := by
        have tail := @erase_tail _ head segment found.2
        rwa [rest_eq] at tail
      rw [rest_eq, length_cons, length_cons] at shorter
      have fewer : others.length = count := by omega
      rw [cons_append]
      exact ih (fun item member => unmarked item (members item member))
        (fun item member => all item (members item member)) fewer

/-- The scan of a segment up to an unusable item: it ends on the first smallest
item before, or on a smaller one behind. -/
theorem scan_with_hole {before behind : List Item} {hole : Item}
    (all : ∀ item ∈ before, usable item = true) (unusable : usable hole = false) :
    let found := scanMin key usable (head, 0) 1 (before ++ hole :: behind)
    (found.2 < (head :: before).length ∧ FirstMin key (head :: before) found.2 found.1) ∨
      ((head :: before).length < found.2 ∧ found.1 ∈ behind ∧
        ∀ other ∈ head :: before, key found.1 < key other) := by
  rcases @scan_min_spec _ _ _ key usable (head, 0) 1 (before ++ hole :: behind) with
    ⟨least, place, below⟩
  dsimp only
  generalize scanMin key usable (head, 0) 1 (before ++ hole :: behind) = found
    at least place below ⊢
  have leastBefore : ∀ other ∈ head :: before, key found.1 ≤ key other := by
    intro other member
    rcases mem_cons.mp member with rfl | inside
    · exact below
    · exact least other (mem_append_left _ inside) (all other inside)
  rcases place with rfl | ⟨offset, index, item, use, smaller, earlier⟩
  · left
    refine ⟨Nat.succ_pos _, rfl, ?_, leastBefore⟩
    intro earlier other inside
    exact absurd inside (Nat.not_lt_zero _)
  · by_cases front : offset < before.length
    · left
      rw [List.getElem?_append_left front] at item
      refine ⟨by rw [length_cons]; omega, ?_, ?_, leastBefore⟩
      · rw [index, Nat.add_comm]
        exact item
      · intro position other inside at_other
        cases position with
        | zero =>
          obtain rfl : head = other := Option.some.inj at_other
          exact smaller
        | succ position =>
          have here : before[position]? = some other := at_other
          refine earlier position other (by omega) ?_ (all other (mem_of_getElem? here))
          rw [List.getElem?_append_left (by omega)]
          exact here
    · right
      rw [List.getElem?_append_right (by omega)] at item
      cases distance : offset - before.length with
      | zero =>
        rw [distance] at item
        obtain rfl : hole = found.1 := Option.some.inj item
        rw [unusable] at use
        cases use
      | succ distance' =>
        rw [distance] at item
        refine ⟨by rw [length_cons]; omega, mem_of_getElem? item, ?_⟩
        intro other member
        rcases mem_cons.mp member with rfl | inside
        · exact smaller
        · rcases mem_iff_getElem?.mp inside with ⟨position, at_other⟩
          have bound := (List.getElem?_eq_some_iff.mp at_other).1
          refine earlier position other (by omega) ?_ (all other inside)
          rw [List.getElem?_append_left bound]
          exact at_other

variable {items : List Item} {turns : Nat} {item : Item}

theorem drain_usable (enough : items.length ≤ turns)
    (unmarked : ∀ item ∈ items.tail, cut item = false)
    (all : ∀ item ∈ items.tail, usable item = true) :
    drain key cut usable turns items = items.insertionSort (KeyLE key) := by
  cases items with
  | nil => exact drain_nil turns
  | cons head segment =>
    have passes := @drain_segment _ _ _ key cut usable head segment []
      (turns - (segment.length + 1)) unmarked all (by simp)
    have exact : segment.length + 1 ≤ turns := enough
    rw [Nat.sub_add_cancel exact, append_nil, drain_nil, append_nil] at passes
    exact passes

theorem filter_one {keep : Item → Bool} {only : Item}
    (distinct : items.Nodup) (member : only ∈ items) (kept : keep only = true)
    (unique : ∀ item ∈ items, keep item = true → item = only) : items.filter keep = [only] := by
  apply perm_singleton.mp
  apply (perm_ext_iff_of_nodup (distinct.filter keep) (nodup_singleton only)).mpr
  intro item
  rw [mem_filter, mem_singleton]
  constructor
  · intro inside
    exact unique item inside.1 inside.2
  · rintro rfl
    exact ⟨member, kept⟩

/-- What the passes take of a segment with a struck out item, as far as it is shown. -/
theorem drain_hole {before behind : List Item} {hole : Item}
    (distinct : (head :: (before ++ hole :: behind ++ later)).Nodup)
    (unmarked : ∀ item ∈ before ++ hole :: behind, cut item = false)
    (all : ∀ item ∈ before, usable item = true) (unusable : usable hole = false)
    (ended : ∀ item, later.head? = some item → cut item = true)
    (turnsLeft : before.length + 1 ≤ turns)
    (shown : ∀ item ∈ hole :: behind ++ later, displayable item = true →
      item = (scanMin key usable (head, 0) 1 (before ++ hole :: behind)).1) :
    (drain key cut usable (turns + 1) (head :: (before ++ hole :: behind ++ later))).filter
      displayable =
      ((head :: (before ++ hole :: behind)).filter displayable).insertionSort (KeyLE key) := by
  have whole := head_segment_eq unmarked ended
  have notAll : ¬ (before ++ hole :: behind).all usable = true := by
    rw [all_append, all_cons, unusable]
    simp
  have reached : (before ++ hole :: behind).takeWhile usable = before := by
    rw [takeWhile_append_of_pos all, takeWhile_cons, unusable]
    simp
  have unmarkedBefore : ∀ item ∈ before, cut item = false := fun item member =>
    unmarked item (mem_append_left _ member)
  have place := @scan_with_hole _ _ _ key usable head before behind hole all unusable
  rw [drain]
  unfold remaining taken
  rw [whole, if_neg notAll, reached]
  dsimp only at place ⊢
  generalize scanMin key usable (head, 0) 1 (before ++ hole :: behind) = found
    at place shown ⊢
  rcases place with ⟨front, first⟩ | ⟨back, member, smaller⟩
  · rw [if_pos front]
    have erased := length_eraseIdx_of_lt front
    rw [length_cons] at erased
    rw [drain_usable (by omega) (fun item member => unmarkedBefore item (erase_tail _ item member))
      (fun item member => all item (erase_tail _ item member)), ← insertion_sort_first_min first,
      filter_insertion_sort, ← cons_append, filter_append]
    have hidden : (hole :: behind).filter displayable = [] := by
      apply filter_eq_nil_iff.mpr
      intro item member visible
      obtain rfl := shown item (mem_append_left _ member) visible
      rw [append_assoc, ← cons_append] at distinct
      exact disjoint_of_nodup_append distinct (mem_of_getElem? first.place)
        (mem_append_left _ member)
    rw [hidden, append_nil]
  · rw [if_neg (by omega), drain_usable turnsLeft unmarkedBefore all, ← cons_append, filter_append]
    have struck : (hole :: behind).Nodup := by
      rw [append_assoc, ← cons_append] at distinct
      exact (nodup_append.mp (nodup_append.mp distinct).2.1).1
    by_cases visible : displayable found.1 = true
    · rw [filter_one struck (mem_cons_of_mem _ member) visible
        (fun item inside => shown item (mem_append_left _ inside)),
        filter_cons_of_pos visible, filter_insertion_sort]
      have last : FirstMin key ((head :: before).filter displayable ++ [found.1])
          ((head :: before).filter displayable).length found.1 := by
        constructor
        · simp
        · intro earlier other inside at_other
          rw [List.getElem?_append_left inside] at at_other
          exact smaller other (mem_filter.mp (mem_of_getElem? at_other)).1
        · intro other inside
          rcases mem_append.mp inside with front | same
          · exact (smaller other (mem_filter.mp front).1).le
          · exact (congrArg key (mem_singleton.mp same)).ge
      rw [insertion_sort_first_min last, eraseIdx_append_of_length_le (Nat.le_refl _)]
      simp
    · have hidden : (hole :: behind).filter displayable = [] := by
        apply filter_eq_nil_iff.mpr
        intro item inside seen
        obtain rfl := shown item (mem_append_left _ inside) seen
        exact visible seen
      rw [filter_cons_of_neg visible, hidden, append_nil, filter_insertion_sort]

theorem segment_order_mem : item ∈ segmentOrder key cut items ↔ item ∈ items := by
  nth_rewrite 2 [← segments_flatten cut items]
  simp only [segmentOrder, mem_flatten, mem_map]
  constructor
  · rintro ⟨_, ⟨segment, member, rfl⟩, inside⟩
    exact ⟨segment, member, (mem_insertionSort _).mp inside⟩
  · rintro ⟨segment, member, inside⟩
    exact ⟨_, ⟨segment, member, rfl⟩, (mem_insertionSort _).mpr inside⟩

/-- With nothing to be shown behind a struck out item, the passes take all that
is to be shown, segment by segment and in its stable order. -/
theorem drain_order (distinct : items.Nodup) (enough : items.length ≤ turns)
    (nothing : NothingBehind key usable displayable (segments cut items)) :
    (drain key cut usable turns items).filter displayable =
      (segmentOrder key cut items).filter displayable := by
  induction size : items.length using Nat.strong_induction_on generalizing items turns with
  | _ size ih =>
    cases items with
    | nil => simp [segmentOrder, segments]
    | cons head rest =>
      rcases split_segment cut rest with ⟨segment, later, rfl, unmarked, ended⟩
      have cutHere := segments_cons head unmarked ended
      have order : segmentOrder key cut (head :: (segment ++ later)) =
          (head :: segment).insertionSort (KeyLE key) ++ segmentOrder key cut later := by
        unfold segmentOrder
        rw [cutHere]
        rfl
      rw [cutHere, NothingBehind] at nothing
      simp only [length_cons, length_append] at enough size
      by_cases all : segment.all usable = true
      · rw [if_pos all] at nothing
        obtain ⟨more, rfl⟩ : ∃ more, turns = more + (segment.length + 1) :=
          ⟨turns - (segment.length + 1), by omega⟩
        have behind : later.Nodup := (nodup_append.mp (nodup_cons.mp distinct).2).2.1
        rw [drain_segment unmarked (by simpa using all) ended, order, filter_append,
          filter_append, ih later.length (by omega) behind (by omega) nothing rfl]
      · rw [if_neg all, segments_flatten] at nothing
        cases stopped : segment.dropWhile usable with
        | nil =>
          rw [dropWhile_eq_nil_iff] at stopped
          exact absurd (by simpa using stopped) all
        | cons hole behind =>
          have split := @takeWhile_append_dropWhile _ usable segment
          have unusable : usable hole = false := by
            have first := List.head?_dropWhile_not usable segment
            rw [stopped] at first
            simpa using first
          have allBefore : ∀ item ∈ segment.takeWhile usable, usable item = true :=
            fun item member => mem_takeWhile_imp member
          rw [stopped] at split nothing
          generalize segment.takeWhile usable = before at split allBefore
          subst split
          have none_later : (segmentOrder key cut later).filter displayable = [] := by
            apply filter_eq_nil_iff.mpr
            intro item member visible
            have inside := segment_order_mem.mp member
            have same := nothing item (mem_append_right _ inside) visible
            have place := @scan_with_hole _ _ _ key usable head before behind hole allBefore
              unusable
            dsimp only at place
            rw [← same] at place
            rw [← cons_append] at distinct
            refine disjoint_of_nodup_append distinct ?_ inside
            rcases place with ⟨-, first⟩ | ⟨-, back, -⟩
            · rw [← cons_append]
              exact mem_append_left _ (mem_of_getElem? first.place)
            · exact mem_cons_of_mem _
                (mem_append_right _ (mem_cons_of_mem _ back))
          obtain ⟨more, rfl⟩ : ∃ more, turns = more + 1 := ⟨turns - 1, by omega⟩
          simp only [length_append, length_cons] at enough
          rw [order, filter_append, none_later, append_nil, filter_insertion_sort]
          exact drain_hole distinct unmarked allBefore unusable ended (by omega) nothing

/-- A pass leaves items of the list in their order, without the one that it takes. -/
theorem remaining_spec (distinct : (head :: rest).Nodup) :
    (taken key cut usable head rest).1 ∈ head :: rest ∧
      (remaining key cut usable head rest).Sublist (head :: rest) ∧
      (taken key cut usable head rest).1 ∉ remaining key cut usable head rest := by
  rcases split_segment cut rest with ⟨segment, later, rfl, unmarked, ended⟩
  have whole := head_segment_eq unmarked ended
  have erased : ∀ {items : List Item} {index : Nat} {item : Item}, items.Nodup →
      items[index]? = some item → item ∉ items.eraseIdx index := by
    intro items index item different place member
    rcases mem_eraseIdx_iff_getElem?.mp member with ⟨other, apart, there⟩
    have inside := (List.getElem?_eq_some_iff.mp place).1
    exact apart ((List.getElem?_inj inside different).mp (place.trans there.symm)).symm
  unfold remaining taken
  rw [whole]
  dsimp only
  by_cases all : segment.all usable = true
  · have first := @scan_first_min _ _ _ key usable head segment (by simpa using all)
    rw [if_pos all]
    have place : (head :: (segment ++ later))[(scanMin key usable (head, 0) 1 segment).2]? =
        some (scanMin key usable (head, 0) 1 segment).1 := by
      rw [← cons_append, List.getElem?_append_left
        (List.getElem?_eq_some_iff.mp first.place).1]
      exact first.place
    exact ⟨mem_of_getElem? place, eraseIdx_sublist _ _, erased distinct place⟩
  · rw [if_neg all]
    have split := @takeWhile_append_dropWhile _ usable segment
    have allBefore : ∀ item ∈ segment.takeWhile usable, usable item = true :=
      fun item member => mem_takeWhile_imp member
    cases stopped : segment.dropWhile usable with
    | nil =>
      rw [dropWhile_eq_nil_iff] at stopped
      exact absurd (by simpa using stopped) all
    | cons hole behind =>
      have unusable : usable hole = false := by
        have first := List.head?_dropWhile_not usable segment
        rw [stopped] at first
        simpa using first
      rw [stopped] at split
      generalize segment.takeWhile usable = before at split allBefore ⊢
      subst split
      have place := @scan_with_hole _ _ _ key usable head before behind hole allBefore unusable
      dsimp only at place
      generalize scanMin key usable (head, 0) 1 (before ++ hole :: behind) = found at place ⊢
      rw [append_assoc, ← cons_append] at distinct
      have front : (head :: before).Sublist (head :: (before ++ hole :: behind ++ later)) := by
        rw [append_assoc, ← cons_append]
        exact sublist_append_left _ _
      rcases place with ⟨inFront, first⟩ | ⟨inBack, member, -⟩
      · rw [if_pos inFront]
        exact ⟨front.subset (mem_of_getElem? first.place), (eraseIdx_sublist _ _).trans front,
          erased (nodup_append.mp distinct).1 first.place⟩
      · rw [if_neg (by omega)]
        have back : found.1 ∈ hole :: behind ++ later :=
          mem_append_left _ (mem_cons_of_mem _ member)
        refine ⟨?_, front, ?_⟩
        · rw [append_assoc]
          exact mem_cons_of_mem _ (mem_append_right _ back)
        · intro inside
          exact disjoint_of_nodup_append distinct inside back

theorem drain_subset (distinct : items.Nodup)
    (member : item ∈ drain key cut usable turns items) : item ∈ items := by
  induction turns generalizing items with
  | zero => cases member
  | succ turns ih =>
    cases items with
    | nil => cases member
    | cons head rest =>
      have pass := @remaining_spec _ _ _ key cut usable head rest distinct
      rcases mem_cons.mp member with rfl | later
      · exact pass.1
      · exact pass.2.1.subset (ih (distinct.sublist pass.2.1) later)

theorem take_while_congr {left right : Item → Bool}
    (same : ∀ item ∈ items, left item = right item) :
    items.takeWhile left = items.takeWhile right := by
  induction items with
  | nil => rfl
  | cons next others ih =>
    rw [takeWhile_cons, takeWhile_cons, same next mem_cons_self,
      ih fun item member => same item (mem_cons_of_mem _ member)]

theorem head_segment_congr {cut' : Item → Bool} (sameCut : ∀ item ∈ rest, cut item = cut' item) :
    headSegment cut rest = headSegment cut' rest := by
  apply take_while_congr
  intro item member
  rw [sameCut item member]

section Congruence

variable {key' : Item → Key} {cut' usable' : Item → Bool}

theorem taken_congr (sameKey : ∀ item ∈ head :: rest, key item = key' item)
    (sameCut : ∀ item ∈ head :: rest, cut item = cut' item)
    (sameUse : ∀ item ∈ head :: rest, usable item = usable' item) :
    taken key cut usable head rest = taken key' cut' usable' head rest := by
  unfold taken
  have inside : ∀ item ∈ headSegment cut' rest, item ∈ rest := fun item member =>
    (List.takeWhile_prefix _).subset member
  rw [head_segment_congr fun item member => sameCut item (mem_cons_of_mem _ member)]
  apply scan_min_congr
  · intro item member
    rcases mem_cons.mp member with rfl | behind
    · exact sameKey item mem_cons_self
    · exact sameKey item (mem_cons_of_mem _ (inside item behind))
  · exact fun item member => sameUse item (mem_cons_of_mem _ (inside item member))

theorem remaining_congr (sameKey : ∀ item ∈ head :: rest, key item = key' item)
    (sameCut : ∀ item ∈ head :: rest, cut item = cut' item)
    (sameUse : ∀ item ∈ head :: rest, usable item = usable' item) :
    remaining key cut usable head rest = remaining key' cut' usable' head rest := by
  have sameSegment : headSegment cut rest = headSegment cut' rest :=
    head_segment_congr fun item member => sameCut item (mem_cons_of_mem _ member)
  have use : ∀ item ∈ headSegment cut' rest, usable item = usable' item := fun item member =>
    sameUse item (mem_cons_of_mem _ ((List.takeWhile_prefix _).subset member))
  unfold remaining
  rw [taken_congr sameKey sameCut sameUse, sameSegment]
  have every : (headSegment cut' rest).all usable = (headSegment cut' rest).all usable' := by
    rw [Bool.eq_iff_iff, all_eq_true, all_eq_true]
    exact forall₂_congr fun item member => by rw [use item member]
  rw [take_while_congr use, every]

theorem drain_congr {turns : Nat} {items : List Item} (distinct : items.Nodup)
    (sameKey : ∀ item ∈ items, key item = key' item)
    (sameCut : ∀ item ∈ items, cut item = cut' item)
    (sameUse : ∀ item ∈ items, usable item = usable' item) :
    drain key cut usable turns items = drain key' cut' usable' turns items := by
  induction turns generalizing items with
  | zero => rfl
  | succ turns ih =>
    cases items with
    | nil => rfl
    | cons head rest =>
      have kept := (@remaining_spec _ _ _ key' cut' usable' head rest distinct).2.1
      rw [drain, drain, taken_congr sameKey sameCut sameUse,
        remaining_congr sameKey sameCut sameUse]
      congr 1
      exact ih (distinct.sublist kept) (fun item member => sameKey item (kept.subset member))
        (fun item member => sameCut item (kept.subset member))
        (fun item member => sameUse item (kept.subset member))

end Congruence

end Passes

def Listed (table : Nat → Option Nat) (list : List Nat) : Prop :=
  ∀ i, i ≤ list.length → table i = list[i]?

variable {table : Nat → Option Nat} {list : List Nat}

/-- The table with some of the entries of a run from `i` on struck out. -/
def strike (unusable : Nat → Bool) (table : Nat → Option Nat) (i : Nat) (run : List Nat) :
    Nat → Option Nat := fun k =>
  if i ≤ k ∧ (run[k - i]?).any unusable = true then none else table k

theorem strike_none (unusable : Nat → Bool) (i : Nat) : strike unusable table i [] = table := by
  funext k
  simp [strike]

theorem strike_step (unusable : Nat → Bool) (i entry : Nat) (run : List Nat) :
    strike unusable table i (entry :: run) = strike unusable
        (if unusable entry = true then update table i none else table) (i + 1) run := by
  funext k
  unfold strike
  rcases Nat.lt_trichotomy k i with before | here | behind
  · rw [if_neg (by omega), if_neg (by omega)]
    split_ifs
    · rw [update_of_ne (by omega)]
    · rfl
  · subst here
    rw [Nat.sub_self, if_neg (by omega : ¬ (k + 1 ≤ k ∧ _))]
    by_cases struck : unusable entry = true <;> simp [struck]
  · obtain ⟨offset, rfl⟩ : ∃ offset, k = i + 1 + offset := ⟨k - (i + 1), by omega⟩
    rw [show i + 1 + offset - i = offset + 1 by omega, Nat.add_sub_cancel_left,
      List.getElem?_cons_succ]
    have low : i ≤ i + 1 + offset := by omega
    have low' : i + 1 ≤ i + 1 + offset := by omega
    simp only [low, low', true_and]
    split_ifs <;> first | rfl | rw [update_of_ne (by omega)]

def poc (picture : Nat → H264PicInfo) (pic : Nat) : Int := (picture pic).nPoc

def isKeyFrame (picture : Nat → H264PicInfo) (pic : Nat) : Bool :=
  decide ((picture pic).bKeyFrame ≠ 0)

def hasBuffer (picture : Nat → H264PicInfo) (pic : Nat) : Bool := !bufferless (picture pic)

theorem flush_search_spec {picture : Nat → H264PicInfo} {left i : Nat} {best : Nat × Nat}
    (listed : ∀ k, k ≤ list.length → table (i + k) = list[k]?) (room : list.length < left) :
    flushSearch picture left table i best =
      some (strike (fun pic => bufferless (picture pic)) table i
          (headSegment (isKeyFrame picture) list),
        scanMin (poc picture) (hasBuffer picture) best i
          (headSegment (isKeyFrame picture) list)) := by
  induction list generalizing left i table best with
  | nil =>
    obtain ⟨left, rfl⟩ : ∃ more, left = more + 1 := ⟨left - 1, by simp at room; omega⟩
    have ended : table i = none := listed 0 (Nat.le_refl _)
    rw [flushSearch, ended]
    simp [headSegment, strike_none, scanMin]
  | cons entry rest ih =>
    obtain ⟨left, rfl⟩ : ∃ more, left = more + 1 := ⟨left - 1, by simp at room; omega⟩
    have here : table i = some entry := listed 0 (Nat.zero_le _)
    have behind : ∀ k, k ≤ rest.length → table (i + 1 + k) = rest[k]? := by
      intro k inside
      rw [show i + 1 + k = i + (k + 1) by omega]
      exact listed (k + 1) (by rw [length_cons]; omega)
    have room' : rest.length < left := by
      rw [length_cons] at room
      omega
    rw [flushSearch, here]
    dsimp only
    by_cases marked : (picture entry).bKeyFrame ≠ 0
    · simp [marked, headSegment, isKeyFrame, strike_none, scanMin]
    · have more : headSegment (isKeyFrame picture) (entry :: rest) =
          entry :: headSegment (isKeyFrame picture) rest := by
        unfold headSegment isKeyFrame
        rw [takeWhile_cons]
        simp [marked]
      rw [if_neg marked, more, strike_step, scanMin]
      by_cases struck : bufferless (picture entry) = true
      · have kept : ∀ k, k ≤ rest.length → update table i none (i + 1 + k) = rest[k]? := by
          intro k inside
          rw [update_of_ne (by omega)]
          exact behind k inside
        rw [if_pos struck, if_pos struck, ih kept room']
        simp [hasBuffer, struck]
      · rw [if_neg struck, if_neg struck]
        by_cases smaller : (picture entry).nPoc < (picture best.1).nPoc
        · rw [if_pos smaller, ih behind room']
          simp [hasBuffer, struck, poc, smaller]
        · rw [if_neg smaller, ih behind room']
          simp [hasBuffer, poc, smaller]

/-- Moving the entries between `i` and `last` down by one. -/
def closed (table : Nat → Option Nat) (i last : Nat) : Nat → Option Nat := fun k =>
  if i ≤ k ∧ k < last then table (k + 1) else table k

theorem closed_step {i last : Nat} (inside : i < last) :
    closed (update table i (table (i + 1))) (i + 1) last = closed table i last := by
  funext k
  unfold closed
  rcases Nat.lt_trichotomy k i with before | here | behind
  · rw [if_neg (by omega), if_neg (by omega), update_of_ne (by omega)]
  · subst here
    rw [if_neg (by omega), if_pos ⟨Nat.le_refl _, inside⟩, update_self]
  · by_cases within : k < last
    · rw [if_pos (by omega), if_pos (by omega), update_of_ne (by omega)]
    · rw [if_neg (by omega), if_neg (by omega), update_of_ne (by omega)]

theorem close_delayed_spec {left i last : Nat} (filled : ∀ k, i ≤ k → k < last → table k ≠ none)
    (ended : table last = none) (ordered : i ≤ last) (inside : last < MAX_PICTURE_COUNT)
    (room : last - i < left) : closeDelayed left table i = some (closed table i last) := by
  induction size : last - i generalizing left i table with
  | zero =>
    obtain ⟨left, rfl⟩ : ∃ more, left = more + 1 := ⟨left - 1, by omega⟩
    obtain rfl : i = last := by omega
    rw [closeDelayed, ended]
    dsimp only
    congr 1
    funext k
    unfold closed
    rw [if_neg (by omega)]
  | succ size ih =>
    obtain ⟨left, rfl⟩ : ∃ more, left = more + 1 := ⟨left - 1, by omega⟩
    rcases Option.ne_none_iff_exists'.mp (filled i (Nat.le_refl _) (by omega)) with ⟨entry, here⟩
    rw [closeDelayed, here]
    dsimp only
    rw [if_neg (by omega), ih ?_ ?_ (by omega) (by omega) (by omega), closed_step (by omega)]
    · intro k low high
      rw [update_of_ne (by omega)]
      exact filled k (by omega) high
    · rw [update_of_ne (by omega)]
      exact ended

theorem closed_listed {index : Nat} (listed : Listed table list) (inside : index < list.length) :
    Listed (closed table index list.length) (list.eraseIdx index) := by
  intro k bound
  rw [length_eraseIdx_of_lt inside] at bound
  rw [List.getElem?_eraseIdx]
  unfold closed
  by_cases before : k < index
  · rw [if_neg (by omega), if_pos before]
    exact listed k (by omega)
  · rw [if_neg before]
    rw [if_pos (by omega)]
    exact listed (k + 1) (by omega)

theorem listed_front {reached later : List Nat} (listed : Listed table (reached ++ later))
    {struck : Nat → Option Nat} (kept : ∀ k < reached.length, struck k = table k)
    (ended : struck reached.length = none) : Listed struck reached := by
  intro k bound
  by_cases inside : k < reached.length
  · rw [kept k inside, listed k (by rw [length_append]; omega), List.getElem?_append_left inside]
  · obtain rfl : k = reached.length := by omega
    rw [ended, List.getElem?_eq_none (Nat.le_refl _)]

theorem listed_filled (listed : Listed table list) {k : Nat} (inside : k < list.length) :
    table k ≠ none := by
  rw [listed k (by omega), List.getElem?_eq_getElem inside]
  exact Option.some_ne_none _

theorem listed_ended (listed : Listed table list) : table list.length = none := by
  rw [listed _ (Nat.le_refl _), List.getElem?_eq_none (Nat.le_refl _)]

/-- Closing ends at the first NULL, and does not touch the entries before. -/
theorem close_delayed_ends {left i last : Nat} (ended : table last = none) (ordered : i ≤ last)
    (inside : last < MAX_PICTURE_COUNT) (room : last - i < left) :
    ∃ table', closeDelayed left table i = some table' ∧ ∀ k < i, table' k = table k := by
  induction size : last - i generalizing left i table with
  | zero =>
    obtain ⟨left, rfl⟩ : ∃ more, left = more + 1 := ⟨left - 1, by omega⟩
    obtain rfl : i = last := by omega
    exact ⟨table, by rw [closeDelayed, ended], fun _ _ => rfl⟩
  | succ size ih =>
    obtain ⟨left, rfl⟩ : ∃ more, left = more + 1 := ⟨left - 1, by omega⟩
    cases here : table i with
    | none => exact ⟨table, by rw [closeDelayed, here], fun _ _ => rfl⟩
    | some entry =>
      have moved : update table i (table (i + 1)) last = none := by
        rw [update_of_ne (by omega)]
        exact ended
      rcases ih moved (by omega) (by omega : last - (i + 1) < left) (by omega) with
        ⟨table', close, kept⟩
      refine ⟨table', ?_, ?_⟩
      · rw [closeDelayed, here]
        dsimp only
        rw [if_neg (by omega)]
        exact close
      · intro k below
        rw [kept k (by omega), update_of_ne (by omega)]

theorem pass_table {picture : Nat → H264PicInfo} {head : Nat} {rest : List Nat}
    (listed : Listed table (head :: rest)) (bound : (head :: rest).length < MAX_PICTURE_COUNT) :
    ∃ struck table', flushSearch picture (MAX_PICTURE_COUNT - 1) table 1 (head, 0) =
        some (struck, taken (poc picture) (isKeyFrame picture) (hasBuffer picture) head rest) ∧
      closeDelayed
        (MAX_PICTURE_COUNT -
          (taken (poc picture) (isKeyFrame picture) (hasBuffer picture) head rest).2)
        struck (taken (poc picture) (isKeyFrame picture) (hasBuffer picture) head rest).2 =
        some table' ∧
      Listed table'
        (remaining (poc picture) (isKeyFrame picture) (hasBuffer picture) head rest) := by
  have behind : ∀ k, k ≤ rest.length → table (1 + k) = rest[k]? := by
    intro k inside
    rw [Nat.add_comm]
    exact listed (k + 1) (by rw [length_cons]; omega)
  have search := @flush_search_spec _ rest picture (MAX_PICTURE_COUNT - 1) 1 (head, 0) behind
    (by rw [length_cons] at bound; omega)
  rcases split_segment (isKeyFrame picture) rest with ⟨segment, later, rfl, unmarked, ended⟩
  have whole := head_segment_eq unmarked ended
  have lengths : (head :: (segment ++ later)).length = segment.length + later.length + 1 := by
    rw [length_cons, length_append]
  refine ⟨strike (fun pic => bufferless (picture pic)) table 1
    (headSegment (isKeyFrame picture) (segment ++ later)), ?_⟩
  rw [search]
  unfold remaining taken
  rw [whole]
  dsimp only
  by_cases all : segment.all (hasBuffer picture) = true
  · have first := @scan_first_min _ _ _ (poc picture) (hasBuffer picture) head segment
      (by simpa using all)
    have inside := (List.getElem?_eq_some_iff.mp first.place).1
    rw [length_cons] at inside
    have untouched : strike (fun pic => bufferless (picture pic)) table 1 segment = table := by
      funext k
      unfold strike
      rw [if_neg]
      rintro ⟨-, struck⟩
      rcases (Option.any_eq_true _ _).mp struck with ⟨pic, place, without⟩
      have buffered := (all_eq_true.mp all) pic (mem_of_getElem? place)
      unfold hasBuffer at buffered
      rw [without] at buffered
      cases buffered
    rw [if_pos all, untouched]
    generalize scanMin (poc picture) (hasBuffer picture) (head, 0) 1 segment = found
      at inside ⊢
    refine ⟨closed table found.2 (head :: (segment ++ later)).length, rfl, ?_,
      closed_listed listed (by omega)⟩
    exact close_delayed_spec (fun k _ high => listed_filled listed high) (listed_ended listed)
      (by omega) bound (by omega)
  · rw [if_neg all]
    have split := @takeWhile_append_dropWhile _ (hasBuffer picture) segment
    have allBefore : ∀ pic ∈ segment.takeWhile (hasBuffer picture), hasBuffer picture pic = true :=
      fun pic member => mem_takeWhile_imp member
    cases stopped : segment.dropWhile (hasBuffer picture) with
    | nil =>
      rw [dropWhile_eq_nil_iff] at stopped
      exact absurd (by simpa using stopped) all
    | cons hole struckBehind =>
      have unusable : hasBuffer picture hole = false := by
        have first := List.head?_dropWhile_not (hasBuffer picture) segment
        rw [stopped] at first
        simpa using first
      rw [stopped] at split
      generalize segment.takeWhile (hasBuffer picture) = before at split allBefore ⊢
      subst split
      have place := @scan_with_hole _ _ _ (poc picture) (hasBuffer picture) head before
        struckBehind hole allBefore unusable
      have foundInside := @scan_min_spec _ _ _ (poc picture) (hasBuffer picture) (head, 0) 1
        (before ++ hole :: struckBehind)
      dsimp only at place foundInside
      generalize scanMin (poc picture) (hasBuffer picture) (head, 0) 1
        (before ++ hole :: struckBehind) = found at place foundInside ⊢
      have kept : ∀ k < (head :: before).length,
          strike (fun pic => bufferless (picture pic)) table 1
              (before ++ hole :: struckBehind) k =
            table k := by
        intro k inside
        rw [length_cons] at inside
        unfold strike
        rw [if_neg]
        rintro ⟨low, struck⟩
        rw [List.getElem?_append_left (by omega)] at struck
        rcases (Option.any_eq_true _ _).mp struck with ⟨pic, here, without⟩
        have buffered := allBefore pic (mem_of_getElem? here)
        unfold hasBuffer at buffered
        rw [without] at buffered
        cases buffered
      have gap : strike (fun pic => bufferless (picture pic)) table 1
          (before ++ hole :: struckBehind) (head :: before).length = none := by
        unfold strike
        rw [if_pos]
        refine ⟨by rw [length_cons]; omega, ?_⟩
        rw [length_cons, Nat.add_sub_cancel, List.getElem?_append_right (Nat.le_refl _),
          Nat.sub_self, List.getElem?_cons_zero]
        unfold hasBuffer at unusable
        simpa using unusable
      have front : Listed (strike (fun pic => bufferless (picture pic)) table 1
          (before ++ hole :: struckBehind)) (head :: before) := by
        refine @listed_front table (head :: before) (hole :: struckBehind ++ later) ?_ _ kept gap
        rw [cons_append, ← append_assoc]
        exact listed
      have frontLength : (head :: before).length = before.length + 1 := length_cons
      have segmentLength : (before ++ hole :: struckBehind).length =
          before.length + (struckBehind.length + 1) := by
        rw [length_append, length_cons]
      rcases place with ⟨inFront, -⟩ | ⟨inBack, -⟩
      · rw [if_pos inFront]
        refine ⟨_, rfl, close_delayed_spec (fun k _ high => listed_filled front high) gap
          (by omega) (by omega) (by omega), closed_listed front inFront⟩
      · rw [if_neg (by omega)]
        have last : strike (fun pic => bufferless (picture pic)) table 1
            (before ++ hole :: struckBehind)
            (head :: (before ++ hole :: struckBehind ++ later)).length = none := by
          unfold strike
          split_ifs
          · rfl
          · exact listed_ended listed
        have inside : found.2 ≤ (before ++ hole :: struckBehind).length := by
          rcases foundInside.2.1 with same | ⟨offset, index, item, -⟩
          · rw [same]
            exact Nat.zero_le _
          · have bounded := (List.getElem?_eq_some_iff.mp item).1
            omega
        rcases @close_delayed_ends _ (MAX_PICTURE_COUNT - found.2) found.2 _ last (by omega)
          (by omega) (by omega) with ⟨table', close, below⟩
        refine ⟨table', rfl, close, ?_⟩
        intro k low
        rw [below k (by omega)]
        exact front k low

end CedarC.H264FlushOrder
