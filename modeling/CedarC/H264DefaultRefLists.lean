import CedarC.H264AlikeLists

/-!
# Default reference lists of the H264 decoder

`H264FillDefaultRefList` of `h264_mmco.c` for the first view. A list is what is
filled of `defaultRefList`; the entries behind it are zero. On alike contexts
the lists name the same pictures.
-/

namespace CedarC.H264DefaultRefLists

open RelatedResults H264RefMarking H264AlikeLists List

section Model

/-- What the lists read of a picture besides its marks. -/
structure PicOrder where
  nPoc : Int
  nFieldPoc0 : Int
  nFieldPoc1 : Int
  nPicStructure : Nat
  nDispBufIndex : Nat
deriving DecidableEq

/-- A copy of a picture in a list. -/
structure RefEntry where
  pic : Pic
  nPicStructure : Nat
  nReference : Nat
  nPicId : Int
deriving DecidableEq

variable (hCtx : H264Context) (order : Pic → PicOrder)

/-- The entry that `H264SplitFieldCopy` makes of a picture with this mark. -/
def H264SplitFieldCopy (pic : Pic) (nPicId : Int) (parity : Nat) (idAdd : Int) : RefEntry :=
  if parity ≠ PicStructure.PICT_FRAME.bits then
    { pic := pic
      nPicStructure :=
        if parity = PicStructure.PICT_BOTTOM_FIELD.bits then PicStructure.PICT_BOTTOM_FIELD.bits
        else PicStructure.PICT_TOP_FIELD.bits
      nReference := parity
      nPicId := nPicId * 2 + idAdd }
  else
    { pic := pic
      nPicStructure := (order pic).nPicStructure
      nReference := (hCtx.picture pic).nReference
      nPicId := nPicId }

def markedSlot (table : Nat → Option Pic) (nLen sel i : Nat) : Bool :=
  decide (i < nLen) && (table i).any fun pic => decide ((hCtx.picture pic).nReference &&& sel ≠ 0)

/-- The next marked slot from `i` on, in so many slots. -/
def nextMarked (marked : Nat → Bool) : Nat → Nat → Nat
  | 0, i => i
  | left + 1, i => if marked i then i else nextMarked marked left (i + 1)

/-- The slots in the order of the entries, the fields of one parity and of the other in
turn; every round advances both cursors. -/
def turns (own opposite : Nat → Bool) (nLen : Nat) : Nat → Nat → Nat → List (Nat × Bool)
  | 0, _, _ => []
  | rounds + 1, i, j =>
    if i < nLen ∨ j < nLen then
      let i := nextMarked own (nLen - i) i
      let j := nextMarked opposite (nLen - j) j
      (if i < nLen then [(i, true)] else []) ++ (if j < nLen then [(j, false)] else []) ++
        turns own opposite nLen rounds (i + 1) (j + 1)
    else []

def H264BuildDefList (table : Nat → Option Pic) (nLen : Nat) (bIsLong : Bool) (sel : Nat) :
    List RefEntry :=
  (turns (markedSlot hCtx table nLen sel) (markedSlot hCtx table nLen (sel ^^^ 3)) nLen
      nLen 0 0).filterMap fun (i, own) =>
    (table i).map fun pic =>
      let nPicId := if bIsLong then (i : Int) else (hCtx.picture pic).nFrmNum
      if own then H264SplitFieldCopy hCtx order pic nPicId sel 1
      else H264SplitFieldCopy hCtx order pic nPicId (sel ^^^ 3) 0

/-- The picture with the best count on this side of the limit; of equal ones the first
above it and the last below it. -/
def bestPic (limit : Int) (below : Bool) (best : Int × Option Pic) (pic : Pic) : Int × Option Pic :=
  let poc := (order pic).nPoc
  if (decide (poc > limit)).xor below ∧ (decide (poc < best.1)).xor below then (poc, some pic)
  else best

def addSortedFrom (src : List Pic) (below : Bool) : Nat → Int → List Pic
  | 0, _ => []
  | rounds + 1, limit =>
    let none_best : Int := if below then -2 ^ 30 else 2 ^ 30
    let best := src.foldl (bestPic order limit below) (none_best, none)
    match best.2 with
    | none => []
    | some pic =>
      if best.1 = none_best then []
      else pic :: addSortedFrom src below rounds ((order pic).nPoc - if below then 1 else 0)

def H264AddSorted (src : List Pic) (limit : Int) (below : Bool) : List Pic :=
  addSortedFrom order src below src.length limit

def shortPics : Option (List Pic) := (List.range hCtx.nShortRefCount).mapM hCtx.pShortRef

def curPoc (cur : Pic) : Int :=
  match hCtx.nPicStructure with
  | .PICT_FRAME => (order cur).nPoc
  | .PICT_TOP_FIELD => (order cur).nFieldPoc0
  | .PICT_BOTTOM_FIELD => (order cur).nFieldPoc1

def longEntries : List RefEntry :=
  H264BuildDefList hCtx order hCtx.pLongRef 16 true hCtx.nPicStructure.bits

def defaultListOfB (src : List Pic) (nCurPoc : Int) (second : Bool) : List RefEntry :=
  let sorted := H264AddSorted order src nCurPoc (!second) ++ H264AddSorted order src nCurPoc second
  H264BuildDefList hCtx order (fun i => sorted[i]?) sorted.length false hCtx.nPicStructure.bits ++
    longEntries hCtx order

/-- The second list swaps its first entries when it names the same display buffers. -/
def swapSecond (first second : List RefEntry) : List RefEntry :=
  match second with
  | one :: other :: rest =>
    if first.map (fun entry => (order entry.pic).nDispBufIndex) =
        second.map (fun entry => (order entry.pic).nDispBufIndex) then
      other :: one :: rest
    else second
  | _ => second

def H264FillDefaultRefList (isB : Bool) : Option (List RefEntry × List RefEntry) :=
  if isB then
    hCtx.pCurPicturePtr.bind fun cur =>
      (shortPics hCtx).map fun src =>
        let nCurPoc := curPoc hCtx order cur
        let first := defaultListOfB hCtx order src nCurPoc false
        (first, swapSecond order first (defaultListOfB hCtx order src nCurPoc true))
  else
    some
      (H264BuildDefList hCtx order hCtx.pShortRef hCtx.nShortRefCount false
          hCtx.nPicStructure.bits ++ longEntries hCtx order, [])

end Model

variable {pairs : Pic → Pic → Prop} {one other : H264Context} {oneOrder otherOrder : Pic → PicOrder}

/-- Paired pictures have the same counts, and the display buffers of two pictures are the
same on both sides or on none. -/
structure SameOrder (pairs : Pic → Pic → Prop) (oneOrder otherOrder : Pic → PicOrder) : Prop where
  nPoc : ∀ left right, pairs left right → (oneOrder left).nPoc = (otherOrder right).nPoc
  nFieldPoc0 : ∀ left right, pairs left right →
    (oneOrder left).nFieldPoc0 = (otherOrder right).nFieldPoc0
  nFieldPoc1 : ∀ left right, pairs left right →
    (oneOrder left).nFieldPoc1 = (otherOrder right).nFieldPoc1
  nPicStructure : ∀ left right, pairs left right →
    (oneOrder left).nPicStructure = (otherOrder right).nPicStructure
  buffers : ∀ left right left' right', pairs left right → pairs left' right' →
    ((oneOrder left).nDispBufIndex = (oneOrder left').nDispBufIndex ↔
      (otherOrder right).nDispBufIndex = (otherOrder right').nDispBufIndex)

structure SameEntry (pairs : Pic → Pic → Prop) (one other : RefEntry) : Prop where
  pic : pairs one.pic other.pic
  nPicStructure : one.nPicStructure = other.nPicStructure
  marks : one.nReference &&& 3 = other.nReference &&& 3
  nPicId : one.nPicId = other.nPicId

theorem split_field_copy_alike (alike : Alike pairs one other)
    (order : SameOrder pairs oneOrder otherOrder) {left right : Pic} (related : pairs left right)
    (nPicId : Int) (parity : Nat) (idAdd : Int) :
    SameEntry pairs (H264SplitFieldCopy one oneOrder left nPicId parity idAdd)
      (H264SplitFieldCopy other otherOrder right nPicId parity idAdd) := by
  unfold H264SplitFieldCopy
  by_cases fields : parity ≠ PicStructure.PICT_FRAME.bits
  · rw [if_pos fields, if_pos fields]
    exact ⟨related, rfl, rfl, rfl⟩
  · rw [if_neg fields, if_neg fields]
    exact ⟨related, order.nPicStructure left right related,
      (alike.marks left right related).marks, rfl⟩

variable {nLen sel : Nat} {oneSrc otherSrc : List Pic}
  {oneFirst otherFirst oneSecond otherSecond : List RefEntry}

theorem marked_slot_alike (alike : Alike pairs one other) {oneTable otherTable}
    (small : sel < 4) (tables : Matching pairs nLen oneTable otherTable) :
    markedSlot one oneTable nLen sel = markedSlot other otherTable nLen sel := by
  funext i
  unfold markedSlot
  by_cases inside : i < nLen
  · have held := tables i inside
    generalize oneTable i = oneHeld at held ⊢
    generalize otherTable i = otherHeld at held ⊢
    cases held with
    | none => rfl
    | some related =>
      simp only [Option.any_some]
      rw [masked_marks (alike.marks _ _ related) small]
  · simp [inside]

theorem next_marked_le (marked : Nat → Bool) (left i : Nat) : i ≤ nextMarked marked left i := by
  induction left generalizing i with
  | zero => exact Nat.le_refl i
  | succ left later =>
    unfold nextMarked
    split_ifs
    · exact Nat.le_refl i
    · exact Nat.le_of_succ_le (later (i + 1))

theorem turns_inside (own opposite : Nat → Bool) (nLen rounds i j : Nat) :
    ∀ turn ∈ turns own opposite nLen rounds i j, turn.1 < nLen := by
  induction rounds generalizing i j with
  | zero => simp [turns]
  | succ rounds later =>
    intro turn member
    unfold turns at member
    split at member
    · simp only [mem_append] at member
      rcases member with (first | second) | rest
      · split at first
        · rename_i inside
          rw [mem_singleton.mp first]
          exact inside
        · cases first
      · split at second
        · rename_i inside
          rw [mem_singleton.mp second]
          exact inside
        · cases second
      · exact later _ _ turn rest
    · cases member

theorem filter_map_alike {One Other : Type} {related : One → Other → Prop} {oneEntry otherEntry}
    (slots : List (Nat × Bool))
    (entries : ∀ slot ∈ slots, Option.Rel related (oneEntry slot) (otherEntry slot)) :
    List.Forall₂ related (slots.filterMap oneEntry) (slots.filterMap otherEntry) := by
  induction slots with
  | nil => exact .nil
  | cons slot rest later =>
    have tail := later fun entry member => entries entry (mem_cons_of_mem slot member)
    have head := entries slot mem_cons_self
    rw [filterMap_cons, filterMap_cons]
    generalize oneEntry slot = oneHeld at head ⊢
    generalize otherEntry slot = otherHeld at head ⊢
    cases head with
    | none => exact tail
    | some values => exact .cons values tail

theorem build_def_list_alike (alike : Alike pairs one other)
    (order : SameOrder pairs oneOrder otherOrder) {oneTable otherTable}
    (small : sel < 4) (tables : Matching pairs nLen oneTable otherTable) (bIsLong : Bool) :
    List.Forall₂ (SameEntry pairs) (H264BuildDefList one oneOrder oneTable nLen bIsLong sel)
      (H264BuildDefList other otherOrder otherTable nLen bIsLong sel) := by
  unfold H264BuildDefList
  have flipped : sel ^^^ 3 < 4 := @Nat.xor_lt_two_pow sel 3 2 small (by decide)
  rw [marked_slot_alike alike small tables, marked_slot_alike alike flipped tables]
  apply filter_map_alike
  rintro ⟨i, own⟩ member
  have inside := turns_inside _ _ _ _ _ _ _ member
  apply rel_map (tables i inside)
  intro left right related
  dsimp only
  rw [(alike.marks left right related).nFrmNum]
  split_ifs <;> exact split_field_copy_alike alike order related _ _ _

theorem best_pic_alike (order : SameOrder pairs oneOrder otherOrder) (limit : Int) (below : Bool)
    {oneSrc otherSrc : List Pic} (same : List.Forall₂ pairs oneSrc otherSrc)
    {oneBest otherBest : Int × Option Pic} (counts : oneBest.1 = otherBest.1)
    (pics : Option.Rel pairs oneBest.2 otherBest.2) :
    (oneSrc.foldl (bestPic oneOrder limit below) oneBest).1 =
        (otherSrc.foldl (bestPic otherOrder limit below) otherBest).1 ∧
      Option.Rel pairs (oneSrc.foldl (bestPic oneOrder limit below) oneBest).2
        (otherSrc.foldl (bestPic otherOrder limit below) otherBest).2 := by
  induction same generalizing oneBest otherBest with
  | nil => exact ⟨counts, pics⟩
  | @cons left right _ _ related _ later =>
    rw [foldl_cons, foldl_cons]
    unfold bestPic at later ⊢
    dsimp only at later ⊢
    rw [order.nPoc left right related, counts]
    by_cases better : (decide ((otherOrder right).nPoc > limit)).xor below ∧
        (decide ((otherOrder right).nPoc < otherBest.1)).xor below
    · rw [if_pos better, if_pos better]
      exact later rfl (.some related)
    · rw [if_neg better, if_neg better]
      exact later counts pics

theorem add_sorted_alike (order : SameOrder pairs oneOrder otherOrder) (below : Bool)
    (same : List.Forall₂ pairs oneSrc otherSrc) (rounds : Nat) (limit : Int) :
    List.Forall₂ pairs (addSortedFrom oneOrder oneSrc below rounds limit)
      (addSortedFrom otherOrder otherSrc below rounds limit) := by
  induction rounds generalizing limit with
  | zero => exact .nil
  | succ rounds later =>
    unfold addSortedFrom
    dsimp only
    have best := @best_pic_alike _ _ _ order limit below _ _ same
      ((if below then -2 ^ 30 else 2 ^ 30 : Int), none)
      ((if below then -2 ^ 30 else 2 ^ 30 : Int), none) rfl .none
    rcases rel_cases best.2 with absent | ⟨left, right, oneBest, otherBest, related⟩
    · rw [absent.1, absent.2]
      exact .nil
    · rw [oneBest, otherBest, best.1]
      dsimp only
      rw [order.nPoc left right related]
      split_ifs
      all_goals first | exact .nil | exact .cons related (later _)

theorem short_pics_alike (alike : Alike pairs one other) :
    Option.Rel (List.Forall₂ pairs) (shortPics one) (shortPics other) := by
  unfold shortPics
  rw [← alike.counts.shorts]
  have tables : ∀ i ∈ List.range one.nShortRefCount,
      Option.Rel pairs (one.pShortRef i) (other.pShortRef i) :=
    fun i member => alike.short i (mem_range.mp member)
  generalize List.range one.nShortRefCount = slots at tables ⊢
  induction slots with
  | nil => exact .some .nil
  | cons slot rest later =>
    rw [mapM_cons, mapM_cons]
    apply rel_bind (tables slot mem_cons_self)
    intro left right related
    apply rel_bind (later fun i member => tables i (mem_cons_of_mem slot member))
    intro oneRest otherRest both
    exact .some (.cons related both)

theorem structure_small (hCtx : H264Context) : hCtx.nPicStructure.bits < 4 := by
  cases hCtx.nPicStructure <;> decide

theorem long_entries_alike (alike : Alike pairs one other)
    (order : SameOrder pairs oneOrder otherOrder) :
    List.Forall₂ (SameEntry pairs) (longEntries one oneOrder) (longEntries other otherOrder) := by
  unfold longEntries
  rw [alike.counts.nPicStructure]
  apply build_def_list_alike alike order (structure_small other)
  intro i inside
  exact alike.long i (by unfold MAX_PICTURE_COUNT; omega)

theorem forall₂_entry {Left Right : Type} {related : Left → Right → Prop} {left : List Left}
    {right : List Right} (same : List.Forall₂ related left right) (i : Nat) :
    Option.Rel related left[i]? right[i]? := by
  induction same generalizing i with
  | nil => exact Option.Rel.none
  | cons head _ further =>
    cases i with
    | zero => exact Option.Rel.some head
    | succ i => exact further i

theorem default_list_of_b_alike (alike : Alike pairs one other)
    (order : SameOrder pairs oneOrder otherOrder)
    (same : List.Forall₂ pairs oneSrc otherSrc) (nCurPoc : Int) (second : Bool) :
    List.Forall₂ (SameEntry pairs) (defaultListOfB one oneOrder oneSrc nCurPoc second)
      (defaultListOfB other otherOrder otherSrc nCurPoc second) := by
  unfold defaultListOfB H264AddSorted
  rw [← same.length_eq, ← alike.counts.nPicStructure]
  have sorted := rel_append (add_sorted_alike order (!second) same oneSrc.length nCurPoc)
    (add_sorted_alike order second same oneSrc.length nCurPoc)
  dsimp only
  rw [← sorted.length_eq]
  apply rel_append
  · apply build_def_list_alike alike order (structure_small one)
    intro i _
    exact forall₂_entry sorted i
  · exact long_entries_alike alike order

/-- The entries of two lists name the same display buffers on both sides. -/
theorem same_buffers_alike (order : SameOrder pairs oneOrder otherOrder)
    (first : List.Forall₂ (SameEntry pairs) oneFirst otherFirst)
    (second : List.Forall₂ (SameEntry pairs) oneSecond otherSecond) :
    oneFirst.map (fun entry => (oneOrder entry.pic).nDispBufIndex) =
        oneSecond.map (fun entry => (oneOrder entry.pic).nDispBufIndex) ↔
      otherFirst.map (fun entry => (otherOrder entry.pic).nDispBufIndex) =
        otherSecond.map (fun entry => (otherOrder entry.pic).nDispBufIndex) := by
  induction first generalizing oneSecond otherSecond with
  | nil =>
    cases second with
    | nil | cons _ _ => simp
  | @cons left right _ _ entry _ later =>
    cases second with
    | nil => simp
    | @cons left' right' _ _ entry' rest =>
      rw [map_cons, map_cons, map_cons, map_cons, cons_eq_cons,
        cons_eq_cons, later rest, order.buffers _ _ _ _ entry.pic entry'.pic]

theorem swap_second_alike (order : SameOrder pairs oneOrder otherOrder)
    (first : List.Forall₂ (SameEntry pairs) oneFirst otherFirst)
    (second : List.Forall₂ (SameEntry pairs) oneSecond otherSecond) :
    List.Forall₂ (SameEntry pairs) (swapSecond oneOrder oneFirst oneSecond)
      (swapSecond otherOrder otherFirst otherSecond) := by
  have same := same_buffers_alike order first second
  cases second with
  | nil => exact .nil
  | cons entry rest =>
    cases rest with
    | nil => exact .cons entry .nil
    | cons next rest =>
      unfold swapSecond
      dsimp only
      rw [if_congr same rfl rfl]
      split_ifs
      · exact .cons next (.cons entry rest)
      · exact .cons entry (.cons next rest)

theorem fill_default_ref_list_alike (alike : Alike pairs one other)
    (order : SameOrder pairs oneOrder otherOrder) (isB : Bool) :
    Option.Rel (fun oneLists otherLists =>
        List.Forall₂ (SameEntry pairs) oneLists.1 otherLists.1 ∧
          List.Forall₂ (SameEntry pairs) oneLists.2 otherLists.2)
      (H264FillDefaultRefList one oneOrder isB) (H264FillDefaultRefList other otherOrder isB) := by
  unfold H264FillDefaultRefList
  cases isB with
  | true =>
    rw [if_pos rfl, if_pos rfl]
    apply rel_bind alike.cur
    intro left right related
    apply rel_map (short_pics_alike alike)
    intro oneSrc otherSrc same
    have count : curPoc one oneOrder left = curPoc other otherOrder right := by
      unfold curPoc
      rw [alike.counts.nPicStructure, order.nPoc _ _ related, order.nFieldPoc0 _ _ related,
        order.nFieldPoc1 _ _ related]
    dsimp only
    rw [count]
    have first := default_list_of_b_alike alike order same (curPoc other otherOrder right) false
    have second := default_list_of_b_alike alike order same (curPoc other otherOrder right) true
    exact ⟨first, swap_second_alike order first second⟩
  | false =>
    rw [if_neg (by decide), if_neg (by decide)]
    apply Option.Rel.some
    apply And.intro
    · rw [← alike.counts.shorts, ← alike.counts.nPicStructure]
      apply rel_append
      · exact build_def_list_alike alike order (structure_small one) alike.short false
      · exact long_entries_alike alike order
    · exact .nil

end CedarC.H264DefaultRefLists
