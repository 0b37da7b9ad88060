import CedarC.H264DefaultRefLists
import CedarC.ListAlternation

/-!
# Default reference lists and the clauses for them

What `H264BuildDefList` makes of a list of frames is their fields of both
parities in turn (8.2.4.2.5), and what `H264AddSorted` makes of the short-term
pictures is their order by picture order count on one side of the current one
(8.2.4.2.3). With both, the default lists of a B slice.
-/

namespace CedarC.H264DefaultRefLists

open H264RefMarking ListAlternation List

section Turns

variable {own opposite : Nat → Bool} {nLen : Nat}

theorem next_marked_from (marked : Nat → Bool) (left i : Nat) :
    (nextMarked marked left i < i + left → markedFrom marked (i + left) i =
        nextMarked marked left i :: markedFrom marked (i + left) (nextMarked marked left i + 1)) ∧
    (i + left ≤ nextMarked marked left i → markedFrom marked (i + left) i = []) := by
  induction left generalizing i with
  | zero =>
    constructor
    · intro inside
      exact absurd inside (Nat.lt_irrefl i)
    · intro _
      exact marked_from_end marked (Nat.le_refl i)
  | succ left ih =>
    have inside : i < i + (left + 1) := by omega
    rw [marked_from_step marked inside]
    unfold nextMarked
    by_cases isMarked : marked i = true
    · rw [if_pos isMarked, if_pos isMarked]
      constructor
      · intro _
        rfl
      · intro ended
        omega
    · rw [if_neg isMarked, if_neg isMarked]
      have same : i + (left + 1) = i + 1 + left := by omega
      rw [same]
      exact ih (i + 1)

theorem next_marked_cases (marked : Nat → Bool) {i : Nat} (nLen : Nat) :
    (nextMarked marked (nLen - i) i < nLen ∧ markedFrom marked nLen i =
        nextMarked marked (nLen - i) i ::
          markedFrom marked nLen (nextMarked marked (nLen - i) i + 1)) ∨
    (nLen ≤ nextMarked marked (nLen - i) i ∧ markedFrom marked nLen i = [] ∧
      markedFrom marked nLen (nextMarked marked (nLen - i) i + 1) = []) := by
  by_cases inside : i < nLen
  · have bound : i + (nLen - i) = nLen := by omega
    have spec := next_marked_from marked (nLen - i) i
    rw [bound] at spec
    by_cases found : nextMarked marked (nLen - i) i < nLen
    · exact .inl ⟨found, spec.1 found⟩
    · have ended : nLen ≤ nextMarked marked (nLen - i) i := by omega
      exact .inr ⟨ended, spec.2 ended, marked_from_end marked (by omega)⟩
  · have ended : nLen ≤ i := by omega
    have behind := next_marked_le marked (nLen - i) i
    exact .inr ⟨by omega, marked_from_end marked ended, marked_from_end marked (by omega)⟩

/-- The rounds of the loop end with all the fields of both parities in turn. -/
theorem turns_alternate {rounds i j : Nat} (enough : nLen ≤ i + rounds ∧ nLen ≤ j + rounds) :
    turns own opposite nLen rounds i j =
      alternate ((markedFrom own nLen i).map fun slot => (slot, true))
        ((markedFrom opposite nLen j).map fun slot => (slot, false)) := by
  induction rounds generalizing i j with
  | zero =>
    rw [marked_from_end own (by omega), marked_from_end opposite (by omega)]
    rfl
  | succ rounds ih =>
    unfold turns
    by_cases more : i < nLen ∨ j < nLen
    · rw [if_pos more]
      dsimp only
      have left := next_marked_le own (nLen - i) i
      have right := next_marked_le opposite (nLen - j) j
      rw [ih (by omega)]
      rcases @next_marked_cases own i nLen with ⟨ownIn, ownSlots⟩ | ⟨ownOut, ownNone, ownEnd⟩
      · rcases @next_marked_cases opposite j nLen with
          ⟨oppIn, oppSlots⟩ | ⟨oppOut, oppNone, oppEnd⟩
        · rw [if_pos ownIn, if_pos oppIn, ownSlots, oppSlots]
          rfl
        · rw [if_pos ownIn, if_neg (by omega), ownSlots, oppNone, oppEnd]
          simp
      · rcases @next_marked_cases opposite j nLen with
          ⟨oppIn, oppSlots⟩ | ⟨oppOut, oppNone, oppEnd⟩
        · rw [if_neg (by omega), if_pos oppIn, ownNone, ownEnd, oppSlots]
          simp
        · rw [if_neg (by omega), if_neg (by omega), ownNone, ownEnd, oppNone, oppEnd]
          simp
    · rw [if_neg more, marked_from_end own (by omega), marked_from_end opposite (by omega)]
      rfl

end Turns

section Fields

inductive Parity
  | PICT_TOP_FIELD
  | PICT_BOTTOM_FIELD
deriving DecidableEq

def Parity.bits : Parity → Nat
  | .PICT_TOP_FIELD => PicStructure.PICT_TOP_FIELD.bits
  | .PICT_BOTTOM_FIELD => PicStructure.PICT_BOTTOM_FIELD.bits

def Parity.opposite : Parity → Parity
  | .PICT_TOP_FIELD => .PICT_BOTTOM_FIELD
  | .PICT_BOTTOM_FIELD => .PICT_TOP_FIELD

theorem opposite_bits (parity : Parity) : parity.bits ^^^ 3 = parity.opposite.bits := by
  cases parity <;> rfl

theorem bits_not_frame (parity : Parity) : parity.bits ≠ PicStructure.PICT_FRAME.bits := by
  cases parity <;> decide

variable (hCtx : H264Context) (order : Pic → PicOrder) (table : Nat → Option Pic) (nLen : Nat)
  (parity : Parity) (bIsLong : Bool)

def referenceFields (parity : Parity) : List Nat :=
  markedFrom (markedSlot hCtx table nLen parity.bits) nLen 0

/-- The fields in turn, beginning with the parity of the current one; a turn is a
frame of the list and whether the parity is that of the current field. -/
def fieldTurns : List (Nat × Bool) :=
  alternate ((referenceFields hCtx table nLen parity).map fun slot => (slot, true))
    ((referenceFields hCtx table nLen parity.opposite).map fun slot => (slot, false))

def turnParity (own : Bool) : Parity := if own then parity else parity.opposite

/-- The entry of a list for a field: picture numbers of fields with the parity of
the current one are odd. -/
def FieldEntry (turn : Nat × Bool) (entry : RefEntry) : Prop :=
  ∃ pic, table turn.1 = some pic ∧ entry =
      { pic := pic
        nPicStructure := (turnParity parity turn.2).bits
        nReference := (turnParity parity turn.2).bits
        nPicId := 2 * (if bIsLong then (turn.1 : Int) else (hCtx.picture pic).nFrmNum) +
          if turn.2 then 1 else 0 }

variable {hCtx table nLen parity}

theorem marked_slot_iff (slot sel : Nat) : markedSlot hCtx table nLen sel slot = true ↔
    slot < nLen ∧ ∃ pic, table slot = some pic ∧ (hCtx.picture pic).nReference &&& sel ≠ 0 := by
  unfold markedSlot
  rw [Bool.and_eq_true, decide_eq_true_iff, Option.any_eq_true]
  simp only [decide_eq_true_iff]

theorem mem_reference_fields (slot : Nat) : slot ∈ referenceFields hCtx table nLen parity ↔
    slot < nLen ∧ ∃ pic, table slot = some pic ∧
      (hCtx.picture pic).nReference &&& parity.bits ≠ 0 := by
  unfold referenceFields
  rw [mem_marked_from, marked_slot_iff]
  constructor
  · rintro ⟨-, -, found⟩
    exact found
  · rintro ⟨inside, found⟩
    exact ⟨Nat.zero_le slot, inside, inside, found⟩

theorem mem_field_turns (slot : Nat) (own : Bool) :
    (slot, own) ∈ fieldTurns hCtx table nLen parity ↔
      slot ∈ referenceFields hCtx table nLen (turnParity parity own) := by
  unfold fieldTurns
  rw [(alternate_perm _ _).mem_iff, mem_append, mem_map, mem_map]
  cases own with
  | true =>
    constructor
    · rintro (⟨other, member, same⟩ | ⟨other, member, same⟩)
      · obtain ⟨rfl, -⟩ := Prod.mk.inj same
        exact member
      · cases (Prod.mk.inj same).2
    · intro member
      exact .inl ⟨slot, member, rfl⟩
  | false =>
    constructor
    · rintro (⟨other, member, same⟩ | ⟨other, member, same⟩)
      · cases (Prod.mk.inj same).2
      · obtain ⟨rfl, -⟩ := Prod.mk.inj same
        exact member
    · intro member
      exact .inr ⟨slot, member, rfl⟩

theorem field_turns_nodup : (fieldTurns hCtx table nLen parity).Nodup := by
  unfold fieldTurns
  rw [(alternate_perm _ _).nodup_iff, nodup_append]
  have pairs (own : Bool) : Function.Injective fun slot : Nat => (slot, own) :=
    fun one other same => (Prod.mk.inj same).1
  refine ⟨(marked_from_nodup _ _ _).map (pairs true), (marked_from_nodup _ _ _).map (pairs false),
    ?_⟩
  intro one isOwn other isOpposite same
  obtain ⟨slot, -, rfl⟩ := mem_map.mp isOwn
  obtain ⟨slot', -, rfl⟩ := mem_map.mp isOpposite
  cases (Prod.mk.inj same).2

theorem field_turns_length : (fieldTurns hCtx table nLen parity).length =
    (referenceFields hCtx table nLen parity).length +
      (referenceFields hCtx table nLen parity.opposite).length := by
  unfold fieldTurns
  rw [(alternate_perm _ _).length_eq, length_append, length_map, length_map]

theorem filter_map_entries {Turn Entry : Type} {make : Turn → Option Entry}
    {made : Turn → Entry → Prop} (turns : List Turn)
    (each : ∀ turn ∈ turns, ∃ entry, make turn = some entry ∧ made turn entry) :
    List.Forall₂ made turns (turns.filterMap make) := by
  induction turns with
  | nil => exact .nil
  | cons turn turns ih =>
    obtain ⟨entry, isMade, fits⟩ := each turn mem_cons_self
    rw [filterMap_cons_some isMade]
    exact .cons fits (ih fun later member => each later (mem_cons_of_mem _ member))

theorem split_field_copy_field (pic : Pic) (nPicId : Int) (idAdd : Int) :
    H264SplitFieldCopy hCtx order pic nPicId parity.bits idAdd =
      ⟨pic, parity.bits, parity.bits, 2 * nPicId + idAdd⟩ := by
  unfold H264SplitFieldCopy
  rw [if_pos (bits_not_frame parity), Int.mul_comm]
  cases parity <;> rfl

theorem build_def_list_fields :
    List.Forall₂ (FieldEntry hCtx table parity bIsLong) (fieldTurns hCtx table nLen parity)
      (H264BuildDefList hCtx order table nLen bIsLong parity.bits) := by
  unfold H264BuildDefList
  rw [turns_alternate (by omega), opposite_bits]
  apply filter_map_entries
  rintro ⟨slot, own⟩ member
  rw [mem_field_turns, mem_reference_fields] at member
  obtain ⟨-, pic, found, -⟩ := member
  refine ⟨_, congrArg (Option.map _) found, pic, found, ?_⟩
  unfold turnParity
  cases own with
  | true =>
    dsimp only
    rw [if_pos rfl, if_pos rfl, if_pos rfl, split_field_copy_field]
  | false =>
    dsimp only
    rw [if_neg Bool.false_ne_true, if_neg Bool.false_ne_true, if_neg Bool.false_ne_true,
      split_field_copy_field]

/-- The list is the alternation of the clause and no longer than its place exactly
when there are no more reference fields than that. -/
theorem build_def_list_clause_iff (hCtx : H264Context) (order : Pic → PicOrder)
    (table : Nat → Option Pic) (nLen : Nat) (bIsLong : Bool) (parity : Parity) (capacity : Nat) :
    (List.Forall₂ (FieldEntry hCtx table parity bIsLong) (fieldTurns hCtx table nLen parity)
        (H264BuildDefList hCtx order table nLen bIsLong parity.bits) ∧
      (fieldTurns hCtx table nLen parity).Nodup ∧
      (∀ slot own, (slot, own) ∈ fieldTurns hCtx table nLen parity ↔
        slot < nLen ∧ ∃ pic, table slot = some pic ∧
          (hCtx.picture pic).nReference &&& (turnParity parity own).bits ≠ 0) ∧
      (H264BuildDefList hCtx order table nLen bIsLong parity.bits).length ≤ capacity) ↔
    (referenceFields hCtx table nLen parity).length +
      (referenceFields hCtx table nLen parity.opposite).length ≤ capacity := by
  have entries := @build_def_list_fields hCtx order table nLen parity bIsLong
  have count := entries.length_eq
  rw [field_turns_length] at count
  rw [← count]
  constructor
  · rintro ⟨-, -, -, fits⟩
    exact fits
  · intro fits
    refine ⟨entries, field_turns_nodup, ?_, fits⟩
    intro slot own
    rw [mem_field_turns, mem_reference_fields]

/-- A list of seventeen frames, all of whose fields are references, has more
entries than `defaultRefList`. -/
theorem seventeen_frames_overflow :
    ∃ (hCtx : H264Context) (order : Pic → PicOrder) (table : Nat → Option Pic), MAX_PICTURE_COUNT <
        (H264BuildDefList hCtx order table 17 false Parity.PICT_TOP_FIELD.bits).length := by
  refine ⟨{ H264Context.init with picture := fun _ => ⟨0, false, 3, true, false, true⟩ },
    fun pic => ⟨0, 0, 0, 3, pic⟩, fun slot => some (Fin.ofNat 32 slot), ?_⟩
  decide

end Fields

section Selection

variable (order : Pic → PicOrder) (below : Bool)

/-- The count, turned round where the search goes downwards. -/
def turned (poc : Int) : Int := if below then -poc else poc

def Beyond (limit : Int) (pic : Pic) : Prop :=
  if below then (order pic).nPoc ≤ limit else limit < (order pic).nPoc

/-- The counts are within the sentinels of the search. -/
def InRange (src : List Pic) : Prop :=
  ∀ pic ∈ src, -2 ^ 30 < (order pic).nPoc ∧ (order pic).nPoc < 2 ^ 30

/-- What the search knows of the pictures that it has seen. -/
def BestOf (limit : Int) (seen : List Pic) (best : Int × Option Pic) : Prop :=
  (best = ((if below then -2 ^ 30 else 2 ^ 30), none) ∧
      ∀ pic ∈ seen, ¬ Beyond order below limit pic) ∨
    ∃ pic ∈ seen, best = ((order pic).nPoc, some pic) ∧ Beyond order below limit pic ∧
      ∀ other ∈ seen, Beyond order below limit other →
        turned below (order pic).nPoc ≤ turned below (order other).nPoc

variable {order below} {limit : Int} {src : List Pic} {pic : Pic} {best : Int}

theorem better_beyond (better : (decide ((order pic).nPoc > limit)).xor below = true ∧
      (decide ((order pic).nPoc < best)).xor below = true) :
    Beyond order below limit pic ∧ turned below (order pic).nPoc ≤ turned below best := by
  unfold Beyond turned
  cases below with
  | true =>
    simp only [Bool.xor_true, Bool.not_eq_true', decide_eq_false_iff_not, if_true] at better ⊢
    omega
  | false =>
    simp only [Bool.xor_false, decide_eq_true_iff, Bool.false_eq_true, if_false] at better ⊢
    omega

theorem not_better_beyond (other : ¬ ((decide ((order pic).nPoc > limit)).xor below = true ∧
      (decide ((order pic).nPoc < best)).xor below = true))
    (beyond : Beyond order below limit pic) :
    turned below best ≤ turned below (order pic).nPoc := by
  unfold Beyond at beyond
  unfold turned
  cases below with
  | true =>
    simp only [Bool.xor_true, Bool.not_eq_true', decide_eq_false_iff_not, if_true]
      at other beyond ⊢
    omega
  | false =>
    simp only [Bool.xor_false, decide_eq_true_iff, Bool.false_eq_true, if_false]
      at other beyond ⊢
    omega

theorem sentinel_worst {poc : Int} (low : -2 ^ 30 < poc) (high : poc < 2 ^ 30) :
    turned below poc < turned below (if below then -2 ^ 30 else 2 ^ 30) := by
  unfold turned
  cases below with
  | true =>
    simp only [if_true]
    omega
  | false =>
    simp only [Bool.false_eq_true, if_false]
    omega

theorem best_pic_of {seen : List Pic} {best : Int × Option Pic}
    (known : BestOf order below limit seen best)
    (low : -2 ^ 30 < (order pic).nPoc) (high : (order pic).nPoc < 2 ^ 30) :
    BestOf order below limit (seen ++ [pic]) (bestPic order limit below best pic) := by
  unfold bestPic
  dsimp only
  split
  · rename_i better
    obtain ⟨beyond, least⟩ := better_beyond better
    apply Or.inr
    refine ⟨pic, by simp, rfl, beyond, ?_⟩
    intro other member otherBeyond
    rcases mem_append.mp member with before | last
    · rcases known with ⟨-, nobody⟩ | ⟨chosen, -, isBest, -, chosenLeast⟩
      · exact absurd otherBeyond (nobody other before)
      · have next := chosenLeast other before otherBeyond
        rw [isBest] at least
        exact le_trans least next
    · rw [mem_singleton.mp last]
  · rename_i worse
    rcases known with ⟨isBest, nobody⟩ | ⟨chosen, member, isBest, beyond, least⟩
    · apply Or.inl
      refine ⟨isBest, ?_⟩
      intro other member
      rcases mem_append.mp member with before | last
      · exact nobody other before
      · rw [mem_singleton.mp last]
        intro beyond
        have bound := not_better_beyond worse beyond
        rw [isBest] at bound
        exact absurd (sentinel_worst low high) (not_lt.mpr bound)
    · apply Or.inr
      refine ⟨chosen, mem_append_left _ member, isBest, beyond, ?_⟩
      intro other isSeen otherBeyond
      rcases mem_append.mp isSeen with before | last
      · exact least other before otherBeyond
      · rw [mem_singleton.mp last] at otherBeyond ⊢
        have bound := not_better_beyond worse otherBeyond
        rwa [isBest] at bound

theorem search_best (inRange : InRange order src) : BestOf order below limit src
      (src.foldl (bestPic order limit below) ((if below then -2 ^ 30 else 2 ^ 30), none)) := by
  induction src using List.reverseRecOn with
  | nil => exact .inl ⟨rfl, fun pic member => by cases member⟩
  | append_singleton seen pic ih =>
    rw [foldl_append]
    have earlier : InRange order seen :=
      fun other member => inRange other (mem_append_left _ member)
    obtain ⟨low, high⟩ := inRange pic (by simp)
    exact best_pic_of (ih earlier) low high

structure SortedBeyond (order : Pic → PicOrder) (below : Bool) (limit : Int)
    (src sorted : List Pic) : Prop where
  ordered : sorted.Pairwise fun one other =>
    turned below (order one).nPoc < turned below (order other).nPoc
  members : ∀ pic, pic ∈ sorted ↔ pic ∈ src ∧ Beyond order below limit pic

theorem beyond_next (chosen : Pic) :
    Beyond order below ((order chosen).nPoc - if below then 1 else 0) pic ↔
      turned below (order chosen).nPoc < turned below (order pic).nPoc := by
  unfold Beyond turned
  cases below with
  | true =>
    simp only [if_true]
    omega
  | false =>
    simp only [Bool.false_eq_true, if_false]
    omega

theorem beyond_trans {chosen : Pic} (beyond : Beyond order below limit chosen)
    (later : turned below (order chosen).nPoc < turned below (order pic).nPoc) :
    Beyond order below limit pic := by
  unfold Beyond turned at *
  cases below with
  | true =>
    simp only [if_true] at *
    omega
  | false =>
    simp only [Bool.false_eq_true, if_false] at *
    omega

theorem add_sorted_from_sorted (inRange : InRange order src)
    (distinct : ∀ one ∈ src, ∀ other ∈ src, (order one).nPoc = (order other).nPoc → one = other)
    (left : List Pic) (leftover : ∀ pic ∈ src, Beyond order below limit pic → pic ∈ left)
    (rounds : Nat) (enough : left.length ≤ rounds) :
    SortedBeyond order below limit src (addSortedFrom order src below rounds limit) := by
  induction rounds generalizing limit left with
  | zero =>
    have nothing : left = [] := length_eq_zero_iff.mp (Nat.le_zero.mp enough)
    subst nothing
    refine ⟨.nil, ?_⟩
    intro pic
    constructor
    · intro member
      cases member
    · rintro ⟨member, beyond⟩
      cases leftover pic member beyond
  | succ rounds ih =>
    unfold addSortedFrom
    dsimp only
    rcases @search_best order below limit src inRange with
      ⟨isBest, nobody⟩ | ⟨chosen, member, isBest, beyond, least⟩
    · rw [isBest]
      refine ⟨.nil, ?_⟩
      intro pic
      constructor
      · intro member
        cases member
      · rintro ⟨member, beyond⟩
        exact absurd beyond (nobody pic member)
    · rw [isBest]
      dsimp only
      obtain ⟨low, high⟩ := inRange chosen member
      have real : (order chosen).nPoc ≠ (if below then -2 ^ 30 else 2 ^ 30 : Int) := by
        intro same
        have worst := @sentinel_worst below _ low high
        rw [same] at worst
        exact lt_irrefl _ worst
      rw [if_neg real]
      have isLeft := leftover chosen member beyond
      have rest : SortedBeyond order below ((order chosen).nPoc - if below then 1 else 0) src
          (addSortedFrom order src below rounds
            ((order chosen).nPoc - if below then 1 else 0)) := by
        apply ih (left.erase chosen)
        · intro pic isSrc isNext
          have later := (beyond_next chosen).mp isNext
          have other : pic ≠ chosen := by
            rintro rfl
            exact lt_irrefl _ later
          exact (mem_erase_of_ne other).mpr
            (leftover pic isSrc (beyond_trans beyond later))
        · rw [length_erase_of_mem isLeft]
          omega
      refine ⟨pairwise_cons.mpr ⟨?_, rest.ordered⟩, ?_⟩
      · intro pic isLater
        exact (beyond_next chosen).mp ((rest.members pic).mp isLater).2
      · intro pic
        rw [mem_cons, rest.members pic, beyond_next]
        constructor
        · rintro (rfl | ⟨isSrc, later⟩)
          · exact ⟨member, beyond⟩
          · exact ⟨isSrc, beyond_trans beyond later⟩
        · rintro ⟨isSrc, isBeyond⟩
          rcases lt_or_eq_of_le (least pic isSrc isBeyond) with later | same
          · exact .inr ⟨isSrc, later⟩
          · apply Or.inl
            apply distinct pic isSrc chosen member
            unfold turned at same
            cases below with
            | true => simpa using same.symm
            | false => exact same.symm

theorem add_sorted_sorted (inRange : InRange order src)
    (distinct : ∀ one ∈ src, ∀ other ∈ src, (order one).nPoc = (order other).nPoc → one = other)
    (below : Bool) (limit : Int) :
    SortedBeyond order below limit src (H264AddSorted order src limit below) :=
  add_sorted_from_sorted inRange distinct src (fun _ member _ => member) src.length
    (Nat.le_refl _)

end Selection

variable (hCtx : H264Context) (order : Pic → PicOrder)

/-- The short-term order of the clause: down from the current count, then up. -/
structure BOrder (order : Pic → PicOrder) (src : List Pic) (nCurPoc : Int)
    (below above : List Pic) : Prop where
  falling : below.Pairwise fun one other => (order other).nPoc < (order one).nPoc
  rising : above.Pairwise fun one other => (order one).nPoc < (order other).nPoc
  notAbove : below.Perm (src.filter fun pic => (order pic).nPoc ≤ nCurPoc)
  strictlyAbove : above.Perm (src.filter fun pic => nCurPoc < (order pic).nPoc)

def isReference (pic : Pic) : Bool := decide ((hCtx.picture pic).nReference &&& 3 ≠ 0)

def frameEntry (nPicId : Int) (pic : Pic) : RefEntry :=
  ⟨pic, (order pic).nPicStructure, (hCtx.picture pic).nReference, nPicId⟩

/-- The short-term part of a list: the references among the frames in their order,
for a field their fields in turn. -/
def ShortPart (pics : List Pic) (entries : List RefEntry) : Prop :=
  match hCtx.nPicStructure with
  | .PICT_FRAME =>
    entries = (pics.filter (isReference hCtx)).map fun pic =>
      frameEntry hCtx order (hCtx.picture pic).nFrmNum pic
  | .PICT_TOP_FIELD =>
    List.Forall₂ (FieldEntry hCtx (fun i => pics[i]?) .PICT_TOP_FIELD false)
      (fieldTurns hCtx (fun i => pics[i]?) pics.length .PICT_TOP_FIELD) entries
  | .PICT_BOTTOM_FIELD =>
    List.Forall₂ (FieldEntry hCtx (fun i => pics[i]?) .PICT_BOTTOM_FIELD false)
      (fieldTurns hCtx (fun i => pics[i]?) pics.length .PICT_BOTTOM_FIELD) entries

/-- The long-term part, by increasing `LongTermFrameIdx`. -/
def LongPart (entries : List RefEntry) : Prop :=
  match hCtx.nPicStructure with
  | .PICT_FRAME =>
    entries = (List.range 16).filterMap fun i =>
      ((hCtx.pLongRef i).filter (isReference hCtx)).map (frameEntry hCtx order i)
  | .PICT_TOP_FIELD =>
    List.Forall₂ (FieldEntry hCtx hCtx.pLongRef .PICT_TOP_FIELD true)
      (fieldTurns hCtx hCtx.pLongRef 16 .PICT_TOP_FIELD) entries
  | .PICT_BOTTOM_FIELD =>
    List.Forall₂ (FieldEntry hCtx hCtx.pLongRef .PICT_BOTTOM_FIELD true)
      (fieldTurns hCtx hCtx.pLongRef 16 .PICT_BOTTOM_FIELD) entries

def swapIdentical (first second : List RefEntry) : List RefEntry :=
  match second with
  | one :: other :: rest => if first = second then other :: one :: rest else second
  | _ => second

variable {hCtx order}

theorem frame_turns (table : Nat → Option Pic) (nLen : Nat) :
    turns (markedSlot hCtx table nLen PicStructure.PICT_FRAME.bits)
      (markedSlot hCtx table nLen (PicStructure.PICT_FRAME.bits ^^^ 3)) nLen nLen 0 0 =
    (markedFrom (markedSlot hCtx table nLen 3) nLen 0).map fun slot => (slot, true) := by
  have none_marked : markedFrom (markedSlot hCtx table nLen (PicStructure.PICT_FRAME.bits ^^^ 3))
      nLen 0 = [] := by
    apply eq_nil_iff_forall_not_mem.mpr
    intro slot member
    rw [mem_marked_from, marked_slot_iff] at member
    obtain ⟨-, -, -, pic, -, marks⟩ := member
    exact marks (Nat.and_zero _)
  rw [turns_alternate (by omega), none_marked]
  exact alternate_nil_right _

theorem split_field_copy_frame (pic : Pic) (nPicId : Int) (idAdd : Int) :
    H264SplitFieldCopy hCtx order pic nPicId PicStructure.PICT_FRAME.bits idAdd =
      frameEntry hCtx order nPicId pic :=
  if_neg fun other => other rfl

theorem build_def_list_frame (table : Nat → Option Pic) (nLen : Nat) (bIsLong : Bool) :
    H264BuildDefList hCtx order table nLen bIsLong PicStructure.PICT_FRAME.bits =
      (List.range nLen).filterMap fun slot =>
        ((table slot).filter (isReference hCtx)).map fun pic =>
          frameEntry hCtx order (if bIsLong then (slot : Int) else (hCtx.picture pic).nFrmNum) pic
    := by
  unfold H264BuildDefList
  rw [frame_turns, filterMap_map]
  unfold markedFrom
  rw [← range_eq_range', filterMap_filter]
  apply filterMap_congr
  intro slot member
  have inside : slot < nLen := mem_range.mp member
  simp only [Function.comp_apply, markedSlot, inside, decide_true, Bool.true_and, if_true,
    split_field_copy_frame]
  cases table slot with
  | none => rfl
  | some pic =>
    by_cases marked : isReference hCtx pic = true
    · have test : (some pic).any
          (fun pic => decide ((hCtx.picture pic).nReference &&& 3 ≠ 0)) = true := marked
      rw [if_pos test, Option.filter_some_pos marked]
    · have test : ¬ (some pic).any
          (fun pic => decide ((hCtx.picture pic).nReference &&& 3 ≠ 0)) = true := marked
      rw [if_neg test, Option.filter_some_neg (by simpa using marked)]
      rfl

theorem filter_map_indices {Item Entry : Type} (items : List Item) (make : Item → Option Entry) :
    ((List.range items.length).filterMap fun i => (items[i]?).bind make) =
      items.filterMap make := by
  induction items with
  | nil => rfl
  | cons item items ih =>
    rw [length_cons, range_succ_eq_map, filterMap_cons, filterMap_map]
    rw [filterMap_cons]
    have rest : ((List.range items.length).filterMap
        ((fun i => ((item :: items)[i]?).bind make) ∘ Nat.succ)) = items.filterMap make := ih
    rw [rest]
    rfl

theorem short_part_frame (isFrame : hCtx.nPicStructure = .PICT_FRAME) (pics : List Pic) :
    ShortPart hCtx order pics
      (H264BuildDefList hCtx order (fun i => pics[i]?) pics.length false
        hCtx.nPicStructure.bits) := by
  unfold ShortPart
  rw [isFrame]
  dsimp only
  rw [build_def_list_frame]
  simp only [Bool.false_eq_true, if_false]
  let make (pic : Pic) : Option RefEntry :=
    if isReference hCtx pic then some (frameEntry hCtx order (hCtx.picture pic).nFrmNum pic)
    else none
  have each : (fun slot => ((pics[slot]?).filter (isReference hCtx)).map fun pic =>
      frameEntry hCtx order (hCtx.picture pic).nFrmNum pic) =
      fun i : Nat => (pics[i]?).bind make := by
    funext slot
    cases pics[slot]? with
    | none => rfl
    | some pic =>
      rw [Option.filter_some, Option.bind_some]
      by_cases marked : isReference hCtx pic = true
      · simp [make, marked]
      · simp [make, marked]
  rw [each, filter_map_indices, ← filterMap_eq_filter, map_filterMap]
  apply filterMap_congr
  intro pic _
  by_cases marked : isReference hCtx pic = true
  all_goals simp [make, marked, Option.guard]

theorem short_part_built (pics : List Pic) : ShortPart hCtx order pics
      (H264BuildDefList hCtx order (fun i => pics[i]?) pics.length false
        hCtx.nPicStructure.bits) := by
  cases structure_ : hCtx.nPicStructure with
  | PICT_FRAME =>
    rw [← structure_]
    exact short_part_frame structure_ pics
  | PICT_TOP_FIELD =>
    unfold ShortPart
    rw [structure_]
    exact @build_def_list_fields hCtx order _ _ .PICT_TOP_FIELD false
  | PICT_BOTTOM_FIELD =>
    unfold ShortPart
    rw [structure_]
    exact @build_def_list_fields hCtx order _ _ .PICT_BOTTOM_FIELD false

theorem long_part_built : LongPart hCtx order (longEntries hCtx order) := by
  unfold LongPart longEntries
  cases hCtx.nPicStructure with
  | PICT_FRAME =>
    dsimp only
    rw [build_def_list_frame]
    simp
  | PICT_TOP_FIELD => exact @build_def_list_fields hCtx order _ _ .PICT_TOP_FIELD true
  | PICT_BOTTOM_FIELD => exact @build_def_list_fields hCtx order _ _ .PICT_BOTTOM_FIELD true

theorem b_order_sorted {src : List Pic} (nCurPoc : Int)
    (distinct : (src.map fun pic => (order pic).nPoc).Nodup) (inRange : InRange order src) :
    BOrder order src nCurPoc (H264AddSorted order src nCurPoc true)
      (H264AddSorted order src nCurPoc false) := by
  have same : ∀ one ∈ src, ∀ other ∈ src, (order one).nPoc = (order other).nPoc → one = other := by
    intro one isOne other isOther equal
    exact inj_on_of_nodup_map distinct isOne isOther equal
  have nodup : src.Nodup := distinct.of_map
  have down := add_sorted_sorted inRange same true nCurPoc
  have up := add_sorted_sorted inRange same false nCurPoc
  refine ⟨?_, up.ordered, ?_, ?_⟩
  · apply down.ordered.imp
    intro one other before
    unfold turned at before
    simpa using before
  · apply (perm_ext_iff_of_nodup ?_ (nodup.filter _)).mpr
    · intro pic
      rw [down.members pic, mem_filter, decide_eq_true_iff]
      rfl
    · apply down.ordered.imp
      rintro one other before rfl
      exact lt_irrefl _ before
  · apply (perm_ext_iff_of_nodup ?_ (nodup.filter _)).mpr
    · intro pic
      rw [up.members pic, mem_filter, decide_eq_true_iff]
      rfl
    · apply up.ordered.imp
      rintro one other before rfl
      exact lt_irrefl _ before

theorem reference_fields_count (pics : List Pic) (parity : Parity) :
    (referenceFields hCtx (fun i => pics[i]?) pics.length parity).length =
      pics.countP fun pic => decide ((hCtx.picture pic).nReference &&& parity.bits ≠ 0) := by
  let make (pic : Pic) : Option Pic :=
    if (hCtx.picture pic).nReference &&& parity.bits ≠ 0 then some pic else none
  have same := congrArg List.length (filter_map_indices pics make)
  rw [length_filterMap_eq_countP, length_filterMap_eq_countP] at same
  have made (pic : Pic) : (make pic).isSome =
      decide ((hCtx.picture pic).nReference &&& parity.bits ≠ 0) := by
    by_cases marked : (hCtx.picture pic).nReference &&& parity.bits ≠ 0
    · simp [make, marked]
    · simp [make, marked]
  simp only [made] at same
  rw [← same]
  unfold referenceFields markedFrom
  rw [Nat.sub_zero, ← range_eq_range', ← countP_eq_length_filter]
  apply countP_congr
  intro i member
  have inside := mem_range.mp member
  unfold markedSlot
  rw [List.getElem?_eq_getElem inside, Option.bind_some, made]
  simp [inside]

theorem field_turns_pattern (pics : List Pic) (parity : Parity) :
    (fieldTurns hCtx (fun i => pics[i]?) pics.length parity).map Prod.snd = alternate
        (List.replicate (pics.countP fun pic =>
          decide ((hCtx.picture pic).nReference &&& parity.bits ≠ 0)) true)
        (List.replicate (pics.countP fun pic =>
          decide ((hCtx.picture pic).nReference &&& parity.opposite.bits ≠ 0)) false) := by
  unfold fieldTurns
  rw [alternate_map, map_map, map_map, ← reference_fields_count, ← reference_fields_count]
  have constant (own : Bool) (slots : List Nat) :
      slots.map (Prod.snd ∘ fun slot => (slot, own)) = List.replicate slots.length own := by
    induction slots with
    | nil => rfl
    | cons slot slots ih =>
      rw [map_cons, ih]
      rfl
  rw [constant, constant]

variable {one other : List Pic} {first second : List RefEntry} {parity : Parity}

/-- An entry of the short-term part follows from its picture and its turn. -/
theorem field_entries_determined {table : Nat → Option Pic}
    {turns : List (Nat × Bool)} {entries : List RefEntry}
    (made : List.Forall₂ (FieldEntry hCtx table parity false) turns entries) :
    entries = List.zipWith
      (fun pic own => (⟨pic, (turnParity parity own).bits, (turnParity parity own).bits,
        2 * (hCtx.picture pic).nFrmNum + if own then 1 else 0⟩ : RefEntry))
      (entries.map RefEntry.pic) (turns.map Prod.snd) := by
  induction made with
  | nil => rfl
  | @cons turn entry turns entries first _ ih =>
    obtain ⟨pic, -, rfl⟩ := first
    rw [map_cons, map_cons, zipWith_cons_cons, ← ih]
    simp

theorem field_part_determined (perm : one.Perm other)
    (made : List.Forall₂ (FieldEntry hCtx (fun i => one[i]?) parity false)
      (fieldTurns hCtx (fun i => one[i]?) one.length parity) first)
    (madeOther : List.Forall₂ (FieldEntry hCtx (fun i => other[i]?) parity false)
      (fieldTurns hCtx (fun i => other[i]?) other.length parity) second)
    (pics : first.map RefEntry.pic = second.map RefEntry.pic) : first = second := by
  rw [field_entries_determined made, field_entries_determined madeOther, pics,
    field_turns_pattern, field_turns_pattern, perm.countP_eq, perm.countP_eq]

/-- Two orders of the same pictures whose parts name the same pictures give the
same part. -/
theorem short_part_determined (perm : one.Perm other) (made : ShortPart hCtx order one first)
    (madeOther : ShortPart hCtx order other second)
    (pics : first.map RefEntry.pic = second.map RefEntry.pic) : first = second := by
  unfold ShortPart at made madeOther
  cases structure_ : hCtx.nPicStructure with
  | PICT_FRAME =>
    rw [structure_] at made madeOther
    dsimp only at made madeOther
    have named (kept : List Pic) : (kept.map fun pic =>
        frameEntry hCtx order (hCtx.picture pic).nFrmNum pic).map RefEntry.pic = kept := by
      rw [map_map]
      exact map_id kept
    rw [made, madeOther, named, named] at pics
    rw [made, madeOther, pics]
  | PICT_TOP_FIELD | PICT_BOTTOM_FIELD =>
    rw [structure_] at made madeOther
    exact field_part_determined perm made madeOther pics

/-- The display buffers tell the pictures apart, so that lists with the same
buffers are identical. -/
theorem swap_second_identical {longs : List RefEntry}
    (buffers : ∀ pic, (order pic).nDispBufIndex = pic) (perm : one.Perm other)
    (made : ShortPart hCtx order one first) (madeOther : ShortPart hCtx order other second) :
    swapSecond order (first ++ longs) (second ++ longs) =
      swapIdentical (first ++ longs) (second ++ longs) := by
  have same : (first ++ longs).map (fun entry => (order entry.pic).nDispBufIndex) =
      (second ++ longs).map (fun entry => (order entry.pic).nDispBufIndex) ↔
        first ++ longs = second ++ longs := by
    constructor
    · intro equal
      simp only [buffers, map_append, append_cancel_right_eq] at equal
      rw [short_part_determined perm made madeOther ?_]
      have through (entries : List RefEntry) : entries.map (fun entry => (entry.pic : Nat)) =
          (entries.map RefEntry.pic).map Fin.val := by
        rw [map_map]
        rfl
      rw [through, through] at equal
      exact (map_injective_iff.mpr Fin.val_injective) equal
    · intro equal
      rw [equal]
  generalize second ++ longs = entries at same ⊢
  cases entries with
  | nil => rfl
  | cons entry rest =>
    cases rest with
    | nil => rfl
    | cons next rest =>
      unfold swapSecond swapIdentical
      dsimp only
      rw [if_congr same rfl rfl]

def slotOf (i : Nat) : Pic := Fin.ofNat 32 i

/-- The third picture is decoded, the first two are short-term references with
these marks. -/
def twoReferences (nPicStructure : PicStructure) (marks : Nat → Nat) : H264Context :=
  { H264Context.init with
    picture := fun pic => ⟨pic.val, false, marks pic, true, false, true⟩
    pShortRef := fun i => if i < 2 then some (slotOf i) else none
    nShortRefCount := 2
    pCurPicturePtr := some (slotOf 2)
    nPicStructure := nPicStructure }

def countsOf (poc : Nat → Int) (pic : Pic) : PicOrder := ⟨poc pic, poc pic, poc pic, 3, pic⟩

/-- One reference is shown before the current picture and one behind it. -/
def aroundCurrent : Pic → PicOrder := countsOf fun i => if i = 0 then 0 else if i = 1 then 8 else 4

end CedarC.H264DefaultRefLists
