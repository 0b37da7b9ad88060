import CedarC.H264MmcoSteps

/-!
# The sliding window of the H264 decoder

A reference picture without marking commands of its own: the commands that
`H264DecodeRefPicMarking` makes up for it and their execution. The short list is
kept most recent first, so the last entry is the one that has to go; the numbers
of its entries differ, so a number names one entry.
-/

namespace CedarC.H264SlidingWindow

open FixedWidth SlotTables H264RefMarking H264RefSets H264MmcoSteps List Option

section Numbers

variable {α : Type*} {number : α → Int} {list : List α}

theorem erase_at_is_filter (distinct : list.Pairwise (fun a b => number a ≠ number b)) {i : Nat}
    {entry : α} (here : list[i]? = some entry) :
    list.eraseIdx i = list.filter (fun other => decide (number other ≠ number entry)) := by
  induction list generalizing i with
  | nil => cases here
  | cons head tail further =>
    rcases pairwise_cons.mp distinct with ⟨apart, rest⟩
    cases i with
    | zero =>
      have same : head = entry := Option.some.inj here
      subst same
      rw [eraseIdx_cons_zero, filter_cons, if_neg (by simp)]
      symm
      apply filter_eq_self.mpr
      intro other listed
      exact decide_eq_true (Ne.symm (apart other listed))
    | succ i =>
      have behind : tail[i]? = some entry := here
      have stays := decide_eq_true (apart entry (mem_of_getElem? behind))
      rw [eraseIdx_cons_succ, filter_cons, if_pos stays, further rest behind]

end Numbers

variable {hCtx after : H264Context} {refs : RefSet Pic} {cur pic : Pic} {frameNum : Int}

section Entries

def others (hCtx : H264Context) (frameNum : Int) (list : List Pic) : List Pic :=
  list.filter (fun pic => decide ((hCtx.picture pic).nFrmNum ≠ frameNum))

def Distinct (hCtx : H264Context) (list : List Pic) : Prop :=
  list.Pairwise fun earlier later =>
    (hCtx.picture earlier).nFrmNum ≠ (hCtx.picture later).nFrmNum

def without (hCtx : H264Context) (refs : RefSet Pic) (frameNum : Int) : RefSet Pic where
  short := others hCtx frameNum refs.short
  long := refs.long
  nodup := refs.nodup.filter _
  injective := refs.injective
  apart := fun i pic held listed => refs.apart i pic held (mem_of_mem_filter listed)
  inTable := refs.inTable

variable {list : List Pic}

theorem others_of_none (none : ∀ pic ∈ list, (hCtx.picture pic).nFrmNum ≠ frameNum) :
    others hCtx frameNum list = list := by
  apply filter_eq_self.mpr
  intro pic listed
  exact decide_eq_true (none pic listed)

theorem others_mem :
    pic ∈ others hCtx frameNum list ↔ pic ∈ list ∧ (hCtx.picture pic).nFrmNum ≠ frameNum := by
  unfold others
  rw [mem_filter, decide_eq_true_eq]

theorem others_same_numbers (same : SameCoding hCtx after) (list : List Pic) :
    others after frameNum list = others hCtx frameNum list := by
  unfold others
  simp only [same.numbers]

theorem Distinct.of_same (distinct : Distinct hCtx list)
    (same : SameCoding hCtx after) : Distinct after list := by
  unfold Distinct
  simp only [same.numbers]
  exact distinct

theorem Distinct.entry (distinct : Distinct hCtx list) {other : Pic}
    (listed : pic ∈ list) (also : other ∈ list)
    (same : (hCtx.picture other).nFrmNum = (hCtx.picture pic).nFrmNum) : other = pic := by
  by_contra apart
  have symmetric : Std.Symm fun earlier later : Pic =>
      (hCtx.picture earlier).nFrmNum ≠ (hCtx.picture later).nFrmNum := ⟨fun _ _ => Ne.symm⟩
  exact List.Pairwise.forall distinct also listed apart same

theorem without_unlisted (unlisted : ¬refs.Listed pic) (hCtx : H264Context) (frameNum : Int) :
    ¬(without hCtx refs frameNum).Listed pic := by
  rintro (short | long)
  · exact unlisted (.inl (mem_of_mem_filter short))
  · exact unlisted (.inr long)

/-- With a picture outside the list the table of the list has a slot left. -/
theorem unlisted_room (unlisted : ¬refs.Listed pic) : refs.short.length < MAX_PICTURE_COUNT := by
  have bound := @short_length_le (refs.pushShort pic unlisted)
  exact bound

theorem represents_of_lists {left right : RefSet Pic} (represented : Represents after left)
    (short : left.short = right.short) (long : left.long = right.long) :
    Represents after right where
  shortCount := short ▸ represented.shortCount
  front := short ▸ represented.front
  long := long ▸ represented.long
  longCount := long ▸ represented.longCount

/-- The entry with the number is out of the short list, and nothing else has changed. -/
structure Without (hCtx : H264Context) (refs : RefSet Pic) (frameNum : Int)
    (after : H264Context) : Prop where
  represents : Represents after (without hCtx refs frameNum)
  same : SameCoding hCtx after
  kept : ∀ pic, pic ∉ refs.short ∨ (hCtx.picture pic).nFrmNum ≠ frameNum →
    after.picture pic = hCtx.picture pic

end Entries

section Removal

variable (kept : Represents hCtx refs)

include kept

theorem find_short_total (frameNum : Int) : ∃ found, H264FindShort hCtx frameNum = some found := by
  unfold H264FindShort
  suffices search : ∀ left i, i + left = refs.short.length →
      ∃ found, findShortFrom hCtx frameNum left i = some found by
    apply search
    rw [kept.shortCount, Nat.zero_add]
  intro left
  induction left with
  | zero => exact fun _ _ => ⟨none, rfl⟩
  | succ left further =>
    intro i rest
    have small := @short_length_le refs
    have inside : i < refs.short.length := by omega
    rw [findShortFrom, if_neg (by omega), kept.front i inside, List.getElem?_eq_getElem inside,
      bind_some]
    split_ifs
    · exact ⟨_, rfl⟩
    · apply further
      omega

theorem find_short_listed (distinct : Distinct hCtx refs.short) (listed : pic ∈ refs.short) :
    ∃ i, H264FindShort hCtx (hCtx.picture pic).nFrmNum = some (some (pic, i)) ∧
      refs.short[i]? = some pic := by
  rcases find_short_total kept (hCtx.picture pic).nFrmNum with ⟨found, search⟩
  cases found with
  | none => exact absurd rfl (find_short_missing kept search pic listed)
  | some found =>
    rcases found with ⟨other, i⟩
    have spec := find_short_from_spec kept hCtx.nShortRefCount 0
      (by rw [kept.shortCount, Nat.zero_add]) search
    rcases spec.1 other i rfl with ⟨here, same⟩
    have entry := distinct.entry listed (mem_of_getElem? here) same
    subst entry
    exact ⟨i, search, here⟩

theorem find_short_absent (absent : ∀ pic ∈ refs.short, (hCtx.picture pic).nFrmNum ≠ frameNum) :
    H264FindShort hCtx frameNum = some none := by
  rcases find_short_total kept frameNum with ⟨found, search⟩
  cases found with
  | none => exact search
  | some found =>
    rcases found with ⟨other, i⟩
    have spec := find_short_from_spec kept hCtx.nShortRefCount 0
      (by rw [kept.shortCount, Nat.zero_add]) search
    rcases spec.1 other i rfl with ⟨here, same⟩
    exact absurd same (absent other (mem_of_getElem? here))

theorem remove_short_total {i : Nat}
    (inside : i < refs.short.length) (room : refs.short.length < MAX_PICTURE_COUNT) :
    ∃ after, H264RemoveShort_at_index hCtx i = some after := by
  have count := kept.shortCount
  unfold H264RemoveShort_at_index
  rw [if_neg (by omega)]
  cases held : hCtx.nShortRefCount with
  | zero => omega
  | succ remaining =>
    cases remaining with
    | zero => exact ⟨_, rfl⟩
    | succ remaining =>
      have next : ¬MAX_PICTURE_COUNT ≤ i + 1 := by omega
      simp only [next, if_false]
      exact ⟨_, rfl⟩

theorem take_out (distinct : Distinct hCtx refs.short)
    (room : refs.short.length < MAX_PICTURE_COUNT) {i : Nat} (here : refs.short[i]? = some pic) :
    ∃ after, H264RemoveShort_at_index hCtx i = some after ∧
      Represents after (without hCtx refs (hCtx.picture pic).nFrmNum) ∧ SameCoding hCtx after ∧
      after.picture = hCtx.picture := by
  have inside := (List.getElem?_eq_some_iff.mp here).1
  rcases remove_short_total kept inside room with ⟨after, step⟩
  rcases remove_short_spec kept inside step with ⟨represented, same, pictures⟩
  have short : refs.short.eraseIdx i = others hCtx (hCtx.picture pic).nFrmNum refs.short :=
    erase_at_is_filter distinct here
  exact ⟨after, step, represents_of_lists represented short rfl, same, pictures⟩

theorem drop_short_exact (distinct : Distinct hCtx refs.short)
    (room : refs.short.length < MAX_PICTURE_COUNT) (frameNum : Int) :
    ∃ after, dropShort hCtx frameNum = some after ∧ Without hCtx refs frameNum after := by
  by_cases present : ∃ pic ∈ refs.short, (hCtx.picture pic).nFrmNum = frameNum
  · rcases present with ⟨pic, listed, rfl⟩
    rcases find_short_listed kept distinct listed with ⟨i, search, here⟩
    rcases take_out kept distinct room here with ⟨removed, removal, represented, same, pictures⟩
    have touched := unn_reference_touches removed pic 0
    apply Exists.intro (unreference removed (some pic))
    constructor
    · unfold dropShort H264RemoveShort
      rw [search, bind_some]
      dsimp only
      rw [removal]
      rfl
    · constructor
      · exact touched.represents represented
      · exact same.trans touched.same
      · intro other apart
        have differs : other ≠ pic := by
          rintro rfl
          rcases apart with outside | number
          · exact outside listed
          · exact number rfl
        rw [← pictures]
        exact touched.other differs
  · have absent : ∀ pic ∈ refs.short, (hCtx.picture pic).nFrmNum ≠ frameNum :=
      fun pic listed same => present ⟨pic, listed, same⟩
    apply Exists.intro hCtx
    constructor
    · unfold dropShort H264RemoveShort
      rw [find_short_absent kept absent]
      rfl
    · exact ⟨represents_of_lists kept (others_of_none absent).symm rfl, SameCoding.refl hCtx,
        fun _ _ => rfl⟩

end Removal

section Commands

variable {refmask structure_ : Nat} {nShortPicNum : Int}

theorem unn_reference_unused : (H264UnnReferencePic hCtx pic refmask).2 = true ↔
      (hCtx.picture pic).nReference &&& refmask = 0 := by
  unfold H264UnnReferencePic
  dsimp only
  split_ifs with field
  · exact iff_of_false not_false field
  · exact iff_of_true rfl (not_not.mp field)

theorem unn_reference_field (small : refmask < 4)
    (used : (hCtx.picture pic).nReference &&& refmask ≠ 0) :
    ((H264UnnReferencePic hCtx pic refmask).1.picture pic).nReference =
      (hCtx.picture pic).nReference &&& refmask := by
  have below : (hCtx.picture pic).nReference &&& refmask < 4 :=
    Nat.lt_of_le_of_lt Nat.and_le_right small
  have waits : ¬(((hCtx.picture pic).nReference &&& refmask) = 0 ∨
      ((hCtx.picture pic).nReference &&& refmask) = DELAYED_PIC_REF) := by
    unfold DELAYED_PIC_REF
    omega
  unfold H264UnnReferencePic
  dsimp only
  rw [if_pos used]
  unfold returnBuffer
  simp only [H264Context.setReference, set_picture_self, waits, false_and, if_false]

theorem unn_reference_released (unused : (hCtx.picture pic).nReference &&& refmask = 0) :
    ((H264UnnReferencePic hCtx pic refmask).1.picture pic).nReference &&& 3 = 0 := by
  unfold H264UnnReferencePic
  dsimp only
  rw [if_neg (not_not.mpr unused), unused]
  have marked : ((markDelayed (hCtx.setReference pic 0) pic).picture pic).nReference &&& 3 = 0 := by
    unfold markDelayed
    split_ifs
    · simp [H264Context.setReference, DELAYED_PIC_REF]
    · simp [H264Context.setReference]
  generalize markDelayed (hCtx.setReference pic 0) pic = delayed at marked ⊢
  unfold returnBuffer
  dsimp only
  split_ifs
  · rw [set_picture_self]
    exact Nat.zero_and 3
  · exact marked

variable (kept : Represents hCtx refs)

include kept

theorem short_to_unused_absent
    (extract : H264PicNumExtract hCtx nShortPicNum = (frameNum, structure_))
    (absent : ∀ pic ∈ refs.short, (hCtx.picture pic).nFrmNum ≠ frameNum) :
    shortToUnused hCtx nShortPicNum = some hCtx := by
  unfold shortToUnused
  rw [extract]
  dsimp only
  rw [find_short_absent kept absent, bind_some]

theorem short_to_unused_keeps (distinct : Distinct hCtx refs.short) (listed : pic ∈ refs.short)
    (extract : H264PicNumExtract hCtx nShortPicNum = ((hCtx.picture pic).nFrmNum, structure_))
    (used : (hCtx.picture pic).nReference &&& (structure_ ^^^ 3) ≠ 0) :
    shortToUnused hCtx nShortPicNum = some (H264UnnReferencePic hCtx pic (structure_ ^^^ 3)).1 := by
  rcases find_short_listed kept distinct listed with ⟨i, search, here⟩
  have stays : ¬(H264UnnReferencePic hCtx pic (structure_ ^^^ 3)).2 = true := fun unused =>
    used (unn_reference_unused.mp unused)
  unfold shortToUnused
  rw [extract]
  dsimp only
  rw [search, bind_some]
  dsimp only
  rw [if_neg stays]

theorem short_to_unused_removes (distinct : Distinct hCtx refs.short)
    (room : refs.short.length < MAX_PICTURE_COUNT) (listed : pic ∈ refs.short)
    (extract : H264PicNumExtract hCtx nShortPicNum = ((hCtx.picture pic).nFrmNum, structure_))
    (unused : (hCtx.picture pic).nReference &&& (structure_ ^^^ 3) = 0) :
    ∃ after, shortToUnused hCtx nShortPicNum = some after ∧
      Without hCtx refs (hCtx.picture pic).nFrmNum after ∧
      (after.picture pic).nReference &&& 3 = 0 := by
  rcases find_short_listed kept distinct listed with ⟨i, search, here⟩
  have touched := unn_reference_touches hCtx pic (structure_ ^^^ 3)
  have goes := unn_reference_unused.mpr unused
  have released := unn_reference_released unused
  rcases take_out (touched.represents kept) (distinct.of_same touched.same) room here with
    ⟨after, removal, represented, same, pictures⟩
  have short : others (H264UnnReferencePic hCtx pic (structure_ ^^^ 3)).1
      ((H264UnnReferencePic hCtx pic (structure_ ^^^ 3)).1.picture pic).nFrmNum refs.short =
        others hCtx (hCtx.picture pic).nFrmNum refs.short := by
    rw [touched.number]
    exact others_same_numbers touched.same refs.short
  apply Exists.intro after
  constructor
  · unfold shortToUnused
    rw [extract]
    dsimp only
    rw [search, bind_some]
    dsimp only
    rw [if_pos goes, removal]
  constructor
  · constructor
    · exact represents_of_lists represented short rfl
    · exact touched.same.trans same
    · intro other apart
      have differs : other ≠ pic := by
        rintro rfl
        rcases apart with outside | number
        · exact outside listed
        · exact number rfl
      rw [pictures]
      exact touched.other differs
  · rw [pictures]
    exact released

omit kept

theorem extract_frame (frame : hCtx.isField = false) :
    H264PicNumExtract hCtx nShortPicNum = (nShortPicNum, 3) := by
  have coded : hCtx.nPicStructure = .PICT_FRAME := by
    unfold H264Context.isField at frame
    simpa using frame
  unfold H264PicNumExtract
  rw [frame, coded]
  rfl

/-- The two picture numbers of a frame name its fields, first the one of the other parity. -/
theorem extract_fields (field : hCtx.isField = true) (small : 0 ≤ frameNum ∧ frameNum < 2 ^ 30) :
    H264PicNumExtract hCtx (s32 (frameNum * 2)) = (frameNum, hCtx.nPicStructure.bits ^^^ 3) ∧
      H264PicNumExtract hCtx (s32 (s32 (frameNum * 2) + 1)) =
        (frameNum, hCtx.nPicStructure.bits) := by
  have even : s32 (frameNum * 2) = frameNum * 2 := s32_of_range ⟨by omega, by omega⟩
  have odd : s32 (frameNum * 2 + 1) = frameNum * 2 + 1 := s32_of_range ⟨by omega, by omega⟩
  have evenHalf : frameNum * 2 / 2 = frameNum := by omega
  have oddHalf : (frameNum * 2 + 1) / 2 = frameNum := by omega
  have evenParity : frameNum * 2 % 2 = 0 := by omega
  have oddParity : ¬(frameNum * 2 + 1) % 2 = 0 := by omega
  unfold H264PicNumExtract
  rw [even, odd, if_pos field, if_pos field, evenHalf, oddHalf, if_pos evenParity, if_neg oddParity]
  exact ⟨rfl, rfl⟩

theorem field_masks (coded : PicStructure) (nReference : Nat) (field : coded ≠ .PICT_FRAME) :
    (coded.bits ^^^ 3) ^^^ 3 = coded.bits ∧
      (nReference &&& coded.bits) &&& (coded.bits ^^^ 3) = 0 := by
  rw [Nat.and_assoc]
  cases coded with
  | PICT_TOP_FIELD | PICT_BOTTOM_FIELD => exact ⟨rfl, Nat.and_zero nReference⟩
  | PICT_FRAME => exact absurd rfl field

theorem execute_frame_command (kept : Represents hCtx refs) (distinct : Distinct hCtx refs.short)
    (room : refs.short.length < MAX_PICTURE_COUNT) (listed : pic ∈ refs.short)
    (frame : hCtx.isField = false) :
    ∃ after, executeMmcos [.MMCO_SHORT_TO_UNUSED (hCtx.picture pic).nFrmNum] hCtx false =
        some (after, false) ∧
      Without hCtx refs (hCtx.picture pic).nFrmNum after ∧
      (after.picture pic).nReference &&& 3 = 0 := by
  rcases short_to_unused_removes kept distinct room listed (extract_frame frame)
    (Nat.and_zero _) with ⟨after, step, removed, released⟩
  apply Exists.intro after
  constructor
  · rw [executeMmcos, executeMmco, step]
    rfl
  · exact ⟨removed, released⟩

/-- The first command takes the field of the other parity off the picture, the second the field
of the same parity; a picture with one field goes with the command for it. -/
theorem execute_field_commands (kept : Represents hCtx refs) (distinct : Distinct hCtx refs.short)
    (room : refs.short.length < MAX_PICTURE_COUNT) (listed : pic ∈ refs.short)
    (field : hCtx.isField = true)
    (small : 0 ≤ (hCtx.picture pic).nFrmNum ∧ (hCtx.picture pic).nFrmNum < 2 ^ 30) :
    ∃ after, executeMmcos
        [.MMCO_SHORT_TO_UNUSED (s32 ((hCtx.picture pic).nFrmNum * 2)),
          .MMCO_SHORT_TO_UNUSED (s32 (s32 ((hCtx.picture pic).nFrmNum * 2) + 1))] hCtx false =
        some (after, false) ∧
      Without hCtx refs (hCtx.picture pic).nFrmNum after ∧
      (after.picture pic).nReference &&& 3 = 0 := by
  have coded : hCtx.nPicStructure ≠ .PICT_FRAME := by
    unfold H264Context.isField at field
    simpa using field
  rcases field_masks hCtx.nPicStructure (hCtx.picture pic).nReference coded with ⟨mask, apart⟩
  by_cases unused : (hCtx.picture pic).nReference &&& hCtx.nPicStructure.bits = 0
  · rcases short_to_unused_removes kept distinct room listed (extract_fields field small).1
      (by rw [mask]; exact unused) with ⟨after, step, removed, released⟩
    have fieldAfter : after.isField = true := by
      unfold H264Context.isField at field ⊢
      rw [removed.same.coded]
      exact field
    have gone : ∀ other ∈ (without hCtx refs (hCtx.picture pic).nFrmNum).short,
        (after.picture other).nFrmNum ≠ (hCtx.picture pic).nFrmNum := by
      intro other left
      rw [removed.same.numbers]
      exact (others_mem.mp left).2
    have second := short_to_unused_absent removed.represents
      (extract_fields fieldAfter small).2 gone
    apply Exists.intro after
    constructor
    · rw [executeMmcos, executeMmco, step, map_some, bind_some]
      dsimp only
      rw [executeMmcos, executeMmco, second]
      rfl
    · exact ⟨removed, released⟩
  · have first := short_to_unused_keeps kept distinct listed (extract_fields field small).1
      (by rw [mask]; exact unused)
    rw [mask] at first
    have touched := unn_reference_touches hCtx pic hCtx.nPicStructure.bits
    have left := unn_reference_field (structure_bits_small hCtx.nPicStructure) unused
    generalize (H264UnnReferencePic hCtx pic hCtx.nPicStructure.bits).1 = halved
      at first touched left
    have same := touched.same
    have fieldHalved : halved.isField = true := by
      unfold H264Context.isField at field ⊢
      rw [same.coded]
      exact field
    have extract := (extract_fields fieldHalved small).2
    rw [← touched.number] at extract
    rcases short_to_unused_removes (touched.represents kept) (distinct.of_same same) room listed
      extract (by rw [left, same.coded]; exact apart) with ⟨after, second, removed, released⟩
    apply Exists.intro after
    constructor
    · rw [executeMmcos, executeMmco, first, map_some, bind_some]
      dsimp only
      rw [executeMmcos, executeMmco]
      rw [touched.number] at second
      rw [second]
      rfl
    constructor
    · have short : others halved (halved.picture pic).nFrmNum refs.short =
          others hCtx (hCtx.picture pic).nFrmNum refs.short := by
        rw [touched.number]
        exact others_same_numbers same refs.short
      constructor
      · exact represents_of_lists removed.represents short rfl
      · exact same.trans removed.same
      · intro other outside
        have differs : other ≠ pic := by
          rintro rfl
          rcases outside with unlisted | number
          · exact unlisted listed
          · exact number rfl
        rw [removed.kept other]
        · exact touched.other differs
        · rw [same.numbers, touched.number]
          exact outside
    · exact released

end Commands

section Placing

variable (kept : Represents hCtx refs)

include kept

/-- The current picture goes to the front, in the place of an entry with its number. -/
theorem insert_short_exact (distinct : Distinct hCtx refs.short) (unlisted : ¬refs.Listed cur) :
    ∃ after left, insertShort hCtx cur = some after ∧ Represents after left ∧
      SameCoding hCtx after ∧
      left.short = cur :: others hCtx (hCtx.picture cur).nFrmNum refs.short ∧
      left.long = refs.long ∧
      ∀ pic, pic ≠ cur → pic ∉ refs.short ∨
          (hCtx.picture pic).nFrmNum ≠ (hCtx.picture cur).nFrmNum →
        after.picture pic = hCtx.picture pic := by
  have room := unlisted_room unlisted
  rcases drop_short_exact kept distinct room (hCtx.picture cur).nFrmNum with
    ⟨dropped, drop, removed⟩
  have fresh := without_unlisted unlisted hCtx (hCtx.picture cur).nFrmNum
  have count := removed.represents.shortCount
  have fits : ¬MAX_PICTURE_COUNT ≤ dropped.nShortRefCount := by
    have fewer : (others hCtx (hCtx.picture cur).nFrmNum refs.short).length ≤
        refs.short.length := length_filter_le _ _
    rw [count]
    exact Nat.not_le.mpr (Nat.lt_of_le_of_lt fewer room)
  have coding := removed.same.trans (@set_picture_same_coding dropped cur
    { dropped.picture cur with bLongRef := false } rfl)
  generalize pushedIs :
    { dropped.setPicture cur { dropped.picture cur with bLongRef := false } with
      pShortRef := Function.update (moveUp dropped.nShortRefCount dropped.pShortRef) 0 (some cur)
      nShortRefCount := dropped.nShortRefCount + 1 } = pushed
  have represented : Represents pushed
      ((without hCtx refs (hCtx.picture cur).nFrmNum).pushShort cur fresh) := by
    rw [← pushedIs]
    constructor
    · simp only [RefSet.pushShort, length_cons, count]
    · simp only [RefSet.pushShort, count]
      exact front_move_up cur removed.represents.front
    · exact removed.represents.long
    · exact removed.represents.longCount
  have same : SameCoding hCtx pushed := by
    rw [← pushedIs]
    exact coding.lists _ _ _ _
  have touched := add_structure_touches pushed cur
  apply Exists.intro (addStructure pushed cur)
  apply Exists.intro ((without hCtx refs (hCtx.picture cur).nFrmNum).pushShort cur fresh)
  constructor
  · unfold insertShort
    rw [drop, bind_some, if_neg fits, ← pushedIs]
  constructor
  · exact touched.represents represented
  constructor
  · exact same.trans touched.same
  constructor
  · rfl
  constructor
  · rfl
  · intro pic apart outside
    rw [touched.other apart, ← pushedIs]
    exact (set_picture_other apart).trans (removed.kept pic outside)

theorem represents_size : hCtx.nLongRefCount + hCtx.nShortRefCount = refs.size := by
  have long := kept.longCount
  have short := kept.shortCount
  have size : refs.size = refs.short.length + used MAX_PICTURE_COUNT refs.long := rfl
  omega

theorem no_surplus (room : (refs.size : Int) ≤ hCtx.nRefFrmCount) :
    dropSurplus hCtx = some hCtx := by
  unfold dropSurplus
  rw [represents_size kept, if_neg (Int.not_lt.mpr room)]

theorem surplus_of_one (one : refs.short = [pic]) (full : hCtx.nRefFrmCount < refs.size) :
    ∃ after left, dropSurplus hCtx = some after ∧ Represents after left ∧ left.short = [] ∧
      left.long = refs.long ∧ ∀ other, other ≠ pic → after.picture other = hCtx.picture other := by
  have count := kept.shortCount
  rw [one, length_singleton] at count
  have here : refs.short[0]? = some pic := by
    rw [one]
    rfl
  have inside : 0 < refs.short.length := by
    rw [one]
    exact Nat.one_pos
  have few : refs.short.length < MAX_PICTURE_COUNT := by
    rw [one, length_singleton]
    decide
  rcases remove_short_total kept inside few with ⟨removed, removal⟩
  rcases remove_short_spec kept inside removal with ⟨represented, same, pictures⟩
  have touched := unn_reference_touches removed pic 0
  have notLong : ¬(hCtx.nLongRefCount ≠ 0 ∧ hCtx.nShortRefCount = 0) := by
    rw [count]
    exact fun both => Nat.one_ne_zero both.2
  apply Exists.intro (unreference removed (some pic))
  apply Exists.intro (refs.eraseShort 0)
  constructor
  · unfold dropSurplus
    rw [represents_size kept, if_pos full, if_neg notLong, count]
    dsimp only
    rw [removal, kept.front 0 inside, here]
    rfl
  constructor
  · exact touched.represents represented
  constructor
  · simp only [RefSet.eraseShort, one, eraseIdx_cons_zero]
  constructor
  · rfl
  · intro other apart
    rw [← pictures]
    exact touched.other apart

end Placing

/-- `nMaxPicNum` counts fields while a field is decoded. -/
def maxFrameNum (hCtx : H264Context) : Int :=
  if hCtx.isField then (hCtx.nMaxPicNum.toNat / 2 : Nat) else hCtx.nMaxPicNum.toNat

/-- `FrameNumWrap`: a number above the current one is from before the last wrap. -/
def frameNumWrap (hCtx : H264Context) (cur pic : Pic) : Int :=
  if (hCtx.picture cur).nFrmNum < (hCtx.picture pic).nFrmNum then
    (hCtx.picture pic).nFrmNum - maxFrameNum hCtx
  else (hCtx.picture pic).nFrmNum

/-- The state before a reference picture is marked. -/
structure RefInvariant (hCtx : H264Context) (refs : RefSet Pic) (cur : Pic) : Prop where
  represents : Represents hCtx refs
  current : hCtx.pCurPicturePtr = some cur
  bounded : (refs.size : Int) ≤ hCtx.nRefFrmCount
  range : maxFrameNum hCtx ≤ 2 ^ 30
  numbers : ∀ pic ∈ refs.short,
    0 ≤ (hCtx.picture pic).nFrmNum ∧ (hCtx.picture pic).nFrmNum < maxFrameNum hCtx
  mostRecentFirst : refs.short.Pairwise fun earlier later =>
    frameNumWrap hCtx cur later < frameNumWrap hCtx cur earlier
  entering : continuesReference hCtx cur = false → ¬refs.Listed cur

/-- The short-term picture with the smallest `FrameNumWrap`. -/
def Oldest (hCtx : H264Context) (refs : RefSet Pic) (cur oldest : Pic) : Prop :=
  oldest ∈ refs.short ∧ ∀ other ∈ refs.short, other ≠ oldest →
    frameNumWrap hCtx cur oldest < frameNumWrap hCtx cur other

/-- What the marking leaves: the oldest picture goes when the buffer is full, and an entry
with the number of the current picture makes place for it. -/
structure Slid (hCtx : H264Context) (refs : RefSet Pic) (cur : Pic) (after : H264Context)
    (left : RefSet Pic) : Prop where
  represents : Represents after left
  long : left.long = refs.long
  second : continuesReference hCtx cur = true → left.short = refs.short
  room : continuesReference hCtx cur = false → (refs.size : Int) ≠ hCtx.nRefFrmCount →
    left.short = cur :: others hCtx (hCtx.picture cur).nFrmNum refs.short
  full : continuesReference hCtx cur = false → (refs.size : Int) = hCtx.nRefFrmCount →
    refs.short ≠ [] → ∃ oldest, Oldest hCtx refs cur oldest ∧
      left.short = cur :: others hCtx (hCtx.picture cur).nFrmNum (refs.short.erase oldest) ∧
      (after.picture oldest).nReference &&& 3 = 0
  onlyLong : continuesReference hCtx cur = false → (refs.size : Int) = hCtx.nRefFrmCount →
    refs.short = [] → left.short = []
  kept : ∀ pic, pic ≠ cur → left.Listed pic → after.picture pic = hCtx.picture pic

variable (invariant : RefInvariant hCtx refs cur)

include invariant

theorem RefInvariant.distinct : Distinct hCtx refs.short := by
  apply invariant.mostRecentFirst.imp
  intro earlier later older same
  unfold frameNumWrap at older
  rw [same] at older
  exact Int.lt_irrefl _ older

theorem RefInvariant.last_oldest
    (filled : refs.short ≠ []) : Oldest hCtx refs cur (refs.short.getLast filled) := by
  apply And.intro (getLast_mem filled)
  intro other listed apart
  have split := dropLast_append_getLast filled
  have order := invariant.mostRecentFirst
  rw [← split] at order listed
  rcases mem_append.mp listed with before | last
  · exact (pairwise_append.mp order).2.2 other before _ (mem_singleton_self _)
  · exact absurd (mem_singleton.mp last) apart

theorem RefInvariant.erase_number (listed : pic ∈ refs.short) :
    refs.short.erase pic = others hCtx (hCtx.picture pic).nFrmNum refs.short := by
  rw [refs.nodup.erase_eq_filter]
  apply filter_congr
  intro other also
  rw [Bool.eq_iff_iff, bne_iff_ne, decide_eq_true_eq]
  constructor
  · intro apart same
    exact apart (invariant.distinct.entry listed also same)
  · rintro apart rfl
    exact apart rfl

/-- No commands for a second field, nor where there is room or nothing to take out. -/
theorem window_without_commands
    (idle : continuesReference hCtx cur = true ∨ (refs.size : Int) ≠ hCtx.nRefFrmCount ∨
      refs.short = []) : slidingWindow hCtx = some [] := by
  have count := invariant.represents.shortCount
  unfold slidingWindow
  rw [represents_size invariant.represents]
  by_cases full : hCtx.nShortRefCount ≠ 0 ∧ (refs.size : Int) = hCtx.nRefFrmCount
  · have continues : continuesReference hCtx cur = true := by
      rcases idle with continues | room | none
      · exact continues
      · exact absurd full.2 room
      · rw [none] at count
        exact absurd count full.1
    have second : hCtx.isField ∧ ¬hCtx.bFstField ∧ (hCtx.picture cur).nReference ≠ 0 := by
      unfold continuesReference at continues
      simpa [and_assoc] using continues
    rw [if_pos full, invariant.current, bind_some, if_pos second]
  · rw [if_neg full]

theorem window_commands (leading : continuesReference hCtx cur = false)
    (full : (refs.size : Int) = hCtx.nRefFrmCount) (filled : refs.short ≠ []) :
    slidingWindow hCtx =
      some (if hCtx.isField then
        [.MMCO_SHORT_TO_UNUSED (s32 ((hCtx.picture (refs.short.getLast filled)).nFrmNum * 2)),
          .MMCO_SHORT_TO_UNUSED
            (s32 (s32 ((hCtx.picture (refs.short.getLast filled)).nFrmNum * 2) + 1))]
      else [.MMCO_SHORT_TO_UNUSED (hCtx.picture (refs.short.getLast filled)).nFrmNum]) := by
  have count := invariant.represents.shortCount
  have positive := length_pos_iff.mpr filled
  have room := unlisted_room (invariant.entering leading)
  have counted : hCtx.nShortRefCount ≠ 0 := by omega
  have notSecond : ¬(hCtx.isField ∧ ¬hCtx.bFstField ∧ (hCtx.picture cur).nReference ≠ 0) := by
    intro second
    have continues : continuesReference hCtx cur = true := by
      unfold continuesReference
      simpa [and_assoc] using second
    rw [leading] at continues
    exact Bool.false_ne_true continues
  have last : hCtx.pShortRef (hCtx.nShortRefCount - 1) = some (refs.short.getLast filled) := by
    rw [count, invariant.represents.front _ (by omega), ← List.getLast?_eq_getElem?,
      List.getLast?_eq_some_getLast filled]
  unfold slidingWindow
  rw [represents_size invariant.represents, if_pos ⟨counted, full⟩, invariant.current,
    bind_some, if_neg notSecond, if_neg (by omega), last]
  rfl

omit invariant

/-- What is left of the short list when the commands are done. -/
structure Cleared (hCtx : H264Context) (refs : RefSet Pic) (cur : Pic) (decoded : H264Context)
    (middle : H264Context) (between : RefSet Pic) : Prop where
  execute : executeMmcos decoded.mmco decoded false = some (middle, false)
  represents : Represents middle between
  same : SameCoding decoded middle
  long : between.long = refs.long
  sublist : ∀ pic ∈ between.short, pic ∈ refs.short
  distinct : Distinct middle between.short
  kept : ∀ pic, between.Listed pic ∨ ¬refs.Listed pic → middle.picture pic = hCtx.picture pic

theorem cleared_of_nothing (invariant : RefInvariant hCtx refs cur) :
    Cleared hCtx refs cur { hCtx with mmco := [] } { hCtx with mmco := [] } refs where
  execute := rfl
  represents := represents_of_same invariant.represents rfl rfl rfl rfl
  same := SameCoding.refl _
  long := rfl
  sublist := fun _ listed => listed
  distinct := invariant.distinct
  kept := fun _ _ => rfl

theorem commands_clear_oldest (invariant : RefInvariant hCtx refs cur)
    (leading : continuesReference hCtx cur = false)
    (full : (refs.size : Int) = hCtx.nRefFrmCount) (filled : refs.short ≠ []) :
    ∃ mmco middle, slidingWindow hCtx = some mmco ∧
      Cleared hCtx refs cur { hCtx with mmco := mmco } middle
        (without hCtx refs (hCtx.picture (refs.short.getLast filled)).nFrmNum) ∧
      (middle.picture (refs.short.getLast filled)).nReference &&& 3 = 0 := by
  have commands := window_commands invariant leading full filled
  have listed := getLast_mem filled
  have room := unlisted_room (invariant.entering leading)
  have bounds := invariant.numbers _ listed
  have range := invariant.range
  generalize refs.short.getLast filled = oldest at commands listed bounds ⊢
  have run : ∀ mmco, slidingWindow hCtx = some mmco →
      ∃ middle, executeMmcos mmco { hCtx with mmco := mmco } false = some (middle, false) ∧
        Without { hCtx with mmco := mmco } refs (hCtx.picture oldest).nFrmNum middle ∧
        (middle.picture oldest).nReference &&& 3 = 0 := by
    intro mmco same
    have kept : Represents { hCtx with mmco := mmco } refs :=
      represents_of_same invariant.represents rfl rfl rfl rfl
    rw [commands] at same
    have equal := Option.some.inj same
    by_cases field : hCtx.isField = true
    · rw [if_pos field] at equal
      have executed := @execute_field_commands { hCtx with mmco := mmco } refs oldest kept
        invariant.distinct room listed field ⟨bounds.1, by dsimp only; omega⟩
      dsimp only at executed
      rw [equal] at executed
      exact executed
    · rw [if_neg field] at equal
      have executed := @execute_frame_command { hCtx with mmco := mmco } refs oldest kept
        invariant.distinct room listed (Bool.eq_false_iff.mpr field)
      dsimp only at executed
      rw [equal] at executed
      exact executed
  rcases run _ commands with ⟨middle, executed, removed, released⟩
  refine ⟨_, middle, commands, ?_, released⟩
  constructor
  · exact executed
  · exact removed.represents
  · exact removed.same
  · rfl
  · intro pic left
    exact (others_mem.mp left).1
  · apply Distinct.of_same _ removed.same
    exact List.Pairwise.filter _ invariant.distinct
  · rintro pic (left | unlisted)
    · apply removed.kept
      rcases left with short | ⟨slot, long⟩
      · exact .inr (others_mem.mp short).2
      · exact .inl (refs.apart slot pic long)
    · apply removed.kept
      exact .inl fun short => unlisted (.inl short)

theorem finish_marking_current (current : hCtx.pCurPicturePtr = some cur) (assigned : Bool) :
    finishMarking hCtx assigned = (placeCurrent hCtx cur assigned).bind dropSurplus := by
  unfold finishMarking
  rw [current, bind_some]

/-- A frame or a first field goes to the front of what the commands have left. -/
theorem leading_finish {decoded middle : H264Context} {between : RefSet Pic}
    (cleared : Cleared hCtx refs cur decoded middle between) (same : SameCoding hCtx
      { decoded with mmco := hCtx.mmco }) (unlisted : ¬refs.Listed cur)
    (current : hCtx.pCurPicturePtr = some cur)
    (leading : continuesReference hCtx cur = false) :
    ∃ placed left, H264ExecuteRefPicMarking decoded = dropSurplus placed ∧ Represents placed left ∧
      left.short = cur :: others hCtx (hCtx.picture cur).nFrmNum between.short ∧
      left.long = refs.long ∧ left.size ≤ between.size + 1 ∧
      placed.nRefFrmCount = hCtx.nRefFrmCount ∧
      ∀ pic, pic ≠ cur → pic ∉ between.short ∨
          (hCtx.picture pic).nFrmNum ≠ (hCtx.picture cur).nFrmNum →
        placed.picture pic = middle.picture pic := by
  have numbers : ∀ pic, (middle.picture pic).nFrmNum = (hCtx.picture pic).nFrmNum := fun pic =>
    (cleared.same.numbers pic).trans (same.numbers pic)
  have apart : ¬between.Listed cur := by
    rintro (short | ⟨slot, long⟩)
    · exact unlisted (.inl (cleared.sublist cur short))
    · rw [cleared.long] at long
      exact unlisted (.inr ⟨slot, long⟩)
  have middleCurrent : middle.pCurPicturePtr = some cur :=
    (cleared.same.cur.trans same.cur).trans current
  have stillLeading : continuesReference middle cur = false := by
    have coded : middle.nPicStructure = hCtx.nPicStructure := cleared.same.coded.trans same.coded
    have first : middle.bFstField = hCtx.bFstField := cleared.same.first.trans same.first
    unfold continuesReference H264Context.isField at leading ⊢
    rw [coded, first, cleared.kept cur (.inr unlisted)]
    exact leading
  rcases insert_short_exact cleared.represents cleared.distinct apart with
    ⟨placed, left, insertion, represented, placedSame, short, long, kept⟩
  have list : others middle (middle.picture cur).nFrmNum between.short =
      others hCtx (hCtx.picture cur).nFrmNum between.short := by
    unfold others
    simp only [numbers]
  apply Exists.intro placed
  apply Exists.intro left
  constructor
  · unfold H264ExecuteRefPicMarking
    rw [cleared.execute, bind_some]
    dsimp only
    rw [finish_marking_current middleCurrent]
    unfold placeCurrent
    rw [if_neg Bool.false_ne_true, stillLeading, if_neg Bool.false_ne_true, insertion, bind_some]
  constructor
  · exact represented
  constructor
  · rw [short, list]
  constructor
  · rw [long, cleared.long]
  constructor
  · have fewer : (others middle (middle.picture cur).nFrmNum between.short).length ≤
        between.short.length := length_filter_le _ _
    unfold RefSet.size
    rw [short, long, length_cons]
    omega
  constructor
  · exact (placedSame.limit.trans cleared.same.limit).trans same.limit
  · intro pic differs outside
    apply kept pic differs
    rw [numbers, numbers]
    exact outside

theorem second_finish (invariant : RefInvariant hCtx refs cur)
    (continues : continuesReference hCtx cur = true) :
    ∃ after, H264ExecuteRefPicMarking { hCtx with mmco := [] } = some after ∧
      Represents after refs ∧ ∀ pic, pic ≠ cur → after.picture pic = hCtx.picture pic := by
  have kept : Represents { hCtx with mmco := [] } refs :=
    represents_of_same invariant.represents rfl rfl rfl rfl
  have placed : ∃ after, placeCurrent { hCtx with mmco := [] } cur false = some after ∧
      Touches { hCtx with mmco := [] } cur after := by
    unfold placeCurrent
    rw [if_neg Bool.false_ne_true, if_pos (show continuesReference { hCtx with mmco := [] } cur =
      true from continues)]
    split_ifs
    · exact ⟨_, rfl, set_reference_touches _ cur _⟩
    · exact ⟨_, rfl, unchanged_touches _ cur⟩
  rcases placed with ⟨after, place, touched⟩
  have represented := touched.represents kept
  have room : (refs.size : Int) ≤ after.nRefFrmCount := by
    rw [touched.same.limit]
    exact invariant.bounded
  apply Exists.intro after
  constructor
  · have finish := @finish_marking_current { hCtx with mmco := [] } cur invariant.current false
    unfold H264ExecuteRefPicMarking
    rw [executeMmcos, bind_some]
    dsimp only
    rw [finish, place, bind_some, no_surplus represented room]
  constructor
  · exact represented
  · exact fun pic apart => touched.other apart

theorem decode_window {coded : MarkingSyntax} {mmco : List H264MmcoInfo}
    (inter : hCtx.bIdrFrmFlag = false) (plain : coded.adaptiveFlag = false)
    (window : slidingWindow hCtx = some mmco) :
    H264DecodeRefPicMarking hCtx coded = some { hCtx with mmco := mmco } := by
  unfold H264DecodeRefPicMarking
  rw [inter, plain, if_neg Bool.false_ne_true, if_neg Bool.false_ne_true, window]
  rfl

theorem without_size (listed : pic ∈ refs.short) :
    (without hCtx refs (hCtx.picture pic).nFrmNum).size + 1 ≤ refs.size := by
  have fewer : (others hCtx (hCtx.picture pic).nFrmNum refs.short).length < refs.short.length := by
    apply length_filter_lt_length_iff_exists.mpr
    exact ⟨pic, listed, by simp⟩
  unfold RefSet.size
  dsimp only [without]
  omega

/-- What the two functions make of a picture without marking commands. -/
def Marks (hCtx : H264Context) (refs : RefSet Pic) (cur : Pic) (coded : MarkingSyntax) : Prop :=
  ∃ decoded after left, H264DecodeRefPicMarking hCtx coded = some decoded ∧
    H264ExecuteRefPicMarking decoded = some after ∧ Slid hCtx refs cur after left

section Cases

variable {coded : MarkingSyntax}

theorem marks_second (invariant : RefInvariant hCtx refs cur)
    (inter : hCtx.bIdrFrmFlag = false) (plain : coded.adaptiveFlag = false)
    (continues : continuesReference hCtx cur = true) : Marks hCtx refs cur coded := by
  have decode := decode_window inter plain (window_without_commands invariant (.inl continues))
  have never : continuesReference hCtx cur ≠ false := by
    rw [continues]
    exact Bool.true_eq_false_eq_False
  rcases second_finish invariant continues with ⟨after, finish, represented, kept⟩
  refine ⟨_, after, refs, decode, finish, ?_⟩
  constructor
  · exact represented
  · rfl
  · exact fun _ => rfl
  · exact fun leading => absurd leading never
  · exact fun leading => absurd leading never
  · exact fun leading => absurd leading never
  · exact fun pic apart _ => kept pic apart

theorem listed_kept {placed middle : H264Context} {between left : RefSet Pic}
    (cleared : Cleared hCtx refs cur { hCtx with mmco := middle.mmco } middle between)
    (short : left.short = cur :: others hCtx (hCtx.picture cur).nFrmNum between.short)
    (long : left.long = refs.long) (kept : ∀ pic, pic ≠ cur → pic ∉ between.short ∨
        (hCtx.picture pic).nFrmNum ≠ (hCtx.picture cur).nFrmNum →
      placed.picture pic = middle.picture pic)
    (apart : pic ≠ cur) (listed : left.Listed pic) :
    placed.picture pic = hCtx.picture pic := by
  rcases listed with member | ⟨slot, held⟩
  · rw [short] at member
    rcases mem_cons.mp member with same | member
    · exact absurd same apart
    · rcases others_mem.mp member with ⟨inside, number⟩
      rw [kept pic apart (.inr number)]
      exact cleared.kept pic (.inl (.inl inside))
  · rw [long, ← cleared.long] at held
    rw [kept pic apart (.inl (between.apart slot pic held))]
    exact cleared.kept pic (.inl (.inr ⟨slot, held⟩))

variable (invariant : RefInvariant hCtx refs cur)

include invariant

theorem marks_with_room (inter : hCtx.bIdrFrmFlag = false) (plain : coded.adaptiveFlag = false)
    (leading : continuesReference hCtx cur = false)
    (room : (refs.size : Int) ≠ hCtx.nRefFrmCount) : Marks hCtx refs cur coded := by
  have decode := decode_window inter plain (window_without_commands invariant (.inr (.inl room)))
  have cleared := cleared_of_nothing invariant
  have bounded := invariant.bounded
  rcases leading_finish cleared (SameCoding.refl hCtx) (invariant.entering leading)
    invariant.current leading with
    ⟨placed, left, finish, represented, short, long, size, limit, kept⟩
  rw [no_surplus represented (by rw [limit]; omega)] at finish
  refine ⟨_, placed, left, decode, finish, ?_⟩
  constructor
  · exact represented
  · exact long
  · exact fun continues => absurd (leading.symm.trans continues) Bool.false_ne_true
  · exact fun _ _ => short
  · exact fun _ full => absurd full room
  · exact fun _ full => absurd full room
  · exact fun pic apart listed => listed_kept cleared short long kept apart listed

theorem marks_full (inter : hCtx.bIdrFrmFlag = false) (plain : coded.adaptiveFlag = false)
    (leading : continuesReference hCtx cur = false)
    (full : (refs.size : Int) = hCtx.nRefFrmCount) (filled : refs.short ≠ []) :
    Marks hCtx refs cur coded := by
  have unlisted := invariant.entering leading
  have oldest := invariant.last_oldest filled
  have fewer := @without_size hCtx refs _ oldest.1
  rcases commands_clear_oldest invariant leading full filled with
    ⟨mmco, middle, window, cleared, released⟩
  rcases leading_finish cleared (SameCoding.refl hCtx) unlisted invariant.current leading with
    ⟨placed, left, finish, represented, short, long, size, limit, kept⟩
  rw [no_surplus represented (by rw [limit]; omega)] at finish
  have mmcoKept : middle.mmco = mmco := cleared.same.mmco
  have differs : refs.short.getLast filled ≠ cur := by
    intro same
    exact unlisted (.inl (same ▸ oldest.1))
  refine ⟨_, placed, left, decode_window inter plain window, finish, ?_⟩
  constructor
  · exact represented
  · exact long
  · exact fun continues => absurd (leading.symm.trans continues) Bool.false_ne_true
  · exact fun _ room => absurd full room
  · intro _ _ _
    refine ⟨refs.short.getLast filled, oldest, ?_, ?_⟩
    · rw [invariant.erase_number oldest.1]
      exact short
    · rw [kept _ differs (.inl fun listed => (others_mem.mp listed).2 rfl)]
      exact released
  · exact fun _ _ none => absurd none filled
  · rw [← mmcoKept] at cleared
    exact fun pic apart listed => listed_kept cleared short long kept apart listed

theorem marks_only_long (inter : hCtx.bIdrFrmFlag = false) (plain : coded.adaptiveFlag = false)
    (leading : continuesReference hCtx cur = false)
    (full : (refs.size : Int) = hCtx.nRefFrmCount) (none : refs.short = []) :
    Marks hCtx refs cur coded := by
  have decode := decode_window inter plain (window_without_commands invariant (.inr (.inr none)))
  have cleared := cleared_of_nothing invariant
  rcases leading_finish cleared (SameCoding.refl hCtx) (invariant.entering leading)
    invariant.current leading with ⟨placed, left, finish, represented, short, long, _, limit, kept⟩
  have one : left.short = [cur] := by
    rw [short, none]
    rfl
  have surplus : placed.nRefFrmCount < left.size := by
    rw [limit, ← full]
    unfold RefSet.size
    rw [one, long, none, length_singleton, length_nil]
    omega
  rcases surplus_of_one represented one surplus with
    ⟨after, rest, dropped, held, gone, same, pictures⟩
  rw [dropped] at finish
  refine ⟨_, after, rest, decode, finish, ?_⟩
  constructor
  · exact held
  · exact same.trans long
  · exact fun continues => absurd (leading.symm.trans continues) Bool.false_ne_true
  · exact fun _ room => absurd full room
  · exact fun _ _ filled => absurd none filled
  · exact fun _ _ _ => gone
  · intro pic apart listed
    rw [pictures pic apart]
    apply listed_kept cleared short long kept apart
    rcases listed with inside | ⟨slot, there⟩
    · rw [gone] at inside
      exact absurd inside not_mem_nil
    · rw [same] at there
      exact .inr ⟨slot, there⟩

omit invariant

/-- The sliding window of every reference picture without marking commands. -/
theorem sliding_window_slides (invariant : RefInvariant hCtx refs cur)
    (inter : hCtx.bIdrFrmFlag = false) (plain : coded.adaptiveFlag = false) :
    ∃ decoded after left, H264DecodeRefPicMarking hCtx coded = some decoded ∧
      H264ExecuteRefPicMarking decoded = some after ∧ Slid hCtx refs cur after left := by
  by_cases continues : continuesReference hCtx cur = true
  · exact marks_second invariant inter plain continues
  have leading := Bool.eq_false_iff.mpr continues
  by_cases room : (refs.size : Int) = hCtx.nRefFrmCount
  · by_cases filled : refs.short = []
    · exact marks_only_long invariant inter plain leading room filled
    · exact marks_full invariant inter plain leading room filled
  · exact marks_with_room invariant inter plain leading room

end Cases

/-- Frames 3 and 2 are references when a frame of this number comes. -/
def windowContext (nFrmNum nRefFrmCount : Int) : H264Context :=
  { H264Context.init with
    picture := fun pic =>
      ⟨if pic.val = 0 then 2 else if pic.val = 1 then 3 else nFrmNum, false, 3, true, false, false⟩
    pShortRef := fun i => [(1 : Fin 32), (0 : Fin 32)][i]?
    nShortRefCount := 2
    pCurPicturePtr := some (2 : Fin 32)
    nMaxPicNum := 16
    nRefFrmCount := nRefFrmCount }

def windowRefs : RefSet Pic where
  short := [(1 : Fin 32), (0 : Fin 32)]
  long := fun _ => none
  nodup := by decide
  injective := fun _ _ _ held => nomatch held
  apart := fun _ _ held => nomatch held
  inTable := fun _ _ => rfl

theorem window_invariant (nFrmNum nRefFrmCount : Int) (ahead : 3 ≤ nFrmNum)
    (room : 2 ≤ nRefFrmCount) : RefInvariant (windowContext nFrmNum nRefFrmCount) windowRefs
      (2 : Fin 32) := by
  constructor
  · constructor
    · rfl
    · exact fun _ _ => rfl
    · rfl
    · exact show (0 : Int) = used MAX_PICTURE_COUNT windowRefs.long by decide
  · rfl
  · exact room
  · exact show (16 : Int) ≤ 2 ^ 30 by decide
  · intro pic listed
    rcases mem_cons.mp listed with rfl | listed
    · exact ⟨show (0 : Int) ≤ 3 by decide, show (3 : Int) < 16 by decide⟩
    · rw [mem_singleton.mp listed]
      exact ⟨show (0 : Int) ≤ 2 by decide, show (2 : Int) < 16 by decide⟩
  · apply List.Pairwise.cons
    · intro pic listed
      rw [mem_singleton.mp listed]
      have first : ¬nFrmNum < 3 := Int.not_lt.mpr ahead
      have second : ¬nFrmNum < 2 := by omega
      show (if nFrmNum < 2 then 2 - maxFrameNum _ else 2) <
        if nFrmNum < 3 then 3 - maxFrameNum _ else 3
      rw [if_neg first, if_neg second]
      decide
    · exact pairwise_singleton _ _
  · intro _ listed
    rcases listed with short | ⟨slot, held⟩
    · exact absurd short (show (2 : Fin 32) ∉ [(1 : Fin 32), (0 : Fin 32)] by decide)
    · cases held

/-- In a full buffer frame 2 goes when frame 4 comes. -/
theorem full_window_slides :
    ∃ decoded after left, H264DecodeRefPicMarking (windowContext 4 2) ⟨false, false, fun _ => 0⟩ =
        some decoded ∧
      H264ExecuteRefPicMarking decoded = some after ∧
      Slid (windowContext 4 2) windowRefs (2 : Fin 32) after left :=
  sliding_window_slides (window_invariant 4 2 (by decide) (by decide)) rfl rfl

/-- Another frame 3 takes the place of the listed one, though there is room for four. -/
theorem same_number_removed : RefInvariant (windowContext 3 4) windowRefs (2 : Fin 32) ∧
      continuesReference (windowContext 3 4) (2 : Fin 32) = false ∧
      (windowRefs.size : Int) ≠ (windowContext 3 4).nRefFrmCount ∧
      ((H264DecodeRefPicMarking (windowContext 3 4) ⟨false, false, fun _ => 0⟩).bind
          H264ExecuteRefPicMarking).map
        (fun after => (after.nShortRefCount, (after.pShortRef 0).map Fin.val,
          (after.pShortRef 1).map Fin.val)) = some (2, some 2, some 0) := by
  constructor
  · exact window_invariant 3 4 (by decide) (by decide)
  constructor
  · decide
  constructor
  · decide
  · decide

end CedarC.H264SlidingWindow
