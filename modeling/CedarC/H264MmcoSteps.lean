import CedarC.H264RefSets

/-!
# The marking functions on represented sets

One lemma for each function of the marking: what it does to the set of
reference pictures that the arrays stand for. All commands but `MMCO_LONG` only
shrink the set.
-/

namespace CedarC.H264MmcoSteps

open SlotTables H264RefMarking H264RefSets List Option Function

variable {hCtx after : H264Context} {refs : RefSet Pic} {pic : Pic}

section Pictures

@[simp] theorem set_picture_self {info : H264PicInfo} :
    (hCtx.setPicture pic info).picture pic = info := by
  simp [H264Context.setPicture]

theorem set_picture_other {other : Pic} {info : H264PicInfo} (apart : other ≠ pic) :
    (hCtx.setPicture pic info).picture other = hCtx.picture other := by
  simp [H264Context.setPicture, update_of_ne apart]

@[simp] theorem set_picture_twice {earlier later : H264PicInfo} :
    (hCtx.setPicture pic earlier).setPicture pic later = hCtx.setPicture pic later := by
  simp [H264Context.setPicture]

/-- Only the picture changes; its number stays, and a reference that does not
wait for display stays what it is. -/
structure Touches (hCtx : H264Context) (pic : Pic) (after : H264Context) : Prop where
  only : ∃ info, after = hCtx.setPicture pic info
  number : (after.picture pic).nFrmNum = (hCtx.picture pic).nFrmNum

variable (touched : Touches hCtx pic after)

include touched

theorem Touches.same : SameCoding hCtx after := by
  obtain ⟨info, rfl⟩ := touched.only
  have number := touched.number
  rw [set_picture_self] at number
  exact set_picture_same_coding number

theorem Touches.represents (kept : Represents hCtx refs) : Represents after refs := by
  obtain ⟨info, rfl⟩ := touched.only
  exact set_picture_represents kept

theorem Touches.other {other : Pic} (apart : other ≠ pic) :
    after.picture other = hCtx.picture other := by
  obtain ⟨info, rfl⟩ := touched.only
  exact set_picture_other apart

omit touched

theorem Touches.trans {middle : H264Context} (earlier : Touches hCtx pic middle)
    (later : Touches middle pic after) : Touches hCtx pic after := by
  obtain ⟨first, rfl⟩ := earlier.only
  obtain ⟨second, rfl⟩ := later.only
  exact ⟨⟨second, set_picture_twice⟩, later.number.trans earlier.number⟩

theorem set_reference_touches (hCtx : H264Context) (pic : Pic) (nReference : Nat) :
    Touches hCtx pic (hCtx.setReference pic nReference) := by
  refine ⟨⟨_, rfl⟩, ?_⟩
  simp [H264Context.setReference]

theorem unchanged_touches (hCtx : H264Context) (pic : Pic) : Touches hCtx pic hCtx := by
  refine ⟨⟨hCtx.picture pic, ?_⟩, rfl⟩
  simp [H264Context.setPicture]

theorem return_buffer_touches (hCtx : H264Context) (pic : Pic) :
    Touches hCtx pic (returnBuffer hCtx pic) := by
  unfold returnBuffer
  dsimp only
  split_ifs
  · refine ⟨⟨_, rfl⟩, ?_⟩
    simp
  · exact unchanged_touches hCtx pic

theorem mark_delayed_touches (hCtx : H264Context) (pic : Pic) :
    Touches hCtx pic (markDelayed hCtx pic) := by
  unfold markDelayed
  split_ifs
  · exact set_reference_touches hCtx pic DELAYED_PIC_REF
  · exact unchanged_touches hCtx pic

theorem unn_reference_touches (hCtx : H264Context) (pic : Pic) (refmask : Nat) :
    Touches hCtx pic (H264UnnReferencePic hCtx pic refmask).1 := by
  unfold H264UnnReferencePic
  dsimp only
  split_ifs
  · exact (set_reference_touches hCtx pic _).trans (return_buffer_touches _ pic)
  · exact ((set_reference_touches hCtx pic _).trans (mark_delayed_touches _ pic)).trans
      (return_buffer_touches _ pic)

theorem unn_reference_keeps_field {refmask : Nat} (small : refmask < 4)
    (used : (H264UnnReferencePic hCtx pic refmask).2 = false) :
    ((H264UnnReferencePic hCtx pic refmask).1.picture pic).nReference ≠ 0 := by
  unfold H264UnnReferencePic at used ⊢
  dsimp only at used ⊢
  split_ifs at used ⊢ with field
  have below : (hCtx.picture pic).nReference &&& refmask < 4 :=
    Nat.lt_of_le_of_lt Nat.and_le_right small
  have waits : ¬ ((((hCtx.picture pic).nReference &&& refmask) = 0 ∨
      ((hCtx.picture pic).nReference &&& refmask) = DELAYED_PIC_REF)) := by
    unfold DELAYED_PIC_REF
    omega
  unfold returnBuffer
  simp only [H264Context.setReference, set_picture_self, waits, false_and, if_false]
  exact field

end Pictures

section Lists

theorem erase_short_size {i : Nat} (inside : i < refs.short.length) :
    (refs.eraseShort i).size + 1 = refs.size := by
  have shorter := length_eraseIdx_of_lt inside
  simp only [RefSet.size, RefSet.eraseShort, shorter]
  omega

theorem long_slot_inside {slot : Nat} (held : refs.long slot = some pic) : slot < 16 := by
  by_contra outside
  rw [refs.inTable slot (by omega)] at held
  cases held

theorem erase_long_size {slot : Nat} (held : refs.long slot = some pic) :
    (refs.eraseLong slot).size + 1 = refs.size := by
  have inside := long_slot_inside held
  have fewer := @used_take Pic MAX_PICTURE_COUNT slot refs.long pic
    (by unfold MAX_PICTURE_COUNT; omega) held
  simp only [RefSet.size, RefSet.eraseLong]
  omega

theorem erase_short_shrinks {i : Nat} (here : refs.short[i]? = some pic)
    (left : Represents after (refs.eraseShort i)) (same : SameCoding hCtx after)
    (others : ∀ other, other ≠ pic → after.picture other = hCtx.picture other) :
    Shrinks hCtx refs after (refs.eraseShort i) where
  represents := left
  same := same
  short := fun _ listed => mem_of_mem_eraseIdx listed
  long := fun j _ held => Or.inl ⟨j, held⟩
  reference := by
    intro other listed marked
    have apart : other ≠ pic := by
      rintro rfl
      exact erased_short_unlisted here listed
    rw [others other apart]
    exact marked
  size := by
    have smaller := erase_short_size (List.getElem?_eq_some_iff.mp here).1
    omega

theorem erase_long_shrinks {slot : Nat} (here : refs.long slot = some pic)
    (left : Represents after (refs.eraseLong slot)) (same : SameCoding hCtx after)
    (others : ∀ other, other ≠ pic → after.picture other = hCtx.picture other) :
    Shrinks hCtx refs after (refs.eraseLong slot) where
  represents := left
  same := same
  short := fun _ listed => listed
  long := fun j _ held => Or.inl ⟨j, (update_none_held held).2⟩
  reference := by
    intro other listed marked
    have apart : other ≠ pic := by
      rintro rfl
      exact erased_long_unlisted here listed
    rw [others other apart]
    exact marked
  size := by
    have smaller := erase_long_size here
    omega

variable (kept : Represents hCtx refs)

include kept

theorem remove_short_spec {i : Nat}
    (inside : i < refs.short.length) (step : H264RemoveShort_at_index hCtx i = some after) :
    Represents after (refs.eraseShort i) ∧ SameCoding hCtx after ∧
      after.picture = hCtx.picture := by
  have count := kept.shortCount
  have moved := front_move_down kept.front inside
  have shorter := length_eraseIdx_of_lt inside
  have inTable : ¬ MAX_PICTURE_COUNT ≤ i := by
    have small := @short_length_le refs
    omega
  cases held : hCtx.nShortRefCount with
  | zero => omega
  | succ remaining =>
    cases remaining with
    | zero =>
      simp only [H264RemoveShort_at_index, if_neg inTable, held, Option.some.injEq] at step
      subst step
      refine ⟨⟨?_, ?_, kept.long, kept.longCount⟩, (SameCoding.refl hCtx).lists _ _ _ _, rfl⟩
      · simp only [RefSet.eraseShort, shorter]
        omega
      · intro slot below
        simp only [RefSet.eraseShort, shorter] at below
        omega
    | succ remaining =>
      simp only [H264RemoveShort_at_index, if_neg inTable, held] at step
      split_ifs at step
      simp only [Option.some.injEq] at step
      subst step
      have countLeft : remaining + 1 = refs.short.length - 1 := by omega
      refine ⟨⟨?_, ?_, kept.long, kept.longCount⟩, (SameCoding.refl hCtx).lists _ _ _ _, rfl⟩
      · simp only [RefSet.eraseShort, shorter, countLeft]
      · rw [countLeft]
        exact moved

theorem remove_long_spec {slot : Nat}
    (here : refs.long slot = some pic) (step : H264RemoveLong_at_index hCtx slot = some after) :
    Represents after (refs.eraseLong slot) ∧ SameCoding hCtx after ∧
      after.picture = hCtx.picture := by
  have inside := long_slot_inside here
  have fewer := @used_take Pic MAX_PICTURE_COUNT slot refs.long pic
    (by unfold MAX_PICTURE_COUNT; omega) here
  have count := kept.longCount
  unfold H264RemoveLong_at_index at step
  split_ifs at step
  obtain rfl := Option.some.inj step
  refine ⟨⟨kept.shortCount, kept.front, ?_, ?_⟩, (SameCoding.refl hCtx).lists _ _ _ _, rfl⟩
  · simp only [RefSet.eraseLong, kept.long]
  · simp only [RefSet.eraseLong, count]
    omega

theorem find_short_from_spec {frameNum : Int} {found : Option (Pic × Nat)}
    (left i : Nat) (rest : i + left = refs.short.length)
    (step : findShortFrom hCtx frameNum left i = some found) :
    (∀ other j, found = some (other, j) →
      refs.short[j]? = some other ∧ (hCtx.picture other).nFrmNum = frameNum) ∧
    (found = none → ∀ j other, i ≤ j → refs.short[j]? = some other →
      (hCtx.picture other).nFrmNum ≠ frameNum) := by
  induction left generalizing i with
  | zero =>
    obtain rfl : none = found := Option.some.inj step
    constructor
    · intro other j impossible
      cases impossible
    · intro _ j other behind here
      have inside := (List.getElem?_eq_some_iff.mp here).1
      omega
  | succ left ih =>
    have small := @short_length_le refs
    have inTable : ¬ MAX_PICTURE_COUNT ≤ i := by omega
    simp only [findShortFrom, if_neg inTable, bind_eq_some_iff] at step
    obtain ⟨candidate, holds, step⟩ := step
    rw [kept.front i (by omega)] at holds
    split_ifs at step with same
    · obtain rfl : some (candidate, i) = found := Option.some.inj step
      constructor
      · intro other j equal
        obtain ⟨rfl, rfl⟩ := Prod.mk.inj (Option.some.inj equal)
        exact ⟨holds, same⟩
      · intro impossible
        cases impossible
    · obtain ⟨later, absent⟩ := ih (i + 1) (by omega) step
      refine ⟨later, ?_⟩
      intro missing j other behind here
      by_cases first : j = i
      · subst first
        rw [holds] at here
        obtain rfl : candidate = other := Option.some.inj here
        exact same
      · exact absent missing j other (by omega) here

theorem find_short_found {frameNum : Int} {i : Nat}
    (step : H264FindShort hCtx frameNum = some (some (pic, i))) : refs.short[i]? = some pic := by
  have spec := find_short_from_spec kept hCtx.nShortRefCount 0 (by rw [kept.shortCount]; omega) step
  exact (spec.1 pic i rfl).1

theorem find_short_missing {frameNum : Int} (step : H264FindShort hCtx frameNum = some none) :
    ∀ other ∈ refs.short, (hCtx.picture other).nFrmNum ≠ frameNum := by
  have spec := find_short_from_spec kept hCtx.nShortRefCount 0 (by rw [kept.shortCount]; omega) step
  intro other listed
  obtain ⟨j, here⟩ := mem_iff_getElem?.mp listed
  exact spec.2 rfl j other (Nat.zero_le j) here

theorem remove_short_by_number {frameNum : Int} {removed : Option Pic}
    (step : H264RemoveShort hCtx frameNum = some (after, removed)) :
    (removed = none ∧ after = hCtx ∧
      ∀ other ∈ refs.short, (hCtx.picture other).nFrmNum ≠ frameNum) ∨
    ∃ other i, removed = some other ∧ refs.short[i]? = some other ∧
      Represents after (refs.eraseShort i) ∧ SameCoding hCtx after ∧
      after.picture = hCtx.picture := by
  unfold H264RemoveShort at step
  obtain ⟨found, search, step⟩ := bind_eq_some_iff.mp step
  cases found with
  | none =>
    obtain ⟨rfl, rfl⟩ := Prod.mk.inj (Option.some.inj step)
    exact Or.inl ⟨rfl, rfl, find_short_missing kept search⟩
  | some found =>
    obtain ⟨other, i⟩ := found
    obtain ⟨left, removal, equal⟩ := map_eq_some_iff.mp step
    obtain ⟨rfl, rfl⟩ := Prod.mk.inj equal
    have here := find_short_found kept search
    have inside := (List.getElem?_eq_some_iff.mp here).1
    exact Or.inr ⟨other, i, rfl, here, remove_short_spec kept inside removal⟩

theorem drop_short_spec {frameNum : Int} (step : dropShort hCtx frameNum = some after) :
    ∃ left, Shrinks hCtx refs after left ∧
      ((∃ other ∈ refs.short, (hCtx.picture other).nFrmNum = frameNum) →
        left.size + 1 ≤ refs.size) := by
  unfold dropShort at step
  obtain ⟨⟨removed, pic⟩, removal, rfl⟩ := map_eq_some_iff.mp step
  cases remove_short_by_number kept removal with
  | inl missing =>
    obtain ⟨rfl, rfl, absent⟩ := missing
    refine ⟨refs, Shrinks.refl kept, ?_⟩
    intro shared
    obtain ⟨other, listed, same⟩ := shared
    exact absurd same (absent other listed)
  | inr found =>
    obtain ⟨other, i, rfl, here, left, same, pictures⟩ := found
    have touched := unn_reference_touches removed other 0
    refine ⟨refs.eraseShort i, erase_short_shrinks here (touched.represents left)
      (same.trans touched.same) ?_, ?_⟩
    · intro another apart
      exact (touched.other apart).trans (congrFun pictures another)
    · intro _
      exact Nat.le_of_eq (erase_short_size (List.getElem?_eq_some_iff.mp here).1)

theorem drop_long_spec {slot : Nat} (step : dropLong hCtx slot = some after) :
    ∃ left, Shrinks hCtx refs after left ∧ left.short = refs.short ∧
      ∀ i other, left.long i = some other → i ≠ slot ∧ refs.long i = some other := by
  unfold dropLong H264RemoveLong at step
  obtain ⟨⟨removed, pic⟩, removal, rfl⟩ := map_eq_some_iff.mp step
  split_ifs at removal
  cases held : refs.long slot with
  | none =>
    simp only [kept.long, held, Option.some.injEq, Prod.mk.injEq] at removal
    obtain ⟨rfl, rfl⟩ := removal
    refine ⟨refs, Shrinks.refl kept, rfl, ?_⟩
    intro i other there
    refine ⟨?_, there⟩
    rintro rfl
    rw [held] at there
    cases there
  | some other =>
    simp only [kept.long, held, map_eq_some_iff, Prod.mk.injEq] at removal
    obtain ⟨left, removal, rfl, rfl⟩ := removal
    obtain ⟨represented, same, pictures⟩ := remove_long_spec kept held removal
    have touched := unn_reference_touches left other 0
    refine ⟨refs.eraseLong slot, erase_long_shrinks held (touched.represents represented)
      (same.trans touched.same) ?_, rfl, ?_⟩
    · intro another apart
      exact (touched.other apart).trans (congrFun pictures another)
    · intro i another there
      exact update_none_held there

omit kept

theorem put_long_represents {slot : Nat} {info : H264PicInfo} (kept : Represents hCtx refs)
    (inside : slot < 16) (free : refs.long slot = none) (unlisted : ¬ refs.Listed pic) :
    Represents
      { hCtx.setPicture pic info with
        pLongRef := update hCtx.pLongRef slot (some pic)
        nLongRefCount := hCtx.nLongRefCount + 1 }
      (refs.putLong slot pic inside unlisted) where
  shortCount := kept.shortCount
  front := kept.front
  long := by
    simp only [RefSet.putLong, kept.long]
  longCount := by
    have more := @used_put Pic MAX_PICTURE_COUNT slot refs.long pic
      (by unfold MAX_PICTURE_COUNT; omega) free
    have count := kept.longCount
    simp only [RefSet.putLong]
    omega

theorem put_long_size {slot : Nat} (inside : slot < 16) (free : refs.long slot = none)
    (unlisted : ¬ refs.Listed pic) :
    (refs.putLong slot pic inside unlisted).size = refs.size + 1 := by
  have more := @used_put Pic MAX_PICTURE_COUNT slot refs.long pic
    (by unfold MAX_PICTURE_COUNT; omega) free
  simp only [RefSet.size, RefSet.putLong]
  omega

end Lists

section Commands

theorem keeps_field_shrinks {refmask : Nat} (kept : Represents hCtx refs) (small : refmask < 2 ^ 2)
    (used : (H264UnnReferencePic hCtx pic refmask).2 = false) :
    Shrinks hCtx refs (H264UnnReferencePic hCtx pic refmask).1 refs where
  represents := (unn_reference_touches hCtx pic refmask).represents kept
  same := (unn_reference_touches hCtx pic refmask).same
  short := fun _ listed => listed
  long := fun i _ held => Or.inl ⟨i, held⟩
  reference := by
    intro other _ marked
    by_cases same : other = pic
    · subst same
      exact unn_reference_keeps_field small used
    · rw [(unn_reference_touches hCtx pic refmask).other same]
      exact marked
  size := Nat.le_refl _

theorem structure_bits_small (coded : PicStructure) : coded.bits < 2 ^ 2 := by
  cases coded <;> decide

theorem extracted_structure_small (hCtx : H264Context) (picNum : Int) :
    (H264PicNumExtract hCtx picNum).2 ^^^ 3 < 2 ^ 2 := by
  have bits := structure_bits_small hCtx.nPicStructure
  unfold H264PicNumExtract
  dsimp only
  split_ifs
  · exact Nat.xor_lt_two_pow (Nat.xor_lt_two_pow bits (by decide)) (by decide)
  all_goals exact Nat.xor_lt_two_pow bits (by decide)

theorem short_to_unused_spec {nShortPicNum : Int} (kept : Represents hCtx refs)
    (step : shortToUnused hCtx nShortPicNum = some after) :
    ∃ left, Shrinks hCtx refs after left := by
  have small := extracted_structure_small hCtx nShortPicNum
  unfold shortToUnused at step
  generalize H264PicNumExtract hCtx nShortPicNum = extracted at small step
  obtain ⟨frameNum, named⟩ := extracted
  obtain ⟨found, search, step⟩ := bind_eq_some_iff.mp step
  cases found with
  | none =>
    obtain rfl := Option.some.inj step
    exact ⟨refs, Shrinks.refl kept⟩
  | some found =>
    obtain ⟨pic, j⟩ := found
    have here := find_short_found kept search
    have touched := unn_reference_touches hCtx pic (named ^^^ 3)
    cases unused : (H264UnnReferencePic hCtx pic (named ^^^ 3)).2 with
    | false =>
      simp only [unused, Bool.false_eq_true, if_false, Option.some.injEq] at step
      subst step
      exact ⟨refs, keeps_field_shrinks kept small unused⟩
    | true =>
      simp only [unused, if_true] at step
      have inside := (List.getElem?_eq_some_iff.mp here).1
      obtain ⟨left, same, pictures⟩ := remove_short_spec (touched.represents kept) inside step
      refine ⟨refs.eraseShort j, erase_short_shrinks here left (touched.same.trans same) ?_⟩
      intro other apart
      rw [pictures, touched.other apart]

theorem long_to_unused_spec {bLongArg : Nat} (kept : Represents hCtx refs)
    (step : longToUnused hCtx bLongArg = some after) :
    ∃ left, Shrinks hCtx refs after left := by
  have small := extracted_structure_small hCtx bLongArg
  unfold longToUnused at step
  generalize H264PicNumExtract hCtx bLongArg = extracted at small step
  obtain ⟨j, named⟩ := extracted
  dsimp only at step
  split_ifs at step
  rw [kept.long] at step
  cases here : refs.long j.toNat with
  | none =>
    simp only [here, Option.some.injEq] at step
    subst step
    exact ⟨refs, Shrinks.refl kept⟩
  | some pic =>
    have touched := unn_reference_touches hCtx pic (named ^^^ 3)
    cases unused : (H264UnnReferencePic hCtx pic (named ^^^ 3)).2 with
    | false =>
      simp only [here, unused, Bool.false_eq_true, if_false, Option.some.injEq] at step
      subst step
      exact ⟨refs, keeps_field_shrinks kept small unused⟩
    | true =>
      simp only [here, unused, if_true] at step
      obtain ⟨left, same, pictures⟩ := remove_long_spec (touched.represents kept) here step
      refine ⟨_, erase_long_shrinks here left (touched.same.trans same) ?_⟩
      intro other apart
      rw [pictures, touched.other apart]

theorem move_to_long_shrinks {moved : H264Context} {slot i : Nat} {info : H264PicInfo}
    (here : refs.short[i]? = some pic) (inside : slot < 16) (free : refs.long slot = none)
    (left : Represents moved (refs.eraseShort i)) (same : SameCoding hCtx moved)
    (pictures : moved.picture = hCtx.picture) (number : info.nFrmNum = (moved.picture pic).nFrmNum)
    (reference : info.nReference = (moved.picture pic).nReference) :
    Shrinks hCtx refs
      { moved.setPicture pic info with
        pLongRef := update moved.pLongRef slot (some pic)
        nLongRefCount := moved.nLongRefCount + 1 }
      ((refs.eraseShort i).putLong slot pic inside (erased_short_unlisted here)) where
  represents := put_long_represents left inside free (erased_short_unlisted here)
  same := by
    exact (same.trans (set_picture_same_coding number)).lists _ _ _ _
  short := fun _ listed => mem_of_mem_eraseIdx listed
  long := by
    intro j other held
    by_cases there : j = slot
    · subst there
      have same : pic = other := by simpa [RefSet.putLong] using held
      exact Or.inr (same ▸ mem_of_getElem? here)
    · have earlier : refs.long j = some other := by
        simpa [RefSet.putLong, RefSet.eraseShort, update_of_ne there] using held
      exact Or.inl ⟨j, earlier⟩
  reference := by
    intro other _ marked
    by_cases equal : other = pic
    · subst equal
      show ((moved.setPicture other info).picture other).nReference ≠ 0
      rw [set_picture_self, reference, pictures]
      exact marked
    · show ((moved.setPicture pic info).picture other).nReference ≠ 0
      rw [set_picture_other equal, pictures]
      exact marked
  size := by
    have freed : (refs.eraseShort i).long slot = none := free
    have more := put_long_size inside freed (erased_short_unlisted here)
    have fewer := erase_short_size (List.getElem?_eq_some_iff.mp here).1
    omega

variable (kept : Represents hCtx refs)

include kept

theorem short_to_long_spec {nShortPicNum : Int} {bLongArg : Nat}
    (inside : bLongArg < 16) (step : shortToLong hCtx nShortPicNum bLongArg = some after) :
    ∃ left, Shrinks hCtx refs after left := by
  have inTable : ¬ MAX_PICTURE_COUNT ≤ bLongArg := by
    unfold MAX_PICTURE_COUNT
    omega
  unfold shortToLong at step
  rw [if_neg inTable] at step
  by_cases moved : alreadyMoved hCtx nShortPicNum bLongArg = true
  · rw [if_pos moved] at step
    obtain rfl := Option.some.inj step
    exact ⟨refs, Shrinks.refl kept⟩
  · rw [if_neg moved] at step
    obtain ⟨freed, drop, step⟩ := bind_eq_some_iff.mp step
    obtain ⟨⟨moved, found⟩, removal, rfl⟩ := map_eq_some_iff.mp step
    obtain ⟨between, dropped, -, others⟩ := drop_long_spec kept drop
    have free : between.long bLongArg = none := by
      cases held : between.long bLongArg with
      | none => rfl
      | some other => exact absurd rfl (others bLongArg other held).1
    cases remove_short_by_number dropped.represents removal with
    | inl missing =>
      obtain ⟨rfl, rfl, -⟩ := missing
      have unchanged : update moved.pLongRef bLongArg none = moved.pLongRef := by
        rw [dropped.represents.long, ← free]
        exact update_eq_self bLongArg between.long
      refine ⟨between, { dropped with represents := ?_, same := ?_ }⟩
      · exact represents_of_same dropped.represents rfl rfl unchanged rfl
      · exact dropped.same.lists _ _ _ _
    | inr shifted =>
      obtain ⟨pic, i, rfl, here, left, same, pictures⟩ := shifted
      exact ⟨_, dropped.trans
        (move_to_long_shrinks here inside free left same pictures rfl rfl)⟩

theorem drop_longs_spec {slots : List Nat}
    (step : slots.foldlM dropLong hCtx = some after) : ∃ left, Shrinks hCtx refs after left := by
  induction slots generalizing hCtx refs with
  | nil =>
    obtain rfl := Option.some.inj step
    exact ⟨refs, Shrinks.refl kept⟩
  | cons slot rest ih =>
    rw [foldlM_cons] at step
    obtain ⟨middle, drop, step⟩ := bind_eq_some_iff.mp step
    obtain ⟨between, dropped, -, -⟩ := drop_long_spec kept drop
    obtain ⟨left, later⟩ := ih dropped.represents step
    exact ⟨left, dropped.trans later⟩

theorem reset_short_spec {rounds : Nat}
    (step : resetShort rounds hCtx = some after) : ∃ left, Shrinks hCtx refs after left := by
  induction rounds generalizing hCtx refs with
  | zero =>
    unfold resetShort at step
    split_ifs at step
    obtain rfl := Option.some.inj step
    exact ⟨refs, Shrinks.refl kept⟩
  | succ rounds ih =>
    unfold resetShort at step
    split_ifs at step
    · obtain rfl := Option.some.inj step
      exact ⟨refs, Shrinks.refl kept⟩
    · obtain ⟨pic, _, step⟩ := bind_eq_some_iff.mp step
      obtain ⟨middle, drop, step⟩ := bind_eq_some_iff.mp step
      obtain ⟨between, dropped, -⟩ := drop_short_spec kept drop
      obtain ⟨left, later⟩ := ih dropped.represents step
      exact ⟨left, dropped.trans later⟩

omit kept

/-- A coded long-term index; `MMCO_LONG_TO_UNUSED` may name a field. -/
def Coded : H264MmcoInfo → Prop
  | .MMCO_SHORT_TO_LONG _ bLongArg => bLongArg < 16
  | .MMCO_LONG bLongArg => bLongArg < 16
  | _ => True

theorem execute_shrinks {command : H264MmcoInfo} {assigned nowAssigned : Bool}
    (kept : Represents hCtx refs) (coded : Coded command)
    (other : ∀ bLongArg, command ≠ .MMCO_LONG bLongArg)
    (step : executeMmco hCtx assigned command = some (after, nowAssigned)) :
    nowAssigned = assigned ∧ ∃ left, Shrinks hCtx refs after left := by
  cases command with
  | MMCO_SHORT_TO_UNUSED nShortPicNum =>
    obtain ⟨_, executed, equal⟩ := map_eq_some_iff.mp step
    obtain ⟨rfl, rfl⟩ := Prod.mk.inj equal
    exact ⟨rfl, short_to_unused_spec kept executed⟩
  | MMCO_LONG_TO_UNUSED bLongArg =>
    obtain ⟨_, executed, equal⟩ := map_eq_some_iff.mp step
    obtain ⟨rfl, rfl⟩ := Prod.mk.inj equal
    exact ⟨rfl, long_to_unused_spec kept executed⟩
  | MMCO_SHORT_TO_LONG nShortPicNum bLongArg =>
    obtain ⟨_, executed, equal⟩ := map_eq_some_iff.mp step
    obtain ⟨rfl, rfl⟩ := Prod.mk.inj equal
    exact ⟨rfl, short_to_long_spec kept coded executed⟩
  | MMCO_SET_MAX_LONG bLongArg =>
    obtain ⟨_, executed, equal⟩ := map_eq_some_iff.mp step
    obtain ⟨rfl, rfl⟩ := Prod.mk.inj equal
    exact ⟨rfl, drop_longs_spec kept executed⟩
  | MMCO_RESET =>
    obtain ⟨middle, reset, step⟩ := bind_eq_some_iff.mp step
    obtain ⟨_, executed, equal⟩ := map_eq_some_iff.mp step
    obtain ⟨rfl, rfl⟩ := Prod.mk.inj equal
    obtain ⟨between, shortened⟩ := reset_short_spec kept reset
    obtain ⟨left, later⟩ := drop_longs_spec shortened.represents executed
    exact ⟨rfl, left, shortened.trans later⟩
  | MMCO_LONG bLongArg => exact absurd rfl (other bLongArg)
  | unknown =>
    obtain ⟨rfl, rfl⟩ := Prod.mk.inj (Option.some.inj step)
    exact ⟨rfl, refs, Shrinks.refl kept⟩

theorem add_structure_touches (hCtx : H264Context) (cur : Pic) :
    Touches hCtx cur (addStructure hCtx cur) :=
  set_reference_touches hCtx cur _

theorem add_structure_reference (hCtx : H264Context) (cur : Pic) :
    ((addStructure hCtx cur).picture cur).nReference ≠ 0 := by
  unfold addStructure H264Context.setReference
  rw [set_picture_self]
  intro empty
  have none := (Nat.or_eq_zero_iff.mp empty).2
  cases coded : hCtx.nPicStructure <;> rw [coded] at none <;> exact absurd none (by decide)

/-- What a picture that enters the lists finds: the short list only loses
pictures, and the picture is a reference. -/
structure Enters (hCtx : H264Context) (refs : RefSet Pic) (cur : Pic) (after : H264Context)
    (left : RefSet Pic) : Prop where
  represents : Represents after left
  same : SameCoding hCtx after
  reference : (after.picture cur).nReference ≠ 0

theorem long_spec {bLongArg : Nat} {cur : Pic} (kept : Represents hCtx refs)
    (current : hCtx.pCurPicturePtr = some cur) (inside : bLongArg < 16)
    (free : takesSlot hCtx cur bLongArg = true →
      cur ∉ refs.short ∧ ∀ i, i ≠ bLongArg → refs.long i ≠ some cur)
    (step : long hCtx bLongArg = some after) :
    ∃ left, Enters hCtx refs cur after left ∧ ∀ pic ∈ left.short, pic ∈ refs.short := by
  unfold long at step
  split_ifs at step
  rw [current] at step
  obtain ⟨placed, place, rfl⟩ := map_eq_some_iff.mp step
  have touched := add_structure_touches placed cur
  split_ifs at place with takes
  · obtain ⟨notShort, elsewhere⟩ := free takes
    unfold putLong at place
    obtain ⟨freed, drop, placedIs⟩ := map_eq_some_iff.mp place
    obtain ⟨between, dropped, short, others⟩ := drop_long_spec kept drop
    have empty : between.long bLongArg = none := by
      cases held : between.long bLongArg with
      | none => rfl
      | some other => exact absurd rfl (others bLongArg other held).1
    have unlisted : ¬ between.Listed cur := by
      intro listed
      cases listed with
      | inl listed => exact notShort (short ▸ listed)
      | inr listed =>
        obtain ⟨i, held⟩ := listed
        obtain ⟨apart, earlier⟩ := others i cur held
        exact elsewhere i apart earlier
    have put := @put_long_represents freed between cur bLongArg
      { freed.picture cur with bLongRef := true } dropped.represents inside empty unlisted
    rw [placedIs] at put
    have coding := dropped.same.trans (@set_picture_same_coding freed cur
      { freed.picture cur with bLongRef := true } rfl)
    have same : SameCoding hCtx placed := by
      rw [← placedIs]
      exact coding.lists _ _ _ _
    exact ⟨between.putLong bLongArg cur inside unlisted, ⟨touched.represents put,
      same.trans touched.same, add_structure_reference _ cur⟩, fun pic listed => short ▸ listed⟩
  · obtain rfl := Option.some.inj place
    exact ⟨refs, ⟨touched.represents kept, touched.same, add_structure_reference _ cur⟩,
      fun _ listed => listed⟩

theorem insert_short_spec {cur : Pic} (kept : Represents hCtx refs)
    (unlisted : ¬ refs.Listed cur) (step : insertShort hCtx cur = some after) :
    ∃ left, Enters hCtx refs cur after left ∧ left.size ≤ refs.size + 1 ∧
      ((∃ other ∈ refs.short, (hCtx.picture other).nFrmNum = (hCtx.picture cur).nFrmNum) →
        left.size ≤ refs.size) := by
  unfold insertShort at step
  obtain ⟨dropped, drop, step⟩ := bind_eq_some_iff.mp step
  obtain ⟨between, shrunk, shared⟩ := drop_short_spec kept drop
  split_ifs at step
  obtain rfl := Option.some.inj step
  have fresh : ¬ between.Listed cur := fun listed => unlisted (shrunk.listed listed)
  have count := shrunk.represents.shortCount
  have coding := shrunk.same.trans (@set_picture_same_coding dropped cur
    { dropped.picture cur with bLongRef := false } rfl)
  generalize pushedIs :
    { dropped.setPicture cur { dropped.picture cur with bLongRef := false } with
      pShortRef := update (moveUp dropped.nShortRefCount dropped.pShortRef) 0 (some cur)
      nShortRefCount := dropped.nShortRefCount + 1 } = pushed
  have represented : Represents pushed (between.pushShort cur fresh) := by
    rw [← pushedIs]
    refine ⟨?_, ?_, shrunk.represents.long, shrunk.represents.longCount⟩
    · simp only [RefSet.pushShort, length_cons, count]
    · simp only [RefSet.pushShort, count]
      exact front_move_up cur shrunk.represents.front
  have same : SameCoding hCtx pushed := by
    rw [← pushedIs]
    exact coding.lists _ _ _ _
  have size : (between.pushShort cur fresh).size = between.size + 1 := by
    simp only [RefSet.size, RefSet.pushShort, length_cons]
    omega
  have smaller := shrunk.size
  have touched := add_structure_touches pushed cur
  refine ⟨between.pushShort cur fresh, ⟨touched.represents represented, same.trans touched.same,
    add_structure_reference pushed cur⟩, by omega, ?_⟩
  intro sharesNumber
  have less := shared sharesNumber
  omega

end Commands

section Finish

theorem used_slot_below {table : Nat → Option Pic} (used : 0 < used MAX_PICTURE_COUNT table)
    (inTable : ∀ i, 16 ≤ i → table i = none) :
    ∃ i, (List.range 16).find? (fun i => (table i).isSome) = some i := by
  cases search : (List.range 16).find? (fun i => (table i).isSome) with
  | some i => exact ⟨i, rfl⟩
  | none =>
    have empty : ∀ slot, slot < MAX_PICTURE_COUNT → table slot = none := by
      intro slot _
      by_cases inside : slot < 16
      · simpa using List.find?_eq_none.mp search slot (mem_range.mpr inside)
      · exact inTable slot (by omega)
    have none := used_eq_zero.mpr empty
    omega

theorem drop_surplus_spec (kept : Represents hCtx refs) (step : dropSurplus hCtx = some after) :
    ∃ left, Shrinks hCtx refs after left ∧
      (hCtx.nRefFrmCount < refs.size → left.size + 1 = refs.size) := by
  have shortCount := kept.shortCount
  have longCount := kept.longCount
  have size : refs.size = refs.short.length + used MAX_PICTURE_COUNT refs.long := rfl
  unfold dropSurplus at step
  by_cases surplus : hCtx.nRefFrmCount < hCtx.nLongRefCount + hCtx.nShortRefCount
  · rw [if_pos surplus] at step
    by_cases onlyLong : hCtx.nLongRefCount ≠ 0 ∧ hCtx.nShortRefCount = 0
    · rw [if_pos onlyLong] at step
      obtain ⟨i, search⟩ := @used_slot_below refs.long (by omega) refs.inTable
      simp only [kept.long, search, getD_some] at step
      obtain ⟨removed, removal, rfl⟩ := map_eq_some_iff.mp step
      have held := List.find?_some search
      obtain ⟨pic, here⟩ := isSome_iff_exists.mp held
      obtain ⟨left, same, pictures⟩ := remove_long_spec kept here removal
      have touched := unn_reference_touches removed pic 0
      rw [here]
      refine ⟨refs.eraseLong i, erase_long_shrinks here (touched.represents left)
        (same.trans touched.same) ?_, fun _ => erase_long_size here⟩
      intro other apart
      exact (touched.other apart).trans (congrFun pictures other)
    · rw [if_neg onlyLong] at step
      cases many : hCtx.nShortRefCount with
      | zero =>
        rw [many] at step
        cases step
      | succ count =>
        rw [many] at step
        obtain ⟨removed, removal, rfl⟩ := map_eq_some_iff.mp step
        have inside : count < refs.short.length := by omega
        have here := List.getElem?_eq_getElem inside
        obtain ⟨left, same, pictures⟩ := remove_short_spec kept inside removal
        have touched := unn_reference_touches removed refs.short[count] 0
        rw [kept.front count inside, here]
        refine ⟨refs.eraseShort count, erase_short_shrinks here (touched.represents left)
          (same.trans touched.same) ?_, fun _ => erase_short_size inside⟩
        intro other apart
        exact (touched.other apart).trans (congrFun pictures other)
  · rw [if_neg surplus] at step
    obtain rfl := Option.some.inj step
    refine ⟨refs, Shrinks.refl kept, ?_⟩
    intro more
    omega

/-- Whether the current picture goes to the front of the short list. -/
def inserts (hCtx : H264Context) (cur : Pic) (currentRefAssigned : Bool) : Bool :=
  !currentRefAssigned && !continuesReference hCtx cur

/-- The pictures that the lists gain: none when an old one with the same number
goes. -/
def gained (hCtx : H264Context) (cur : Pic) (currentRefAssigned : Bool) : Nat :=
  if inserts hCtx cur currentRefAssigned ∧
      ¬ ∃ i < hCtx.nShortRefCount, (hCtx.pShortRef i).any fun other =>
        decide ((hCtx.picture other).nFrmNum = (hCtx.picture cur).nFrmNum) then 1
  else 0

variable {cur : Pic} {currentRefAssigned : Bool}

theorem place_current_spec (kept : Represents hCtx refs)
    (marked : refs.Listed cur → (hCtx.picture cur).nReference ≠ 0)
    (unlisted : inserts hCtx cur currentRefAssigned = true → ¬ refs.Listed cur)
    (step : placeCurrent hCtx cur currentRefAssigned = some after) :
    ∃ left, Represents after left ∧ SameCoding hCtx after ∧
      (left.Listed cur → (after.picture cur).nReference ≠ 0) ∧
      left.size ≤ refs.size + gained hCtx cur currentRefAssigned := by
  unfold placeCurrent at step
  by_cases assigned : currentRefAssigned = true
  · rw [if_pos assigned] at step
    obtain rfl := Option.some.inj step
    exact ⟨refs, kept, SameCoding.refl hCtx, marked, Nat.le_add_right _ _⟩
  rw [if_neg assigned] at step
  by_cases continues : continuesReference hCtx cur = true
  · rw [if_pos continues] at step
    split_ifs at step
    · obtain rfl := Option.some.inj step
      have touched := set_reference_touches hCtx cur PicStructure.PICT_FRAME.bits
      refine ⟨refs, touched.represents kept, touched.same, ?_, Nat.le_add_right _ _⟩
      intro _
      rw [H264Context.setReference, set_picture_self]
      exact Nat.succ_ne_zero 2
    · obtain rfl := Option.some.inj step
      exact ⟨refs, kept, SameCoding.refl hCtx, marked, Nat.le_add_right _ _⟩
  rw [if_neg continues] at step
  have insertion : inserts hCtx cur currentRefAssigned = true := by
    simp [inserts, assigned, continues]
  obtain ⟨left, entered, more, shared⟩ := insert_short_spec kept (unlisted insertion) step
  refine ⟨left, entered.represents, entered.same, fun _ => entered.reference, ?_⟩
  by_cases same : ∃ other ∈ refs.short, (hCtx.picture other).nFrmNum = (hCtx.picture cur).nFrmNum
  · exact Nat.le_trans (shared same) (Nat.le_add_right _ _)
  · have fresh : gained hCtx cur currentRefAssigned = 1 := by
      refine if_pos ⟨insertion, ?_⟩
      intro held
      obtain ⟨i, inside, held⟩ := held
      rw [kept.shortCount] at inside
      rw [kept.front i inside, List.getElem?_eq_getElem inside] at held
      exact same ⟨refs.short[i], getElem_mem inside, by simpa using held⟩
    rw [fresh]
    exact more

theorem finish_marking_spec (kept : Represents hCtx refs) (current : hCtx.pCurPicturePtr = some cur)
    (marked : refs.Listed cur → (hCtx.picture cur).nReference ≠ 0)
    (unlisted : inserts hCtx cur currentRefAssigned = true → ¬ refs.Listed cur)
    (room : (refs.size + gained hCtx cur currentRefAssigned : Int) ≤
      max hCtx.nRefFrmCount 1 + 1) (step : finishMarking hCtx currentRefAssigned = some after) :
    ∃ left, Represents after left ∧ SameCoding hCtx after ∧
      (left.Listed cur → (after.picture cur).nReference ≠ 0) ∧
      (left.size : Int) ≤ max after.nRefFrmCount 1 := by
  unfold finishMarking at step
  rw [current, bind_some] at step
  obtain ⟨placed, place, surplus⟩ := bind_eq_some_iff.mp step
  obtain ⟨between, represented, same, reference, size⟩ :=
    place_current_spec kept marked unlisted place
  obtain ⟨left, shrunk, less⟩ := drop_surplus_spec represented surplus
  refine ⟨left, shrunk.represents, same.trans shrunk.same, ?_, ?_⟩
  · intro listed
    exact shrunk.reference cur listed (reference (shrunk.listed listed))
  · have limit : after.nRefFrmCount = hCtx.nRefFrmCount := (same.trans shrunk.same).limit
    have placedLimit := same.limit
    have smaller := shrunk.size
    rw [limit]
    by_cases more : placed.nRefFrmCount < between.size
    · have one := less more
      omega
    · omega

end Finish

theorem refresh_long_rounds (rounds : Nat) :
    SameCoding hCtx ((List.range rounds).foldl refreshLongSlot hCtx) ∧
      ∀ i, ((List.range rounds).foldl refreshLongSlot hCtx).pLongRef i =
        if i < rounds ∧ i < MAX_PICTURE_COUNT then none else hCtx.pLongRef i := by
  induction rounds with
  | zero =>
    refine ⟨SameCoding.refl hCtx, ?_⟩
    intro i
    simp
  | succ rounds ih =>
    obtain ⟨same, slots⟩ := ih
    rw [range_succ, foldl_append, foldl_cons, foldl_nil]
    generalize (List.range rounds).foldl refreshLongSlot hCtx = middle at same slots ⊢
    unfold refreshLongSlot
    split_ifs with inside
    · cases held : middle.pLongRef rounds with
      | none =>
        refine ⟨same, ?_⟩
        intro i
        rw [slots]
        by_cases here : i = rounds
        · subst here
          rw [if_neg (by omega), if_pos (by omega), ← held, slots, if_neg (by omega)]
        · exact if_congr (by omega) rfl rfl
      | some pic =>
        have coding := same.trans (unn_reference_touches middle pic 0).same
        refine ⟨coding.lists _ _ _ _, ?_⟩
        intro i
        by_cases here : i = rounds
        · subst here
          simp [inside]
        · dsimp only
          rw [update_of_ne here, slots]
          exact if_congr (by omega) rfl rfl
    · refine ⟨same, ?_⟩
      intro i
      rw [slots]
      exact if_congr (by omega) rfl rfl

theorem refresh_short_rounds {slots : List Nat}
    (step : slots.foldlM refreshShortSlot hCtx = some after) :
    SameCoding hCtx after ∧ after.pLongRef = hCtx.pLongRef ∧
      after.nLongRefCount = hCtx.nLongRefCount := by
  induction slots generalizing hCtx with
  | nil =>
    obtain rfl := Option.some.inj step
    exact ⟨SameCoding.refl hCtx, rfl, rfl⟩
  | cons slot rest ih =>
    rw [foldlM_cons] at step
    obtain ⟨middle, round, step⟩ := bind_eq_some_iff.mp step
    obtain ⟨laterSame, laterLong, laterCount⟩ := ih step
    unfold refreshShortSlot at round
    split_ifs at round
    · obtain ⟨pic, _, rfl⟩ := map_eq_some_iff.mp round
      have touched := unn_reference_touches hCtx pic 0
      obtain ⟨info, only⟩ := touched.only
      refine ⟨(touched.same.lists _ _ _ _).trans laterSame, ?_, ?_⟩
      · rw [laterLong, only]
        rfl
      · rw [laterCount, only]
        rfl
    · obtain rfl := Option.some.inj round
      exact ⟨laterSame, laterLong, laterCount⟩

/-- The refresh empties both lists when the long one has no entry behind its
count. -/
theorem reference_refresh_spec (kept : Represents hCtx refs)
    (dense : ∀ i < MAX_PICTURE_COUNT, hCtx.nLongRefCount ≤ i → hCtx.pLongRef i = none)
    (step : H264ReferenceRefresh hCtx = some after) :
    Represents after RefSet.empty ∧ SameCoding hCtx after := by
  unfold H264ReferenceRefresh at step
  obtain ⟨shortened, rounds, rfl⟩ := map_eq_some_iff.mp step
  obtain ⟨same, long, count⟩ := refresh_short_rounds rounds
  obtain ⟨longSame, slots⟩ := @refresh_long_rounds hCtx hCtx.nLongRefCount.toNat
  have coding := (longSame.lists _ _ _ _).trans same
  have empty : shortened.pLongRef = fun _ => none := by
    rw [long]
    funext i
    have slot := slots i
    by_cases inTable : i < MAX_PICTURE_COUNT
    · by_cases below : i < hCtx.nLongRefCount.toNat
      · rw [if_pos ⟨below, inTable⟩] at slot
        exact slot
      · rw [if_neg (by omega)] at slot
        exact slot.trans (dense i inTable (by omega))
    · rw [if_neg (by omega), kept.long, refs.inTable i
        (by unfold MAX_PICTURE_COUNT at inTable; omega)] at slot
      exact slot
  refine ⟨⟨rfl, front_nil _, empty, ?_⟩, coding.lists _ _ _ _⟩
  have none := @used_eq_zero Pic MAX_PICTURE_COUNT RefSet.empty.long
  rw [none.mpr fun _ _ => rfl]
  exact count

end CedarC.H264MmcoSteps
