import CedarC.H264RefMarking
import Mathlib.Data.Fintype.Card

/-!
# Sets of reference pictures

What the two reference arrays stand for: short-term pictures in their order and
long-term pictures by index, all of them different. The arrays of the decoder
represent such a set, and the operations that only take pictures out, or move
them from the short to the long list, are instances of one relation.
-/

namespace CedarC.H264RefSets

open SlotTables H264RefMarking Function List

section Sets

variable {α : Type*}

structure RefSet (α : Type*) where
  short : List α
  long : Nat → Option α
  nodup : short.Nodup
  injective : ∀ i j pic, long i = some pic → long j = some pic → i = j
  apart : ∀ i pic, long i = some pic → pic ∉ short
  inTable : ∀ i, 16 ≤ i → long i = none

def RefSet.Listed (refs : RefSet α) (pic : α) : Prop :=
  pic ∈ refs.short ∨ ∃ i, refs.long i = some pic

def RefSet.size (refs : RefSet α) : Nat := refs.short.length + used MAX_PICTURE_COUNT refs.long

def RefSet.empty : RefSet α where
  short := []
  long := fun _ => none
  nodup := nodup_nil
  injective := by
    intro i j pic held
    cases held
  apart := by
    intro i pic held
    cases held
  inTable := fun _ _ => rfl

def RefSet.eraseShort (refs : RefSet α) (i : Nat) : RefSet α where
  short := refs.short.eraseIdx i
  long := refs.long
  nodup := refs.nodup.sublist (eraseIdx_sublist refs.short i)
  injective := refs.injective
  apart := fun j pic held listed =>
    refs.apart j pic held (mem_of_mem_eraseIdx listed)
  inTable := refs.inTable

variable {pic : α} {slot i : Nat} {refs : RefSet α}

theorem update_none_held {table : Nat → Option α}
    (held : update table slot none i = some pic) : i ≠ slot ∧ table i = some pic := by
  by_cases same : i = slot
  · subst same
    simp at held
  · rw [update_of_ne same] at held
    exact ⟨same, held⟩

def RefSet.eraseLong (refs : RefSet α) (slot : Nat) : RefSet α where
  short := refs.short
  long := update refs.long slot none
  nodup := refs.nodup
  injective := fun i j pic first second =>
    refs.injective i j pic (update_none_held first).2 (update_none_held second).2
  apart := fun i pic held => refs.apart i pic (update_none_held held).2
  inTable := by
    intro i outside
    by_cases same : i = slot
    · rw [same, update_self]
    · rw [update_of_ne same]
      exact refs.inTable i outside

def RefSet.pushShort (refs : RefSet α) (pic : α) (unlisted : ¬ refs.Listed pic) : RefSet α where
  short := pic :: refs.short
  long := refs.long
  nodup := nodup_cons.mpr ⟨fun listed => unlisted (Or.inl listed), refs.nodup⟩
  injective := refs.injective
  apart := by
    intro i other held listed
    cases mem_cons.mp listed with
    | inl same => exact unlisted (Or.inr ⟨i, same ▸ held⟩)
    | inr earlier => exact refs.apart i other held earlier
  inTable := refs.inTable

def RefSet.putLong (refs : RefSet α) (slot : Nat) (pic : α) (inside : slot < 16)
    (unlisted : ¬ refs.Listed pic) : RefSet α where
  short := refs.short
  long := update refs.long slot (some pic)
  nodup := refs.nodup
  injective := by
    intro i j other first second
    by_cases firstSame : i = slot
    · by_cases secondSame : j = slot
      · rw [firstSame, secondSame]
      · rw [firstSame, update_self] at first
        rw [update_of_ne secondSame, ← first] at second
        exact absurd (Or.inr ⟨j, second⟩) unlisted
    · rw [update_of_ne firstSame] at first
      by_cases secondSame : j = slot
      · rw [secondSame, update_self] at second
        rw [← second] at first
        exact absurd (Or.inr ⟨i, first⟩) unlisted
      · rw [update_of_ne secondSame] at second
        exact refs.injective i j other first second
  apart := by
    intro i other held
    by_cases same : i = slot
    · rw [same, update_self] at held
      obtain rfl : pic = other := Option.some.inj held
      exact fun listed => unlisted (Or.inl listed)
    · rw [update_of_ne same] at held
      exact refs.apart i other held
  inTable := by
    intro i outside
    rw [update_of_ne (by omega)]
    exact refs.inTable i outside

theorem erased_short_unlisted
    (here : refs.short[i]? = some pic) : ¬ (refs.eraseShort i).Listed pic := by
  have inside : i < refs.short.length := (List.getElem?_eq_some_iff.mp here).1
  intro listed
  cases listed with
  | inl short =>
    obtain ⟨j, apart, there⟩ := mem_eraseIdx_iff_getElem?.mp short
    exact apart ((List.getElem?_inj inside refs.nodup).mp (here.trans there.symm)).symm
  | inr long =>
    obtain ⟨j, held⟩ := long
    exact refs.apart j pic held (mem_of_getElem? here)

theorem erased_long_unlisted
    (here : refs.long slot = some pic) : ¬ (refs.eraseLong slot).Listed pic := by
  intro listed
  cases listed with
  | inl short => exact refs.apart slot pic here short
  | inr long =>
    obtain ⟨j, held⟩ := long
    obtain ⟨apart, earlier⟩ := update_none_held held
    exact apart (refs.injective j slot pic earlier here)

end Sets

/-- The arrays and the counters stand for the set. -/
structure Represents (hCtx : H264Context) (refs : RefSet Pic) : Prop where
  shortCount : hCtx.nShortRefCount = refs.short.length
  front : Front hCtx.pShortRef refs.short
  long : hCtx.pLongRef = refs.long
  longCount : hCtx.nLongRefCount = used MAX_PICTURE_COUNT refs.long

/-- What no marking function changes. -/
structure SameCoding (hCtx after : H264Context) : Prop where
  cur : after.pCurPicturePtr = hCtx.pCurPicturePtr
  coded : after.nPicStructure = hCtx.nPicStructure
  first : after.bFstField = hCtx.bFstField
  limit : after.nRefFrmCount = hCtx.nRefFrmCount
  mmco : after.mmco = hCtx.mmco
  numbers : ∀ pic, (after.picture pic).nFrmNum = (hCtx.picture pic).nFrmNum

theorem SameCoding.refl (hCtx : H264Context) : SameCoding hCtx hCtx :=
  ⟨rfl, rfl, rfl, rfl, rfl, fun _ => rfl⟩

variable {hCtx after middle : H264Context} {refs left : RefSet Pic} {pic : Pic}

theorem SameCoding.trans (earlier : SameCoding hCtx middle)
    (later : SameCoding middle after) : SameCoding hCtx after where
  cur := later.cur.trans earlier.cur
  coded := later.coded.trans earlier.coded
  first := later.first.trans earlier.first
  limit := later.limit.trans earlier.limit
  mmco := later.mmco.trans earlier.mmco
  numbers := fun pic => (later.numbers pic).trans (earlier.numbers pic)

theorem SameCoding.lists (same : SameCoding hCtx after)
    (pShortRef pLongRef : Nat → Option Pic) (nShortRefCount : Nat) (nLongRefCount : Int) :
    SameCoding hCtx { after with
      pShortRef := pShortRef
      pLongRef := pLongRef
      nShortRefCount := nShortRefCount
      nLongRefCount := nLongRefCount } :=
  ⟨same.cur, same.coded, same.first, same.limit, same.mmco, same.numbers⟩

/-- Pictures are taken out or move from the short to the long list; one that
stays a reference keeps a field. -/
structure Shrinks (hCtx : H264Context) (refs : RefSet Pic) (after : H264Context)
    (left : RefSet Pic) : Prop where
  represents : Represents after left
  same : SameCoding hCtx after
  short : ∀ pic ∈ left.short, pic ∈ refs.short
  long : ∀ i pic, left.long i = some pic → (∃ j, refs.long j = some pic) ∨ pic ∈ refs.short
  reference : ∀ pic, left.Listed pic → (hCtx.picture pic).nReference ≠ 0 →
    (after.picture pic).nReference ≠ 0
  size : left.size ≤ refs.size

theorem Shrinks.refl (kept : Represents hCtx refs) : Shrinks hCtx refs hCtx refs where
  represents := kept
  same := SameCoding.refl hCtx
  short := fun _ listed => listed
  long := fun i _ held => Or.inl ⟨i, held⟩
  reference := fun _ _ held => held
  size := Nat.le_refl _

theorem Shrinks.listed (step : Shrinks hCtx refs after left) (listed : left.Listed pic) :
    refs.Listed pic := by
  cases listed with
  | inl short => exact Or.inl (step.short pic short)
  | inr long =>
    obtain ⟨i, held⟩ := long
    exact (step.long i pic held).symm

theorem Shrinks.trans {between : RefSet Pic}
    (earlier : Shrinks hCtx refs middle between) (later : Shrinks middle between after left) :
    Shrinks hCtx refs after left where
  represents := later.represents
  same := earlier.same.trans later.same
  short := fun pic listed => earlier.short pic (later.short pic listed)
  long := by
    intro i pic held
    cases later.long i pic held with
    | inl long =>
      obtain ⟨j, earlierHeld⟩ := long
      exact earlier.long j pic earlierHeld
    | inr short => exact Or.inr (earlier.short pic short)
  reference := fun pic listed marked =>
    later.reference pic listed (earlier.reference pic (later.listed listed) marked)
  size := Nat.le_trans later.size earlier.size

theorem represents_of_same (kept : Represents hCtx refs) (short : after.pShortRef = hCtx.pShortRef)
    (shortCount : after.nShortRefCount = hCtx.nShortRefCount)
    (long : after.pLongRef = hCtx.pLongRef)
    (longCount : after.nLongRefCount = hCtx.nLongRefCount) : Represents after refs where
  shortCount := shortCount.trans kept.shortCount
  front := by
    rw [short]
    exact kept.front
  long := long.trans kept.long
  longCount := longCount.trans kept.longCount

theorem set_picture_represents {info : H264PicInfo} (kept : Represents hCtx refs) :
    Represents (hCtx.setPicture pic info) refs :=
  represents_of_same kept rfl rfl rfl rfl

theorem set_picture_same_coding {hCtx : H264Context} {pic : Pic} {info : H264PicInfo}
    (number : info.nFrmNum = (hCtx.picture pic).nFrmNum) :
    SameCoding hCtx (hCtx.setPicture pic info) := by
  refine ⟨rfl, rfl, rfl, rfl, rfl, ?_⟩
  intro other
  by_cases same : other = pic
  · subst same
    simpa [H264Context.setPicture] using number
  · simp [H264Context.setPicture, update_of_ne same]

theorem short_length_le {refs : RefSet Pic} : refs.short.length ≤ MAX_PICTURE_COUNT := by
  simpa [MAX_PICTURE_COUNT] using List.Nodup.length_le_card refs.nodup

end CedarC.H264RefSets
