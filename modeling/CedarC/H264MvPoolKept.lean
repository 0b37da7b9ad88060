import CedarC.H264MvPool
import CedarC.NodePool
import Mathlib.Data.List.Perm.Subperm

/-!
# Owners of the motion vector buffers

A picture owns its node while it is the one in hand or marked as reference. The
operations that move nodes keep the pool parted between the queue and these
owners when every node that is given back belongs to a picture that owns it no
longer. None of them touches what the slice header goes by.
-/

namespace CedarC.H264MvPool

open CedarC.LinkedQueue CedarC.NodePool List Option Function

/-- What the slice header goes by. -/
structure Control where
  pCurPicturePtr : Option Nat
  nPicStructure : Nat
  bFstField : Nat
  nCurSliceNum : Nat
  bDecStarted : Bool
  bLastDropBFrame : Bool

def H264Context.control (h : H264Context) : Control :=
  ⟨h.pCurPicturePtr, h.nPicStructure, h.bFstField, h.nCurSliceNum, h.bDecStarted, h.bLastDropBFrame⟩

def PoolKept (h : H264Context) (owner : Nat → Prop) (nodes : List Nat) : Prop :=
  Holds h.pH264MvBufEmptyQueue nodes ∧ Partitioned (fun node => node < h.nH264MvBufNum) nodes owner
      (fun slot => (h.picture slot).nH264MvBufIndex)
      (fun node => (h.pH264MvBufInf node).pCurPicturePtr) ∧
    ∀ slot, owner slot → slot < MAX_PICTURE_COUNT

def Owner (picture : Nat → H264PicInfo) (held : Option Nat) (slot : Nat) : Prop :=
  held = some slot ∨ ¬ Unmarked (picture slot).nReference
deriving Decidable

def Displayable (h : H264Context) (held : Option Nat) : Prop :=
  ∀ slot, held = some slot → hasDisplayBuffer h slot = true

def Kept (h : H264Context) (held : Option Nat) : Prop :=
  (∃ nodes, PoolKept h (Owner h.picture held) nodes) ∧ Displayable h held

section GiveBack

variable {h next : H264Context} {owner others : Nat → Prop} {nodes : List Nat}
  {held : Option Nat} {slot : Nat} {pic : H264PicInfo}

theorem queue_length (kept : PoolKept h owner nodes) : nodes.length ≤ h.nH264MvBufNum := by
  obtain ⟨queue, parted, -⟩ := kept
  have inside : nodes ⊆ List.range h.nH264MvBufNum := by
    intro node isFree
    exact mem_range.mpr (parted.free_in_pool node isFree)
  have shorter := ((chain_nodup queue).subperm inside).length_le
  rwa [length_range] at shorter

theorem give_back_control {node : Nat} (done : giveBackNode h node = some next) :
    next.control = h.control := by
  obtain ⟨queue, -, rfl⟩ := map_eq_some_iff.mp done
  rfl

theorem give_back_pictures {node : Nat} (done : giveBackNode h node = some next) :
    next.picture = h.picture ∧ next.bSeparateOutput = h.bSeparateOutput := by
  obtain ⟨queue, -, rfl⟩ := map_eq_some_iff.mp done
  exact ⟨rfl, rfl⟩

theorem give_back_kept (kept : PoolKept h owner nodes) (owns : owner slot)
    (rest : ∀ s, others s ↔ owner s ∧ s ≠ slot)
    (done : giveBackNode h (h.picture slot).nH264MvBufIndex = some next) :
    PoolKept next others (nodes ++ [(h.picture slot).nH264MvBufIndex]) := by
  have bound := queue_length kept
  obtain ⟨queue, parted, slots⟩ := kept
  have fresh := parted.owned_not_free slot owns
  obtain ⟨after, put, holds⟩ := enqueue_holds queue fresh bound
  obtain ⟨same, enqueued, rfl⟩ := map_eq_some_iff.mp done
  obtain rfl := Option.some.inj (put.symm.trans enqueued)
  have backs : (fun node => (update h.pH264MvBufInf (h.picture slot).nH264MvBufIndex
      { h.pH264MvBufInf (h.picture slot).nH264MvBufIndex with
        nCalculateNum := INIT_MV_BUF_CALCULATE_NUM } node).pCurPicturePtr) =
      fun node => (h.pH264MvBufInf node).pCurPicturePtr := by
    funext node
    by_cases same : node = (h.picture slot).nH264MvBufIndex
    · rw [same, update_self]
    · rw [update_of_ne same]
  have left := released parted owns rest
  rw [← backs] at left
  exact ⟨holds, left, fun s owns => slots s ((rest s).mp owns).1⟩

theorem set_picture_node (s : Nat) (same : pic.nH264MvBufIndex = (h.picture slot).nH264MvBufIndex) :
    ((h.setPicture slot pic).picture s).nH264MvBufIndex = (h.picture s).nH264MvBufIndex := by
  by_cases here : s = slot
  · subst s
    change (update h.picture slot pic slot).nH264MvBufIndex = _
    rw [update_self]
    exact same
  · change (update h.picture slot pic s).nH264MvBufIndex = _
    rw [update_of_ne here]

theorem set_picture_pool (kept : PoolKept h owner nodes)
    (same : pic.nH264MvBufIndex = (h.picture slot).nH264MvBufIndex)
    (sameOwners : ∀ s, others s ↔ owner s) : PoolKept (h.setPicture slot pic) others nodes := by
  obtain ⟨queue, parted, slots⟩ := kept
  refine ⟨queue, ?_, fun s owns => slots s ((sameOwners s).mp owns)⟩
  apply same_owners parted sameOwners
  intro s owns
  exact set_picture_node s same

theorem owner_elsewhere {s : Nat} (other : s ≠ slot) :
    Owner (h.setPicture slot pic).picture held s ↔ Owner h.picture held s := by
  change held = some s ∨ ¬ Unmarked (update h.picture slot pic s).nReference ↔ _
  rw [update_of_ne other]
  rfl

theorem owner_here : Owner (h.setPicture slot pic).picture held slot ↔
      held = some slot ∨ ¬ Unmarked pic.nReference := by
  change held = some slot ∨ ¬ Unmarked (update h.picture slot pic slot).nReference ↔ _
  rw [update_self]

theorem set_picture_owners
    (marks : held = some slot ∨ (Unmarked pic.nReference ↔ Unmarked (h.picture slot).nReference))
    (s : Nat) : Owner (h.setPicture slot pic).picture held s ↔ Owner h.picture held s := by
  by_cases here : s = slot
  · subst s
    rw [owner_here]
    unfold Owner
    rcases marks with isHeld | same
    · simp [isHeld]
    · rw [same]
  · exact owner_elsewhere here

theorem displayable_elsewhere (shown : Displayable h held) (other : held ≠ some slot) :
    Displayable (h.setPicture slot pic) held := by
  intro s isHeld
  have different : s ≠ slot := by
    rintro rfl
    exact other isHeld
  have before := shown s isHeld
  unfold hasDisplayBuffer at before ⊢
  change (if h.bSeparateOutput then (update h.picture slot pic s).pScaleDownVPicture
    else (update h.picture slot pic s).pVPicture) = true
  rw [update_of_ne different]
  exact before

theorem displayable_same (shown : Displayable h held)
    (buffer : pic.pVPicture = (h.picture slot).pVPicture)
    (scaled : pic.pScaleDownVPicture = (h.picture slot).pScaleDownVPicture) :
    Displayable (h.setPicture slot pic) held := by
  by_cases other : held = some slot
  · intro s isHeld
    obtain rfl := Option.some.inj (other.symm.trans isHeld)
    have before := shown slot isHeld
    unfold hasDisplayBuffer at before ⊢
    change (if h.bSeparateOutput then (update h.picture slot pic slot).pScaleDownVPicture
      else (update h.picture slot pic slot).pVPicture) = true
    rw [update_self, buffer, scaled]
    exact before
  · exact displayable_elsewhere shown other

theorem set_picture_kept (kept : Kept h held)
    (same : pic.nH264MvBufIndex = (h.picture slot).nH264MvBufIndex)
    (marks : held = some slot ∨ (Unmarked pic.nReference ↔ Unmarked (h.picture slot).nReference))
    (buffer : pic.pVPicture = (h.picture slot).pVPicture)
    (scaled : pic.pScaleDownVPicture = (h.picture slot).pScaleDownVPicture) :
    Kept (h.setPicture slot pic) held := by
  obtain ⟨⟨nodes, pool⟩, shown⟩ := kept
  exact ⟨⟨nodes, set_picture_pool pool same (set_picture_owners marks)⟩,
    displayable_same shown buffer scaled⟩

theorem give_up_kept {heldAfter : Option Nat} (kept : PoolKept h (Owner h.picture held) nodes)
    (owns : Owner h.picture held slot)
    (same : pic.nH264MvBufIndex = (h.picture slot).nH264MvBufIndex)
    (unmarked : Unmarked pic.nReference) (left : ∀ s, heldAfter = some s ↔ held = some s ∧ s ≠ slot)
    (done : giveBackNode (h.setPicture slot pic) pic.nH264MvBufIndex = some next) :
    ∃ nodes, PoolKept next (Owner next.picture heldAfter) nodes := by
  have before : PoolKept (h.setPicture slot pic) (Owner h.picture held) nodes :=
    set_picture_pool kept same fun s => Iff.rfl
  have index : pic.nH264MvBufIndex = ((h.setPicture slot pic).picture slot).nH264MvBufIndex := by
    rw [set_picture_node slot same, same]
  rw [index] at done
  have rest : ∀ s, Owner (h.setPicture slot pic).picture heldAfter s ↔
      Owner h.picture held s ∧ s ≠ slot := by
    intro s
    by_cases here : s = slot
    · subst s
      rw [owner_here, left]
      simp [unmarked]
    · rw [owner_elsewhere here]
      unfold Owner
      rw [left]
      simp [here]
  rw [(give_back_pictures done).1]
  exact ⟨_, give_back_kept before owns rest done⟩

theorem give_back_displayable {node : Nat} (shown : Displayable h held)
    (done : giveBackNode h node = some next) : Displayable next held := by
  obtain ⟨queue, -, rfl⟩ := map_eq_some_iff.mp done
  exact shown

end GiveBack

section Unreference

variable {h next : H264Context} {held : Option Nat} {slot : Nat}
  {nReference : Nat} {pic : Option Nat}

theorem unmarked_and (unmarked : Unmarked nReference) (refmask : Nat) :
    Unmarked (nReference &&& refmask) := by
  rcases unmarked with rfl | rfl
  · exact .inl (Nat.zero_and refmask)
  · have bit (i : Nat) : (DELAYED_PIC_REF &&& refmask).testBit i =
        (decide (2 = i) && refmask.testBit i) := by
      rw [Nat.testBit_and, show DELAYED_PIC_REF = 2 ^ 2 from rfl, Nat.testBit_two_pow]
    by_cases set : refmask.testBit 2 = true
    · apply Or.inr
      apply Nat.eq_of_testBit_eq
      intro i
      rw [bit, show DELAYED_PIC_REF = 2 ^ 2 from rfl, Nat.testBit_two_pow]
      by_cases here : 2 = i
      · simp [← here, set]
      · simp [here]
    · apply Or.inl
      apply Nat.eq_of_testBit_eq
      intro i
      rw [bit, Nat.zero_testBit]
      by_cases here : 2 = i
      · simpa [← here] using set
      · simp [here]

/-- A picture that loses its last mark gives its node back exactly when it owned
it as a reference and is not the picture in hand. -/
def ReleasedRight (h : H264Context) (held : Option Nat) (slot refmask : Nat) : Prop :=
  Unmarked ((h.picture slot).nReference &&& refmask) →
    (Shown (h.picture slot) ↔ ¬ Unmarked (h.picture slot).nReference ∧ held ≠ some slot)
deriving Decidable

theorem release_kept (kept : Kept h held)
    (fewer : Unmarked (h.picture slot).nReference → Unmarked nReference)
    (right : Unmarked nReference →
      (Shown (h.picture slot) ↔ ¬ Unmarked (h.picture slot).nReference ∧ held ≠ some slot))
    (done : releaseUnmarked h slot nReference = some next) :
    Kept next held ∧ next.control = h.control := by
  unfold releaseUnmarked at done
  dsimp only at done
  split at done
  · rename_i gone
    obtain ⟨unmarked, shown⟩ := gone
    obtain ⟨marked, other⟩ := (right unmarked).mp shown
    obtain ⟨⟨nodes, pool⟩, displayable⟩ := kept
    have left (s : Nat) : held = some s ↔ held = some s ∧ s ≠ slot := by
      constructor
      · intro isHeld
        refine ⟨isHeld, ?_⟩
        rintro rfl
        exact other isHeld
      · exact And.left
    have control := give_back_control done
    refine ⟨⟨?_, ?_⟩, control⟩
    · apply give_up_kept pool (.inr marked) ?_ ?_ left done
      · rfl
      · exact .inl rfl
    · exact give_back_displayable (displayable_elsewhere displayable other) done
  · rename_i stays
    obtain rfl := Option.some.inj done
    refine ⟨?_, rfl⟩
    have marks : held = some slot ∨
        (Unmarked nReference ↔ Unmarked (h.picture slot).nReference) := by
      by_cases unmarked : Unmarked nReference
      · by_cases before : Unmarked (h.picture slot).nReference
        · exact .inr (iff_of_true unmarked before)
        · apply Or.inl
          by_contra other
          exact stays ⟨unmarked, (right unmarked).mpr ⟨before, other⟩⟩
      · exact .inr (iff_of_false unmarked fun before => unmarked (fewer before))
    exact set_picture_kept kept rfl marks rfl rfl

theorem unreference_pic_kept {refmask : Nat} {gone : Bool} (kept : Kept h held)
    (right : ReleasedRight h held slot refmask)
    (done : h264UnnReferencePic h slot refmask = some (next, gone)) :
    Kept next held ∧ next.control = h.control := by
  unfold h264UnnReferencePic at done
  dsimp only at done
  split at done
  · obtain ⟨after, released, same⟩ := map_eq_some_iff.mp done
    obtain ⟨rfl, -⟩ := Prod.mk.inj same
    exact release_kept kept (fun before => unmarked_and before refmask) right released
  · rename_i nothingLeft
    have nothing : (h.picture slot).nReference &&& refmask = 0 := by simpa using nothingLeft
    obtain ⟨after, released, same⟩ := map_eq_some_iff.mp done
    obtain ⟨rfl, -⟩ := Prod.mk.inj same
    have unmarked : Unmarked (if isDelayed h slot then DELAYED_PIC_REF else 0) := by
      split
      · exact .inr rfl
      · exact .inl rfl
    apply release_kept kept (fun _ => unmarked) ?_ released
    intro _
    exact right (.inl nothing)

theorem unreference_kept (kept : Kept h held)
    (right : ∀ slot, pic = some slot → ReleasedRight h held slot 0)
    (done : unreference h pic = some next) : Kept next held ∧ next.control = h.control := by
  cases pic with
  | none =>
    obtain rfl := Option.some.inj done
    exact ⟨kept, rfl⟩
  | some slot =>
    obtain ⟨⟨after, gone⟩, result, rfl⟩ := map_eq_some_iff.mp done
    exact unreference_pic_kept kept (right slot rfl) result

theorem unreference_cases (done : unreference h (some slot) = some next) :
    ∃ nReference, Unmarked nReference ∧ releaseUnmarked h slot nReference = some next := by
  obtain ⟨⟨after, gone⟩, result, rfl⟩ := map_eq_some_iff.mp done
  unfold h264UnnReferencePic at result
  dsimp only at result
  rw [Nat.and_zero, if_neg (fun zero => zero rfl)] at result
  obtain ⟨last, released, same⟩ := map_eq_some_iff.mp result
  obtain ⟨rfl, -⟩ := Prod.mk.inj same
  refine ⟨_, ?_, released⟩
  split
  · exact .inr rfl
  · exact .inl rfl

theorem release_elsewhere {s : Nat} (other : s ≠ slot)
    (done : releaseUnmarked h slot nReference = some next) : next.picture s = h.picture s := by
  unfold releaseUnmarked at done
  dsimp only at done
  split at done
  · rw [(give_back_pictures done).1]
    exact update_of_ne other _ _
  · obtain rfl := Option.some.inj done
    exact update_of_ne other _ _

theorem release_here (unmarked : Unmarked nReference)
    (done : releaseUnmarked h slot nReference = some next) :
    ¬ Shown (next.picture slot) ∧ Unmarked (next.picture slot).nReference := by
  unfold releaseUnmarked at done
  dsimp only at done
  split at done
  · rw [(give_back_pictures done).1]
    simp [H264Context.setPicture, Shown, Unmarked]
  · rename_i stays
    obtain rfl := Option.some.inj done
    have hidden : ¬ Shown (h.picture slot) := fun shown => stays ⟨unmarked, shown⟩
    simp only [H264Context.setPicture, update_self]
    exact ⟨hidden, unmarked⟩

theorem release_lists (done : releaseUnmarked h slot nReference = some next) :
    next.pShortRef = h.pShortRef ∧ next.pLongRef = h.pLongRef ∧
      next.nLongRefCount = h.nLongRefCount := by
  unfold releaseUnmarked at done
  dsimp only at done
  split at done
  · obtain ⟨queue, -, rfl⟩ := map_eq_some_iff.mp done
    exact ⟨rfl, rfl, rfl⟩
  · obtain rfl := Option.some.inj done
    exact ⟨rfl, rfl, rfl⟩

/-- Pictures have left the lists: the pool is kept, and what could be released
right before still can. -/
structure Unreferenced (h next : H264Context) (held : Option Nat) : Prop where
  kept : Kept next held
  control : next.control = h.control
  rights : ∀ s, ReleasedRight h held s 0 → ReleasedRight next held s 0
  longs : ∀ i s, next.pLongRef i = some s → h.pLongRef i = some s

theorem Unreferenced.trans {middle : H264Context} (first : Unreferenced h middle held)
    (second : Unreferenced middle next held) : Unreferenced h next held where
  kept := second.kept
  control := second.control.trans first.control
  rights s right := second.rights s (first.rights s right)
  longs i s isLong := first.longs i s (second.longs i s isLong)

theorem unreferenced_one (kept : Kept h held)
    (right : ∀ slot, pic = some slot → ReleasedRight h held slot 0)
    (done : unreference h pic = some next) : Unreferenced h next held := by
  obtain ⟨after, control⟩ := unreference_kept kept right done
  cases pic with
  | none =>
    obtain rfl := Option.some.inj done
    exact ⟨after, control, fun s right => right, fun i s isLong => isLong⟩
  | some slot =>
    obtain ⟨nReference, unmarked, released⟩ := unreference_cases done
    obtain ⟨-, longs, -⟩ := release_lists released
    refine ⟨after, control, ?_, ?_⟩
    · intro s before
      by_cases here : s = slot
      · subst s
        obtain ⟨hidden, nothing⟩ := release_here unmarked released
        intro _
        exact iff_of_false hidden fun marked => marked.1 nothing
      · unfold ReleasedRight at before ⊢
        rw [release_elsewhere here released]
        exact before
    · intro i s isLong
      rwa [longs] at isLong

theorem unreferenced_all {slots : List Nat} (kept : Kept h held)
    (right : ∀ s ∈ slots, ReleasedRight h held s 0)
    (done : unreferenceAll h slots = some next) : Unreferenced h next held := by
  induction slots generalizing h with
  | nil =>
    obtain rfl := Option.some.inj done
    exact ⟨kept, rfl, fun s right => right, fun i s isLong => isLong⟩
  | cons slot slots ih =>
    simp only [unreferenceAll, foldlM_cons] at done
    obtain ⟨middle, first, later⟩ := bind_eq_some_iff.mp done
    have start : Unreferenced h middle held := by
      apply unreferenced_one kept ?_ first
      rintro s same
      obtain rfl := Option.some.inj same
      exact right slot mem_cons_self
    apply start.trans
    apply ih start.kept ?_ later
    intro s member
    exact start.rights s (right s (mem_cons_of_mem _ member))

end Unreference

section Marking

variable {h next : H264Context} {held : Option Nat} {slot : Nat}

theorem drop_long_kept {i : Nat} (kept : Kept h held)
    (right : ∀ s, h.pLongRef i = some s → ReleasedRight h held s 0)
    (done : dropLong h i = some next) : Unreferenced h next held := by
  unfold dropLong h264RemoveLong at done
  cases isLong : h.pLongRef i with
  | none =>
    rw [isLong] at done
    obtain rfl := Option.some.inj done
    exact ⟨kept, rfl, fun s right => right, fun i s isLong => isLong⟩
  | some slot =>
    rw [isLong] at done
    have removed : Kept (removeLongAtIndex h i) held := kept
    have after : Unreferenced (removeLongAtIndex h i) next held := by
      apply unreferenced_one removed ?_ done
      rintro s same
      obtain rfl := Option.some.inj same
      exact right slot isLong
    refine ⟨after.kept, after.control, after.rights, ?_⟩
    intro j s found
    have before := after.longs j s found
    change update h.pLongRef i none j = some s at before
    by_cases same : j = i
    · rw [same, update_self] at before
      cases before
    · rwa [update_of_ne same] at before

theorem drop_longs_kept {indices : List Nat} (kept : Kept h held)
    (right : ∀ i ∈ indices, ∀ s, h.pLongRef i = some s → ReleasedRight h held s 0)
    (done : dropLongs h indices = some next) : Unreferenced h next held := by
  induction indices generalizing h with
  | nil =>
    obtain rfl := Option.some.inj done
    exact ⟨kept, rfl, fun s right => right, fun i s isLong => isLong⟩
  | cons i indices ih =>
    simp only [dropLongs, foldlM_cons] at done
    obtain ⟨middle, first, later⟩ := bind_eq_some_iff.mp done
    have start := drop_long_kept kept (right i mem_cons_self) first
    apply start.trans
    apply ih start.kept ?_ later
    intro j member s isLong
    exact start.rights s
      (right j (mem_cons_of_mem _ member) s (start.longs j s isLong))

theorem mark_current_kept {nReference : Nat} (kept : Kept h (some slot)) :
    Kept (markCurrent h slot nReference) (some slot) := by
  unfold markCurrent
  exact set_picture_kept kept rfl (.inl rfl) rfl rfl

/-- The pictures that one operation takes from the lists are released right. -/
def MmcoGuard (h : H264Context) (slot : Nat) : MmcoOp → Prop
  | .MMCO_SHORT_TO_UNUSED nShortPicNum =>
    ∀ i ∈ h264FindShort h (h264PicNumExtract h nShortPicNum).1, ∀ pic ∈ h.pShortRef[i]?,
      ReleasedRight h (some slot) pic ((h264PicNumExtract h nShortPicNum).2 ^^^ PICT_FRAME)
  | .MMCO_SHORT_TO_LONG nShortPicNum bLongArg =>
    ¬ MovedAlready h nShortPicNum bLongArg →
      ∀ pic ∈ h.pLongRef bLongArg, ReleasedRight h (some slot) pic 0
  | .MMCO_LONG_TO_UNUSED bLongArg =>
    ∀ pic ∈ h.pLongRef (h264PicNumExtract h bLongArg).1,
      ReleasedRight h (some slot) pic ((h264PicNumExtract h bLongArg).2 ^^^ PICT_FRAME)
  | .MMCO_LONG bLongArg =>
    ¬ KeepsPlace h slot bLongArg → ∀ pic ∈ h.pLongRef bLongArg, ReleasedRight h (some slot) pic 0
  | .MMCO_SET_MAX_LONG bLongArg =>
    ∀ i ∈ (List.range 16).filter fun j => bLongArg ≤ j, ∀ pic ∈ h.pLongRef i,
      ReleasedRight h (some slot) pic 0
  | .MMCO_RESET =>
    (∀ pic ∈ h.pShortRef, ReleasedRight h (some slot) pic 0) ∧
      ∀ i ∈ List.range 16, ∀ pic ∈ h.pLongRef i, ReleasedRight h (some slot) pic 0

instance (h : H264Context) (slot : Nat) : ∀ op, Decidable (MmcoGuard h slot op)
  | .MMCO_SHORT_TO_UNUSED _ => inferInstanceAs (Decidable (∀ i ∈ h264FindShort h _, _))
  | .MMCO_SHORT_TO_LONG _ _ => inferInstanceAs (Decidable (_ → _))
  | .MMCO_LONG_TO_UNUSED _ => inferInstanceAs (Decidable (∀ pic ∈ h.pLongRef _, _))
  | .MMCO_LONG _ => inferInstanceAs (Decidable (_ → _))
  | .MMCO_SET_MAX_LONG _ => inferInstanceAs (Decidable (∀ i ∈ List.filter _ _, _))
  | .MMCO_RESET => inferInstanceAs (Decidable (_ ∧ _))

theorem execute_mmco_kept {op : MmcoOp} {assigned : Bool} (kept : Kept h (some slot))
    (guard : MmcoGuard h slot op) (done : executeMmco h slot op = some (next, assigned)) :
    Kept next (some slot) ∧ next.control = h.control := by
  cases op with
  | MMCO_SHORT_TO_UNUSED nShortPicNum =>
    simp only [executeMmco] at done
    cases found : h264FindShort h (h264PicNumExtract h nShortPicNum).1 with
    | none =>
      rw [found] at done
      obtain ⟨rfl, -⟩ := Prod.mk.inj (Option.some.inj done)
      exact ⟨kept, rfl⟩
    | some i =>
      rw [found] at done
      obtain ⟨pic, isShort, done⟩ := bind_eq_some_iff.mp done
      obtain ⟨⟨after, gone⟩, unmarked, same⟩ := map_eq_some_iff.mp done
      obtain ⟨rfl, -⟩ := Prod.mk.inj same
      have right := guard i found pic isShort
      obtain ⟨keptAfter, control⟩ := unreference_pic_kept kept right unmarked
      cases gone with
      | true | false => exact ⟨keptAfter, control⟩
  | MMCO_SHORT_TO_LONG nShortPicNum bLongArg =>
    simp only [executeMmco] at done
    split at done
    · cases done
    · split at done
      · obtain ⟨rfl, -⟩ := Prod.mk.inj (Option.some.inj done)
        exact ⟨kept, rfl⟩
      · rename_i moves
        obtain ⟨after, dropped, same⟩ := map_eq_some_iff.mp done
        have left := drop_long_kept kept (guard moves) dropped
        obtain ⟨rfl, -⟩ := Prod.mk.inj same
        unfold h264RemoveShort
        split
        all_goals exact ⟨left.kept, left.control⟩
  | MMCO_LONG_TO_UNUSED bLongArg =>
    simp only [executeMmco] at done
    split at done
    · cases done
    · cases found : h.pLongRef (h264PicNumExtract h bLongArg).1 with
      | none =>
        rw [found] at done
        obtain ⟨rfl, -⟩ := Prod.mk.inj (Option.some.inj done)
        exact ⟨kept, rfl⟩
      | some pic =>
        rw [found] at done
        obtain ⟨⟨after, gone⟩, unmarked, same⟩ := map_eq_some_iff.mp done
        obtain ⟨rfl, -⟩ := Prod.mk.inj same
        obtain ⟨keptAfter, control⟩ := unreference_pic_kept kept (guard pic found) unmarked
        cases gone with
        | true | false => exact ⟨keptAfter, control⟩
  | MMCO_LONG bLongArg =>
    simp only [executeMmco] at done
    split at done
    · cases done
    · obtain ⟨after, assignedNow, same⟩ := map_eq_some_iff.mp done
      obtain ⟨rfl, -⟩ := Prod.mk.inj same
      split at assignedNow
      · obtain rfl := Option.some.inj assignedNow
        exact ⟨mark_current_kept kept, rfl⟩
      · rename_i moves
        obtain ⟨middle, dropped, rfl⟩ := map_eq_some_iff.mp assignedNow
        have left := drop_long_kept kept (guard moves) dropped
        have placed : Kept { middle with
            pLongRef := update middle.pLongRef bLongArg (some slot)
            nLongRefCount := middle.nLongRefCount + 1 } (some slot) := left.kept
        exact ⟨mark_current_kept placed, left.control⟩
  | MMCO_SET_MAX_LONG bLongArg =>
    simp only [executeMmco] at done
    obtain ⟨after, dropped, same⟩ := map_eq_some_iff.mp done
    obtain ⟨rfl, -⟩ := Prod.mk.inj same
    have left := drop_longs_kept kept guard dropped
    exact ⟨left.kept, left.control⟩
  | MMCO_RESET =>
    simp only [executeMmco] at done
    obtain ⟨middle, shorts, done⟩ := bind_eq_some_iff.mp done
    obtain ⟨after, longs, same⟩ := map_eq_some_iff.mp done
    obtain ⟨rfl, -⟩ := Prod.mk.inj same
    have emptied : Kept { h with pShortRef := [] } (some slot) := kept
    have first := unreferenced_all emptied guard.1 shorts
    have second : Unreferenced middle after (some slot) := by
      apply drop_longs_kept first.kept ?_ longs
      intro i member s isLong
      exact first.rights s (guard.2 i member s (first.longs i s isLong))
    exact ⟨second.kept, second.control.trans first.control⟩

/-- Each operation is right in the state that the ones before it have left. -/
def MmcosGuard (slot : Nat) : List MmcoOp → H264Context → Prop
  | [], _ => True
  | op :: ops, h =>
    MmcoGuard h slot op ∧ ∀ result ∈ executeMmco h slot op, MmcosGuard slot ops result.1

instance (slot : Nat) : ∀ ops h, Decidable (MmcosGuard slot ops h)
  | [], _ => isTrue trivial
  | op :: ops, h =>
    have (result : H264Context × Bool) : Decidable (MmcosGuard slot ops result.1) :=
      instDecidableMmcosGuard slot ops result.1
    inferInstanceAs (Decidable (_ ∧ ∀ result ∈ executeMmco h slot op, _))

theorem execute_mmcos_kept {ops : List MmcoOp} {before assigned : Bool}
    (kept : Kept h (some slot)) (guard : MmcosGuard slot ops h)
    (done : executeMmcos slot ops h before = some (next, assigned)) :
    Kept next (some slot) ∧ next.control = h.control := by
  induction ops generalizing h before with
  | nil =>
    obtain ⟨rfl, -⟩ := Prod.mk.inj (Option.some.inj done)
    exact ⟨kept, rfl⟩
  | cons op ops ih =>
    obtain ⟨⟨middle, now⟩, first, later⟩ := bind_eq_some_iff.mp done
    obtain ⟨keptMiddle, controlMiddle⟩ := execute_mmco_kept kept guard.1 first
    obtain ⟨keptAfter, controlAfter⟩ := ih keptMiddle (guard.2 _ first) later
    exact ⟨keptAfter, controlAfter.trans controlMiddle⟩

/-- The short-term picture with the frame number of the one in hand. -/
def AssignGuard (h : H264Context) (slot : Nat) : Prop :=
  ¬ SecondReferenceField h slot →
    ∀ pic ∈ (h264RemoveShort h (h.picture slot).nFrmNum).2, ReleasedRight h (some slot) pic 0
deriving Decidable

theorem remove_short_same (frameNum : Nat) :
    (h264RemoveShort h frameNum).1 = { h with pShortRef := (h264RemoveShort h frameNum).1.pShortRef }
    := by
  unfold h264RemoveShort
  split <;> rfl

theorem assign_current_kept (kept : Kept h (some slot)) (guard : AssignGuard h slot)
    (done : assignCurrent h slot = some next) :
    Kept next (some slot) ∧ next.control = h.control := by
  unfold assignCurrent at done
  split at done
  · obtain rfl := Option.some.inj done
    split
    · exact ⟨mark_current_kept kept, rfl⟩
    · exact ⟨kept, rfl⟩
  · rename_i assigns
    obtain ⟨after, dropped, rfl⟩ := map_eq_some_iff.mp done
    unfold dropShort at dropped
    have removed : Kept (h264RemoveShort h (h.picture slot).nFrmNum).1 (some slot) := by
      rw [remove_short_same]
      exact kept
    have control : (h264RemoveShort h (h.picture slot).nFrmNum).1.control = h.control := by
      rw [remove_short_same]
      rfl
    have right : ∀ pic, (h264RemoveShort h (h.picture slot).nFrmNum).2 = some pic →
        ReleasedRight (h264RemoveShort h (h.picture slot).nFrmNum).1 (some slot) pic 0 := by
      intro pic found
      rw [remove_short_same]
      exact guard assigns pic found
    have left := unreferenced_one removed right dropped
    have placed : Kept { after with pShortRef := slot :: after.pShortRef } (some slot) := left.kept
    exact ⟨mark_current_kept placed, left.control.trans control⟩

/-- The picture that goes because there are too many. -/
def LimitGuard (h : H264Context) (slot nRefFrmCount : Nat) : Prop :=
  h.nLongRefCount + h.pShortRef.length > nRefFrmCount →
    ∀ pic ∈ (discarded h).2, ReleasedRight h (some slot) pic 0
deriving Decidable

theorem limit_references_kept {nRefFrmCount : Nat} (kept : Kept h (some slot))
    (guard : LimitGuard h slot nRefFrmCount) (done : limitReferences h nRefFrmCount = some next) :
    Kept next (some slot) ∧ next.control = h.control := by
  unfold limitReferences at done
  split at done
  · rename_i many
    have removed : Kept (discarded h).1 (some slot) ∧ (discarded h).1.control = h.control := by
      unfold discarded
      split
      · exact ⟨kept, rfl⟩
      · exact ⟨kept, rfl⟩
    have right : ∀ pic, (discarded h).2 = some pic →
        ReleasedRight (discarded h).1 (some slot) pic 0 := by
      intro pic found
      have before := guard many pic found
      have same : (discarded h).1.picture = h.picture := by
        unfold discarded
        split <;> rfl
      unfold ReleasedRight at before ⊢
      rw [same]
      exact before
    obtain ⟨keptAfter, control⟩ := unreference_kept removed.1 right done
    exact ⟨keptAfter, control.trans removed.2⟩
  · obtain rfl := Option.some.inj done
    exact ⟨kept, rfl⟩

/-- The marking takes no picture from the lists whose node it does not treat right. -/
def MarkGuard (h : H264Context) (slot : Nat) (mmco : List MmcoOp) (nRefFrmCount : Nat) : Prop :=
  MmcosGuard slot mmco h ∧ ∀ result ∈ executeMmcos slot mmco h false,
    (result.2 = false → AssignGuard result.1 slot) ∧
      ∀ after ∈ (if result.2 then some result.1 else assignCurrent result.1 slot),
        LimitGuard after slot nRefFrmCount
deriving Decidable

theorem execute_ref_pic_marking_kept {mmco : List MmcoOp} {nRefFrmCount : Nat}
    (kept : Kept h (some slot)) (guard : MarkGuard h slot mmco nRefFrmCount)
    (done : h264ExecuteRefPicMarking h slot mmco nRefFrmCount = some next) :
    Kept next (some slot) ∧ next.control = h.control := by
  obtain ⟨⟨first, assigned⟩, executed, done⟩ := bind_eq_some_iff.mp done
  obtain ⟨second, placed, limited⟩ := bind_eq_some_iff.mp done
  obtain ⟨keptFirst, controlFirst⟩ := execute_mmcos_kept kept guard.1 executed
  obtain ⟨assign, limit⟩ := guard.2 _ executed
  have middle : Kept second (some slot) ∧ second.control = first.control := by
    cases assigned with
    | true =>
      obtain rfl := Option.some.inj placed
      exact ⟨keptFirst, rfl⟩
    | false => exact assign_current_kept keptFirst (assign rfl) placed
  obtain ⟨keptAfter, controlAfter⟩ := limit_references_kept middle.1 (limit _ placed) limited
  exact ⟨keptAfter, (controlAfter.trans middle.2).trans controlFirst⟩

end Marking

section Display

variable {h next : H264Context} {slot : Nat}

theorem show_picture_kept {out : Nat} (kept : Kept h none) :
    Kept (showPicture h out) none ∧ (showPicture h out).control = h.control := by
  unfold showPicture
  split
  · exact ⟨kept, rfl⟩
  · rename_i slot isDelayed
    obtain ⟨⟨nodes, pool⟩, -⟩ := kept
    refine ⟨⟨⟨nodes, ?_⟩, ?_⟩, rfl⟩
    · apply set_picture_pool pool
      · dsimp only
        split
        · split <;> rfl
        · split <;> rfl
      · apply set_picture_owners
        apply Or.inr
        dsimp only
        split
        · split
          · rename_i gone
            exact iff_of_true (.inl rfl) gone.1
          · exact Iff.rfl
        · split
          · rename_i gone
            exact iff_of_true (.inl rfl) gone
          · exact Iff.rfl
    · rintro s isHeld
      cases isHeld

/-- A picture that is no reference gives its node back when it is sorted, and a
marked one keeps it. -/
def SortGuard (h : H264Context) (slot : Nat) (bDecodeKeyFrameOnly : Bool) : Prop :=
  bDecodeKeyFrameOnly = false → (h.nNalRefIdc = 0 ↔ Unmarked (h.picture slot).nReference)
deriving Decidable

variable (kept : Kept h (some slot))

include kept

theorem sort_key_frame_kept (done : sortKeyFrame h slot = some next) :
    Kept next none ∧ next.control = h.control := by
  obtain ⟨⟨nodes, pool⟩, -⟩ := kept
  have left (s : Nat) : (none : Option Nat) = some s ↔ some slot = some s ∧ s ≠ slot := by
    simp [eq_comm]
  have control := give_back_control done
  refine ⟨⟨?_, ?_⟩, control⟩
  · apply give_up_kept pool (.inl rfl) ?_ ?_ left done
    · split <;> rfl
    · exact .inl rfl
  · rintro s isHeld
    cases isHeld

theorem sort_delayed_kept (right : h.nNalRefIdc = 0 ↔ Unmarked (h.picture slot).nReference)
    (done : (if h.nNalRefIdc = 0 then giveBackNode h (h.picture slot).nH264MvBufIndex
      else some h) = some next) : Kept next none ∧ next.control = h.control := by
  obtain ⟨⟨nodes, pool⟩, -⟩ := kept
  have nobody : Displayable next none := by
    rintro s isHeld
    cases isHeld
  split at done
  · rename_i plain
    have left (s : Nat) : (none : Option Nat) = some s ↔ some slot = some s ∧ s ≠ slot := by
      simp [eq_comm]
    have same : h.setPicture slot (h.picture slot) = h := by
      unfold H264Context.setPicture
      rw [update_eq_self]
    have control := give_back_control done
    refine ⟨⟨?_, nobody⟩, control⟩
    apply @give_up_kept _ _ _ _ _ (h.picture slot) _ pool (.inl rfl) rfl (right.mp plain) left
    rw [same]
    exact done
  · rename_i reference
    obtain rfl := Option.some.inj done
    have marked : ¬ Unmarked (h.picture slot).nReference :=
      fun unmarked => reference (right.mpr unmarked)
    have owners (s : Nat) : Owner h.picture none s ↔ Owner h.picture (some slot) s := by
      constructor
      · rintro (nothing | isMarked)
        · cases nothing
        · exact .inr isMarked
      · rintro (isHeld | isMarked)
        · obtain rfl := Option.some.inj isHeld
          exact .inr marked
        · exact .inr isMarked
    obtain ⟨queue, parted, slots⟩ := pool
    refine ⟨⟨⟨nodes, queue, ?_, ?_⟩, nobody⟩, rfl⟩
    · exact same_owners parted owners fun s _ => rfl
    · intro s owns
      exact slots s ((owners s).mp owns)

theorem sort_display_kept {bDecodeKeyFrameOnly : Bool} {out : Option Nat}
    (inHand : h.pCurPicturePtr = some slot) (guard : SortGuard h slot bDecodeKeyFrameOnly)
    (done : h264SortDisplayFrameOrder h bDecodeKeyFrameOnly out = some next) :
    Kept next none ∧ ∃ current, next.control = { h.control with pCurPicturePtr := current } := by
  unfold h264SortDisplayFrameOrder at done
  rw [inHand] at done
  change (if bDecodeKeyFrameOnly = true then sortKeyFrame h slot else _) = some next at done
  split at done
  · obtain ⟨keptAfter, control⟩ := sort_key_frame_kept kept done
    exact ⟨keptAfter, h.pCurPicturePtr, control⟩
  · rename_i others
    obtain ⟨sorted, gaveBack, rfl⟩ := map_eq_some_iff.mp done
    obtain ⟨keptSorted, controlSorted⟩ :=
      sort_delayed_kept kept (guard (by simpa using others)) gaveBack
    have delayed : Kept (delayPicture sorted slot) none := keptSorted
    have control : (delayPicture sorted slot).control =
        { h.control with pCurPicturePtr := none } := by
      rw [← controlSorted]
      rfl
    cases out with
    | none => exact ⟨delayed, none, control⟩
    | some out =>
      obtain ⟨keptShown, controlShown⟩ := @show_picture_kept _ out delayed
      exact ⟨keptShown, none, controlShown.trans control⟩

end Display

section Refresh

variable {h next : H264Context}

theorem release_control {slot nReference : Nat}
    (done : releaseUnmarked h slot nReference = some next) : next.control = h.control := by
  unfold releaseUnmarked at done
  dsimp only at done
  split at done
  · obtain ⟨queue, -, rfl⟩ := map_eq_some_iff.mp done
    rfl
  · obtain rfl := Option.some.inj done
    rfl

structure MarksLost (h next : H264Context) (slots : List Nat) : Prop where
  control : next.control = h.control
  shorts : next.pShortRef = h.pShortRef
  stays : ∀ s, Unmarked (h.picture s).nReference → Unmarked (next.picture s).nReference
  lost : ∀ s ∈ slots, Unmarked (next.picture s).nReference

theorem unreference_all_marks {slots : List Nat} (done : unreferenceAll h slots = some next) :
    MarksLost h next slots := by
  induction slots generalizing h with
  | nil =>
    obtain rfl := Option.some.inj done
    exact ⟨rfl, rfl, fun s before => before, fun s member => by cases member⟩
  | cons slot slots ih =>
    simp only [unreferenceAll, foldlM_cons] at done
    obtain ⟨middle, first, later⟩ := bind_eq_some_iff.mp done
    obtain ⟨nReference, unmarked, released⟩ := unreference_cases first
    have rest := ih later
    have here := (release_here unmarked released).2
    refine ⟨rest.control.trans (release_control released),
      rest.shorts.trans (release_lists released).1, ?_, ?_⟩
    · intro s before
      apply rest.stays
      by_cases same : s = slot
      · rw [same]
        exact here
      · rw [release_elsewhere same released]
        exact before
    · intro s member
      rcases mem_cons.mp member with rfl | behind
      · exact rest.stays s here
      · exact rest.lost s behind

theorem refill_kept (done : refillQueue h = some next)
    (nobody : ∀ s, Unmarked (h.picture s).nReference) :
    Kept next none ∧ next.control = h.control := by
  obtain ⟨drained, emptied, done⟩ := bind_eq_some_iff.mp done
  obtain ⟨filled, put, rfl⟩ := map_eq_some_iff.mp done
  have distinct : ([] ++ List.range h.nH264MvBufNum).Nodup := nodup_range
  have bound : ([] ++ List.range h.nH264MvBufNum).length ≤ h.nH264MvBufNum := by simp
  obtain ⟨after, same, holds⟩ := enqueue_all_holds (drain_empty emptied) distinct bound
  obtain rfl := Option.some.inj (same.symm.trans put)
  have noOwner (s : Nat) : ¬ Owner h.picture none s := by
    rintro (nothing | marked)
    · cases nothing
    · exact marked (nobody s)
  refine ⟨⟨⟨_, holds, ?_, ?_⟩, ?_⟩, rfl⟩
  · apply all_free ?_ noOwner
    intro node
    rw [nil_append, mem_range]
  · intro s owns
    exact absurd owns (noOwner s)
  · rintro s isHeld
    cases isHeld

theorem refresh_kept (listed : ∀ s, Unmarked (h.picture s).nReference ∨
      s ∈ countedLongRefs h ∨ s ∈ h.pShortRef)
    (done : h264ReferenceRefresh h = some next) :
    Kept next none ∧ next.control = h.control := by
  obtain ⟨first, longs, done⟩ := bind_eq_some_iff.mp done
  obtain ⟨second, shorts, refilled⟩ := bind_eq_some_iff.mp done
  have lostLongs := unreference_all_marks longs
  have lostShorts := unreference_all_marks shorts
  have nobody : ∀ s, Unmarked (second.picture s).nReference := by
    intro s
    rcases listed s with unmarked | isLong | isShort
    · exact lostShorts.stays s (lostLongs.stays s unmarked)
    · exact lostShorts.stays s (lostLongs.lost s isLong)
    · apply lostShorts.lost s
      rw [lostLongs.shorts]
      exact isShort
  obtain ⟨kept, control⟩ := refill_kept refilled nobody
  exact ⟨kept, control.trans (lostShorts.control.trans lostLongs.control)⟩

theorem reset_decoder_kept (done : resetDecoder h = some next) : Kept next none ∧ next.control =
      { h.control with
        pCurPicturePtr := none
        nPicStructure := 0xFF
        bFstField := 0xFF
        nCurSliceNum := 0
        bDecStarted := false } := by
  obtain ⟨middle, refreshed, rfl⟩ := map_eq_some_iff.mp done
  obtain ⟨kept, control⟩ := refresh_kept (fun s => .inl (.inl rfl)) refreshed
  refine ⟨kept, ?_⟩
  have dropped := congrArg Control.bLastDropBFrame control
  change Control.mk none 0xFF 0xFF 0 false middle.control.bLastDropBFrame = _
  rw [dropped]
  rfl

end Refresh

variable {h next : H264Context} {slot : Nat} {nodes : List Nat}

/-- The owners apart from the picture that is about to take a node. -/
def Others (picture : Nat → H264PicInfo) (slot s : Nat) : Prop :=
  s ≠ slot ∧ ¬ Unmarked (picture s).nReference

def LeastInPool (nH264MvBufNum : Nat) (least : Nat × Nat) : Prop :=
  least.1 = INIT_MV_BUF_CALCULATE_NUM ∨ least.2 < nH264MvBufNum

theorem least_bound : LeastInPool h.nH264MvBufNum (leastCalculateNum h) := by
  unfold leastCalculateNum
  apply List.foldlRecOn (motive := LeastInPool h.nH264MvBufNum)
  · exact .inl rfl
  · intro least before i member
    dsimp only
    split
    · exact .inr (mem_range.mp member)
    · exact before

/-- The node that is taken from a picture was its own, and is the only free one. -/
theorem steal_kept (kept : PoolKept h (Others h.picture slot) []) (done : stealNode h = some next) :
    (∃ nodes, PoolKept next (Others next.picture slot) nodes) ∧ next.control = h.control ∧
      next.picture slot = h.picture slot ∧ next.bSeparateOutput = h.bSeparateOutput := by
  unfold stealNode at done
  split at done
  rename_i minCalculteNum index least
  split at done
  · cases done
  · rename_i inUse
    have inPool : index < h.nH264MvBufNum := by
      have bound := @least_bound h
      rw [least] at bound
      exact bound.resolve_left inUse
    have parted := kept.2.1
    rcases parted.covered index inPool with isFree | ⟨victim, owns, same⟩
    · cases isFree
    · have back := parted.back_owner victim owns
      rw [same] at back
      rw [back] at done
      have cleared : PoolKept (h.setPicture victim (h.picture victim).stolen)
          (Others h.picture slot) [] := set_picture_pool kept rfl fun s => Iff.rfl
      have rest (s : Nat) : Others (h.setPicture victim (h.picture victim).stolen).picture slot s ↔
          Others h.picture slot s ∧ s ≠ victim := by
        unfold Others H264Context.setPicture
        by_cases here : s = victim
        · subst s
          simp [Unmarked, H264PicInfo.stolen]
        · simp [here]
      have index : ((h.setPicture victim (h.picture victim).stolen).picture victim).nH264MvBufIndex =
          (h.picture victim).nH264MvBufIndex := set_picture_node victim rfl
      change giveBackNode (h.setPicture victim (h.picture victim).stolen) _ = some next at done
      rw [← same, ← index] at done
      have left := give_back_kept cleared owns rest done
      obtain ⟨pictures, separate⟩ := give_back_pictures done
      have control := give_back_control done
      refine ⟨?_, control, ?_, separate⟩
      · rw [pictures]
        exact ⟨_, left⟩
      · rw [pictures]
        exact update_of_ne (Ne.symm owns.1) _ _

theorem assign_node_index (node : Nat) :
    (fun s => ((assignNode h slot node).picture s).nH264MvBufIndex) =
      update (fun s => (h.picture s).nH264MvBufIndex) slot node := by
  funext s
  unfold assignNode H264Context.setPicture
  by_cases here : s = slot
  · subst s
    simp
  · simp [here]

theorem assign_node_back (node : Nat) :
    (fun p => ((assignNode h slot node).pH264MvBufInf p).pCurPicturePtr) =
      update (fun p => (h.pH264MvBufInf p).pCurPicturePtr) node (some slot) := by
  have rebased (manager : H264MvBufManager) :
      (rebaseNum h.nCurFrmNum manager).pCurPicturePtr = manager.pCurPicturePtr := by
    unfold rebaseNum
    split <;> rfl
  funext p
  unfold assignNode
  dsimp only
  split
  · rw [rebased]
    by_cases here : p = node
    · subst p
      simp
    · simp [here]
  · by_cases here : p = node
    · subst p
      simp
    · simp [here]

theorem assign_node_owners {node : Nat} (s : Nat) :
    Owner (assignNode h slot node).picture (some slot) s ↔ Others h.picture slot s ∨ s = slot := by
  unfold Owner Others assignNode H264Context.setPicture
  by_cases here : s = slot
  · subst s
    simp
  · simp [here, Ne.symm here]

theorem dequeue_node_kept (kept : PoolKept h (Others h.picture slot) nodes)
    (inRange : slot < MAX_PICTURE_COUNT) (done : dequeueNode h slot = some next) :
    (∃ nodes, PoolKept next (Owner next.picture (some slot)) nodes) ∧ next.control = h.control ∧
      next.picture slot =
        { h.picture slot with nH264MvBufIndex := (next.picture slot).nH264MvBufIndex } ∧
      next.bSeparateOutput = h.bSeparateOutput := by
  obtain ⟨queue, parted, slots⟩ := kept
  have distinct := chain_nodup queue
  unfold dequeueNode at done
  cases nodes with
  | nil =>
    rw [dequeue_empty queue] at done
    cases done
  | cons node nodes =>
    obtain ⟨taking, later⟩ := dequeue_holds queue
    split at done
    · rename_i same
      rw [same] at taking
      cases taking
    · rename_i rest first same
      rw [same] at taking later
      obtain rfl := Option.some.inj taking
      obtain rfl := Option.some.inj done
      refine ⟨⟨nodes, later, ?_, ?_⟩, rfl, ?_, rfl⟩
      · rw [assign_node_index, assign_node_back]
        exact taken parted distinct (fun owns => owns.1 rfl) assign_node_owners
      · intro s owns
        rcases (assign_node_owners s).mp owns with before | rfl
        · exact slots s before
        · exact inRange
      · unfold assignNode H264Context.setPicture
        simp only [update_self]

theorem take_node_kept (kept : PoolKept h (Others h.picture slot) nodes)
    (inRange : slot < MAX_PICTURE_COUNT) (done : takeNode h slot = some next) :
    (∃ nodes, PoolKept next (Owner next.picture (some slot)) nodes) ∧ next.control = h.control ∧
      next.picture slot =
        { h.picture slot with nH264MvBufIndex := (next.picture slot).nH264MvBufIndex } ∧
      next.bSeparateOutput = h.bSeparateOutput := by
  unfold takeNode at done
  split at done
  · rename_i empty
    obtain ⟨middle, stolen, dequeued⟩ := bind_eq_some_iff.mp done
    have nothing : nodes = [] := by
      have queue := kept.1
      unfold Holds at queue
      rw [empty] at queue
      exact chain_none queue
    subst nothing
    obtain ⟨⟨left, keptMiddle⟩, control, picture, separate⟩ := steal_kept kept stolen
    obtain ⟨pool, controlAfter, pictureAfter, separateAfter⟩ :=
      dequeue_node_kept keptMiddle inRange dequeued
    rw [picture] at pictureAfter
    exact ⟨pool, controlAfter.trans control, pictureAfter, separateAfter.trans separate⟩
  · exact dequeue_node_kept kept inRange done

theorem start_kept {nalu : SliceNalu} (kept : Kept h none) (free : FreeSlot h slot)
    (unmarked : Unmarked (h.picture slot).nReference)
    (done : takeNode (describePicture (h264FrameStart nalu h slot) slot) slot = some next) :
    Kept next (some slot) ∧ next.control = { h.control with pCurPicturePtr := some slot } := by
  obtain ⟨⟨nodes, pool⟩, -⟩ := kept
  have others (s : Nat) : Others (describePicture (h264FrameStart nalu h slot) slot).picture slot s ↔
      Owner h.picture none s := by
    unfold Others Owner describePicture h264FrameStart H264Context.setPicture
    by_cases here : s = slot
    · subst s
      simp [unmarked]
    · simp [here]
  have started : PoolKept (describePicture (h264FrameStart nalu h slot) slot)
      (Others (describePicture (h264FrameStart nalu h slot) slot).picture slot) nodes := by
    obtain ⟨queue, parted, slots⟩ := pool
    refine ⟨queue, ?_, ?_⟩
    · apply same_owners parted others
      intro s owns
      unfold describePicture h264FrameStart H264Context.setPicture
      by_cases here : s = slot
      · subst s
        simp
      · simp [here]
    · intro s owns
      exact slots s ((others s).mp owns)
  obtain ⟨taken, control, picture, separate⟩ := take_node_kept started free.1 done
  refine ⟨⟨taken, ?_⟩, control⟩
  intro s isHeld
  obtain rfl := Option.some.inj isHeld
  unfold hasDisplayBuffer
  rw [picture, separate]
  unfold describePicture h264FrameStart H264Context.setPicture
  simp only [update_self]
  cases h.bSeparateOutput <;> rfl

end CedarC.H264MvPool
