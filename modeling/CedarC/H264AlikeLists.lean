import CedarC.H264MmcoSteps
import CedarC.RelatedResults
import Mathlib.Data.List.Find

/-!
# The reference marking on two alike contexts

Two contexts whose reference lists name the same pictures under different slots
of `frmBufInf.picture`. Every function of the marking does the same to both.
-/

namespace CedarC.H264AlikeLists

open FixedWidth SlotTables RelatedResults H264RefMarking H264MmcoSteps Option

/-- What the marking reads of a picture; a picture that only waits for display has
no mark. -/
structure SameMarks (one other : H264PicInfo) : Prop where
  nFrmNum : one.nFrmNum = other.nFrmNum
  marks : one.nReference &&& 3 = other.nReference &&& 3

def Undelayed (hCtx : H264Context) : Prop :=
  ∀ cur, hCtx.pCurPicturePtr = some cur → hCtx.pDelayedOutPutPic ≠ some cur ∧ cur ∉ hCtx.pDelayedPic

structure SameCounts (one other : H264Context) : Prop where
  shorts : one.nShortRefCount = other.nShortRefCount
  longs : one.nLongRefCount = other.nLongRefCount
  nPicStructure : one.nPicStructure = other.nPicStructure
  bFstField : one.bFstField = other.bFstField
  bIdrFrmFlag : one.bIdrFrmFlag = other.bIdrFrmFlag
  nCurPicNum : one.nCurPicNum = other.nCurPicNum
  nMaxPicNum : one.nMaxPicNum = other.nMaxPicNum
  nRefFrmCount : one.nRefFrmCount = other.nRefFrmCount
  mmco : one.mmco = other.mmco

/-- The lists of the two contexts name the same pictures. -/
structure Alike (pairs : Pic → Pic → Prop) (one other : H264Context) : Prop where
  paired : PairsOff pairs
  counts : SameCounts one other
  short : Matching pairs one.nShortRefCount one.pShortRef other.pShortRef
  long : Matching pairs MAX_PICTURE_COUNT one.pLongRef other.pLongRef
  cur : Option.Rel pairs one.pCurPicturePtr other.pCurPicturePtr
  marks : ∀ left right, pairs left right → SameMarks (one.picture left) (other.picture right)
  curReference : ∀ left right, one.pCurPicturePtr = some left → other.pCurPicturePtr = some right →
      (one.picture left).nReference = (other.picture right).nReference
  oneUndelayed : Undelayed one
  otherUndelayed : Undelayed other

variable {pairs : Pic → Pic → Prop} {one other : H264Context} {left right : Pic}

section Pictures

variable (alike : Alike pairs one other)

include alike

theorem same_field : one.isField = other.isField := by
  unfold H264Context.isField
  rw [alike.counts.nPicStructure]

theorem same_pic_num (picNum : Int) :
    H264PicNumExtract one picNum = H264PicNumExtract other picNum := by
  unfold H264PicNumExtract
  rw [same_field alike, alike.counts.nPicStructure]

theorem cur_pairs (related : pairs left right) :
    one.pCurPicturePtr = some left ↔ other.pCurPicturePtr = some right := by
  have cur := alike.cur
  generalize one.pCurPicturePtr = oneCur at cur
  generalize other.pCurPicturePtr = otherCur at cur
  cases cur with
  | none => simp
  | some current =>
    rw [some_inj, some_inj]
    exact pairs_off_iff alike.paired current related

omit alike

theorem picture_self (hCtx : H264Context) (pic : Pic) (info : H264PicInfo) :
    (hCtx.setPicture pic info).picture pic = info := Function.update_self _ _ _

theorem picture_other (hCtx : H264Context) {pic other : Pic} (info : H264PicInfo)
    (apart : other ≠ pic) : (hCtx.setPicture pic info).picture other = hCtx.picture other :=
  Function.update_of_ne apart _ _

theorem written_pair (alike : Alike pairs one other) (related : pairs left right)
    {oneInfo otherInfo : H264PicInfo} {property : H264PicInfo → H264PicInfo → Prop}
    {first second : Pic} (both : pairs first second)
    (here : first = left → property oneInfo otherInfo)
    (elsewhere : property (one.picture first) (other.picture second)) :
    property ((one.setPicture left oneInfo).picture first)
      ((other.setPicture right otherInfo).picture second) := by
  have sides := pairs_off_iff alike.paired both related
  by_cases same : first = left
  · have there := sides.mp same
    rw [same, there, picture_self, picture_self]
    exact here same
  · have there : second ≠ right := fun equal => same (sides.mpr equal)
    rw [picture_other _ _ same, picture_other _ _ there]
    exact elsewhere

theorem set_picture_alike (alike : Alike pairs one other) (related : pairs left right)
    {oneInfo otherInfo : H264PicInfo} (same : SameMarks oneInfo otherInfo)
    (current : one.pCurPicturePtr = some left → oneInfo.nReference = otherInfo.nReference) :
    Alike pairs (one.setPicture left oneInfo) (other.setPicture right otherInfo) where
  paired := alike.paired
  counts := ⟨alike.counts.shorts, alike.counts.longs, alike.counts.nPicStructure,
    alike.counts.bFstField, alike.counts.bIdrFrmFlag, alike.counts.nCurPicNum,
    alike.counts.nMaxPicNum, alike.counts.nRefFrmCount, alike.counts.mmco⟩
  short := alike.short
  long := alike.long
  cur := alike.cur
  marks := by
    intro first second both
    apply written_pair alike related both
    · intro _
      exact same
    · exact alike.marks first second both
  curReference := by
    intro first second oneCur otherCur
    have both : pairs first second := rel_values alike.cur oneCur otherCur
    have sameReference := @written_pair _ _ _ _ _ alike related oneInfo otherInfo
      (fun oneInfo otherInfo => oneInfo.nReference = otherInfo.nReference) first second both
    apply sameReference
    · intro here
      rw [here] at oneCur
      exact current oneCur
    · exact alike.curReference first second oneCur otherCur
  oneUndelayed := alike.oneUndelayed
  otherUndelayed := alike.otherUndelayed

structure Kept (hCtx after : H264Context) : Prop where
  rest : after = { hCtx with picture := after.picture }
  marks : ∀ pic, SameMarks (hCtx.picture pic) (after.picture pic)
  curReference : ∀ cur, hCtx.pCurPicturePtr = some cur →
    (hCtx.picture cur).nReference = (after.picture cur).nReference

theorem kept_refl (hCtx : H264Context) : Kept hCtx hCtx :=
  ⟨rfl, fun _ => ⟨rfl, rfl⟩, fun _ _ => rfl⟩

variable {refmask : Nat} {hCtx after : H264Context}

theorem kept_trans {middle : H264Context} (earlier : Kept hCtx middle)
    (later : Kept middle after) : Kept hCtx after := by
  have sameCur : middle.pCurPicturePtr = hCtx.pCurPicturePtr := by rw [earlier.rest]
  constructor
  · rw [later.rest, earlier.rest]
  · intro pic
    have first := earlier.marks pic
    have second := later.marks pic
    exact ⟨first.nFrmNum.trans second.nFrmNum, first.marks.trans second.marks⟩
  · intro cur current
    rw [earlier.curReference cur current]
    exact later.curReference cur (sameCur.trans current)

theorem kept_undelayed (kept : Kept hCtx after) (undelayed : Undelayed hCtx) : Undelayed after := by
  rw [kept.rest]
  exact undelayed

theorem kept_alike {oneAfter otherAfter : H264Context} (alike : Alike pairs one other)
    (oneKept : Kept one oneAfter) (otherKept : Kept other otherAfter) :
    Alike pairs oneAfter otherAfter where
  paired := alike.paired
  counts := by
    rw [oneKept.rest, otherKept.rest]
    exact ⟨alike.counts.shorts, alike.counts.longs, alike.counts.nPicStructure,
      alike.counts.bFstField, alike.counts.bIdrFrmFlag, alike.counts.nCurPicNum,
      alike.counts.nMaxPicNum, alike.counts.nRefFrmCount, alike.counts.mmco⟩
  short := by
    rw [oneKept.rest, otherKept.rest]
    exact alike.short
  long := by
    rw [oneKept.rest, otherKept.rest]
    exact alike.long
  cur := by
    rw [oneKept.rest, otherKept.rest]
    exact alike.cur
  marks := by
    intro first second both
    have left := oneKept.marks first
    have right := otherKept.marks second
    have same := alike.marks first second both
    exact ⟨left.nFrmNum.symm.trans (same.nFrmNum.trans right.nFrmNum),
      left.marks.symm.trans (same.marks.trans right.marks)⟩
  curReference := by
    intro first second oneCur otherCur
    rw [oneKept.rest] at oneCur
    rw [otherKept.rest] at otherCur
    rw [← oneKept.curReference first oneCur, ← otherKept.curReference second otherCur]
    exact alike.curReference first second oneCur otherCur
  oneUndelayed := kept_undelayed oneKept alike.oneUndelayed
  otherUndelayed := kept_undelayed otherKept alike.otherUndelayed

theorem delayed_unmarked : DELAYED_PIC_REF &&& 3 = 0 &&& 3 := by decide

theorem return_buffer_kept {pic : Pic}
    (current : hCtx.pCurPicturePtr = some pic → (hCtx.picture pic).nReference ≠ DELAYED_PIC_REF) :
    Kept hCtx (returnBuffer hCtx pic) := by
  unfold returnBuffer
  dsimp only
  split_ifs with returned
  · constructor
    · rfl
    · intro other
      by_cases same : other = pic
      · rw [same, picture_self]
        refine ⟨rfl, ?_⟩
        rcases returned.1 with unused | delayed
        · rw [unused]
        · rw [delayed]
          exact delayed_unmarked
      · rw [picture_other _ _ same]
        exact ⟨rfl, rfl⟩
    · intro cur isCur
      by_cases same : cur = pic
      · rw [same] at isCur ⊢
        rw [picture_self]
        exact returned.1.resolve_right (current isCur)
      · rw [picture_other _ _ same]
  · exact kept_refl hCtx

theorem mark_delayed_kept {hCtx : H264Context} {pic : Pic} (undelayed : Undelayed hCtx)
    (unused : (hCtx.picture pic).nReference = 0) : Kept hCtx (markDelayed hCtx pic) := by
  unfold markDelayed
  split_ifs with delayed
  · constructor
    · rfl
    · intro other
      unfold H264Context.setReference
      by_cases same : other = pic
      · rw [same, picture_self]
        refine ⟨rfl, ?_⟩
        rw [unused]
        exact delayed_unmarked.symm
      · rw [picture_other _ _ same]
        exact ⟨rfl, rfl⟩
    · intro cur isCur
      unfold H264Context.setReference
      by_cases same : cur = pic
      · rw [same] at isCur
        have apart := undelayed pic isCur
        rcases delayed with out | listed
        · exact absurd out apart.1
        · exact absurd listed apart.2
      · rw [picture_other _ _ same]
  · exact kept_refl hCtx

theorem and_field_mask (nReference : Nat) (small : refmask < 4) :
    nReference &&& refmask = (nReference &&& 3) &&& refmask := by
  rw [Nat.and_assoc]
  have inside : 3 &&& refmask = refmask := by
    rw [Nat.and_comm]
    exact @Nat.and_two_pow_sub_one_of_lt_two_pow 2 refmask small
  rw [inside]

theorem masked_marks (same : SameMarks (one.picture left) (other.picture right))
    (small : refmask < 4) :
    (one.picture left).nReference &&& refmask = (other.picture right).nReference &&& refmask := by
  rw [and_field_mask _ small, and_field_mask (other.picture right).nReference small, same.marks]

theorem set_reference_alike (alike : Alike pairs one other) (related : pairs left right)
    (nReference : Nat) :
    Alike pairs (one.setReference left nReference) (other.setReference right nReference) := by
  have same := alike.marks left right related
  apply set_picture_alike alike related
  · exact ⟨same.nFrmNum, rfl⟩
  · intro _
    rfl

theorem unn_reference_kept (hCtx : H264Context) (pic : Pic) (small : refmask < 4)
    (undelayed : Undelayed hCtx) :
    Kept (hCtx.setReference pic ((hCtx.picture pic).nReference &&& refmask))
      (H264UnnReferencePic hCtx pic refmask).1 := by
  have written : ((hCtx.setReference pic ((hCtx.picture pic).nReference &&& refmask)).picture
      pic).nReference = (hCtx.picture pic).nReference &&& refmask := by
    unfold H264Context.setReference
    rw [picture_self]
  have below : (hCtx.picture pic).nReference &&& refmask < 4 :=
    Nat.lt_of_le_of_lt Nat.and_le_right small
  unfold H264UnnReferencePic
  dsimp only
  split_ifs with held
  · apply return_buffer_kept
    intro _ delayed
    rw [written] at delayed
    rw [delayed] at below
    exact absurd below (by decide)
  · have unused : (hCtx.picture pic).nReference &&& refmask = 0 := not_not.mp held
    have waits := @mark_delayed_kept
      (hCtx.setReference pic ((hCtx.picture pic).nReference &&& refmask)) pic undelayed
      (written.trans unused)
    apply kept_trans waits
    apply return_buffer_kept
    intro isCur delayed
    have curSame : (markDelayed (hCtx.setReference pic ((hCtx.picture pic).nReference &&& refmask))
        pic).pCurPicturePtr = hCtx.pCurPicturePtr := by
      rw [waits.rest]
      rfl
    rw [curSame] at isCur
    rw [← waits.curReference pic isCur, written, unused] at delayed
    exact absurd delayed (by decide)

theorem unn_reference_alike (alike : Alike pairs one other) (related : pairs left right)
    (small : refmask < 4) :
    Alike pairs (H264UnnReferencePic one left refmask).1
        (H264UnnReferencePic other right refmask).1 ∧
      (H264UnnReferencePic one left refmask).2 = (H264UnnReferencePic other right refmask).2 := by
  have marks := masked_marks (alike.marks left right related) small
  constructor
  · apply kept_alike _ (unn_reference_kept one left small alike.oneUndelayed)
      (unn_reference_kept other right small alike.otherUndelayed)
    rw [marks]
    exact set_reference_alike alike related _
  · unfold H264UnnReferencePic
    dsimp only
    rw [marks]
    split_ifs <;> rfl

theorem unreference_alike {oneDropped otherDropped : Option Pic} (alike : Alike pairs one other)
    (related : Option.Rel pairs oneDropped otherDropped) :
    Alike pairs (unreference one oneDropped) (unreference other otherDropped) := by
  cases related with
  | none => exact alike
  | some both => exact (unn_reference_alike alike both (by decide)).1

end Pictures

section Lists

variable (alike : Alike pairs one other)

include alike

theorem find_short_from_alike (frameNum : Int) (left i : Nat)
    (inside : i + left ≤ one.nShortRefCount) :
    Option.Rel (Option.Rel fun first second : Pic × Nat =>
        pairs first.1 second.1 ∧ first.2 = second.2 ∧ first.2 < one.nShortRefCount)
      (findShortFrom one frameNum left i) (findShortFrom other frameNum left i) := by
  induction left generalizing i with
  | zero => exact .some .none
  | succ left later =>
    unfold findShortFrom
    split_ifs
    · exact later (i + 1) (by omega)
    · apply rel_bind (alike.short i (by omega))
      intro first second both
      rw [(alike.marks first second both).nFrmNum]
      split_ifs
      · exact .some (.some ⟨both, rfl, by omega⟩)
      · exact later (i + 1) (by omega)

theorem find_short_alike (frameNum : Int) : Option.Rel (Option.Rel fun first second : Pic × Nat =>
        pairs first.1 second.1 ∧ first.2 = second.2 ∧ first.2 < one.nShortRefCount)
      (H264FindShort one frameNum) (H264FindShort other frameNum) := by
  unfold H264FindShort
  rw [← alike.counts.shorts]
  exact find_short_from_alike alike frameNum _ 0 (by omega)

theorem lists_alike {oneShort otherShort oneLong otherLong}
    {oneCount otherCount : Nat} {oneLongs otherLongs : Int} (shorts : oneCount = otherCount)
    (longs : oneLongs = otherLongs) (short : Matching pairs oneCount oneShort otherShort)
    (long : Matching pairs MAX_PICTURE_COUNT oneLong otherLong) :
    Alike pairs
      { one with
        pShortRef := oneShort
        pLongRef := oneLong
        nShortRefCount := oneCount
        nLongRefCount := oneLongs }
      { other with
        pShortRef := otherShort
        pLongRef := otherLong
        nShortRefCount := otherCount
        nLongRefCount := otherLongs } where
  paired := alike.paired
  counts := ⟨shorts, longs, alike.counts.nPicStructure, alike.counts.bFstField,
    alike.counts.bIdrFrmFlag, alike.counts.nCurPicNum, alike.counts.nMaxPicNum,
    alike.counts.nRefFrmCount, alike.counts.mmco⟩
  short := short
  long := long
  cur := alike.cur
  marks := alike.marks
  curReference := alike.curReference
  oneUndelayed := alike.oneUndelayed
  otherUndelayed := alike.otherUndelayed

theorem remove_short_at_alike (i : Nat) : Option.Rel (Alike pairs) (H264RemoveShort_at_index one i)
      (H264RemoveShort_at_index other i) := by
  have cleared : Matching pairs one.nShortRefCount (Function.update one.pShortRef i none)
      (Function.update other.pShortRef i none) := matching_update alike.short .none
  unfold H264RemoveShort_at_index
  rw [← alike.counts.shorts]
  by_cases outside : MAX_PICTURE_COUNT ≤ i
  · rw [if_pos outside, if_pos outside]
    exact .none
  · rw [if_neg outside, if_neg outside]
    cases counted : one.nShortRefCount with
    | zero => exact .none
    | succ count =>
      rw [counted] at cleared
      cases count with
      | zero =>
        apply Option.Rel.some
        have empty : Matching pairs 0 (Function.update one.pShortRef i none)
            (Function.update other.pShortRef i none) := fun slot below => absurd below (by omega)
        exact lists_alike alike rfl alike.counts.longs empty alike.long
      | succ count =>
        dsimp only
        split_ifs
        · exact .none
        · apply Option.Rel.some
          exact lists_alike alike rfl alike.counts.longs (matching_move_down cleared) alike.long

omit alike

def AlikeRemoved (pairs : Pic → Pic → Prop) (one other : H264Context × Option Pic) : Prop :=
  Alike pairs one.1 other.1 ∧ Option.Rel pairs one.2 other.2

variable (alike : Alike pairs one other)

include alike

theorem remove_short_alike (frameNum : Int) :
    Option.Rel (AlikeRemoved pairs) (H264RemoveShort one frameNum)
      (H264RemoveShort other frameNum) := by
  unfold H264RemoveShort
  apply rel_bind (find_short_alike alike frameNum)
  intro oneFound otherFound found
  cases found with
  | none => exact .some ⟨alike, .none⟩
  | @some first second both =>
    rcases first with ⟨first, i⟩
    rcases second with ⟨second, j⟩
    rcases both with ⟨related, same, -⟩
    dsimp only at same related ⊢
    rw [← same]
    apply rel_map (remove_short_at_alike alike i)
    intro oneLeft otherLeft still
    exact ⟨still, .some related⟩

theorem remove_long_at_alike (i : Nat) :
    Option.Rel (Alike pairs) (H264RemoveLong_at_index one i) (H264RemoveLong_at_index other i) := by
  unfold H264RemoveLong_at_index
  split_ifs
  · exact .none
  · apply Option.Rel.some
    have fewer : one.nLongRefCount - 1 = other.nLongRefCount - 1 := by rw [alike.counts.longs]
    exact lists_alike alike alike.counts.shorts fewer alike.short
      (matching_update alike.long .none)

theorem remove_long_alike (i : Nat) :
    Option.Rel (AlikeRemoved pairs) (H264RemoveLong one i) (H264RemoveLong other i) := by
  unfold H264RemoveLong
  split_ifs with outside
  · exact .none
  · have held := alike.long i (by omega)
    generalize one.pLongRef i = oneHeld at held ⊢
    generalize other.pLongRef i = otherHeld at held ⊢
    cases held with
    | none => exact .some ⟨alike, .none⟩
    | some related =>
      apply rel_map (remove_long_at_alike alike i)
      intro oneLeft otherLeft still
      exact ⟨still, .some related⟩

theorem drop_short_alike (frameNum : Int) :
    Option.Rel (Alike pairs) (dropShort one frameNum) (dropShort other frameNum) := by
  unfold dropShort
  apply rel_map (remove_short_alike alike frameNum)
  intro oneRemoved otherRemoved removed
  exact unreference_alike removed.1 removed.2

theorem drop_long_alike (i : Nat) :
    Option.Rel (Alike pairs) (dropLong one i) (dropLong other i) := by
  unfold dropLong
  apply rel_map (remove_long_alike alike i)
  intro oneRemoved otherRemoved removed
  exact unreference_alike removed.1 removed.2

end Lists

section Commands

variable (alike : Alike pairs one other)

include alike

theorem short_to_unused_alike (nShortPicNum : Int) :
    Option.Rel (Alike pairs) (shortToUnused one nShortPicNum)
      (shortToUnused other nShortPicNum) := by
  unfold shortToUnused
  rw [← same_pic_num alike nShortPicNum]
  have small := extracted_structure_small one nShortPicNum
  generalize H264PicNumExtract one nShortPicNum = extracted at small ⊢
  rcases extracted with ⟨frameNum, structure_⟩
  dsimp only at small ⊢
  apply rel_bind (find_short_alike alike frameNum)
  intro oneFound otherFound found
  cases found with
  | none => exact .some alike
  | @some first second both =>
    rcases first with ⟨first, i⟩
    rcases second with ⟨second, j⟩
    rcases both with ⟨related, same, -⟩
    dsimp only at same related ⊢
    have unmarked := unn_reference_alike alike related small
    rw [← same, ← unmarked.2]
    split_ifs
    · exact remove_short_at_alike unmarked.1 i
    · exact .some unmarked.1

theorem long_to_unused_alike (bLongArg : Nat) :
    Option.Rel (Alike pairs) (longToUnused one bLongArg) (longToUnused other bLongArg) := by
  unfold longToUnused
  rw [← same_pic_num alike bLongArg]
  have small := extracted_structure_small one bLongArg
  generalize H264PicNumExtract one bLongArg = extracted at small ⊢
  rcases extracted with ⟨j, structure_⟩
  dsimp only at small ⊢
  split_ifs with outside
  · exact .none
  · have held := alike.long j.toNat (by omega)
    generalize one.pLongRef j.toNat = oneHeld at held ⊢
    generalize other.pLongRef j.toNat = otherHeld at held ⊢
    cases held with
    | none => exact .some alike
    | some related =>
      have unmarked := unn_reference_alike alike related small
      dsimp only
      rw [← unmarked.2]
      split_ifs
      · exact remove_long_at_alike unmarked.1 j.toNat
      · exact .some unmarked.1

theorem already_moved_alike (nShortPicNum : Int) {bLongArg : Nat}
    (inside : bLongArg < MAX_PICTURE_COUNT) :
    alreadyMoved one nShortPicNum bLongArg = alreadyMoved other nShortPicNum bLongArg := by
  unfold alreadyMoved
  rw [same_field alike, alike.counts.longs]
  have held := alike.long bLongArg inside
  generalize one.pLongRef bLongArg = oneHeld at held ⊢
  generalize other.pLongRef bLongArg = otherHeld at held ⊢
  cases held with
  | none => rfl
  | some related =>
    have same := alike.marks _ _ related
    simp only [any_some, same.nFrmNum]

theorem short_to_long_alike (nShortPicNum : Int) (bLongArg : Nat) :
    Option.Rel (Alike pairs) (shortToLong one nShortPicNum bLongArg)
      (shortToLong other nShortPicNum bLongArg) := by
  unfold shortToLong
  rw [same_field alike]
  by_cases outside : MAX_PICTURE_COUNT ≤ bLongArg
  · rw [if_pos outside, if_pos outside]
    exact .none
  · rw [if_neg outside, if_neg outside, already_moved_alike alike nShortPicNum (by omega)]
    split_ifs
    · exact .some alike
    all_goals
      apply rel_bind (drop_long_alike alike bLongArg)
      intro oneLeft otherLeft still
      apply rel_map (remove_short_alike still _)
      intro oneRemoved otherRemoved removed
      rcases oneRemoved with ⟨oneRemoved, oneTaken⟩
      rcases otherRemoved with ⟨otherRemoved, otherTaken⟩
      rcases removed with ⟨left, taken⟩
      dsimp only at left taken
      cases taken with
      | none =>
        exact lists_alike left left.counts.shorts left.counts.longs left.short
          (matching_update left.long .none)
      | some related =>
        have same := left.marks _ _ related
        have marked := @set_picture_alike _ _ _ _ _ left related
          { oneRemoved.picture _ with bLongRef := true }
          { otherRemoved.picture _ with bLongRef := true }
          ⟨same.nFrmNum, same.marks⟩
          (fun current => left.curReference _ _ current ((cur_pairs left related).mp current))
        have more : oneRemoved.nLongRefCount + 1 = otherRemoved.nLongRefCount + 1 := by
          rw [left.counts.longs]
        exact lists_alike marked left.counts.shorts more left.short
          (matching_update left.long (.some related))

theorem takes_slot_alike {bLongArg : Nat}
    (inside : bLongArg < MAX_PICTURE_COUNT) (oneCur : one.pCurPicturePtr = some left)
    (otherCur : other.pCurPicturePtr = some right) :
    takesSlot one left bLongArg = takesSlot other right bLongArg := by
  have related : pairs left right := rel_values alike.cur oneCur otherCur
  have held := alike.long bLongArg inside
  have sameSlot : one.pLongRef bLongArg = some left ↔ other.pLongRef bLongArg = some right := by
    generalize one.pLongRef bLongArg = oneHeld at held
    generalize other.pLongRef bLongArg = otherHeld at held
    cases held with
    | none => simp
    | some both =>
      rw [some_inj, some_inj]
      exact pairs_off_iff alike.paired both related
  unfold takesSlot
  rw [same_field alike, alike.counts.bFstField, decide_eq_decide.mpr sameSlot,
    alike.curReference left right oneCur otherCur]

theorem long_mark_alike (related : pairs left right) (bLongRef : Bool) :
    Alike pairs (one.setPicture left { one.picture left with bLongRef := bLongRef })
      (other.setPicture right { other.picture right with bLongRef := bLongRef }) := by
  have same := alike.marks left right related
  apply set_picture_alike alike related
  · exact ⟨same.nFrmNum, same.marks⟩
  · intro current
    exact alike.curReference left right current ((cur_pairs alike related).mp current)

theorem put_long_alike (related : pairs left right) (bLongArg : Nat) :
    Option.Rel (Alike pairs) (putLong one left bLongArg) (putLong other right bLongArg) := by
  unfold putLong
  apply rel_map (drop_long_alike alike bLongArg)
  intro oneLeft otherLeft still
  have more : oneLeft.nLongRefCount + 1 = otherLeft.nLongRefCount + 1 := by rw [still.counts.longs]
  exact lists_alike (long_mark_alike still related true) still.counts.shorts more still.short
    (matching_update still.long (.some related))

theorem add_structure_alike (related : pairs left right) :
    Alike pairs (addStructure one left) (addStructure other right) := by
  have same := alike.marks left right related
  unfold addStructure H264Context.setReference
  rw [alike.counts.nPicStructure]
  apply set_picture_alike alike related
  · refine ⟨same.nFrmNum, ?_⟩
    dsimp only
    rw [Nat.and_or_distrib_right, Nat.and_or_distrib_right, same.marks]
  · intro current
    dsimp only
    rw [alike.curReference left right current ((cur_pairs alike related).mp current)]

theorem long_alike (bLongArg : Nat) :
    Option.Rel (Alike pairs) (long one bLongArg) (long other bLongArg) := by
  unfold long
  by_cases outside : MAX_PICTURE_COUNT ≤ bLongArg
  · rw [if_pos outside, if_pos outside]
    exact .none
  · rw [if_neg outside, if_neg outside]
    rcases rel_cases alike.cur with absent | ⟨left, right, oneCur, otherCur, related⟩
    · rw [absent.1, absent.2]
      exact .none
    · rw [oneCur, otherCur]
      dsimp only [bind_some]
      rw [takes_slot_alike alike (by omega) oneCur otherCur]
      apply @rel_map _ _ _ _ (Alike pairs)
      · split_ifs
        · exact put_long_alike alike related bLongArg
        · exact .some alike
      · intro onePut otherPut put
        exact add_structure_alike put related

omit alike

theorem reset_short_alike (rounds : Nat) (alike : Alike pairs one other) :
    Option.Rel (Alike pairs) (resetShort rounds one) (resetShort rounds other) := by
  induction rounds generalizing one other with
  | zero =>
    unfold resetShort
    rw [← alike.counts.shorts]
    split_ifs
    · exact .some alike
    · exact .none
  | succ rounds later =>
    unfold resetShort
    rw [← alike.counts.shorts]
    split_ifs with empty
    · exact .some alike
    · apply rel_bind (alike.short 0 (by omega))
      intro left right related
      rw [(alike.marks left right related).nFrmNum]
      apply rel_bind (drop_short_alike alike _)
      intro oneLeft otherLeft still
      exact later still

theorem drop_long_from_alike (alike : Alike pairs one other) (first : Nat) :
    Option.Rel (Alike pairs) (dropLongFrom one first) (dropLongFrom other first) := by
  unfold dropLongFrom
  apply rel_foldlM
  · intro oneLeft otherLeft slot still
    exact drop_long_alike still slot
  · exact alike

def AlikeMarked (pairs : Pic → Pic → Prop) (one other : H264Context × Bool) : Prop :=
  Alike pairs one.1 other.1 ∧ one.2 = other.2

theorem with_flag_alike {oneStep otherStep : Option H264Context}
    (results : Option.Rel (Alike pairs) oneStep otherStep) (assigned : Bool) :
    Option.Rel (AlikeMarked pairs) (oneStep.map fun hCtx => (hCtx, assigned))
      (otherStep.map fun hCtx => (hCtx, assigned)) := by
  apply rel_map results
  intro oneLeft otherLeft still
  exact ⟨still, rfl⟩

theorem execute_mmco_alike (alike : Alike pairs one other) (assigned : Bool)
    (command : H264MmcoInfo) :
    Option.Rel (AlikeMarked pairs) (executeMmco one assigned command)
      (executeMmco other assigned command) := by
  cases command with
  | MMCO_SHORT_TO_UNUSED nShortPicNum =>
    exact with_flag_alike (short_to_unused_alike alike nShortPicNum) assigned
  | MMCO_LONG_TO_UNUSED bLongArg =>
    exact with_flag_alike (long_to_unused_alike alike bLongArg) assigned
  | MMCO_SHORT_TO_LONG nShortPicNum bLongArg =>
    exact with_flag_alike (short_to_long_alike alike nShortPicNum bLongArg) assigned
  | MMCO_SET_MAX_LONG bLongArg =>
    exact with_flag_alike (drop_long_from_alike alike bLongArg) assigned
  | MMCO_RESET =>
    unfold executeMmco
    rw [← alike.counts.shorts]
    apply rel_bind (reset_short_alike _ alike)
    intro oneLeft otherLeft still
    exact with_flag_alike (drop_long_from_alike still 0) assigned
  | MMCO_LONG bLongArg => exact with_flag_alike (long_alike alike bLongArg) true
  | unknown => exact .some ⟨alike, rfl⟩

end Commands

variable (alike : Alike pairs one other)

include alike

theorem continues_reference_alike
    (oneCur : one.pCurPicturePtr = some left) (otherCur : other.pCurPicturePtr = some right) :
    continuesReference one left = continuesReference other right := by
  unfold continuesReference
  rw [same_field alike, alike.counts.bFstField, alike.curReference left right oneCur otherCur]

theorem insert_short_alike (related : pairs left right) :
    Option.Rel (Alike pairs) (insertShort one left) (insertShort other right) := by
  unfold insertShort
  rw [(alike.marks left right related).nFrmNum]
  apply rel_bind (drop_short_alike alike _)
  intro oneLeft otherLeft still
  rw [← still.counts.shorts]
  split_ifs
  · exact .none
  · apply Option.Rel.some
    apply add_structure_alike _ related
    exact lists_alike (long_mark_alike still related false) rfl still.counts.longs
      (matching_move_up still.short related) still.long

theorem first_used_alike : ((List.range 16).find? fun i => (one.pLongRef i).isSome) =
      (List.range 16).find? fun i => (other.pLongRef i).isSome := by
  apply List.find?_congr
  intro i member
  have below := List.mem_range.mp member
  exact rel_isSome (alike.long i (by unfold MAX_PICTURE_COUNT; omega))

theorem drop_surplus_alike : Option.Rel (Alike pairs) (dropSurplus one) (dropSurplus other) := by
  unfold dropSurplus
  rw [← alike.counts.shorts, ← alike.counts.longs, ← alike.counts.nRefFrmCount,
    ← first_used_alike alike]
  split_ifs
  · have inside : (((List.range 16).find? fun i => (one.pLongRef i).isSome).getD 16) <
        MAX_PICTURE_COUNT := by
      cases found : (List.range 16).find? fun i => (one.pLongRef i).isSome with
      | none => decide
      | some i =>
        have below := List.mem_range.mp (List.mem_of_find?_eq_some found)
        unfold MAX_PICTURE_COUNT
        dsimp only [getD_some]
        omega
    apply rel_map (remove_long_at_alike alike _)
    intro oneLeft otherLeft still
    exact unreference_alike still (alike.long _ inside)
  · cases counted : one.nShortRefCount with
    | zero => exact .none
    | succ count =>
      apply rel_map (remove_short_at_alike alike count)
      intro oneLeft otherLeft still
      exact unreference_alike still (alike.short count (by omega))
  · exact .some alike

theorem place_current_alike (assigned : Bool)
    (oneCur : one.pCurPicturePtr = some left) (otherCur : other.pCurPicturePtr = some right) :
    Option.Rel (Alike pairs) (placeCurrent one left assigned)
      (placeCurrent other right assigned) := by
  have related : pairs left right := rel_values alike.cur oneCur otherCur
  have front : one.nShortRefCount ≠ 0 ∧ one.pShortRef 0 = some left ↔
      one.nShortRefCount ≠ 0 ∧ other.pShortRef 0 = some right := by
    apply and_congr_right
    intro some_short
    have first := alike.short 0 (by omega)
    generalize one.pShortRef 0 = oneFirst at first
    generalize other.pShortRef 0 = otherFirst at first
    cases first with
    | none => simp
    | some both =>
      rw [some_inj, some_inj]
      exact pairs_off_iff alike.paired both related
  unfold placeCurrent
  rw [← continues_reference_alike alike oneCur otherCur, ← alike.counts.shorts,
    if_congr front rfl rfl]
  split_ifs
  · exact .some alike
  · exact .some (set_reference_alike alike related _)
  · exact .some alike
  · exact insert_short_alike alike related

theorem finish_marking_alike (assigned : Bool) :
    Option.Rel (Alike pairs) (finishMarking one assigned) (finishMarking other assigned) := by
  unfold finishMarking
  rcases rel_cases alike.cur with absent | ⟨left, right, oneCur, otherCur, related⟩
  · rw [absent.1, absent.2]
    exact .none
  · rw [oneCur, otherCur]
    dsimp only [bind_some]
    apply rel_bind (place_current_alike alike assigned oneCur otherCur)
    intro onePlaced otherPlaced placed
    exact drop_surplus_alike placed

end CedarC.H264AlikeLists
