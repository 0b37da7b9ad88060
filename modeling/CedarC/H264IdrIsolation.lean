import CedarC.H264DefaultRefLists
import CedarC.H264RefMarkingRuns

/-!
# What the reference lists keep behind an IDR picture

Two runs of the reference marking, with any histories, go on with the same
pictures from an IDR picture. The slots that the pictures get, their buffers and
what the output side does may differ; a picture is known by the step that
started it.
-/

namespace CedarC.H264IdrIsolation

open GuardedRuns RelatedResults H264RefMarking H264MmcoSteps H264RefMarkingRuns H264AlikeLists
open H264DefaultRefLists Option Function

/-- The same step of the stream on other slots. -/
inductive SameOp : MarkingOp → MarkingOp → Prop
  | frameStart (pic pic' : Pic) (slice : SliceInfo)
      (reference pVPicture pScaleDownVPicture pVPicture' pScaleDownVPicture' : Bool) :
      SameOp (.frameStart pic slice reference pVPicture pScaleDownVPicture)
        (.frameStart pic' slice reference pVPicture' pScaleDownVPicture')
  | secondField (slice : SliceInfo) : SameOp (.secondField slice) (.secondField slice)
  | slice (slice : SliceInfo) : SameOp (.slice slice) (.slice slice)
  | decode (coded : MarkingSyntax) : SameOp (.decode coded) (.decode coded)
  | startMarking : SameOp .startMarking .startMarking
  | next : SameOp .next .next
  | refresh : SameOp .refresh .refresh
  | sps (nRefFrmCount : Int) : SameOp (.sps nRefFrmCount) (.sps nRefFrmCount)
  | output (picture picture' : Pic → H264PicInfo) (pDelayedPic pDelayedPic' : List Pic)
      (pDelayedOutPutPic pDelayedOutPutPic' : Option Pic) :
      SameOp (.output picture pDelayedPic pDelayedOutPutPic)
        (.output picture' pDelayedPic' pDelayedOutPutPic')

/-- An IDR picture that starts in a slot: the refresh, the SPS it names, its first slice
header. -/
def idrPicture (pic : Pic) (nRefFrmCount : Int) (slice : SliceInfo) (coded : MarkingSyntax)
    (pVPicture pScaleDownVPicture : Bool) : List MarkingOp :=
  [.refresh, .sps nRefFrmCount,
    .frameStart pic { slice with bIdrFrmFlag := true } true pVPicture pScaleDownVPicture,
    .decode coded]

def nameStep (names : Pic → Option Nat) (count : Nat) : MarkingOp → Pic → Option Nat
  | .frameStart pic _ _ _ _ => update names pic (some count)
  | _ => names

def startedFrom (names : Pic → Option Nat) : Nat → List MarkingOp → Pic → Option Nat
  | _, [] => names
  | count, op :: rest => startedFrom (nameStep names count op) (count + 1) rest

def started (ops : List MarkingOp) : Pic → Option Nat := startedFrom (fun _ => none) 0 ops

def SamePicture (names names' : Pic → Option Nat) (left right : Pic) : Prop :=
  ∃ count, names left = some count ∧ names' right = some count

def Listed (hCtx : H264Context) (pic : Pic) : Prop :=
  (∃ i < hCtx.nShortRefCount, hCtx.pShortRef i = some pic) ∨
    ∃ i < MAX_PICTURE_COUNT, hCtx.pLongRef i = some pic

/-- A slot that is in no list and waits for no display. -/
def SlotFree (hCtx : H264Context) (pic : Pic) : Prop :=
  PickSafe hCtx pic ∧ hCtx.pDelayedOutPutPic ≠ some pic ∧ pic ∉ hCtx.pDelayedPic
deriving Decidable

def OutputKeeps (hCtx : H264Context) (picture : Pic → H264PicInfo) : Prop :=
  ∀ pic, Listed hCtx pic → SameMarks (hCtx.picture pic) (picture pic)

def PlaceSafe (system : MarkingSystem) : MarkingOp → Prop
  | .frameStart pic _ _ _ _ => SlotFree system.hCtx pic
  | .output picture _ _ => OutputKeeps system.hCtx picture
  | _ => True

instance (one other : H264PicInfo) : Decidable (SameMarks one other) :=
  decidable_of_iff
    (one.nFrmNum = other.nFrmNum ∧ one.nReference &&& 3 = other.nReference &&& 3)
    ⟨fun same => ⟨same.1, same.2⟩, fun same => ⟨same.nFrmNum, same.marks⟩⟩

instance (hCtx : H264Context) (pic : Pic) : Decidable (Listed hCtx pic) :=
  inferInstanceAs (Decidable (_ ∨ _))

instance (hCtx : H264Context) (picture : Pic → H264PicInfo) :
    Decidable (OutputKeeps hCtx picture) :=
  inferInstanceAs (Decidable (∀ _, _ → _))

instance (system : MarkingSystem) (op : MarkingOp) : Decidable (PlaceSafe system op) :=
  match op with
  | .frameStart pic _ _ _ _ => inferInstanceAs (Decidable (SlotFree system.hCtx pic))
  | .output picture _ _ => inferInstanceAs (Decidable (OutputKeeps system.hCtx picture))
  | .secondField _ | .slice _ | .decode _ | .startMarking | .next | .refresh | .sps _ =>
    isTrue trivial

section Commands

variable {pairs : Pic → Pic → Prop} {one other : H264Context}

theorem decode_mmcos_alike (alike : Alike pairs one other) (values : UeValues) (left pos : Nat) :
    decodeMmcos one values left pos = decodeMmcos other values left pos := by
  have short : ∀ difference, shortPicNum one difference = shortPicNum other difference := by
    intro difference
    unfold shortPicNum
    rw [alike.counts.nCurPicNum, alike.counts.nMaxPicNum]
  have long : ∀ toUnused bLongArg, longArg one toUnused bLongArg = longArg other toUnused bLongArg := by
    intro toUnused bLongArg
    unfold longArg
    rw [same_field alike]
  induction left generalizing pos with
  | zero => rfl
  | succ left later =>
    unfold decodeMmcos
    simp only [short, long, later]

theorem sliding_window_alike (alike : Alike pairs one other) :
    slidingWindow one = slidingWindow other := by
  unfold slidingWindow
  rw [← alike.counts.shorts, ← alike.counts.longs, ← alike.counts.nRefFrmCount, same_field alike,
    alike.counts.bFstField]
  by_cases full : one.nShortRefCount ≠ 0 ∧ one.nLongRefCount + one.nShortRefCount = one.nRefFrmCount
  · rw [if_pos full, if_pos full]
    rcases rel_cases alike.cur with absent | ⟨left, right, oneCur, otherCur, -⟩
    · rw [absent.1, absent.2]
      rfl
    · rw [oneCur, otherCur]
      dsimp only [bind_some]
      rw [alike.curReference left right oneCur otherCur]
      have last := alike.short (one.nShortRefCount - 1) (by omega)
      split_ifs
      all_goals first | rfl | skip
      all_goals
        generalize one.pShortRef (one.nShortRefCount - 1) = oneLast at last ⊢
        generalize other.pShortRef (one.nShortRefCount - 1) = otherLast at last ⊢
        cases last with
        | none => rfl
        | some related => rw [map_some, map_some, (alike.marks _ _ related).nFrmNum]
  · rw [if_neg full, if_neg full]

/-- A context that differs in its coding at most. -/
structure KeepsPictures (hCtx after : H264Context) : Prop where
  picture : after.picture = hCtx.picture
  pShortRef : after.pShortRef = hCtx.pShortRef
  pLongRef : after.pLongRef = hCtx.pLongRef
  shorts : after.nShortRefCount = hCtx.nShortRefCount
  cur : after.pCurPicturePtr = hCtx.pCurPicturePtr
  delayed : after.pDelayedPic = hCtx.pDelayedPic
  out : after.pDelayedOutPutPic = hCtx.pDelayedOutPutPic

theorem keeps_undelayed {hCtx after : H264Context} (kept : KeepsPictures hCtx after)
    (undelayed : Undelayed hCtx) : Undelayed after := by
  intro cur current
  rw [kept.delayed, kept.out]
  exact undelayed cur (kept.cur.symm.trans current)

variable (alike : Alike pairs one other)

include alike

theorem coding_alike {oneAfter otherAfter : H264Context}
    (oneKept : KeepsPictures one oneAfter) (otherKept : KeepsPictures other otherAfter)
    (counts : SameCounts oneAfter otherAfter) : Alike pairs oneAfter otherAfter where
  paired := alike.paired
  counts := counts
  short := by
    rw [oneKept.shorts, oneKept.pShortRef, otherKept.pShortRef]
    exact alike.short
  long := by
    rw [oneKept.pLongRef, otherKept.pLongRef]
    exact alike.long
  cur := by
    rw [oneKept.cur, otherKept.cur]
    exact alike.cur
  marks := by
    rw [oneKept.picture, otherKept.picture]
    exact alike.marks
  curReference := by
    rw [oneKept.cur, otherKept.cur, oneKept.picture, otherKept.picture]
    exact alike.curReference
  oneUndelayed := keeps_undelayed oneKept alike.oneUndelayed
  otherUndelayed := keeps_undelayed otherKept alike.otherUndelayed

theorem commands_alike (mmco : List H264MmcoInfo) :
    Alike pairs { one with mmco := mmco } { other with mmco := mmco } := by
  apply coding_alike alike
  · exact ⟨rfl, rfl, rfl, rfl, rfl, rfl, rfl⟩
  · exact ⟨rfl, rfl, rfl, rfl, rfl, rfl, rfl⟩
  · exact ⟨alike.counts.shorts, alike.counts.longs, alike.counts.nPicStructure,
      alike.counts.bFstField, alike.counts.bIdrFrmFlag, alike.counts.nCurPicNum,
      alike.counts.nMaxPicNum, alike.counts.nRefFrmCount, rfl⟩

theorem decode_marking_alike (coded : MarkingSyntax) :
    Option.Rel (Alike pairs) (H264DecodeRefPicMarking one coded)
      (H264DecodeRefPicMarking other coded) := by
  have flag := alike.counts.bIdrFrmFlag
  unfold H264DecodeRefPicMarking
  rw [decode_mmcos_alike alike, sliding_window_alike alike]
  by_cases idr : one.bIdrFrmFlag = true
  · rw [if_pos idr, if_pos (flag.symm.trans idr)]
    exact .some (commands_alike alike _)
  · rw [if_neg idr, if_neg fun set => idr (flag.trans set)]
    split_ifs
    · exact .some (commands_alike alike _)
    · cases slidingWindow other with
      | none => exact .none
      | some mmco => exact .some (commands_alike alike mmco)

theorem refresh_long_slot_alike (i : Nat) :
    Alike pairs (refreshLongSlot one i) (refreshLongSlot other i) := by
  unfold refreshLongSlot
  by_cases inside : i < MAX_PICTURE_COUNT
  · rw [if_pos inside, if_pos inside]
    rcases rel_cases (alike.long i inside) with absent | ⟨left, right, oneHeld, otherHeld, related⟩
    · rw [absent.1, absent.2]
      exact alike
    · rw [oneHeld, otherHeld]
      have unmarked := (unn_reference_alike alike related (show 0 < 4 by decide)).1
      have cleared : Matching pairs MAX_PICTURE_COUNT (update one.pLongRef i none)
          (update other.pLongRef i none) := matching_update alike.long .none
      exact lists_alike unmarked unmarked.counts.shorts unmarked.counts.longs unmarked.short cleared
  · rw [if_neg inside, if_neg inside]
    exact alike

theorem refresh_long_alike : Alike pairs (refreshLong one) (refreshLong other) := by
  unfold refreshLong
  rw [← alike.counts.longs]
  induction List.range one.nLongRefCount.toNat generalizing one other with
  | nil => exact alike
  | cons slot rest later => exact later (refresh_long_slot_alike alike slot)

omit alike

theorem unn_reference_shorts (hCtx : H264Context) (pic : Pic) :
    (H264UnnReferencePic hCtx pic 0).1.nShortRefCount = hCtx.nShortRefCount := by
  obtain ⟨info, only⟩ := (unn_reference_touches hCtx pic 0).only
  rw [only]
  rfl

variable (alike : Alike pairs one other)

include alike

theorem refresh_short_slot_alike {i : Nat} (below : i < one.nShortRefCount) :
    Option.Rel (fun oneAfter otherAfter => Alike pairs oneAfter otherAfter ∧
        oneAfter.nShortRefCount = one.nShortRefCount)
      (refreshShortSlot one i) (refreshShortSlot other i) := by
  unfold refreshShortSlot
  split_ifs
  · apply rel_map (alike.short i below)
    intro left right related
    have unmarked := (unn_reference_alike alike related (show 0 < 4 by decide)).1
    have cleared : Matching pairs one.nShortRefCount (update one.pShortRef i none)
        (update other.pShortRef i none) := matching_update alike.short .none
    have shorts := unn_reference_shorts one left
    rw [← shorts] at cleared
    exact ⟨lists_alike unmarked unmarked.counts.shorts unmarked.counts.longs cleared
      unmarked.long, shorts⟩
  · exact .some ⟨alike, rfl⟩

theorem refresh_short_alike : Option.Rel (Alike pairs) (refreshShort one) (refreshShort other) := by
  unfold refreshShort
  rw [← alike.counts.shorts]
  have below : ∀ i ∈ List.range one.nShortRefCount, i < one.nShortRefCount :=
    fun i member => List.mem_range.mp member
  generalize List.range one.nShortRefCount = slots at below ⊢
  induction slots generalizing one other with
  | nil => exact .some alike
  | cons slot rest later =>
    rw [List.foldlM_cons, List.foldlM_cons]
    apply rel_bind (refresh_short_slot_alike alike (below slot List.mem_cons_self))
    intro oneAfter otherAfter after
    apply later after.1
    intro i member
    rw [after.2]
    exact below i (List.mem_cons_of_mem slot member)

theorem reference_refresh_alike :
    Option.Rel (Alike pairs) (H264ReferenceRefresh one) (H264ReferenceRefresh other) := by
  unfold H264ReferenceRefresh
  have longs := refresh_long_alike alike
  have counted : Alike pairs { refreshLong one with nLongRefCount := 0 }
      { refreshLong other with nLongRefCount := 0 } :=
    lists_alike longs longs.counts.shorts rfl longs.short longs.long
  apply rel_map (refresh_short_alike counted)
  intro oneAfter otherAfter after
  have none_short : Matching pairs 0 oneAfter.pShortRef otherAfter.pShortRef :=
    fun i inside => absurd inside (Nat.not_lt_zero i)
  exact lists_alike after rfl after.counts.longs none_short after.long

theorem code_slice_alike {left right : Pic} (related : pairs left right) (slice : SliceInfo) :
    Alike pairs (codeSlice one slice left) (codeSlice other slice right) := by
  have same := alike.marks left right related
  have numbered := @set_picture_alike _ _ _ _ _ alike related
    { one.picture left with nFrmNum := FixedWidth.s32 slice.nFrmNum.toNat }
    { other.picture right with nFrmNum := FixedWidth.s32 slice.nFrmNum.toNat }
    ⟨rfl, same.marks⟩
    (fun current => alike.curReference left right current ((cur_pairs alike related).mp current))
  apply coding_alike numbered
  · exact ⟨rfl, rfl, rfl, rfl, rfl, rfl, rfl⟩
  · exact ⟨rfl, rfl, rfl, rfl, rfl, rfl, rfl⟩
  · exact ⟨alike.counts.shorts, alike.counts.longs, rfl, alike.counts.bFstField, rfl, rfl, rfl,
      alike.counts.nRefFrmCount, alike.counts.mmco⟩

end Commands

section Start

variable {pairs : Pic → Pic → Prop} {one other : H264Context} {left right : Pic}

structure AlikeLists (pairs : Pic → Pic → Prop) (one other : H264Context) : Prop where
  paired : PairsOff pairs
  shorts : one.nShortRefCount = other.nShortRefCount
  longs : one.nLongRefCount = other.nLongRefCount
  short : Matching pairs one.nShortRefCount one.pShortRef other.pShortRef
  long : Matching pairs MAX_PICTURE_COUNT one.pLongRef other.pLongRef
  marks : ∀ left right, pairs left right → SameMarks (one.picture left) (other.picture right)

theorem alike_lists (alike : Alike pairs one other) : AlikeLists pairs one other :=
  ⟨alike.paired, alike.counts.shorts, alike.counts.longs, alike.short, alike.long, alike.marks⟩

theorem matching_repaired {size : Nat} {oneTable otherTable : Nat → Option Pic}
    (matching : Matching pairs size oneTable otherTable)
    (oneFree : ∀ i < size, oneTable i ≠ some left)
    (otherFree : ∀ i < size, otherTable i ≠ some right) :
    Matching (repaired pairs left right) size oneTable otherTable := by
  intro i inside
  rcases rel_cases (matching i inside) with absent | ⟨first, second, oneHeld, otherHeld, related⟩
  · rw [absent.1, absent.2]
    exact .none
  · have apart : first ≠ left := fun same => oneFree i inside (by rw [oneHeld, same])
    have apart' : second ≠ right := fun same => otherFree i inside (by rw [otherHeld, same])
    rw [oneHeld, otherHeld]
    exact .some (.inr ⟨apart, apart', related⟩)

def startedContext (hCtx : H264Context) (pic : Pic) (slice : SliceInfo)
    (reference pVPicture pScaleDownVPicture : Bool) : H264Context :=
  { codeSlice
      (hCtx.setPicture pic { hCtx.picture pic with
        nReference := if reference then slice.nPicStructure.bits else 0
        pVPicture := pVPicture
        pScaleDownVPicture := pScaleDownVPicture
        bHasDispedFlag := false }) slice pic with
    pCurPicturePtr := some pic
    bFstField := decide (slice.nPicStructure ≠ .PICT_FRAME) }

variable {hCtx after : H264Context} {slice : SliceInfo}
  {reference pVPicture pScaleDownVPicture pVPicture' pScaleDownVPicture' : Bool}

theorem frame_start_started {pic : Pic}
    (step : frameStart hCtx pic slice reference pVPicture pScaleDownVPicture = some after) :
    after = startedContext hCtx pic slice reference pVPicture pScaleDownVPicture := by
  unfold frameStart at step
  dsimp only at step
  by_cases busy : ((hCtx.picture pic).pVPicture || (hCtx.picture pic).pScaleDownVPicture) = true
  · rw [if_pos busy] at step
    cases step
  · rw [if_neg busy] at step
    exact (Option.some.inj step).symm

theorem started_picture (hCtx : H264Context) (pic : Pic) (slice : SliceInfo)
    (reference pVPicture pScaleDownVPicture : Bool) :
    (startedContext hCtx pic slice reference pVPicture pScaleDownVPicture).picture pic =
      { nFrmNum := FixedWidth.s32 slice.nFrmNum.toNat
        bLongRef := (hCtx.picture pic).bLongRef
        nReference := if reference then slice.nPicStructure.bits else 0
        pVPicture := pVPicture
        pScaleDownVPicture := pScaleDownVPicture
        bHasDispedFlag := false } := by
  unfold startedContext codeSlice H264Context.setPicture
  simp

theorem started_other (hCtx : H264Context) {pic other : Pic} (slice : SliceInfo)
    (reference pVPicture pScaleDownVPicture : Bool) (apart : other ≠ pic) :
    (startedContext hCtx pic slice reference pVPicture pScaleDownVPicture).picture other =
      hCtx.picture other := by
  unfold startedContext codeSlice H264Context.setPicture
  simp [apart]

theorem started_marks
    (alike : ∀ left right, pairs left right → SameMarks (one.picture left) (other.picture right))
    {first second : Pic} (both : repaired pairs left right first second) :
    SameMarks
      ((startedContext one left slice reference pVPicture pScaleDownVPicture).picture first)
      ((startedContext other right slice reference pVPicture' pScaleDownVPicture').picture
        second) := by
  rcases both with ⟨rfl, rfl⟩ | ⟨apart, apart', related⟩
  · rw [started_picture, started_picture]
    exact ⟨rfl, rfl⟩
  · rw [started_other _ _ _ _ _ apart, started_other _ _ _ _ _ apart']
    exact alike first second related

/-- Behind the first slice header of a picture the two contexts are alike once the SPS
and the commands are the same. -/
theorem started_alike (lists : AlikeLists pairs one other) (oneFree : SlotFree one left)
    (otherFree : SlotFree other right) (sps : one.nRefFrmCount = other.nRefFrmCount)
    (mmco : one.mmco = other.mmco) :
    Alike (repaired pairs left right)
      (startedContext one left slice reference pVPicture pScaleDownVPicture)
      (startedContext other right slice reference pVPicture' pScaleDownVPicture') where
  paired := repaired_pairs_off lists.paired left right
  counts := ⟨lists.shorts, lists.longs, rfl, rfl, rfl, rfl, rfl, sps, mmco⟩
  short := by
    apply matching_repaired lists.short oneFree.1.1
    rw [lists.shorts]
    exact otherFree.1.1
  long := matching_repaired lists.long oneFree.1.2 otherFree.1.2
  cur := .some (.inl ⟨rfl, rfl⟩)
  marks := fun first second both => started_marks lists.marks both
  curReference := by
    intro first second oneCur otherCur
    obtain rfl : left = first := Option.some.inj oneCur
    obtain rfl : right = second := Option.some.inj otherCur
    rw [started_picture, started_picture]
  oneUndelayed := by
    intro cur current
    obtain rfl : left = cur := Option.some.inj current
    exact oneFree.2
  otherUndelayed := by
    intro cur current
    obtain rfl : right = cur := Option.some.inj current
    exact otherFree.2

theorem refreshed_empty (dense : RefreshSafe hCtx) (step : H264ReferenceRefresh hCtx = some after) :
    after.nShortRefCount = 0 ∧ after.nLongRefCount = 0 ∧
      ∀ i < MAX_PICTURE_COUNT, after.pLongRef i = none := by
  unfold H264ReferenceRefresh at step
  obtain ⟨shortened, rounds, rfl⟩ := map_eq_some_iff.mp step
  have short := refresh_short_rounds rounds
  have slots := (@refresh_long_rounds hCtx hCtx.nLongRefCount.toNat).2
  refine ⟨rfl, short.2.2, ?_⟩
  intro i inside
  have slot := slots i
  change shortened.pLongRef i = none
  rw [short.2.1]
  by_cases below : i < hCtx.nLongRefCount.toNat
  · rw [if_pos ⟨below, inside⟩] at slot
    exact slot
  · rw [if_neg fun both => below both.1] at slot
    exact slot.trans (dense i inside (by omega))

theorem refreshed_lists {oneAfter otherAfter : H264Context} (oneDense : RefreshSafe one)
    (otherDense : RefreshSafe other) (oneStep : H264ReferenceRefresh one = some oneAfter)
    (otherStep : H264ReferenceRefresh other = some otherAfter) :
    AlikeLists (fun _ _ => False) oneAfter otherAfter := by
  have oneEmpty := refreshed_empty oneDense oneStep
  have otherEmpty := refreshed_empty otherDense otherStep
  constructor
  · constructor
    all_goals
      intro _ _ _ impossible
      cases impossible
  · rw [oneEmpty.1, otherEmpty.1]
  · rw [oneEmpty.2.1, otherEmpty.2.1]
  · intro i inside
    rw [oneEmpty.1] at inside
    omega
  · intro i inside
    rw [oneEmpty.2.2 i inside, otherEmpty.2.2 i inside]
    exact .none
  · intro _ _ impossible
    cases impossible

end Start

section Run

variable {pairs : Pic → Pic → Prop} {one other oneNext otherNext : MarkingSystem}
  {names names' : Pic → Option Nat}

structure AlikeSystems (pairs : Pic → Pic → Prop) (one other : MarkingSystem) : Prop where
  alike : Alike pairs one.hCtx other.hCtx
  phase : one.phase = other.phase

theorem listed_other {left right : Pic} (alike : Alike pairs one.hCtx other.hCtx)
    (related : pairs left right) (listed : Listed one.hCtx left) : Listed other.hCtx right := by
  rcases listed with ⟨i, inside, held⟩ | ⟨i, inside, held⟩
  · left
    rcases rel_cases (alike.short i inside) with absent | ⟨first, second, oneHeld, otherHeld, both⟩
    · rw [absent.1] at held
      cases held
    · obtain rfl : first = left := Option.some.inj (oneHeld.symm.trans held)
      refine ⟨i, ?_, ?_⟩
      · rw [← alike.counts.shorts]
        exact inside
      · rw [otherHeld, alike.paired.functional first second right both related]
  · right
    rcases rel_cases (alike.long i inside) with absent | ⟨first, second, oneHeld, otherHeld, both⟩
    · rw [absent.1] at held
      cases held
    · obtain rfl : first = left := Option.some.inj (oneHeld.symm.trans held)
      exact ⟨i, inside, by
        rw [otherHeld, alike.paired.functional first second right both related]⟩

theorem matching_listed {size : Nat} {oneTable otherTable : Nat → Option Pic}
    {kept : Pic → Prop} (matching : Matching pairs size oneTable otherTable)
    (listed : ∀ i < size, ∀ pic, oneTable i = some pic → kept pic) :
    Matching (fun left right => pairs left right ∧ kept left) size oneTable otherTable := by
  intro i inside
  rcases rel_cases (matching i inside) with absent | ⟨first, second, oneHeld, otherHeld, both⟩
  · rw [absent.1, absent.2]
    exact .none
  · rw [oneHeld, otherHeld]
    exact .some ⟨both, listed i inside first oneHeld⟩

theorem output_alike {picture picture' : Pic → H264PicInfo} {pDelayedPic pDelayedPic' : List Pic}
    {pDelayedOutPutPic pDelayedOutPutPic' : Option Pic}
    (alike : Alike pairs one.hCtx other.hCtx) (oneKeeps : OutputKeeps one.hCtx picture)
    (otherKeeps : OutputKeeps other.hCtx picture') :
    Alike (fun left right => pairs left right ∧ Listed one.hCtx left)
      { one.hCtx with
        picture := picture
        pDelayedPic := pDelayedPic
        pDelayedOutPutPic := pDelayedOutPutPic
        pCurPicturePtr := none }
      { other.hCtx with
        picture := picture'
        pDelayedPic := pDelayedPic'
        pDelayedOutPutPic := pDelayedOutPutPic'
        pCurPicturePtr := none } where
  paired := by
    constructor
    · intro left right right' first second
      exact alike.paired.functional left right right' first.1 second.1
    · intro left left' right first second
      exact alike.paired.injective left left' right first.1 second.1
  counts := ⟨alike.counts.shorts, alike.counts.longs, alike.counts.nPicStructure,
    alike.counts.bFstField, alike.counts.bIdrFrmFlag, alike.counts.nCurPicNum,
    alike.counts.nMaxPicNum, alike.counts.nRefFrmCount, alike.counts.mmco⟩
  short := matching_listed alike.short fun i inside _ held => .inl ⟨i, inside, held⟩
  long := matching_listed alike.long fun i inside _ held => .inr ⟨i, inside, held⟩
  cur := .none
  marks := by
    rintro left right ⟨related, listed⟩
    have before := alike.marks left right related
    have first := oneKeeps left listed
    have second := otherKeeps right (listed_other alike related listed)
    exact ⟨first.nFrmNum.symm.trans (before.nFrmNum.trans second.nFrmNum),
      first.marks.symm.trans (before.marks.trans second.marks)⟩
  curReference := by
    intro left right absent
    cases absent
  oneUndelayed := by
    intro cur absent
    cases absent
  otherUndelayed := by
    intro cur absent
    cases absent

variable {pic pic' : Pic} {slice : SliceInfo}
  {reference pVPicture pScaleDownVPicture pVPicture' pScaleDownVPicture' : Bool}
  {system next : MarkingSystem}

theorem frame_start_step
    (step : exec system (.frameStart pic slice reference pVPicture pScaleDownVPicture) =
      some next) :
    next.phase = .decoding ∧
      next.hCtx = startedContext system.hCtx pic slice reference pVPicture pScaleDownVPicture := by
  simp only [exec] at step
  split at step
  · cases step
  · obtain ⟨after, started, rfl⟩ := map_eq_some_iff.mp step
    exact ⟨rfl, frame_start_started started⟩

theorem frame_start_step_alike (lists : AlikeLists pairs one.hCtx other.hCtx)
    (sps : one.hCtx.nRefFrmCount = other.hCtx.nRefFrmCount) (mmco : one.hCtx.mmco = other.hCtx.mmco)
    (oneFree : SlotFree one.hCtx pic) (otherFree : SlotFree other.hCtx pic')
    (oneStep : exec one (.frameStart pic slice reference pVPicture pScaleDownVPicture) =
      some oneNext)
    (otherStep : exec other (.frameStart pic' slice reference pVPicture' pScaleDownVPicture') =
      some otherNext) : AlikeSystems (repaired pairs pic pic') oneNext otherNext := by
  have first := frame_start_step oneStep
  have second := frame_start_step otherStep
  constructor
  · rw [first.2, second.2]
    exact started_alike lists oneFree otherFree sps mmco
  · rw [first.1, second.1]

theorem named_start {count : Nat}
    (named : ∀ left right, pairs left right → SamePicture names names' left right) :
    ∀ left right, repaired pairs pic pic' left right → SamePicture
        (nameStep names count (.frameStart pic slice reference pVPicture pScaleDownVPicture))
        (nameStep names' count
          (.frameStart pic' slice reference pVPicture' pScaleDownVPicture')) left right := by
  rintro left right (⟨rfl, rfl⟩ | ⟨apart, apart', related⟩)
  · exact ⟨count, update_self _ _ _, update_self _ _ _⟩
  · obtain ⟨earlier, first, second⟩ := named left right related
    exact ⟨earlier, (update_of_ne apart _ _).trans first, (update_of_ne apart' _ _).trans second⟩

/-- In one phase both contexts take the step alike, or neither takes it. -/
def StepAlike (pairs : Pic → Pic → Prop) (oneCtx otherCtx : H264Context) (op : MarkingOp) : Prop :=
  ∀ phase oneSettled otherSettled, Option.Rel (AlikeSystems pairs)
    (exec ⟨oneCtx, phase, oneSettled⟩ op) (exec ⟨otherCtx, phase, otherSettled⟩ op)

variable {oneCtx otherCtx : H264Context} (lists : Alike pairs oneCtx otherCtx)

include lists

theorem second_field_alike (slice : SliceInfo) :
    StepAlike pairs oneCtx otherCtx (.secondField slice) := by
  intro phase oneSettled otherSettled
  unfold exec
  dsimp only
  rcases rel_cases lists.cur with absent | ⟨left, right, oneCur, otherCur, related⟩
  · rw [absent.1, absent.2]
    cases phase <;> exact .none
  · rw [oneCur, otherCur, ← lists.counts.bFstField]
    cases phase with
    | marking rest assigned => exact .none
    | decoding | marked =>
      dsimp only
      split_ifs
      · exact .none
      · apply Option.Rel.some
        refine ⟨?_, rfl⟩
        have coded := code_slice_alike lists related slice
        apply coding_alike coded
        · exact ⟨rfl, rfl, rfl, rfl, rfl, rfl, rfl⟩
        · exact ⟨rfl, rfl, rfl, rfl, rfl, rfl, rfl⟩
        · exact ⟨coded.counts.shorts, coded.counts.longs, rfl, rfl, rfl, coded.counts.nCurPicNum,
            coded.counts.nMaxPicNum, coded.counts.nRefFrmCount, coded.counts.mmco⟩

theorem slice_step_alike (slice : SliceInfo) : StepAlike pairs oneCtx otherCtx (.slice slice) := by
  intro phase oneSettled otherSettled
  unfold exec
  dsimp only
  rcases rel_cases lists.cur with absent | ⟨left, right, oneCur, otherCur, related⟩
  · rw [absent.1, absent.2]
    cases phase <;> exact .none
  · rw [oneCur, otherCur, ← lists.counts.nPicStructure]
    cases phase with
    | marking rest assigned | marked => exact .none
    | decoding =>
      dsimp only
      split_ifs
      · exact .some ⟨code_slice_alike lists related slice, rfl⟩
      · exact .none

theorem decode_step_alike (coded : MarkingSyntax) :
    StepAlike pairs oneCtx otherCtx (.decode coded) := by
  intro phase oneSettled otherSettled
  unfold exec
  cases phase with
  | marking rest assigned | marked => exact .none
  | decoding =>
    apply rel_map (decode_marking_alike lists coded)
    intro oneAfter otherAfter after
    exact ⟨after, rfl⟩

theorem start_marking_alike : StepAlike pairs oneCtx otherCtx .startMarking := by
  intro phase oneSettled otherSettled
  unfold exec
  cases phase with
  | marking rest assigned | marked => exact .none
  | decoding =>
    apply Option.Rel.some
    refine ⟨lists, ?_⟩
    dsimp only
    rw [lists.counts.mmco]

theorem next_step_alike : StepAlike pairs oneCtx otherCtx .next := by
  intro phase oneSettled otherSettled
  unfold exec
  cases phase with
  | decoding | marked => exact .none
  | marking pending assigned =>
    cases pending with
    | nil =>
      apply rel_map (finish_marking_alike lists assigned)
      intro oneAfter otherAfter after
      exact ⟨after, rfl⟩
    | cons command rest =>
      apply rel_map (execute_mmco_alike lists assigned command)
      rintro ⟨oneAfter, oneFlag⟩ ⟨otherAfter, otherFlag⟩ ⟨after, flag⟩
      dsimp only at flag
      refine ⟨after, ?_⟩
      dsimp only
      rw [flag]

theorem refresh_step_alike : StepAlike pairs oneCtx otherCtx .refresh := by
  intro phase oneSettled otherSettled
  unfold exec
  cases phase with
  | marking rest assigned => exact .none
  | decoding | marked =>
    apply rel_map (reference_refresh_alike lists)
    intro oneAfter otherAfter after
    exact ⟨after, rfl⟩

theorem sps_step_alike (nRefFrmCount : Int) :
    StepAlike pairs oneCtx otherCtx (.sps nRefFrmCount) := by
  intro phase oneSettled otherSettled
  unfold exec
  cases phase with
  | marking rest assigned => exact .none
  | decoding | marked =>
    apply Option.Rel.some
    refine ⟨?_, rfl⟩
    apply coding_alike lists
    · exact ⟨rfl, rfl, rfl, rfl, rfl, rfl, rfl⟩
    · exact ⟨rfl, rfl, rfl, rfl, rfl, rfl, rfl⟩
    · exact ⟨lists.counts.shorts, lists.counts.longs, lists.counts.nPicStructure,
        lists.counts.bFstField, lists.counts.bIdrFrmFlag, lists.counts.nCurPicNum,
        lists.counts.nMaxPicNum, rfl, lists.counts.mmco⟩

omit lists

theorem output_step {picture : Pic → H264PicInfo} {delayed : List Pic} {out : Option Pic}
    (step : exec system (.output picture delayed out) = some next) :
    next.phase = system.phase ∧ next.hCtx =
        { system.hCtx with
          picture := picture
          pDelayedPic := delayed
          pDelayedOutPutPic := out
          pCurPicturePtr := none } := by
  simp only [exec] at step
  split at step
  · cases step
  · obtain rfl := Option.some.inj step
    exact ⟨rfl, rfl⟩

theorem step_alike {op op' : MarkingOp} (alike : AlikeSystems pairs one other)
    (same : SameOp op op') (oneSafe : PlaceSafe one op) (otherSafe : PlaceSafe other op')
    (oneStep : exec one op = some oneNext) (otherStep : exec other op' = some otherNext)
    (named : ∀ left right, pairs left right → SamePicture names names' left right)
    (count : Nat) :
    ∃ next, AlikeSystems next oneNext otherNext ∧ ∀ left right, next left right →
      SamePicture (nameStep names count op) (nameStep names' count op') left right := by
  rcases one with ⟨oneCtx, phase, oneSettled⟩
  rcases other with ⟨otherCtx, otherPhase, otherSettled⟩
  obtain rfl : phase = otherPhase := alike.phase
  have lists : Alike pairs oneCtx otherCtx := alike.alike
  cases same with
  | frameStart pic pic' slice reference v s v' s' =>
    exact ⟨repaired pairs pic pic',
      frame_start_step_alike (alike_lists lists) lists.counts.nRefFrmCount lists.counts.mmco
        oneSafe otherSafe oneStep otherStep, named_start named⟩
  | secondField slice =>
    exact ⟨pairs, rel_values (second_field_alike lists slice _ _ _) oneStep otherStep, named⟩
  | slice slice =>
    exact ⟨pairs, rel_values (slice_step_alike lists slice _ _ _) oneStep otherStep, named⟩
  | decode coded =>
    exact ⟨pairs, rel_values (decode_step_alike lists coded _ _ _) oneStep otherStep, named⟩
  | startMarking =>
    exact ⟨pairs, rel_values (start_marking_alike lists _ _ _) oneStep otherStep, named⟩
  | next => exact ⟨pairs, rel_values (next_step_alike lists _ _ _) oneStep otherStep, named⟩
  | refresh => exact ⟨pairs, rel_values (refresh_step_alike lists _ _ _) oneStep otherStep, named⟩
  | sps nRefFrmCount =>
    exact ⟨pairs, rel_values (sps_step_alike lists nRefFrmCount _ _ _) oneStep otherStep, named⟩
  | output picture picture' delayed delayed' out out' =>
    have first := output_step oneStep
    have second := output_step otherStep
    refine ⟨fun left right => pairs left right ∧ Listed oneCtx left, ⟨?_, ?_⟩, ?_⟩
    · rw [first.2, second.2]
      exact output_alike lists oneSafe otherSafe
    · rw [first.1, second.1]
    · intro left right both
      exact named left right both.1

theorem run_alike {ops ops' : List MarkingOp} {oneFinal otherFinal : MarkingSystem} {count : Nat}
    (same : List.Forall₂ SameOp ops ops') (alike : AlikeSystems pairs one other)
    (named : ∀ left right, pairs left right → SamePicture names names' left right)
    (oneSafe : StepsMeet PlaceSafe exec one ops) (otherSafe : StepsMeet PlaceSafe exec other ops')
    (oneRun : runOps exec one ops = some oneFinal)
    (otherRun : runOps exec other ops' = some otherFinal) :
    ∃ final, AlikeSystems final oneFinal otherFinal ∧ ∀ left right, final left right →
      SamePicture (startedFrom names count ops) (startedFrom names' count ops') left right := by
  induction same generalizing pairs one other names names' count with
  | nil =>
    obtain rfl := Option.some.inj oneRun
    obtain rfl := Option.some.inj otherRun
    exact ⟨pairs, alike, named⟩
  | cons step _ later =>
    obtain ⟨oneNext, oneStep, oneLater⟩ := (run_cons exec _ _ _ _).mp oneRun
    obtain ⟨otherNext, otherStep, otherLater⟩ := (run_cons exec _ _ _ _).mp otherRun
    obtain ⟨next, stepped, renamed⟩ :=
      step_alike alike step oneSafe.1 otherSafe.1 oneStep otherStep named count
    exact later stepped renamed (oneSafe.2 oneNext oneStep) (otherSafe.2 otherNext otherStep)
      oneLater otherLater

end Run

variable {before before' final final' : MarkingSystem}

/-- The lists and the default lists name the same pictures, all of them started by a step
of the continuation. -/
structure SameReferences (names names' : Pic → Option Nat) (one other : MarkingSystem) : Prop where
  shorts : one.hCtx.nShortRefCount = other.hCtx.nShortRefCount
  longs : one.hCtx.nLongRefCount = other.hCtx.nLongRefCount
  short : Matching (SamePicture names names') one.hCtx.nShortRefCount one.hCtx.pShortRef
    other.hCtx.pShortRef
  long : Matching (SamePicture names names') MAX_PICTURE_COUNT one.hCtx.pLongRef
    other.hCtx.pLongRef
  defaults : ∀ oneOrder otherOrder, SameOrder (SamePicture names names') oneOrder otherOrder →
    ∀ isB, Option.Rel (fun oneLists otherLists =>
        List.Forall₂ (SameEntry (SamePicture names names')) oneLists.1 otherLists.1 ∧
          List.Forall₂ (SameEntry (SamePicture names names')) oneLists.2 otherLists.2)
      (H264FillDefaultRefList one.hCtx oneOrder isB)
      (H264FillDefaultRefList other.hCtx otherOrder isB)

variable {pairs wider : Pic → Pic → Prop} {nRefFrmCount : Int} {slice : SliceInfo}
  {coded : MarkingSyntax}

theorem same_order_mono {oneOrder otherOrder : Pic → PicOrder}
    (order : SameOrder wider oneOrder otherOrder)
    (inside : ∀ left right, pairs left right → wider left right) :
    SameOrder pairs oneOrder otherOrder :=
  ⟨fun left right both => order.nPoc left right (inside left right both),
    fun left right both => order.nFieldPoc0 left right (inside left right both),
    fun left right both => order.nFieldPoc1 left right (inside left right both),
    fun left right both => order.nPicStructure left right (inside left right both),
    fun left right left' right' first second =>
      order.buffers left right left' right' (inside left right first) (inside left' right' second)⟩

theorem same_entries_mono {one other : List RefEntry}
    (entries : List.Forall₂ (SameEntry pairs) one other)
    (inside : ∀ left right, pairs left right → wider left right) :
    List.Forall₂ (SameEntry wider) one other := by
  apply entries.imp
  intro left right same
  exact ⟨inside left.pic right.pic same.pic, same.nPicStructure, same.marks, same.nPicId⟩

theorem alike_references {names names' : Pic → Option Nat} (alike : AlikeSystems pairs final final')
    (named : ∀ left right, pairs left right → SamePicture names names' left right) :
    SameReferences names names' final final' where
  shorts := alike.alike.counts.shorts
  longs := alike.alike.counts.longs
  short := fun i inside => rel_mono (alike.alike.short i inside) named
  long := fun i inside => rel_mono (alike.alike.long i inside) named
  defaults := by
    intro oneOrder otherOrder order isB
    apply rel_mono (fill_default_ref_list_alike alike.alike (same_order_mono order named) isB)
    intro left right lists
    exact ⟨same_entries_mono lists.1 named, same_entries_mono lists.2 named⟩

theorem idr_commands {hCtx : H264Context} (coded : MarkingSyntax) (idr : hCtx.bIdrFrmFlag = true) :
    H264DecodeRefPicMarking hCtx coded =
      some { hCtx with mmco := if coded.longTermReferenceFlag then [.MMCO_LONG 0] else [] } := by
  unfold H264DecodeRefPicMarking
  rw [if_pos idr]

theorem idr_run {pic : Pic} {v s : Bool} {middle : MarkingSystem}
    (safe : StepsMeet PlaceSafe exec before (idrPicture pic nRefFrmCount slice coded v s))
    (run : runOps exec before (idrPicture pic nRefFrmCount slice coded v s) = some middle) :
    ∃ after, H264ReferenceRefresh before.hCtx = some after ∧ SlotFree after pic ∧
      middle.phase = .decoding ∧
      middle.hCtx =
        { startedContext { after with nRefFrmCount := nRefFrmCount, mmco := [] } pic
            { slice with bIdrFrmFlag := true } true v s with
          mmco := if coded.longTermReferenceFlag then [.MMCO_LONG 0] else [] } := by
  unfold idrPicture at safe run
  obtain ⟨refreshed, refresh, run⟩ := (run_cons exec _ _ _ _).mp run
  obtain ⟨named, sps, run⟩ := (run_cons exec _ _ _ _).mp run
  obtain ⟨begun, start, run⟩ := (run_cons exec _ _ _ _).mp run
  obtain ⟨ended, decode, run⟩ := (run_cons exec _ _ _ _).mp run
  obtain rfl : ended = middle := Option.some.inj run
  have free : SlotFree named.hCtx pic := ((safe.2 _ refresh).2 _ sps).1
  have started := frame_start_step start
  simp only [exec] at refresh sps decode
  split at refresh
  · cases refresh
  · obtain ⟨after, empties, rfl⟩ := map_eq_some_iff.mp refresh
    split at sps
    · cases sps
    · obtain rfl := Option.some.inj sps
      refine ⟨after, empties, free, ?_⟩
      rw [started.1] at decode
      dsimp only at decode
      obtain ⟨decoded, marking, rfl⟩ := map_eq_some_iff.mp decode
      rw [started.2] at marking
      have marked := Option.some.inj ((idr_commands coded rfl).symm.trans marking)
      exact ⟨rfl, marked.symm⟩

theorem idr_alike {pic pic' : Pic} {v s v' s' : Bool} {middle middle' : MarkingSystem}
    (oneFinds : RefreshSafe before.hCtx) (otherFinds : RefreshSafe before'.hCtx)
    (oneSafe : StepsMeet PlaceSafe exec before (idrPicture pic nRefFrmCount slice coded v s))
    (otherSafe : StepsMeet PlaceSafe exec before' (idrPicture pic' nRefFrmCount slice coded v' s'))
    (oneRun : runOps exec before (idrPicture pic nRefFrmCount slice coded v s) = some middle)
    (otherRun : runOps exec before' (idrPicture pic' nRefFrmCount slice coded v' s') =
      some middle') :
    AlikeSystems (repaired (fun _ _ => False) pic pic') middle middle' := by
  obtain ⟨after, refresh, free, phase, context⟩ := idr_run oneSafe oneRun
  obtain ⟨after', refresh', free', phase', context'⟩ := idr_run otherSafe otherRun
  have lists := refreshed_lists oneFinds otherFinds refresh refresh'
  constructor
  · rw [context, context']
    apply commands_alike
    apply started_alike
    · exact ⟨lists.paired, lists.shorts, lists.longs, lists.short, lists.long, lists.marks⟩
    · exact free
    · exact free'
    · rfl
    · rfl
  · rw [phase, phase']

/-- Behind the history the refresh finds every used long slot, and from there on the
buffers and the output side keep to the lists. -/
def ContinuesSafely (history continuation : List MarkingOp) : Prop :=
  ∀ before ∈ runOps exec MarkingSystem.start history,
    RefreshSafe before.hCtx ∧ StepsMeet PlaceSafe exec before continuation
deriving Decidable

/-- Behind an IDR picture whose refresh finds every used long slot, the lists of two runs
with any histories depend on the pictures since that one alone. -/
theorem references_since_idr (history history' rest rest' : List MarkingOp) (pic pic' : Pic)
    (nRefFrmCount : Int) (slice : SliceInfo) (coded : MarkingSyntax) (v s v' s' : Bool)
    (same : List.Forall₂ SameOp rest rest')
    (oneSafe : ContinuesSafely history (idrPicture pic nRefFrmCount slice coded v s ++ rest))
    (otherSafe : ContinuesSafely history'
      (idrPicture pic' nRefFrmCount slice coded v' s' ++ rest'))
    (oneRun : runOps exec MarkingSystem.start
      (history ++ (idrPicture pic nRefFrmCount slice coded v s ++ rest)) = some final)
    (otherRun : runOps exec MarkingSystem.start
      (history' ++ (idrPicture pic' nRefFrmCount slice coded v' s' ++ rest')) = some final') :
    SameReferences (started (idrPicture pic nRefFrmCount slice coded v s ++ rest))
      (started (idrPicture pic' nRefFrmCount slice coded v' s' ++ rest')) final final' := by
  obtain ⟨before, oneHistory, oneRun⟩ := (run_append exec _ _ _ _).mp oneRun
  obtain ⟨before', otherHistory, otherRun⟩ := (run_append exec _ _ _ _).mp otherRun
  obtain ⟨middle, idr, oneRest⟩ := (run_append exec _ _ _ _).mp oneRun
  obtain ⟨middle', idr', otherRest⟩ := (run_append exec _ _ _ _).mp otherRun
  have oneMeets := oneSafe before oneHistory
  have otherMeets := otherSafe before' otherHistory
  have oneParts := steps_meet_split oneMeets.2 idr
  have otherParts := steps_meet_split otherMeets.2 idr'
  have alike := idr_alike oneMeets.1 otherMeets.1 oneParts.1 otherParts.1 idr idr'
  have named : ∀ left right, repaired (fun _ _ => False) pic pic' left right →
      SamePicture (update (fun _ => none) pic (some 2))
        (update (fun _ => none) pic' (some 2)) left right := by
    rintro left right (⟨rfl, rfl⟩ | ⟨-, -, impossible⟩)
    · exact ⟨2, update_self _ _ _, update_self _ _ _⟩
    · cases impossible
  obtain ⟨pairs, ended, known⟩ :=
    @run_alike _ _ _ _ _ _ _ _ _ 4 same alike named oneParts.2 otherParts.2 oneRest otherRest
  exact alike_references ended known

/-- The display side of a picture: every other slot is free again. -/
def outputOf (pic : Fin 32) (nFrmNum : Int) : MarkingOp :=
  .output (fun (other : Fin 32) =>
    if other = pic then ⟨nFrmNum, false, 3, true, false, true⟩
    else ⟨0, false, 0, false, false, false⟩) [] none

def idrFrame (pic : Fin 32) : List MarkingOp :=
  idrPicture pic 4 (frameSlice 0 true) noCommands true false

def continued (idr pic : Fin 32) : List MarkingOp :=
  [.startMarking, .next, outputOf idr 0] ++ markedFrame pic (frameSlice 1 false) noCommands 0

def shortHistory : List MarkingOp :=
  [.sps 4, .refresh] ++ markedFrame 0 (frameSlice 0 true) noCommands 0

theorem continued_same : List.Forall₂ SameOp (continued 0 1) (continued 1 2) := by
  repeat' first | exact .nil | apply List.Forall₂.cons
  · exact .startMarking
  · exact .next
  · exact .output _ _ _ _ _ _
  · exact .frameStart _ _ _ _ _ _ _ _
  · exact .decode _
  · exact .startMarking
  · exact .next

/-- From a new decoder in slots 0 and 1, behind a frame in slots 1 and 2. -/
theorem short_history_references : ∃ final final',
      runOps exec MarkingSystem.start ([] ++ (idrFrame 0 ++ continued 0 1)) = some final ∧
      runOps exec MarkingSystem.start (shortHistory ++ (idrFrame 1 ++ continued 1 2)) =
        some final' ∧
      SameReferences (started (idrFrame 0 ++ continued 0 1)) (started (idrFrame 1 ++ continued 1 2))
        final final' := by
  have oneEnds : (runOps exec MarkingSystem.start
      ([] ++ (idrFrame 0 ++ continued 0 1))).isSome = true := by decide
  have otherEnds : (runOps exec MarkingSystem.start
      (shortHistory ++ (idrFrame 1 ++ continued 1 2))).isSome = true := by decide
  obtain ⟨final, oneRun⟩ := isSome_iff_exists.mp oneEnds
  obtain ⟨final', otherRun⟩ := isSome_iff_exists.mp otherEnds
  refine ⟨final, final', oneRun, otherRun, ?_⟩
  have oneSafe : ContinuesSafely [] (idrFrame 0 ++ continued 0 1) := by decide
  have otherSafe : ContinuesSafely shortHistory (idrFrame 1 ++ continued 1 2) := by decide
  exact references_since_idr _ _ _ _ _ _ _ _ _ _ _ _ _ continued_same oneSafe otherSafe oneRun
    otherRun

/-- An IDR frame and a frame that its commands keep as long-term picture 5. -/
def sparseHistory : List MarkingOp :=
  shortHistory ++
    markedFrame 1 (frameSlice 1 false) ⟨false, true, fun pos => [4, 6, 6, 5].getD pos 0⟩ 2

/-- Behind it the refresh of an IDR picture goes to slot 0 only, and the frame from
before stays long-term picture 5. -/
theorem sparse_history_leaks : ∃ before final final',
      runOps exec MarkingSystem.start sparseHistory = some before ∧
      StepsMeet PlaceSafe exec before (idrFrame 2 ++ [.startMarking, .next]) ∧
      runOps exec MarkingSystem.start (idrFrame 0 ++ [.startMarking, .next]) = some final ∧
      runOps exec before (idrFrame 2 ++ [.startMarking, .next]) = some final' ∧
      ¬ SameReferences (started (idrFrame 0 ++ [.startMarking, .next]))
        (started (idrFrame 2 ++ [.startMarking, .next])) final final' := by
  have oneSeen : (runOps exec MarkingSystem.start (idrFrame 0 ++ [.startMarking, .next])).map
        (fun final => final.hCtx.pLongRef 5) = some none := by decide +kernel
  have otherSeen : (runOps exec MarkingSystem.start sparseHistory).map (fun before =>
      (decide (StepsMeet PlaceSafe exec before (idrFrame 2 ++ [.startMarking, .next])),
        (runOps exec before (idrFrame 2 ++ [.startMarking, .next])).map fun final =>
          (final.hCtx.pLongRef 5).isSome)) = some (true, some true) := by decide +kernel
  obtain ⟨final, oneRun, absent⟩ := map_eq_some_iff.mp oneSeen
  obtain ⟨before, otherHistory, both⟩ := map_eq_some_iff.mp otherSeen
  obtain ⟨safe, ends⟩ := Prod.mk.inj both
  obtain ⟨final', otherRun, held⟩ := map_eq_some_iff.mp ends
  refine ⟨before, final, final', otherHistory, of_decide_eq_true safe, oneRun, otherRun, ?_⟩
  intro same
  have slot := same.long 5 (by decide)
  obtain ⟨pic, kept⟩ := isSome_iff_exists.mp held
  rw [absent, kept] at slot
  cases slot

end CedarC.H264IdrIsolation
