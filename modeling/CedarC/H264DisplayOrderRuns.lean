import CedarC.H264FlushOrder
import CedarC.GuardedRuns
import Mathlib.Data.List.Induction
import Mathlib.Data.List.Perm.Basic

/-!
# Runs of the display order

Pictures are decoded into free slots and sorted for display, reference marks of
any picture change in between, and the delayed pictures are flushed. What is
shown is read off the calls into the frame buffer manager.
-/

namespace CedarC.H264DisplayOrderRuns

open FixedWidth GuardedRuns SelectionOrder H264DisplayOrder H264FlushOrder List Option Function

def shownBy : FbmCall → Option Nat
  | .FbmReturnBuffer _ pVPicture bValidFlag => if bValidFlag = 0 then none else pVPicture
  | .FbmShareBuffer _ pVPicture => some pVPicture

def outputs (hCtx : H264Context) : List Nat := hCtx.fbmCalls.filterMap shownBy

def displayBuffer (scaled : Bool) (pic : H264PicInfo) : Option Nat :=
  if scaled = true then pic.pScaleDownVPicture else pic.pVPicture

def toShow (vconfig : VConfig) (scaled : Bool) (pic : H264PicInfo) : Option Nat :=
  if dispFrameFlag vconfig pic = 0 then none else displayBuffer scaled pic

/-- A picture that is not shown from the second pool has no buffer of it, and one
that is has both buffers or lost them with its own. -/
def Shaped (scaled : Bool) (pic : H264PicInfo) : Prop :=
  if scaled = true then pic.pScaleDownVPicture = none → pic.pVPicture = none
  else pic.pScaleDownVPicture = none
deriving Decidable

def delayedSlots (hCtx : H264Context) : List Nat :=
  (List.range hCtx.nDelayedPicNum).filterMap hCtx.pDelayedPic

structure FlushRecord where
  delayed : List Nat
  picture : Nat → H264PicInfo
  shown : List Nat

/-- The decoder, the buffers of the displayable pictures that were decoded, and
the flushes. -/
structure DisplaySystem where
  hCtx : H264Context
  decoded : List Nat
  flushes : List FlushRecord

/-- What the slice header and the reference marking set before a sort. -/
structure SortInput where
  slot : Nat
  info : H264PicInfo
  nPicPocDeltaNum : Int
  nCurFrmNum : Int
  nRefFrmCount : Int
  bDecodeKeyFrameOnly : Int

inductive DisplayOp
  | sort (input : SortInput)
  | mark (slot : Nat) (nReference : Int) (bReturn : Bool)
  | flush

def DisplaySystem.start (nMaxValidFrmBufNum nBufIndexOffset : Nat)
    (bYv12OutFlag bNv21OutFlag : Int) : DisplaySystem :=
  { hCtx :=
      { picture := fun _ => ⟨0, 0, 0, 0, 0, 0, none, none, 0, 0, 0⟩
        pDelayedPic := fun _ => none
        pDelayedOutPutPic := none
        pCurPicturePtr := none
        nMaxValidFrmBufNum := nMaxValidFrmBufNum
        nBufIndexOffset := nBufIndexOffset
        nDelayedPicNum := 0
        nMinDispPoc := 0
        nPicPocDeltaNum := 0
        nCurFrmNum := 0
        nRefFrmCount := 0
        bYv12OutFlag := bYv12OutFlag
        bNv21OutFlag := bNv21OutFlag
        fbmCalls := [] }
    decoded := []
    flushes := [] }

def decodedInto (hCtx : H264Context) (input : SortInput) : H264Context :=
  { hCtx with
    picture := update hCtx.picture input.slot input.info
    pCurPicturePtr := some input.slot
    nPicPocDeltaNum := input.nPicPocDeltaNum
    nCurFrmNum := input.nCurFrmNum
    nRefFrmCount := input.nRefFrmCount }

def decodedBuffer (vconfig : VConfig) (hCtx : H264Context) (input : SortInput) : Option Nat :=
  if input.bDecodeKeyFrameOnly = 1 then displayBuffer (scaledOutput vconfig hCtx) input.info
  else toShow vconfig (scaledOutput vconfig hCtx) input.info

/-- The buffer of a picture that is no reference any more goes back unseen. -/
def markPicture (hCtx : H264Context) (slot : Nat) (nReference : Int) (bReturn : Bool) :
    H264Context :=
  let hCtx := hCtx.setPicture slot fun pic => { pic with nReference := nReference }
  if bReturn = true then
    (hCtx.call (.FbmReturnBuffer .pFbm (hCtx.picture slot).pVPicture 0)).setPicture slot
      fun pic => { pic with pVPicture := none }
  else hCtx

def exec (vconfig : VConfig) (system : DisplaySystem) : DisplayOp → Option DisplaySystem
  | .sort input =>
    (H264SortDisplayFrameOrder vconfig (decodedInto system.hCtx input)
      input.bDecodeKeyFrameOnly).map fun hCtx =>
        { system with
          hCtx := hCtx
          decoded := system.decoded ++ (decodedBuffer vconfig system.hCtx input).toList }
  | .mark slot nReference bReturn =>
    some { system with hCtx := markPicture system.hCtx slot nReference bReturn }
  | .flush =>
    (H264FlushDelayedPictures vconfig system.hCtx).map fun hCtx =>
      { system with
        hCtx := hCtx
        flushes := system.flushes ++ [⟨delayedSlots system.hCtx, system.hCtx.picture,
            (outputs hCtx).drop (outputs system.hCtx).length⟩] }

/-- A picture is decoded into a slot that no delayed picture has, with an entry
of the table left; marking returns no buffer that a delayed picture is shown from. -/
def Legal (vconfig : VConfig) (system : DisplaySystem) : DisplayOp → Prop
  | .sort input =>
    input.slot < MAX_PICTURE_COUNT ∧ input.slot ∉ delayedSlots system.hCtx ∧
      input.info.nDispBufIndex = input.slot ∧
      (input.info.nDecodeBufIndex = input.slot ∨ input.info.nDecodeBufIndex < MAX_PICTURE_COUNT ∧
          input.info.nDecodeBufIndex ∉ delayedSlots system.hCtx) ∧
      Shaped (scaledOutput vconfig system.hCtx) input.info ∧
      (input.bDecodeKeyFrameOnly ≠ 1 → system.hCtx.nDelayedPicNum + 1 < MAX_PICTURE_COUNT)
  | .mark slot _ bReturn =>
    bReturn = true → slot ∈ delayedSlots system.hCtx →
      (system.hCtx.picture slot).pScaleDownVPicture ≠ none
  | .flush => True

instance (vconfig : VConfig) (system : DisplaySystem) :
    ∀ op, Decidable (Legal vconfig system op)
  | .sort _ => inferInstanceAs (Decidable (_ ∧ _))
  | .mark _ _ _ => inferInstanceAs (Decidable (_ → _ → _))
  | .flush => inferInstanceAs (Decidable True)

/-- The search finds no picture: the oldest has the largest picture order count,
and the first that has a smaller one is not behind what was shown last. -/
def NothingFound (nMinDispPoc : Int) (pocs : List Int) : Prop :=
  match pocs with
  | [] => True
  | first :: later =>
    0x7fffffff ≤ first ∧ ∀ next ∈ later.find? (· < 0x7fffffff), next ≤ nMinDispPoc

instance (nMinDispPoc : Int) : ∀ pocs, Decidable (NothingFound nMinDispPoc pocs)
  | [] => inferInstanceAs (Decidable True)
  | _ :: _ => inferInstanceAs (Decidable (_ ∧ ∀ next ∈ (_ : Option Int), _))

/-- A sort behind a first output finds a picture, and a flush has nothing to show
behind a picture without buffers that it strikes out. -/
def Unbroken (vconfig : VConfig) (system : DisplaySystem) : DisplayOp → Prop
  | .sort input =>
    system.hCtx.pDelayedOutPutPic ≠ none → input.bDecodeKeyFrameOnly ≠ 1 →
      ¬ NothingFound system.hCtx.nMinDispPoc
        ((delayedSlots system.hCtx).map (poc system.hCtx.picture) ++ [input.info.nPoc])
  | .flush =>
    let picture := system.hCtx.picture
    NothingBehind (poc picture) (hasBuffer picture)
      (fun pic => (toShow vconfig (scaledOutput vconfig system.hCtx) (picture pic)).isSome)
      (segments (isKeyFrame picture) (delayedSlots system.hCtx))
  | .mark _ _ _ => True

instance (vconfig : VConfig) (system : DisplaySystem) :
    ∀ op, Decidable (Unbroken vconfig system op)
  | .sort _ => inferInstanceAs (Decidable (_ → _ → _))
  | .mark _ _ _ => inferInstanceAs (Decidable True)
  | .flush => inferInstanceAs (Decidable (NothingBehind _ _ _ _))

/-- The table of the delayed pictures is one run that ends with NULL, without
duplicates; what was shown and what is still delayed is what was decoded; and
each flush showed what was delayed, segment by segment and by picture order count. -/
structure DisplayContract (vconfig : VConfig) (system : DisplaySystem) : Prop where
  terminated : system.hCtx.nDelayedPicNum < MAX_PICTURE_COUNT
  contiguous : ∀ i < MAX_PICTURE_COUNT,
    (system.hCtx.pDelayedPic i ≠ none ↔ i < system.hCtx.nDelayedPicNum)
  distinct : (delayedSlots system.hCtx).Nodup
  conserved : (outputs system.hCtx ++ (delayedSlots system.hCtx).filterMap fun pic =>
    toShow vconfig (scaledOutput vconfig system.hCtx) (system.hCtx.picture pic)).Perm
      system.decoded
  inOrder : ∀ record ∈ system.flushes, record.shown =
      (segmentOrder (poc record.picture) (isKeyFrame record.picture) record.delayed).filterMap
        fun pic => toShow vconfig (scaledOutput vconfig system.hCtx) (record.picture pic)

section Showing

variable {vconfig : VConfig} {hCtx : H264Context} {scaled : Bool}

@[simp] theorem set_picture_same (hCtx : H264Context) (index : Nat)
    (change : H264PicInfo → H264PicInfo) :
    (hCtx.setPicture index change).picture index = change (hCtx.picture index) := by
  simp [H264Context.setPicture]

theorem set_picture_other {hCtx : H264Context} {index other : Nat}
    {change : H264PicInfo → H264PicInfo} (apart : other ≠ index) :
    (hCtx.setPicture index change).picture other = hCtx.picture other :=
  update_of_ne apart _ _

/-- What a step about one picture leaves of the context: everything but that
picture, the table and the calls. -/
structure Framed (before after : H264Context) (pic : Nat) : Prop where
  rest : after = { before with picture := after.picture, fbmCalls := after.fbmCalls }
  others : ∀ other, other ≠ pic → after.picture other = before.picture other

theorem disp_frame_flag_values (vconfig : VConfig) (pic : H264PicInfo) :
    dispFrameFlag vconfig pic = 0 ∨ dispFrameFlag vconfig pic = 1 := by
  unfold dispFrameFlag
  split_ifs <;> simp

@[simp] theorem outputs_call (hCtx : H264Context) (fbmCall : FbmCall) :
    outputs (hCtx.call fbmCall) = outputs hCtx ++ (shownBy fbmCall).toList := by
  unfold outputs H264Context.call
  rw [filterMap_append]
  cases shown : shownBy fbmCall <;> simp [shown]

@[simp] theorem outputs_set_picture (hCtx : H264Context) (index : Nat)
    (change : H264PicInfo → H264PicInfo) :
    outputs (hCtx.setPicture index change) = outputs hCtx := rfl

theorem framed_trans {first second third : H264Context} {pic : Nat}
    (left : Framed first second pic) (right : Framed second third pic) :
    Framed first third pic where
  rest := by rw [right.rest, left.rest]
  others := fun other apart => (right.others other apart).trans (left.others other apart)

theorem framed_set (hCtx : H264Context) (pic : Nat) (change : H264PicInfo → H264PicInfo) :
    Framed hCtx (hCtx.setPicture pic change) pic :=
  ⟨rfl, fun _ apart => set_picture_other apart⟩

theorem framed_call (hCtx : H264Context) (fbmCall : FbmCall) (pic : Nat) :
    Framed hCtx (hCtx.call fbmCall) pic := ⟨rfl, fun _ _ => rfl⟩

theorem show_scaled_spec {pic : Nat} (own : (hCtx.picture pic).nDispBufIndex = pic)
    (inside : pic < MAX_PICTURE_COUNT) :
    ∃ next, showScaled hCtx pic (dispFrameFlag vconfig (hCtx.picture pic)) = some next ∧
      Framed hCtx next pic ∧
      outputs next = outputs hCtx ++ (toShow vconfig true (hCtx.picture pic)).toList := by
  unfold showScaled
  dsimp only
  rw [own, if_neg (by omega)]
  have first := framed_trans (framed_call hCtx
    (.FbmReturnBuffer .pFbmScaledown (hCtx.picture pic).pScaleDownVPicture
      (dispFrameFlag vconfig (hCtx.picture pic))) pic)
    (framed_trans (framed_set _ pic fun pic => { pic with pScaleDownVPicture := none })
      (framed_set _ pic fun pic => { pic with pScaleDownVPicture := none }))
  split_ifs
  · refine ⟨_, rfl, ?_, ?_⟩
    · exact framed_trans first (framed_trans (framed_call _ _ pic)
        (framed_trans (framed_set _ pic _) (framed_set _ pic _)))
    · simp [shownBy, toShow, displayBuffer]
  · refine ⟨_, rfl, first, ?_⟩
    simp [shownBy, toShow, displayBuffer]

theorem show_unscaled_spec {pic : Nat} (own : (hCtx.picture pic).nDispBufIndex = pic)
    (inside : pic < MAX_PICTURE_COUNT) :
    ∃ next, showUnscaled hCtx pic (dispFrameFlag vconfig (hCtx.picture pic)) = some next ∧
      Framed hCtx next pic ∧
      outputs next = outputs hCtx ++ (toShow vconfig false (hCtx.picture pic)).toList := by
  unfold showUnscaled
  dsimp only
  rw [own]
  by_cases last : unreferenced (hCtx.picture pic) = true
  · rw [if_pos last, if_neg (by omega)]
    by_cases buffered : (hCtx.picture pic).pVPicture ≠ none
    · rw [if_pos buffered]
      refine ⟨_, rfl, ?_, ?_⟩
      · exact framed_trans (framed_call _ _ pic)
          (framed_trans (framed_set _ pic _) (framed_set _ pic _))
      · simp [shownBy, toShow, displayBuffer]
    · rw [if_neg buffered]
      refine ⟨_, rfl, framed_trans (framed_set _ pic _) (framed_set _ pic _), ?_⟩
      simp [toShow, displayBuffer, not_not.mp buffered]
  · rw [if_neg last]
    rcases disp_frame_flag_values vconfig (hCtx.picture pic) with hidden | visible
    · rw [if_neg (by omega)]
      refine ⟨hCtx, rfl, ⟨rfl, fun _ _ => rfl⟩, ?_⟩
      simp [toShow, hidden]
    · rw [if_pos visible]
      cases buffer : (hCtx.picture pic).pVPicture with
      | none =>
        refine ⟨hCtx, rfl, ⟨rfl, fun _ _ => rfl⟩, ?_⟩
        simp [toShow, displayBuffer, buffer]
      | some pVPicture =>
        refine ⟨_, rfl, framed_call _ _ pic, ?_⟩
        simp [shownBy, toShow, displayBuffer, buffer, visible]

theorem show_picture_spec {pic : Nat} (mode : scaledOutput vconfig hCtx = scaled)
    (own : (hCtx.picture pic).nDispBufIndex = pic) (inside : pic < MAX_PICTURE_COUNT) :
    ∃ next, showPicture vconfig hCtx pic = some next ∧ Framed hCtx next pic ∧
      outputs next = outputs hCtx ++ (toShow vconfig scaled (hCtx.picture pic)).toList := by
  have marked := framed_set hCtx pic fun pic => { pic with bHasDispedFlag := 1 }
  have same := set_picture_same hCtx pic fun pic => { pic with bHasDispedFlag := 1 }
  have written := outputs_set_picture hCtx pic fun pic => { pic with bHasDispedFlag := 1 }
  have mode' : scaledOutput vconfig (hCtx.setPicture pic fun pic =>
      { pic with bHasDispedFlag := 1 }) = scaled := mode
  have unseen : toShow vconfig scaled ((hCtx.setPicture pic fun pic =>
      { pic with bHasDispedFlag := 1 }).picture pic) =
      toShow vconfig scaled (hCtx.picture pic) := by
    rw [same]
    rfl
  have own' : ((hCtx.setPicture pic fun pic =>
      { pic with bHasDispedFlag := 1 }).picture pic).nDispBufIndex = pic := by
    rw [same]
    exact own
  unfold showPicture
  dsimp only
  generalize (hCtx.setPicture pic fun pic => { pic with bHasDispedFlag := 1 }) = shown
    at marked mode' unseen own' written ⊢
  rw [mode']
  cases scaled with
  | true =>
    rcases @show_scaled_spec vconfig shown pic own' inside with ⟨next, step, framed, calls⟩
    exact ⟨next, by rw [if_pos rfl]; exact step, framed_trans marked framed,
      by rw [calls, unseen, written]⟩
  | false =>
    rcases @show_unscaled_spec vconfig shown pic own' inside with ⟨next, step, framed, calls⟩
    exact ⟨next, by rw [if_neg Bool.false_ne_true]; exact step, framed_trans marked framed,
      by rw [calls, unseen, written]⟩

theorem flush_picture_spec {pic : Nat} (shaped : Shaped scaled (hCtx.picture pic))
    (own : (hCtx.picture pic).nDispBufIndex = pic)
    (inside : pic < MAX_PICTURE_COUNT) :
    ∃ next, flushPicture vconfig hCtx pic = some next ∧ Framed hCtx next pic ∧
      outputs next = outputs hCtx ++ (toShow vconfig scaled (hCtx.picture pic)).toList := by
  have notOutside : ¬ MAX_PICTURE_COUNT ≤ pic := by omega
  have flags := disp_frame_flag_values vconfig (hCtx.picture pic)
  unfold flushPicture
  dsimp only
  rw [own]
  by_cases second : (hCtx.picture pic).pScaleDownVPicture ≠ none
  · rw [if_pos second, if_neg notOutside]
    have isScaled : scaled = true := by
      by_contra notScaled
      unfold Shaped at shaped
      rw [if_neg notScaled] at shaped
      exact second shaped
    refine ⟨_, rfl, ⟨rfl, ?_⟩, ?_⟩
    · intro other apart
      rw [set_picture_other apart, set_picture_other apart]
      rfl
    · rw [outputs_set_picture, outputs_set_picture, outputs_call]
      simp [shownBy, toShow, displayBuffer, isScaled]
  · rw [if_neg second]
    by_cases first : (hCtx.picture pic).pVPicture ≠ none
    · rw [if_pos first, if_neg notOutside]
      have notScaled : scaled = false := by
        by_contra isScaled
        unfold Shaped at shaped
        rw [if_pos (by simpa using isScaled)] at shaped
        exact first (shaped (not_not.mp second))
      refine ⟨_, rfl, ⟨rfl, ?_⟩, ?_⟩
      · intro other apart
        rw [set_picture_other apart, set_picture_other apart]
        rfl
      · rw [outputs_set_picture, outputs_set_picture, outputs_call]
        simp [shownBy, toShow, displayBuffer, notScaled]
    · rw [if_neg first]
      refine ⟨hCtx, rfl, ⟨rfl, fun _ _ => rfl⟩, ?_⟩
      have nothing : toShow vconfig scaled (hCtx.picture pic) = none := by
        unfold toShow displayBuffer
        split_ifs
        · rfl
        · exact not_not.mp second
        · exact not_not.mp first
      rw [nothing]
      simp

end Showing

section Flushing

variable {vconfig : VConfig} {scaled : Bool}

def InPlace (scaled : Bool) (picture : Nat → H264PicInfo) (slots : List Nat) : Prop :=
  ∀ pic ∈ slots, pic < MAX_PICTURE_COUNT ∧ (picture pic).nDispBufIndex = pic ∧
    Shaped scaled (picture pic)

def flushOrder (picture : Nat → H264PicInfo) (turns : Nat) (slots : List Nat) : List Nat :=
  drain (poc picture) (isKeyFrame picture) (hasBuffer picture) turns slots

theorem flush_order_congr {picture picture' : Nat → H264PicInfo} {turns : Nat}
    {slots : List Nat} (distinct : slots.Nodup)
    (same : ∀ pic ∈ slots, picture pic = picture' pic) :
    flushOrder picture turns slots = flushOrder picture' turns slots := by
  apply drain_congr distinct
  · intro pic member
    rw [poc, poc, same pic member]
  · intro pic member
    rw [isKeyFrame, isKeyFrame, same pic member]
  · intro pic member
    rw [hasBuffer, hasBuffer, same pic member]

theorem flush_loop_spec {turns : Nat} {hCtx : H264Context} {slots : List Nat}
    (mode : scaledOutput vconfig hCtx = scaled) (listed : Listed hCtx.pDelayedPic slots)
    (bound : slots.length < MAX_PICTURE_COUNT) (distinct : slots.Nodup)
    (inPlace : InPlace scaled hCtx.picture slots) (enough : slots.length < turns) :
    ∃ next, flushLoop vconfig turns hCtx = some next ∧
      next = { hCtx with
        picture := next.picture, pDelayedPic := next.pDelayedPic, fbmCalls := next.fbmCalls } ∧
      outputs next = outputs hCtx ++ (flushOrder hCtx.picture turns slots).filterMap
        fun pic => toShow vconfig scaled (hCtx.picture pic) := by
  induction turns generalizing hCtx slots with
  | zero => exact absurd enough (Nat.not_lt_zero _)
  | succ turns ih =>
    cases slots with
    | nil =>
      have empty : hCtx.pDelayedPic 0 = none := listed 0 (Nat.le_refl _)
      refine ⟨hCtx, by rw [flushLoop, empty], rfl, ?_⟩
      simp [flushOrder]
    | cons head rest =>
      have front : hCtx.pDelayedPic 0 = some head := listed 0 (Nat.zero_le _)
      rcases @pass_table _ hCtx.picture head rest listed bound with
        ⟨struck, table, search, close, listed'⟩
      have pass := @remaining_spec _ _ _ (poc hCtx.picture) (isKeyFrame hCtx.picture)
        (hasBuffer hCtx.picture) head rest distinct
      have fewer := remaining_length (poc hCtx.picture) (isKeyFrame hCtx.picture)
        (hasBuffer hCtx.picture) head rest
      have order : flushOrder hCtx.picture (turns + 1) (head :: rest) =
          (taken (poc hCtx.picture) (isKeyFrame hCtx.picture) (hasBuffer hCtx.picture)
            head rest).1 ::
          flushOrder hCtx.picture turns (remaining (poc hCtx.picture)
            (isKeyFrame hCtx.picture) (hasBuffer hCtx.picture) head rest) := rfl
      rw [order, flushLoop, front]
      dsimp only
      rw [search]
      dsimp only [bind_some]
      rw [close]
      dsimp only [bind_some]
      generalize taken (poc hCtx.picture) (isKeyFrame hCtx.picture) (hasBuffer hCtx.picture)
        head rest = found at pass ⊢
      generalize remaining (poc hCtx.picture) (isKeyFrame hCtx.picture)
        (hasBuffer hCtx.picture) head rest = left at pass fewer listed' ⊢
      rcases pass with ⟨member, sublist, gone⟩
      rcases inPlace found.1 member with ⟨inside, own, shaped⟩
      rcases @flush_picture_spec vconfig { hCtx with pDelayedPic := table } scaled found.1
        shaped own inside with ⟨shown, step, framed, calls⟩
      rw [step]
      dsimp only [bind_some]
      have same : ∀ pic ∈ left, shown.picture pic = hCtx.picture pic := by
        intro pic remains
        apply framed.others
        rintro rfl
        exact gone remains
      have shownTable : shown.pDelayedPic = table := by rw [framed.rest]
      have mode' : scaledOutput vconfig shown = scaled := by
        rw [framed.rest]
        exact mode
      have inPlace' : InPlace scaled shown.picture left := by
        intro pic remains
        rw [same pic remains]
        exact inPlace pic (sublist.subset remains)
      simp only [length_cons] at bound enough
      rcases @ih shown left mode' (by rw [shownTable]; exact listed') (by omega)
        (distinct.sublist sublist) inPlace' (by omega) with ⟨next, rest_steps, frame, outs⟩
      refine ⟨next, rest_steps, ?_, ?_⟩
      · rw [frame, framed.rest]
      · rw [outs, calls, flush_order_congr (distinct.sublist sublist) same, filterMap_cons]
        have reread : (flushOrder hCtx.picture turns left).filterMap
            (fun pic => toShow vconfig scaled (shown.picture pic)) =
            (flushOrder hCtx.picture turns left).filterMap
              (fun pic => toShow vconfig scaled (hCtx.picture pic)) := by
          apply filterMap_congr
          intro pic later
          rw [same pic (drain_subset (distinct.sublist sublist) later)]
        rw [reread]
        change outputs hCtx ++ _ ++ _ = _
        cases toShow vconfig scaled (hCtx.picture found.1) <;> simp

theorem sweep_spec {count : Nat} {hCtx : H264Context}
    (inside : hCtx.nBufIndexOffset + count ≤ MAX_PICTURE_COUNT) :
    ∃ next, sweepPictures hCtx count = some next ∧
      next = { hCtx with picture := next.picture, fbmCalls := next.fbmCalls } ∧
      outputs next = outputs hCtx := by
  induction count with
  | zero => exact ⟨hCtx, rfl, rfl, rfl⟩
  | succ count ih =>
    rcases ih (by omega) with ⟨middle, steps, frame, quiet⟩
    have offset : ¬ MAX_PICTURE_COUNT ≤ hCtx.nBufIndexOffset + count := by omega
    rw [sweepPictures, steps]
    dsimp only [bind_some]
    unfold sweepPicture
    rw [if_neg offset]
    refine ⟨_, rfl, ?_, ?_⟩
    · split_ifs <;> rw [frame] <;> rfl
    · rw [outputs_set_picture]
      split_ifs <;> simp [shownBy, quiet]

end Flushing

section Sorting

variable {vconfig : VConfig} {scaled : Bool} {hCtx : H264Context} {slots : List Nat}

/-- A search over a table that starts with the slots, `count` turns in. -/
structure SearchKept (hCtx : H264Context) (slots : List Nat) (count : Nat) (search : Search) :
    Prop where
  found : ∀ pic index, search.outPicInf = some (pic, index) → slots[index]? = some pic
  smallest : search.minPoc < 0x7fffffff → search.anciDelayedBufIndex < count

theorem search_delayed_spec {count : Nat} (listed : Listed hCtx.pDelayedPic slots)
    (within : count ≤ slots.length) :
    ∃ search, searchDelayed hCtx count = some search ∧ SearchKept hCtx slots count search := by
  induction count with
  | zero => exact ⟨Search.start, rfl, by simp [Search.start], by simp [Search.start]⟩
  | succ count ih =>
    rcases ih (by omega) with ⟨search, steps, kept⟩
    have entry := listed count (by omega)
    rw [List.getElem?_eq_getElem (by omega)] at entry
    rw [searchDelayed, steps]
    dsimp only [bind_some]
    unfold searchStep
    rw [entry]
    dsimp only
    have later : search.minPoc < 0x7fffffff → search.anciDelayedBufIndex < count + 1 :=
      fun small => Nat.lt_succ_of_lt (kept.smallest small)
    split_ifs
    all_goals
      refine ⟨_, rfl, ?_, ?_⟩
      · first
        | exact kept.found
        | (intro pic index out
           obtain ⟨rfl, rfl⟩ := Prod.mk.inj (Option.some.inj out)
           exact List.getElem?_eq_getElem (by omega))
      · first
        | exact later
        | exact fun _ => Nat.lt_succ_self _

theorem search_step_at {search : Search} {i pic : Nat} (entry : hCtx.pDelayedPic i = some pic) :
    ∃ next, searchStep hCtx search i = some next ∧
      (search.outPicInf ≠ none → next.outPicInf ≠ none) ∧
      (search.minPoc ≤ poc hCtx.picture pic → next.minPoc = search.minPoc ∧
        next.findDispFlag = search.findDispFlag ∧ next.outPicInf = search.outPicInf) ∧
      (poc hCtx.picture pic < search.minPoc → search.findDispFlag = false →
        i = 0 ∨ hCtx.nMinDispPoc < poc hCtx.picture pic → next.outPicInf ≠ none) := by
  unfold searchStep poc
  rw [entry]
  dsimp only
  have counted : ∃ counted : Search,
      (if unreferenced (hCtx.picture pic) = true then
        { search with nonRefFrameNum := search.nonRefFrameNum + 1 }
      else { search with refFrameNum := search.refFrameNum + 1 }) = counted ∧
      counted.minPoc = search.minPoc ∧ counted.findDispFlag = search.findDispFlag ∧
      counted.outPicInf = search.outPicInf := by
    split_ifs <;> exact ⟨_, rfl, rfl, rfl, rfl⟩
  rcases counted with ⟨counted, same, minPoc, flag, out⟩
  rw [same, ← minPoc, ← flag, ← out]
  by_cases smaller : (hCtx.picture pic).nPoc < counted.minPoc
  · rw [if_pos smaller]
    by_cases found : counted.findDispFlag = true
    · rw [if_pos found]
      refine ⟨_, rfl, fun before => before, fun large => absurd smaller (not_lt.mpr large), ?_⟩
      intro _ unflagged
      exact absurd (unflagged.symm.trans found) Bool.false_ne_true
    · rw [if_neg found]
      by_cases early : (hCtx.picture pic).nPoc ≤ hCtx.nMinDispPoc ∧ i ≠ 0
      · rw [if_pos early]
        refine ⟨_, rfl, fun before => before, fun large => absurd smaller (not_lt.mpr large), ?_⟩
        intro _ _ behind
        omega
      · rw [if_neg early]
        exact ⟨_, rfl, fun _ => some_ne_none _,
          fun large => absurd smaller (not_lt.mpr large), fun _ _ _ => some_ne_none _⟩
  · rw [if_neg smaller]
    exact ⟨counted, rfl, fun before => before, fun _ => ⟨rfl, rfl, rfl⟩,
      fun less => absurd less smaller⟩

variable {pic index count : Nat} {picture : Nat → H264PicInfo} {input : SortInput}

theorem search_quiet (listed : Listed hCtx.pDelayedPic slots) (within : count ≤ slots.length)
    (large : ∀ pic ∈ slots.take count, 0x7fffffff ≤ poc hCtx.picture pic) :
    ∃ search, searchDelayed hCtx count = some search ∧ search.minPoc = 0x7fffffff ∧
      search.findDispFlag = false ∧ search.outPicInf = none := by
  induction count with
  | zero => exact ⟨Search.start, rfl, rfl, rfl, rfl⟩
  | succ count ih =>
    have entry := listed count (by omega)
    rw [List.getElem?_eq_getElem (by omega)] at entry
    have front : ∀ pic ∈ slots.take count, 0x7fffffff ≤ poc hCtx.picture pic := by
      intro pic member
      apply large
      exact (take_subset_take_left slots (Nat.le_succ count)) member
    have inside : count < slots.length := by omega
    have last : 0x7fffffff ≤ poc hCtx.picture slots[count] := by
      apply large
      rw [take_succ_eq_append_getElem (by omega)]
      exact mem_append_right _ mem_cons_self
    rcases ih (by omega) front with ⟨search, steps, minPoc, flag, out⟩
    rcases @search_step_at hCtx search count _ entry with ⟨next, step, -, same, -⟩
    rcases same (by rw [minPoc]; exact last) with ⟨minPoc', flag', out'⟩
    exact ⟨next, by rw [searchDelayed, steps]; exact step, minPoc'.trans minPoc,
      flag'.trans flag, out'.trans out⟩

/-- Past the first smaller picture that is the oldest or behind what was shown
last, the search has found one. -/
theorem search_finds {count first : Nat} {pic : Nat} (listed : Listed hCtx.pDelayedPic slots)
    (within : count ≤ slots.length) (behind : first < count) (place : slots[first]? = some pic)
    (large : ∀ other ∈ slots.take first, 0x7fffffff ≤ poc hCtx.picture other)
    (small : poc hCtx.picture pic < 0x7fffffff)
    (shown : first = 0 ∨ hCtx.nMinDispPoc < poc hCtx.picture pic) :
    ∃ search, searchDelayed hCtx count = some search ∧ search.outPicInf ≠ none := by
  induction count with
  | zero => exact absurd behind (Nat.not_lt_zero _)
  | succ count ih =>
    have entry := listed count (by omega)
    rcases Nat.lt_or_eq_of_le (Nat.le_of_lt_succ behind) with before | rfl
    · rw [List.getElem?_eq_getElem (by omega)] at entry
      rcases ih (by omega) before with ⟨search, steps, found⟩
      rcases @search_step_at hCtx search count _ entry with ⟨next, step, keeps, -, -⟩
      exact ⟨next, by rw [searchDelayed, steps]; exact step, keeps found⟩
    · rw [place] at entry
      rcases search_quiet listed (by omega) large with ⟨search, steps, minPoc, flag, -⟩
      rcases @search_step_at hCtx search first _ entry with ⟨next, step, -, -, finds⟩
      exact ⟨next, by rw [searchDelayed, steps]; exact step,
        finds (by rw [minPoc]; exact small) flag shown⟩

theorem search_of_counts (listed : Listed hCtx.pDelayedPic slots)
    (finds : ¬ NothingFound hCtx.nMinDispPoc (slots.map (poc hCtx.picture))) :
    ∃ search, searchDelayed hCtx slots.length = some search ∧ search.outPicInf ≠ none := by
  cases slots with
  | nil => exact absurd trivial finds
  | cons oldest later =>
    unfold NothingFound at finds
    simp only [map_cons] at finds
    by_cases large : 0x7fffffff ≤ poc hCtx.picture oldest
    · rw [not_and, not_forall] at finds
      rcases finds large with ⟨next, notBehind⟩
      rcases not_forall.mp notBehind with ⟨member, above⟩
      rcases List.find?_eq_some_iff_append.mp member with ⟨small, before, after, split, larger⟩
      rcases map_eq_append_iff.mp split with ⟨front, back, rfl, rfl, mapped⟩
      rcases map_eq_cons_iff.mp mapped with ⟨pic, rest, rfl, rfl, -⟩
      refine @search_finds _ _ _ (front.length + 1) pic listed (Nat.le_refl _) ?_ ?_ ?_ ?_ ?_
      · simp
      · simp
      · intro other inside
        simp only [take_succ_cons, take_left', mem_cons] at inside
        rcases inside with rfl | inFront
        · exact large
        · have notSmall := larger _ (mem_map_of_mem inFront)
          simpa using notSmall
      · simpa using small
      · exact Or.inr (not_le.mp above)
    · exact @search_finds _ _ _ 0 oldest listed (Nat.le_refl _) (by simp) rfl (by simp)
        (not_le.mp large) (Or.inl rfl)

theorem choose_output_spec {search : Search} (listed : Listed hCtx.pDelayedPic slots)
    (kept : SearchKept hCtx slots slots.length search) (bound : slots.length < MAX_PICTURE_COUNT)
    (found : hCtx.pDelayedOutPutPic ≠ none → search.outPicInf ≠ none) :
    ∃ choice, chooseOutput hCtx search = some choice ∧
      ∀ pic index, choice = .output pic index → slots[index]? = some pic := by
  unfold chooseOutput
  cases earlier : hCtx.pDelayedOutPutPic with
  | none =>
    cases out : search.outPicInf with
    | none => exact ⟨.nothing, rfl, by simp⟩
    | some entry =>
      refine ⟨.output entry.1 entry.2, rfl, ?_⟩
      intro pic index same
      obtain ⟨rfl, rfl⟩ := Choice.output.inj same
      exact kept.found _ _ out
  | some shown =>
    cases out : search.outPicInf with
    | none => exact absurd out (found (by rw [earlier]; exact some_ne_none _))
    | some entry =>
      dsimp only
      unfold chooseNext
      dsimp only
      have inTable : search.minPoc < 0 → search.anciDelayedBufIndex < slots.length :=
        fun negative => kept.smallest (by omega)
      rw [if_neg (by omega)]
      have instead : ∃ other place,
          (if (hCtx.picture entry.1).nPoc = 0 ∧ search.minPoc < 0 then
            (hCtx.pDelayedPic search.anciDelayedBufIndex).map fun other =>
              (other, search.anciDelayedBufIndex)
          else some entry) = some (other, place) ∧ slots[place]? = some other := by
        split_ifs with negative
        · have inside := inTable negative.2
          have held := listed search.anciDelayedBufIndex (by omega)
          rw [List.getElem?_eq_getElem inside] at held
          exact ⟨_, _, by rw [held]; rfl, List.getElem?_eq_getElem inside⟩
        · exact ⟨entry.1, entry.2, rfl, kept.found _ _ out⟩
      rcases instead with ⟨other, place, same, held⟩
      rw [same]
      dsimp only
      split_ifs
      · exact ⟨_, rfl, by simp⟩
      · exact ⟨_, rfl, by simp⟩
      · exact ⟨_, rfl, by simp⟩
      · refine ⟨_, rfl, ?_⟩
        intro pic index chosen
        obtain ⟨rfl, rfl⟩ := Choice.output.inj chosen
        exact held

theorem move_delayed_spec {table : Nat → Option Nat} {i : Nat}
    (inside : i + count < MAX_PICTURE_COUNT) :
    moveDelayed table i count = some (closed table i (i + count)) := by
  induction count generalizing i table with
  | zero =>
    rw [moveDelayed]
    congr 1
    funext k
    unfold closed
    rw [if_neg (by omega)]
  | succ count ih =>
    have last : i + 1 + count = i + (count + 1) := by omega
    rw [moveDelayed, if_neg (by omega), ih (by omega), last, closed_step (by omega)]

structure Kept (vconfig : VConfig) (scaled : Bool) (hCtx : H264Context) (slots : List Nat) :
    Prop where
  mode : scaledOutput vconfig hCtx = scaled
  table : ∀ i, hCtx.pDelayedPic i = slots[i]?
  count : hCtx.nDelayedPicNum = slots.length
  bound : slots.length < MAX_PICTURE_COUNT
  distinct : slots.Nodup
  inPlace : InPlace scaled hCtx.picture slots
  swept : hCtx.nBufIndexOffset + hCtx.nMaxValidFrmBufNum ≤ MAX_PICTURE_COUNT

theorem filter_map_range (slots : List Nat) :
    ((List.range slots.length).filterMap fun i => slots[i]?) = slots := by
  induction slots using List.reverseRecOn with
  | nil => rfl
  | append_singleton front last ih =>
    rw [length_append, length_singleton, range_succ, filterMap_append]
    have before : ((List.range front.length).filterMap fun i => (front ++ [last])[i]?) =
        (List.range front.length).filterMap fun i => front[i]? := by
      apply filterMap_congr
      intro i member
      exact List.getElem?_append_left (mem_range.mp member)
    rw [before, ih]
    simp

theorem delayed_slots_eq (kept : Kept vconfig scaled hCtx slots) : delayedSlots hCtx = slots := by
  have same : hCtx.pDelayedPic = fun i => slots[i]? := funext kept.table
  unfold delayedSlots
  rw [same, kept.count]
  exact filter_map_range slots

def waiting (vconfig : VConfig) (scaled : Bool) (picture : Nat → H264PicInfo)
    (slots : List Nat) : List Nat :=
  slots.filterMap fun pic => toShow vconfig scaled (picture pic)

theorem waiting_congr {picture' : Nat → H264PicInfo}
    (same : ∀ pic ∈ slots, picture pic = picture' pic) :
    waiting vconfig scaled picture slots = waiting vconfig scaled picture' slots := by
  apply filterMap_congr
  intro pic member
  rw [same pic member]

theorem waiting_split (place : slots[index]? = some pic) :
    ((toShow vconfig scaled (picture pic)).toList ++
      waiting vconfig scaled picture (slots.eraseIdx index)).Perm
        (waiting vconfig scaled picture slots) := by
  rcases List.getElem?_eq_some_iff.mp place with ⟨inside, rfl⟩
  have whole := (getElem_cons_eraseIdx_perm inside).filterMap
    fun pic => toShow vconfig scaled (picture pic)
  rw [filterMap_cons] at whole
  unfold waiting
  cases shown : toShow vconfig scaled (picture slots[index]) with
  | none | some buffer =>
    rw [shown] at whole
    exact whole

theorem erased_gone (distinct : slots.Nodup)
    (place : slots[index]? = some pic) : pic ∉ slots.eraseIdx index := by
  intro again
  have inside := (List.getElem?_eq_some_iff.mp place).1
  rcases mem_eraseIdx_iff_getElem?.mp again with ⟨other, apart, there⟩
  exact apart ((List.getElem?_inj inside distinct).mp (place.trans there.symm)).symm

theorem remove_delayed_spec {pic index : Nat} (table : ∀ i, hCtx.pDelayedPic i = slots[i]?)
    (count : hCtx.nDelayedPicNum = slots.length) (bound : slots.length < MAX_PICTURE_COUNT)
    (inside : index < slots.length) :
    ∃ next, removeDelayed hCtx pic index = some next ∧
      (∀ i, next.pDelayedPic i = (slots.eraseIdx index)[i]?) ∧
      next.nDelayedPicNum = slots.length - 1 ∧
      (∀ other, other ≠ pic → next.picture other = hCtx.picture other) ∧
      outputs next = outputs hCtx ∧ next.nBufIndexOffset = hCtx.nBufIndexOffset ∧
      next.nMaxValidFrmBufNum = hCtx.nMaxValidFrmBufNum ∧
      scaledOutput vconfig next = scaledOutput vconfig hCtx := by
  unfold removeDelayed
  rw [count, move_delayed_spec (by omega), map_some, Nat.add_sub_of_le inside.le,
    Nat.max_eq_right inside.le]
  have entries : ∀ i, update (closed hCtx.pDelayedPic index slots.length)
      slots.length none i = (slots.eraseIdx index)[i]? := by
    intro i
    rw [List.getElem?_eraseIdx, update_apply]
    unfold closed
    by_cases last : i = slots.length
    · rw [if_pos last, if_neg (by omega), List.getElem?_eq_none (by omega)]
    · rw [if_neg last]
      by_cases before : i < index
      · rw [if_neg (by omega), if_pos before, table]
      · rw [if_neg before]
        by_cases within : i < slots.length
        · rw [if_pos (by omega), table]
        · rw [if_neg (by omega), table, List.getElem?_eq_none (by omega),
            List.getElem?_eq_none (by omega)]
  dsimp only
  rw [if_pos bound]
  split_ifs
  · exact ⟨_, rfl, entries, rfl, fun _ apart => set_picture_other apart, rfl, rfl, rfl, rfl⟩
  · exact ⟨_, rfl, entries, rfl, fun _ _ => rfl, rfl, rfl, rfl, rfl⟩

theorem output_spec (kept : Kept vconfig scaled hCtx slots) (place : slots[index]? = some pic) :
    ∃ next, (showPicture vconfig hCtx pic).bind (fun hCtx => removeDelayed hCtx pic index) =
        some next ∧ Kept vconfig scaled next (slots.eraseIdx index) ∧
      (outputs next ++ waiting vconfig scaled next.picture (slots.eraseIdx index)).Perm
        (outputs hCtx ++ waiting vconfig scaled hCtx.picture slots) := by
  have inside := (List.getElem?_eq_some_iff.mp place).1
  have gone := erased_gone kept.distinct place
  rcases kept.inPlace pic (mem_of_getElem? place) with ⟨inTable, own, -⟩
  rcases show_picture_spec kept.mode own inTable with ⟨shown, step, framed, calls⟩
  have rest := framed.rest
  have table : ∀ i, shown.pDelayedPic i = slots[i]? := by
    intro i
    rw [rest]
    exact kept.table i
  have count : shown.nDelayedPicNum = slots.length := by
    rw [rest]
    exact kept.count
  rcases @remove_delayed_spec vconfig shown slots pic index table count kept.bound inside with
    ⟨next, removed, table', count', others, quiet, offset, number, mode⟩
  have same : ∀ other ∈ slots.eraseIdx index, next.picture other = hCtx.picture other := by
    intro other member
    have apart : other ≠ pic := by
      rintro rfl
      exact gone member
    rw [others other apart, framed.others other apart]
  refine ⟨next, by rw [step]; exact removed, ?_, ?_⟩
  · have shorter := length_eraseIdx_of_lt inside
    have bound := kept.bound
    have swept := kept.swept
    have mode' := kept.mode
    constructor
    · rw [mode, rest]
      exact mode'
    · exact table'
    · rw [count', shorter]
    · omega
    · exact kept.distinct.sublist (eraseIdx_sublist _ _)
    · intro other member
      rw [same other member]
      exact kept.inPlace other (mem_of_mem_eraseIdx member)
    · rw [offset, number, rest]
      exact swept
  · rw [quiet, calls, waiting_congr same, append_assoc]
    exact (waiting_split place).append_left _

theorem framed_kept {next : H264Context} (kept : Kept vconfig scaled hCtx slots)
    (framed : Framed hCtx next pic) (apart : pic ∉ slots) :
    Kept vconfig scaled next slots ∧
      waiting vconfig scaled next.picture slots = waiting vconfig scaled hCtx.picture slots := by
  have same : ∀ other ∈ slots, next.picture other = hCtx.picture other := by
    intro other member
    apply framed.others
    rintro rfl
    exact apart member
  have rest := framed.rest
  refine ⟨?_, waiting_congr same⟩
  constructor
  · rw [rest]
    exact kept.mode
  · rw [rest]
    exact kept.table
  · rw [rest]
    exact kept.count
  · exact kept.bound
  · exact kept.distinct
  · intro other member
    rw [same other member]
    exact kept.inPlace other member
  · rw [rest]
    exact kept.swept

theorem show_key_frame_spec (mode : scaledOutput vconfig hCtx = scaled)
    (own : (hCtx.picture pic).nDispBufIndex = pic) (inside : pic < MAX_PICTURE_COUNT) :
    ∃ next, showKeyFrame vconfig hCtx pic = some next ∧ Framed hCtx next pic ∧
      outputs next = outputs hCtx ++ (displayBuffer scaled (hCtx.picture pic)).toList := by
  unfold showKeyFrame
  dsimp only
  have notOutside : ¬ MAX_PICTURE_COUNT ≤ pic := by omega
  rw [own, mode, if_neg notOutside, if_neg notOutside]
  cases scaled with
  | true =>
    rw [if_pos rfl]
    refine ⟨_, rfl, ?_, ?_⟩
    · exact framed_trans (framed_call _ _ pic) (framed_trans (framed_set _ pic _)
        (framed_trans (framed_set _ pic _) (framed_set _ pic _)))
    · simp [shownBy, displayBuffer]
  | false =>
    rw [if_neg Bool.false_ne_true]
    refine ⟨_, rfl, ?_, ?_⟩
    · exact framed_trans (framed_call _ _ pic) (framed_trans (framed_set _ pic _)
        (framed_trans (framed_set _ pic _) (framed_set _ pic _)))
    · simp [shownBy, displayBuffer]

theorem free_decode_slot_spec (free : (hCtx.picture pic).nDecodeBufIndex = pic ∨
      (hCtx.picture pic).nDecodeBufIndex < MAX_PICTURE_COUNT ∧
        (hCtx.picture pic).nDecodeBufIndex ∉ slots)
    (own : (hCtx.picture pic).nDispBufIndex = pic) (kept : Kept vconfig scaled hCtx slots) :
    ∃ next, freeDecodeSlot hCtx pic = some next ∧ Kept vconfig scaled next slots ∧
      waiting vconfig scaled next.picture slots = waiting vconfig scaled hCtx.picture slots ∧
      next.picture pic = hCtx.picture pic ∧ outputs next = outputs hCtx ∧
      next.nMinDispPoc = hCtx.nMinDispPoc ∧
      next.pDelayedOutPutPic = hCtx.pDelayedOutPutPic ∧
      ∀ other ∈ slots, next.picture other = hCtx.picture other := by
  unfold freeDecodeSlot
  dsimp only
  rw [own]
  by_cases same : (hCtx.picture pic).nDecodeBufIndex = pic
  · rw [if_neg (not_not.mpr same)]
    exact ⟨hCtx, rfl, kept, rfl, rfl, rfl, rfl, rfl, fun _ _ => rfl⟩
  · rw [if_pos same]
    rcases free with own' | ⟨inside, apart⟩
    · exact absurd own' same
    · rw [if_neg (by omega)]
      have framed := framed_set hCtx (hCtx.picture pic).nDecodeBufIndex
        fun pic => { pic with pVPicture := none, pScaleDownVPicture := none, nReference := 0 }
      rcases framed_kept kept framed apart with ⟨kept', unseen⟩
      refine ⟨_, rfl, kept', unseen, ?_, rfl, rfl, rfl, ?_⟩
      · exact set_picture_other fun here => same here.symm
      · intro other member
        apply framed.others
        rintro rfl
        exact apart member

theorem delay_table {pDelayedPic : Nat → Option Nat} (pic : Nat)
    (table : ∀ i, pDelayedPic i = slots[i]?) (i : Nat) :
    update (update pDelayedPic slots.length (some pic)) (slots.length + 1) none
      i = (slots ++ [pic])[i]? := by
  rcases Nat.lt_trichotomy i slots.length with before | rfl | behind
  · rw [update_of_ne (by omega), update_of_ne (by omega), table, List.getElem?_append_left before]
  · rw [update_of_ne (by omega), update_self]
    simp
  · have outside : (slots ++ [pic])[i]? = none := by
      apply List.getElem?_eq_none
      rw [length_append, length_singleton]
      exact behind
    rw [outside, update_apply]
    split_ifs
    · rfl
    · rw [update_of_ne (by omega), table, List.getElem?_eq_none (by omega)]

theorem delay_distinct (distinct : slots.Nodup) (apart : pic ∉ slots) : (slots ++ [pic]).Nodup := by
  apply nodup_append.mpr
  refine ⟨distinct, nodup_singleton _, ?_⟩
  rintro other member last same rfl
  exact apart (mem_singleton.mp same ▸ member)

theorem delay_picture_spec (kept : Kept vconfig scaled hCtx slots)
    (room : slots.length + 1 < MAX_PICTURE_COUNT) (apart : pic ∉ slots)
    (placed : pic < MAX_PICTURE_COUNT ∧ (hCtx.picture pic).nDispBufIndex = pic ∧
      Shaped scaled (hCtx.picture pic)) :
    ∃ next, delayPicture hCtx pic = some next ∧
      Kept vconfig scaled next (slots ++ [pic]) ∧ next.picture = hCtx.picture ∧
      outputs next = outputs hCtx ∧ next.nMinDispPoc = hCtx.nMinDispPoc ∧
      next.pDelayedOutPutPic = hCtx.pDelayedOutPutPic := by
  unfold delayPicture
  dsimp only
  rw [kept.count, if_neg (by omega), if_neg (by omega)]
  refine ⟨_, rfl, ?_, rfl, rfl, rfl, rfl⟩
  constructor
  · exact kept.mode
  · exact delay_table pic kept.table
  · dsimp only
    rw [length_append, length_singleton]
  · rw [length_append, length_singleton]
    exact room
  · exact delay_distinct kept.distinct apart
  · intro other member
    rcases mem_append.mp member with front | last
    · exact kept.inPlace other front
    · rw [mem_singleton.mp last]
      exact placed
  · exact kept.swept

theorem decoded_kept (kept : Kept vconfig scaled hCtx slots) (apart : input.slot ∉ slots) :
    Kept vconfig scaled (decodedInto hCtx input) slots ∧
      ∀ other ∈ slots, (decodedInto hCtx input).picture other = hCtx.picture other := by
  have same : ∀ other ∈ slots, (decodedInto hCtx input).picture other = hCtx.picture other := by
    intro other member
    apply update_of_ne
    rintro rfl
    exact apart member
  refine ⟨?_, same⟩
  constructor
  · exact kept.mode
  · exact kept.table
  · exact kept.count
  · exact kept.bound
  · exact kept.distinct
  · intro other member
    rw [same other member]
    exact kept.inPlace other member
  · exact kept.swept

theorem waiting_append : waiting vconfig scaled picture (slots ++ [pic]) =
      waiting vconfig scaled picture slots ++ (toShow vconfig scaled (picture pic)).toList := by
  unfold waiting
  rw [filterMap_append]
  cases shown : toShow vconfig scaled (picture pic) <;> simp [shown]

theorem choose_and_show {slots : List Nat} (kept : Kept vconfig scaled hCtx slots)
    (finds : hCtx.pDelayedOutPutPic ≠ none →
      ¬ NothingFound hCtx.nMinDispPoc (slots.map (poc hCtx.picture))) :
    ∃ next left, ((searchDelayed hCtx hCtx.nDelayedPicNum).bind fun search =>
        (chooseOutput hCtx search).bind fun choice =>
          match choice with
          | .wait nMinDispPoc => some { hCtx with nMinDispPoc := nMinDispPoc }
          | .nothing => some hCtx
          | .output outPicInf delayedBufIndex =>
            (showPicture vconfig hCtx outPicInf).bind fun hCtx =>
              removeDelayed hCtx outPicInf delayedBufIndex) = some next ∧
      Kept vconfig scaled next left ∧
      (outputs next ++ waiting vconfig scaled next.picture left).Perm
        (outputs hCtx ++ waiting vconfig scaled hCtx.picture slots) := by
  have listed : Listed hCtx.pDelayedPic slots := fun i _ => kept.table i
  rcases @search_delayed_spec hCtx slots slots.length listed (Nat.le_refl _) with
    ⟨search, steps, found⟩
  have something : hCtx.pDelayedOutPutPic ≠ none → search.outPicInf ≠ none := by
    intro shown
    rcases search_of_counts listed (finds shown) with ⟨other, again, out⟩
    obtain rfl : search = other := Option.some.inj (steps.symm.trans again)
    exact out
  rcases choose_output_spec listed found kept.bound something with ⟨choice, chosen, place⟩
  have searched : searchDelayed hCtx hCtx.nDelayedPicNum = some search := by
    rw [kept.count]
    exact steps
  rw [searched]
  dsimp only [bind_some]
  rw [chosen]
  dsimp only [bind_some]
  cases choice with
  | wait nMinDispPoc =>
    exact ⟨_, slots, rfl, { kept with }, List.Perm.refl _⟩
  | nothing => exact ⟨hCtx, slots, rfl, kept, List.Perm.refl _⟩
  | output pic index =>
    rcases output_spec kept (place pic index rfl) with ⟨next, step, kept', perm⟩
    exact ⟨next, _, step, kept', perm⟩

/-- A sort keeps the table, and what was shown and is delayed grows by the
decoded picture. -/
theorem sort_spec (kept : Kept vconfig scaled hCtx slots)
    (inside : input.slot < MAX_PICTURE_COUNT) (apart : input.slot ∉ slots)
    (own : input.info.nDispBufIndex = input.slot) (free : input.info.nDecodeBufIndex = input.slot ∨
      input.info.nDecodeBufIndex < MAX_PICTURE_COUNT ∧ input.info.nDecodeBufIndex ∉ slots)
    (shaped : Shaped scaled input.info)
    (room : input.bDecodeKeyFrameOnly ≠ 1 → slots.length + 1 < MAX_PICTURE_COUNT)
    (finds : hCtx.pDelayedOutPutPic ≠ none → input.bDecodeKeyFrameOnly ≠ 1 →
      ¬ NothingFound hCtx.nMinDispPoc (slots.map (poc hCtx.picture) ++ [input.info.nPoc])) :
    ∃ next left,
      H264SortDisplayFrameOrder vconfig (decodedInto hCtx input) input.bDecodeKeyFrameOnly =
        some next ∧ Kept vconfig scaled next left ∧
      (outputs next ++ waiting vconfig scaled next.picture left).Perm
        (outputs hCtx ++ waiting vconfig scaled hCtx.picture slots ++
          (decodedBuffer vconfig hCtx input).toList) := by
  rcases decoded_kept kept apart with ⟨kept₁, same₁⟩
  have cur : (decodedInto hCtx input).picture input.slot = input.info := update_self ..
  have own₁ : ((decodedInto hCtx input).picture input.slot).nDispBufIndex = input.slot := by
    rw [cur]
    exact own
  have mode := kept.mode
  have current : (decodedInto hCtx input).pCurPicturePtr = some input.slot := rfl
  unfold H264SortDisplayFrameOrder decodedBuffer
  rw [current, mode]
  dsimp only
  by_cases keyOnly : input.bDecodeKeyFrameOnly = 1
  · rw [if_pos keyOnly, if_pos keyOnly]
    rcases show_key_frame_spec kept₁.mode own₁ inside with ⟨next, step, framed, calls⟩
    rcases framed_kept kept₁ framed apart with ⟨kept₂, unseen⟩
    refine ⟨next, slots, step, kept₂, ?_⟩
    rw [calls, unseen, waiting_congr same₁, cur, append_assoc, append_assoc]
    exact (perm_append_comm).append_left _
  · rw [if_neg keyOnly, if_neg keyOnly]
    have free₁ : ((decodedInto hCtx input).picture input.slot).nDecodeBufIndex = input.slot ∨
        ((decodedInto hCtx input).picture input.slot).nDecodeBufIndex < MAX_PICTURE_COUNT ∧
          ((decodedInto hCtx input).picture input.slot).nDecodeBufIndex ∉ slots := by
      rw [cur]
      exact free
    rcases free_decode_slot_spec free₁ own₁ kept₁ with
      ⟨second, step₂, kept₂, unseen₂, cur₂, calls₂, min₂, out₂, same₂⟩
    rw [cur] at cur₂
    rcases delay_picture_spec kept₂ (room keyOnly) apart
      ⟨inside, by rw [cur₂]; exact own, by rw [cur₂]; exact shaped⟩ with
      ⟨third, step₃, kept₃, same₃, calls₃, min₃, out₃⟩
    have counts : (slots ++ [input.slot]).map (poc third.picture) =
        slots.map (poc hCtx.picture) ++ [input.info.nPoc] := by
      rw [map_append, map_singleton, same₃]
      congr 1
      · apply map_congr_left
        intro other member
        unfold poc
        rw [same₂ other member, same₁ other member]
      · unfold poc
        rw [cur₂]
    have finds₃ : third.pDelayedOutPutPic ≠ none →
        ¬ NothingFound third.nMinDispPoc ((slots ++ [input.slot]).map (poc third.picture)) := by
      intro shown
      rw [counts, min₃, min₂]
      rw [out₃, out₂] at shown
      exact finds shown keyOnly
    rcases choose_and_show kept₃ finds₃ with ⟨next, left, step, kept₄, perm⟩
    refine ⟨next, left, ?_, kept₄, ?_⟩
    · rw [step₂]
      dsimp only [bind_some]
      rw [step₃]
      exact step
    · have whole : outputs third ++ waiting vconfig scaled third.picture (slots ++ [input.slot]) =
          outputs hCtx ++ waiting vconfig scaled hCtx.picture slots ++
            (toShow vconfig scaled input.info).toList := by
        rw [calls₃, calls₂, waiting_append, same₃, unseen₂, waiting_congr same₁, cur₂, append_assoc]
        rfl
      rw [← whole]
      exact perm

end Sorting

variable {vconfig : VConfig} {scaled : Bool} {hCtx : H264Context} {slots : List Nat}

theorem mark_picture_slot (hCtx : H264Context) (slot : Nat) (nReference : Int) (bReturn : Bool) :
    (markPicture hCtx slot nReference bReturn).picture slot =
      { hCtx.picture slot with
        nReference := nReference
        pVPicture := if bReturn = true then none else (hCtx.picture slot).pVPicture } := by
  unfold markPicture H264Context.setPicture H264Context.call
  cases bReturn <;> simp

theorem mark_framed (hCtx : H264Context) (slot : Nat) (nReference : Int) (bReturn : Bool) :
    Framed hCtx (markPicture hCtx slot nReference bReturn) slot := by
  unfold markPicture
  dsimp only
  cases bReturn with
  | true =>
    rw [if_pos rfl]
    exact framed_trans (framed_set _ slot _)
      (framed_trans (framed_call _ _ slot) (framed_set _ slot _))
  | false =>
    rw [if_neg Bool.false_ne_true]
    exact framed_set _ slot _

/-- A delayed picture that gives its own buffer back is shown from the second pool. -/
theorem mark_in_place {slot : Nat} {nReference : Int} {bReturn : Bool}
    (shaped : Shaped scaled (hCtx.picture slot))
    (legal : bReturn = true → (hCtx.picture slot).pScaleDownVPicture ≠ none) :
    Shaped scaled ((markPicture hCtx slot nReference bReturn).picture slot) ∧
      toShow vconfig scaled ((markPicture hCtx slot nReference bReturn).picture slot) =
        toShow vconfig scaled (hCtx.picture slot) := by
  rw [mark_picture_slot]
  cases bReturn with
  | false => exact ⟨shaped, rfl⟩
  | true =>
    cases scaled with
    | true => exact ⟨fun _ => rfl, rfl⟩
    | false => exact absurd shaped (legal rfl)

variable {slot : Nat} {nReference : Int} {bReturn : Bool}

theorem mark_spec (kept : Kept vconfig scaled hCtx slots)
    (legal : bReturn = true → slot ∈ slots → (hCtx.picture slot).pScaleDownVPicture ≠ none) :
    Kept vconfig scaled (markPicture hCtx slot nReference bReturn) slots ∧
      outputs (markPicture hCtx slot nReference bReturn) = outputs hCtx ∧
      waiting vconfig scaled (markPicture hCtx slot nReference bReturn).picture slots =
        waiting vconfig scaled hCtx.picture slots := by
  have framed := mark_framed hCtx slot nReference bReturn
  have quiet : outputs (markPicture hCtx slot nReference bReturn) = outputs hCtx := by
    unfold markPicture
    cases bReturn <;> simp [shownBy]
  by_cases delayed : slot ∈ slots
  · rcases kept.inPlace slot delayed with ⟨inside, own, shaped⟩
    have own' : ((markPicture hCtx slot nReference bReturn).picture slot).nDispBufIndex = slot := by
      rw [mark_picture_slot]
      exact own
    rcases @mark_in_place vconfig scaled hCtx slot nReference bReturn shaped
      (fun release => legal release delayed) with ⟨shaped', unseen⟩
    have rest := framed.rest
    refine ⟨?_, quiet, ?_⟩
    · constructor
      · rw [rest]
        exact kept.mode
      · rw [rest]
        exact kept.table
      · rw [rest]
        exact kept.count
      · exact kept.bound
      · exact kept.distinct
      · intro other member
        by_cases here : other = slot
        · rw [here]
          exact ⟨inside, own', shaped'⟩
        · rw [framed.others other here]
          exact kept.inPlace other member
      · rw [rest]
        exact kept.swept
    · apply filterMap_congr
      intro other member
      by_cases here : other = slot
      · rw [here]
        exact unseen
      · rw [framed.others other here]
  · rcases framed_kept kept framed delayed with ⟨kept', unseen⟩
    exact ⟨kept', quiet, unseen⟩

theorem filter_map_filter {Item Value : Type*} (f : Item → Option Value) (items : List Item) :
    items.filterMap f = (items.filter fun item => (f item).isSome).filterMap f := by
  rw [filterMap_filter]
  apply filterMap_congr
  intro item _
  cases f item <;> simp

theorem segment_order_perm {Item Key : Type*} [LinearOrder Key] (key : Item → Key)
    (cut : Item → Bool) (items : List Item) : (segmentOrder key cut items).Perm items := by
  have sorted : ∀ pieces : List (List Item),
      ((pieces.map (List.insertionSort (KeyLE key))).flatten).Perm pieces.flatten := by
    intro pieces
    induction pieces with
    | nil => exact List.Perm.refl _
    | cons piece rest ih =>
      rw [map_cons, flatten_cons, flatten_cons]
      exact (perm_insertionSort _ piece).append ih
  have whole := sorted (segments cut items)
  rwa [segments_flatten] at whole

/-- The order of a flush with nothing lost behind a struck out picture. -/
def displayOrder (vconfig : VConfig) (scaled : Bool) (picture : Nat → H264PicInfo)
    (slots : List Nat) : List Nat :=
  (segmentOrder (poc picture) (isKeyFrame picture) slots).filterMap
    fun pic => toShow vconfig scaled (picture pic)

theorem display_order_perm (vconfig : VConfig) (scaled : Bool) (picture : Nat → H264PicInfo)
    (slots : List Nat) :
    (displayOrder vconfig scaled picture slots).Perm (waiting vconfig scaled picture slots) :=
  (segment_order_perm _ _ slots).filterMap _

theorem flush_spec (kept : Kept vconfig scaled hCtx slots)
    (nothing : NothingBehind (poc hCtx.picture) (hasBuffer hCtx.picture)
      (fun pic => (toShow vconfig scaled (hCtx.picture pic)).isSome)
      (segments (isKeyFrame hCtx.picture) slots)) :
    ∃ next, H264FlushDelayedPictures vconfig hCtx = some next ∧ Kept vconfig scaled next [] ∧
      outputs next = outputs hCtx ++ displayOrder vconfig scaled hCtx.picture slots := by
  have bound := kept.bound
  have enough : slots.length < MAX_PICTURE_COUNT + 1 := by omega
  rcases flush_loop_spec kept.mode (fun i _ => kept.table i) bound kept.distinct kept.inPlace
    enough with ⟨middle, steps, frame, outs⟩
  have inside : middle.nBufIndexOffset + middle.nMaxValidFrmBufNum ≤ MAX_PICTURE_COUNT := by
    rw [frame]
    exact kept.swept
  rcases @sweep_spec middle.nMaxValidFrmBufNum
    { middle with pDelayedPic := fun _ => none, nDelayedPicNum := 0 } inside with
    ⟨next, swept, frame', quiet⟩
  unfold H264FlushDelayedPictures
  rw [steps]
  refine ⟨next, swept, ?_, ?_⟩
  · constructor
    · rw [frame', frame]
      exact kept.mode
    · intro i
      rw [frame']
      rfl
    · rw [frame']
      rfl
    · exact Nat.lt_of_le_of_lt (Nat.zero_le _) bound
    · exact nodup_nil
    · simp [InPlace]
    · rw [frame', frame]
      exact kept.swept
  · have order := drain_order kept.distinct enough.le nothing
    rw [quiet]
    change outputs middle = _
    rw [outs]
    congr 1
    unfold flushOrder displayOrder
    rw [filter_map_filter, order, ← filter_map_filter]

/-- What every step keeps, with the slots of the delayed pictures. -/
structure Running (vconfig : VConfig) (scaled : Bool) (system : DisplaySystem)
    (slots : List Nat) : Prop where
  kept : Kept vconfig scaled system.hCtx slots
  conserved : (outputs system.hCtx ++
    waiting vconfig scaled system.hCtx.picture slots).Perm system.decoded
  inOrder : ∀ record ∈ system.flushes,
    record.shown = displayOrder vconfig scaled record.picture record.delayed

variable {system : DisplaySystem} (running : Running vconfig scaled system slots)

include running

theorem sort_step {input : SortInput} (legal : Legal vconfig system (.sort input))
    (unbroken : Unbroken vconfig system (.sort input)) :
    ∃ next left, exec vconfig system (.sort input) = some next ∧
      Running vconfig scaled next left := by
  have table := delayed_slots_eq running.kept
  unfold Legal at legal
  unfold Unbroken at unbroken
  rw [table, running.kept.mode, running.kept.count] at legal
  rw [table] at unbroken
  rcases legal with ⟨inside, apart, own, free, shaped, room⟩
  rcases sort_spec running.kept inside apart own free shaped room unbroken with
    ⟨next, left, step, kept, perm⟩
  have conserved := perm.trans (running.conserved.append_right _)
  exact ⟨{ system with
      hCtx := next
      decoded := system.decoded ++ (decodedBuffer vconfig system.hCtx input).toList },
    left, by rw [exec, step]; rfl, kept, conserved, running.inOrder⟩

theorem mark_step (legal : Legal vconfig system (.mark slot nReference bReturn)) :
    ∃ next left, exec vconfig system (.mark slot nReference bReturn) = some next ∧
      Running vconfig scaled next left := by
  unfold Legal at legal
  rw [delayed_slots_eq running.kept] at legal
  rcases mark_spec running.kept legal with ⟨kept, quiet, unseen⟩
  refine ⟨_, slots, rfl, kept, ?_, running.inOrder⟩
  dsimp only
  rw [quiet, unseen]
  exact running.conserved

theorem flush_step (unbroken : Unbroken vconfig system .flush) :
    ∃ next left, exec vconfig system .flush = some next ∧ Running vconfig scaled next left := by
  have table := delayed_slots_eq running.kept
  unfold Unbroken at unbroken
  dsimp only at unbroken
  rw [table, running.kept.mode] at unbroken
  rcases flush_spec running.kept unbroken with ⟨next, step, kept, shown⟩
  refine ⟨_, [], by rw [exec, step]; rfl, kept, ?_, ?_⟩
  · have order := display_order_perm vconfig scaled system.hCtx.picture slots
    dsimp only
    rw [shown, waiting, filterMap_nil, append_nil]
    exact (order.append_left _).trans running.conserved
  · intro record member
    rcases mem_append.mp member with earlier | last
    · exact running.inOrder record earlier
    · rw [mem_singleton.mp last]
      dsimp only
      rw [table, shown, drop_left]

omit running

theorem step_running {op : DisplayOp} (running : ∃ slots, Running vconfig scaled system slots)
    (guard : Legal vconfig system op ∧ Unbroken vconfig system op) :
    ∃ next, exec vconfig system op = some next ∧ ∃ slots, Running vconfig scaled next slots := by
  rcases running with ⟨slots, running⟩
  cases op with
  | sort input =>
    rcases sort_step running guard.1 guard.2 with ⟨next, left, step, running'⟩
    exact ⟨next, step, left, running'⟩
  | mark slot nReference bReturn =>
    rcases mark_step running guard.1 with ⟨next, left, step, running'⟩
    exact ⟨next, step, left, running'⟩
  | flush =>
    rcases flush_step running guard.2 with ⟨next, left, step, running'⟩
    exact ⟨next, step, left, running'⟩

theorem running_contract (running : Running vconfig scaled system slots) :
    DisplayContract vconfig system := by
  have table := delayed_slots_eq running.kept
  have mode := running.kept.mode
  constructor
  · rw [running.kept.count]
    exact running.kept.bound
  · intro i _
    rw [running.kept.table, running.kept.count, ne_eq, List.getElem?_eq_none_iff, not_le]
  · rw [table]
    exact running.kept.distinct
  · rw [table, mode]
    exact running.conserved
  · rw [mode]
    exact running.inOrder

theorem start_running {nMaxValidFrmBufNum nBufIndexOffset : Nat} (vconfig : VConfig)
    (bYv12OutFlag bNv21OutFlag : Int)
    (fits : nBufIndexOffset + nMaxValidFrmBufNum ≤ MAX_PICTURE_COUNT) :
    let start := DisplaySystem.start nMaxValidFrmBufNum nBufIndexOffset bYv12OutFlag bNv21OutFlag
    Running vconfig (scaledOutput vconfig start.hCtx) start [] := by
  dsimp only
  constructor
  · constructor
    · rfl
    · exact fun _ => rfl
    · rfl
    · exact Nat.succ_pos _
    · exact nodup_nil
    · simp [InPlace]
    · exact fits
  · exact List.Perm.refl _
  · simp [DisplaySystem.start]

/-- While no flush strikes out a picture in front of one that is to be shown and
each sort finds a picture, the display order keeps its contract. -/
theorem display_order_contract {nMaxValidFrmBufNum nBufIndexOffset : Nat} (vconfig : VConfig)
    (bYv12OutFlag bNv21OutFlag : Int) (ops : List DisplayOp)
    (fits : nBufIndexOffset + nMaxValidFrmBufNum ≤ MAX_PICTURE_COUNT)
    (legal : StepsMeet (Legal vconfig) (exec vconfig)
      (DisplaySystem.start nMaxValidFrmBufNum nBufIndexOffset bYv12OutFlag bNv21OutFlag) ops)
    (unbroken : StepsMeet (Unbroken vconfig) (exec vconfig)
      (DisplaySystem.start nMaxValidFrmBufNum nBufIndexOffset bYv12OutFlag bNv21OutFlag) ops) :
    ∃ final, runOps (exec vconfig)
        (DisplaySystem.start nMaxValidFrmBufNum nBufIndexOffset bYv12OutFlag bNv21OutFlag) ops =
          some final ∧ DisplayContract vconfig final := by
  have start := start_running vconfig bYv12OutFlag bNv21OutFlag fits
  rcases guarded_run_ends (fun _ _ running guard => step_running running guard) ⟨[], start⟩
    (steps_meet_and legal unbroken) with ⟨final, run, slots, running⟩
  exact ⟨final, run, running_contract running⟩

def decodedPicture (slot : Nat) (nPoc nReference bKeyFrame : Int) (pVPicture : Option Nat) :
    DisplayOp :=
  .sort
    { slot := slot
      info := ⟨nPoc, nReference, bKeyFrame, slot, slot, 0, pVPicture, none, 0, 0,
        if pVPicture = none then 1 else 0⟩
      nPicPocDeltaNum := 2
      nCurFrmNum := 5
      nRefFrmCount := 4
      bDecodeKeyFrameOnly := 0 }

def droppedPictureRun (late : Option Nat) : List DisplayOp :=
  [decodedPicture 0 0 3 1 (some 100), decodedPicture 1 8 3 0 (some 101),
    decodedPicture 2 16 3 0 (some 102), decodedPicture 3 24 3 0 (some 103),
    decodedPicture 4 20 0 0 late, decodedPicture 5 32 3 0 (some 105), .mark 1 0 true, .flush]

theorem buffered_run_contract : ∃ final, runOps (exec ⟨0, 0, 0, 0⟩) (DisplaySystem.start 8 0 0 0)
        (droppedPictureRun (some 104)) = some final ∧ DisplayContract ⟨0, 0, 0, 0⟩ final :=
  display_order_contract ⟨0, 0, 0, 0⟩ 0 0 (droppedPictureRun (some 104)) (by decide)
    (by decide) (by decide)

/-- The flush strikes out the dropped picture and never shows the one behind it. -/
theorem struck_picture_breaks_contract :
    StepsMeet (Legal ⟨0, 0, 0, 0⟩) (exec ⟨0, 0, 0, 0⟩) (DisplaySystem.start 8 0 0 0)
        (droppedPictureRun none) ∧
      ∃ final, runOps (exec ⟨0, 0, 0, 0⟩) (DisplaySystem.start 8 0 0 0) (droppedPictureRun none) =
          some final ∧ delayedSlots final.hCtx = [] ∧ outputs final.hCtx = [100, 101, 102, 103] ∧
        final.decoded = [100, 101, 102, 103, 105] ∧ ¬ DisplayContract ⟨0, 0, 0, 0⟩ final := by
  refine ⟨by decide, ?_⟩
  have observed : (runOps (exec ⟨0, 0, 0, 0⟩) (DisplaySystem.start 8 0 0 0)
      (droppedPictureRun none)).map (fun final =>
        (delayedSlots final.hCtx, outputs final.hCtx, final.decoded)) =
      some ([], [100, 101, 102, 103], [100, 101, 102, 103, 105]) := by
    decide
  obtain ⟨final, run, data⟩ := map_eq_some_iff.mp observed
  simp only [Prod.mk.injEq] at data
  rcases data with ⟨delayed, shown, decoded⟩
  refine ⟨final, run, delayed, shown, decoded, ?_⟩
  intro contract
  have conserved := contract.conserved.length_eq
  rw [delayed, shown, decoded] at conserved
  simp at conserved

end CedarC.H264DisplayOrderRuns
