import CedarC.H264SlotInvariant

/-!
# Runs of the entry choice

The display order, flushes and resets keep the invariant of the entries, so that in every run
under the guard each entry that was chosen was a free one.
-/

namespace CedarC.H264SlotRuns

open GuardedRuns H264FlushOrder H264DisplayOrder
open CedarC.H264DisplayOrderRuns hiding Running exec step_running start_running
open H264SlotAllocation H264SlotInvariant List Option

section Sorting

variable {vconfig : VConfig} {number first : Nat} {hCtx next : H264Context} {slots : List Nat}
  {cur pic index : Nat}

theorem seated_in_table {pic : H264PicInfo} (arranged : Arranged number first)
    (seated : Seated number first cur pic) : cur < MAX_PICTURE_COUNT := by
  have high := seated.high
  unfold Arranged MAX_PICTURE_COUNT at arranged
  unfold MAX_PICTURE_COUNT
  omega

variable (sound : Sound number first hCtx slots none)

include sound

theorem key_frame_sound
    (arranged : Arranged number first) (seated : Seated number first cur (hCtx.picture cur))
    (apart : cur ∉ slots) (shown : showKeyFrame vconfig hCtx cur = some next) :
    Sound number first next slots none := by
  have inside := seated_in_table arranged seated
  rcases show_key_frame_spec rfl seated.disp inside with ⟨other, step, framed, _⟩
  obtain rfl : next = other := Option.some.inj (shown.symm.trans step)
  have outside : ¬ MAX_PICTURE_COUNT ≤ cur := by omega
  have marks : (next.picture cur).nReference = 0 ∧ (next.picture cur).nDispBufIndex = cur := by
    unfold showKeyFrame at shown
    dsimp only at shown
    rw [seated.disp, if_neg outside, if_neg outside] at shown
    split_ifs at shown
    all_goals
      rw [← Option.some.inj shown]
      simp only [set_picture_same, H264Context.call, seated.disp, and_self]
  apply sound_idle sound framed apart (some_ne_none cur).symm
  · exact unreferenced_zero marks.1
  · exact fun _ => marks.2
  · rintro rfl _
    exact marks.2

theorem free_sound
    (arranged : Arranged number first) (seated : Seated number first cur (hCtx.picture cur))
    (freed : freeDecodeSlot hCtx cur = some next) :
    Sound number first next slots none ∧ next.picture cur = hCtx.picture cur := by
  have decode := seated.decode
  unfold freeDecodeSlot at freed
  dsimp only at freed
  rw [seated.disp, decode] at freed
  by_cases small : cur < 18
  · rw [if_pos small, if_neg (not_not.mpr rfl)] at freed
    rw [← Option.some.inj freed]
    exact ⟨sound, rfl⟩
  · have high := seated.high
    have many : 18 ≤ number := by
      unfold Arranged at arranged
      omega
    rw [if_neg small, if_pos (by omega), if_neg (by decide)] at freed
    have same := set_picture_same hCtx 0 fun pic =>
      { pic with pVPicture := none, pScaleDownVPicture := none, nReference := 0 }
    have framed := framed_set hCtx 0 fun pic =>
      { pic with pVPicture := none, pScaleDownVPicture := none, nReference := 0 }
    rw [Option.some.inj freed] at same framed
    constructor
    · apply sound_copied sound many framed
      · rw [same]
      · rw [same]
        exact fun _ => rfl
    · exact framed.others cur (by omega)

theorem delay_sound (waits : Waiting number first cur (hCtx.picture cur)) (apart : cur ∉ slots)
    (delayed : delayPicture hCtx cur = some next) :
    Sound number first next (slots ++ [cur]) none := by
  unfold delayPicture at delayed
  dsimp only at delayed
  rw [sound.count] at delayed
  split_ifs at delayed with full last
  rw [← Option.some.inj delayed]
  constructor
  · exact sound.numbered
  · exact sound.started
  · exact delay_table cur sound.table
  · dsimp only
    rw [length_append, length_singleton]
  · rw [length_append, length_singleton]
    exact Nat.lt_of_not_le last
  · exact delay_distinct sound.distinct apart
  · intro pic member
    rcases mem_append.mp member with front | back
    · exact sound.delayed pic front
    · rw [mem_singleton.mp back]
      exact waits
  · exact sound.referred
  · exact fun _ none => (nomatch none)
  · exact sound.own
  · exact sound.zero

omit sound

/-- What a picture keeps when it is shown: its indices, and its buffer while it is a reference. -/
structure Displayed (before after : H264PicInfo) : Prop where
  decode : after.nDecodeBufIndex = before.nDecodeBufIndex
  disp : after.nDispBufIndex = before.nDispBufIndex
  marks : unreferenced after = false →
    unreferenced before = false ∧ after.pVPicture = before.pVPicture

theorem show_displayed (own : (hCtx.picture pic).nDispBufIndex = pic)
    (shown : showPicture vconfig hCtx pic = some next) :
    Displayed (hCtx.picture pic) (next.picture pic) := by
  have same := set_picture_same hCtx pic fun pic => { pic with bHasDispedFlag := 1 }
  have idle : ∀ info : H264PicInfo, unreferenced { info with bHasDispedFlag := 1 } = false →
      unreferenced info = false := fun _ => id
  unfold showPicture at shown
  dsimp only at shown
  generalize (hCtx.setPicture pic fun pic => { pic with bHasDispedFlag := 1 }) = flagged
    at same shown
  have displayed : Displayed (flagged.picture pic) (next.picture pic) := by
    have own' : (flagged.picture pic).nDispBufIndex = pic := by
      rw [same]
      exact own
    by_cases scaled : scaledOutput vconfig flagged = true
    · rw [if_pos scaled] at shown
      unfold showScaled at shown
      dsimp only at shown
      rw [own'] at shown
      split_ifs at shown
      · rw [← Option.some.inj shown]
        simp only [set_picture_same, H264Context.call]
        exact ⟨rfl, rfl, fun refers => absurd refers.symm Bool.false_ne_true⟩
      · rw [← Option.some.inj shown]
        simp only [set_picture_same, H264Context.call]
        exact ⟨rfl, rfl, fun refers => ⟨refers, rfl⟩⟩
    · rw [if_neg scaled] at shown
      unfold showUnscaled at shown
      dsimp only at shown
      rw [own'] at shown
      by_cases last : unreferenced (flagged.picture pic) = true
      · rw [if_pos last] at shown
        split_ifs at shown
        · rw [← Option.some.inj shown]
          simp only [set_picture_same, H264Context.call]
          exact ⟨rfl, rfl, fun refers => absurd refers.symm Bool.false_ne_true⟩
        · rw [← Option.some.inj shown]
          simp only [set_picture_same]
          exact ⟨rfl, rfl, fun refers => absurd refers.symm Bool.false_ne_true⟩
      · rw [if_neg last] at shown
        have kept : next.picture = flagged.picture := by
          split_ifs at shown
          · cases buffer : (flagged.picture pic).pVPicture with
            | none =>
              rw [buffer] at shown
              rw [← Option.some.inj shown]
            | some pVPicture =>
              rw [buffer] at shown
              rw [← Option.some.inj shown]
              rfl
          · rw [← Option.some.inj shown]
        rw [kept]
        exact ⟨rfl, rfl, fun refers => ⟨refers, rfl⟩⟩
  rw [same] at displayed
  exact ⟨displayed.decode, displayed.disp, fun refers =>
    ⟨idle _ (displayed.marks refers).1, (displayed.marks refers).2⟩⟩

theorem remove_displayed (removed : removeDelayed hCtx pic index = some next) :
    Displayed (hCtx.picture pic) (next.picture pic) := by
  unfold removeDelayed at removed
  rcases map_eq_some_iff.mp removed with ⟨table, _, there⟩
  dsimp only at there
  rw [← there]
  by_cases dropped : (hCtx.picture pic).bDropBFrame = 1
  · rw [if_pos dropped, set_picture_same]
    exact ⟨rfl, rfl, fun refers => ⟨refers, rfl⟩⟩
  · rw [if_neg dropped]
    exact ⟨rfl, rfl, fun refers => ⟨refers, rfl⟩⟩

variable (sound : Sound number first hCtx slots none)

include sound

theorem chosen_place {search : Search}
    (searched : searchDelayed hCtx hCtx.nDelayedPicNum = some search)
    (chosen : chooseOutput hCtx search = some (.output pic index)) : slots[index]? = some pic := by
  have listed : Listed hCtx.pDelayedPic slots := fun i _ => sound.table i
  rcases @search_delayed_spec hCtx slots slots.length listed (Nat.le_refl _) with
    ⟨other, steps, found⟩
  rw [sound.count] at searched
  obtain rfl : search = other := Option.some.inj (searched.symm.trans steps)
  have something : hCtx.pDelayedOutPutPic ≠ none → search.outPicInf ≠ none := by
    intro earlier nothing
    unfold chooseOutput at chosen
    rw [nothing] at chosen
    cases out : hCtx.pDelayedOutPutPic with
    | none => exact earlier out
    | some _ =>
      rw [out] at chosen
      exact nomatch chosen
  rcases choose_output_spec listed found sound.bound something with ⟨choice, same, place⟩
  exact place pic index (Option.some.inj (same.symm.trans chosen))

theorem output_sound {shown : H264Context} (arranged : Arranged number first)
    (place : slots[index]? = some pic) (step : showPicture vconfig hCtx pic = some shown)
    (removed : removeDelayed shown pic index = some next) :
    Sound number first next (slots.eraseIdx index) none := by
  have inside := (List.getElem?_eq_some_iff.mp place).1
  have gone := erased_gone sound.distinct place
  have waits := sound.delayed pic (mem_of_getElem? place)
  have seated := waits.toSeated
  rcases show_picture_spec rfl seated.disp (seated_in_table arranged seated) with
    ⟨other, again, framed, _⟩
  obtain rfl : shown = other := Option.some.inj (step.symm.trans again)
  have rest := framed.rest
  have table : ∀ i, shown.pDelayedPic i = slots[i]? := by
    intro i
    rw [rest]
    exact sound.table i
  have count : shown.nDelayedPicNum = slots.length := by
    rw [rest]
    exact sound.count
  rcases @remove_delayed_spec vconfig shown slots pic index table count sound.bound inside with
    ⟨last, again', table', count', others, _, offset, size, _⟩
  obtain rfl : next = last := Option.some.inj (removed.symm.trans again')
  have before := show_displayed seated.disp step
  have after := remove_displayed removed
  have same : ∀ other, other ≠ pic → next.picture other = hCtx.picture other := by
    intro other apart
    rw [others other apart, framed.others other apart]
  have seated' : Seated number first pic (next.picture pic) :=
    ⟨seated.low, seated.high, seated.late, (after.decode.trans before.decode).trans seated.decode,
      (after.disp.trans before.disp).trans seated.disp⟩
  have shorter := length_eraseIdx_of_lt inside
  have bound := sound.bound
  constructor
  · rw [size, rest]
    exact sound.numbered
  · rw [offset, rest]
    exact sound.started
  · exact table'
  · rw [count', shorter]
  · omega
  · exact sound.distinct.sublist (eraseIdx_sublist _ _)
  · intro other member
    have apart : other ≠ pic := fun here => gone (here ▸ member)
    rw [same other apart]
    exact sound.delayed other (mem_of_mem_eraseIdx member)
  · intro i refers
    by_cases here : i = pic
    · rw [here] at refers ⊢
      rcases after.marks refers with ⟨refers', kept⟩
      rcases before.marks refers' with ⟨refers'', kept'⟩
      refine ⟨seated', ?_, (sound.referred pic refers'').early⟩
      apply decide_eq_false
      rw [kept, kept']
      exact fun bare => waits.backed refers'' bare.1
    · rw [same i here] at refers ⊢
      exact sound.referred i refers
  · exact fun _ none => (nomatch none)
  · intro i buffered
    by_cases here : i = pic
    · rw [here]
      exact seated'.disp
    · rw [same i here] at buffered ⊢
      exact sound.own i buffered
  · intro many
    by_cases here : 0 = pic
    · have late := seated.late many
      omega
    · rw [same 0 here]
      exact sound.zero many

/-- A sort keeps the invariant, with the picture that it was called for delayed or shown. -/
theorem sort_sound {bDecodeKeyFrameOnly : Int} (arranged : Arranged number first)
    (here : hCtx.pCurPicturePtr = some cur) (apart : cur ∉ slots)
    (seated : Seated number first cur (hCtx.picture cur))
    (waits : bDecodeKeyFrameOnly ≠ 1 → Waiting number first cur (hCtx.picture cur))
    (sorted : H264SortDisplayFrameOrder vconfig hCtx bDecodeKeyFrameOnly = some next) :
    ∃ left, Sound number first next left none := by
  unfold H264SortDisplayFrameOrder at sorted
  rw [here] at sorted
  dsimp only at sorted
  by_cases keyOnly : bDecodeKeyFrameOnly = 1
  · rw [if_pos keyOnly] at sorted
    exact ⟨slots, key_frame_sound sound arranged seated apart sorted⟩
  · rw [if_neg keyOnly] at sorted
    rcases bind_eq_some_iff.mp sorted with ⟨second, freed, sorted⟩
    rcases bind_eq_some_iff.mp sorted with ⟨third, delayed, sorted⟩
    rcases bind_eq_some_iff.mp sorted with ⟨search, searched, sorted⟩
    rcases bind_eq_some_iff.mp sorted with ⟨choice, chosen, sorted⟩
    rcases free_sound sound arranged seated freed with ⟨sound₂, same⟩
    have waits₂ : Waiting number first cur (second.picture cur) := by
      rw [same]
      exact waits keyOnly
    have sound₃ := delay_sound sound₂ waits₂ apart delayed
    cases choice with
    | wait nMinDispPoc =>
      rw [← Option.some.inj sorted]
      exact ⟨_, sound_congr sound₃ rfl rfl rfl rfl rfl⟩
    | nothing =>
      rw [← Option.some.inj sorted]
      exact ⟨_, sound₃⟩
    | output pic index =>
      rcases bind_eq_some_iff.mp sorted with ⟨shown, step, removed⟩
      exact ⟨_, output_sound sound₃ arranged (chosen_place sound₃ searched chosen) step removed⟩

end Sorting

section Dropping

variable {vconfig : VConfig} {number first : Nat} {hCtx : H264Context} {slots : List Nat}

/-- A dropped picture has no buffer, and the choice of an entry leaves it out. -/
theorem drop_spec {cur : Nat} (decode : (hCtx.picture cur).nDecodeBufIndex = cur)
    (disp : (hCtx.picture cur).nDispBufIndex = cur) :
    Framed hCtx (dropPicture hCtx cur) cur ∧ ∃ pVPicture pScaleDownVPicture,
      (dropPicture hCtx cur).picture cur = { hCtx.picture cur with
        pVPicture := pVPicture, pScaleDownVPicture := pScaleDownVPicture, bDropBFrame := 1 } := by
  unfold dropPicture
  dsimp only
  rw [decode, disp]
  by_cases scaled : (hCtx.picture cur).pScaleDownVPicture ≠ none
  · rw [if_pos scaled]
    constructor
    · exact framed_trans (framed_call _ _ cur) (framed_trans (framed_set _ cur _)
        (framed_trans (framed_set _ cur _) (framed_set _ cur _)))
    · refine ⟨(hCtx.picture cur).pVPicture, none, ?_⟩
      simp only [set_picture_same, H264Context.call, decode, disp]
  · rw [if_neg scaled]
    constructor
    · exact framed_trans (framed_call _ _ cur) (framed_trans (framed_set _ cur _)
        (framed_trans (framed_set _ cur _) (framed_set _ cur _)))
    · refine ⟨none, (hCtx.picture cur).pScaleDownVPicture, ?_⟩
      simp only [set_picture_same, H264Context.call, decode, disp]

theorem drop_sound {cur : Nat} (sound : Sound number first hCtx slots (some cur))
    (arranged : Arranged number first) (few : number < 18)
    (idle : (hCtx.picture cur).nReference = 0) :
    Sound number first (dropPicture hCtx cur) slots none ∧
      Waiting number first cur ((dropPicture hCtx cur).picture cur) := by
  rcases sound.current cur rfl with ⟨apart, held⟩
  have small : cur < 18 := by
    have high := held.high
    unfold Arranged at arranged
    omega
  have decode := held.decode
  rw [if_pos small] at decode
  rcases drop_spec decode held.disp with ⟨framed, pVPicture, pScaleDownVPicture, same⟩
  have marks : unreferenced ((dropPicture hCtx cur).picture cur) = true := by
    apply unreferenced_zero
    rw [same]
    exact idle
  have seated : Seated number first cur ((dropPicture hCtx cur).picture cur) := by
    rw [same]
    exact ⟨held.low, held.high, held.late, held.decode, held.disp⟩
  constructor
  · apply sound_idle (sound_abandon sound) framed apart (fun here => (nomatch here)) marks
    · exact fun _ => seated.disp
    · rintro rfl _
      exact seated.disp
  · refine ⟨seated, ?_, ?_, ?_⟩
    · rw [same]
      exact held.undisplayed
    · rw [same]
      exact fun _ => ⟨few, rfl⟩
    · intro refers
      rw [marks] at refers
      exact absurd refers.symm Bool.false_ne_true

end Dropping

section Flushing

variable {vconfig : VConfig} {number first : Nat} {hCtx next : H264Context} {slots : List Nat}

/-- What a flush does to a picture: its indices stay, its buffer and its marks stay or go. -/
structure Drained (before after : H264PicInfo) : Prop where
  decode : after.nDecodeBufIndex = before.nDecodeBufIndex
  disp : after.nDispBufIndex = before.nDispBufIndex
  buffer : after.pVPicture = before.pVPicture ∨ after.pVPicture = none
  marks : after.nReference = before.nReference ∨ after.nReference = 0

structure Emptied (before after : H264Context) : Prop where
  numbered : after.nMaxValidFrmBufNum = before.nMaxValidFrmBufNum
  started : after.nBufIndexOffset = before.nBufIndexOffset
  drained : ∀ i, Drained (before.picture i) (after.picture i)

theorem drained_refl (pic : H264PicInfo) : Drained pic pic := ⟨rfl, rfl, Or.inl rfl, Or.inl rfl⟩

theorem drained_trans {before middle after : H264PicInfo} (left : Drained before middle)
    (right : Drained middle after) : Drained before after := by
  constructor
  · exact right.decode.trans left.decode
  · exact right.disp.trans left.disp
  · rcases right.buffer with same | none
    · rw [same]
      exact left.buffer
    · exact Or.inr none
  · rcases right.marks with same | zero
    · rw [same]
      exact left.marks
    · exact Or.inr zero

theorem emptied_refl (hCtx : H264Context) : Emptied hCtx hCtx :=
  ⟨rfl, rfl, fun i => drained_refl (hCtx.picture i)⟩

theorem emptied_trans {before middle after : H264Context} (left : Emptied before middle)
    (right : Emptied middle after) : Emptied before after :=
  ⟨right.numbered.trans left.numbered, right.started.trans left.started,
    fun i => drained_trans (left.drained i) (right.drained i)⟩

theorem emptied_call (hCtx : H264Context) (fbmCall : FbmCall) : Emptied hCtx (hCtx.call fbmCall) :=
  ⟨rfl, rfl, fun i => drained_refl (hCtx.picture i)⟩

theorem emptied_set {change : H264PicInfo → H264PicInfo}
    (drains : ∀ pic, Drained pic (change pic)) (hCtx : H264Context) (index : Nat) :
    Emptied hCtx (hCtx.setPicture index change) := by
  refine ⟨rfl, rfl, ?_⟩
  intro i
  by_cases same : i = index
  · rw [same, set_picture_same]
    exact drains _
  · rw [set_picture_other same]
    exact drained_refl _

theorem flush_picture_emptied {outPicPtr : Nat}
    (flushed : flushPicture vconfig hCtx outPicPtr = some next) : Emptied hCtx next := by
  have scaled : ∀ pic : H264PicInfo, Drained pic { pic with pScaleDownVPicture := none } :=
    fun _ => ⟨rfl, rfl, Or.inl rfl, Or.inl rfl⟩
  have own : ∀ pic : H264PicInfo, Drained pic { pic with pVPicture := none } :=
    fun _ => ⟨rfl, rfl, Or.inr rfl, Or.inl rfl⟩
  unfold flushPicture at flushed
  dsimp only at flushed
  split_ifs at flushed
  · rw [← Option.some.inj flushed]
    exact emptied_trans (emptied_call _ _)
      (emptied_trans (emptied_set scaled _ _) (emptied_set scaled _ _))
  · rw [← Option.some.inj flushed]
    exact emptied_trans (emptied_call _ _)
      (emptied_trans (emptied_set own _ _) (emptied_set own _ _))
  · rw [← Option.some.inj flushed]
    exact emptied_refl hCtx

theorem flush_loop_emptied {turns : Nat} (flushed : flushLoop vconfig turns hCtx = some next) :
    Emptied hCtx next := by
  induction turns generalizing hCtx with
  | zero => exact nomatch flushed
  | succ turns ih =>
    rw [flushLoop] at flushed
    cases front : hCtx.pDelayedPic 0 with
    | none =>
      rw [front] at flushed
      rw [← Option.some.inj flushed]
      exact emptied_refl hCtx
    | some head =>
      rw [front] at flushed
      rcases bind_eq_some_iff.mp flushed with ⟨found, _, flushed⟩
      rcases bind_eq_some_iff.mp flushed with ⟨table, _, flushed⟩
      rcases bind_eq_some_iff.mp flushed with ⟨shown, step, later⟩
      have moved : Emptied hCtx { hCtx with pDelayedPic := table } :=
        ⟨rfl, rfl, fun i => drained_refl (hCtx.picture i)⟩
      exact emptied_trans moved (emptied_trans (flush_picture_emptied step) (ih later))

theorem sweep_picture_emptied {i : Nat} (swept : sweepPicture hCtx i = some next) :
    Emptied hCtx next ∧ next.pDelayedPic = hCtx.pDelayedPic ∧
      next.nDelayedPicNum = hCtx.nDelayedPicNum ∧ (next.picture i).nReference = 0 := by
  have drains : ∀ pic : H264PicInfo, Drained pic { pic with
      pVPicture := none, pScaleDownVPicture := none, nReference := 0, nDecFrameOrder := 0 } :=
    fun _ => ⟨rfl, rfl, Or.inr rfl, Or.inr rfl⟩
  unfold sweepPicture at swept
  dsimp only at swept
  split_ifs at swept
  · rw [← Option.some.inj swept, set_picture_same]
    exact ⟨emptied_trans (emptied_call _ _) (emptied_trans (emptied_call _ _)
      (emptied_set drains _ _)), rfl, rfl, rfl⟩
  · rw [← Option.some.inj swept, set_picture_same]
    exact ⟨emptied_trans (emptied_call _ _) (emptied_set drains _ _), rfl, rfl, rfl⟩
  · rw [← Option.some.inj swept, set_picture_same]
    exact ⟨emptied_trans (emptied_call _ _) (emptied_set drains _ _), rfl, rfl, rfl⟩
  · rw [← Option.some.inj swept, set_picture_same]
    exact ⟨emptied_set drains _ _, rfl, rfl, rfl⟩

theorem sweep_emptied {count : Nat} (swept : sweepPictures hCtx count = some next) :
    Emptied hCtx next ∧ next.pDelayedPic = hCtx.pDelayedPic ∧
      next.nDelayedPicNum = hCtx.nDelayedPicNum ∧
      ∀ i, hCtx.nBufIndexOffset ≤ i → i < hCtx.nBufIndexOffset + count →
        (next.picture i).nReference = 0 := by
  induction count generalizing next with
  | zero =>
    rw [← Option.some.inj swept]
    refine ⟨emptied_refl hCtx, rfl, rfl, ?_⟩
    intro i low high
    omega
  | succ count ih =>
    rw [sweepPictures] at swept
    rcases bind_eq_some_iff.mp swept with ⟨middle, earlier, step⟩
    rcases ih earlier with ⟨emptied, table, size, marks⟩
    rcases sweep_picture_emptied step with ⟨emptied', table', size', last⟩
    refine ⟨emptied_trans emptied emptied', table'.trans table, size'.trans size, ?_⟩
    intro i low high
    by_cases here : i = hCtx.nBufIndexOffset + count
    · rw [here]
      exact last
    · rcases (emptied'.drained i).marks with same | zero
      · rw [same]
        exact marks i low (by omega)
      · exact zero

theorem flush_sound {current : Option Nat} (sound : Sound number first hCtx slots current)
    (flushed : H264FlushDelayedPictures vconfig hCtx = some next) :
    Sound number first next [] none ∧ next.pDelayedPic = fun _ => none := by
  rcases bind_eq_some_iff.mp flushed with ⟨shown, loop, sweep⟩
  have emptied := flush_loop_emptied loop
  rcases sweep_emptied sweep with ⟨emptied', table, size, marks⟩
  have whole : Emptied hCtx next := by
    apply emptied_trans _ emptied'
    exact ⟨emptied.numbered, emptied.started, emptied.drained⟩
  have idle : ∀ i, unreferenced (next.picture i) = true := by
    intro i
    by_contra refers
    have kept : unreferenced (hCtx.picture i) = false := by
      rcases (whole.drained i).marks with same | zero
      · have refers' := eq_false_of_ne_true refers
        unfold unreferenced at refers' ⊢
        rw [← same]
        exact refers'
      · exact absurd (unreferenced_zero zero) refers
    have referred := sound.referred i kept
    apply refers
    apply unreferenced_zero
    apply marks i
    · have low := referred.low
      rw [← sound.started, ← emptied.started] at low
      exact low
    · have high := referred.high
      rw [← sound.started, ← sound.numbered, ← emptied.started, ← emptied.numbered] at high
      exact high
  refine ⟨?_, table⟩
  constructor
  · exact whole.numbered.trans sound.numbered
  · exact whole.started.trans sound.started
  · intro i
    rw [table]
    rfl
  · exact size
  · exact Nat.succ_pos _
  · exact nodup_nil
  · intro pic member
    exact absurd member not_mem_nil
  · intro i refers
    rw [idle i] at refers
    exact absurd refers.symm Bool.false_ne_true
  · exact fun _ none => (nomatch none)
  · intro i buffered
    rw [(whole.drained i).disp]
    apply sound.own
    rcases (whole.drained i).buffer with same | none
    · rw [← same]
      exact buffered
    · exact absurd none buffered
  · intro many
    rw [(whole.drained 0).disp]
    exact sound.zero many

theorem lose_option_sound (sound : Sound number first hCtx [] none) (pic : Option Nat) :
    Sound number first (pic.elim hCtx (loseReference hCtx)) [] none := by
  cases pic with
  | none => exact sound
  | some pic => exact lose_sound sound not_mem_nil

theorem reset_sound (sound : Sound number first hCtx [] none)
    (table : hCtx.pDelayedPic = fun _ => none) (refs : List Nat) :
    Sound number first (H264ResetDecoderParams hCtx refs) [] none := by
  have nothing : ∀ indices : List Nat, indices.foldl
      (fun hCtx i => (H264Context.pDelayedPic hCtx i).elim hCtx (loseReference hCtx)) hCtx =
        hCtx := by
    intro indices
    induction indices with
    | nil => rfl
    | cons i indices ih =>
      rw [foldl_cons, table]
      exact ih
  unfold H264ResetDecoderParams
  rw [nothing]
  dsimp only
  have sound₁ := lose_option_sound sound hCtx.pDelayedOutPutPic
  generalize hCtx.pDelayedOutPutPic.elim hCtx (loseReference hCtx) = second at sound₁ ⊢
  have sound₂ := lose_option_sound sound₁ second.pCurPicturePtr
  generalize second.pCurPicturePtr.elim second (loseReference second) = third at sound₂ ⊢
  have sound₃ := unreferences_sound refs sound₂
  generalize refs.foldl (fun hCtx pic => H264UnnReferencePic hCtx pic 0) third = last at sound₃ ⊢
  exact sound_congr sound₃ rfl rfl rfl sound₃.count.symm rfl

end Flushing

variable {vconfig : VConfig} {number first : Nat} {system next : SlotSystem} {slots : List Nat}

theorem running_current {cur : Nat} (running : Running number first system slots)
    (decoding : system.decoding = true) (here : system.hCtx.pCurPicturePtr = some cur) :
    Sound number first system.hCtx slots (some cur) := by
  have sound := running.sound
  unfold decodingPicture at sound
  rw [if_pos decoding, here] at sound
  exact sound

theorem mark_running {nPicStructure : H264RefMarking.PicStructure}
    (running : Running number first system slots) (meets : SlotGuard system (.mark nPicStructure))
    (step : exec vconfig system (.mark nPicStructure) = some next) :
    Running number first next slots := by
  rcases map_eq_some_iff.mp step with ⟨cur, here, there⟩
  have sound := running_current running meets.1 here
  have low : 18 ≤ number → cur < 18 := by
    rw [← sound.numbered]
    exact (meets.2 cur here).1
  rw [← there]
  refine ⟨?_, running.right⟩
  unfold decodingPicture
  rw [if_pos meets.1]
  change Sound number first _ slots system.hCtx.pCurPicturePtr
  rw [here]
  exact mark_sound sound low

theorem sort_running {input : FinishInput} (arranged : Arranged number first)
    (running : Running number first system slots) (meets : SlotGuard system (.sort input))
    (step : exec vconfig system (.sort input) = some next) :
    ∃ left, Running number first next left := by
  rcases bind_eq_some_iff.mp step with ⟨cur, here, step⟩
  rcases map_eq_some_iff.mp step with ⟨sorted, sort, there⟩
  have sound := finish_sound (running_current running meets.1 here) cur input
  rcases sound.current cur rfl with ⟨apart, held⟩
  have backed : input.bDecodeKeyFrameOnly ≠ 1 → Waiting number first cur
      ((finishPicture system.hCtx cur input).picture cur) := by
    intro whole
    refine ⟨held.toSeated, held.undisplayed, ?_, ?_⟩
    · intro bare
      rw [held.held] at bare
      exact absurd bare Bool.false_ne_true
    · have before := meets.2 whole cur here
      have same : (finishPicture system.hCtx cur input).picture cur =
          { system.hCtx.picture cur with
            nPoc := input.nPoc
            bDecErrorFlag := input.bDecErrorFlag
            nDecFrameOrder := system.hCtx.nCurFrmNum } := by
        unfold finishPicture
        dsimp only
        rw [set_picture_same]
      rw [same]
      exact before
  rcases sort_sound (sound_abandon sound) arranged here apart held.toSeated backed sort with
    ⟨left, sound'⟩
  rw [← there]
  exact ⟨left, sound', running.right⟩

theorem drop_running {nPoc bDecodeKeyFrameOnly : Int} (arranged : Arranged number first)
    (running : Running number first system slots)
    (meets : SlotGuard system (.dropB nPoc bDecodeKeyFrameOnly))
    (step : exec vconfig system (.dropB nPoc bDecodeKeyFrameOnly) = some next) :
    ∃ left, Running number first next left := by
  rcases bind_eq_some_iff.mp step with ⟨cur, here, step⟩
  have sound := running_current running meets.1 here
  have few := meets.2
  rw [sound.numbered] at few
  dsimp only at step
  split_ifs at step with idle
  rcases map_eq_some_iff.mp step with ⟨sorted, sort, there⟩
  have quiet : ∀ info : H264PicInfo, Alike info { info with nPoc := nPoc } := fun _ => rfl
  have counted : Sound number first
      (system.hCtx.setPicture cur fun pic => { pic with nPoc := nPoc }) slots (some cur) := sound_alike sound rfl rfl rfl rfl (set_alike quiet cur)
  have same := set_picture_same system.hCtx cur fun pic => { pic with nPoc := nPoc }
  have current : (system.hCtx.setPicture cur fun pic => { pic with nPoc := nPoc }).pCurPicturePtr =
      some cur := here
  generalize (system.hCtx.setPicture cur fun pic => { pic with nPoc := nPoc }) = second
    at counted same current sort
  have marks : (second.picture cur).nReference = 0 := by
    rw [same]
    exact not_not.mp idle
  rcases drop_sound counted arranged few marks with ⟨sound', waits⟩
  have apart := (counted.current cur rfl).1
  have kept : (dropPicture second cur).pCurPicturePtr = some cur := by
    rw [← current]
    unfold dropPicture
    dsimp only
    split_ifs
    · rfl
    · rfl
  rcases sort_sound sound' arranged kept apart waits.toSeated (fun _ => waits) sort with
    ⟨left, sound''⟩
  rw [← there]
  exact ⟨left, sound'', running.right⟩

theorem unreference_current (hCtx : H264Context) (pic refmask : Nat) :
    (H264UnnReferencePic hCtx pic refmask).pCurPicturePtr = hCtx.pCurPicturePtr := by
  unfold H264UnnReferencePic returnUnreferenced
  dsimp only
  split_ifs
  all_goals rfl

theorem reclaim_current (hCtx : H264Context) (pic : Nat) :
    (reclaimPicture hCtx pic).pCurPicturePtr = hCtx.pCurPicturePtr := by
  unfold reclaimPicture
  dsimp only
  split_ifs
  all_goals rfl

theorem reclaim_running {pic : Nat} (running : Running number first system slots)
    (meets : SlotGuard system (.reclaim pic)) :
    Running number first { system with hCtx := reclaimPicture system.hCtx pic } slots := by
  have apart := meets.1
  rw [delayed_slots_sound running.sound] at apart
  have other : decodingPicture system ≠ some pic := by
    unfold decodingPicture
    by_cases decoding : system.decoding = true
    · rw [if_pos decoding]
      exact meets.2 decoding
    · rw [if_neg decoding]
      exact fun none => (nomatch none)
  have sound := reclaim_sound running.sound apart other
  refine ⟨?_, running.right⟩
  unfold decodingPicture at sound ⊢
  dsimp only
  rw [reclaim_current]
  exact sound

theorem step_running {op : SlotOp} (arranged : Arranged number first)
    (running : ∃ slots, Running number first system slots) (meets : SlotGuard system op)
    (step : exec vconfig system op = some next) : ∃ slots, Running number first next slots := by
  rcases running with ⟨slots, running⟩
  cases op with
  | sps nRefFrmCount =>
    rw [← Option.some.inj step]
    exact ⟨slots, sound_congr running.sound rfl rfl rfl rfl rfl, running.right⟩
  | frameStart frame =>
    rw [← Option.some.inj step]
    exact ⟨slots, frame_start_running arranged running meets⟩
  | mark nPicStructure => exact ⟨slots, mark_running running meets step⟩
  | unreference pic refmask =>
    rw [← Option.some.inj step]
    have sound := unreference_sound running.sound pic refmask
    refine ⟨slots, ?_, running.right⟩
    unfold decodingPicture at sound ⊢
    dsimp only
    rw [unreference_current]
    exact sound
  | sort input => exact sort_running arranged running meets step
  | dropB nPoc bDecodeKeyFrameOnly => exact drop_running arranged running meets step
  | reclaim pic =>
    rw [← Option.some.inj step]
    exact ⟨slots, reclaim_running running meets⟩
  | flush =>
    rcases map_eq_some_iff.mp step with ⟨flushed, flush, there⟩
    rw [← there]
    exact ⟨[], (flush_sound running.sound flush).1, running.right⟩
  | reset refs =>
    rcases map_eq_some_iff.mp step with ⟨flushed, flush, there⟩
    rcases flush_sound running.sound flush with ⟨sound, table⟩
    rw [← there]
    exact ⟨[], reset_sound sound table refs, running.right⟩

theorem start_running {nMaxValidFrmBufNum nBufIndexOffset : Nat} (bYv12OutFlag bNv21OutFlag : Int) :
    Running nMaxValidFrmBufNum nBufIndexOffset
      (SlotSystem.start nMaxValidFrmBufNum nBufIndexOffset bYv12OutFlag bNv21OutFlag) [] := by
  constructor
  · constructor
    · rfl
    · rfl
    · exact fun _ => rfl
    · rfl
    · exact Nat.succ_pos _
    · exact nodup_nil
    · exact fun _ member => absurd member not_mem_nil
    · exact fun _ refers => absurd ((unreferenced_zero rfl).symm.trans refers) (by decide)
    · exact fun _ none => (nomatch none)
    · exact fun _ buffered => absurd rfl buffered
    · exact fun _ => rfl
  · exact fun _ member => absurd member not_mem_nil

def pictureStart (nNalRefIdc pVPicture : Nat) (bDecodeKeyFrameOnly : Int) : SlotOp :=
  .frameStart ⟨nNalRefIdc, .PICT_FRAME, 0, bDecodeKeyFrameOnly, some pVPicture, none⟩

/-- References, a dropped picture and one that is shown before it, a flush and a reset. -/
def droppedRun : List SlotOp :=
  [.sps 2, pictureStart 1 100 0, .mark .PICT_FRAME, .sort ⟨0, 0, 2, 0⟩, pictureStart 1 101 0,
    .mark .PICT_FRAME, .sort ⟨8, 0, 2, 0⟩, pictureStart 0 102 0, .dropB 4 0, pictureStart 1 103 0,
    .mark .PICT_FRAME, .unreference 0 0, .sort ⟨16, 0, 2, 0⟩, pictureStart 0 104 0,
    .sort ⟨12, 0, 2, 0⟩, .flush, pictureStart 1 105 0, .reset [3], pictureStart 1 106 0]

def keyFrameRun : List SlotOp :=
  [.sps 2, pictureStart 1 100 1, .mark .PICT_FRAME, .sort ⟨0, 0, 2, 1⟩, pictureStart 1 101 1]

end CedarC.H264SlotRuns
