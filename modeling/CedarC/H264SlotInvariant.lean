import CedarC.H264SlotAllocation

/-!
# The invariant of the entries

What is delayed, a reference or being decoded holds a buffer, or it was dropped where the choice
looks for that. An entry that is chosen is a free one then, and the start of its picture, the
marks and the entries that lose their motion vectors keep this.
-/

namespace CedarC.H264SlotInvariant

open H264DisplayOrder H264DisplayOrderRuns H264SlotAllocation List Bool

section Invariant

variable (number first : Nat)

/-- The entry is in use, with the indices that the choice gives it. -/
structure Seated (i : Nat) (pic : H264PicInfo) : Prop where
  low : first ≤ i
  high : i < first + number
  late : 18 ≤ number → 1 ≤ i
  decode : pic.nDecodeBufIndex = if i < 18 then i else 0
  disp : pic.nDispBufIndex = i

structure Waiting (i : Nat) (pic : H264PicInfo) : Prop extends Seated number first i pic where
  undisplayed : pic.bHasDispedFlag ≠ 1
  held : bufferless pic = true → number < 18 ∧ pic.bDropBFrame = 1
  backed : unreferenced pic = false → pic.pVPicture ≠ none

structure Referred (i : Nat) (pic : H264PicInfo) : Prop extends Seated number first i pic where
  held : bufferless pic = false
  early : 18 ≤ number → i < 18

structure Current (i : Nat) (pic : H264PicInfo) : Prop extends Seated number first i pic where
  undisplayed : pic.bHasDispedFlag ≠ 1
  held : bufferless pic = false

/-- The context with the delayed pictures in the slots and `current` being decoded. -/
structure Sound (hCtx : H264Context) (slots : List Nat) (current : Option Nat) : Prop where
  numbered : hCtx.nMaxValidFrmBufNum = number
  started : hCtx.nBufIndexOffset = first
  table : ∀ i, hCtx.pDelayedPic i = slots[i]?
  count : hCtx.nDelayedPicNum = slots.length
  bound : slots.length < MAX_PICTURE_COUNT
  distinct : slots.Nodup
  delayed : ∀ pic ∈ slots, Waiting number first pic (hCtx.picture pic)
  referred : ∀ i, unreferenced (hCtx.picture i) = false → Referred number first i (hCtx.picture i)
  current : ∀ cur, current = some cur → cur ∉ slots ∧ Current number first cur (hCtx.picture cur)
  own : ∀ i, (hCtx.picture i).pVPicture ≠ none → (hCtx.picture i).nDispBufIndex = i
  zero : 18 ≤ number → (hCtx.picture 0).nDispBufIndex = 0

end Invariant

section Frames

variable {number first : Nat} {hCtx next : H264Context} {slots : List Nat} {current : Option Nat}

theorem delayed_slots_sound (sound : Sound number first hCtx slots current) :
    delayedSlots hCtx = slots := by
  have same : hCtx.pDelayedPic = fun i => slots[i]? := funext sound.table
  unfold delayedSlots
  rw [same, sound.count]
  exact filter_map_range slots

theorem unreferenced_zero {pic : H264PicInfo} (zero : pic.nReference = 0) :
    unreferenced pic = true := decide_eq_true (Or.inl zero)

variable (sound : Sound number first hCtx slots current)

include sound

theorem sound_abandon : Sound number first hCtx slots none :=
  { sound with current := fun _ none => (nomatch none) }

/-- A step about one picture keeps the invariant where it keeps what that picture is. -/
theorem sound_framed {pic : Nat} (framed : Framed hCtx next pic)
    (waits : pic ∈ slots → Waiting number first pic (next.picture pic))
    (refers : unreferenced (next.picture pic) = false →
      Referred number first pic (next.picture pic))
    (decodes : current = some pic → Current number first pic (next.picture pic))
    (owns : (next.picture pic).pVPicture ≠ none → (next.picture pic).nDispBufIndex = pic)
    (stays : pic = 0 → 18 ≤ number → (next.picture 0).nDispBufIndex = 0) :
    Sound number first next slots current := by
  have rest := framed.rest
  constructor
  · rw [rest]
    exact sound.numbered
  · rw [rest]
    exact sound.started
  · rw [rest]
    exact sound.table
  · rw [rest]
    exact sound.count
  · exact sound.bound
  · exact sound.distinct
  · intro other member
    by_cases same : other = pic
    · rw [same] at member ⊢
      exact waits member
    · rw [framed.others other same]
      exact sound.delayed other member
  · intro other
    by_cases same : other = pic
    · rw [same]
      exact refers
    · rw [framed.others other same]
      exact sound.referred other
  · intro cur here
    apply And.intro (sound.current cur here).1
    by_cases same : cur = pic
    · rw [same] at here ⊢
      exact decodes here
    · rw [framed.others cur same]
      exact (sound.current cur here).2
  · intro other
    by_cases same : other = pic
    · rw [same]
      exact owns
    · rw [framed.others other same]
      exact sound.own other
  · intro many
    by_cases same : 0 = pic
    · exact stays same.symm many
    · rw [framed.others 0 same]
      exact sound.zero many

/-- What the invariant says of a context is said of its entries and its table. -/
theorem sound_congr (numbered : next.nMaxValidFrmBufNum = hCtx.nMaxValidFrmBufNum)
    (started : next.nBufIndexOffset = hCtx.nBufIndexOffset)
    (table : next.pDelayedPic = hCtx.pDelayedPic)
    (count : next.nDelayedPicNum = hCtx.nDelayedPicNum) (picture : next.picture = hCtx.picture) :
    Sound number first next slots current := by
  constructor
  · rw [numbered]
    exact sound.numbered
  · rw [started]
    exact sound.started
  · rw [table]
    exact sound.table
  · rw [count]
    exact sound.count
  · exact sound.bound
  · exact sound.distinct
  · rw [picture]
    exact sound.delayed
  · rw [picture]
    exact sound.referred
  · rw [picture]
    exact sound.current
  · rw [picture]
    exact sound.own
  · rw [picture]
    exact sound.zero

end Frames

section Quiet

variable {number first : Nat} {hCtx next : H264Context} {slots : List Nat} {current : Option Nat}

def Alike (before after : H264PicInfo) : Prop :=
  after = { before with
    nPoc := after.nPoc
    bKeyFrame := after.bKeyFrame
    nDecFrameOrder := after.nDecFrameOrder
    bDecErrorFlag := after.bDecErrorFlag }

variable {i : Nat} {before after : H264PicInfo} (alike : Alike before after)

include alike

theorem seated_alike
    (seated : Seated number first i before) : Seated number first i after := by
  rw [alike]
  exact ⟨seated.low, seated.high, seated.late, seated.decode, seated.disp⟩

theorem waiting_alike
    (waiting : Waiting number first i before) : Waiting number first i after := by
  have seated := seated_alike alike waiting.toSeated
  rw [alike] at seated ⊢
  exact ⟨seated, waiting.undisplayed, waiting.held, waiting.backed⟩

theorem referred_alike
    (referred : Referred number first i before) : Referred number first i after := by
  have seated := seated_alike alike referred.toSeated
  rw [alike] at seated ⊢
  exact ⟨seated, referred.held, referred.early⟩

theorem current_alike
    (current : Current number first i before) : Current number first i after := by
  have seated := seated_alike alike current.toSeated
  rw [alike] at seated ⊢
  exact ⟨seated, current.undisplayed, current.held⟩

omit alike

theorem sound_alike (sound : Sound number first hCtx slots current)
    (numbered : next.nMaxValidFrmBufNum = hCtx.nMaxValidFrmBufNum)
    (started : next.nBufIndexOffset = hCtx.nBufIndexOffset)
    (table : next.pDelayedPic = hCtx.pDelayedPic)
    (count : next.nDelayedPicNum = hCtx.nDelayedPicNum)
    (alike : ∀ i, Alike (hCtx.picture i) (next.picture i)) :
    Sound number first next slots current := by
  have referred : ∀ i, unreferenced (next.picture i) = unreferenced (hCtx.picture i) := by
    intro i
    rw [alike i]
    rfl
  constructor
  · rw [numbered]
    exact sound.numbered
  · rw [started]
    exact sound.started
  · rw [table]
    exact sound.table
  · rw [count]
    exact sound.count
  · exact sound.bound
  · exact sound.distinct
  · exact fun pic member => waiting_alike (alike pic) (sound.delayed pic member)
  · intro i refers
    rw [referred i] at refers
    exact referred_alike (alike i) (sound.referred i refers)
  · intro cur here
    exact ⟨(sound.current cur here).1, current_alike (alike cur) (sound.current cur here).2⟩
  · intro i
    rw [alike i]
    exact sound.own i
  · intro many
    rw [alike 0]
    exact sound.zero many

theorem renumber_sound (sound : Sound number first hCtx slots current) :
    Sound number first (renumber hCtx) slots current := by
  unfold renumber
  by_cases early : hCtx.nCurFrmNum < 0xffffffff
  · rw [if_pos early]
    exact sound
  · rw [if_neg early]
    refine sound_alike sound rfl rfl rfl rfl ?_
    intro i
    dsimp only
    split_ifs
    · rfl
    · rfl

theorem set_alike {change : H264PicInfo → H264PicInfo} (quiet : ∀ info, Alike info (change info))
    (cur i : Nat) : Alike (hCtx.picture i) ((hCtx.setPicture cur change).picture i) := by
  by_cases same : i = cur
  · rw [same, set_picture_same]
    exact quiet _
  · rw [set_picture_other same]
    rfl

theorem finish_sound (sound : Sound number first hCtx slots current) (cur : Nat)
    (input : FinishInput) : Sound number first (finishPicture hCtx cur input) slots current := by
  have quiet : ∀ info : H264PicInfo, Alike info { info with
      nPoc := input.nPoc
      bDecErrorFlag := input.bDecErrorFlag
      nDecFrameOrder := hCtx.nCurFrmNum } := fun _ => rfl
  exact sound_alike sound rfl rfl rfl rfl (set_alike quiet cur)

end Quiet

section Starting

variable {number first : Nat} {hCtx : H264Context} {slots : List Nat} {current : Option Nat}
  {i nNalRefIdc : Nat} {frame : FrameInput} {vconfig : VConfig} {given next : H264Context}
  {enough : Bool}

theorem mem_entries : i ∈ entries hCtx ↔
    hCtx.nBufIndexOffset ≤ i ∧ i < hCtx.nBufIndexOffset + hCtx.nMaxValidFrmBufNum := by
  unfold entries
  rw [mem_map]
  constructor
  · rintro ⟨k, member, rfl⟩
    have bound := mem_range.mp member
    omega
  · rintro ⟨low, high⟩
    exact ⟨i - hCtx.nBufIndexOffset, mem_range.mpr (by omega), by omega⟩

/-- What the choice of an entry finds. -/
structure Chosen (number first nNalRefIdc i : Nat) (pic : H264PicInfo) : Prop where
  low : first ≤ i
  high : i < first + number
  late : 18 ≤ number → 1 ≤ i
  early : 18 ≤ number → nNalRefIdc ≠ 0 → i < 18
  bare : bufferless pic = true
  shown : number < 18 → pic.bDropBFrame ≠ 1

theorem choice_spec {taken : H264Context} (sound : Sound number first hCtx slots current)
    (arranged : Arranged number first) (counted : 0 ≤ hCtx.nRefFrmCount)
    (choice : H264GetValidBufferIndex hCtx nNalRefIdc = some (i, taken)) :
    Chosen number first nNalRefIdc i (hCtx.picture i) ∧
      taken = (takeEntry hCtx i (if i < 18 then i else 0)).2 := by
  have numbered := sound.numbered
  have started := sound.started
  unfold H264GetValidBufferIndex at choice
  rw [numbered] at choice
  by_cases few : number < 18
  · rw [if_pos few] at choice
    rcases Option.map_eq_some_iff.mp choice with ⟨found, search, same⟩
    have member := mem_entries.mp (mem_of_find?_eq_some search)
    have test := List.find?_some search
    have index : found = i := congrArg Prod.fst same
    rw [numbered, started, index] at member
    rw [index, and_eq_true, bne_iff_ne] at test
    have small : i < 18 := by
      unfold Arranged at arranged
      omega
    constructor
    · exact ⟨member.1, member.2, fun many => by omega, fun many => by omega, test.1,
        fun _ => test.2⟩
    · rw [index] at same
      rw [if_pos small]
      exact (congrArg Prod.snd same).symm
  · rw [if_neg few] at choice
    have none : first = 0 := by
      unfold Arranged at arranged
      omega
    by_cases idle : nNalRefIdc = 0
    · rw [if_pos idle] at choice
      rcases Option.map_eq_some_iff.mp choice with ⟨found, search, same⟩
      have member := mem_range.mp (mem_reverse.mp (mem_of_find?_eq_some search))
      have test := List.find?_some search
      have index : found = i := congrArg Prod.fst same
      rw [index] at member
      rw [index, and_eq_true, decide_eq_true_iff] at test
      constructor
      · exact ⟨by omega, by omega, fun _ => by omega, fun _ other => absurd idle other, test.2,
          fun less => absurd less few⟩
      · rw [index] at same
        exact (congrArg Prod.snd same).symm
    · rw [if_neg idle] at choice
      rcases Option.map_eq_some_iff.mp choice with ⟨found, search, same⟩
      have member := mem_range'_1.mp (mem_of_find?_eq_some search)
      have test := List.find?_some search
      have index : found = i := congrArg Prod.fst same
      rw [index] at member test
      constructor
      · exact ⟨by omega, by omega, fun _ => by omega, fun _ _ => by omega, test,
          fun less => absurd less few⟩
      · rw [index] at same
        rw [if_pos (by omega)]
        exact (congrArg Prod.snd same).symm

/-- An entry that is chosen is neither delayed nor being decoded nor a reference. -/
theorem chosen_free (sound : Sound number first hCtx slots current)
    (chosen : Chosen number first nNalRefIdc i (hCtx.picture i)) :
    i ∉ slots ∧ current ≠ some i ∧ unreferenced (hCtx.picture i) = true := by
  refine ⟨?_, ?_, ?_⟩
  · intro member
    have held := (sound.delayed i member).held chosen.bare
    exact chosen.shown held.1 held.2
  · intro here
    have held := (sound.current i here).2.held
    rw [chosen.bare] at held
    exact false_ne_true held.symm
  · by_contra refers
    have held := (sound.referred i (eq_false_of_ne_true refers)).held
    rw [chosen.bare] at held
    exact false_ne_true held.symm

theorem chosen_right {decoding : Bool}
    (sound : Sound number first hCtx slots (if decoding then hCtx.pCurPicturePtr else none))
    (arranged : Arranged number first)
    (low : decoding = true → ∀ cur ∈ hCtx.pCurPicturePtr, Low hCtx cur)
    (chosen : Chosen number first nNalRefIdc i (hCtx.picture i)) :
    AllocationRight ⟨hCtx, decoding, i, if i < 18 then i else 0⟩ := by
  rcases chosen_free sound chosen with ⟨waits, decodes, refers⟩
  have numbered := sound.numbered
  have bounds := chosen.high
  have late := chosen.late
  unfold Arranged MAX_PICTURE_COUNT at arranged
  have seat : ∀ other, (unreferenced (hCtx.picture other) = false ∨
      decoding = true ∧ hCtx.pCurPicturePtr = some other) →
      Seated number first other (hCtx.picture other) ∧ other < 18 := by
    rintro other (referred | ⟨running, here⟩)
    · have held := sound.referred other referred
      have high := held.high
      have early := held.early
      exact ⟨held.toSeated, by omega⟩
    · rw [if_pos running] at sound
      have held := (sound.current other here).2
      have high := held.high
      have early := low running other here
      unfold Low at early
      exact ⟨held.toSeated, by omega⟩
  constructor
  · apply And.intro
    · apply mem_entries.mpr
      rw [numbered, sound.started]
      exact ⟨chosen.low, chosen.high⟩
    · unfold MAX_PICTURE_COUNT
      dsimp only
      omega
  · exact chosen.bare
  · exact refers
  · rw [delayed_slots_sound sound]
    exact waits
  · intro running here
    rw [if_pos running] at decodes
    exact decodes here
  · dsimp only
    split_ifs <;> omega
  · intro other distinct live
    rcases seat other live with ⟨seated, small⟩
    have decode := seated.decode
    rw [if_pos small] at decode
    have positive := seated.late
    dsimp only at distinct ⊢
    rw [decode]
    split_ifs <;> omega

theorem request_spec (bare : bufferless (hCtx.picture i) = true)
    (request : requestBuffers vconfig hCtx i frame = (given, enough)) :
    Framed hCtx given i ∧ ∃ pVPicture pScaleDownVPicture,
      given.picture i = { hCtx.picture i with
        pVPicture := pVPicture, pScaleDownVPicture := pScaleDownVPicture } ∧
      (enough = true ↔ ¬ (pVPicture = none ∧ pScaleDownVPicture = none)) := by
  have empty := of_decide_eq_true bare
  have scaled := framed_set hCtx i fun pic =>
    { pic with pScaleDownVPicture := frame.pScaleDownVPicture }
  have both := framed_trans scaled (framed_set _ i fun pic =>
    { pic with pVPicture := frame.pVPicture })
  unfold requestBuffers at request
  dsimp only at request
  by_cases mode : scaledOutput vconfig hCtx = true
  · rw [if_pos mode] at request
    by_cases missing : frame.pScaleDownVPicture = none
    · rw [if_pos missing] at request
      rcases Prod.mk.inj request with ⟨rfl, rfl⟩
      refine ⟨scaled, (hCtx.picture i).pVPicture, frame.pScaleDownVPicture, ?_, ?_⟩
      · exact set_picture_same _ _ _
      · exact iff_of_false false_ne_true fun other => other ⟨empty.1, missing⟩
    · rw [if_neg missing] at request
      by_cases reference : frame.nNalRefIdc ≠ 0 ∧ frame.bDecodeKeyFrameOnly = 0
      · rw [if_pos reference] at request
        by_cases refused : frame.pVPicture = none
        · rw [if_pos refused] at request
          rcases Prod.mk.inj request with ⟨rfl, rfl⟩
          refine ⟨framed_trans both (framed_trans (framed_call _ _ i) (framed_set _ i _)),
            frame.pVPicture, none, ?_, ?_⟩
          · simp only [H264Context.call, H264Context.setPicture, Function.update_self]
          · exact iff_of_false false_ne_true fun other => other ⟨refused, rfl⟩
        · rw [if_neg refused] at request
          rcases Prod.mk.inj request with ⟨rfl, rfl⟩
          refine ⟨both, frame.pVPicture, frame.pScaleDownVPicture, ?_, ?_⟩
          · rw [set_picture_same, set_picture_same]
          · exact iff_of_true rfl fun all => missing all.2
      · rw [if_neg reference] at request
        rcases Prod.mk.inj request with ⟨rfl, rfl⟩
        refine ⟨scaled, (hCtx.picture i).pVPicture, frame.pScaleDownVPicture, ?_, ?_⟩
        · exact set_picture_same _ _ _
        · exact iff_of_true rfl fun all => missing all.2
  · rw [if_neg mode] at request
    rcases Prod.mk.inj request with ⟨rfl, rfl⟩
    refine ⟨framed_set hCtx i _, frame.pVPicture, (hCtx.picture i).pScaleDownVPicture, ?_, ?_⟩
    · exact set_picture_same _ _ _
    · rw [Option.isSome_iff_ne_none]
      exact ⟨fun some all => some all.1, fun some all => some ⟨all, empty.2⟩⟩

/-- A step about an entry that is neither delayed nor a reference nor being decoded. -/
theorem sound_idle (sound : Sound number first hCtx slots current) (framed : Framed hCtx next i)
    (apart : i ∉ slots) (other : current ≠ some i) (idle : unreferenced (next.picture i) = true)
    (disp : (next.picture i).pVPicture ≠ none → (next.picture i).nDispBufIndex = i)
    (stays : i = 0 → 18 ≤ number → (next.picture 0).nDispBufIndex = 0) :
    Sound number first next slots current := by
  apply sound_framed sound framed
  · exact fun member => absurd member apart
  · intro refers
    rw [idle] at refers
    exact absurd refers.symm false_ne_true
  · exact fun here => absurd here other
  · exact disp
  · exact stays

theorem sound_copied (sound : Sound number first hCtx slots current)
    (many : 18 ≤ number) (framed : Framed hCtx next 0)
    (disp : (next.picture 0).nDispBufIndex = (hCtx.picture 0).nDispBufIndex)
    (marks : unreferenced (hCtx.picture 0) = true → unreferenced (next.picture 0) = true) :
    Sound number first next slots current := by
  apply sound_idle sound framed
  · intro member
    exact absurd ((sound.delayed 0 member).late many) (by decide)
  · intro here
    exact absurd ((sound.current 0 here).2.late many) (by decide)
  · apply marks
    by_contra refers
    exact absurd ((sound.referred 0 (eq_false_of_ne_true refers)).late many) (by decide)
  · intro _
    rw [disp]
    exact sound.zero many
  · intro _ _
    rw [disp]
    exact sound.zero many

theorem start_sound (sound : Sound number first hCtx slots none) (arranged : Arranged number first)
    (apart : i ∉ slots) (seated : Seated number first i (hCtx.picture i))
    (early : 18 ≤ number → frame.nNalRefIdc ≠ 0 → i < 18)
    (held : bufferless (hCtx.picture i) = false) (idle : unreferenced (hCtx.picture i) = true) :
    Sound number first (startPicture hCtx i frame) slots (some i) := by
  have sound₁ : Sound number first
      (hCtx.setPicture i fun pic => { pic with bHasDispedFlag := 0 }) slots none := by
    apply sound_idle sound (framed_set hCtx i _) apart fun here => (nomatch here)
    · rw [set_picture_same]
      exact idle
    · rw [set_picture_same]
      exact fun _ => seated.disp
    · rintro rfl _
      rw [set_picture_same]
      exact seated.disp
  have same₁ := set_picture_same hCtx i fun pic => { pic with bHasDispedFlag := 0 }
  unfold startPicture
  dsimp only
  generalize (hCtx.setPicture i fun pic => { pic with bHasDispedFlag := 0 }) = shown
    at sound₁ same₁ ⊢
  have copied : ∃ second, second = (if (shown.picture i).nDecodeBufIndex ≠
        (shown.picture i).nDispBufIndex then
      shown.setPicture (shown.picture i).nDecodeBufIndex fun pic =>
        { pic with pVPicture := (shown.picture i).pVPicture }
    else shown) ∧ Sound number first second slots none ∧ second.picture i = shown.picture i := by
    apply Exists.intro _
    apply And.intro rfl
    have decode : (shown.picture i).nDecodeBufIndex = if i < 18 then i else 0 := by
      rw [same₁]
      exact seated.decode
    have disp : (shown.picture i).nDispBufIndex = i := by
      rw [same₁]
      exact seated.disp
    by_cases small : i < 18
    · rw [if_pos small] at decode
      rw [if_neg (by omega)]
      exact ⟨sound₁, rfl⟩
    · rw [if_neg small] at decode
      rw [if_pos (by omega), decode]
      have high := seated.high
      have many : 18 ≤ number := by
        unfold Arranged at arranged
        omega
      constructor
      · apply sound_copied sound₁ many (framed_set shown 0 _)
        · rw [set_picture_same]
        · rw [set_picture_same]
          exact id
      · exact set_picture_other (by omega)
  rcases copied with ⟨second, same, sound₂, same₂⟩
  rw [← same]
  rw [same₁] at same₂
  have same₃ := set_picture_same second i fun pic =>
    { pic with
      bDecErrorFlag := 0
      bKeyFrame := frame.bKeyFrame
      nReference := if frame.nNalRefIdc ≠ 0 then (frame.nPicStructure.bits : Int) else 0 }
  have framed := framed_set second i fun pic =>
    { pic with
      bDecErrorFlag := 0
      bKeyFrame := frame.bKeyFrame
      nReference := if frame.nNalRefIdc ≠ 0 then (frame.nPicStructure.bits : Int) else 0 }
  generalize (second.setPicture i _) = third at same₃ framed ⊢
  rw [same₂] at same₃
  have seated₃ : Seated number first i (third.picture i) := by
    rw [same₃]
    exact ⟨seated.low, seated.high, seated.late, seated.decode, seated.disp⟩
  have held₃ : bufferless (third.picture i) = false := by
    rw [same₃]
    exact held
  have sound₃ : Sound number first third slots none := by
    apply sound_framed sound₂ framed
    · exact fun member => absurd member apart
    · intro refers
      refine ⟨seated₃, held₃, ?_⟩
      intro many
      apply early many
      intro none
      have marks : (third.picture i).nReference = 0 := by
        rw [same₃]
        exact if_neg (not_not.mpr none)
      rw [unreferenced_zero marks] at refers
      exact false_ne_true refers.symm
    · exact fun here => (nomatch here)
    · exact fun _ => seated₃.disp
    · rintro rfl _
      exact seated₃.disp
  have undisplayed : (third.picture i).bHasDispedFlag ≠ 1 := by
    rw [same₃]
    exact Int.zero_ne_one
  refine { sound_congr sound₃ rfl rfl rfl rfl rfl with current := ?_ }
  intro cur here
  rw [← Option.some.inj here]
  exact ⟨apart, seated₃, undisplayed, held₃⟩

def decodingPicture (system : SlotSystem) : Option Nat :=
  if system.decoding then system.hCtx.pCurPicturePtr else none

/-- The invariant of a run. -/
structure Running (number first : Nat) (system : SlotSystem) (slots : List Nat) : Prop where
  sound : Sound number first system.hCtx slots (decodingPicture system)
  right : ∀ record ∈ system.allocations, AllocationRight record

theorem renumber_kept (hCtx : H264Context) : (renumber hCtx).pCurPicturePtr = hCtx.pCurPicturePtr ∧
      (renumber hCtx).nRefFrmCount = hCtx.nRefFrmCount ∧
      (renumber hCtx).nMaxValidFrmBufNum = hCtx.nMaxValidFrmBufNum := by
  unfold renumber
  split_ifs
  · exact ⟨rfl, rfl, rfl⟩
  · exact ⟨rfl, rfl, rfl⟩

/-- An entry that has been chosen is no reference, and where its buffers are there it becomes the
picture that is being decoded. -/
theorem frame_start_sound {nDecodeBufIndex : Nat} (sound : Sound number first hCtx slots current)
    (arranged : Arranged number first)
    (chosen : Chosen number first frame.nNalRefIdc i (hCtx.picture i))
    (index : nDecodeBufIndex = if i < 18 then i else 0)
    (request : requestBuffers vconfig (takeEntry hCtx i nDecodeBufIndex).2 i frame =
      (given, enough)) :
    given.pCurPicturePtr = hCtx.pCurPicturePtr ∧
    (enough = false → Sound number first given slots current) ∧
    (enough = true → Sound number first (startPicture given i frame) slots (some i)) := by
  rcases chosen_free sound chosen with ⟨apart, other, _⟩
  unfold takeEntry at request
  have same := set_picture_same hCtx i fun pic =>
    { pic with nReference := 0, nDecodeBufIndex := nDecodeBufIndex, nDispBufIndex := i }
  have framed := framed_set hCtx i fun pic =>
    { pic with nReference := 0, nDecodeBufIndex := nDecodeBufIndex, nDispBufIndex := i }
  dsimp only at request
  generalize (hCtx.setPicture i _) = taken at same framed request
  have bare : bufferless (taken.picture i) = true := by
    rw [same]
    exact chosen.bare
  rcases request_spec bare request with ⟨framed', pVPicture, pScaleDownVPicture, same', held⟩
  have marks : (given.picture i).nReference = 0 := by rw [same', same]
  have disp : (given.picture i).nDispBufIndex = i := by rw [same', same]
  have decode : (given.picture i).nDecodeBufIndex = if i < 18 then i else 0 := by
    rw [same', same]
    exact index
  have whole := framed_trans framed framed'
  have stays : i = 0 → 18 ≤ number → (given.picture 0).nDispBufIndex = 0 := by
    rintro rfl _
    exact disp
  have sound' := sound_idle sound whole apart other (unreferenced_zero marks) (fun _ => disp) stays
  refine ⟨by rw [whole.rest], fun _ => sound', ?_⟩
  intro got
  apply start_sound (sound_abandon sound') arranged apart
  · exact ⟨chosen.low, chosen.high, chosen.late, decode, disp⟩
  · exact chosen.early
  · rw [same']
    exact decide_eq_false (held.mp got)
  · exact unreferenced_zero marks

theorem frame_start_running {system : SlotSystem}
    (arranged : Arranged number first) (running : Running number first system slots)
    (meets : SlotGuard system (.frameStart frame)) :
    Running number first (H264FrameStart vconfig system frame) slots := by
  rcases renumber_kept system.hCtx with ⟨cur, refs, size⟩
  have sound := renumber_sound running.sound
  unfold decodingPicture at sound
  rw [← cur] at sound
  have low : system.decoding = true → ∀ cur ∈ (renumber system.hCtx).pCurPicturePtr,
      Low (renumber system.hCtx) cur := by
    unfold Low
    rw [cur, size]
    exact meets.2
  unfold H264FrameStart
  dsimp only
  cases choice : H264GetValidBufferIndex (renumber system.hCtx) frame.nNalRefIdc with
  | none => exact ⟨sound, running.right⟩
  | some pair =>
    rcases pair with ⟨i, taken⟩
    rcases choice_spec sound arranged (by rw [refs]; exact meets.1) choice with ⟨chosen, rfl⟩
    have index : ((takeEntry (renumber system.hCtx) i (if i < 18 then i else 0)).2.picture
        i).nDecodeBufIndex = if i < 18 then i else 0 := by
      unfold takeEntry
      rw [set_picture_same]
    have right : ∀ record ∈ system.allocations ++ [⟨renumber system.hCtx, system.decoding, i,
        if i < 18 then i else 0⟩], AllocationRight record := by
      intro record member
      rcases mem_append.mp member with earlier | last
      · exact running.right record earlier
      · rw [mem_singleton.mp last]
        exact chosen_right sound arranged low chosen
    dsimp only
    rw [index]
    rcases request : requestBuffers vconfig
      (takeEntry (renumber system.hCtx) i (if i < 18 then i else 0)).2 i frame with
      ⟨given, enough⟩
    rcases frame_start_sound sound arranged chosen rfl request with ⟨kept, refused, started⟩
    cases enough with
    | true => exact ⟨started rfl, right⟩
    | false =>
      refine ⟨?_, right⟩
      have sound' := refused rfl
      rw [← kept] at sound'
      exact sound'

end Starting

variable {number first : Nat} {hCtx : H264Context} {slots : List Nat} {current : Option Nat}
  {pic : Nat} {nReference : Int} {before after : H264PicInfo}

theorem mark_sound {cur : Nat} (sound : Sound number first hCtx slots (some cur))
    (low : 18 ≤ number → cur < 18) :
    Sound number first (hCtx.setPicture cur fun pic => { pic with nReference := nReference }) slots
      (some cur) := by
  rcases sound.current cur rfl with ⟨apart, held⟩
  have seated : Seated number first cur
      { hCtx.picture cur with nReference := nReference } :=
    ⟨held.low, held.high, held.late, held.decode, held.disp⟩
  have same := set_picture_same hCtx cur fun pic => { pic with nReference := nReference }
  apply sound_framed sound (framed_set hCtx cur _)
  · exact fun member => absurd member apart
  · intro _
    rw [same]
    exact ⟨seated, held.held, low⟩
  · intro _
    rw [same]
    exact ⟨seated, held.undisplayed, held.held⟩
  · intro _
    rw [same]
    exact held.disp
  · rintro rfl _
    rw [same]
    exact held.disp

/-- What is done to a picture that is marked as unused: it is no new reference, and its buffer
goes only where it has been shown or has another one. -/
structure Released (before after : H264PicInfo) : Prop where
  decode : after.nDecodeBufIndex = before.nDecodeBufIndex
  disp : after.nDispBufIndex = before.nDispBufIndex
  scaled : after.pScaleDownVPicture = before.pScaleDownVPicture
  dropped : after.bDropBFrame = before.bDropBFrame
  shown : after.bHasDispedFlag = before.bHasDispedFlag ∨ after.bHasDispedFlag = 0
  marks : unreferenced after = false →
    unreferenced before = false ∧ after.pVPicture = before.pVPicture
  buffer : after.pVPicture = before.pVPicture ∨ after.pVPicture = none ∧
    (before.bHasDispedFlag = 1 ∨ before.pScaleDownVPicture ≠ none)

variable (released : Released before after)

include released

theorem released_held (undisplayed : before.bHasDispedFlag ≠ 1) (bare : bufferless after = true) :
    bufferless before = true := by
  have empty := of_decide_eq_true bare
  have scaled := released.scaled
  rcases released.buffer with same | ⟨_, shown | other⟩
  · rw [same, scaled] at empty
    exact decide_eq_true empty
  · exact absurd shown undisplayed
  · rw [empty.2] at scaled
    exact absurd scaled.symm other

theorem released_undisplayed
    (undisplayed : before.bHasDispedFlag ≠ 1) : after.bHasDispedFlag ≠ 1 := by
  rcases released.shown with same | zero
  · rw [same]
    exact undisplayed
  · rw [zero]
    exact Int.zero_ne_one

theorem released_seated {i : Nat}
    (seated : Seated number first i before) : Seated number first i after :=
  ⟨seated.low, seated.high, seated.late, released.decode.trans seated.decode,
    released.disp.trans seated.disp⟩

omit released

theorem released_sound {next : H264Context}
    (sound : Sound number first hCtx slots current) (framed : Framed hCtx next pic)
    (released : Released (hCtx.picture pic) (next.picture pic)) :
    Sound number first next slots current := by
  apply sound_framed sound framed
  · intro member
    have waiting := sound.delayed pic member
    refine ⟨released_seated released waiting.toSeated,
      released_undisplayed released waiting.undisplayed, ?_, ?_⟩
    · intro bare
      rw [released.dropped]
      exact waiting.held (released_held released waiting.undisplayed bare)
    · intro refers
      rcases released.marks refers with ⟨earlier, same⟩
      rw [same]
      exact waiting.backed earlier
  · intro refers
    rcases released.marks refers with ⟨earlier, same⟩
    have referred := sound.referred pic earlier
    refine ⟨released_seated released referred.toSeated, ?_, referred.early⟩
    have held := referred.held
    unfold bufferless at held ⊢
    rw [same, released.scaled]
    exact held
  · intro here
    have held := (sound.current pic here).2
    refine ⟨released_seated released held.toSeated,
      released_undisplayed released held.undisplayed, ?_⟩
    by_contra bare
    have earlier := released_held released held.undisplayed (eq_true_of_ne_false bare)
    rw [held.held] at earlier
    exact false_ne_true earlier
  · intro buffered
    rw [released.disp]
    apply sound.own
    rcases released.buffer with same | ⟨none, _⟩
    · rw [← same]
      exact buffered
    · exact absurd none buffered
  · intro zero many
    rw [zero] at released
    rw [released.disp]
    exact sound.zero many

theorem kept_marks {before : Int} {refmask : Nat}
    (kept : ¬ ((before.toNat &&& refmask : Nat) = (0 : Int) ∨
      (before.toNat &&& refmask : Nat) = (4 : Int))) : ¬ (before = 0 ∨ before = 4) := by
  intro idle
  apply kept
  rcases idle with rfl | rfl
  · apply Or.inl
    change ((0 &&& refmask : Nat) : Int) = 0
    rw [Nat.zero_and]
    rfl
  · change ((4 &&& refmask : Nat) : Int) = 0 ∨ ((4 &&& refmask : Nat) : Int) = 4
    have small : 4 &&& refmask ≤ 4 := Nat.and_le_left
    have low : (4 &&& refmask) % 2 ^ 2 = (4 % 2 ^ 2) &&& (refmask % 2 ^ 2) := Nat.and_mod_two_pow
    have bare : (4 % 2 ^ 2) &&& (refmask % 2 ^ 2) = 0 := Nat.zero_and _
    rw [bare] at low
    omega

theorem return_released
    (own : (hCtx.picture pic).pVPicture ≠ none → (hCtx.picture pic).nDispBufIndex = pic)
    (marks : ¬ (nReference = 0 ∨ nReference = 4) → unreferenced (hCtx.picture pic) = false) :
    Framed hCtx (returnUnreferenced (hCtx.setPicture pic fun info =>
      { info with nReference := nReference }) pic) pic ∧
    Released (hCtx.picture pic) ((returnUnreferenced (hCtx.setPicture pic fun info =>
      { info with nReference := nReference }) pic).picture pic) := by
  have marked := framed_set hCtx pic fun info => { info with nReference := nReference }
  have same := set_picture_same hCtx pic fun info => { info with nReference := nReference }
  generalize (hCtx.setPicture pic _) = next at marked same ⊢
  unfold returnUnreferenced
  dsimp only
  by_cases returned : unreferenced (next.picture pic) = true ∧
      (next.picture pic).pVPicture ≠ none ∧ ((next.picture pic).bHasDispedFlag = 1 ∨
        (next.picture pic).pScaleDownVPicture ≠ none)
  · rw [if_pos returned]
    rw [same] at returned
    have disp : (next.picture pic).nDispBufIndex = pic := by
      rw [same]
      exact own returned.2.1
    have gone : ∃ third, third = (if (next.picture pic).nDispBufIndex < MAX_PICTURE_COUNT then
        (next.call (.FbmReturnBuffer .pFbm (next.picture pic).pVPicture 0)).setPicture
          (next.picture pic).nDispBufIndex fun other => { other with pVPicture := none }
        else next.call (.FbmReturnBuffer .pFbm (next.picture pic).pVPicture 0)) ∧
        Framed hCtx third pic ∧
        third.picture pic =
          { next.picture pic with pVPicture := (third.picture pic).pVPicture } := by
      apply Exists.intro _
      apply And.intro rfl
      rw [disp]
      split_ifs
      · apply And.intro (framed_trans marked (framed_trans (framed_call _ _ pic)
          (framed_set _ pic _)))
        rw [set_picture_same]
        rfl
      · exact ⟨framed_trans marked (framed_call _ _ pic), rfl⟩
    rcases gone with ⟨third, there, framed, info⟩
    rw [← there]
    apply And.intro (framed_trans framed (framed_set _ pic _))
    rw [set_picture_same, info, same]
    exact ⟨rfl, rfl, rfl, rfl, Or.inr rfl, fun refers => (nomatch refers),
      Or.inr ⟨rfl, returned.2.2⟩⟩
  · rw [if_neg returned]
    apply And.intro marked
    rw [same]
    refine ⟨rfl, rfl, rfl, rfl, Or.inl rfl, ?_, Or.inl rfl⟩
    intro refers
    exact ⟨marks (of_decide_eq_false refers), rfl⟩

theorem return_sound (sound : Sound number first hCtx slots current)
    (marks : ¬ (nReference = 0 ∨ nReference = 4) → unreferenced (hCtx.picture pic) = false) :
    Sound number first (returnUnreferenced (hCtx.setPicture pic fun info =>
      { info with nReference := nReference }) pic) slots current := by
  rcases return_released (sound.own pic) marks with ⟨framed, released⟩
  exact released_sound sound framed released

theorem unreference_sound (sound : Sound number first hCtx slots current) (pic refmask : Nat) :
    Sound number first (H264UnnReferencePic hCtx pic refmask) slots current := by
  unfold H264UnnReferencePic
  dsimp only
  apply return_sound sound
  intro referred
  by_cases left : (hCtx.picture pic).nReference.toNat &&& refmask = 0
  · exfalso
    apply referred
    rw [if_neg (not_not.mpr left)]
    split_ifs
    · exact Or.inr rfl
    · exact Or.inl rfl
  · rw [if_pos left] at referred
    exact decide_eq_false (kept_marks referred)

theorem unreferences_sound (refs : List Nat) (sound : Sound number first hCtx slots current) :
    Sound number first (refs.foldl (fun hCtx pic => H264UnnReferencePic hCtx pic 0) hCtx) slots
      current := by
  induction refs generalizing hCtx with
  | nil => exact sound
  | cons pic refs later => exact later (unreference_sound sound pic 0)

theorem lose_sound (sound : Sound number first hCtx slots none) (apart : pic ∉ slots) :
    Sound number first (loseReference hCtx pic) slots none := by
  have same := set_picture_same hCtx pic fun info =>
    { info with nReference := 0, pVPicture := none }
  apply sound_idle sound (framed_set hCtx pic _) apart fun here => (nomatch here)
  · rw [same]
    rfl
  · rw [same]
    exact fun buffered => absurd rfl buffered
  · rintro rfl many
    rw [same]
    exact sound.zero many

theorem reclaim_sound (sound : Sound number first hCtx slots current)
    (apart : pic ∉ slots) (other : current ≠ some pic) :
    Sound number first (reclaimPicture hCtx pic) slots current := by
  unfold reclaimPicture
  dsimp only
  have called : ∃ next, next = (if (hCtx.picture pic).pScaleDownVPicture ≠ none then
      (if (hCtx.picture pic).pVPicture ≠ none then
        hCtx.call (.FbmReturnBuffer .pFbm (hCtx.picture pic).pVPicture 0)
      else hCtx).call (.FbmReturnBuffer .pFbm (hCtx.picture pic).pScaleDownVPicture 0)
      else if (hCtx.picture pic).pVPicture ≠ none then
        hCtx.call (.FbmReturnBuffer .pFbm (hCtx.picture pic).pVPicture 0)
      else hCtx) ∧ Framed hCtx next pic ∧ next.picture pic = hCtx.picture pic := by
    apply Exists.intro _
    apply And.intro rfl
    split_ifs
    · exact ⟨framed_trans (framed_call _ _ pic) (framed_call _ _ pic), rfl⟩
    · exact ⟨framed_call _ _ pic, rfl⟩
    · exact ⟨framed_call _ _ pic, rfl⟩
    · exact ⟨⟨rfl, fun _ _ => rfl⟩, rfl⟩
  rcases called with ⟨next, there, framed, info⟩
  rw [← there]
  have same := set_picture_same next pic fun info =>
    { info with
      nReference := 0, pVPicture := none, pScaleDownVPicture := none, bHasDispedFlag := 0 }
  apply sound_idle sound (framed_trans framed (framed_set next pic _)) apart other
  · rw [same]
    rfl
  · rw [same]
    exact fun buffered => absurd rfl buffered
  · rintro rfl many
    rw [same, info]
    exact sound.zero many

end CedarC.H264SlotInvariant
