import CedarC.SbmFrameProgress
import CedarC.SbmFrameNalus

/-!
# The frame pictures that the detectors hand over

A valid frame picture has a NAL and as many bytes as the passes took off the
chunks while it was under construction. The flag of its first slice outlives a
frame that is given up in the middle: the next frame then counts as begun before
it has a NAL.
-/

namespace CedarC.SbmFrameEmission

open FixedWidth GuardedRuns SbmFrameModel SbmFrameDetect SbmFrameSteps SbmFrameRuns SbmFrameBytes
open SbmFrameContainment SbmFrameProgress SbmFrameNalus List Option Function

def addedFrame (pass : PassTaken) : Option FramePicInfo :=
  if pass.after.mFramePicFifo.nValidFrameNum = pass.before.mFramePicFifo.nValidFrameNum then none
  else some (pass.after.curFrame pass.before.mFramePicFifo.nWritePos)

/-- What the passes took off the chunks since the frame under construction was claimed. -/
def attributed (history : List PassTaken) : Int :=
  history.foldl (fun bytes pass =>
    (if pass.before.mDetectInfo.pCurFramePic = none then 0 else bytes) +
      (unconsumed pass.before - unconsumed pass.after)) 0

theorem attributed_append (history : List PassTaken) (pass : PassTaken) :
    attributed (history ++ [pass]) =
      (if pass.before.mDetectInfo.pCurFramePic = none then 0 else attributed history) +
        (unconsumed pass.before - unconsumed pass.after) := by
  unfold attributed
  rw [foldl_append, foldl_cons, foldl_nil]

/-- The loop of `H264DecodeFrameNew` over the NALs of a frame, which it leaves when the index
is equal to `nCurNaluIdx`; `none` is a read behind the list. -/
def naluLoop (nalus : List NaluInfo) : Nat → Nat → Option (List NaluInfo)
  | 0, _ => none
  | fuel + 1, nCurNaluIdx =>
    nalus[nCurNaluIdx]?.bind fun nalu =>
      if nCurNaluIdx + 1 = nalus.length then some [nalu]
      else (naluLoop nalus fuel (nCurNaluIdx + 1)).map fun rest => nalu :: rest

theorem nalu_loop_stops (nalus : List NaluInfo) (fuel nCurNaluIdx : Nat)
    (inside : nCurNaluIdx < nalus.length) (enough : nalus.length ≤ fuel + nCurNaluIdx) :
    naluLoop nalus fuel nCurNaluIdx = some (nalus.drop nCurNaluIdx) := by
  induction fuel generalizing nCurNaluIdx with
  | zero => omega
  | succ fuel later =>
    rw [naluLoop, List.getElem?_eq_getElem inside, bind_some, drop_eq_getElem_cons inside]
    by_cases last : nCurNaluIdx + 1 = nalus.length
    · rw [if_pos last, last, drop_length]
    · rw [if_neg last, later (nCurNaluIdx + 1) (by omega) (by omega), map_some]

structure Whole (bytes : Int) (frame : FramePicInfo) : Prop where
  nalus : frame.pNaluInfoList ≠ []
  positive : 0 < frame.nlength
  length : frame.nlength = bytes
  stops : naluLoop frame.pNaluInfoList frame.nCurNaluIdx 0 = some frame.pNaluInfoList

def EmittedWhole (history : List PassTaken) : Prop :=
  ∀ earlier pass later, history = earlier ++ pass :: later →
    ∀ frame ∈ addedFrame pass, frame.bValidFlag = true →
      Whole (attributed (earlier ++ [pass])) frame

theorem emitted_whole_append {history : List PassTaken} {pass : PassTaken}
    (whole : EmittedWhole history) (newest : ∀ frame ∈ addedFrame pass, frame.bValidFlag = true →
      Whole (attributed (history ++ [pass])) frame) : EmittedWhole (history ++ [pass]) := by
  intro earlier other later same frame added valid
  rcases eq_nil_or_concat later with rfl | ⟨rest, last, rfl⟩
  · have parts := append_inj' same rfl
    rw [← parts.1]
    rw [← singleton_inj.mp parts.2] at added ⊢
    exact newest frame added valid
  · have parts : history = earlier ++ other :: rest := by
      rw [concat_eq_append, ← cons_append, ← append_assoc] at same
      exact (append_inj' same rfl).1
    exact whole earlier other rest parts frame added valid

theorem whole_of_nalus {bytes : Int} {frame : FramePicInfo} (nalus : frame.pNaluInfoList ≠ [])
    (positive : 0 < frame.nlength) (length : frame.nlength = bytes) : Whole bytes frame where
  nalus := nalus
  positive := positive
  length := length
  stops := by
    have filled := length_pos_iff.mpr nalus
    exact nalu_loop_stops frame.pNaluInfoList _ 0 filled (Nat.le_refl _)

/-- The supply in front of the detection: the chunk that the pass looks at. -/
def readyAt (detector : Detector) (pSbm : SbmFrame) (pCurFramePic : Nat) :
    Option (SbmFrame × Supply) :=
  if NeedsSupply pSbm then supplyStreamData pSbm detector.nReback pCurFramePic
  else some (pSbm, .supplied)

/-- The chunk does not go on with a NAL, and `disposeInvalidStreamData` gives the frame up: it
has no byte before the chunk, or it is too long with it. -/
def givesUpAt (detector : Detector) (pSbm : SbmFrame) (pCurFramePic p : Nat) (ptr : Int) : Prop :=
  let pStream := pSbm.frameFifo.pFrames p
  let marked := markStart pSbm pCurFramePic pStream ptr
  let frame := marked.curFrame pCurFramePic
  let size := marked.mDetectInfo.nCurStreamDataSize
  (detector.beforeNalu marked ptr size = none ∨ frame.nCurNaluIdx > MAX_NALU_NUM_IN_FRAME) ∧
    ((ptr = pStream.pData ∧ frame.nlength = 0) ∨
      s32 (frame.nlength + size) > MAX_INVALID_STREAM_DATA_SIZE)
deriving Decidable

def givesUpBegun (codec : Codec) (pSbm : SbmFrame) : Bool :=
  pSbm.mDetectInfo.bCurFrameStartCodeFound &&
    pSbm.mDetectInfo.pCurFramePic.any fun pCurFramePic =>
      (readyAt (detectorOf codec pSbm) pSbm pCurFramePic).any fun (ready, result) =>
        decide (result = .supplied) &&
          ready.mDetectInfo.pCurStream.any fun p =>
            ready.mDetectInfo.pCurStreamDataptr.any fun ptr =>
            decide (givesUpAt (detectorOf codec pSbm) ready pCurFramePic p ptr)

/-- Every pass reads a prefix that fits, and gives up no frame that has its first slice. -/
def EmissionGuard (codec : Codec) (system : SbmSystem) (op : SbmOp) : Prop :=
  PrefixGuard codec system op ∧ (op matches .detect → system.pSbm.bStreamWithStartCode = -1 ∨
      givesUpBegun codec system.pSbm = false)
deriving Decidable

section Writes

variable {slot p : Nat} {before middle after pSbm base next ready : SbmFrame}
  {counts final : Counts} {detector : Detector} {ptr : Int}

def Writes (slot : Nat) (before after : SbmFrame) : Prop :=
  after.mFramePicFifo = before.mFramePicFifo.store slot (after.curFrame slot)

theorem writes_of_same (same : after.mFramePicFifo = before.mFramePicFifo) :
    Writes slot before after := by
  unfold Writes SbmFrame.curFrame FrameFifo.store
  rw [same, update_eq_self]

theorem writes_set_frame (pSbm : SbmFrame) (slot : Nat) (frame : FramePicInfo)
    (same : after.mFramePicFifo = (pSbm.setFrame slot frame).mFramePicFifo) :
    Writes slot pSbm after := by
  have here : after.curFrame slot = frame := by
    unfold SbmFrame.curFrame
    rw [same]
    exact set_frame_same frame
  unfold Writes
  rw [here, same]
  rfl

theorem writes_trans (earlier : Writes slot before middle) (later : Writes slot middle after) :
    Writes slot before after := by
  unfold Writes at earlier later ⊢
  rw [later, earlier]
  unfold FrameFifo.store
  rw [update_idem]

/-- The frame under construction keeps its NALs and marks, and its length an `int`. -/
structure Carries (slot : Nat) (before after : SbmFrame) : Prop where
  writes : Writes slot before after
  valid : (after.curFrame slot).bValidFlag = (before.curFrame slot).bValidFlag
  nalus : naluLists after slot = naluLists before slot
  range : InS32 (before.curFrame slot).nlength → InS32 (after.curFrame slot).nlength
  found : after.mDetectInfo.bCurFrameStartCodeFound = before.mDetectInfo.bCurFrameStartCodeFound

theorem carries_refl (slot : Nat) (pSbm : SbmFrame) : Carries slot pSbm pSbm :=
  ⟨writes_of_same rfl, rfl, rfl, id, rfl⟩

theorem carries_trans (earlier : Carries slot before middle) (later : Carries slot middle after) :
    Carries slot before after where
  writes := writes_trans earlier.writes later.writes
  valid := later.valid.trans earlier.valid
  nalus := later.nalus.trans earlier.nalus
  range := fun small => later.range (earlier.range small)
  found := later.found.trans earlier.found

theorem carries_written (frame : FramePicInfo)
    (same : after.mFramePicFifo = (pSbm.setFrame slot frame).mFramePicFifo)
    (valid : frame.bValidFlag = (pSbm.curFrame slot).bValidFlag)
    (nalus : frame.pNaluInfoList = (pSbm.curFrame slot).pNaluInfoList)
    (range : InS32 (pSbm.curFrame slot).nlength → InS32 frame.nlength)
    (found : after.mDetectInfo.bCurFrameStartCodeFound = pSbm.mDetectInfo.bCurFrameStartCodeFound) :
    Carries slot pSbm after := by
  have here : after.curFrame slot = frame := by
    unfold SbmFrame.curFrame
    rw [same]
    exact set_frame_same frame
  constructor
  · exact writes_set_frame pSbm slot frame same
  · rw [here, valid]
  · unfold naluLists
    rw [here, nalus]
  · rw [here]
    exact range
  · exact found

theorem idled_carries (base : SbmFrame) (slot : Nat) : Carries slot base (idled base slot) := by
  unfold idled
  split_ifs
  · exact carries_refl slot base
  · apply carries_written { base.curFrame slot with
      nlength := s32 ((base.curFrame slot).nlength + base.mDetectInfo.nCurStreamDataSize) }
    · rfl
    · rfl
    · rfl
    · exact fun _ => s32_range _
    · rfl

theorem supplies_carries {nReback : SbmFrame → VideoStreamDataInfo → Bool} {result : Supply}
    (supplies : Supplies nReback pSbm counts next result final) : Carries slot pSbm next := by
  cases supplies <;> exact ⟨writes_of_same rfl, rfl, rfl, id, rfl⟩

theorem mark_start_carries (pSbm : SbmFrame) (slot : Nat) (pStream : VideoStreamDataInfo)
    (ptr : Int) : Carries slot pSbm (markStart pSbm slot pStream ptr) := by
  unfold markStart
  dsimp only
  split_ifs
  · exact carries_written _ rfl rfl rfl id rfl
  · exact carries_refl slot pSbm

theorem stamped_carries (pSbm : SbmFrame) (slot : Nat) : Carries slot pSbm (stamped pSbm slot) :=
  carries_written _ rfl rfl rfl id rfl

theorem ready_carries (isReady : Ready detector pSbm counts slot ready final p ptr) :
    ∃ base, Claims pSbm slot base ∧ Carries slot base ready := by
  rcases isReady.from_base with ⟨base, claims, ⟨_, same, _⟩ | ⟨_, supplies⟩⟩
  · rw [same]
    exact ⟨base, claims, carries_refl slot base⟩
  · exact ⟨base, claims, carries_trans (idled_carries base slot) (supplies_carries supplies)⟩

structure Claimed (pSbm : SbmFrame) (slot : Nat) (base : SbmFrame) : Prop where
  writes : Writes slot pSbm base
  valid : (base.curFrame slot).bValidFlag = true
  range : InS32 (base.curFrame slot).nlength
  found : base.mDetectInfo.bCurFrameStartCodeFound = pSbm.mDetectInfo.bCurFrameStartCodeFound
  begins : pSbm.mDetectInfo.bCurFrameStartCodeFound = true →
    pSbm.mDetectInfo.pCurFramePic = some slot ∧ base = pSbm ∧ naluLists base slot ≠ []

theorem claims_claimed
    (current : ∀ slot ∈ pSbm.mDetectInfo.pCurFramePic,
      (pSbm.curFrame slot).bValidFlag = true ∧ InS32 (pSbm.curFrame slot).nlength)
    (begins : pSbm.mDetectInfo.bCurFrameStartCodeFound = true →
      ∃ slot, pSbm.mDetectInfo.pCurFramePic = some slot ∧ naluLists pSbm slot ≠ [])
    (claims : Claims pSbm slot base) : Claimed pSbm slot base := by
  cases claims with
  | current here =>
    constructor
    · exact writes_of_same rfl
    · exact (current slot here).1
    · exact (current slot here).2
    · rfl
    · intro found
      rcases begins found with ⟨other, there, nalus⟩
      have same : slot = other := Option.some.inj (here.symm.trans there)
      rw [← same] at nalus
      exact ⟨here, rfl, nalus⟩
  | fresh nothing granted =>
    have blank : (initFramePicInfo pSbm slot).curFrame slot =
        { pSbm.curFrame slot with
          bValidFlag := true, nlength := 0, pDataStartAddr := none, nPts := -1, nPcr := -1
          pNaluInfoList := [] } := set_frame_same _
    constructor
    · exact writes_set_frame pSbm slot _ rfl
    · rw [blank]
    · rw [blank]
      exact show InS32 0 from ⟨by decide, by decide⟩
    · rfl
    · intro found
      rcases begins found with ⟨other, there, _⟩
      rw [nothing] at there
      cases there

theorem supplies_unique {nReback : SbmFrame → VideoStreamDataInfo → Bool} {other : SbmFrame}
    {result : Supply} {otherFinal : Counts}
    (supplies : Supplies nReback pSbm counts next .supplied final)
    (also : Supplies nReback pSbm counts other result otherFinal) :
    other = next ∧ result = .supplied := by
  cases supplies with
  | chunk waiting here bytes =>
    cases also with
    | nothing dry => omega
    | empty again there hollow =>
      subst here there
      omega
    | chunk again there more =>
      subst here there
      exact ⟨rfl, rfl⟩

theorem ready_at_ready (kept : SbmKept pSbm counts)
    (isReady : Ready detector pSbm counts slot ready final p ptr)
    (here : pSbm.mDetectInfo.pCurFramePic = some slot) :
    readyAt detector pSbm slot = some (ready, .supplied) := by
  rcases isReady.from_base with ⟨base, claims, supply⟩
  have same : base = pSbm := by
    cases claims with
    | current _ => rfl
    | fresh nothing _ =>
      rw [nothing] at here
      cases here
  subst same
  unfold readyAt
  rcases supply with ⟨enough, same, _⟩ | ⟨needs, supplies⟩
  · rw [if_neg enough, same]
  · rcases supply_spec kept slot detector.nReback with ⟨next, result, after, supply, also⟩
    rcases supplies_unique supplies also with ⟨rfl, rfl⟩
    rw [if_pos needs, supply]

theorem given_up_unbegun {codec : Codec} {marked : SbmFrame} {frame : FramePicInfo}
    (kept : SbmKept pSbm counts) (guard : givesUpBegun codec pSbm = false)
    (begins : pSbm.mDetectInfo.bCurFrameStartCodeFound = true →
      pSbm.mDetectInfo.pCurFramePic = some slot)
    (isReady : Ready (detectorOf codec pSbm) pSbm counts slot ready final p ptr)
    (isMarked : marked = markStart ready slot (ready.frameFifo.pFrames p) ptr)
    (bad : (detectorOf codec pSbm).beforeNalu marked ptr marked.mDetectInfo.nCurStreamDataSize =
        none ∨ (marked.curFrame slot).nCurNaluIdx > MAX_NALU_NUM_IN_FRAME)
    (disposes : Disposes marked slot p ptr frame true) :
    pSbm.mDetectInfo.bCurFrameStartCodeFound = false := by
  by_contra found
  have isFound : pSbm.mDetectInfo.bCurFrameStartCodeFound = true := by simpa using found
  have here := begins isFound
  have chunks : marked.frameFifo = ready.frameFifo := isMarked ▸ mark_start_chunks _ _
  have gives : givesUpAt (detectorOf codec pSbm) ready slot p ptr := by
    unfold givesUpAt
    dsimp only
    rw [← isMarked]
    apply And.intro bad
    cases disposes with
    | whole atStart begun =>
      rw [chunks] at atStart
      exact .inl ⟨atStart, begun⟩
    | long notWhole tooLong => exact .inr tooLong
  unfold givesUpBegun at guard
  rw [isFound, here, any_some, ready_at_ready kept isReady here, any_some] at guard
  simp only [isReady.stream, isReady.cursor, any_some, decide_eq_true gives] at guard
  exact absurd guard (by decide)

end Writes

section Pass

variable {codec : Codec} {slot p : Nat} {pSbm base next ready marked : SbmFrame}
  {counts final : Counts} {ptr : Int} {outcome : Outcome}

theorem skip_writes (pSbm : SbmFrame) (slot : Nat) (ptr nSkipSize : Int) :
    Writes slot pSbm (skipCurStreamDataBytes pSbm slot ptr nSkipSize) :=
  writes_set_frame pSbm slot _ rfl

theorem record_writes (detector : Detector) (pSbm : SbmFrame) (slot : Nat)
    (pStream : VideoStreamDataInfo) (ptr nBefore : Int) (naluHeader : UInt8) :
    Writes slot pSbm (recordNalu detector pSbm slot pStream ptr nBefore naluHeader) := by
  have stores : ∀ (state : SbmFrame) (nalu : NaluInfo),
      Writes slot state (storeNaluInfo state detector.bTakeVideoInfo slot pStream nalu) :=
    fun state _ => writes_set_frame state slot _ rfl
  unfold recordNalu
  apply writes_trans (skip_writes pSbm slot ptr nBefore)
  apply writes_trans (stores _ _)
  exact skip_writes _ slot _ _

theorem begun_carries (boundary : Boundary) (marked : SbmFrame) (slot nNaluType : Nat) :
    Writes slot marked (begun boundary marked slot nNaluType) ∧
      ((begun boundary marked slot nNaluType).curFrame slot).bValidFlag =
        (marked.curFrame slot).bValidFlag := by
  unfold begun
  split_ifs
  · have here : (markFound marked slot nNaluType).curFrame slot =
        { marked.curFrame slot with nFrameNaluType := nNaluType } := set_frame_same _
    rw [here]
    exact ⟨writes_set_frame marked slot _ rfl, rfl⟩
  · exact ⟨writes_of_same rfl, rfl⟩

structure Building (pSbm : SbmFrame) (slot : Nat) (next : SbmFrame) (outcome : Outcome) : Prop where
  current : next.mDetectInfo.pCurFramePic = some slot
  writes : Writes slot pSbm next
  valid : (next.curFrame slot).bValidFlag = true
  range : InS32 (next.curFrame slot).nlength
  begins : next.mDetectInfo.bCurFrameStartCodeFound = true → naluLists next slot ≠ [] ∧
    (pSbm.mDetectInfo.bCurFrameStartCodeFound = true ∨ outcome = .again)

/-- The frame is in the FIFO; a valid one had its first slice, and so a NAL, before the pass. -/
structure Adding (pSbm : SbmFrame) (slot : Nat) (next : SbmFrame) : Prop where
  none_left : next.mDetectInfo.pCurFramePic = none
  joined : next.mFramePicFifo = (pSbm.mFramePicFifo.store slot (next.curFrame slot)).advanceWrite
  range : InS32 (next.curFrame slot).nlength
  found : next.mDetectInfo.bCurFrameStartCodeFound = false
  whole : (next.curFrame slot).bValidFlag = true → naluLists next slot ≠ [] ∧
    pSbm.mDetectInfo.bCurFrameStartCodeFound = true

theorem adding_joined (writes : Writes slot pSbm marked)
    (range : InS32 (marked.curFrame slot).nlength) {found : Bool} (isFalse : found = false)
    (whole : (marked.curFrame slot).bValidFlag = true → naluLists marked slot ≠ [] ∧
      pSbm.mDetectInfo.bCurFrameStartCodeFound = true) :
    Adding pSbm slot (frameJoined marked found) where
  none_left := rfl
  joined := congrArg FrameFifo.advanceWrite writes
  range := range
  found := isFalse
  whole := whole

theorem found_before (claimed : Claimed pSbm slot base) (carries : Carries slot base next)
    (found : next.mDetectInfo.bCurFrameStartCodeFound = true) :
    pSbm.mDetectInfo.bCurFrameStartCodeFound = true := by
  rw [← claimed.found, ← carries.found]
  exact found

/-- A pass that leaves the FIFO and the frame under construction as they are, apart from the
bytes that join the frame. -/
theorem building_dry (claimed : Claimed pSbm slot base) (carries : Carries slot base next)
    (current : next.mDetectInfo.pCurFramePic = some slot) (outcome : Outcome) :
    Building pSbm slot next outcome where
  current := current
  writes := writes_trans claimed.writes carries.writes
  valid := carries.valid.trans claimed.valid
  range := carries.range claimed.range
  begins := by
    intro found
    have before := found_before claimed carries found
    rw [carries.nalus]
    exact ⟨(claimed.begins before).2.2, .inl before⟩

theorem adding_stamped (claimed : Claimed pSbm slot base) (carries : Carries slot base marked)
    (found : marked.mDetectInfo.bCurFrameStartCodeFound = true) :
    Adding pSbm slot (frameJoined (stamped marked slot) false) := by
  have stamps := carries_trans carries (stamped_carries marked slot)
  have before := found_before claimed carries found
  apply adding_joined (writes_trans claimed.writes stamps.writes) (stamps.range claimed.range) rfl
  intro _
  rw [stamps.nalus]
  exact ⟨(claimed.begins before).2.2, before⟩

theorem disposes_range {frame : FramePicInfo} {givenUp : Bool}
    (chunk : InS32 (marked.frameFifo.pFrames p).nLength)
    (disposes : Disposes marked slot p ptr frame givenUp) : InS32 frame.nlength := by
  cases disposes with
  | whole _ _ => exact chunk
  | long _ _ | joined _ _ => exact s32_range _

theorem disposed_current {frame : FramePicInfo} :
    (disposed marked slot frame).curFrame slot = frame :=
  set_frame_same frame

theorem passes_frame (kept : SbmKept pSbm counts) (guard : givesUpBegun codec pSbm = false)
    (current : ∀ slot ∈ pSbm.mDetectInfo.pCurFramePic,
      (pSbm.curFrame slot).bValidFlag = true ∧ InS32 (pSbm.curFrame slot).nlength)
    (begins : pSbm.mDetectInfo.bCurFrameStartCodeFound = true →
      ∃ slot, pSbm.mDetectInfo.pCurFramePic = some slot ∧ naluLists pSbm slot ≠ [])
    (chunks : ∀ slot ready after p ptr,
      Ready (detectorOf codec pSbm) pSbm counts slot ready after p ptr →
        InS32 (ready.frameFifo.pFrames p).nLength)
    (passes : Passes (detectorOf codec pSbm) pSbm counts next outcome final) :
    next = pSbm ∨ ∃ slot base, Claims pSbm slot base ∧
      (Building pSbm slot next outcome ∨ Adding pSbm slot next) := by
  cases passes with
  | noFramePic nothing full => exact .inl rfl
  | @dry slot base next result after claims needs supplies nothing goesOn =>
    have claimed := claims_claimed current begins claims
    have carries := carries_trans (idled_carries base slot)
      (@supplies_carries slot _ _ _ _ _ _ supplies)
    have here : next.mDetectInfo.pCurFramePic = some slot := by
      rw [supplies_frame supplies, idled_frame, claims_current claims]
    exact .inr ⟨slot, base, claims, .inl (building_dry claimed carries here _)⟩
  | @eosFrame slot base next result after claims needs supplies nothing ends =>
    have claimed := claims_claimed current begins claims
    have carries := carries_trans (idled_carries base slot)
      (@supplies_carries slot _ _ _ _ _ _ supplies)
    exact .inr ⟨slot, base, claims, .inr (adding_stamped claimed carries ends.1)⟩
  | @invalid slot p ready marked after ptr frame givenUp isReady isMarked bad disposes =>
    rcases ready_carries isReady with ⟨base, claims, readied⟩
    have claimed := claims_claimed current begins claims
    have carries : Carries slot base marked :=
      carries_trans readied (isMarked ▸ mark_start_carries ready slot _ _)
    have fifo : marked.frameFifo = ready.frameFifo := isMarked ▸ mark_start_chunks _ _
    have range : InS32 frame.nlength := by
      apply disposes_range _ disposes
      rw [fifo]
      exact chunks _ _ _ _ _ isReady
    have writes : Writes slot marked (disposed marked slot frame) :=
      writes_set_frame marked slot frame rfl
    have nalus : naluLists (disposed marked slot frame) slot = naluLists marked slot := by
      rw [disposed_nalus disposes]
    refine .inr ⟨slot, base, claims, ?_⟩
    cases givenUp with
    | false =>
      have valid : frame.bValidFlag = (marked.curFrame slot).bValidFlag := by
        cases disposes
        rfl
      left
      constructor
      · change marked.mDetectInfo.pCurFramePic = some slot
        rw [isMarked, mark_start_detect, ready_current isReady]
      · exact writes_trans (writes_trans claimed.writes carries.writes) writes
      · change ((disposed marked slot frame).curFrame slot).bValidFlag = true
        rw [disposed_current, valid, carries.valid, claimed.valid]
      · change InS32 ((disposed marked slot frame).curFrame slot).nlength
        rw [disposed_current]
        exact range
      · intro found
        have before := found_before claimed carries found
        change naluLists (disposed marked slot frame) slot ≠ [] ∧ _
        rw [nalus, carries.nalus]
        exact ⟨(claimed.begins before).2.2, .inl before⟩
    | true =>
      have unbegun := given_up_unbegun kept guard (fun found => (claimed.begins found).1) isReady
        isMarked bad disposes
      have invalid : frame.bValidFlag = false := by cases disposes <;> rfl
      right
      apply adding_joined (writes_trans (writes_trans claimed.writes carries.writes) writes)
      · rw [disposed_current]
        exact range
      · rw [carries.found, claimed.found]
        exact unbegun
      · rw [disposed_current, invalid]
        exact fun never => absurd never Bool.false_ne_true
  | @frame slot p ready marked after ptr nBefore isReady isMarked before fits boundary =>
    rcases ready_carries isReady with ⟨base, claims, readied⟩
    have claimed := claims_claimed current begins claims
    have carries : Carries slot base marked :=
      carries_trans readied (isMarked ▸ mark_start_carries ready slot _ _)
    exact .inr ⟨slot, base, claims, .inr (adding_stamped claimed carries
      (new_frame_found codec boundary))⟩
  | @again slot p ready marked after ptr nBefore boundary isReady isMarked before fits isBoundary
      inside =>
    rcases ready_carries isReady with ⟨base, claims, readied⟩
    have claimed := claims_claimed current begins claims
    have carries : Carries slot base marked :=
      carries_trans readied (isMarked ▸ mark_start_carries ready slot _ _)
    rcases begun_carries boundary marked slot
      ((detectorOf codec pSbm).naluType (readByteIdx marked (ptr + nBefore) 0)) with
      ⟨begunWrites, begunValid⟩
    refine .inr ⟨slot, base, claims, .inl ?_⟩
    constructor
    · rw [record_detect, begun_detect, isMarked, mark_start_detect]
      exact ready_current isReady
    · exact writes_trans (writes_trans (writes_trans claimed.writes carries.writes) begunWrites)
        (record_writes _ _ _ _ _ _ _)
    · rw [record_frame]
      exact begunValid.trans (carries.valid.trans claimed.valid)
    · rw [record_frame]
      exact s32_range _
    · intro _
      rw [record_nalus, update_self]
      exact ⟨by simp, .inr rfl⟩

end Pass

section Bytes

variable {codec : Codec} {slot : Nat} {system : SbmSystem} {pSbm base next : SbmFrame}
  {counts final : Counts} {outcome : Outcome}

theorem held_unconsumed (pSbm : SbmFrame) : heldBytes pSbm = unconsumed pSbm + frameBytes pSbm +
      validSum FramePicInfo.nlength pSbm.mFramePicFifo := rfl

theorem claims_place (kept : SbmKept pSbm counts) (claims : Claims pSbm slot base) :
    slot = counts.framesAdded % pSbm.mFramePicFifo.nMaxFrameNum ∧
      counts.framesAdded < counts.framesFlushed + pSbm.mFramePicFifo.nMaxFrameNum := by
  cases claims with
  | current here => exact kept.slot slot here
  | fresh nothing granted => exact request_empty_spec kept granted

theorem valid_sum_nonneg (sizes : ∀ slot, 0 ≤ (pSbm.curFrame slot).nlength) :
    0 ≤ validSum FramePicInfo.nlength pSbm.mFramePicFifo := by
  apply sum_nonneg
  intro size member
  rcases mem_map.mp member with ⟨frame, inWindow, rfl⟩
  rcases mem_map.mp inWindow with ⟨position, _, rfl⟩
  exact sizes _

theorem writes_valid_sum (kept : SbmKept pSbm counts) (claims : Claims pSbm slot base)
    (writes : Writes slot pSbm next) :
    validSum FramePicInfo.nlength next.mFramePicFifo =
      validSum FramePicInfo.nlength pSbm.mFramePicFifo := by
  rcases claims_place kept claims with ⟨rfl, free⟩
  rw [writes]
  exact valid_sum_store _ kept.frames free _

theorem adding_valid_sum (kept : SbmKept pSbm counts) (claims : Claims pSbm slot base)
    (adding : Adding pSbm slot next) :
    validSum FramePicInfo.nlength next.mFramePicFifo =
      validSum FramePicInfo.nlength pSbm.mFramePicFifo + (next.curFrame slot).nlength := by
  rcases claims_place kept claims with ⟨place, free⟩
  have stored := SbmFrameFifo.store_cursors kept.frames slot (next.curFrame slot)
  have write := valid_sum_advance_write FramePicInfo.nlength stored free
  have entry : (pSbm.mFramePicFifo.store slot (next.curFrame slot)).pFrames
      (counts.framesAdded % pSbm.mFramePicFifo.nMaxFrameNum) = next.curFrame slot := by
    rw [← place]
    exact update_self _ _ _
  rw [adding.joined, write]
  change _ + ((pSbm.mFramePicFifo.store slot (next.curFrame slot)).pFrames
    (counts.framesAdded % pSbm.mFramePicFifo.nMaxFrameNum)).nlength = _
  rw [entry, place, valid_sum_store _ kept.frames free]

/-- The frame has the bytes it had, and those that the pass took off the chunks. -/
theorem frame_takes {frames size : Int} (same : s32 (heldBytes next) = s32 (heldBytes pSbm))
    (held : heldBytes next = unconsumed next + size + frames)
    (before : heldBytes pSbm = unconsumed pSbm + frameBytes pSbm + frames)
    (range : InS32 size) (rest : 0 ≤ unconsumed next) (less : unconsumed next ≤ unconsumed pSbm)
    (bytes : 0 ≤ frameBytes pSbm) (others : 0 ≤ frames) (room : heldBytes pSbm ≤ RING_LIMIT) :
    size = frameBytes pSbm + (unconsumed pSbm - unconsumed next) := by
  unfold InS32 at range
  unfold RING_LIMIT at room
  unfold s32 at same
  omega

theorem building_held (building : Building pSbm slot next outcome) :
    heldBytes next = unconsumed next + (next.curFrame slot).nlength +
      validSum FramePicInfo.nlength next.mFramePicFifo :=
  held_current building.current

theorem adding_held (adding : Adding pSbm slot next) :
    heldBytes next = unconsumed next + validSum FramePicInfo.nlength next.mFramePicFifo := by
  rw [held_unconsumed]
  unfold frameBytes
  rw [adding.none_left, Int.add_zero]

theorem building_adds_none (building : Building pSbm slot next outcome) :
    addedFrame ⟨pSbm, next, outcome⟩ = none := by
  have stored : next.mFramePicFifo = pSbm.mFramePicFifo.store slot (next.curFrame slot) :=
    building.writes
  have same : next.mFramePicFifo.nValidFrameNum = pSbm.mFramePicFifo.nValidFrameNum := by
    rw [stored]
    rfl
  unfold addedFrame
  rw [if_pos same]

theorem adding_added (kept : SbmKept pSbm counts) (claims : Claims pSbm slot base)
    (adding : Adding pSbm slot next) (outcome : Outcome) :
    addedFrame ⟨pSbm, next, outcome⟩ = some (next.curFrame slot) := by
  have more : next.mFramePicFifo.nValidFrameNum = pSbm.mFramePicFifo.nValidFrameNum + 1 :=
    congrArg FrameFifo.nValidFrameNum adding.joined
  unfold addedFrame
  rw [if_neg (show ¬ next.mFramePicFifo.nValidFrameNum =
      pSbm.mFramePicFifo.nValidFrameNum by omega),
    kept.frames.writePos, ← (claims_place kept claims).1]

end Bytes

variable {codec : Codec} {slot : Nat} {system next : SbmSystem} {pSbm base : SbmFrame}
  {counts after : Counts} {op : SbmOp} {outcome : Outcome}

/-- What holds between any two steps of a guarded run. -/
structure EmissionKept (system : SbmSystem) (counts : Counts) : Prop where
  kept : RunKept system counts
  inside : CursorInside system.pSbm
  tied : CursorTied system.pSbm
  balanced : Balanced system.pSbm
  sizes : ∀ slot, 0 ≤ (system.pSbm.curFrame slot).nlength
  room : heldBytes system.pSbm ≤ system.pSbm.nStreamBufferSize
  current : ∀ slot ∈ system.pSbm.mDetectInfo.pCurFramePic,
    (system.pSbm.curFrame slot).bValidFlag = true ∧
      (system.pSbm.curFrame slot).nlength = attributed system.history
  begins : system.pSbm.mDetectInfo.bCurFrameStartCodeFound = true →
    ∃ slot, system.pSbm.mDetectInfo.pCurFramePic = some slot ∧
      naluLists system.pSbm slot ≠ [] ∧ 0 < (system.pSbm.curFrame slot).nlength
  whole : EmittedWhole system.history

theorem frame_bytes_nonneg (sizes : ∀ slot, 0 ≤ (pSbm.curFrame slot).nlength) :
    0 ≤ frameBytes pSbm := by
  unfold frameBytes
  split
  · exact Int.le_refl 0
  · exact sizes _

theorem unconsumed_nonneg (kept : RunKept system counts) (inside : CursorInside system.pSbm) :
    0 ≤ unconsumed system.pSbm :=
  Int.add_nonneg (unread_nonneg kept) (size_nonneg kept.sbm inside)

variable (emission : EmissionKept system counts)

include emission

theorem frame_bytes_attributed : frameBytes system.pSbm =
      if system.pSbm.mDetectInfo.pCurFramePic = none then 0 else attributed system.history := by
  unfold frameBytes
  split
  · next nothing => rw [if_pos nothing]
  · next slot here =>
    rw [if_neg (by rw [here]; exact some_ne_none slot)]
    exact (emission.current slot here).2

theorem frame_bytes_begun (found : system.pSbm.mDetectInfo.bCurFrameStartCodeFound = true) :
    0 < frameBytes system.pSbm := by
  rcases emission.begins found with ⟨slot, here, _, positive⟩
  unfold frameBytes
  rw [here]
  exact positive

theorem current_small : frameBytes system.pSbm ≤ system.pSbm.nStreamBufferSize := by
  have rest := unconsumed_nonneg emission.kept emission.inside
  have others := valid_sum_nonneg emission.sizes
  have room := emission.room
  rw [held_unconsumed] at room
  omega

theorem emission_frame (guard : givesUpBegun codec system.pSbm = false)
    (passes : Passes (detectorOf codec system.pSbm) system.pSbm counts pSbm outcome after) :
    pSbm = system.pSbm ∨ ∃ slot base, Claims system.pSbm slot base ∧
      (Building system.pSbm slot pSbm outcome ∨ Adding system.pSbm slot pSbm) := by
  have limit := emission.kept.shape.limit
  unfold RING_LIMIT at limit
  apply passes_frame emission.kept.sbm guard _ _ _ passes
  · intro slot here
    have small := current_small emission
    have nonneg := emission.sizes slot
    unfold frameBytes at small
    rw [here] at small
    dsimp only at small
    exact ⟨(emission.current slot here).1, by unfold InS32; omega⟩
  · intro found
    rcases emission.begins found with ⟨slot, here, nalus, _⟩
    exact ⟨slot, here, nalus⟩
  · intro slot ready between p ptr isReady
    have same := ready_input isReady
    have chunk := ready_chunk emission.kept isReady
    have size : ready.nStreamBufferSize = system.pSbm.nStreamBufferSize :=
      congrArg Input.nStreamBufferSize same
    have bounds := chunk.2.1
    have nonneg := chunk.1
    unfold InS32
    omega

omit emission

theorem writes_other {before after : SbmFrame} {other : Nat} (writes : Writes slot before after)
    (apart : other ≠ slot) : after.curFrame other = before.curFrame other := by
  unfold SbmFrame.curFrame
  rw [writes]
  exact update_of_ne apart _ _

theorem building_sizes {next : SbmFrame} (sizes : ∀ slot, 0 ≤ (pSbm.curFrame slot).nlength)
    (writes : ∀ other, other ≠ slot → next.curFrame other = pSbm.curFrame other)
    (here : 0 ≤ (next.curFrame slot).nlength) (other : Nat) :
    0 ≤ (next.curFrame other).nlength := by
  by_cases same : other = slot
  · rw [same]
    exact here
  · rw [writes other same]
    exact sizes other

section Passed

variable (emission : EmissionKept system counts)
  (accounted : Accounted ⟨pSbm, system.held, system.history ++ [⟨system.pSbm, pSbm, outcome⟩]⟩
    after)
  (inside : CursorInside pSbm) (sound : prefixSound codec system.pSbm = true)
  (passes : Passes (detectorOf codec system.pSbm) system.pSbm counts pSbm outcome after)

include emission accounted inside sound passes

theorem taken_exact {size frames : Int} (held : heldBytes pSbm = unconsumed pSbm + size + frames)
    (others : frames = validSum FramePicInfo.nlength system.pSbm.mFramePicFifo)
    (range : InS32 size) :
    size = attributed (system.history ++ [⟨system.pSbm, pSbm, outcome⟩]) ∧
      frameBytes system.pSbm ≤ size ∧ heldBytes pSbm = heldBytes system.pSbm ∧
      (outcome = .again → frameBytes system.pSbm < size) := by
  have progress := passes_progress emission.kept emission.inside sound passes
  have limit := emission.kept.shape.limit
  have exact_size := frame_takes (held_passes emission.kept emission.tied passes) held
    (others ▸ held_unconsumed system.pSbm) range (unconsumed_nonneg accounted.kept inside)
    progress.2.1 (frame_bytes_nonneg emission.sizes) (others ▸ valid_sum_nonneg emission.sizes)
    (Int.le_trans emission.room limit)
  have less := progress.2.1
  apply And.intro
  · rw [attributed_append, ← frame_bytes_attributed emission]
    exact exact_size
  · apply And.intro (by omega)
    apply And.intro
    · rw [held, held_unconsumed system.pSbm, ← others]
      omega
    · rintro rfl
      have strict : unconsumed pSbm < unconsumed system.pSbm := progress.1
      omega

omit accounted inside sound in
theorem room_passed (same : heldBytes pSbm = heldBytes system.pSbm) :
    heldBytes pSbm ≤ pSbm.nStreamBufferSize := by
  have ring : pSbm.nStreamBufferSize = system.pSbm.nStreamBufferSize :=
    congrArg Input.nStreamBufferSize (passes_input passes)
  rw [same, ring]
  exact emission.room

theorem emission_building (claims : Claims system.pSbm slot base)
    (building : Building system.pSbm slot pSbm outcome) :
    EmissionKept ⟨pSbm, system.held, system.history ++ [⟨system.pSbm, pSbm, outcome⟩]⟩ after := by
  have frames := writes_valid_sum emission.kept.sbm claims building.writes
  have taken := taken_exact emission accounted inside sound passes (building_held building) frames
    building.range
  have bytes := frame_bytes_nonneg emission.sizes
  constructor
  · exact accounted.kept
  · exact inside
  · exact accounted.tied
  · exact accounted.balanced
  · exact building_sizes emission.sizes (fun other => writes_other building.writes)
      (Int.le_trans bytes taken.2.1)
  · exact room_passed emission passes taken.2.2.1
  · intro other here
    have same : slot = other := Option.some.inj (building.current.symm.trans here)
    rw [← same]
    exact ⟨building.valid, taken.1⟩
  · intro found
    rcases building.begins found with ⟨nalus, before | again⟩
    · have positive := frame_bytes_begun emission before
      exact ⟨slot, building.current, nalus, Int.lt_of_lt_of_le positive taken.2.1⟩
    · exact ⟨slot, building.current, nalus, Int.lt_of_le_of_lt bytes (taken.2.2.2 again)⟩
  · apply emitted_whole_append emission.whole
    rw [building_adds_none building]
    intro frame none_added
    cases none_added

theorem emission_adding (claims : Claims system.pSbm slot base)
    (adding : Adding system.pSbm slot pSbm) :
    EmissionKept ⟨pSbm, system.held, system.history ++ [⟨system.pSbm, pSbm, outcome⟩]⟩ after := by
  have frames := adding_valid_sum emission.kept.sbm claims adding
  have held : heldBytes pSbm = unconsumed pSbm + (pSbm.curFrame slot).nlength +
      validSum FramePicInfo.nlength system.pSbm.mFramePicFifo := by
    rw [adding_held adding, frames]
    omega
  have taken := taken_exact emission accounted inside sound passes held rfl adding.range
  have bytes := frame_bytes_nonneg emission.sizes
  have others : ∀ other, other ≠ slot → pSbm.curFrame other = system.pSbm.curFrame other := by
    intro other apart
    unfold SbmFrame.curFrame
    rw [adding.joined]
    exact update_of_ne apart _ _
  constructor
  · exact accounted.kept
  · exact inside
  · exact accounted.tied
  · exact accounted.balanced
  · exact building_sizes emission.sizes others (Int.le_trans bytes taken.2.1)
  · exact room_passed emission passes taken.2.2.1
  · intro other here
    change pSbm.mDetectInfo.pCurFramePic = some other at here
    rw [adding.none_left] at here
    cases here
  · intro found
    change pSbm.mDetectInfo.bCurFrameStartCodeFound = true at found
    rw [adding.found] at found
    cases found
  · apply emitted_whole_append emission.whole
    rw [adding_added emission.kept.sbm claims adding]
    rintro frame added valid
    have same : pSbm.curFrame slot = frame := Option.some.inj added
    rw [← same] at valid ⊢
    rcases adding.whole valid with ⟨nalus, before⟩
    have positive := frame_bytes_begun emission before
    exact whole_of_nalus nalus (Int.lt_of_lt_of_le positive taken.2.1) taken.1

end Passed

theorem emission_idle (emission : EmissionKept system counts) (accounted : Accounted
      ⟨system.pSbm, system.held, system.history ++ [⟨system.pSbm, system.pSbm, outcome⟩]⟩ after) :
    EmissionKept
      ⟨system.pSbm, system.held, system.history ++ [⟨system.pSbm, system.pSbm, outcome⟩]⟩
      after := by
  have none_added : addedFrame ⟨system.pSbm, system.pSbm, outcome⟩ = none := if_pos rfl
  constructor
  · exact accounted.kept
  · exact emission.inside
  · exact accounted.tied
  · exact accounted.balanced
  · exact emission.sizes
  · exact emission.room
  · intro slot here
    have busy : system.pSbm.mDetectInfo.pCurFramePic ≠ none := by
      rw [show system.pSbm.mDetectInfo.pCurFramePic = some slot from here]
      exact some_ne_none slot
    rcases emission.current slot here with ⟨valid, bytes⟩
    apply And.intro valid
    dsimp only
    rw [attributed_append, if_neg busy, bytes, Int.sub_self, Int.add_zero]
  · exact emission.begins
  · apply emitted_whole_append emission.whole
    rw [none_added]
    intro frame added
    cases added

/-- Without a step of the detector only the count of the bytes may change. -/
theorem emission_same {after : SbmFrame} {held : List Nat} {counts later : Counts}
    (emission : EmissionKept system counts)
    (accounted : Accounted ⟨after, held, system.history⟩ later)
    (inside : CursorInside after) (detect : after.mDetectInfo = system.pSbm.mDetectInfo)
    (frames : after.mFramePicFifo.pFrames = system.pSbm.mFramePicFifo.pFrames)
    (room : heldBytes after ≤ after.nStreamBufferSize) :
    EmissionKept ⟨after, held, system.history⟩ later := by
  have same : ∀ slot, after.curFrame slot = system.pSbm.curFrame slot :=
    fun slot => congrFun frames slot
  constructor
  · exact accounted.kept
  · exact inside
  · exact accounted.tied
  · exact accounted.balanced
  · intro slot
    rw [same slot]
    exact emission.sizes slot
  · exact room
  · intro slot here
    rw [same slot]
    rw [detect] at here
    exact emission.current slot here
  · intro found
    rw [detect] at found ⊢
    rcases emission.begins found with ⟨slot, here, nalus, positive⟩
    unfold naluLists
    exact ⟨slot, here, by rw [same slot]; exact nalus, by rw [same slot]; exact positive⟩
  · exact emission.whole

theorem add_stream_room {pSbm : SbmFrame} {pDataInfo : VideoStreamDataInfo}
    (more : (sbmFrameAddStream pSbm pDataInfo).1.frameFifo.nValidFrameNum ≠
      pSbm.frameFifo.nValidFrameNum) :
    s32 (pDataInfo.nLength + pSbm.nValidDataSize) ≤ pSbm.nStreamBufferSize := by
  unfold sbmFrameAddStream at more
  split_ifs at more with noData full tooLong
  · exact absurd rfl more
  · exact absurd rfl more
  · exact absurd rfl more
  · exact Int.not_lt.mp tooLong
  · exact Int.not_lt.mp tooLong

theorem emission_held_nonneg (emission : EmissionKept system counts) :
    0 ≤ heldBytes system.pSbm := by
  have rest := unconsumed_nonneg emission.kept emission.inside
  have bytes := frame_bytes_nonneg emission.sizes
  have others := valid_sum_nonneg emission.sizes
  rw [held_unconsumed]
  omega

/-- The test of `SbmFrameAddStream` looks at all the bytes that the ring holds. -/
theorem joined_room (emission : EmissionKept system counts) {pDataInfo marked : VideoStreamDataInfo}
    {pWriteAddr : Int} (size : marked.nLength = pDataInfo.nLength)
    (legal : ChunkInRing system.pSbm marked)
    (free : ¬ system.pSbm.frameFifo.nMaxFrameNum ≤ system.pSbm.frameFifo.nValidFrameNum)
    (accepted : (sbmFrameAddStream system.pSbm pDataInfo).1 =
      chunkJoined system.pSbm marked pWriteAddr) :
    heldBytes (chunkJoined system.pSbm marked pWriteAddr) ≤ system.pSbm.nStreamBufferSize := by
  have more : (sbmFrameAddStream system.pSbm pDataInfo).1.frameFifo.nValidFrameNum ≠
      system.pSbm.frameFifo.nValidFrameNum := by
    rw [accepted]
    exact Nat.succ_ne_self _
  have test := add_stream_room more
  have unread := joined_unread emission.kept marked free
  have held : heldBytes (chunkJoined system.pSbm marked pWriteAddr) =
      heldBytes system.pSbm + marked.nLength := by
    change unreadSum VideoStreamDataInfo.nLength (system.pSbm.frameFifo.store
      system.pSbm.frameFifo.nWritePos marked).advanceWrite +
      system.pSbm.mDetectInfo.nCurStreamDataSize + frameBytes system.pSbm +
      validSum FramePicInfo.nlength system.pSbm.mFramePicFifo = _
    rw [unread]
    unfold heldBytes
    omega
  have balanced : system.pSbm.nValidDataSize = s32 (heldBytes system.pSbm) := emission.balanced
  have limit := emission.kept.shape.limit
  have room := emission.room
  have nonneg := emission_held_nonneg emission
  have length := legal.1
  have short := legal.2.1
  unfold RING_LIMIT at limit
  rw [balanced, ← size] at test
  unfold s32 at test
  omega

theorem checks_room {withStartCode withoutStartCode : SbmFrame → VideoStreamDataInfo → Bool}
    {pSbm next : SbmFrame} {after : Counts}
    (checks : TypeChecks withStartCode withoutStartCode pSbm counts next after)
    (history : List PassTaken) (held : List Nat) (kept : RunKept ⟨pSbm, held, history⟩ counts)
    (untyped : pSbm.bStreamWithStartCode = -1) :
    next.mFramePicFifo = pSbm.mFramePicFifo ∧ heldBytes next ≤ heldBytes pSbm ∧
      next.nStreamBufferSize = pSbm.nStreamBufferSize := by
  induction checks with
  | stop pSbm counts | found waiting oldest known => exact ⟨rfl, Int.le_refl _, rfl⟩
  | @drop pSbm next counts after p waiting oldest useless later rest =>
    have dropped := dropped_unread kept untyped waiting
    have one := type_checks_kept history
      (.drop waiting oldest useless (.stop (typeDropped pSbm p) counts.chunkDone)) held kept untyped
    rcases rest one untyped with ⟨frames, less, ring⟩
    have fewer : heldBytes (typeDropped pSbm p) ≤ heldBytes pSbm := by
      change unreadSum VideoStreamDataInfo.nLength pSbm.frameFifo.advanceRead +
        pSbm.mDetectInfo.nCurStreamDataSize + frameBytes pSbm +
        validSum FramePicInfo.nlength pSbm.mFramePicFifo ≤ _
      unfold heldBytes
      omega
    exact ⟨frames, Int.le_trans less fewer, ring⟩

theorem flushed_room (emission : EmissionKept system counts)
    (read : counts.framesFlushed < counts.framesDelivered)
    (nValidDataSize : Int) :
    heldBytes { system.pSbm with
      mFramePicFifo := system.pSbm.mFramePicFifo.advanceFlush
      nValidDataSize := nValidDataSize } ≤ system.pSbm.nStreamBufferSize := by
  have flush := valid_sum_advance_flush FramePicInfo.nlength emission.kept.sbm.frames read
  have size : 0 ≤ (system.pSbm.mFramePicFifo.pFrames
      (counts.framesFlushed % system.pSbm.mFramePicFifo.nMaxFrameNum)).nlength :=
    emission.sizes _
  have room := emission.room
  change unreadSum VideoStreamDataInfo.nLength system.pSbm.frameFifo +
    system.pSbm.mDetectInfo.nCurStreamDataSize + frameBytes system.pSbm +
    validSum FramePicInfo.nlength system.pSbm.mFramePicFifo.advanceFlush ≤ _
  unfold heldBytes at room
  omega

theorem emission_steps (emission : EmissionKept system counts)
    (guard : EmissionGuard codec system op) (legal : Legal system op)
    (step : exec codec system op = some next) : ∃ after, EmissionKept next after := by
  rcases exec_steps emission.kept legal step with ⟨after, steps⟩
  have accounted := steps_accounted ⟨emission.kept, emission.tied, emission.balanced⟩ steps
  have inside := steps_inside emission.kept emission.inside guard.1 steps
  have room := emission.room
  apply Exists.intro after
  cases steps with
  | write bytes | setEos nEosFlag | delivered waiting oldest | returned position cursors held =>
    exact emission_same emission accounted inside rfl rfl room
  | refused pDataInfo | nothing none_left => exact emission
  | added pDataInfo marked pWriteAddr place size free =>
    have accepted : (sbmFrameAddStream system.pSbm pDataInfo).1 =
        chunkJoined system.pSbm marked pWriteAddr := congrArg SbmSystem.pSbm (Option.some.inj step)
    exact emission_same emission accounted inside rfl rfl
      (joined_room emission size place free accepted)
  | checked untyped checks =>
    rcases checks_room checks system.history system.held emission.kept untyped with
      ⟨frames, less, ring⟩
    apply emission_same emission accounted inside (checks_detect checks)
      (congrArg FrameFifo.pFrames frames)
    rw [ring]
    exact Int.le_trans less room
  | @passed pSbm outcome after typed pass passes =>
    have sound := guard.1.resolve_left typed
    have unbegun := (guard.2 rfl).resolve_left typed
    rcases emission_frame emission unbegun passes with
      same | ⟨slot, base, claims, building | adding⟩
    · subst same
      exact emission_idle emission accounted
    · exact emission_building emission accounted inside sound passes claims building
    · exact emission_adding emission accounted inside sound passes claims adding
  | flushed read oldest held =>
    exact emission_same emission accounted inside rfl rfl (flushed_room emission read _)

theorem start_emission {nSbmBufferTotalSize pSbmBuf : Int} {nNaluLength : Nat}
    {bytes : Int → UInt8} (limit : nSbmBufferTotalSize ≤ RING_LIMIT) (prefixBytes : nNaluLength ≤ 4)
    (init : sbmFrameInit nSbmBufferTotalSize nNaluLength pSbmBuf bytes = some pSbm) :
    EmissionKept (SbmSystem.start pSbm) ⟨0, 0, 0, 0, 0⟩ := by
  have kept := start_kept limit prefixBytes init
  have size := kept.shape.size
  unfold sbmFrameInit at init
  split_ifs at init
  have same := Option.some.inj init
  subst same
  constructor
  · exact kept
  · intro p ptr stream
    cases stream
  · intro p ptr stream
    cases stream
  · exact rfl
  · intro slot
    exact Int.le_refl 0
  · exact Int.le_of_lt size
  · intro slot here
    cases here
  · intro found
    cases found
  · intro earlier pass later same
    have empty : ([] : List PassTaken) = earlier ++ pass :: later := same
    simp at empty

/-- In every run whose passes read prefixes that fit and give up no frame that has its first
slice, every valid frame picture has a NAL and the bytes attributed to it, and the loop over its
NALs stops behind the last one. -/
theorem emitted_frames_whole (codec : Codec) (nSbmBufferTotalSize pSbmBuf : Int)
    (nNaluLength : Nat) (bytes : Int → UInt8) (pSbm : SbmFrame)
    (limit : nSbmBufferTotalSize ≤ RING_LIMIT) (prefixBytes : nNaluLength ≤ 4)
    (init : sbmFrameInit nSbmBufferTotalSize nNaluLength pSbmBuf bytes = some pSbm)
    (ops : List SbmOp) (legal : StepsMeet Legal (exec codec) (SbmSystem.start pSbm) ops)
    (guarded : StepsMeet (EmissionGuard codec) (exec codec) (SbmSystem.start pSbm) ops)
    (final : SbmSystem) (run : runOps (exec codec) (SbmSystem.start pSbm) ops = some final) :
    EmittedWhole final.history := by
  have start : ∃ counts, EmissionKept (SbmSystem.start pSbm) counts :=
    ⟨_, start_emission limit prefixBytes init⟩
  have reached : ∃ counts, EmissionKept final counts := by
    apply @guarded_run_invariant _ _ _ (exec codec) (fun state => ∃ counts,
      EmissionKept state counts) _ _ final ops start (steps_meet_and legal guarded) run
    rintro state op next ⟨counts, emission⟩ meets step
    exact emission_steps emission meets.2 meets.1 step
  rcases reached with ⟨counts, emission⟩
  exact emission.whole

/-- A chunk that is length-prefixed as it should be keeps the conditions. -/
theorem submitted_frame_whole : ∃ pSbm, sbmFrameInit 64 4 1 (fun _ => 0) = some pSbm ∧
      ∃ final, runOps (exec .avc) (SbmSystem.start pSbm) submitOps = some final ∧
        EmittedWhole final.history := by
  have ends : (runOps (exec .avc) (SbmSystem.start
      ((sbmFrameInit 64 4 1 (fun _ => 0)).get rfl)) submitOps).isSome = true := by
    decide
  rcases isSome_iff_exists.mp ends with ⟨final, run⟩
  exact ⟨_, rfl, final, run, emitted_frames_whole .avc 64 1 4 (fun _ => 0) _ (by decide)
    (by decide) rfl submitOps (by decide) (by decide) final run⟩

/-- A chunk with one NAL, a chunk of more than 1 MB without a start code, and a chunk with one
NAL. -/
def disposedOps : List SbmOp :=
  let content : Int → UInt8 := fun address =>
    if address < 10 then [0, 0, 0, 1, 0x65, 0x7f, 0, 0, 0][address.toNat - 1]!
    else [0, 0, 0, 1, 0x65][address.toNat - 1048583]!
  [.write content, .addStream ⟨1, 5, 7, 0, 0, 0⟩, .addStream ⟨6, 1048577, 8, 0, 0, 0⟩,
   .addStream ⟨1048583, 5, 9, 0, 0, 0⟩, .detect, .detect, .detect, .detect]

/-- The frame behind the one that is given up is valid and has no NAL. -/
theorem disposed_frame_empties_next : ∃ pSbm, sbmFrameInit 2097152 4 1 (fun _ => 0) = some pSbm ∧
      StepsMeet Legal (exec .avc) (SbmSystem.start pSbm) disposedOps ∧
      ∃ final, runOps (exec .avc) (SbmSystem.start pSbm) disposedOps = some final ∧
        ¬ EmittedWhole final.history := by
  have observed : (runOps (exec .avc) (SbmSystem.start
      ((sbmFrameInit 2097152 4 1 (fun _ => 0)).get rfl)) disposedOps).map (fun final =>
        final.history.map fun pass => (addedFrame pass).map fun frame =>
          (frame.bValidFlag, frame.nlength, frame.pNaluInfoList.length)) =
      some [none, some (false, 1048582, 1), some (true, 0, 0)] := by
    decide
  rcases map_eq_some_iff.mp observed with ⟨final, run, data⟩
  have last : some (true, 0, 0) ∈ final.history.map fun pass => (addedFrame pass).map fun frame =>
      (frame.bValidFlag, frame.nlength, frame.pNaluInfoList.length) := by
    rw [data]
    simp
  rcases mem_map.mp last with ⟨pass, member, shape⟩
  rcases map_eq_some_iff.mp shape with ⟨frame, added, content⟩
  have valid : frame.bValidFlag = true := congrArg Prod.fst content
  have length : frame.nlength = 0 := congrArg (fun shape => shape.2.1) content
  rcases mem_iff_append.mp member with ⟨earlier, later, split⟩
  refine ⟨_, rfl, by decide, final, run, ?_⟩
  intro whole
  have positive := (whole earlier pass later split frame added valid).positive
  omega

end CedarC.SbmFrameEmission
