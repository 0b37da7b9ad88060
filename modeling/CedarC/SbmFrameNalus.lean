import CedarC.SbmFrameRuns

/-!
# Frame pictures of the H.264 detector

With `ADD_ONE_FRAME` off every NAL ends the frame in front of it, so that a
frame picture which `sbmFrameH264.c` delivers carries one NAL at most. It
carries none when a frame was given up after its first NAL: the flag of the
first NAL stays set, and the next NAL then ends a frame that has not begun.
-/

namespace CedarC.SbmFrameNalus

open GuardedRuns SbmFrameModel SbmFrameDetect SbmFrameSteps SbmFrameRuns

section Lists

variable (pSbm : SbmFrame) (slot : Nat)

def naluLists (pSbm : SbmFrame) (slot : Nat) : List NaluInfo := (pSbm.curFrame slot).pNaluInfoList

theorem set_frame_nalus (frame : FramePicInfo) : naluLists (pSbm.setFrame slot frame) =
      Function.update (naluLists pSbm) slot frame.pNaluInfoList := by
  funext other
  by_cases same : other = slot
  · subst other
    simp [naluLists]
  · simp [naluLists, SbmFrame.curFrame, SbmFrame.setFrame, FrameFifo.store, same]

theorem set_frame_same_nalus {frame : FramePicInfo}
    (same : frame.pNaluInfoList = naluLists pSbm slot) :
    naluLists (pSbm.setFrame slot frame) = naluLists pSbm := by
  rw [set_frame_nalus, same, Function.update_eq_self]

theorem skip_nalus (ptr nSkipSize : Int) :
    naluLists (skipCurStreamDataBytes pSbm slot ptr nSkipSize) = naluLists pSbm :=
  set_frame_same_nalus pSbm slot rfl

theorem mark_start_nalus (pStream : VideoStreamDataInfo) (ptr : Int) :
    naluLists (markStart pSbm slot pStream ptr) = naluLists pSbm := by
  unfold markStart
  dsimp only
  split
  · exact set_frame_same_nalus pSbm slot rfl
  · rfl

theorem begun_nalus (boundary : Boundary) (nNaluType : Nat) :
    naluLists (begun boundary pSbm slot nNaluType) = naluLists pSbm := by
  unfold begun
  split
  · exact set_frame_same_nalus pSbm slot rfl
  · rfl

theorem stamped_nalus : naluLists (stamped pSbm slot) = naluLists pSbm :=
  set_frame_same_nalus pSbm slot rfl

theorem released_nalus : naluLists (released pSbm slot) = naluLists pSbm :=
  set_frame_same_nalus (chunkFlushed pSbm) slot rfl

theorem record_nalus (detector : Detector) (pStream : VideoStreamDataInfo) (ptr nBefore : Int)
    (naluHeader : UInt8) :
    naluLists (recordNalu detector pSbm slot pStream ptr nBefore naluHeader) =
      Function.update (naluLists pSbm) slot
        (naluLists pSbm slot ++ [recordedNalu detector pSbm slot ptr nBefore naluHeader]) := by
  rw [recordNalu, skip_nalus]
  change naluLists (SbmFrame.setFrame _ slot _) = _
  rw [set_frame_nalus, skip_nalus]
  congr 1
  change naluLists (skipCurStreamDataBytes pSbm slot ptr nBefore) slot ++ _ = _
  rw [skip_nalus]
  rfl

end Lists

section Invariant

/-- No frame has a second NAL, and none has a first one that is not marked. -/
structure OneNalu (pSbm : SbmFrame) : Prop where
  atMost : ∀ slot, (naluLists pSbm slot).length ≤ 1
  unmarked : pSbm.mDetectInfo.bCurFrameStartCodeFound = false →
    ∀ slot, pSbm.mDetectInfo.pCurFramePic = some slot → naluLists pSbm slot = []

variable {pSbm next : SbmFrame} {counts after : Counts} {slot : Nat} (one : OneNalu pSbm)

include one

/-- The invariant looks at the NALs, the mark and the frame under construction. -/
theorem OneNalu.of_same (nalus : naluLists next = naluLists pSbm)
    (found : next.mDetectInfo.bCurFrameStartCodeFound = pSbm.mDetectInfo.bCurFrameStartCodeFound)
    (frame : next.mDetectInfo.pCurFramePic = pSbm.mDetectInfo.pCurFramePic) : OneNalu next := by
  constructor
  · rw [nalus]
    exact one.atMost
  · rw [nalus, found, frame]
    exact one.unmarked

theorem claims_one {base : SbmFrame} (claims : Claims pSbm slot base) : OneNalu base := by
  cases claims with
  | current here => exact one
  | fresh nothing granted =>
    have lists : naluLists (initFramePicInfo pSbm slot) =
        Function.update (naluLists pSbm) slot [] := set_frame_nalus pSbm slot _
    constructor
    · intro other
      rw [lists]
      by_cases same : other = slot
      · simp [same]
      · simpa [same] using one.atMost other
    · intro _ other here
      obtain rfl : slot = other := Option.some.inj here
      simp [lists]

theorem idled_one (slot : Nat) : OneNalu (idled pSbm slot) := by
  unfold idled
  split
  · exact one
  · exact one.of_same (released_nalus pSbm slot) rfl rfl

theorem supplies_one {nReback : SbmFrame → VideoStreamDataInfo → Bool} {result : Supply}
    (supplies : Supplies nReback pSbm counts next result after) :
    OneNalu next := by
  cases supplies with
  | nothing dry => exact one
  | empty waiting here hollow | chunk waiting here bytes => exact one.of_same rfl rfl rfl

theorem ready_one {detector : Detector} {ready : SbmFrame} {p : Nat} {ptr : Int}
    (isReady : Ready detector pSbm counts slot ready after p ptr) :
    OneNalu ready := by
  obtain ⟨base, claims, ⟨_, rfl, rfl⟩ | ⟨_, supplies⟩⟩ := isReady.from_base
  · exact claims_one one claims
  · exact supplies_one (idled_one (claims_one one claims) slot) supplies

theorem mark_start_one (pStream : VideoStreamDataInfo) (ptr : Int) :
    OneNalu (markStart pSbm slot pStream ptr) := by
  apply one.of_same (mark_start_nalus pSbm slot pStream ptr)
  · rw [mark_start_detect]
  · rw [mark_start_detect]

omit one

theorem joined_one (atMost : ∀ slot, (naluLists pSbm slot).length ≤ 1) (found : Bool) :
    OneNalu (frameJoined pSbm found) := by
  constructor
  · exact atMost
  · intro _ other here
    cases here

theorem emitted_one (one : OneNalu pSbm) (slot : Nat) :
    OneNalu (frameJoined (stamped pSbm slot) false) := by
  apply joined_one
  rw [stamped_nalus]
  exact one.atMost

theorem disposed_nalus {p : Nat} {ptr : Int} {frame : FramePicInfo} {givenUp : Bool}
    (disposes : Disposes pSbm slot p ptr frame givenUp) :
    naluLists (disposed pSbm slot frame) = naluLists pSbm := by
  apply set_frame_same_nalus (chunkFlushed pSbm) slot
  cases disposes <;> rfl

theorem recorded_one (one : OneNalu pSbm) (here : pSbm.mDetectInfo.pCurFramePic = some slot)
    (unmarked : pSbm.mDetectInfo.bCurFrameStartCodeFound = false) (detector : Detector)
    (pStream : VideoStreamDataInfo) (ptr nBefore : Int) (nNaluType : Nat) (naluHeader : UInt8) :
    OneNalu (recordNalu detector (begun .firstOfFrame pSbm slot nNaluType) slot pStream ptr nBefore
      naluHeader) := by
  have blank := one.unmarked unmarked slot here
  constructor
  · intro other
    rw [record_nalus, begun_nalus, blank]
    by_cases same : other = slot
    · simp [same]
    · simpa [same] using one.atMost other
  · intro never
    rw [record_detect, begun_detect] at never
    cases never

theorem avc_boundary (state marked : SbmFrame) (pAfterStartCodeBuf : Int) (nNaluType : Nat) :
    (detectorOf .avc state).boundary marked pAfterStartCodeBuf nNaluType = avcBoundary marked := by
  change (avcDetector state).boundary _ _ _ = _
  unfold avcDetector
  split <;> rfl

theorem passes_one {state : SbmFrame} {outcome : Outcome} (one : OneNalu pSbm)
    (passes : Passes (detectorOf .avc state) pSbm counts next outcome after) : OneNalu next := by
  cases passes with
  | noFramePic nothing full => exact one
  | dry claims needs supplies nothing goesOn =>
    exact supplies_one (idled_one (claims_one one claims) _) supplies
  | eosFrame claims needs supplies nothing ends =>
    exact emitted_one (supplies_one (idled_one (claims_one one claims) _) supplies) _
  | @invalid slot p ready marked after ptr frame givenUp isReady isMarked bad disposes =>
    have markedOne : OneNalu marked := isMarked ▸ mark_start_one (ready_one one isReady) _ _
    have lists := disposed_nalus disposes
    cases givenUp with
    | false => exact markedOne.of_same lists rfl rfl
    | true =>
      apply joined_one
      rw [lists]
      exact markedOne.atMost
  | @frame slot p ready marked after ptr nBefore isReady isMarked before fits boundary =>
    have markedOne : OneNalu marked := isMarked ▸ mark_start_one (ready_one one isReady) _ _
    exact emitted_one markedOne slot
  | @again slot p ready marked after ptr nBefore boundary isReady isMarked before fits isBoundary
      inside =>
      have markedOne : OneNalu marked := isMarked ▸ mark_start_one (ready_one one isReady) _ _
      have here : marked.mDetectInfo.pCurFramePic = some slot := by
        rw [isMarked, mark_start_detect, ready_current isReady]
      rw [avc_boundary] at isBoundary
      unfold avcBoundary at isBoundary
      split at isBoundary
      · rename_i unmarked
        subst boundary
        exact recorded_one markedOne here unmarked _ _ _ _ _ _
      · exact absurd isBoundary.symm inside

end Invariant

variable {system next : SbmSystem} {counts after : Counts} {op : SbmOp}

theorem checks_nalus {withStartCode withoutStartCode : SbmFrame → VideoStreamDataInfo → Bool}
    {pSbm final : SbmFrame}
    (checks : TypeChecks withStartCode withoutStartCode pSbm counts final after) :
    naluLists final = naluLists pSbm := by
  induction checks with
  | stop pSbm counts | found waiting oldest known => rfl
  | drop waiting oldest useless later ih => exact ih

theorem steps_one (one : OneNalu system.pSbm) (steps : Steps .avc system counts op next after) :
    OneNalu next.pSbm := by
  cases steps with
  | write bytes | setEos nEosFlag | added pDataInfo marked pWriteAddr legal size free
  | delivered waiting oldest | returned position cursors held | flushed read oldest held =>
    exact one.of_same rfl rfl rfl
  | refused pDataInfo | nothing none_left => exact one
  | checked untyped checks =>
    have same := checks_detect checks
    apply one.of_same (checks_nalus checks)
    · rw [same]
    · rw [same]
  | passed typed pass passes => exact passes_one one passes

theorem start_one {pSbm : SbmFrame} {nSbmBufferTotalSize pSbmBuf : Int} {nNaluLength : Nat}
    {bytes : Int → UInt8}
    (init : sbmFrameInit nSbmBufferTotalSize nNaluLength pSbmBuf bytes = some pSbm) :
    OneNalu pSbm := by
  unfold sbmFrameInit at init
  split at init
  · cases init
  split at init
  · cases init
  obtain rfl := Option.some.inj init
  constructor
  · intro slot
    exact Nat.zero_le 1
  · intro _ slot here
    cases here

/-- A run of the frame manager with the H.264 detector, from its start. -/
structure AvcRun (system : SbmSystem) where
  nSbmBufferTotalSize : Int
  pSbmBuf : Int
  nNaluLength : Nat
  bytes : Int → UInt8
  limit : nSbmBufferTotalSize ≤ RING_LIMIT
  prefixBytes : nNaluLength ≤ 4
  pSbm : SbmFrame
  init : sbmFrameInit nSbmBufferTotalSize nNaluLength pSbmBuf bytes = some pSbm
  ops : List SbmOp
  legal : StepsMeet Legal (exec .avc) (SbmSystem.start pSbm) ops
  run : runOps (exec .avc) (SbmSystem.start pSbm) ops = some system

theorem avc_frame_nalus (avc : AvcRun system) (slot : Nat) :
    (system.pSbm.curFrame slot).nCurNaluIdx ≤ 1 := by
  have start : ∃ counts, RunKept (SbmSystem.start avc.pSbm) counts ∧
      OneNalu (SbmSystem.start avc.pSbm).pSbm :=
    ⟨_, start_kept avc.limit avc.prefixBytes avc.init, start_one avc.init⟩
  have reached : ∃ counts, RunKept system counts ∧ OneNalu system.pSbm := by
    refine @guarded_run_invariant _ _ _ (exec .avc) (fun state => ∃ counts,
      RunKept state counts ∧ OneNalu state.pSbm) ?_ _ system avc.ops start avc.legal avc.run
    rintro state op next ⟨counts, kept, one⟩ legal step
    obtain ⟨after, steps⟩ := exec_steps kept legal step
    exact ⟨after, steps_kept kept steps, steps_one one steps⟩
  obtain ⟨counts, -, one⟩ := reached
  exact one.atMost slot

end CedarC.SbmFrameNalus
