import CedarC.SbmFrameContainment
import Mathlib.Algebra.Order.BigOperators.Group.List

/-!
# Progress of the frame detectors

Where the prefixes fit, every pass returns, and a pass that does not wait
takes bytes off the unread ones, takes an empty chunk out or hands a frame
over. The potential counts what is left to do; a run therefore has no more of
these passes than it has bytes and chunks submitted, and the detector waits
only when nothing is left or no frame picture is free.
-/

namespace CedarC.SbmFrameProgress

open FixedWidth GuardedRuns SbmFrameModel SbmFrameDetect SbmFrameSteps SbmFrameRuns SbmFrameBytes
open SbmFrameContainment Option List

section Returns

variable {detector : Detector} {system : SbmSystem} {counts after : Counts} {slot p : Nat}
  {ready : SbmFrame} {ptr : Int}

theorem nalu_returns (kept : SbmKept ready after) (stream : ready.mDetectInfo.pCurStream = some p)
    (cursor : ready.mDetectInfo.pCurStreamDataptr = some ptr)
    (current : ready.mDetectInfo.pCurFramePic = some slot)
    (inRing : ready.pStreamBuffer ≤ ptr ∧ ptr ≤ ready.pStreamBufferEnd) :
    ∃ result, detectNalu detector ready slot p ptr = some result := by
  let marked := markStart ready slot (ready.frameFifo.pFrames p) ptr
  have markedKept : SbmKept marked after := mark_start_kept kept _ _
  have detect : marked.mDetectInfo = ready.mDetectInfo := mark_start_detect _ _
  obtain ⟨gone, disposal⟩ : ∃ gone, disposeInvalidStreamData marked slot = some gone := by
    obtain ⟨frame, givenUp, _, disposal⟩ := @dispose_spec marked after slot p ptr markedKept
      (detect ▸ stream) (detect ▸ cursor) (detect ▸ current)
    exact ⟨_, disposal⟩
  have emission := emit_frame_spec markedKept (detect ▸ current)
  unfold detectNalu
  rw [if_neg (by omega)]
  dsimp only
  split
  · exact ⟨_, congrArg (Option.map _) disposal⟩
  · split_ifs
    · exact ⟨_, congrArg (Option.map _) disposal⟩
    · split
      · exact ⟨_, by rw [emission]; rfl⟩
      · exact ⟨_, rfl⟩
      · exact ⟨_, rfl⟩

theorem ring_at_inside {pSbm : SbmFrame} (shape : RingShape pSbm) {address : Int}
    (low : pSbm.pStreamBuffer ≤ address)
    (high : address ≤ pSbm.pStreamBufferEnd + pSbm.nStreamBufferSize) :
    pSbm.pStreamBuffer ≤ ringAt pSbm address ∧ ringAt pSbm address ≤ pSbm.pStreamBufferEnd := by
  have last := shape.last
  unfold ringAt
  split_ifs <;> omega

theorem in_frame_returns (kept : RunKept system counts) (inside : CursorInside system.pSbm)
    {base : SbmFrame} (claims : Claims system.pSbm slot base) :
    ∃ result, detectInFrame detector base slot = some result := by
  have baseKept := claims_kept kept.sbm claims
  have same : input base = input system.pSbm := claims_input claims
  have shape := shape_of_input same kept.shape
  unfold detectInFrame
  dsimp only
  change ∃ result, (if NeedsSupply base then supplyStreamData base detector.nReback slot
    else some (base, .supplied)).bind _ = some result
  by_cases needs : NeedsSupply base
  · obtain ⟨supplied, result, after, supply, supplies⟩ :=
      supply_spec baseKept slot detector.nReback
    have suppliedKept := supplies_kept (idled_kept baseKept slot) (idled_idle slot) supplies
    have current : supplied.mDetectInfo.pCurFramePic = some slot := by
      rw [supplies_frame supplies, idled_frame, claims_current claims]
    have nothing : ∀ outcome, ∃ result, detectNothing supplied slot outcome = some result := by
      intro outcome
      unfold detectNothing
      split_ifs
      · exact ⟨_, by rw [emit_frame_spec suppliedKept current]; rfl⟩
      · exact ⟨_, rfl⟩
    rw [if_pos needs, supply, bind_some]
    cases result with
    | noStream | emptyStream => exact nothing _
    | supplied =>
      cases supplies with
      | @chunk q waiting here bytes =>
        have later := @later_idled counts base
        have inRing : ChunkInRing (taken detector.nReback (idled base slot) q)
            ((idled base slot).frameFifo.pFrames q) := by
          have idledSame : input (idled base slot) = input system.pSbm := by rw [idled_input, same]
          have pFrames : (idled base slot).frameFifo.pFrames =
              system.pSbm.frameFifo.pFrames := congrArg Input.pFrames idledSame
          have capacity : (idled base slot).frameFifo.nMaxFrameNum =
              system.pSbm.frameFifo.nMaxFrameNum := congrArg Input.nMaxFrameNum idledSame
          have takenSame : input (taken detector.nReback (idled base slot) q) =
            input system.pSbm := idledSame
          rw [here, pFrames, capacity]
          rw [later.chunksAdded] at waiting
          exact chunk_of_input takenSame (kept.inRing _ later.chunksFlushed waiting)
        exact nalu_returns suppliedKept rfl rfl current ⟨inRing.2.2.1, inRing.2.2.2⟩
  · have baseInside : CursorInside base := by
      cases claims with
      | current here | fresh nothing granted => exact inside
    have enough : ¬ base.mDetectInfo.nCurStreamDataSize < 5 := fun short => needs (.inl short)
    have busy : base.mDetectInfo.pCurStream ≠ none := by
      intro idle
      have atRest := (baseKept.idle idle).2
      omega
    obtain ⟨p, stream⟩ := ne_none_iff_exists'.mp busy
    obtain ⟨ptr, cursor⟩ := ne_none_iff_exists'.mp (baseKept.busy busy)
    obtain ⟨_, size, place⟩ := baseInside p ptr stream cursor
    have chunks := baseKept.chunks
    rw [under_detection_some stream] at chunks
    have waiting := chunks.deliveredAdded
    have inRing : ChunkInRing base (base.frameFifo.pFrames p) := by
      have pFrames : base.frameFifo.pFrames = system.pSbm.frameFifo.pFrames :=
        congrArg Input.pFrames same
      have capacity : base.frameFifo.nMaxFrameNum = system.pSbm.frameFifo.nMaxFrameNum :=
        congrArg Input.nMaxFrameNum same
      rw [baseKept.stream p stream, pFrames, capacity]
      exact chunk_of_input same (kept.inRing _ (Nat.le_refl _) waiting)
    obtain ⟨_, short, low, high⟩ := inRing
    have bounds := @ring_at_inside base shape ((base.frameFifo.pFrames p).pData +
      ((base.frameFifo.pFrames p).nLength - base.mDetectInfo.nCurStreamDataSize))
      (by omega) (by omega)
    rw [← place] at bounds
    rw [if_neg needs, bind_some]
    dsimp only
    rw [stream, bind_some, cursor, bind_some]
    exact nalu_returns baseKept stream cursor (claims_current claims) bounds

theorem pass_returns (kept : RunKept system counts) (inside : CursorInside system.pSbm) :
    ∃ result, detectPass detector system.pSbm = some result := by
  unfold detectPass
  split
  · next slot here => exact in_frame_returns kept inside (.current here)
  · next nothing =>
    split
    · exact ⟨_, rfl⟩
    · next slot granted => exact in_frame_returns kept inside (.fresh nothing granted)

end Returns

section Measure

def unconsumed (pSbm : SbmFrame) : Int :=
  unreadSum VideoStreamDataInfo.nLength pSbm.frameFifo + pSbm.mDetectInfo.nCurStreamDataSize

def potential (pSbm : SbmFrame) : Int :=
  2 * unconsumed pSbm + pSbm.frameFifo.nUnReadFrameNum +
    (if pSbm.mDetectInfo.bCurFrameStartCodeFound then 1 else 0)

/-- A pass that waits neither for a free frame picture nor for a chunk. -/
def busy : Outcome → Bool
  | .noFramePic | .noStream => false
  | _ => true

/-- What a pass brings about: the detector waits only when there is no free
frame picture or no byte left, and else bytes, a chunk or a frame move on. -/
def PassProgress (pass : PassTaken) : Prop :=
  match pass.outcome with
  | .noFramePic =>
    pass.before.mFramePicFifo.nMaxFrameNum ≤ pass.before.mFramePicFifo.nValidFrameNum
  | .noStream => unconsumed pass.after = 0 ∧ pass.after.frameFifo.nValidFrameNum = 0
  | .emptyStream =>
    pass.after.frameFifo.nUnReadFrameNum < pass.before.frameFifo.nUnReadFrameNum
  | .eosFrame =>
    pass.after.mFramePicFifo.nValidFrameNum = pass.before.mFramePicFifo.nValidFrameNum + 1
  | .frame =>
    pass.after.mFramePicFifo.nValidFrameNum = pass.before.mFramePicFifo.nValidFrameNum + 1
  | .again | .invalid => unconsumed pass.after < unconsumed pass.before

/-- What a pass does not raise before it looks at the chunk. -/
structure Measured (before after : SbmFrame) : Prop where
  bytes : unconsumed after ≤ unconsumed before
  chunks : after.frameFifo.nUnReadFrameNum ≤ before.frameFifo.nUnReadFrameNum
  frames : after.mFramePicFifo.nValidFrameNum = before.mFramePicFifo.nValidFrameNum
  found : after.mDetectInfo.bCurFrameStartCodeFound = before.mDetectInfo.bCurFrameStartCodeFound

variable {detector : Detector} {system : SbmSystem} {counts after : Counts} {slot p : Nat}
  {pSbm base ready next : SbmFrame} {ptr : Int}

theorem size_nonneg (kept : SbmKept pSbm counts) (inside : CursorInside pSbm) :
    0 ≤ pSbm.mDetectInfo.nCurStreamDataSize := by
  by_cases idle : pSbm.mDetectInfo.pCurStream = none
  · exact Int.le_of_eq (kept.idle idle).2.symm
  · obtain ⟨p, stream⟩ := ne_none_iff_exists'.mp idle
    obtain ⟨ptr, cursor⟩ := ne_none_iff_exists'.mp (kept.busy idle)
    exact (inside p ptr stream cursor).1

theorem unread_nonneg (kept : RunKept system counts) :
    0 ≤ unreadSum VideoStreamDataInfo.nLength system.pSbm.frameFifo := by
  rw [unread_sum_eq _ kept.sbm.chunks]
  apply sum_nonneg
  intro size member
  obtain ⟨chunk, inWindow, rfl⟩ := mem_map.mp member
  obtain ⟨i, below, rfl⟩ := mem_map.mp inWindow
  have low := kept.sbm.chunks.flushedDelivered
  have high := mem_range.mp below
  exact (kept.inRing _ (by omega) (by omega)).1

theorem potential_nonneg (kept : RunKept system counts) (inside : CursorInside system.pSbm) :
    0 ≤ potential system.pSbm := by
  have chunks := unread_nonneg kept
  have rest := size_nonneg kept.sbm inside
  unfold potential unconsumed
  split_ifs <;> omega

theorem claims_measured (claims : Claims pSbm slot base) : Measured pSbm base := by
  cases claims <;> exact ⟨Int.le_refl _, Nat.le_refl _, rfl, rfl⟩

theorem idled_measured (nonneg : 0 ≤ base.mDetectInfo.nCurStreamDataSize) (slot : Nat) :
    Measured base (idled base slot) := by
  unfold idled
  split_ifs
  · exact ⟨Int.le_refl _, Nat.le_refl _, rfl, rfl⟩
  · refine ⟨?_, Nat.le_refl _, rfl, rfl⟩
    change unreadSum VideoStreamDataInfo.nLength base.frameFifo + 0 ≤
      unreadSum VideoStreamDataInfo.nLength base.frameFifo + _
    omega

/-- A supply moves the bytes of the next chunk from the unread ones to the cursor. -/
theorem supplies_measured {nReback : SbmFrame → VideoStreamDataInfo → Bool} {result : Supply}
    (kept : SbmKept pSbm counts) (idle : pSbm.mDetectInfo.pCurStream = none)
    (inRing : ∀ i, counts.chunksFlushed ≤ i → i < counts.chunksAdded →
      0 ≤ (pSbm.frameFifo.pFrames (i % pSbm.frameFifo.nMaxFrameNum)).nLength)
    (supplies : Supplies nReback pSbm counts next result after) :
    Measured pSbm next ∧ (result = .noStream → unconsumed next = 0 ∧
      next.frameFifo.nValidFrameNum = 0) ∧ (result = .emptyStream →
        next.frameFifo.nUnReadFrameNum < pSbm.frameFifo.nUnReadFrameNum) := by
  have chunks := kept.chunks
  rw [under_detection_none idle, Nat.add_zero] at chunks
  have atRest := (kept.idle idle).2
  have unRead := chunks.unRead
  cases supplies with
  | nothing dry =>
    refine ⟨⟨Int.le_refl _, Nat.le_refl _, rfl, rfl⟩, ?_, by simp⟩
    intro _
    have none_left : pSbm.frameFifo.nUnReadFrameNum = 0 := by omega
    have valid := chunks.valid
    refine ⟨?_, by omega⟩
    simp [unconsumed, unreadSum, none_left, CyclicBuffer.window, atRest]
  | @empty p waiting here hollow =>
    have size := inRing _ (Nat.le_refl _) waiting
    rw [← here] at size
    have read := unread_sum_advance_read VideoStreamDataInfo.nLength chunks waiting
    rw [← here] at read
    have fewer : (dropped pSbm).frameFifo.nUnReadFrameNum < pSbm.frameFifo.nUnReadFrameNum := by
      change pSbm.frameFifo.nUnReadFrameNum - 1 < _
      omega
    refine ⟨⟨?_, Nat.le_of_lt fewer, rfl, rfl⟩, by simp, fun _ => fewer⟩
    change unreadSum VideoStreamDataInfo.nLength pSbm.frameFifo.advanceRead +
      pSbm.mDetectInfo.nCurStreamDataSize ≤ _
    unfold unconsumed
    omega
  | @chunk p waiting here bytes =>
    have read := unread_sum_advance_read VideoStreamDataInfo.nLength chunks waiting
    rw [← here] at read
    refine ⟨⟨?_, Nat.sub_le _ 1, rfl, rfl⟩, by simp, by simp⟩
    change unreadSum VideoStreamDataInfo.nLength pSbm.frameFifo.advanceRead +
      (pSbm.frameFifo.pFrames p).nLength ≤ _
    unfold unconsumed
    omega

theorem measured_trans {first second third : SbmFrame} (left : Measured first second)
    (right : Measured second third) : Measured first third :=
  ⟨Int.le_trans right.bytes left.bytes, Nat.le_trans right.chunks left.chunks,
    right.frames.trans left.frames, right.found.trans left.found⟩

theorem supplied_measured {result : Supply} (kept : RunKept system counts)
    (inside : CursorInside system.pSbm) (claims : Claims system.pSbm slot base)
    (supplies : Supplies detector.nReback (idled base slot) (counts.idled base) next result after) :
    Measured system.pSbm next ∧ (result = .noStream → unconsumed next = 0 ∧
      next.frameFifo.nValidFrameNum = 0) ∧ (result = .emptyStream →
        next.frameFifo.nUnReadFrameNum < system.pSbm.frameFifo.nUnReadFrameNum) := by
  have baseKept := claims_kept kept.sbm claims
  have baseInside : CursorInside base := by
    cases claims with
    | current here | fresh nothing granted => exact inside
  have first := claims_measured claims
  have second := idled_measured (size_nonneg baseKept baseInside) slot
  have later := @later_idled counts base
  have same : input (idled base slot) = input system.pSbm := by
    rw [idled_input, claims_input claims]
  obtain ⟨third, dry, hollow⟩ := supplies_measured (idled_kept baseKept slot) (idled_idle slot) (by
    intro i low high
    rw [show (idled base slot).frameFifo.pFrames = system.pSbm.frameFifo.pFrames from
      congrArg Input.pFrames same, show (idled base slot).frameFifo.nMaxFrameNum =
      system.pSbm.frameFifo.nMaxFrameNum from congrArg Input.nMaxFrameNum same]
    rw [later.chunksAdded] at high
    exact (kept.inRing i (Nat.le_trans later.chunksFlushed low) high).1) supplies
  have start := measured_trans first second
  refine ⟨measured_trans start third, dry, ?_⟩
  intro isEmpty
  exact Nat.lt_of_lt_of_le (hollow isEmpty) start.chunks

theorem ready_measured (kept : RunKept system counts) (inside : CursorInside system.pSbm)
    (isReady : Ready detector system.pSbm counts slot ready after p ptr) :
    Measured system.pSbm ready := by
  obtain ⟨base, claims, ⟨_, rfl, _⟩ | ⟨_, supplies⟩⟩ := isReady.from_base
  · exact claims_measured claims
  · exact (supplied_measured kept inside claims supplies).1

theorem new_frame_found (codec : Codec) {pSbm state : SbmFrame} {pBuf : Int} {nNaluType : Nat}
    (boundary : (detectorOf codec pSbm).boundary state pBuf nNaluType = .newFrame) :
    state.mDetectInfo.bCurFrameStartCodeFound = true := by
  have avc : avcBoundary state = .newFrame → state.mDetectInfo.bCurFrameStartCodeFound = true := by
    unfold avcBoundary
    split_ifs with found
    · simp
    · simpa using found
  have hevc : hevcBoundary state pBuf nNaluType = .newFrame →
      state.mDetectInfo.bCurFrameStartCodeFound = true := by
    unfold hevcBoundary
    split_ifs with begins slice found
    · exact fun _ => begins.2
    · simp
    · simpa using found
    · simp
  cases codec with
  | avc =>
    simp only [detectorOf, avcDetector] at boundary
    split_ifs at boundary <;> exact avc boundary
  | hevc =>
    simp only [detectorOf, hevcDetector] at boundary
    split_ifs at boundary <;> exact hevc boundary

theorem ready_small (kept : RunKept system counts)
    (isReady : Ready detector system.pSbm counts slot ready after p ptr)
    (inside : CursorInside system.pSbm) : ready.mDetectInfo.nCurStreamDataSize ≤ 2 ^ 30 := by
  have size := (ready_inside inside isReady).2.1
  have whole := (ready_chunk kept isReady).2.1
  have limit := (shape_of_input (ready_input isReady) kept.shape).limit
  unfold RING_LIMIT at limit
  omega

theorem record_measured (detector : Detector) {marked : SbmFrame} {nBefore : Int}
    {pStream : VideoStreamDataInfo} (isMarked : marked = markStart ready slot pStream ptr)
    (boundary : Boundary) (nNaluType : Nat)
    (sizes : SizesFit ready.mDetectInfo.nCurStreamDataSize nBefore
      (recordedSize detector (begun boundary marked slot nNaluType) slot ptr nBefore))
    (small : ready.mDetectInfo.nCurStreamDataSize ≤ 2 ^ 30) (naluHeader : UInt8) :
    unconsumed (recordNalu detector (begun boundary marked slot nNaluType) slot pStream ptr nBefore
        naluHeader) < unconsumed ready ∧
      (recordNalu detector (begun boundary marked slot nNaluType) slot pStream ptr nBefore
        naluHeader).frameFifo.nUnReadFrameNum = ready.frameFifo.nUnReadFrameNum := by
  obtain ⟨_, detect⟩ := begun_of_ready isMarked boundary nNaluType
  have fifo : (begun boundary marked slot nNaluType).frameFifo = ready.frameFifo := by
    rw [begun_chunks, isMarked, mark_start_chunks]
  generalize begun boundary marked slot nNaluType = begins at detect fifo sizes ⊢
  have before := sizes.before
  have nonneg := sizes.nonneg
  have taken := sizes.some_taken
  have inside := sizes.inside
  have same : (recordNalu detector begins slot pStream ptr nBefore naluHeader).frameFifo =
      ready.frameFifo := by
    rw [record_chunks, fifo]
  refine ⟨?_, by rw [same]⟩
  unfold unconsumed
  rw [same, record_detect, detect]
  dsimp only
  have skipped : s32 (ready.mDetectInfo.nCurStreamDataSize - nBefore) =
      ready.mDetectInfo.nCurStreamDataSize - nBefore := by
    apply s32_of_range
    unfold InS32
    omega
  rw [skipped, s32_of_range (by unfold InS32; omega)]
  omega

theorem passes_progress {codec : Codec} {outcome : Outcome} (kept : RunKept system counts)
    (inside : CursorInside system.pSbm) (sound : prefixSound codec system.pSbm = true)
    (passes : Passes (detectorOf codec system.pSbm) system.pSbm counts pSbm outcome after) :
    PassProgress ⟨system.pSbm, pSbm, outcome⟩ ∧ unconsumed pSbm ≤ unconsumed system.pSbm ∧
      potential pSbm + (if busy outcome then 1 else 0) ≤ potential system.pSbm := by
  cases passes with
  | noFramePic nothing full =>
    refine ⟨?_, Int.le_refl _, Int.le_of_eq (Int.add_zero _)⟩
    unfold requestEmptyFramePic at full
    split_ifs at full with noSpace
    exact noSpace
  | @dry slot base next result after claims needs supplies nothing goesOn =>
    obtain ⟨measured, drained, hollow⟩ := supplied_measured kept inside claims supplies
    obtain ⟨bytes, chunks, frames, found⟩ := measured
    cases result with
    | noStream =>
      refine ⟨drained rfl, bytes, ?_⟩
      simp only [potential, found, dryOutcome, busy, Bool.false_eq_true, if_false]
      split_ifs <;> omega
    | emptyStream =>
      have fewer := hollow rfl
      refine ⟨fewer, bytes, ?_⟩
      simp only [potential, found, dryOutcome, busy, if_true]
      split_ifs <;> omega
    | supplied => exact absurd rfl nothing
  | @eosFrame slot base next result after claims needs supplies nothing ends =>
    obtain ⟨⟨bytes, chunks, frames, found⟩, _⟩ := supplied_measured kept inside claims supplies
    refine ⟨congrArg (· + 1) frames, bytes, ?_⟩
    have before : system.pSbm.mDetectInfo.bCurFrameStartCodeFound = true := found ▸ ends.1
    change 2 * unconsumed next + next.frameFifo.nUnReadFrameNum + 0 + 1 ≤ _
    simp only [potential, before, if_true]
    omega
  | @invalid slot p ready marked after ptr frame givenUp isReady isMarked bad disposes =>
    obtain ⟨bytes, chunks, frames, found⟩ := ready_measured kept inside isReady
    have some_left := (ready_inside inside isReady).1
    have detect : marked.mDetectInfo = ready.mDetectInfo := isMarked ▸ mark_start_detect _ _
    have fifo : marked.frameFifo = ready.frameFifo := isMarked ▸ mark_start_chunks _ _
    have less : ∀ state : SbmFrame, state.frameFifo = marked.frameFifo.advanceFlush →
        state.mDetectInfo.nCurStreamDataSize = 0 →
        state.mDetectInfo.bCurFrameStartCodeFound = marked.mDetectInfo.bCurFrameStartCodeFound →
        unconsumed state < unconsumed system.pSbm ∧ unconsumed state ≤ unconsumed system.pSbm ∧
          potential state + 1 ≤ potential system.pSbm := by
      intro state chunk size same
      have rest : unconsumed state + ready.mDetectInfo.nCurStreamDataSize = unconsumed ready := by
        unfold unconsumed
        rw [chunk, size, fifo]
        change unreadSum VideoStreamDataInfo.nLength ready.frameFifo + 0 + _ = _
        omega
      have unread : state.frameFifo.nUnReadFrameNum = ready.frameFifo.nUnReadFrameNum := by
        rw [chunk, fifo]
        rfl
      refine ⟨by omega, by omega, ?_⟩
      unfold potential
      rw [same, detect, found, unread]
      split_ifs <;> omega
    cases givenUp with
    | false | true => exact less _ rfl rfl rfl
  | @frame slot p ready marked after ptr nBefore isReady isMarked before fits boundary =>
    obtain ⟨bytes, chunks, frames, found⟩ := ready_measured kept inside isReady
    have detect : marked.mDetectInfo = ready.mDetectInfo := isMarked ▸ mark_start_detect _ _
    have fifo : marked.frameFifo = ready.frameFifo := isMarked ▸ mark_start_chunks _ _
    have known := new_frame_found codec boundary
    rw [detect, found] at known
    have same : unconsumed marked = unconsumed ready := by
      unfold unconsumed
      rw [detect, fifo]
    have valid : marked.mFramePicFifo.nValidFrameNum = ready.mFramePicFifo.nValidFrameNum := by
      rw [isMarked]
      unfold markStart
      dsimp only
      split_ifs <;> rfl
    refine ⟨congrArg (· + 1) (valid.trans frames), same ▸ bytes, ?_⟩
    change 2 * unconsumed marked + marked.frameFifo.nUnReadFrameNum + 0 + 1 ≤ _
    rw [fifo, same]
    simp only [potential, known, if_true]
    omega
  | @again slot p ready marked after ptr nBefore boundary isReady isMarked before fits isBoundary
      notNew =>
      obtain ⟨bytes, chunks, frames, found⟩ := ready_measured kept inside isReady
      obtain ⟨sizes, _⟩ := again_fits kept inside sound isReady isMarked before boundary
        ((detectorOf codec system.pSbm).naluType (readByteIdx marked (ptr + nBefore) 0))
        (readByteIdx marked (ptr + nBefore) 0)
      have less := record_measured (detectorOf codec system.pSbm) isMarked boundary
        ((detectorOf codec system.pSbm).naluType (readByteIdx marked (ptr + nBefore) 0)) sizes
        (ready_small kept isReady inside) (readByteIdx marked (ptr + nBefore) 0)
      obtain ⟨taken, unread⟩ := less
      have fewer := Int.lt_of_lt_of_le taken bytes
      refine ⟨fewer, Int.le_of_lt fewer, ?_⟩
      simp only [potential, busy, if_true, unread]
      split_ifs <;> omega

end Measure

section Runs

variable {codec : Codec} {system next : SbmSystem} {counts after : Counts} {op : SbmOp}

def busyPasses (history : List PassTaken) : Nat := history.countP fun pass => busy pass.outcome

def workOf : SbmOp → Int
  | .addStream pDataInfo => 2 * pDataInfo.nLength + 1
  | _ => 0

def submittedWork (ops : List SbmOp) : Int := (ops.map workOf).sum

theorem exec_returns (kept : RunKept system counts) (inside : CursorInside system.pSbm)
    (legal : Legal system op) : ∃ next, exec codec system op = some next := by
  cases op with
  | write bytes | addStream pDataInfo | setEos nEosFlag => exact ⟨_, rfl⟩
  | detect =>
    unfold exec
    split_ifs with untyped
    · rw [check_of_codec]
      obtain ⟨found, after, checked, checks⟩ :=
        @type_check_spec (startCodeCheck codec) (lengthCheck codec) system.pSbm counts CHECK_LIMIT
          kept.sbm (kept.untyped untyped).1 untyped
      exact ⟨_, by rw [checked]; rfl⟩
    · obtain ⟨⟨pSbm, outcome⟩, pass⟩ :=
        @pass_returns (detectorOf codec system.pSbm) _ _ kept inside
      exact ⟨_, by rw [pass]; rfl⟩
  | requestFramePic =>
    obtain ⟨next, after, step, steps⟩ := @request_steps codec _ _ kept
    exact ⟨next, step⟩
  | returnFramePic pFramePic =>
    obtain ⟨next, after, step, steps⟩ := @return_steps codec _ _ kept pFramePic legal
    exact ⟨next, step⟩
  | flushFramePic pFramePic =>
    obtain ⟨next, after, step, steps⟩ := @flush_steps codec _ _ kept pFramePic legal
    exact ⟨next, step⟩

theorem dropped_unread {pSbm : SbmFrame} {held : List Nat} {history : List PassTaken}
    (kept : RunKept ⟨pSbm, held, history⟩ counts) (untyped : pSbm.bStreamWithStartCode = -1)
    (waiting : counts.chunksFlushed < counts.chunksAdded) :
    unreadSum VideoStreamDataInfo.nLength pSbm.frameFifo.advanceRead ≤
      unreadSum VideoStreamDataInfo.nLength pSbm.frameFifo := by
  have chunks := kept.sbm.chunks
  rw [under_detection_none (kept.untyped untyped).1, Nat.add_zero] at chunks
  rw [unread_sum_advance_read VideoStreamDataInfo.nLength chunks waiting]
  exact Int.le_add_of_nonneg_left (kept.inRing _ (Nat.le_refl _) waiting).1

theorem checks_potential {withStartCode withoutStartCode : SbmFrame → VideoStreamDataInfo → Bool}
    {pSbm next : SbmFrame} {after : Counts}
    (checks : TypeChecks withStartCode withoutStartCode pSbm counts next after)
    (history : List PassTaken) (held : List Nat) (kept : RunKept ⟨pSbm, held, history⟩ counts)
    (untyped : pSbm.bStreamWithStartCode = -1) : potential next ≤ potential pSbm := by
  induction checks with
  | stop pSbm counts | found waiting oldest known => exact Int.le_refl _
  | @drop pSbm next counts after p waiting oldest useless later ih =>
    have dropped := dropped_unread kept untyped waiting
    have one := type_checks_kept history
      (.drop waiting oldest useless (.stop (typeDropped pSbm p) counts.chunkDone)) held kept untyped
    have rest := ih one untyped
    have fewer : potential (typeDropped pSbm p) ≤ potential pSbm := by
      have unread : (typeDropped pSbm p).frameFifo.nUnReadFrameNum ≤
        pSbm.frameFifo.nUnReadFrameNum := Nat.sub_le _ 1
      have bytes : unconsumed (typeDropped pSbm p) ≤ unconsumed pSbm := by
        change unreadSum VideoStreamDataInfo.nLength pSbm.frameFifo.advanceRead +
          pSbm.mDetectInfo.nCurStreamDataSize ≤ _
        unfold unconsumed
        omega
      unfold potential
      change 2 * unconsumed (typeDropped pSbm p) + (typeDropped pSbm p).frameFifo.nUnReadFrameNum +
        (if pSbm.mDetectInfo.bCurFrameStartCodeFound then 1 else 0) ≤ _
      omega
    exact Int.le_trans rest fewer

theorem joined_potential (kept : RunKept system counts) (pDataInfo : VideoStreamDataInfo)
    (pWriteAddr : Int)
    (free : ¬ system.pSbm.frameFifo.nMaxFrameNum ≤ system.pSbm.frameFifo.nValidFrameNum) :
    potential (chunkJoined system.pSbm pDataInfo pWriteAddr) =
      potential system.pSbm + 2 * pDataInfo.nLength + 1 := by
  have write := joined_unread kept pDataInfo free
  unfold potential unconsumed
  change 2 * (unreadSum VideoStreamDataInfo.nLength
    (system.pSbm.frameFifo.store system.pSbm.frameFifo.nWritePos pDataInfo).advanceWrite +
      system.pSbm.mDetectInfo.nCurStreamDataSize) +
    (system.pSbm.frameFifo.nUnReadFrameNum + 1 : Nat) +
    (if system.pSbm.mDetectInfo.bCurFrameStartCodeFound then 1 else 0) = _
  rw [write]
  omega

/-- What holds between any two steps of a guarded run. -/
structure Progressing (system : SbmSystem) (counts : Counts) : Prop where
  kept : RunKept system counts
  inside : CursorInside system.pSbm
  passes : ∀ pass ∈ system.history, PassProgress pass

theorem steps_progress (progressing : Progressing system counts) (legal : Legal system op)
    (guard : PrefixGuard codec system op) (steps : Steps codec system counts op next after) :
    Progressing next after ∧ busyPasses next.history + potential next.pSbm ≤
      busyPasses system.history + potential system.pSbm + workOf op := by
  have kept := steps_kept progressing.kept steps
  have inside := steps_inside progressing.kept progressing.inside guard steps
  have passed := progressing.passes
  cases steps with
  | write bytes | setEos nEosFlag | nothing none_left | delivered waiting oldest
  | returned position cursors held | flushed read oldest held =>
    exact ⟨⟨kept, inside, passed⟩, Int.le_of_eq (Int.add_zero _).symm⟩
  | refused pDataInfo =>
    have nonneg : 0 ≤ workOf (.addStream pDataInfo) := by
      have size : 0 ≤ pDataInfo.nLength := legal.1
      unfold workOf
      dsimp only
      omega
    exact ⟨⟨kept, inside, passed⟩, by omega⟩
  | added pDataInfo marked pWriteAddr legal size free =>
    refine ⟨⟨kept, inside, passed⟩, ?_⟩
    have more := joined_potential progressing.kept marked pWriteAddr free
    unfold workOf
    dsimp only
    rw [more, size]
    omega
  | checked untyped checks =>
    refine ⟨⟨kept, inside, passed⟩, ?_⟩
    have less := checks_potential checks system.history system.held progressing.kept untyped
    unfold workOf
    dsimp only
    omega
  | passed typed pass passes =>
    have sound := guard.resolve_left typed
    obtain ⟨progress, _, less⟩ :=
      passes_progress progressing.kept progressing.inside sound passes
    refine ⟨⟨kept, inside, ?_⟩, ?_⟩
    · intro other member
      obtain earlier | rfl := mem_append.mp member |>.imp_right mem_singleton.mp
      · exact passed other earlier
      · exact progress
    · simp only [busyPasses, countP_append, countP_singleton, workOf]
      split_ifs at less ⊢ <;> omega

/-- A guarded run returns, and its busy passes are paid by the work submitted to it. -/
theorem run_progress (ops : List SbmOp) (progressing : Progressing system counts)
    (meets : StepsMeet (fun state op => Legal state op ∧ PrefixGuard codec state op) (exec codec)
      system ops) :
    ∃ final after, runOps (exec codec) system ops = some final ∧ Progressing final after ∧
      busyPasses final.history + potential final.pSbm ≤
        busyPasses system.history + potential system.pSbm + submittedWork ops := by
  induction ops generalizing system counts with
  | nil => exact ⟨system, counts, rfl, progressing, by simp [submittedWork]⟩
  | cons op rest ih =>
    obtain ⟨next, step⟩ := @exec_returns codec _ _ _ progressing.kept progressing.inside meets.1.1
    obtain ⟨between, steps⟩ := exec_steps progressing.kept meets.1.1 step
    obtain ⟨nextProgressing, paid⟩ :=
      steps_progress progressing meets.1.1 meets.1.2 steps
    obtain ⟨final, after, run, reached, later⟩ := ih nextProgressing (meets.2 next step)
    refine ⟨final, after, (run_cons _ _ _ _ _).mpr ⟨next, step, run⟩, reached, ?_⟩
    unfold submittedWork at later ⊢
    rw [map_cons, sum_cons]
    omega

end Runs

section Invocation

variable {codec : Codec} {system : SbmSystem} {counts : Counts}

/-- Every pass that an invocation takes reads a prefix that fits. -/
def invocationSound (codec : Codec) : Nat → SbmFrame → Bool
  | 0, _ => true
  | fuel + 1, pSbm =>
    prefixSound codec pSbm &&
      match detectPass (detectorOf codec pSbm) pSbm with
      | some (next, .again) => invocationSound codec fuel next
      | _ => true

def naluCount (pSbm : SbmFrame) : Nat :=
  match pSbm.mDetectInfo.pCurFramePic with
  | none => 0
  | some slot => (pSbm.curFrame slot).nCurNaluIdx

variable {pSbm : SbmFrame} {slot : Nat} {detector : Detector} {after : Counts}

theorem claims_count {base : SbmFrame} (claims : Claims pSbm slot base) :
    (base.curFrame slot).nCurNaluIdx = naluCount pSbm := by
  cases claims with
  | current here => simp only [naluCount, here]
  | fresh nothing granted =>
    simp [naluCount, nothing, initFramePicInfo, FramePicInfo.nCurNaluIdx]

theorem idled_count (base : SbmFrame) (slot : Nat) :
    ((idled base slot).curFrame slot).nCurNaluIdx = (base.curFrame slot).nCurNaluIdx := by
  unfold idled
  split_ifs
  · rfl
  · simp [released, FramePicInfo.nCurNaluIdx]

theorem ready_count {ready : SbmFrame} {p : Nat}
    {ptr : Int} (isReady : Ready detector pSbm counts slot ready after p ptr) :
    (ready.curFrame slot).nCurNaluIdx = naluCount pSbm := by
  obtain ⟨base, claims, ⟨_, rfl, _⟩ | ⟨_, supplies⟩⟩ := isReady.from_base
  · exact claims_count claims
  · rw [← claims_count claims, ← idled_count base slot]
    cases supplies with
    | chunk waiting here bytes => rfl

theorem marked_count (pStream : VideoStreamDataInfo) (ptr : Int) :
    ((markStart pSbm slot pStream ptr).curFrame slot).nCurNaluIdx =
      (pSbm.curFrame slot).nCurNaluIdx := by
  unfold markStart
  dsimp only
  split_ifs
  · simp [FramePicInfo.nCurNaluIdx]
  · rfl

theorem begun_count (pSbm : SbmFrame) (slot : Nat) (boundary : Boundary) (nNaluType : Nat) :
    ((begun boundary pSbm slot nNaluType).curFrame slot).nCurNaluIdx =
      (pSbm.curFrame slot).nCurNaluIdx := by
  unfold begun
  split_ifs
  · simp [markFound, FramePicInfo.nCurNaluIdx]
  · rfl

theorem again_count {next : SbmFrame} {outcome : Outcome} (goesOn : outcome = .again)
    (passes : Passes detector pSbm counts next outcome after) :
    naluCount next = naluCount pSbm + 1 ∧ naluCount pSbm ≤ MAX_NALU_NUM_IN_FRAME := by
  cases passes with
  | noFramePic nothing full | eosFrame claims needs supplies nothing ends
  | invalid isReady isMarked bad disposes | frame isReady isMarked before fits boundary =>
    cases goesOn
  | @dry slot base next result after claims needs supplies nothing stays =>
    cases result <;> cases goesOn
  | @again slot p ready marked after ptr nBefore boundary isReady isMarked before fits isBoundary
      inside =>
      have count : (marked.curFrame slot).nCurNaluIdx = naluCount pSbm := by
        rw [isMarked, marked_count, ready_count isReady]
      rw [count] at fits
      refine ⟨?_, fits⟩
      have current : (recordNalu detector (begun boundary marked slot
          (detector.naluType (readByteIdx marked (ptr + nBefore) 0))) slot
          (ready.frameFifo.pFrames p) ptr nBefore
          (readByteIdx marked (ptr + nBefore) 0)).mDetectInfo.pCurFramePic = some slot := by
        rw [record_detect, begun_detect, isMarked, mark_start_detect]
        exact ready_current isReady
      rw [naluCount, current]
      dsimp only
      rw [record_frame, ← count, ← begun_count marked slot boundary
        (detector.naluType (readByteIdx marked (ptr + nBefore) 0))]
      simp [FramePicInfo.nCurNaluIdx]

/-- What one invocation brings about, whatever the number of its passes. -/
def InvocationProgress (codec : Codec) (pSbm : SbmFrame) : Prop :=
  pSbm.bStreamWithStartCode ≠ -1 → invocationSound codec DETECT_FUEL pSbm = true →
    ∃ next outcome, detectOneFramePic (detectorOf codec pSbm) DETECT_FUEL pSbm =
        some (next, outcome) ∧ outcome ≠ .again ∧
      (unconsumed next < unconsumed pSbm ∨ PassProgress ⟨pSbm, next, outcome⟩)

theorem invocation_returns (fuel : Nat) (kept : RunKept system counts)
    (inside : CursorInside system.pSbm) (typed : system.pSbm.bStreamWithStartCode ≠ -1)
    (enough : MAX_NALU_NUM_IN_FRAME + 2 ≤ fuel + naluCount system.pSbm) (some_left : 0 < fuel)
    (sound : invocationSound codec fuel system.pSbm = true) :
    ∃ next outcome, detectOneFramePic (detectorOf codec system.pSbm) fuel system.pSbm =
        some (next, outcome) ∧ outcome ≠ .again ∧
      (unconsumed next < unconsumed system.pSbm ∨ PassProgress ⟨system.pSbm, next, outcome⟩) ∧
      unconsumed next ≤ unconsumed system.pSbm := by
  induction fuel generalizing system counts with
  | zero => omega
  | succ fuel ih =>
    obtain ⟨⟨middle, outcome⟩, pass⟩ :=
      @pass_returns (detectorOf codec system.pSbm) _ _ kept inside
    obtain ⟨after, passes⟩ := detect_pass_spec kept.sbm pass
    simp only [invocationSound, Bool.and_eq_true, pass] at sound
    obtain ⟨progress, bytes, _⟩ := passes_progress kept inside sound.1 passes
    unfold detectOneFramePic
    rw [pass, bind_some]
    dsimp only
    by_cases goesOn : outcome = .again
    · subst goesOn
      rw [if_pos rfl]
      have room := again_count rfl passes
      have same := passes_input passes
      have type : middle.bStreamWithStartCode = system.pSbm.bStreamWithStartCode :=
        congrArg Input.bStreamWithStartCode same
      have detector : detectorOf codec middle = detectorOf codec system.pSbm := by
        cases codec <;> simp only [detectorOf, avcDetector, hevcDetector, type]
      obtain ⟨next, last, invocation, ends, _, more⟩ :=
        @ih ⟨middle, system.held, system.history⟩ after
          (pass_kept system.history kept typed passes)
          (passes_inside kept inside sound.1 passes).1 (type ▸ typed)
          (by dsimp only; omega) (by omega) sound.2
      dsimp only at invocation more
      rw [detector] at invocation
      have taken : unconsumed middle < unconsumed system.pSbm := progress
      exact ⟨next, last, invocation, ends, .inl (by omega), by omega⟩
    · rw [if_neg goesOn]
      exact ⟨middle, outcome, rfl, goesOn, .inr progress, bytes⟩

theorem invocation_progress (kept : RunKept system counts) (inside : CursorInside system.pSbm) :
    InvocationProgress codec system.pSbm := by
  intro typed sound
  obtain ⟨next, outcome, invocation, ends, progress, _⟩ :=
    invocation_returns DETECT_FUEL kept inside typed
      (by unfold DETECT_FUEL; omega) (by decide) sound
  exact ⟨next, outcome, invocation, ends, progress⟩

/-- In a run whose passes read prefixes that fit, the detector gets on: no step
hangs, every pass and every invocation takes something away or hands a frame
over unless it waits for a frame picture or has consumed everything, and the
passes that do not wait are at most twice the bytes submitted, and a chunk each. -/
theorem detector_progress (codec : Codec) (nSbmBufferTotalSize pSbmBuf : Int)
    (nNaluLength : Nat) (bytes : Int → UInt8) (pSbm : SbmFrame)
    (limit : nSbmBufferTotalSize ≤ RING_LIMIT) (prefixBytes : nNaluLength ≤ 4)
    (init : sbmFrameInit nSbmBufferTotalSize nNaluLength pSbmBuf bytes = some pSbm)
    (ops : List SbmOp) (legal : StepsMeet Legal (exec codec) (SbmSystem.start pSbm) ops)
    (guarded : StepsMeet (PrefixGuard codec) (exec codec) (SbmSystem.start pSbm) ops) :
    ∃ final, runOps (exec codec) (SbmSystem.start pSbm) ops = some final ∧
      (∀ pass ∈ final.history, PassProgress pass) ∧ InvocationProgress codec final.pSbm ∧
      busyPasses final.history + potential final.pSbm ≤ submittedWork ops ∧
      0 ≤ potential final.pSbm := by
  have kept := start_kept limit prefixBytes init
  have idle : pSbm.mDetectInfo.pCurStream = none := (kept.untyped (by
    unfold sbmFrameInit at init
    split_ifs at init
    obtain rfl := Option.some.inj init
    rfl)).1
  have start : Progressing (SbmSystem.start pSbm) ⟨0, 0, 0, 0, 0⟩ := by
    refine ⟨kept, ?_, ?_⟩
    · intro p ptr stream
      simp [SbmSystem.start, idle] at stream
    · intro pass member
      simp [SbmSystem.start] at member
  have nothing : potential pSbm = 0 := by
    unfold sbmFrameInit at init
    split_ifs at init
    obtain rfl := Option.some.inj init
    rfl
  obtain ⟨final, after, run, progressing, paid⟩ :=
    run_progress ops start (steps_meet_and legal guarded)
  refine ⟨final, run, progressing.passes, invocation_progress progressing.kept progressing.inside,
    ?_, potential_nonneg progressing.kept progressing.inside⟩
  have before : busyPasses (SbmSystem.start pSbm).history +
      potential (SbmSystem.start pSbm).pSbm = 0 := by
    simpa [busyPasses, SbmSystem.start] using nothing
  omega

/-- A well-formed chunk passes through a guarded run. -/
theorem submitted_chunk_progress : ∃ pSbm, sbmFrameInit 64 4 1 (fun _ => 0) = some pSbm ∧
      ∃ final, runOps (exec .avc) (SbmSystem.start pSbm) submitOps = some final ∧
        (∀ pass ∈ final.history, PassProgress pass) ∧ InvocationProgress .avc final.pSbm ∧
        busyPasses final.history + potential final.pSbm ≤ submittedWork submitOps ∧
        0 ≤ potential final.pSbm :=
  ⟨_, rfl, detector_progress .avc 64 1 4 (fun _ => 0) _ (by decide) (by decide) rfl submitOps
    (by decide) (by decide)⟩

end Invocation

/-- The chunk at 11 is under detection and starts with the prefix minus four. -/
structure Stuck (pSbm : SbmFrame) (found : Bool) (valid : Nat) : Prop where
  typed : pSbm.bStreamWithStartCode = 0
  ring : pSbm.pStreamBuffer = 1 ∧ pSbm.pStreamBufferEnd = 64
  stream : pSbm.mDetectInfo.pCurStream.isSome
  cursor : pSbm.mDetectInfo.pCurStreamDataptr = some 11
  size : pSbm.mDetectInfo.nCurStreamDataSize = 10
  negative : avcNaluSize pSbm 11 = -4 ∧ pSbm.nNaluLength = 4
  unread : pSbm.frameFifo.nUnReadFrameNum = 0
  found : pSbm.mDetectInfo.bCurFrameStartCodeFound = found
  frames : pSbm.mFramePicFifo.nMaxFrameNum = 100 ∧ pSbm.mFramePicFifo.nValidFrameNum = valid ∧
    pSbm.mFramePicFifo.nUnReadFrameNum = valid
  places : pSbm.mFramePicFifo.nFlushPos = pSbm.mFramePicFifo.nReadPos

variable {pSbm : SbmFrame} {system : SbmSystem} {slot : Nat} {found : Bool} {valid : Nat}

theorem stuck_negative (stuck : Stuck pSbm found valid) {state : SbmFrame}
    (read : readByteIdx state = readByteIdx pSbm)
    (count : state.nNaluLength = pSbm.nNaluLength) :
    avcNaluSize state 11 = -4 ∧ state.nNaluLength = 4 :=
  ⟨(avc_size_of_read read count 11).trans stuck.negative.1, count.trans stuck.negative.2⟩

/-- A pass over the stuck chunk, once there is a frame to fill. -/
theorem stuck_in_frame (stuck : Stuck pSbm found valid)
    (few : (pSbm.curFrame slot).nCurNaluIdx ≤ MAX_NALU_NUM_IN_FRAME) :
    ∃ frame naluHeader pStream, frame.nCurNaluIdx = (pSbm.curFrame slot).nCurNaluIdx ∧
      detectInFrame avcWithoutStartCode pSbm slot =
        if found then (emitFramePic (pSbm.setFrame slot frame) slot).map (·, .frame)
        else some (recordNalu avcWithoutStartCode (markFound (pSbm.setFrame slot frame) slot
          (avcNaluType naluHeader)) slot pStream 11 4 naluHeader, .again) := by
  obtain ⟨p, stream⟩ := isSome_iff_exists.mp stuck.stream
  have marks : ∃ frame, frame.nCurNaluIdx = (pSbm.curFrame slot).nCurNaluIdx ∧
      markStart pSbm slot (pSbm.frameFifo.pFrames p) 11 = pSbm.setFrame slot frame := by
    unfold markStart
    dsimp only
    split_ifs
    · exact ⟨_, by rfl, rfl⟩
    · refine ⟨pSbm.curFrame slot, rfl, ?_⟩
      simp [SbmFrame.setFrame, FrameFifo.store, SbmFrame.curFrame]
  obtain ⟨frame, same, marked⟩ := marks
  refine ⟨frame, readByteIdx (pSbm.setFrame slot frame) 15 0, pSbm.frameFifo.pFrames p, same, ?_⟩
  have before : avcWithoutStartCode.beforeNalu (pSbm.setFrame slot frame) 11 10 = some 4 := by
    simp [avcWithoutStartCode,
      @stuck_negative _ _ _ stuck (pSbm.setFrame slot frame) (by rfl) (by rfl)]
  have boundary : avcBoundary (pSbm.setFrame slot frame) =
      if found then .newFrame else .firstOfFrame := by
    simp only [avcBoundary, SbmFrame.setFrame, stuck.found]
    cases found <;> rfl
  simp only [detectInFrame, detectNalu, stuck.size, stuck.cursor]
  rw [if_neg (by decide), bind_some]
  dsimp only
  rw [stream, stuck.cursor, bind_some, bind_some, stuck.ring.1, stuck.ring.2,
    if_neg (by decide), marked,
    show (pSbm.setFrame slot frame).mDetectInfo.nCurStreamDataSize = 10 from stuck.size, before]
  dsimp only
  rw [set_frame_same, if_neg (by omega)]
  rw [show avcWithoutStartCode.boundary = fun pSbm _ _ => avcBoundary pSbm from rfl]
  dsimp only
  rw [boundary]
  cases found <;> rfl

theorem record_fifo (detector : Detector) (pSbm : SbmFrame) (slot : Nat)
    (pStream : VideoStreamDataInfo) (ptr nBefore : Int) (naluHeader : UInt8) :
    ∃ pFrames, (recordNalu detector pSbm slot pStream ptr nBefore naluHeader).mFramePicFifo =
      { pSbm.mFramePicFifo with pFrames := pFrames } :=
  ⟨(recordNalu detector pSbm slot pStream ptr nBefore naluHeader).mFramePicFifo.pFrames, rfl⟩

/-- The records of a pass over the stuck chunk lead back to where it was. -/
theorem stuck_recorded {marked : SbmFrame}
    (stuck : Stuck marked true 0) (pStream : VideoStreamDataInfo) (naluHeader : UInt8) :
    Stuck (recordNalu avcWithoutStartCode marked slot pStream 11 4 naluHeader) true 0 := by
  have minus : recordedSize avcWithoutStartCode marked slot 11 4 = -4 := by
    change s32 (avcNaluSize _ 11) = -4
    rw [(stuck_negative stuck (by rfl) (by rfl)).1]
    decide
  have same := @record_input avcWithoutStartCode marked slot pStream 11 4 naluHeader
  obtain ⟨pFrames, fifo⟩ := record_fifo avcWithoutStartCode marked slot pStream 11 4 naluHeader
  constructor
  · exact (congrArg Input.bStreamWithStartCode same).trans stuck.typed
  · exact ⟨(congrArg Input.pStreamBuffer same).trans stuck.ring.1,
      (congrArg Input.pStreamBufferEnd same).trans stuck.ring.2⟩
  · rw [record_detect]
    exact stuck.stream
  · rw [record_detect, minus]
    simp [skipPtr, stuck.ring]
  · rw [record_detect, minus, stuck.size]
    change s32 (s32 (10 - 4) - -4) = 10
    decide
  · exact stuck_negative stuck (read_of_input same) (congrArg Input.nNaluLength same)
  · rw [record_chunks, stuck.unread]
  · rw [record_detect]
    exact stuck.found
  · rw [fifo]
    exact stuck.frames
  · rw [fifo]
    exact stuck.places

/-- The first pass of a round stores the chunk's first NAL. -/
theorem stuck_first (stuck : Stuck pSbm false 0)
    (idle : pSbm.mDetectInfo.pCurFramePic = none) (place : pSbm.mFramePicFifo.nWritePos = slot) :
    ∃ next, detectPass avcWithoutStartCode pSbm = some (next, .again) ∧ Stuck next true 0 ∧
      next.mDetectInfo.pCurFramePic = some slot ∧ (next.curFrame slot).nCurNaluIdx = 1 ∧
      next.mFramePicFifo.nWritePos = slot ∧
      next.mFramePicFifo.nReadPos = pSbm.mFramePicFifo.nReadPos := by
  have empty : ((initFramePicInfo pSbm slot).curFrame slot).nCurNaluIdx = 0 := by
    simp [initFramePicInfo, SbmFrame.curFrame, SbmFrame.setFrame, SbmFrame.setDetect,
      FrameFifo.store, FramePicInfo.nCurNaluIdx]
  have inited : Stuck (initFramePicInfo pSbm slot) false 0 :=
    { stuck with negative := stuck_negative stuck (by rfl) (by rfl) }
  obtain ⟨frame, naluHeader, pStream, few, pass⟩ :=
    @stuck_in_frame _ slot _ _ inited (by rw [empty]; decide)
  have marked : Stuck (markFound ((initFramePicInfo pSbm slot).setFrame slot frame) slot
      (avcNaluType naluHeader)) true 0 :=
    { inited with negative := stuck_negative stuck (by rfl) (by rfl), found := rfl }
  refine ⟨_, ?_, @stuck_recorded slot _ marked pStream naluHeader, ?_, ?_, place, rfl⟩
  · unfold detectPass requestEmptyFramePic
    rw [idle, stuck.frames.1, stuck.frames.2.1, place]
    exact pass
  · rw [record_detect]
    rfl
  · rw [record_frame, FramePicInfo.nCurNaluIdx, length_append, ← FramePicInfo.nCurNaluIdx,
      markFound, set_detect_frame, set_frame_same]
    change (SbmFrame.curFrame _ _).nCurNaluIdx + 1 = 1
    rw [set_frame_same, few, empty]

theorem stuck_second (stuck : Stuck pSbm true 0)
    (current : pSbm.mDetectInfo.pCurFramePic = some slot)
    (place : pSbm.mFramePicFifo.nWritePos = slot)
    (few : (pSbm.curFrame slot).nCurNaluIdx = 1) :
    ∃ next, detectPass avcWithoutStartCode pSbm = some (next, .frame) ∧ Stuck next false 1 ∧
      next.mDetectInfo.pCurFramePic = none ∧
      next.mFramePicFifo.nWritePos = next.mFramePicFifo.nextPos slot ∧
      next.mFramePicFifo.nReadPos = pSbm.mFramePicFifo.nReadPos := by
  obtain ⟨frame, naluHeader, pStream, _, pass⟩ :=
    @stuck_in_frame _ slot _ _ stuck (by rw [few]; decide)
  have emit : emitFramePic (pSbm.setFrame slot frame) slot =
      some (frameJoined (stamped (pSbm.setFrame slot frame) slot) false) := by
    have room : ¬ pSbm.mFramePicFifo.nMaxFrameNum ≤ pSbm.mFramePicFifo.nValidFrameNum := by
      rw [stuck.frames.1, stuck.frames.2.1]
      decide
    have add : addFramePic (stamped (pSbm.setFrame slot frame) slot) slot = some
        ({ stamped (pSbm.setFrame slot frame) slot with
          mFramePicFifo := (stamped (pSbm.setFrame slot frame) slot).mFramePicFifo.advanceWrite },
          0) :=
      (if_neg room).trans (if_neg (not_not.mpr place.symm))
    change (addFramePic (stamped _ slot) slot).map _ = _
    rw [add]
    rfl
  rw [emit] at pass
  refine ⟨frameJoined (stamped (pSbm.setFrame slot frame) slot) false,
    by rw [detectPass, current]; exact pass, ?_, rfl, ?_, rfl⟩
  · have frames := stuck.frames
    exact
    { stuck with
      negative := stuck_negative stuck (by rfl) (by rfl)
      found := rfl
      frames := ⟨frames.1, congrArg (· + 1) frames.2.1, congrArg (· + 1) frames.2.2⟩ }
  · rw [← place]
    rfl

structure Looping (system : SbmSystem) : Prop where
  stuck : Stuck system.pSbm false 0
  idle : system.pSbm.mDetectInfo.pCurFramePic = none
  write : system.pSbm.mFramePicFifo.nWritePos = system.pSbm.mFramePicFifo.nReadPos
  held : system.held = []

theorem detect_step {next : SbmFrame} {outcome : Outcome} (stuck : Stuck system.pSbm found valid)
    (pass : detectPass avcWithoutStartCode system.pSbm = some (next, outcome)) :
    exec .avc system .detect = some { system with
      pSbm := next
      history := system.history ++ [⟨system.pSbm, next, outcome⟩] } := by
  have detector : detectorOf .avc system.pSbm = avcWithoutStartCode := by
    simp [detectorOf, avcDetector, stuck.typed]
  simp only [exec, stuck.typed, detector, pass]
  rfl

/-- The frame of a round is requested and flushed. -/
theorem frame_leaves (stuck : Stuck system.pSbm false 1)
    (idle : system.pSbm.mDetectInfo.pCurFramePic = none)
    (write : system.pSbm.mFramePicFifo.nWritePos =
      system.pSbm.mFramePicFifo.nextPos system.pSbm.mFramePicFifo.nReadPos)
    (held : system.held = []) :
    ∃ slot next, runOps (exec .avc) system [.requestFramePic, .flushFramePic slot] = some next ∧
      Looping next ∧ next.history = system.history ∧
      StepsMeet Legal (exec .avc) system [.requestFramePic, .flushFramePic slot] := by
  obtain ⟨most, valid, unread⟩ := stuck.frames
  have request : sbmFrameRequestFramePic system.pSbm =
      ({ system.pSbm with mFramePicFifo := system.pSbm.mFramePicFifo.advanceRead },
        some system.pSbm.mFramePicFifo.nReadPos) := by
    unfold sbmFrameRequestFramePic FrameFifo.request
    rw [if_neg (by omega)]
  have flush : system.pSbm.mFramePicFifo.advanceRead.flush system.pSbm.mFramePicFifo.nReadPos =
      some (system.pSbm.mFramePicFifo.advanceRead.advanceFlush, 0) := by
    refine (if_neg ?_).trans (if_neg (not_not.mpr stuck.places.symm))
    change ¬ system.pSbm.mFramePicFifo.nValidFrameNum = 0
    omega
  have run : ∃ nValidDataSize, runOps (exec .avc) system
      [.requestFramePic, .flushFramePic system.pSbm.mFramePicFifo.nReadPos] =
      some ⟨{ system.pSbm with
        mFramePicFifo := system.pSbm.mFramePicFifo.advanceRead.advanceFlush
        nValidDataSize := nValidDataSize }, [], system.history⟩ := by
    simp only [runOps, exec, request, bind_some, sbmFrameFlushFramePic, flush, held]
    exact ⟨_, rfl⟩
  obtain ⟨nValidDataSize, run⟩ := run
  refine ⟨_, _, run, ?_, rfl, trivial, ?_⟩
  · exact
    { stuck := { stuck with
        negative := stuck_negative stuck (by rfl) (by rfl)
        frames := ⟨most, congrArg (· - 1) valid, congrArg (· - 1) unread⟩
        places := congrArg system.pSbm.mFramePicFifo.nextPos stuck.places }
      idle := idle
      write := write
      held := rfl }
  · intro next step
    simp only [exec, request] at step
    obtain rfl := Option.some.inj step
    exact ⟨by simp [Legal, held], fun _ _ => trivial⟩

def roundOps (slot : Nat) : List SbmOp := [.detect, .detect, .requestFramePic, .flushFramePic slot]

theorem round_loops (looping : Looping system) :
    ∃ slot next, runOps (exec .avc) system (roundOps slot) = some next ∧ Looping next ∧
      next.history.length = system.history.length + 2 ∧
      StepsMeet Legal (exec .avc) system (roundOps slot) := by
  obtain ⟨first, firstPass, marked, current, few, firstWrite, firstRead⟩ :=
    stuck_first looping.stuck looping.idle looping.write
  obtain ⟨second, secondPass, stuck, idle, write, read⟩ :=
    stuck_second marked current firstWrite few
  have firstStep := detect_step looping.stuck firstPass
  have secondStep := @detect_step ⟨first, system.held,
    system.history ++ [⟨system.pSbm, first, .again⟩]⟩ _ _ _ _ marked secondPass
  obtain ⟨slot, next, run, loops, history, legal⟩ := @frame_leaves ⟨second, system.held,
    system.history ++ [⟨system.pSbm, first, .again⟩] ++ [⟨first, second, .frame⟩]⟩ stuck
    idle (by rw [write, read, firstRead]) looping.held
  refine ⟨slot, next, ?_, loops, ?_, trivial, ?_⟩
  · exact (run_cons _ _ _ _ _).mpr
      ⟨_, firstStep, (run_cons _ _ _ _ _).mpr ⟨_, secondStep, run⟩⟩
  · rw [history]
    simp
  · intro other step
    obtain rfl := Option.some.inj (firstStep.symm.trans step)
    refine ⟨trivial, ?_⟩
    intro other step
    obtain rfl := Option.some.inj (secondStep.symm.trans step)
    exact legal

theorem rounds_loop (count : Nat) (looping : Looping system) :
    ∃ slots : List Nat, slots.length = count ∧ ∃ next,
      runOps (exec .avc) system (slots.flatMap roundOps) = some next ∧ Looping next ∧
      next.history.length = system.history.length + 2 * count ∧
      StepsMeet Legal (exec .avc) system (slots.flatMap roundOps) := by
  induction count generalizing system with
  | zero => exact ⟨[], rfl, system, rfl, looping, rfl, trivial⟩
  | succ count ih =>
    obtain ⟨slot, middle, round, loops, history, legal⟩ := round_loops looping
    obtain ⟨slots, length, next, run, reached, longer, later⟩ := ih loops
    refine ⟨slot :: slots, by rw [length_cons, length], next, ?_, reached, by omega, ?_⟩
    · exact (run_append _ _ _ _ _).mpr ⟨middle, round, run⟩
    · exact steps_meet_append round legal later

/-- The second chunk starts with the prefix `0xfffffffc`; the first frame leaves. -/
def minusFourOps : List SbmOp :=
  let content : Int → UInt8 := fun address =>
    [0, 0, 0, 6, 0x65, 1, 2, 3, 4, 5, 255, 255, 255, 0xfc, 0x65, 1, 2, 3, 4, 5][address.toNat - 1]!
  [.write content, .addStream ⟨1, 10, 7, 0, 0, 0⟩, .addStream ⟨11, 10, 8, 0, 0, 0⟩, .detect,
   .detect, .detect, .requestFramePic, .flushFramePic 0]

/-- However often the detector is invoked and its frames are flushed, ten bytes
of the second chunk stay unconsumed, and two passes a round do not wait. -/
theorem minus_four_never_consumed : ∃ pSbm, sbmFrameInit 64 4 1 (fun _ => 0) = some pSbm ∧
      StepsMeet Legal (exec .avc) (SbmSystem.start pSbm) minusFourOps ∧
      ∃ state, runOps (exec .avc) (SbmSystem.start pSbm) minusFourOps = some state ∧
        ∀ count : Nat, ∃ slots : List Nat, slots.length = count ∧ ∃ next,
          runOps (exec .avc) state (slots.flatMap roundOps) = some next ∧
          StepsMeet Legal (exec .avc) state (slots.flatMap roundOps) ∧
          next.history.length = state.history.length + 2 * count ∧
          unconsumed next.pSbm = 10 := by
  have observed : (runOps (exec .avc) (SbmSystem.start
      ((sbmFrameInit 64 4 1 (fun _ => 0)).get rfl)) minusFourOps).any fun system =>
        let pSbm := system.pSbm
        (pSbm.bStreamWithStartCode = 0 ∧ (pSbm.pStreamBuffer = 1 ∧ pSbm.pStreamBufferEnd = 64) ∧
          pSbm.mDetectInfo.pCurStream.isSome ∧ pSbm.mDetectInfo.pCurStreamDataptr = some 11 ∧
          pSbm.mDetectInfo.nCurStreamDataSize = 10 ∧
          (avcNaluSize pSbm 11 = -4 ∧ pSbm.nNaluLength = 4) ∧
          pSbm.frameFifo.nUnReadFrameNum = 0 ∧
          pSbm.mDetectInfo.bCurFrameStartCodeFound = false ∧
          (pSbm.mFramePicFifo.nMaxFrameNum = 100 ∧ pSbm.mFramePicFifo.nValidFrameNum = 0 ∧
            pSbm.mFramePicFifo.nUnReadFrameNum = 0) ∧
          pSbm.mFramePicFifo.nFlushPos = pSbm.mFramePicFifo.nReadPos) ∧
        pSbm.mDetectInfo.pCurFramePic = none ∧
        pSbm.mFramePicFifo.nWritePos = pSbm.mFramePicFifo.nReadPos ∧ system.held = [] := by
    decide
  obtain ⟨state, run, facts⟩ := (any_eq_true _ _).mp observed
  obtain ⟨⟨typed, ring, stream, cursor, size, negative, unread, found, frames, places⟩, idle,
    write, held⟩ := of_decide_eq_true facts
  have looping : Looping state :=
    ⟨⟨typed, ring, stream, cursor, size, negative, unread, found, frames, places⟩, idle, write,
      held⟩
  refine ⟨_, rfl, by decide +kernel, state, run, ?_⟩
  intro count
  obtain ⟨slots, length, next, rounds, loops, history, meets⟩ := rounds_loop count looping
  refine ⟨slots, length, next, rounds, meets, history, ?_⟩
  simp [unconsumed, unreadSum, loops.stuck.unread, loops.stuck.size, CyclicBuffer.window]

end CedarC.SbmFrameProgress
