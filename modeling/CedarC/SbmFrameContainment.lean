import CedarC.SbmFrameBytes

/-!
# NALs inside their chunks

A pass records the NAL in front of its cursor. The size comes out of the
length prefix, which the detectors compare with the bytes left of the chunk:
as an `int` in the H.264 file, where a prefix with the top bit set is negative
and passes, and as `unsigned int` in the H.265 file, where the bytes left of a
chunk shorter than its prefix wrap to a huge bound. Where neither is met, the
cursor never leaves the chunk and every recorded NAL lies inside of it.
-/

namespace CedarC.SbmFrameContainment

open FixedWidth GuardedRuns SbmFrameModel SbmFrameDetect SbmFrameSteps SbmFrameRuns SbmFrameBytes

section Condition

/-- The cursor and the bytes left where the next pass reads: in the chunk under
detection, or at the start of the chunk that waits. -/
def nextCursor (pSbm : SbmFrame) : Option (Int × Int) :=
  if NeedsSupply pSbm then
    let pStream := pSbm.frameFifo.pFrames pSbm.frameFifo.nReadPos
    if pSbm.frameFifo.nUnReadFrameNum = 0 ∨ pStream.nLength ≤ 0 then none
    else some (pStream.pData, pStream.nLength)
  else pSbm.mDetectInfo.pCurStreamDataptr.map fun ptr => (ptr, pSbm.mDetectInfo.nCurStreamDataSize)

/-- An H.264 prefix is no negative `int`. An H.265 prefix is in the chunk, or refused. -/
def prefixFits (codec : Codec) (pSbm : SbmFrame) (ptr nCurStreamDataSize : Int) : Bool :=
  match codec with
  | .avc => 0 ≤ avcNaluSize pSbm ptr
  | .hevc =>
    4 ≤ nCurStreamDataSize ∨ hevcWithoutStartCode.beforeNalu pSbm ptr nCurStreamDataSize = none

/-- The condition on a pass of the detector, from the state before it. -/
def prefixSound (codec : Codec) (pSbm : SbmFrame) : Bool :=
  pSbm.bStreamWithStartCode = 1 ∨ (nextCursor pSbm).all fun (ptr, nCurStreamDataSize) =>
      prefixFits codec pSbm ptr nCurStreamDataSize

def PrefixGuard (codec : Codec) (system : SbmSystem) : SbmOp → Prop
  | .detect => system.pSbm.bStreamWithStartCode = -1 ∨ prefixSound codec system.pSbm = true
  | _ => True

instance (codec : Codec) (system : SbmSystem) : ∀ op, Decidable (PrefixGuard codec system op)
  | .detect => inferInstanceAs (Decidable (_ ∨ _))
  | .write _ | .addStream _ | .requestFramePic | .returnFramePic _ | .flushFramePic _ | .setEos _ =>
    isTrue trivial

variable {detector : Detector} {pSbm : SbmFrame} {counts after : Counts} {slot p : Nat}
  {ready : SbmFrame} {ptr : Int}

theorem ready_cursor (kept : SbmKept pSbm counts)
    (isReady : Ready detector pSbm counts slot ready after p ptr) :
    nextCursor pSbm = some (ptr, ready.mDetectInfo.nCurStreamDataSize) := by
  have cursor := isReady.cursor
  have stream := isReady.stream
  obtain ⟨base, claims, ⟨enough, rfl, _⟩ | ⟨needs, supplies⟩⟩ := isReady.from_base
  · cases claims with
    | current here =>
      unfold nextCursor
      rw [if_neg enough, cursor]
      rfl
    | fresh nothing granted =>
      have same : ¬ NeedsSupply pSbm := enough
      have here : pSbm.mDetectInfo.pCurStreamDataptr = some ptr := cursor
      unfold nextCursor
      rw [if_neg same, here]
      rfl
  · have needsToo : NeedsSupply pSbm := by
      cases claims with
      | current here | fresh nothing granted => exact needs
    have same : input (idled base slot) = input pSbm := by rw [idled_input, claims_input claims]
    have idleKept := idled_kept (claims_kept kept claims) slot
    have chunks := idleKept.chunks
    rw [under_detection_none (idled_idle slot), Nat.add_zero] at chunks
    have fifo : (idled base slot).frameFifo.nReadPos = pSbm.frameFifo.nReadPos ∧
        (idled base slot).frameFifo.nUnReadFrameNum = pSbm.frameFifo.nUnReadFrameNum := by
      have chunk : base.frameFifo = pSbm.frameFifo := by cases claims <;> rfl
      unfold idled
      split_ifs <;> rw [← chunk] <;> exact ⟨rfl, rfl⟩
    cases supplies with
    | @chunk q waiting here bytes =>
      obtain rfl : q = p := Option.some.inj stream
      obtain rfl := Option.some.inj cursor
      have place : q = pSbm.frameFifo.nReadPos := by rw [here, ← chunks.readPos, fifo.1]
      have unread := chunks.unRead
      rw [fifo.2] at unread
      have pFrames : (idled base slot).frameFifo.pFrames = pSbm.frameFifo.pFrames :=
        congrArg Input.pFrames same
      rw [pFrames] at bytes
      unfold nextCursor
      rw [if_pos needsToo]
      dsimp only
      rw [← place, if_neg (by omega)]
      simp only [taken, SbmFrame.setDetect, pFrames]

end Condition

section Sizes

variable {codec : Codec} {pSbm marked begins : SbmFrame} {slot : Nat} {ptr nBefore : Int}
  {before after : SbmFrame}

theorem read_of_input (same : input after = input before) :
    readByteIdx after = readByteIdx before := by
  have bytes : after.bytes = before.bytes := congrArg Input.bytes same
  have first : after.pStreamBuffer = before.pStreamBuffer := congrArg Input.pStreamBuffer same
  have last : after.pStreamBufferEnd = before.pStreamBufferEnd :=
    congrArg Input.pStreamBufferEnd same
  funext p i
  unfold readByteIdx
  rw [bytes, first, last]

theorem read_bytes_of_read
    (same : readByteIdx after = readByteIdx before) (p : Int) (count : Nat) (i n : Int) :
    readBytes after p count i n = readBytes before p count i n := by
  induction count generalizing i n with
  | zero => rfl
  | succ count ih =>
    unfold readBytes
    rw [same, ih]

theorem avc_size_of_read (same : readByteIdx after = readByteIdx before)
    (count : after.nNaluLength = before.nNaluLength) (p : Int) :
    avcNaluSize after p = avcNaluSize before p := by
  unfold avcNaluSize
  rw [count, read_bytes_of_read same]

theorem avc_size_of_input (same : input after = input before)
    (p : Int) : avcNaluSize after p = avcNaluSize before p :=
  avc_size_of_read (read_of_input same) (congrArg Input.nNaluLength same) p

theorem hevc_size_of_input (same : input after = input before)
    (p : Int) : hevcNaluSize after p = hevcNaluSize before p := by
  unfold hevcNaluSize readWord
  rw [read_bytes_of_read (read_of_input same)]

theorem start_code_size (pNaluBuf nCurStreamDataSize : Int) (nonneg : 0 ≤ nCurStreamDataSize) :
    0 ≤ sizeToStartCode pSbm pNaluBuf nCurStreamDataSize ∧
      sizeToStartCode pSbm pNaluBuf nCurStreamDataSize ≤ nCurStreamDataSize := by
  unfold sizeToStartCode
  split
  · exact ⟨nonneg, Int.le_refl _⟩
  · next found search =>
    have range := search_range search
    omega

/-- What a pass takes off the chunk: bytes in front, then a NAL, in all at least one. -/
structure SizesFit (nCurStreamDataSize nBefore nNaluSize : Int) : Prop where
  before : 0 ≤ nBefore
  nonneg : 0 ≤ nNaluSize
  some_taken : 0 < nBefore + nNaluSize
  inside : nBefore + nNaluSize ≤ nCurStreamDataSize

theorem skipped_size (range : 0 ≤ begins.mDetectInfo.nCurStreamDataSize - nBefore)
    (limit : begins.mDetectInfo.nCurStreamDataSize ≤ 2 ^ 30) (before : 0 ≤ nBefore) :
    (skipCurStreamDataBytes begins slot ptr nBefore).mDetectInfo.nCurStreamDataSize =
      begins.mDetectInfo.nCurStreamDataSize - nBefore := by
  change s32 (begins.mDetectInfo.nCurStreamDataSize - nBefore) = _
  apply s32_of_range
  unfold InS32
  omega

theorem start_code_fits (some_left : 0 < begins.mDetectInfo.nCurStreamDataSize)
    (limit : begins.mDetectInfo.nCurStreamDataSize ≤ 2 ^ 30)
    (search : searchStartCode marked ptr begins.mDetectInfo.nCurStreamDataSize = some nBefore)
    {detector : Detector} (sizes : detector.naluSize = fun pSbm _ pNaluBuf nCurStreamDataSize =>
      sizeToStartCode pSbm pNaluBuf nCurStreamDataSize) :
    SizesFit begins.mDetectInfo.nCurStreamDataSize nBefore
      (recordedSize detector begins slot ptr nBefore) := by
  have range := search_range search
  have skipped := @skipped_size begins slot ptr nBefore (by omega) limit (by omega)
  have bound := @start_code_size (skipCurStreamDataBytes begins slot ptr nBefore)
    (skipPtr begins ptr nBefore) (begins.mDetectInfo.nCurStreamDataSize - nBefore) (by omega)
  have recorded : recordedSize detector begins slot ptr nBefore =
      sizeToStartCode (skipCurStreamDataBytes begins slot ptr nBefore)
        (skipPtr begins ptr nBefore) (begins.mDetectInfo.nCurStreamDataSize - nBefore) := by
    unfold recordedSize
    dsimp only
    rw [sizes, skipped]
    dsimp only
    apply s32_of_range
    unfold InS32
    omega
  rw [recorded]
  exact ⟨by omega, bound.1, by omega, by omega⟩

theorem sizes_fit (sameMarked : input marked = input pSbm) (sameBegins : input begins = input pSbm)
    (some_left : 0 < begins.mDetectInfo.nCurStreamDataSize)
    (limit : begins.mDetectInfo.nCurStreamDataSize ≤ 2 ^ 30) (fits : pSbm.bStreamWithStartCode = 1 ∨
      prefixFits codec pSbm ptr begins.mDetectInfo.nCurStreamDataSize = true)
    (before : (detectorOf codec pSbm).beforeNalu marked ptr
      begins.mDetectInfo.nCurStreamDataSize = some nBefore) :
    SizesFit begins.mDetectInfo.nCurStreamDataSize nBefore
      (recordedSize (detectorOf codec pSbm) begins slot ptr nBefore) := by
  have skippedSame : input (skipCurStreamDataBytes begins slot ptr nBefore) = input pSbm := sameBegins
  cases codec with
  | avc =>
    simp only [detectorOf, avcDetector] at before ⊢
    split_ifs at before ⊢ with startCode
    · exact start_code_fits some_left limit before rfl
    · have nonneg : 0 ≤ avcNaluSize pSbm ptr := by simpa [startCode, prefixFits] using fits
      simp only [avcWithoutStartCode, avc_size_of_input sameMarked,
        show marked.nNaluLength = pSbm.nNaluLength from congrArg Input.nNaluLength sameMarked]
        at before
      split_ifs at before with bad
      obtain rfl := Option.some.inj before
      have recorded : recordedSize avcWithoutStartCode begins slot ptr pSbm.nNaluLength =
          avcNaluSize pSbm ptr := by
        unfold recordedSize avcWithoutStartCode
        dsimp only
        rw [avc_size_of_input skippedSame]
        apply s32_of_range
        unfold InS32
        omega
      rw [recorded]
      exact ⟨by omega, nonneg, by omega, by omega⟩
  | hevc =>
    simp only [detectorOf, hevcDetector] at before ⊢
    split_ifs at before ⊢ with startCode
    · exact start_code_fits some_left limit before rfl
    · have nonneg : 0 ≤ hevcNaluSize pSbm ptr := by
        unfold hevcNaluSize u32
        omega
      have whole : 4 ≤ begins.mDetectInfo.nCurStreamDataSize := by
        have refused : hevcWithoutStartCode.beforeNalu pSbm ptr
            begins.mDetectInfo.nCurStreamDataSize ≠ none := by
          simp only [hevcWithoutStartCode, hevc_size_of_input sameMarked] at before ⊢
          rw [before]
          simp
        simpa [startCode, prefixFits, refused] using fits
      have bound : u32 (begins.mDetectInfo.nCurStreamDataSize - 4) =
          begins.mDetectInfo.nCurStreamDataSize - 4 := by
        unfold u32
        omega
      simp only [hevcWithoutStartCode, hevc_size_of_input sameMarked, bound] at before
      split_ifs at before with bad
      obtain rfl := Option.some.inj before
      have recorded : recordedSize hevcWithoutStartCode begins slot ptr 4 =
          hevcNaluSize pSbm ptr := by
        unfold recordedSize hevcWithoutStartCode
        dsimp only
        rw [hevc_size_of_input skippedSame]
        apply s32_of_range
        unfold InS32
        omega
      rw [recorded]
      exact ⟨by omega, nonneg, by omega, by omega⟩

end Sizes

section Cursor

def ringAt (pSbm : SbmFrame) (address : Int) : Int :=
  if address > pSbm.pStreamBufferEnd then address - pSbm.nStreamBufferSize else address

/-- The cursor is as many bytes from the end of its chunk as are left. -/
def CursorInside (pSbm : SbmFrame) : Prop :=
  ∀ p ptr, pSbm.mDetectInfo.pCurStream = some p → pSbm.mDetectInfo.pCurStreamDataptr = some ptr →
    0 ≤ pSbm.mDetectInfo.nCurStreamDataSize ∧
      pSbm.mDetectInfo.nCurStreamDataSize ≤ (pSbm.frameFifo.pFrames p).nLength ∧
      ptr = ringAt pSbm ((pSbm.frameFifo.pFrames p).pData +
        ((pSbm.frameFifo.pFrames p).nLength - pSbm.mDetectInfo.nCurStreamDataSize))

/-- A NAL lies in its chunk: `offset` bytes behind the start of it. -/
structure NaluInChunk (pSbm : SbmFrame) (chunk : VideoStreamDataInfo) (nalu : NaluInfo)
    (offset : Int) : Prop where
  first : 0 ≤ offset
  size : 0 ≤ nalu.nDataSize
  last : offset + nalu.nDataSize ≤ chunk.nLength
  place : nalu.pDataBuf = ringAt pSbm (chunk.pData + offset)

/-- The pass has recorded a NAL of the chunk under detection, and the cursor is
behind it. -/
structure Recorded (pSbm : SbmFrame) (slot p : Nat) (nalu : NaluInfo) (offset : Int) : Prop where
  stream : pSbm.mDetectInfo.pCurStream = some p
  frame : pSbm.mDetectInfo.pCurFramePic = some slot
  newest : (pSbm.curFrame slot).pNaluInfoList.getLast? = some nalu
  contained : NaluInChunk pSbm (pSbm.frameFifo.pFrames p) nalu offset
  cursor : pSbm.mDetectInfo.pCurStreamDataptr =
    some (ringAt pSbm ((pSbm.frameFifo.pFrames p).pData + (offset + nalu.nDataSize)))
  remainder : pSbm.mDetectInfo.nCurStreamDataSize =
    (pSbm.frameFifo.pFrames p).nLength - (offset + nalu.nDataSize)

def PassContained (pass : PassTaken) : Prop :=
  pass.outcome = .again → ∃ slot p nalu offset, Recorded pass.after slot p nalu offset

variable {pSbm : SbmFrame} {slot p : Nat} {ptr nBefore : Int}

theorem ring_of_input {before after : SbmFrame} (same : input after = input before) :
    ringAt after = ringAt before := by
  have size : after.nStreamBufferSize = before.nStreamBufferSize :=
    congrArg Input.nStreamBufferSize same
  have last : after.pStreamBufferEnd = before.pStreamBufferEnd :=
    congrArg Input.pStreamBufferEnd same
  funext address
  unfold ringAt
  rw [size, last]

/-- The cursor skips as `ringAt` counts, up to the end of a chunk that fits the ring. -/
theorem skip_ring_at (shape : RingShape pSbm) {start nSkipped nSkipSize : Int}
    (high : start ≤ pSbm.pStreamBufferEnd) (more : 0 ≤ nSkipSize)
    (inside : nSkipped + nSkipSize ≤ pSbm.nStreamBufferSize) :
    skipPtr pSbm (ringAt pSbm (start + nSkipped)) nSkipSize =
      ringAt pSbm (start + (nSkipped + nSkipSize)) := by
  have last := shape.last
  unfold skipPtr ringAt
  dsimp only
  split_ifs <;> omega

theorem record_inside (detector : Detector) (shape : RingShape pSbm)
    (chunk : ChunkInRing pSbm (pSbm.frameFifo.pFrames p))
    (stream : pSbm.mDetectInfo.pCurStream = some p)
    (current : pSbm.mDetectInfo.pCurFramePic = some slot)
    (inside : pSbm.mDetectInfo.nCurStreamDataSize ≤ (pSbm.frameFifo.pFrames p).nLength)
    (place : ptr = ringAt pSbm ((pSbm.frameFifo.pFrames p).pData +
      ((pSbm.frameFifo.pFrames p).nLength - pSbm.mDetectInfo.nCurStreamDataSize)))
    (sizes : SizesFit pSbm.mDetectInfo.nCurStreamDataSize nBefore
      (recordedSize detector pSbm slot ptr nBefore))
    (pStream : VideoStreamDataInfo) (naluHeader : UInt8) :
    Recorded (recordNalu detector pSbm slot pStream ptr nBefore naluHeader) slot p
      (recordedNalu detector pSbm slot ptr nBefore naluHeader)
      ((pSbm.frameFifo.pFrames p).nLength - pSbm.mDetectInfo.nCurStreamDataSize + nBefore) := by
  have same := @record_input detector pSbm slot pStream ptr nBefore naluHeader
  have chunks : (recordNalu detector pSbm slot pStream ptr nBefore naluHeader).frameFifo.pFrames =
      pSbm.frameFifo.pFrames := congrArg Input.pFrames same
  obtain ⟨_, short, _, high⟩ := chunk
  have before := sizes.before
  have nonneg := sizes.nonneg
  have taken := sizes.inside
  have limit := shape.limit
  unfold RING_LIMIT at limit
  have first : skipPtr pSbm ptr nBefore = ringAt pSbm ((pSbm.frameFifo.pFrames p).pData +
      ((pSbm.frameFifo.pFrames p).nLength - pSbm.mDetectInfo.nCurStreamDataSize + nBefore)) := by
    rw [place]
    exact skip_ring_at shape high before (by omega)
  have second : skipPtr pSbm (skipPtr pSbm ptr nBefore)
      (recordedSize detector pSbm slot ptr nBefore) = ringAt pSbm ((pSbm.frameFifo.pFrames p).pData +
      ((pSbm.frameFifo.pFrames p).nLength - pSbm.mDetectInfo.nCurStreamDataSize + nBefore +
        recordedSize detector pSbm slot ptr nBefore)) := by
    rw [first]
    exact skip_ring_at shape high nonneg (by omega)
  exact
  { stream := by
      rw [record_detect]
      exact stream
    frame := by
      rw [record_detect]
      exact current
    newest := by
      rw [record_frame]
      simp
    contained :=
    { first := by omega
      size := nonneg
      last := by
        rw [chunks]
        simp only [recordedNalu]
        omega
      place := by
        rw [chunks, ring_of_input same]
        exact first }
    cursor := by
      rw [record_detect, chunks, ring_of_input same]
      exact congrArg some second
    remainder := by
      rw [record_detect, chunks]
      simp only [recordedNalu]
      have behind : s32 (pSbm.mDetectInfo.nCurStreamDataSize - nBefore) =
          pSbm.mDetectInfo.nCurStreamDataSize - nBefore := by
        apply s32_of_range
        unfold InS32
        omega
      rw [behind, s32_of_range (by unfold InS32; omega)]
      omega }

theorem inside_of_recorded {nalu : NaluInfo} {offset : Int}
    (recorded : Recorded pSbm slot p nalu offset) : CursorInside pSbm := by
  intro q ptr stream cursor
  obtain rfl : p = q := Option.some.inj (recorded.stream.symm.trans stream)
  have here := Option.some.inj (recorded.cursor.symm.trans cursor)
  have first := recorded.contained.first
  have size := recorded.contained.size
  have last := recorded.contained.last
  rw [recorded.remainder]
  refine ⟨by omega, by omega, ?_⟩
  rw [← here, Int.sub_sub_self]

end Cursor

variable {codec : Codec} {system next : SbmSystem} {counts after : Counts} {op : SbmOp}
  {slot p : Nat} {ready : SbmFrame} {ptr : Int}

theorem ready_inside {detector : Detector} {pSbm : SbmFrame} (inside : CursorInside pSbm)
    (isReady : Ready detector pSbm counts slot ready after p ptr) :
    0 < ready.mDetectInfo.nCurStreamDataSize ∧
      ready.mDetectInfo.nCurStreamDataSize ≤ (ready.frameFifo.pFrames p).nLength ∧
      ptr = ringAt ready ((ready.frameFifo.pFrames p).pData +
        ((ready.frameFifo.pFrames p).nLength - ready.mDetectInfo.nCurStreamDataSize)) := by
  have inRing := isReady.inRing
  have stream := isReady.stream
  have cursor := isReady.cursor
  obtain ⟨base, claims, ⟨enough, rfl, _⟩ | ⟨needs, supplies⟩⟩ := isReady.from_base
  · have baseInside : CursorInside ready := by
      cases claims with
      | current here | fresh nothing granted => exact inside
    obtain ⟨_, size, place⟩ := baseInside p ptr stream cursor
    have some_left : ¬ ready.mDetectInfo.nCurStreamDataSize < 5 := fun short => enough (.inl short)
    exact ⟨by omega, size, place⟩
  · cases supplies with
    | @chunk q waiting here bytes =>
      obtain rfl : q = p := Option.some.inj stream
      obtain rfl := Option.some.inj cursor
      refine ⟨bytes, Int.le_refl _, ?_⟩
      have high := inRing.2
      unfold ringAt
      rw [if_neg]
      · simp [taken, SbmFrame.setDetect, FrameFifo.advanceRead]
      · simp only [taken, SbmFrame.setDetect, FrameFifo.advanceRead] at high ⊢
        omega

/-- What a pass that reads a prefix that fits takes off the chunk and records. -/
theorem again_fits {marked : SbmFrame} {nBefore : Int} (kept : RunKept system counts)
    (inside : CursorInside system.pSbm) (sound : prefixSound codec system.pSbm = true)
    (isReady : Ready (detectorOf codec system.pSbm) system.pSbm counts slot ready after p ptr)
    (isMarked : marked = markStart ready slot (ready.frameFifo.pFrames p) ptr)
    (before : (detectorOf codec system.pSbm).beforeNalu marked ptr
      marked.mDetectInfo.nCurStreamDataSize = some nBefore)
    (boundary : Boundary) (nNaluType : Nat) (naluHeader : UInt8) :
    SizesFit ready.mDetectInfo.nCurStreamDataSize nBefore
        (recordedSize (detectorOf codec system.pSbm) (begun boundary marked slot nNaluType) slot ptr
          nBefore) ∧
      ∃ nalu offset, Recorded (recordNalu (detectorOf codec system.pSbm)
        (begun boundary marked slot nNaluType) slot (ready.frameFifo.pFrames p) ptr nBefore
        naluHeader) slot p nalu offset := by
  obtain ⟨some_left, size, place⟩ := ready_inside inside isReady
  have shape := shape_of_input (ready_input isReady) kept.shape
  obtain ⟨same, detect⟩ := begun_of_ready isMarked boundary nNaluType
  have markedSame : input marked = input system.pSbm := by
    rw [isMarked, mark_start_input, ready_input isReady]
  have chunk := ready_chunk kept isReady
  have whole := chunk.2.1
  have limit := shape.limit
  unfold RING_LIMIT at limit
  have small : ready.mDetectInfo.nCurStreamDataSize ≤ 2 ^ 30 := by omega
  have inChunk := chunk_of_input same chunk
  have fitting := ready_cursor kept.sbm isReady
  have sizes : system.pSbm.bStreamWithStartCode = 1 ∨
      prefixFits codec system.pSbm ptr ready.mDetectInfo.nCurStreamDataSize = true := by
    simpa [prefixSound, fitting] using sound
  rw [isMarked, mark_start_detect] at before
  rw [← isMarked] at before
  generalize begun boundary marked slot nNaluType = begins at same detect inChunk ⊢
  have left : begins.mDetectInfo.nCurStreamDataSize = ready.mDetectInfo.nCurStreamDataSize := by
    rw [detect]
  have pFrames : begins.frameFifo.pFrames = ready.frameFifo.pFrames := congrArg Input.pFrames same
  have stream : begins.mDetectInfo.pCurStream = some p := by rw [detect, isReady.stream]
  have current : begins.mDetectInfo.pCurFramePic = some slot := by
    rw [detect, ready_current isReady]
  rw [← left] at sizes some_left size place before small ⊢
  rw [← pFrames] at size place inChunk
  rw [← ring_of_input same] at place
  have fit := @sizes_fit codec system.pSbm marked begins slot ptr nBefore markedSame
    (same.trans (ready_input isReady)) some_left small sizes before
  exact ⟨fit, _, _, record_inside (detectorOf codec system.pSbm) (shape_of_input same shape)
    inChunk stream current size place fit (ready.frameFifo.pFrames p) naluHeader⟩

theorem passes_inside {pSbm : SbmFrame} {outcome : Outcome} (kept : RunKept system counts)
    (inside : CursorInside system.pSbm) (sound : prefixSound codec system.pSbm = true)
    (passes : Passes (detectorOf codec system.pSbm) system.pSbm counts pSbm outcome after) :
    CursorInside pSbm ∧ PassContained ⟨system.pSbm, pSbm, outcome⟩ := by
  have idle : ∀ pSbm : SbmFrame, pSbm.mDetectInfo.pCurStream = none → CursorInside pSbm := by
    intro pSbm idle p ptr stream
    simp [idle] at stream
  have other : outcome ≠ .again → PassContained ⟨system.pSbm, pSbm, outcome⟩ :=
    fun notAgain again => absurd again notAgain
  cases passes with
  | noFramePic nothing full => exact ⟨inside, other (by decide)⟩
  | @dry slot base next result after claims needs supplies nothing goesOn =>
    refine ⟨idle _ (dry_idle supplies nothing), other ?_⟩
    cases result <;> decide
  | eosFrame claims needs supplies nothing ends =>
    have none_left := dry_idle supplies nothing
    exact ⟨idle _ none_left, other (by decide)⟩
  | @invalid slot p ready marked after ptr frame givenUp isReady isMarked bad disposes =>
    refine ⟨idle _ ?_, other (by decide)⟩
    cases givenUp <;> rfl
  | @frame slot p ready marked after ptr nBefore isReady isMarked before fits boundary =>
    obtain ⟨some_left, size, place⟩ := ready_inside inside isReady
    have same : input marked = input ready := by rw [isMarked, mark_start_input]
    have detect : marked.mDetectInfo = ready.mDetectInfo := isMarked ▸ mark_start_detect _ _
    refine ⟨?_, other (by decide)⟩
    intro q cursor stream here
    change marked.mDetectInfo.pCurStream = some q at stream
    change marked.mDetectInfo.pCurStreamDataptr = some cursor at here
    rw [detect, isReady.stream] at stream
    rw [detect, isReady.cursor] at here
    obtain rfl := Option.some.inj stream
    obtain rfl := Option.some.inj here
    change 0 ≤ marked.mDetectInfo.nCurStreamDataSize ∧
      marked.mDetectInfo.nCurStreamDataSize ≤ (marked.frameFifo.pFrames p).nLength ∧
      ptr = ringAt marked ((marked.frameFifo.pFrames p).pData +
        ((marked.frameFifo.pFrames p).nLength - marked.mDetectInfo.nCurStreamDataSize))
    rw [detect, ring_of_input same, show marked.frameFifo.pFrames = ready.frameFifo.pFrames from
      congrArg Input.pFrames same]
    exact ⟨Int.le_of_lt some_left, size, place⟩
  | @again slot p ready marked after ptr nBefore boundary isReady isMarked before fits isBoundary
      notNew =>
      obtain ⟨_, nalu, offset, recorded⟩ := again_fits kept inside sound isReady isMarked before
        boundary ((detectorOf codec system.pSbm).naluType
          (readByteIdx marked (ptr + nBefore) 0)) (readByteIdx marked (ptr + nBefore) 0)
      exact ⟨inside_of_recorded recorded, fun _ => ⟨_, _, _, _, recorded⟩⟩

theorem inside_of_same {before after : SbmFrame} (detect : after.mDetectInfo = before.mDetectInfo)
    (ring : ringAt after = ringAt before) (chunk : ∀ p ∈ before.mDetectInfo.pCurStream,
      after.frameFifo.pFrames p = before.frameFifo.pFrames p)
    (inside : CursorInside before) : CursorInside after := by
  intro p ptr stream cursor
  rw [detect] at stream cursor ⊢
  rw [ring, chunk p stream]
  exact inside p ptr stream cursor

/-- What holds between any two steps of a guarded run. -/
structure Contained (system : SbmSystem) (counts : Counts) : Prop where
  kept : RunKept system counts
  inside : CursorInside system.pSbm
  passes : ∀ pass ∈ system.history, PassContained pass

theorem steps_inside (kept : RunKept system counts) (inside : CursorInside system.pSbm)
    (guard : PrefixGuard codec system op)
    (steps : Steps codec system counts op next after) : CursorInside next.pSbm := by
  cases steps with
  | write bytes | setEos nEosFlag | refused pDataInfo | nothing none_left
  | delivered waiting oldest | returned position cursors held | flushed read oldest held =>
    exact inside
  | added pDataInfo marked pWriteAddr legal size free =>
    refine @inside_of_same system.pSbm (chunkJoined system.pSbm marked pWriteAddr)
      rfl rfl ?_ inside
    intro p stream
    exact Function.update_of_ne (joined_elsewhere kept free stream) _ _
  | checked untyped checks =>
    have idle := kept.untyped untyped
    have detect := checks_detect checks
    intro p ptr stream
    simp [detect, idle.1] at stream
  | passed typed pass passes =>
    exact (passes_inside kept inside (guard.resolve_left typed) passes).1

theorem steps_contained (contained : Contained system counts) (guard : PrefixGuard codec system op)
    (steps : Steps codec system counts op next after) : Contained next after := by
  have kept := steps_kept contained.kept steps
  have inside := steps_inside contained.kept contained.inside guard steps
  refine ⟨kept, inside, ?_⟩
  cases steps with
  | passed typed pass passes =>
    intro other member
    obtain earlier | rfl := List.mem_append.mp member |>.imp_right List.mem_singleton.mp
    · exact contained.passes other earlier
    · exact (passes_inside contained.kept contained.inside (guard.resolve_left typed) passes).2
  | _ => exact contained.passes

/-- In every run whose passes read prefixes that fit, every NAL that a detector
records lies in its chunk, and the cursor stays there. -/
theorem recorded_nalus_contained (codec : Codec) (nSbmBufferTotalSize pSbmBuf : Int)
    (nNaluLength : Nat) (bytes : Int → UInt8) (pSbm : SbmFrame)
    (limit : nSbmBufferTotalSize ≤ RING_LIMIT) (prefixBytes : nNaluLength ≤ 4)
    (init : sbmFrameInit nSbmBufferTotalSize nNaluLength pSbmBuf bytes = some pSbm)
    (ops : List SbmOp) (legal : StepsMeet Legal (exec codec) (SbmSystem.start pSbm) ops)
    (guarded : StepsMeet (PrefixGuard codec) (exec codec) (SbmSystem.start pSbm) ops)
    (final : SbmSystem) (run : runOps (exec codec) (SbmSystem.start pSbm) ops = some final) :
    CursorInside final.pSbm ∧ ∀ pass ∈ final.history, PassContained pass := by
  have start : ∃ counts, Contained (SbmSystem.start pSbm) counts := by
    refine ⟨_, start_kept limit prefixBytes init, ?_, ?_⟩
    · intro p ptr stream
      unfold sbmFrameInit at init
      split_ifs at init
      obtain rfl := Option.some.inj init
      simp [SbmSystem.start] at stream
    · intro pass member
      simp [SbmSystem.start] at member
  have reached : ∃ counts, Contained final counts := by
    refine @guarded_run_invariant _ _ _ (exec codec) (fun state => ∃ counts,
      Contained state counts) ?_ _ final ops start (steps_meet_and legal guarded) run
    rintro state op next ⟨counts, contained⟩ meets step
    obtain ⟨after, steps⟩ := exec_steps contained.kept meets.1 step
    exact ⟨after, steps_contained contained meets.2 steps⟩
  obtain ⟨counts, contained⟩ := reached
  exact ⟨contained.inside, contained.passes⟩

/-- A chunk that is length-prefixed as it should be keeps the condition. -/
theorem submitted_chunk_contained : ∃ pSbm, sbmFrameInit 64 4 1 (fun _ => 0) = some pSbm ∧
      ∃ final, runOps (exec .avc) (SbmSystem.start pSbm) submitOps = some final ∧
        CursorInside final.pSbm ∧ ∀ pass ∈ final.history, PassContained pass := by
  have ends : (runOps (exec .avc) (SbmSystem.start
      ((sbmFrameInit 64 4 1 (fun _ => 0)).get rfl)) submitOps).isSome = true := by
    decide
  obtain ⟨final, run⟩ := Option.isSome_iff_exists.mp ends
  exact ⟨_, rfl, final, run, recorded_nalus_contained .avc 64 1 4 (fun _ => 0) _ (by decide)
    (by decide) rfl submitOps (by decide) (by decide) final run⟩

def newestSize (pass : PassTaken) : Option Int :=
  pass.after.mDetectInfo.pCurFramePic.bind fun slot =>
    (pass.after.curFrame slot).pNaluInfoList.getLast?.map NaluInfo.nDataSize

/-- The second chunk starts with the prefix `0xfffffff0`. -/
def negativePrefixOps : List SbmOp :=
  let content : Int → UInt8 := fun address =>
    [0, 0, 0, 6, 0x65, 1, 2, 3, 4, 5, 255, 255, 255, 0xf0, 0x65, 1, 2, 3, 4, 5][address.toNat - 1]!
  [.write content, .addStream ⟨1, 10, 7, 0, 0, 0⟩, .addStream ⟨11, 10, 8, 0, 0, 0⟩, .detect,
   .detect, .detect, .detect]

/-- The detector stores a NAL of minus sixteen bytes. -/
theorem negative_prefix_recorded : ∃ pSbm, sbmFrameInit 64 4 1 (fun _ => 0) = some pSbm ∧
      StepsMeet Legal (exec .avc) (SbmSystem.start pSbm) negativePrefixOps ∧
      ∃ final, runOps (exec .avc) (SbmSystem.start pSbm) negativePrefixOps = some final ∧
        ∃ pass ∈ final.history, ¬ PassContained pass := by
  have observed : (runOps (exec .avc) (SbmSystem.start
      ((sbmFrameInit 64 4 1 (fun _ => 0)).get rfl)) negativePrefixOps).map (fun final =>
        final.history.map fun pass => (pass.outcome, newestSize pass)) =
      some [(.again, some 6), (.frame, none), (.again, some (-16))] := by
    decide
  obtain ⟨final, run, data⟩ := Option.map_eq_some_iff.mp observed
  have last : (Outcome.again, some (-16)) ∈ final.history.map fun pass =>
      (pass.outcome, newestSize pass) := by
    rw [data]
    simp
  obtain ⟨pass, member, shape⟩ := List.mem_map.mp last
  obtain ⟨again, size⟩ := Prod.mk.inj shape
  refine ⟨_, rfl, by decide, final, run, pass, member, ?_⟩
  intro contained
  obtain ⟨slot, p, nalu, offset, recorded⟩ := contained again
  have nonneg := recorded.contained.size
  simp [newestSize, recorded.frame, recorded.newest] at size
  omega

end CedarC.SbmFrameContainment
