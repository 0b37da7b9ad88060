import CedarC.SbmFrameRuns

/-!
# Byte conservation of the frame manager

The bytes of the ring are held in four places: the chunks that wait, the chunk
under detection behind its cursor, the frame under construction and the frames
that are not flushed. Every step moves bytes between these or accounts for
them in `nValidDataSize`. Sums are taken as the code takes them, in an `int`.
-/

namespace CedarC.SbmFrameBytes

open FixedWidth GuardedRuns SbmFrameModel SbmFrameDetect SbmFrameSteps SbmFrameRuns

section Held

def frameBytes (pSbm : SbmFrame) : Int :=
  match pSbm.mDetectInfo.pCurFramePic with
  | none => 0
  | some pCurFramePic => (pSbm.curFrame pCurFramePic).nlength

def heldBytes (pSbm : SbmFrame) : Int :=
  unreadSum VideoStreamDataInfo.nLength pSbm.frameFifo + pSbm.mDetectInfo.nCurStreamDataSize +
    frameBytes pSbm + validSum FramePicInfo.nlength pSbm.mFramePicFifo

def Balanced (pSbm : SbmFrame) : Prop := pSbm.nValidDataSize = s32 (heldBytes pSbm)

variable {pSbm : SbmFrame} {counts : Counts} {slot p : Nat}

theorem held_current (current : pSbm.mDetectInfo.pCurFramePic = some slot) : heldBytes pSbm =
      unreadSum VideoStreamDataInfo.nLength pSbm.frameFifo + pSbm.mDetectInfo.nCurStreamDataSize +
        (pSbm.curFrame slot).nlength + validSum FramePicInfo.nlength pSbm.mFramePicFifo := by
  simp only [heldBytes, frameBytes, current]

theorem frames_but_current (kept : SbmKept pSbm counts)
    (current : pSbm.mDetectInfo.pCurFramePic = some slot) (frame : FramePicInfo) :
    validSum FramePicInfo.nlength (pSbm.mFramePicFifo.store slot frame) =
      validSum FramePicInfo.nlength pSbm.mFramePicFifo := by
  obtain ⟨rfl, free⟩ := kept.slot slot current
  exact valid_sum_store _ kept.frames free frame

theorem held_set (kept : SbmKept pSbm counts) (current : pSbm.mDetectInfo.pCurFramePic = some slot)
    (frame : FramePicInfo) {pDetectInfo : DetectFramePicInfo}
    (same : pDetectInfo.pCurFramePic = pSbm.mDetectInfo.pCurFramePic) :
    heldBytes ((pSbm.setFrame slot frame).setDetect pDetectInfo) =
      unreadSum VideoStreamDataInfo.nLength pSbm.frameFifo + pDetectInfo.nCurStreamDataSize +
        frame.nlength + validSum FramePicInfo.nlength pSbm.mFramePicFifo := by
  rw [held_current (same.trans current), set_detect_frame, set_frame_same]
  change unreadSum VideoStreamDataInfo.nLength pSbm.frameFifo + pDetectInfo.nCurStreamDataSize +
    frame.nlength + validSum FramePicInfo.nlength (pSbm.mFramePicFifo.store slot frame) = _
  rw [frames_but_current kept current]

variable (kept : SbmKept pSbm counts)

include kept

theorem held_claims {base : SbmFrame}
    (claims : Claims pSbm slot base) : heldBytes base = heldBytes pSbm := by
  cases claims with
  | current here => rfl
  | fresh nothing granted =>
    obtain ⟨place, free⟩ := request_empty_spec kept granted
    have stored := valid_sum_store FramePicInfo.nlength kept.frames free
      { pSbm.curFrame slot with
        bValidFlag := true, nlength := 0, pDataStartAddr := none, nPts := -1, nPcr := -1
        pNaluInfoList := [] }
    rw [← place] at stored
    have current : (initFramePicInfo pSbm slot).mDetectInfo.pCurFramePic = some slot := rfl
    rw [held_current current]
    have before : heldBytes pSbm = unreadSum VideoStreamDataInfo.nLength pSbm.frameFifo +
        pSbm.mDetectInfo.nCurStreamDataSize + 0 +
        validSum FramePicInfo.nlength pSbm.mFramePicFifo := by
      simp only [heldBytes, frameBytes, nothing]
    rw [before, ← stored]
    simp only [initFramePicInfo, set_detect_frame, set_frame_same]
    rfl

theorem held_idled (current : pSbm.mDetectInfo.pCurFramePic = some slot) :
    s32 (heldBytes (idled pSbm slot)) = s32 (heldBytes pSbm) := by
  unfold idled
  split_ifs with idle
  · rfl
  · obtain ⟨p, stream⟩ := Option.ne_none_iff_exists'.mp idle
    have flushed : SbmKept ((chunkFlushed pSbm).setDetect (detectIdle pSbm.mDetectInfo))
      counts.chunkDone := chunk_flushed_kept kept stream
    have released := @held_set _ _ slot flushed current
      { pSbm.curFrame slot with
        nlength := s32 ((pSbm.curFrame slot).nlength + pSbm.mDetectInfo.nCurStreamDataSize) }
      (detectIdle pSbm.mDetectInfo) rfl
    rw [held_current current]
    change heldBytes (SbmFrameSteps.released pSbm slot) =
      unreadSum VideoStreamDataInfo.nLength pSbm.frameFifo + 0 +
        s32 ((pSbm.curFrame slot).nlength + pSbm.mDetectInfo.nCurStreamDataSize) +
        validSum FramePicInfo.nlength pSbm.mFramePicFifo at released
    rw [released]
    unfold s32
    omega

theorem held_supplies {nReback : SbmFrame → VideoStreamDataInfo → Bool} {next : SbmFrame}
    {result : Supply} {after : Counts} (idle : pSbm.mDetectInfo.pCurStream = none)
    (inRing : ∀ i, counts.chunksFlushed ≤ i → i < counts.chunksAdded →
      0 ≤ (pSbm.frameFifo.pFrames (i % pSbm.frameFifo.nMaxFrameNum)).nLength)
    (supplies : Supplies nReback pSbm counts next result after) :
    heldBytes next = heldBytes pSbm := by
  have chunks := kept.chunks
  rw [under_detection_none idle, Nat.add_zero] at chunks
  have atRest := (kept.idle idle).2
  cases supplies with
  | nothing dry => rfl
  | @empty p waiting here hollow =>
    have size := inRing _ (Nat.le_refl _) waiting
    rw [← here] at size
    have read := unread_sum_advance_read VideoStreamDataInfo.nLength chunks waiting
    rw [← here] at read
    have same : heldBytes (dropped pSbm) =
        unreadSum VideoStreamDataInfo.nLength pSbm.frameFifo.advanceRead +
          pSbm.mDetectInfo.nCurStreamDataSize + frameBytes pSbm +
          validSum FramePicInfo.nlength pSbm.mFramePicFifo := rfl
    rw [same]
    unfold heldBytes
    omega
  | @chunk p waiting here bytes =>
    have read := unread_sum_advance_read VideoStreamDataInfo.nLength chunks waiting
    rw [← here] at read
    have same : heldBytes (taken nReback pSbm p) =
        unreadSum VideoStreamDataInfo.nLength pSbm.frameFifo.advanceRead +
          (pSbm.frameFifo.pFrames p).nLength + frameBytes pSbm +
          validSum FramePicInfo.nlength pSbm.mFramePicFifo := rfl
    rw [same]
    unfold heldBytes
    omega

theorem held_mark_start
    (current : pSbm.mDetectInfo.pCurFramePic = some slot) (pStream : VideoStreamDataInfo)
    (ptr : Int) : heldBytes (markStart pSbm slot pStream ptr) = heldBytes pSbm := by
  unfold markStart
  dsimp only
  split_ifs
  · rw [held_current current]
    exact @held_set _ _ slot kept current _ pSbm.mDetectInfo rfl
  · rfl

omit kept

theorem held_joined (kept : SbmKept pSbm counts)
    (current : pSbm.mDetectInfo.pCurFramePic = some slot) (found : Bool) :
    heldBytes (frameJoined pSbm found) = heldBytes pSbm := by
  obtain ⟨place, free⟩ := kept.slot slot current
  have write := valid_sum_advance_write FramePicInfo.nlength kept.frames free
  rw [← place] at write
  have same : heldBytes (frameJoined pSbm found) =
      unreadSum VideoStreamDataInfo.nLength pSbm.frameFifo + pSbm.mDetectInfo.nCurStreamDataSize +
        0 + validSum FramePicInfo.nlength pSbm.mFramePicFifo.advanceWrite := rfl
  rw [same, held_current current, write]
  unfold SbmFrame.curFrame
  omega

variable (kept : SbmKept pSbm counts)

include kept

theorem held_emitted (current : pSbm.mDetectInfo.pCurFramePic = some slot) :
    heldBytes (frameJoined (stamped pSbm slot) false) = heldBytes pSbm := by
  have stampedKept : SbmKept (stamped pSbm slot) counts := set_frame_kept kept slot _
  rw [@held_joined _ counts slot stampedKept current, held_current current]
  exact @held_set _ _ slot kept current _ pSbm.mDetectInfo rfl

theorem held_begun
    (current : pSbm.mDetectInfo.pCurFramePic = some slot) (boundary : Boundary) (nNaluType : Nat) :
    heldBytes (begun boundary pSbm slot nNaluType) = heldBytes pSbm := by
  unfold begun
  split_ifs
  · rw [held_current current]
    exact @held_set _ _ slot kept current _ _ rfl
  · rfl

theorem held_skip (current : pSbm.mDetectInfo.pCurFramePic = some slot) (ptr nSkipSize : Int) :
    s32 (heldBytes (skipCurStreamDataBytes pSbm slot ptr nSkipSize)) = s32 (heldBytes pSbm) := by
  refine (congrArg s32 (held_set kept current _ ?_)).trans ?_
  · rfl
  · rw [held_current current]
    dsimp only
    unfold s32
    omega

theorem held_store (current : pSbm.mDetectInfo.pCurFramePic = some slot) (bTakeVideoInfo : Bool)
    (pStream : VideoStreamDataInfo) (pNaluInfo : NaluInfo) :
    heldBytes (storeNaluInfo pSbm bTakeVideoInfo slot pStream pNaluInfo) = heldBytes pSbm := by
  rw [held_current current]
  exact @held_set _ _ slot kept current _ _ rfl

omit kept

theorem held_record (detector : Detector) (kept : SbmKept pSbm counts)
    (stream : pSbm.mDetectInfo.pCurStream = some p)
    (current : pSbm.mDetectInfo.pCurFramePic = some slot) (pStream : VideoStreamDataInfo)
    (ptr nBefore : Int) (naluHeader : UInt8) :
    s32 (heldBytes (recordNalu detector pSbm slot pStream ptr nBefore naluHeader)) =
      s32 (heldBytes pSbm) := by
  have skipped : SbmKept (skipCurStreamDataBytes pSbm slot ptr nBefore) counts :=
    skip_kept kept stream ptr nBefore
  have stored := @store_nalu_kept _ _ slot skipped detector.bTakeVideoInfo pStream
    (recordedNalu detector pSbm slot ptr nBefore naluHeader)
  calc s32 (heldBytes (recordNalu detector pSbm slot pStream ptr nBefore naluHeader))
      = s32 (heldBytes (storeNaluInfo (skipCurStreamDataBytes pSbm slot ptr nBefore)
          detector.bTakeVideoInfo slot pStream
          (recordedNalu detector pSbm slot ptr nBefore naluHeader))) :=
        held_skip stored current _ _
    _ = s32 (heldBytes (skipCurStreamDataBytes pSbm slot ptr nBefore)) := by
        rw [held_store skipped current]
    _ = s32 (heldBytes pSbm) := held_skip kept current _ _

theorem held_disposed {ptr : Int} {frame : FramePicInfo} {givenUp : Bool}
    (kept : SbmKept pSbm counts) (stream : pSbm.mDetectInfo.pCurStream = some p)
    (current : pSbm.mDetectInfo.pCurFramePic = some slot)
    (whole : ptr = (pSbm.frameFifo.pFrames p).pData →
      pSbm.mDetectInfo.nCurStreamDataSize = (pSbm.frameFifo.pFrames p).nLength)
    (disposes : Disposes pSbm slot p ptr frame givenUp) :
    s32 (heldBytes (disposed pSbm slot frame)) = s32 (heldBytes pSbm) := by
  have flushed : SbmKept ((chunkFlushed pSbm).setDetect (detectIdle pSbm.mDetectInfo))
    counts.chunkDone := chunk_flushed_kept kept stream
  have after : heldBytes (disposed pSbm slot frame) =
      unreadSum VideoStreamDataInfo.nLength pSbm.frameFifo + 0 + frame.nlength +
        validSum FramePicInfo.nlength pSbm.mFramePicFifo :=
    held_set flushed current frame rfl
  rw [after, held_current current]
  cases disposes with
  | whole atStart begun =>
    rw [whole atStart, begun]
    dsimp only
    unfold s32
    omega
  | long notWhole tooLong | joined notWhole short =>
    dsimp only
    unfold s32
    omega

end Held

section Tied

/-- How many bytes in front of the NAL a detector can skip. -/
def BeforeBounds (detector : Detector) : Prop :=
  ∀ pSbm ptr size nBefore, pSbm.nNaluLength ≤ 4 → detector.beforeNalu pSbm ptr size = some nBefore →
    0 ≤ nBefore ∧ (nBefore ≤ size ∨ nBefore ≤ 4)

variable {pBuf found nBefore : Int} {before after : SbmFrame}

theorem search_loop_range {readByte : Int → Int → UInt8} {plusOne : Int → Int} {nSize : Nat}
    {nAfterStartCodeIdx : Int}
    (search : searchLoop readByte plusOne nSize pBuf nAfterStartCodeIdx = some found) :
    nAfterStartCodeIdx + 3 ≤ found ∧ found < nAfterStartCodeIdx + 3 + nSize := by
  induction nSize generalizing pBuf nAfterStartCodeIdx with
  | zero => simp [searchLoop] at search
  | succ nSize ih =>
    unfold searchLoop at search
    split_ifs at search with here
    · obtain rfl := Option.some.inj search
      omega
    · have later := ih search
      omega

theorem search_range {pSbm : SbmFrame} {nCurStreamDataSize : Int}
    (search : searchStartCode pSbm pBuf nCurStreamDataSize = some found) :
    3 ≤ found ∧ found < nCurStreamDataSize := by
  unfold searchStartCode at search
  dsimp only at search
  split_ifs at search
  all_goals
    have range := search_loop_range search
    omega

theorem before_bounds (codec : Codec) (pSbm : SbmFrame) : BeforeBounds (detectorOf codec pSbm) := by
  have startCode : ∀ state ptr size nBefore, searchStartCode state ptr size = some nBefore →
      0 ≤ nBefore ∧ (nBefore ≤ size ∨ nBefore ≤ 4) := by
    intro state ptr size nBefore search
    have range := search_range search
    omega
  intro state ptr size nBefore prefixBytes before
  cases codec with
  | avc =>
    simp only [detectorOf, avcDetector] at before
    split_ifs at before
    · exact startCode _ _ _ _ before
    · simp only [avcWithoutStartCode] at before
      split_ifs at before
      obtain rfl := Option.some.inj before
      omega
  | hevc =>
    simp only [detectorOf, hevcDetector] at before
    split_ifs at before
    · exact startCode _ _ _ _ before
    · simp only [hevcWithoutStartCode] at before
      split_ifs at before
      obtain rfl := Option.some.inj before
      omega

/-- The cursor has moved `nSkipped` bytes from the start of the chunk, with
`turns` wraps at the end of the ring. -/
def CursorAt (pSbm : SbmFrame) (p : Nat) (ptr nSkipped : Int) : Prop :=
  ∃ turns : Nat, ptr = (pSbm.frameFifo.pFrames p).pData + nSkipped - turns * pSbm.nStreamBufferSize

structure ReadyTied (pSbm : SbmFrame) (p : Nat) (ptr nSkipped : Int) : Prop where
  place : CursorAt pSbm p ptr nSkipped
  size : pSbm.mDetectInfo.nCurStreamDataSize = (pSbm.frameFifo.pFrames p).nLength - nSkipped
  some_left : 0 < pSbm.mDetectInfo.nCurStreamDataSize
  inRing : pSbm.pStreamBuffer ≤ ptr ∧ ptr ≤ pSbm.pStreamBufferEnd

/-- Between passes the size may be off, but then the chunk is given up or the
cursor has left the ring. -/
def CursorTied (pSbm : SbmFrame) : Prop :=
  ∀ p ptr, pSbm.mDetectInfo.pCurStream = some p →
    pSbm.mDetectInfo.pCurStreamDataptr = some ptr → ∃ nSkipped, CursorAt pSbm p ptr nSkipped ∧
      (pSbm.mDetectInfo.nCurStreamDataSize = (pSbm.frameFifo.pFrames p).nLength - nSkipped ∨
        pSbm.mDetectInfo.nCurStreamDataSize < 5 ∨
        ptr < pSbm.pStreamBuffer ∨ pSbm.pStreamBufferEnd < ptr)

variable {pSbm : SbmFrame} {counts : Counts} {slot p : Nat} {ptr nSkipped : Int}
  (shape : RingShape pSbm)

include shape

theorem whole_at_start (chunk : ChunkInRing pSbm (pSbm.frameFifo.pFrames p))
    (tied : ReadyTied pSbm p ptr nSkipped) (atStart : ptr = (pSbm.frameFifo.pFrames p).pData) :
    pSbm.mDetectInfo.nCurStreamDataSize = (pSbm.frameFifo.pFrames p).nLength := by
  obtain ⟨turns, place⟩ := tied.place
  have size := tied.size
  have left := tied.some_left
  have positive := shape.size
  have short := chunk.2.1
  cases turns with
  | zero =>
    simp only [Int.natCast_zero, Int.zero_mul] at place
    omega
  | succ turns =>
    have more : 0 ≤ (turns : Int) * pSbm.nStreamBufferSize :=
      Int.mul_nonneg (Int.natCast_nonneg turns) (Int.le_of_lt positive)
    rw [Int.natCast_succ, Int.add_mul, Int.one_mul] at place
    omega

theorem skip_ptr_at (place : CursorAt pSbm p ptr nSkipped)
    (nSkipSize : Int) : CursorAt pSbm p (skipPtr pSbm ptr nSkipSize) (nSkipped + nSkipSize) := by
  obtain ⟨turns, place⟩ := place
  have last := shape.last
  unfold skipPtr
  dsimp only
  split_ifs with beyond
  · refine ⟨turns + 1, ?_⟩
    rw [Int.natCast_succ, Int.add_mul, Int.one_mul]
    omega
  · exact ⟨turns, by omega⟩

theorem tied_bounds (chunk : ChunkInRing pSbm (pSbm.frameFifo.pFrames p))
    (tied : ReadyTied pSbm p ptr nSkipped) :
    pSbm.mDetectInfo.nCurStreamDataSize ≤ 2 * pSbm.nStreamBufferSize := by
  obtain ⟨turns, place⟩ := tied.place
  have size := tied.size
  have low := tied.inRing.1
  have last := shape.last
  obtain ⟨_, short, _, high⟩ := chunk
  have more : 0 ≤ (turns : Int) * pSbm.nStreamBufferSize :=
    Int.mul_nonneg (Int.natCast_nonneg turns) (Int.le_of_lt shape.size)
  omega

/-- A size out of the range of `int` drops below five, or the cursor is out of the ring. -/
theorem size_after (chunk : ChunkInRing pSbm (pSbm.frameFifo.pFrames p))
    (tied : ReadyTied pSbm p ptr nSkipped) {nNaluSize : Int} (before : 0 ≤ nBefore ∧
      (nBefore ≤ pSbm.mDetectInfo.nCurStreamDataSize ∨ nBefore ≤ 4)) (range : InS32 nNaluSize) :
    s32 (s32 (pSbm.mDetectInfo.nCurStreamDataSize - nBefore) - nNaluSize) =
        (pSbm.frameFifo.pFrames p).nLength - (nSkipped + nBefore + nNaluSize) ∨
      s32 (s32 (pSbm.mDetectInfo.nCurStreamDataSize - nBefore) - nNaluSize) < 5 ∨
      skipPtr pSbm (skipPtr pSbm ptr nBefore) nNaluSize < pSbm.pStreamBuffer ∨
      pSbm.pStreamBufferEnd < skipPtr pSbm (skipPtr pSbm ptr nBefore) nNaluSize := by
  have atMost := tied_bounds shape chunk tied
  have size := tied.size
  have left := tied.some_left
  have inRing := tied.inRing
  have last := shape.last
  have limit := shape.limit
  unfold RING_LIMIT at limit
  unfold InS32 at range
  have first : s32 (pSbm.mDetectInfo.nCurStreamDataSize - nBefore) =
      pSbm.mDetectInfo.nCurStreamDataSize - nBefore := by
    apply s32_of_range
    unfold InS32
    omega
  rw [first]
  by_cases exact : InS32 (pSbm.mDetectInfo.nCurStreamDataSize - nBefore - nNaluSize)
  · left
    rw [s32_of_range exact]
    omega
  · unfold InS32 at exact
    by_cases above : 2 ^ 31 ≤ pSbm.mDetectInfo.nCurStreamDataSize - nBefore - nNaluSize
    · right
      left
      rw [s32_of_above above (by omega)]
      omega
    · right
      right
      right
      have moved : pSbm.pStreamBuffer ≤ skipPtr pSbm ptr nBefore := by
        unfold skipPtr
        dsimp only
        split_ifs <;> omega
      generalize skipPtr pSbm ptr nBefore = middle at moved
      unfold skipPtr
      dsimp only
      split_ifs <;> omega

omit shape

theorem cursor_of_input (same : input after = input before)
    (place : CursorAt before p ptr nSkipped) : CursorAt after p ptr nSkipped := by
  have size : after.nStreamBufferSize = before.nStreamBufferSize :=
    congrArg Input.nStreamBufferSize same
  have chunks : after.frameFifo.pFrames = before.frameFifo.pFrames := congrArg Input.pFrames same
  unfold CursorAt at place ⊢
  rwa [size, chunks]

theorem ready_tied_of_input (same : input after = input before)
    (size : after.mDetectInfo.nCurStreamDataSize = before.mDetectInfo.nCurStreamDataSize)
    (tied : ReadyTied before p ptr nSkipped) : ReadyTied after p ptr nSkipped := by
  have first : after.pStreamBuffer = before.pStreamBuffer := congrArg Input.pStreamBuffer same
  have last : after.pStreamBufferEnd = before.pStreamBufferEnd :=
    congrArg Input.pStreamBufferEnd same
  have chunks : after.frameFifo.pFrames = before.frameFifo.pFrames := congrArg Input.pFrames same
  exact
  { place := cursor_of_input same tied.place
    size := by rw [size, chunks, tied.size]
    some_left := size ▸ tied.some_left
    inRing := by rw [first, last]; exact tied.inRing }

theorem tied_of_ready (stream : pSbm.mDetectInfo.pCurStream = some p)
    (cursor : pSbm.mDetectInfo.pCurStreamDataptr = some ptr) (tied : ReadyTied pSbm p ptr nSkipped) :
    CursorTied pSbm := by
  intro q other streamToo cursorToo
  obtain rfl : p = q := Option.some.inj (stream.symm.trans streamToo)
  obtain rfl : ptr = other := Option.some.inj (cursor.symm.trans cursorToo)
  exact ⟨nSkipped, tied.place, .inl tied.size⟩

theorem record_tied (detector : Detector) (shape : RingShape pSbm)
    (chunk : ChunkInRing pSbm (pSbm.frameFifo.pFrames p))
    (stream : pSbm.mDetectInfo.pCurStream = some p) (tied : ReadyTied pSbm p ptr nSkipped)
    (before : 0 ≤ nBefore ∧ (nBefore ≤ pSbm.mDetectInfo.nCurStreamDataSize ∨ nBefore ≤ 4))
    (pStream : VideoStreamDataInfo) (naluHeader : UInt8) :
    CursorTied (recordNalu detector pSbm slot pStream ptr nBefore naluHeader) := by
  intro q cursor streamAfter cursorAfter
  have same := @record_input detector pSbm slot pStream ptr nBefore naluHeader
  rw [record_detect] at streamAfter cursorAfter ⊢
  obtain rfl : p = q := Option.some.inj (stream.symm.trans streamAfter)
  obtain rfl := Option.some.inj cursorAfter
  have range : InS32 (recordedSize detector pSbm slot ptr nBefore) := s32_range _
  have place := skip_ptr_at shape (skip_ptr_at shape tied.place nBefore)
    (recordedSize detector pSbm slot ptr nBefore)
  refine ⟨_, cursor_of_input same place, ?_⟩
  have sizes := size_after shape chunk tied before range
  have first : (recordNalu detector pSbm slot pStream ptr nBefore naluHeader).pStreamBuffer =
      pSbm.pStreamBuffer := congrArg Input.pStreamBuffer same
  have last : (recordNalu detector pSbm slot pStream ptr nBefore naluHeader).pStreamBufferEnd =
      pSbm.pStreamBufferEnd := congrArg Input.pStreamBufferEnd same
  have chunks : (recordNalu detector pSbm slot pStream ptr nBefore naluHeader).frameFifo.pFrames =
      pSbm.frameFifo.pFrames := congrArg Input.pFrames same
  rw [first, last, chunks]
  exact sizes

end Tied

section Pass

variable {codec : Codec} {detector : Detector} {system : SbmSystem} {counts after : Counts}
  {slot p : Nat} {ready : SbmFrame} {ptr : Int}

theorem ready_chunk (kept : RunKept system counts)
    (isReady : Ready detector system.pSbm counts slot ready after p ptr) :
    ChunkInRing ready (ready.frameFifo.pFrames p) := by
  have same := ready_input isReady
  have sbm := ready_kept kept.sbm isReady
  have later := later_ready isReady
  have place := sbm.stream p isReady.stream
  have chunks := sbm.chunks
  rw [under_detection_some isReady.stream] at chunks
  have inside := chunks.deliveredAdded
  rw [later.chunksAdded] at inside
  have pFrames : ready.frameFifo.pFrames = system.pSbm.frameFifo.pFrames :=
    congrArg Input.pFrames same
  have capacity : ready.frameFifo.nMaxFrameNum = system.pSbm.frameFifo.nMaxFrameNum :=
    congrArg Input.nMaxFrameNum same
  rw [pFrames, place, capacity]
  exact chunk_of_input same (kept.inRing _ later.chunksFlushed inside)

theorem ready_tied (tied : CursorTied system.pSbm)
    (isReady : Ready detector system.pSbm counts slot ready after p ptr) :
    ∃ nSkipped, ReadyTied ready p ptr nSkipped := by
  have inRing := isReady.inRing
  have stream := isReady.stream
  have cursor := isReady.cursor
  obtain ⟨base, claims, ⟨enough, rfl, _⟩ | ⟨needs, supplies⟩⟩ := isReady.from_base
  · have baseTied : CursorTied ready := by
      cases claims with
      | current here | fresh nothing granted => exact tied
    obtain ⟨nSkipped, place, size⟩ := baseTied p ptr stream cursor
    unfold NeedsSupply at enough
    have some_left : ¬ ready.mDetectInfo.nCurStreamDataSize < 5 := fun short => enough (.inl short)
    exact ⟨nSkipped, place, by omega, by omega, inRing⟩
  · cases supplies with
    | @chunk q waiting here bytes =>
      obtain rfl : q = p := Option.some.inj stream
      obtain rfl := Option.some.inj cursor
      exact ⟨0, ⟨0, by simp [taken, SbmFrame.setDetect, FrameFifo.advanceRead]⟩, (Int.sub_zero _).symm, bytes, inRing⟩

variable {next : SbmFrame} {outcome : Outcome}

theorem held_passes (kept : RunKept system counts) (tied : CursorTied system.pSbm)
    (passes : Passes detector system.pSbm counts next outcome after) :
    s32 (heldBytes next) = s32 (heldBytes system.pSbm) := by
  have supplied : ∀ {slot : Nat} {base next : SbmFrame} {result : Supply} {after : Counts},
      Claims system.pSbm slot base →
      Supplies detector.nReback (idled base slot) (counts.idled base) next result after →
      s32 (heldBytes next) = s32 (heldBytes system.pSbm) := by
    intro slot base next result after claims supplies
    have baseKept := claims_kept kept.sbm claims
    have same : input (idled base slot) = input system.pSbm := by
      rw [idled_input, claims_input claims]
    have later := @later_idled counts base
    have moved := held_supplies (idled_kept baseKept slot) (idled_idle slot) (by
      intro i low high
      have pFrames : (idled base slot).frameFifo.pFrames = system.pSbm.frameFifo.pFrames :=
        congrArg Input.pFrames same
      have capacity : (idled base slot).frameFifo.nMaxFrameNum =
          system.pSbm.frameFifo.nMaxFrameNum := congrArg Input.nMaxFrameNum same
      rw [pFrames, capacity]
      rw [later.chunksAdded] at high
      exact (kept.inRing i (Nat.le_trans later.chunksFlushed low) high).1) supplies
    rw [moved, held_idled baseKept (claims_current claims), held_claims kept.sbm claims]
  have readied : ∀ {slot p : Nat} {ready : SbmFrame} {after : Counts} {ptr : Int},
      Ready detector system.pSbm counts slot ready after p ptr →
      s32 (heldBytes ready) = s32 (heldBytes system.pSbm) := by
    intro slot p ready after ptr isReady
    obtain ⟨base, claims, ⟨_, rfl, _⟩ | ⟨_, supplies⟩⟩ := isReady.from_base
    · rw [held_claims kept.sbm claims]
    · exact supplied claims supplies
  cases passes with
  | noFramePic nothing full => rfl
  | dry claims needs supplies nothing goesOn => exact supplied claims supplies
  | @eosFrame slot base next result after claims needs supplies nothing ends =>
    have nextKept := supplies_kept (idled_kept (claims_kept kept.sbm claims) slot)
      (idled_idle slot) supplies
    have current : next.mDetectInfo.pCurFramePic = some slot := by
      rw [supplies_frame supplies, idled_frame, claims_current claims]
    rw [held_emitted nextKept current]
    exact supplied claims supplies
  | @invalid slot p ready marked after ptr frame givenUp isReady isMarked bad disposes =>
    have readyKept := ready_kept kept.sbm isReady
    obtain ⟨markedKept, stream, current⟩ := marked_ready kept.sbm isReady isMarked
    have detect : marked.mDetectInfo = ready.mDetectInfo := isMarked ▸ mark_start_detect _ _
    have chunks : marked.frameFifo = ready.frameFifo := isMarked ▸ mark_start_chunks _ _
    obtain ⟨nSkipped, readyTied⟩ := ready_tied tied isReady
    have whole : ptr = (marked.frameFifo.pFrames p).pData →
        marked.mDetectInfo.nCurStreamDataSize = (marked.frameFifo.pFrames p).nLength := by
      rw [detect, chunks]
      exact whole_at_start (shape_of_input (ready_input isReady) kept.shape)
        (ready_chunk kept isReady) readyTied
    have moved := held_disposed markedKept stream current whole disposes
    have disposedKept := @disposed_kept marked after slot p markedKept stream frame
    have marks : heldBytes marked = heldBytes ready := by
      rw [isMarked, held_mark_start readyKept (ready_current isReady)]
    rw [marks, readied isReady] at moved
    cases givenUp with
    | false => exact moved
    | true =>
      rw [if_pos rfl, held_joined disposedKept current]
      exact moved
  | @frame slot p ready marked after ptr nBefore isReady isMarked before fits boundary =>
    have readyKept := ready_kept kept.sbm isReady
    obtain ⟨markedKept, _, current⟩ := marked_ready kept.sbm isReady isMarked
    rw [held_emitted markedKept current, isMarked,
      held_mark_start readyKept (ready_current isReady), readied isReady]
  | @again slot p ready marked after ptr nBefore boundary isReady isMarked before fits isBoundary
      inside =>
      have readyKept := ready_kept kept.sbm isReady
      obtain ⟨markedKept, stream, current⟩ := marked_ready kept.sbm isReady isMarked
      have begunKept := @begun_kept after marked slot markedKept boundary
        (detector.naluType (readByteIdx marked (ptr + nBefore) 0))
      rw [held_record detector begunKept (by rw [begun_detect]; exact stream)
        (by rw [begun_detect]; exact current), held_begun markedKept current, isMarked,
        held_mark_start readyKept (ready_current isReady), readied isReady]

theorem tied_passes (kept : RunKept system counts)
    (tied : CursorTied system.pSbm) (bounds : BeforeBounds detector)
    (passes : Passes detector system.pSbm counts next outcome after) : CursorTied next := by
  have idle : ∀ pSbm : SbmFrame, pSbm.mDetectInfo.pCurStream = none → CursorTied pSbm := by
    intro pSbm idle p ptr stream
    simp [idle] at stream
  cases passes with
  | noFramePic nothing full => exact tied
  | dry claims needs supplies nothing goesOn => exact idle _ (dry_idle supplies nothing)
  | eosFrame claims needs supplies nothing ends =>
    have none_left := dry_idle supplies nothing
    exact idle _ none_left
  | @invalid slot p ready marked after ptr frame givenUp isReady isMarked bad disposes =>
    apply idle
    cases givenUp <;> rfl
  | @frame slot p ready marked after ptr nBefore isReady isMarked before fits boundary =>
    obtain ⟨nSkipped, readyTied⟩ := ready_tied tied isReady
    have same : input marked = input ready := by rw [isMarked, mark_start_input]
    have detect : marked.mDetectInfo = ready.mDetectInfo := isMarked ▸ mark_start_detect _ _
    have markedTied := ready_tied_of_input same (congrArg _ detect) readyTied
    have moved : ReadyTied (frameJoined (stamped marked slot) false) p ptr nSkipped :=
      { markedTied with }
    apply tied_of_ready _ _ moved
    · change marked.mDetectInfo.pCurStream = some p
      rw [detect, isReady.stream]
    · change marked.mDetectInfo.pCurStreamDataptr = some ptr
      rw [detect, isReady.cursor]
  | @again slot p ready marked after ptr nBefore boundary isReady isMarked before fits isBoundary
      inside =>
      obtain ⟨nSkipped, readyTied⟩ := ready_tied tied isReady
      have shape := shape_of_input (ready_input isReady) kept.shape
      obtain ⟨same, detect⟩ := begun_of_ready isMarked boundary
        (detector.naluType (readByteIdx marked (ptr + nBefore) 0))
      have stream := isReady.stream
      have chunk := chunk_of_input same (ready_chunk kept isReady)
      have range := bounds _ _ _ _
        (shape_of_input (isMarked ▸ mark_start_input _ _) shape).prefixBytes before
      rw [isMarked, mark_start_detect] at range
      generalize begun boundary marked slot
        (detector.naluType (readByteIdx marked (ptr + nBefore) 0)) = begins at same detect chunk ⊢
      have size : begins.mDetectInfo.nCurStreamDataSize = ready.mDetectInfo.nCurStreamDataSize := by
        rw [detect]
      rw [← size] at range
      rw [show ready.frameFifo.pFrames = begins.frameFifo.pFrames from
        (congrArg Input.pFrames same).symm] at chunk
      exact record_tied detector (shape_of_input same shape) chunk (by rw [detect, stream])
        (ready_tied_of_input same size readyTied) range _ _

end Pass

variable {codec : Codec} {system next : SbmSystem} {counts after : Counts} {op : SbmOp}

theorem balanced_checks {withStartCode withoutStartCode : SbmFrame → VideoStreamDataInfo → Bool}
    {pSbm next : SbmFrame}
    (checks : TypeChecks withStartCode withoutStartCode pSbm counts next after)
    (kept : SbmKept pSbm counts) (idle : pSbm.mDetectInfo.pCurStream = none)
    (balanced : Balanced pSbm) : Balanced next := by
  induction checks with
  | stop pSbm counts | found waiting oldest known => exact balanced
  | @drop pSbm next counts after p waiting oldest useless later ih =>
    have chunks := kept.chunks
    rw [under_detection_none idle, Nat.add_zero] at chunks
    have read := unread_sum_advance_read VideoStreamDataInfo.nLength chunks waiting
    rw [← oldest] at read
    apply ih (type_dropped_kept kept idle waiting p) idle
    have same : heldBytes (typeDropped pSbm p) =
        unreadSum VideoStreamDataInfo.nLength pSbm.frameFifo.advanceRead +
          pSbm.mDetectInfo.nCurStreamDataSize + frameBytes pSbm +
          validSum FramePicInfo.nlength pSbm.mFramePicFifo := rfl
    unfold Balanced heldBytes at balanced
    unfold Balanced
    rw [same]
    change s32 (pSbm.nValidDataSize - (pSbm.frameFifo.pFrames p).nLength) = _
    rw [balanced, read]
    unfold s32
    omega

/-- What holds between any two steps. -/
structure Accounted (system : SbmSystem) (counts : Counts) : Prop where
  kept : RunKept system counts
  tied : CursorTied system.pSbm
  balanced : Balanced system.pSbm

variable (kept : RunKept system counts)

include kept

theorem joined_unread (pDataInfo : VideoStreamDataInfo)
    (free : ¬ system.pSbm.frameFifo.nMaxFrameNum ≤ system.pSbm.frameFifo.nValidFrameNum) :
    unreadSum VideoStreamDataInfo.nLength
        (system.pSbm.frameFifo.store system.pSbm.frameFifo.nWritePos pDataInfo).advanceWrite =
      unreadSum VideoStreamDataInfo.nLength system.pSbm.frameFifo + pDataInfo.nLength := by
  have chunks := kept.sbm.chunks
  have room : counts.chunksAdded < counts.chunksFlushed + system.pSbm.frameFifo.nMaxFrameNum := by
    have atMost := chunks.room
    have notFull := (not_congr (SbmFrameFifo.full_iff chunks)).mp free
    omega
  have write := unread_sum_advance_write VideoStreamDataInfo.nLength
    (SbmFrameFifo.store_cursors chunks (counts.chunksAdded % system.pSbm.frameFifo.nMaxFrameNum)
      pDataInfo) room
  rw [unread_sum_store VideoStreamDataInfo.nLength chunks room pDataInfo] at write
  rw [chunks.writePos, write]
  change _ + (Function.update system.pSbm.frameFifo.pFrames
    (counts.chunksAdded % system.pSbm.frameFifo.nMaxFrameNum) pDataInfo
    (counts.chunksAdded % system.pSbm.frameFifo.nMaxFrameNum)).nLength = _
  rw [Function.update_self]

theorem joined_balanced (balanced : Balanced system.pSbm)
    (pDataInfo : VideoStreamDataInfo) (pWriteAddr : Int)
    (free : ¬ system.pSbm.frameFifo.nMaxFrameNum ≤ system.pSbm.frameFifo.nValidFrameNum) :
    Balanced (chunkJoined system.pSbm pDataInfo pWriteAddr) := by
  unfold Balanced heldBytes at balanced
  change s32 (system.pSbm.nValidDataSize + pDataInfo.nLength) = s32
    (unreadSum VideoStreamDataInfo.nLength (system.pSbm.frameFifo.store
      system.pSbm.frameFifo.nWritePos pDataInfo).advanceWrite +
      system.pSbm.mDetectInfo.nCurStreamDataSize + frameBytes system.pSbm +
      validSum FramePicInfo.nlength system.pSbm.mFramePicFifo)
  rw [joined_unread kept pDataInfo free, balanced]
  unfold s32
  omega

theorem joined_tied (tied : CursorTied system.pSbm)
    (pDataInfo : VideoStreamDataInfo) (pWriteAddr : Int)
    (free : ¬ system.pSbm.frameFifo.nMaxFrameNum ≤ system.pSbm.frameFifo.nValidFrameNum) :
    CursorTied (chunkJoined system.pSbm pDataInfo pWriteAddr) := by
  intro p ptr stream cursor
  have apart := joined_elsewhere kept free stream
  obtain ⟨nSkipped, at_cursor, size⟩ := tied p ptr stream cursor
  have same : (chunkJoined system.pSbm pDataInfo pWriteAddr).frameFifo.pFrames p =
      system.pSbm.frameFifo.pFrames p := Function.update_of_ne apart _ _
  refine ⟨nSkipped, ?_, ?_⟩
  · obtain ⟨turns, at_cursor⟩ := at_cursor
    exact ⟨turns, by rw [same]; exact at_cursor⟩
  · rw [same]
    exact size

theorem flushed_balanced (balanced : Balanced system.pSbm) {p : Nat}
    (read : counts.framesFlushed < counts.framesDelivered)
    (oldest : p = counts.framesFlushed % system.pSbm.mFramePicFifo.nMaxFrameNum) :
    Balanced { system.pSbm with
      mFramePicFifo := system.pSbm.mFramePicFifo.advanceFlush
      nValidDataSize := s32 (system.pSbm.nValidDataSize - (system.pSbm.curFrame p).nlength) } := by
  have flush := valid_sum_advance_flush FramePicInfo.nlength kept.sbm.frames read
  rw [← oldest] at flush
  unfold Balanced heldBytes at balanced
  change s32 (system.pSbm.nValidDataSize - (system.pSbm.mFramePicFifo.pFrames p).nlength) = s32
    (unreadSum VideoStreamDataInfo.nLength system.pSbm.frameFifo +
      system.pSbm.mDetectInfo.nCurStreamDataSize + frameBytes system.pSbm +
      validSum FramePicInfo.nlength system.pSbm.mFramePicFifo.advanceFlush)
  rw [balanced, flush]
  unfold s32
  omega

omit kept

theorem steps_accounted (accounted : Accounted system counts)
    (steps : Steps codec system counts op next after) : Accounted next after := by
  have kept := steps_kept accounted.kept steps
  have tied := accounted.tied
  have balanced := accounted.balanced
  cases steps with
  | write bytes | setEos nEosFlag | refused pDataInfo | nothing none_left
  | delivered waiting oldest | returned position cursors held => exact ⟨kept, tied, balanced⟩
  | added pDataInfo marked pWriteAddr legal size free =>
    have sums := joined_balanced accounted.kept balanced marked pWriteAddr free
    exact ⟨kept, joined_tied accounted.kept tied marked pWriteAddr free, sums⟩
  | checked untyped checks =>
    have idle := accounted.kept.untyped untyped
    have sums := balanced_checks checks accounted.kept.sbm idle.1 balanced
    have detect := checks_detect checks
    refine ⟨kept, ?_, sums⟩
    intro p ptr stream
    simp [detect, idle.1] at stream
  | passed typed pass passes =>
    have bounds := before_bounds codec system.pSbm
    have same : input _ = input system.pSbm := passes_input passes
    refine ⟨kept, tied_passes accounted.kept tied bounds passes, ?_⟩
    unfold Balanced
    rw [held_passes accounted.kept tied passes, ← balanced]
    exact congrArg Input.nValidDataSize same
  | flushed read oldest held =>
    exact ⟨kept, tied, flushed_balanced accounted.kept balanced read oldest⟩

/-- The count is the sum of the four holders, and a drained ring takes a full chunk. -/
structure BytesConserved (pSbm : SbmFrame) : Prop where
  balance : pSbm.nValidDataSize = s32 (heldBytes pSbm)
  drained : pSbm.frameFifo.nValidFrameNum = 0 → pSbm.mFramePicFifo.nValidFrameNum = 0 →
    frameBytes pSbm = 0 → pSbm.nValidDataSize = 0 ∧
      ∀ pDataInfo : VideoStreamDataInfo, pDataInfo.pData ≠ 0 → 0 ≤ pDataInfo.nLength →
        pDataInfo.nLength ≤ pSbm.nStreamBufferSize →
        (sbmFrameAddStream pSbm pDataInfo).2 = 0

theorem conserved_of_accounted (accounted : Accounted system counts) :
    BytesConserved system.pSbm := by
  have balance := accounted.balanced
  refine ⟨balance, ?_⟩
  intro noChunk noFrame noBytes
  have chunks := accounted.kept.sbm.chunks
  have valid := chunks.valid
  have ordered := chunks.flushedDelivered
  have inside := chunks.deliveredAdded
  have idle : system.pSbm.mDetectInfo.pCurStream = none := by
    by_contra busy
    obtain ⟨p, stream⟩ := Option.ne_none_iff_exists'.mp busy
    rw [under_detection_some stream] at inside
    omega
  have unread : unreadSum VideoStreamDataInfo.nLength system.pSbm.frameFifo = 0 := by
    have none_left : system.pSbm.frameFifo.nUnReadFrameNum = 0 := by
      have unRead := chunks.unRead
      omega
    simp [unreadSum, none_left, CyclicBuffer.window]
  have framed : validSum FramePicInfo.nlength system.pSbm.mFramePicFifo = 0 := by
    simp [validSum, noFrame, CyclicBuffer.window]
  have empty : system.pSbm.nValidDataSize = 0 := by
    unfold Balanced heldBytes at balance
    rw [unread, framed, noBytes, (accounted.kept.sbm.idle idle).2] at balance
    exact balance
  refine ⟨empty, ?_⟩
  intro pDataInfo placed nonneg fits
  have free : ¬ system.pSbm.frameFifo.nMaxFrameNum ≤ system.pSbm.frameFifo.nValidFrameNum := by
    have capacity := chunks.capacity
    omega
  have limit := accounted.kept.shape.limit
  unfold RING_LIMIT at limit
  have room : ¬ s32 (pDataInfo.nLength + system.pSbm.nValidDataSize) >
      system.pSbm.nStreamBufferSize := by
    rw [empty, Int.add_zero, s32_of_range (by unfold InS32; omega)]
    omega
  unfold sbmFrameAddStream
  rw [if_neg placed, if_neg free, if_neg room]

/-- One length-prefixed chunk on its way from the application to the decoder and out. -/
def submitOps : List SbmOp :=
  let content : Int → UInt8 := fun address => [0, 0, 0, 6, 0x65, 1, 2, 3, 4, 5][address.toNat - 1]!
  [.write content, .addStream ⟨1, 10, 7, 0, 0, 0⟩, .detect, .detect, .detect, .setEos 1, .detect,
   .requestFramePic, .returnFramePic 0, .requestFramePic, .flushFramePic 0]

/-- The detector fills no frame picture that the decoder holds. -/
theorem filled_frame_not_held (codec : Codec) (nSbmBufferTotalSize pSbmBuf : Int)
    (nNaluLength : Nat) (bytes : Int → UInt8) (pSbm : SbmFrame)
    (limit : nSbmBufferTotalSize ≤ RING_LIMIT) (prefixBytes : nNaluLength ≤ 4)
    (init : sbmFrameInit nSbmBufferTotalSize nNaluLength pSbmBuf bytes = some pSbm)
    (ops : List SbmOp) (legal : StepsMeet Legal (exec codec) (SbmSystem.start pSbm) ops)
    (final : SbmSystem) (run : runOps (exec codec) (SbmSystem.start pSbm) ops = some final) :
    ∀ p ∈ final.pSbm.mDetectInfo.pCurFramePic, p ∉ final.held := by
  obtain ⟨counts, kept⟩ : ∃ counts, RunKept final counts := by
    refine @guarded_run_invariant _ _ Legal (exec codec) (fun state => ∃ counts,
      RunKept state counts) ?_ _ final ops ⟨_, start_kept limit prefixBytes init⟩ legal run
    rintro state op next ⟨counts, kept⟩ meets step
    obtain ⟨after, steps⟩ := exec_steps kept meets step
    exact ⟨after, steps_kept kept steps⟩
  have added := kept.sbm.frames.deliveredAdded
  intro p filled holds
  obtain ⟨place, room⟩ := kept.sbm.slot p filled
  rw [kept.held] at holds
  obtain ⟨i, inside, same⟩ := List.mem_map.mp holds
  have early := List.mem_range.mp inside
  exact CyclicBuffer.slots_differ (by omega) (by omega) (same.trans place)

def secondChunkOps : List SbmOp :=
  submitOps.take 4 ++ [.addStream ⟨1, 10, 7, 0, 0, 0⟩, .detect, .detect, .detect, .requestFramePic]

theorem second_frame_filled_apart : ∃ pSbm, sbmFrameInit 64 4 1 (fun _ => 0) = some pSbm ∧
    ∃ final, runOps (exec .avc) (SbmSystem.start pSbm) secondChunkOps = some final ∧
      ∀ p ∈ final.pSbm.mDetectInfo.pCurFramePic, p ∉ final.held :=
  ⟨_, rfl, _, rfl, filled_frame_not_held .avc 64 1 4 (fun _ => 0) _ (by decide) (by decide) rfl
    secondChunkOps (by decide) _ rfl⟩

end CedarC.SbmFrameBytes
