import CedarC.SbmFrameDetect
import CedarC.SbmFrameFifo

/-!
# What the steps of the frame manager do

The invariant of the two FIFOs around the detector, which reads one chunk and
fills one frame picture, and the exact result of each call from a state that
has it. The bytes that each entry accounts for are sums over the FIFOs.
-/

namespace CedarC.SbmFrameSteps

open CyclicBuffer FixedWidth SbmFrameModel SbmFrameDetect SbmFrameFifo Option

section Sums

variable {Frame : Type}

def unreadSum (size : Frame → Int) (fifo : FrameFifo Frame) : Int :=
  ((window fifo.pFrames fifo.nMaxFrameNum fifo.nReadPos fifo.nUnReadFrameNum).map size).sum

def validSum (size : Frame → Int) (fifo : FrameFifo Frame) : Int :=
  ((window fifo.pFrames fifo.nMaxFrameNum fifo.nFlushPos fifo.nValidFrameNum).map size).sum

variable {fifo : FrameFifo Frame} {flushed delivered added : Nat} (size : Frame → Int)
  (kept : CursorsKept fifo flushed delivered added)

include kept

theorem unread_sum_eq : unreadSum size fifo =
      ((window fifo.pFrames fifo.nMaxFrameNum delivered (added - delivered)).map size).sum := by
  unfold unreadSum
  rw [kept.readPos, kept.unRead, window_cursor]

theorem valid_sum_eq : validSum size fifo =
      ((window fifo.pFrames fifo.nMaxFrameNum flushed (added - flushed)).map size).sum := by
  unfold validSum
  rw [kept.flushPos, kept.valid, window_cursor]

theorem unread_sum_advance_read (waiting : delivered < added) : unreadSum size fifo =
      size (fifo.pFrames (delivered % fifo.nMaxFrameNum)) + unreadSum size fifo.advanceRead := by
  rw [unread_sum_eq size kept, unread_sum_eq size (advance_read_spec kept waiting),
    show added - delivered = added - (delivered + 1) + 1 by omega, window_front]
  simp [FrameFifo.advanceRead]

theorem valid_sum_advance_flush (read : flushed < delivered) : validSum size fifo =
      size (fifo.pFrames (flushed % fifo.nMaxFrameNum)) + validSum size fifo.advanceFlush := by
  have inside := kept.deliveredAdded
  rw [valid_sum_eq size kept, valid_sum_eq size (advance_flush_spec kept read),
    show added - flushed = added - (flushed + 1) + 1 by omega, window_front]
  simp [FrameFifo.advanceFlush]

theorem unread_sum_advance_write (free : added < flushed + fifo.nMaxFrameNum) :
    unreadSum size fifo.advanceWrite =
      unreadSum size fifo + size (fifo.pFrames (added % fifo.nMaxFrameNum)) := by
  have inside := kept.deliveredAdded
  rw [unread_sum_eq size kept, unread_sum_eq size (advance_write_spec kept free),
    show added + 1 - delivered = added - delivered + 1 by omega]
  change ((window fifo.pFrames fifo.nMaxFrameNum _ _).map size).sum = _
  rw [window_back, show delivered + (added - delivered) = added by omega]
  simp

theorem valid_sum_advance_write (free : added < flushed + fifo.nMaxFrameNum) :
    validSum size fifo.advanceWrite =
      validSum size fifo + size (fifo.pFrames (added % fifo.nMaxFrameNum)) := by
  have inside := kept.deliveredAdded
  have ordered := kept.flushedDelivered
  rw [valid_sum_eq size kept, valid_sum_eq size (advance_write_spec kept free),
    show added + 1 - flushed = added - flushed + 1 by omega]
  change ((window fifo.pFrames fifo.nMaxFrameNum _ _).map size).sum = _
  rw [window_back, show flushed + (added - flushed) = added by omega]
  simp

theorem unread_sum_store (free : added < flushed + fifo.nMaxFrameNum) (frame : Frame) :
    unreadSum size (fifo.store (added % fifo.nMaxFrameNum) frame) = unreadSum size fifo := by
  have inside := kept.deliveredAdded
  have ordered := kept.flushedDelivered
  rw [unread_sum_eq size kept, unread_sum_eq size (store_cursors kept _ frame)]
  change ((window (Function.update fifo.pFrames (added % fifo.nMaxFrameNum) frame)
    fifo.nMaxFrameNum delivered (added - delivered)).map size).sum = _
  have write := @window_write _ fifo.pFrames fifo.nMaxFrameNum delivered (added - delivered)
    (by omega) frame
  rw [show delivered + (added - delivered) = added by omega] at write
  rw [write]

theorem valid_sum_store (free : added < flushed + fifo.nMaxFrameNum) (frame : Frame) :
    validSum size (fifo.store (added % fifo.nMaxFrameNum) frame) = validSum size fifo := by
  have inside := kept.deliveredAdded
  have ordered := kept.flushedDelivered
  rw [valid_sum_eq size kept, valid_sum_eq size (store_cursors kept _ frame)]
  change ((window (Function.update fifo.pFrames (added % fifo.nMaxFrameNum) frame)
    fifo.nMaxFrameNum flushed (added - flushed)).map size).sum = _
  have write := @window_write _ fifo.pFrames fifo.nMaxFrameNum flushed (added - flushed)
    (by omega) frame
  rw [show flushed + (added - flushed) = added by omega] at write
  rw [write]

end Sums

section Kept

/-- How often each cursor of the two FIFOs has moved. -/
structure Counts where
  chunksFlushed : Nat
  chunksAdded : Nat
  framesFlushed : Nat
  framesDelivered : Nat
  framesAdded : Nat

def Counts.chunkAdded (counts : Counts) : Counts :=
  { counts with chunksAdded := counts.chunksAdded + 1 }

def Counts.delivered (counts : Counts) (framesDelivered : Nat) : Counts :=
  { counts with framesDelivered := framesDelivered }

def Counts.frameFlushed (counts : Counts) : Counts :=
  { counts with framesFlushed := counts.framesFlushed + 1 }

def underDetection (pSbm : SbmFrame) : Nat :=
  if pSbm.mDetectInfo.pCurStream = none then 0 else 1

structure SbmKept (pSbm : SbmFrame) (counts : Counts) : Prop where
  chunks : CursorsKept pSbm.frameFifo counts.chunksFlushed
    (counts.chunksFlushed + underDetection pSbm) counts.chunksAdded
  frames : CursorsKept pSbm.mFramePicFifo counts.framesFlushed counts.framesDelivered
    counts.framesAdded
  stream : ∀ p ∈ pSbm.mDetectInfo.pCurStream, p = counts.chunksFlushed % pSbm.frameFifo.nMaxFrameNum
  slot : ∀ p ∈ pSbm.mDetectInfo.pCurFramePic,
    p = counts.framesAdded % pSbm.mFramePicFifo.nMaxFrameNum ∧
      counts.framesAdded < counts.framesFlushed + pSbm.mFramePicFifo.nMaxFrameNum
  idle : pSbm.mDetectInfo.pCurStream = none →
    pSbm.mDetectInfo.pCurStreamDataptr = none ∧ pSbm.mDetectInfo.nCurStreamDataSize = 0
  busy : pSbm.mDetectInfo.pCurStream ≠ none → pSbm.mDetectInfo.pCurStreamDataptr ≠ none

variable {pSbm : SbmFrame} {counts : Counts} {slot : Nat}

theorem set_frame_kept (kept : SbmKept pSbm counts) (p : Nat) (frame : FramePicInfo) :
    SbmKept (pSbm.setFrame p frame) counts :=
  ⟨kept.chunks, store_cursors kept.frames p frame, kept.stream, kept.slot, kept.idle, kept.busy⟩

/-- The detector state may change where it stands in the same chunk and frame. -/
theorem set_detect_kept (kept : SbmKept pSbm counts) {pDetectInfo : DetectFramePicInfo}
    (stream : pDetectInfo.pCurStream = pSbm.mDetectInfo.pCurStream)
    (frame : pDetectInfo.pCurFramePic = pSbm.mDetectInfo.pCurFramePic)
    (idle : pSbm.mDetectInfo.pCurStream = none →
      pDetectInfo.pCurStreamDataptr = none ∧ pDetectInfo.nCurStreamDataSize = 0)
    (busy : pSbm.mDetectInfo.pCurStream ≠ none → pDetectInfo.pCurStreamDataptr ≠ none) :
    SbmKept (pSbm.setDetect pDetectInfo) counts := by
  have same : underDetection (pSbm.setDetect pDetectInfo) = underDetection pSbm := by
    simp [underDetection, SbmFrame.setDetect, stream]
  exact
  { chunks := by
      rw [same]
      exact kept.chunks
    frames := kept.frames
    stream := by
      intro p here
      exact kept.stream p (stream ▸ here)
    slot := by
      intro p here
      exact kept.slot p (frame ▸ here)
    idle := by
      intro none_left
      exact idle (stream ▸ none_left)
    busy := by
      intro some_left
      exact busy (stream ▸ some_left) }

@[simp] theorem set_frame_same (frame : FramePicInfo) :
    (pSbm.setFrame slot frame).curFrame slot = frame := by
  simp [SbmFrame.setFrame, SbmFrame.curFrame, FrameFifo.store]

@[simp] theorem set_detect_frame (pDetectInfo : DetectFramePicInfo) :
    (pSbm.setDetect pDetectInfo).curFrame slot = pSbm.curFrame slot := rfl

end Kept

section Claim

variable {pSbm : SbmFrame} {counts : Counts} {slot : Nat}

/-- The head of a pass: the frame under construction, or a fresh one. -/
inductive Claims (pSbm : SbmFrame) : Nat → SbmFrame → Prop
  | current {slot : Nat} (here : pSbm.mDetectInfo.pCurFramePic = some slot) :
      Claims pSbm slot pSbm
  | fresh {slot : Nat} (nothing : pSbm.mDetectInfo.pCurFramePic = none)
      (granted : requestEmptyFramePic pSbm = some slot) :
      Claims pSbm slot (initFramePicInfo pSbm slot)

theorem claims_current {base : SbmFrame} (claims : Claims pSbm slot base) :
    base.mDetectInfo.pCurFramePic = some slot := by
  cases claims with
  | current here => exact here
  | fresh nothing granted => rfl

variable (kept : SbmKept pSbm counts)

include kept

theorem request_empty_spec (granted : requestEmptyFramePic pSbm = some slot) :
    slot = counts.framesAdded % pSbm.mFramePicFifo.nMaxFrameNum ∧
      counts.framesAdded < counts.framesFlushed + pSbm.mFramePicFifo.nMaxFrameNum := by
  unfold requestEmptyFramePic at granted
  split_ifs at granted with full
  have atMost := kept.frames.room
  have free := (not_congr (full_iff kept.frames)).mp full
  obtain rfl := Option.some.inj granted
  exact ⟨kept.frames.writePos, by omega⟩

theorem init_frame_kept (granted : requestEmptyFramePic pSbm = some slot) :
    SbmKept (initFramePicInfo pSbm slot) counts := by
  have free := request_empty_spec kept granted
  exact
  { chunks := kept.chunks
    frames := store_cursors kept.frames _ _
    stream := kept.stream
    slot := by
      intro p here
      obtain rfl : slot = p := Option.some.inj here
      exact free
    idle := kept.idle
    busy := kept.busy }

theorem claims_kept {base : SbmFrame} (claims : Claims pSbm slot base) : SbmKept base counts := by
  cases claims with
  | current here => exact kept
  | fresh nothing granted => exact init_frame_kept kept granted

end Claim

section Supply

variable {pSbm : SbmFrame} {counts : Counts} {slot p : Nat}

/-- The chunk under detection is flushed; its place in the FIFO is free again. -/
def Counts.chunkDone (counts : Counts) : Counts :=
  { counts with chunksFlushed := counts.chunksFlushed + 1 }

def chunkFlushed (pSbm : SbmFrame) : SbmFrame :=
  { pSbm with frameFifo := pSbm.frameFifo.advanceFlush }

def detectIdle (pDetectInfo : DetectFramePicInfo) : DetectFramePicInfo :=
  { pDetectInfo with pCurStream := none, nCurStreamDataSize := 0, pCurStreamDataptr := none }

theorem under_detection_some (stream : pSbm.mDetectInfo.pCurStream = some p) :
    underDetection pSbm = 1 := by
  simp [underDetection, stream]

theorem under_detection_none (idle : pSbm.mDetectInfo.pCurStream = none) :
    underDetection pSbm = 0 := by
  simp [underDetection, idle]

theorem flush_current (kept : SbmKept pSbm counts) (stream : pSbm.mDetectInfo.pCurStream = some p) :
    flushStream pSbm p false = some (chunkFlushed pSbm, 0) := by
  have oldest := kept.stream p stream
  have chunks := kept.chunks
  rw [under_detection_some stream] at chunks
  have flush := flush_oldest chunks (by omega)
  rw [← oldest] at flush
  simp [flushStream, flush, chunkFlushed]

theorem chunk_flushed_kept (kept : SbmKept pSbm counts)
    (stream : pSbm.mDetectInfo.pCurStream = some p) :
    SbmKept ((chunkFlushed pSbm).setDetect (detectIdle pSbm.mDetectInfo)) counts.chunkDone := by
  have chunks := kept.chunks
  rw [under_detection_some stream] at chunks
  exact
  { chunks := advance_flush_spec chunks (Nat.lt_succ_self _)
    frames := kept.frames
    stream := by
      intro q here
      simp [SbmFrame.setDetect, detectIdle] at here
    slot := kept.slot
    idle := fun _ => ⟨rfl, rfl⟩
    busy := by
      intro some_left
      exact absurd rfl some_left }

/-- What `releaseStream` leaves when a chunk is under detection. -/
def released (pSbm : SbmFrame) (slot : Nat) : SbmFrame :=
  ((chunkFlushed pSbm).setFrame slot
    { pSbm.curFrame slot with
      nlength := s32 ((pSbm.curFrame slot).nlength + pSbm.mDetectInfo.nCurStreamDataSize) }
    ).setDetect (detectIdle pSbm.mDetectInfo)

theorem release_busy (kept : SbmKept pSbm counts) (stream : pSbm.mDetectInfo.pCurStream = some p) :
    releaseStream pSbm slot = some (released pSbm slot) := by
  simp only [releaseStream, stream, flush_current kept stream, map_some]
  rfl

theorem release_idle (idle : pSbm.mDetectInfo.pCurStream = none) :
    releaseStream pSbm slot = some pSbm := by
  simp [releaseStream, idle]

theorem released_kept (kept : SbmKept pSbm counts) (stream : pSbm.mDetectInfo.pCurStream = some p) :
    SbmKept (released pSbm slot) counts.chunkDone :=
  set_frame_kept (chunk_flushed_kept kept stream) slot _

/-- The next chunk is under detection from its first byte on. -/
def taken (nReback : SbmFrame → VideoStreamDataInfo → Bool) (pSbm : SbmFrame) (p : Nat) :
    SbmFrame :=
  let pStream := pSbm.frameFifo.pFrames p
  let read := { pSbm with frameFifo := pSbm.frameFifo.advanceRead }
  read.setDetect
    { pSbm.mDetectInfo with
      pCurStream := some p
      nCurStreamDataSize := pStream.nLength
      pCurStreamDataptr := some pStream.pData
      nCurStreamRebackFlag := nReback read pStream }

def dropped (pSbm : SbmFrame) : SbmFrame :=
  { pSbm with frameFifo := pSbm.frameFifo.advanceRead.advanceFlush }

/-- How `supplyStreamData` goes on from a state without a chunk under detection. -/
inductive Supplies (nReback : SbmFrame → VideoStreamDataInfo → Bool) (pSbm : SbmFrame)
    (counts : Counts) : SbmFrame → Supply → Counts → Prop
  | nothing (dry : counts.chunksFlushed = counts.chunksAdded) :
      Supplies nReback pSbm counts pSbm .noStream counts
  | empty {p : Nat} (waiting : counts.chunksFlushed < counts.chunksAdded)
      (next : p = counts.chunksFlushed % pSbm.frameFifo.nMaxFrameNum)
      (hollow : (pSbm.frameFifo.pFrames p).nLength ≤ 0) :
      Supplies nReback pSbm counts (dropped pSbm) .emptyStream counts.chunkDone
  | chunk {p : Nat} (waiting : counts.chunksFlushed < counts.chunksAdded)
      (next : p = counts.chunksFlushed % pSbm.frameFifo.nMaxFrameNum)
      (bytes : 0 < (pSbm.frameFifo.pFrames p).nLength) :
      Supplies nReback pSbm counts (taken nReback pSbm p) .supplied counts

theorem supplies_kept {nReback : SbmFrame → VideoStreamDataInfo → Bool} {next : SbmFrame}
    {result : Supply} {after : Counts} (kept : SbmKept pSbm counts)
    (idle : pSbm.mDetectInfo.pCurStream = none)
    (supplies : Supplies nReback pSbm counts next result after) : SbmKept next after := by
  have chunks := kept.chunks
  rw [under_detection_none idle, Nat.add_zero] at chunks
  cases supplies with
  | nothing dry => exact kept
  | empty waiting here hollow =>
    exact
    { kept with
      chunks := by
        have read := advance_read_spec chunks waiting
        have still : underDetection (dropped pSbm) = 0 := under_detection_none idle
        rw [still]
        exact advance_flush_spec read (Nat.lt_succ_self _)
      stream := by
        intro q busy
        rw [show (dropped pSbm).mDetectInfo.pCurStream = none from idle] at busy
        simp at busy }
  | chunk waiting here bytes =>
    exact
    { chunks := advance_read_spec chunks waiting
      frames := kept.frames
      stream := by
        intro q busy
        obtain rfl := Option.some.inj busy
        exact here
      slot := kept.slot
      idle := by
        intro none_left
        simp [taken, SbmFrame.setDetect] at none_left
      busy := by
        intro _
        simp [taken, SbmFrame.setDetect] }

theorem supply_idle (kept : SbmKept pSbm counts) (idle : pSbm.mDetectInfo.pCurStream = none)
    (nReback : SbmFrame → VideoStreamDataInfo → Bool) :
    ∃ next result after, supplyStreamData pSbm nReback slot = some (next, result) ∧
      Supplies nReback pSbm counts next result after := by
  have chunks := kept.chunks
  rw [under_detection_none idle, Nat.add_zero] at chunks
  have inside := chunks.deliveredAdded
  by_cases dry : counts.chunksFlushed = counts.chunksAdded
  · have none_left := request_none chunks dry
    refine ⟨pSbm, .noStream, counts, ?_, .nothing dry⟩
    simp [supplyStreamData, release_idle idle, requestStream, none_left]
  · have waiting : counts.chunksFlushed < counts.chunksAdded := by omega
    have request := request_some chunks waiting
    let p := counts.chunksFlushed % pSbm.frameFifo.nMaxFrameNum
    by_cases hollow : (pSbm.frameFifo.pFrames p).nLength ≤ 0
    · have read := advance_read_spec chunks waiting
      have flush := flush_oldest read (by omega)
      change pSbm.frameFifo.advanceRead.flush p = _ at flush
      refine ⟨dropped pSbm, .emptyStream, counts.chunkDone, ?_, .empty waiting rfl hollow⟩
      simp only [supplyStreamData, release_idle idle, bind_some, requestStream, request]
      change (if (pSbm.frameFifo.pFrames p).nLength ≤ 0 then _ else _) = _
      rw [if_pos hollow]
      simp only [flushStream]
      change ((pSbm.frameFifo.advanceRead.flush p).map _).map _ = _
      rw [flush]
      rfl
    · refine ⟨taken nReback pSbm p, .supplied, counts, ?_, .chunk waiting rfl (by omega)⟩
      simp only [supplyStreamData, release_idle idle, bind_some, requestStream, request]
      change (if (pSbm.frameFifo.pFrames p).nLength ≤ 0 then _ else _) = _
      rw [if_neg hollow]
      rfl

theorem supply_busy (kept : SbmKept pSbm counts) (stream : pSbm.mDetectInfo.pCurStream = some p)
    (nReback : SbmFrame → VideoStreamDataInfo → Bool) :
    supplyStreamData pSbm nReback slot = supplyStreamData (released pSbm slot) nReback slot := by
  have idle : (released pSbm slot).mDetectInfo.pCurStream = none := rfl
  unfold supplyStreamData
  rw [release_busy kept stream, release_idle idle]

end Supply

section Emit

variable {pSbm : SbmFrame} {counts : Counts} {slot : Nat}

def Counts.frameAdded (counts : Counts) : Counts :=
  { counts with framesAdded := counts.framesAdded + 1 }

def frameJoined (pSbm : SbmFrame) (bCurFrameStartCodeFound : Bool) : SbmFrame :=
  { pSbm with mFramePicFifo := pSbm.mFramePicFifo.advanceWrite }.setDetect
    { pSbm.mDetectInfo with
      bCurFrameStartCodeFound := bCurFrameStartCodeFound, pCurFramePic := none }

theorem add_frame_current (kept : SbmKept pSbm counts)
    (current : pSbm.mDetectInfo.pCurFramePic = some slot) :
    addFramePic pSbm slot =
      some ({ pSbm with mFramePicFifo := pSbm.mFramePicFifo.advanceWrite }, 0) := by
  have here := kept.slot slot current
  have free : ¬ pSbm.mFramePicFifo.nMaxFrameNum ≤ pSbm.mFramePicFifo.nValidFrameNum := by
    intro full
    have whole := (full_iff kept.frames).mp full
    omega
  have position : slot = pSbm.mFramePicFifo.nWritePos := by rw [here.1, kept.frames.writePos]
  simp [addFramePic, free, position]

theorem frame_joined_kept (kept : SbmKept pSbm counts)
    (current : pSbm.mDetectInfo.pCurFramePic = some slot) (found : Bool) :
    SbmKept (frameJoined pSbm found) counts.frameAdded := by
  have here := kept.slot slot current
  exact
  { chunks := kept.chunks
    frames := advance_write_spec kept.frames here.2
    stream := kept.stream
    slot := by
      intro p again
      simp [frameJoined, SbmFrame.setDetect] at again
    idle := kept.idle
    busy := kept.busy }

/-- The frame under construction with the time stamp it gets at its end. -/
def stamped (pSbm : SbmFrame) (slot : Nat) : SbmFrame :=
  pSbm.setFrame slot
    { pSbm.curFrame slot with nPts := chooseFramePts pSbm.mDetectInfo.nCurFramePtsList }

theorem emit_frame_spec (kept : SbmKept pSbm counts)
    (current : pSbm.mDetectInfo.pCurFramePic = some slot) :
    emitFramePic pSbm slot = some (frameJoined (stamped pSbm slot) false) := by
  have stampedKept : SbmKept (stamped pSbm slot) counts := set_frame_kept kept slot _
  have add := add_frame_current stampedKept current
  simp only [emitFramePic]
  change (addFramePic (stamped pSbm slot) slot).map _ = _
  rw [add]
  rfl

theorem emitted_kept (kept : SbmKept pSbm counts)
    (current : pSbm.mDetectInfo.pCurFramePic = some slot) :
    SbmKept (frameJoined (stamped pSbm slot) false) counts.frameAdded :=
  frame_joined_kept (set_frame_kept kept slot _) current false

end Emit

section Dispose

variable {pSbm : SbmFrame} {counts : Counts} {slot p : Nat} {ptr : Int}

/-- The frame of an invalid chunk, and whether it is given up. -/
inductive Disposes (pSbm : SbmFrame) (slot p : Nat) (ptr : Int) : FramePicInfo → Bool → Prop
  | whole (atStart : ptr = (pSbm.frameFifo.pFrames p).pData)
      (begun : (pSbm.curFrame slot).nlength = 0) :
      Disposes pSbm slot p ptr
        { pSbm.curFrame slot with
          pDataStartAddr := some (pSbm.frameFifo.pFrames p).pData
          nlength := (pSbm.frameFifo.pFrames p).nLength
          bValidFlag := false } true
  | long (notWhole : ¬ (ptr = (pSbm.frameFifo.pFrames p).pData ∧ (pSbm.curFrame slot).nlength = 0))
      (tooLong : s32 ((pSbm.curFrame slot).nlength + pSbm.mDetectInfo.nCurStreamDataSize) >
        MAX_INVALID_STREAM_DATA_SIZE) :
      Disposes pSbm slot p ptr
        { pSbm.curFrame slot with
          nlength := s32 ((pSbm.curFrame slot).nlength + pSbm.mDetectInfo.nCurStreamDataSize)
          bValidFlag := false } true
  | joined (notWhole : ¬ (ptr = (pSbm.frameFifo.pFrames p).pData ∧
        (pSbm.curFrame slot).nlength = 0))
      (short : ¬ s32 ((pSbm.curFrame slot).nlength + pSbm.mDetectInfo.nCurStreamDataSize) >
        MAX_INVALID_STREAM_DATA_SIZE) :
      Disposes pSbm slot p ptr
        { pSbm.curFrame slot with
          nlength := s32 ((pSbm.curFrame slot).nlength +
            pSbm.mDetectInfo.nCurStreamDataSize) } false

/-- The chunk under detection is gone, its bytes are the frame's. -/
def disposed (pSbm : SbmFrame) (slot : Nat) (frame : FramePicInfo) : SbmFrame :=
  ((chunkFlushed pSbm).setFrame slot frame).setDetect (detectIdle pSbm.mDetectInfo)

theorem dispose_outcome (kept : SbmKept pSbm counts) (stream : pSbm.mDetectInfo.pCurStream = some p)
    (current : pSbm.mDetectInfo.pCurFramePic = some slot) (frame : FramePicInfo) (givenUp : Bool)
    :
    ((flushStream (pSbm.setFrame slot frame) p false).bind fun (pSbm, _) =>
      let pSbm := pSbm.setDetect (detectIdle pSbm.mDetectInfo)
      if givenUp then
        (addFramePic pSbm slot).map fun (pSbm, _) =>
          pSbm.setDetect { pSbm.mDetectInfo with pCurFramePic := none }
      else some pSbm) =
    some (if givenUp then
        frameJoined (disposed pSbm slot frame) pSbm.mDetectInfo.bCurFrameStartCodeFound
      else disposed pSbm slot frame) := by
  have flush : flushStream (pSbm.setFrame slot frame) p false =
      some (chunkFlushed (pSbm.setFrame slot frame), 0) :=
    flush_current (set_frame_kept kept slot frame) stream
  rw [flush]
  cases givenUp with
  | false => rfl
  | true =>
    have add : addFramePic (disposed pSbm slot frame) slot =
        some ({ disposed pSbm slot frame with
          mFramePicFifo := (disposed pSbm slot frame).mFramePicFifo.advanceWrite }, 0) :=
      add_frame_current (set_frame_kept (chunk_flushed_kept kept stream) slot frame) current
    change (addFramePic (disposed pSbm slot frame) slot).map _ = _
    rw [add]
    rfl

theorem dispose_spec (kept : SbmKept pSbm counts) (stream : pSbm.mDetectInfo.pCurStream = some p)
    (cursor : pSbm.mDetectInfo.pCurStreamDataptr = some ptr)
    (current : pSbm.mDetectInfo.pCurFramePic = some slot) :
    ∃ frame givenUp, Disposes pSbm slot p ptr frame givenUp ∧ disposeInvalidStreamData pSbm slot =
        some (if givenUp then
            frameJoined (disposed pSbm slot frame) pSbm.mDetectInfo.bCurFrameStartCodeFound
          else disposed pSbm slot frame) := by
  have outcome := dispose_outcome kept stream current
  by_cases atStart : ptr = (pSbm.frameFifo.pFrames p).pData ∧ (pSbm.curFrame slot).nlength = 0
  · refine ⟨_, true, .whole atStart.1 atStart.2, ?_⟩
    rw [← outcome]
    simp only [disposeInvalidStreamData, stream, bind_some, cursor]
    rw [if_pos ⟨congrArg some atStart.1, atStart.2⟩]
    rfl
  · have notStart : ¬ (some ptr = some (pSbm.frameFifo.pFrames p).pData ∧
        (pSbm.curFrame slot).nlength = 0) := by
      intro both
      exact atStart ⟨Option.some.inj both.1, both.2⟩
    by_cases tooLong : s32 ((pSbm.curFrame slot).nlength + pSbm.mDetectInfo.nCurStreamDataSize) >
        MAX_INVALID_STREAM_DATA_SIZE
    · refine ⟨_, true, .long atStart tooLong, ?_⟩
      rw [← outcome]
      simp only [disposeInvalidStreamData, stream, bind_some, cursor]
      rw [if_neg notStart, if_pos tooLong]
      rfl
    · refine ⟨_, false, .joined atStart tooLong, ?_⟩
      rw [← outcome]
      simp only [disposeInvalidStreamData, stream, bind_some, cursor]
      rw [if_neg notStart, if_neg tooLong]
      rfl

theorem disposed_kept (kept : SbmKept pSbm counts)
    (stream : pSbm.mDetectInfo.pCurStream = some p) (frame : FramePicInfo) :
    SbmKept (disposed pSbm slot frame) counts.chunkDone :=
  set_frame_kept (chunk_flushed_kept kept stream) slot frame

end Dispose

section Record

variable {pSbm : SbmFrame} {counts : Counts} {slot p : Nat}

theorem mark_start_kept (kept : SbmKept pSbm counts) (pStream : VideoStreamDataInfo) (ptr : Int) :
    SbmKept (markStart pSbm slot pStream ptr) counts := by
  unfold markStart
  dsimp only
  split_ifs
  · exact set_frame_kept kept slot _
  · exact kept

@[simp] theorem mark_start_detect (pStream : VideoStreamDataInfo) (ptr : Int) :
    (markStart pSbm slot pStream ptr).mDetectInfo = pSbm.mDetectInfo := by
  unfold markStart
  dsimp only
  split_ifs <;> rfl

@[simp] theorem mark_start_chunks (pStream : VideoStreamDataInfo) (ptr : Int) :
    (markStart pSbm slot pStream ptr).frameFifo = pSbm.frameFifo := by
  unfold markStart
  dsimp only
  split_ifs <;> rfl

theorem mark_found_kept (kept : SbmKept pSbm counts) (nNaluType : Nat) :
    SbmKept (markFound pSbm slot nNaluType) counts :=
  set_detect_kept (set_frame_kept kept slot _) rfl rfl kept.idle kept.busy

theorem skip_kept (kept : SbmKept pSbm counts) (stream : pSbm.mDetectInfo.pCurStream = some p)
    (ptr nSkipSize : Int) : SbmKept (skipCurStreamDataBytes pSbm slot ptr nSkipSize) counts := by
  refine set_detect_kept (set_frame_kept kept slot _) rfl rfl ?_ ?_
  · intro none_left
    have busy : pSbm.mDetectInfo.pCurStream = none := none_left
    simp [stream] at busy
  · intro _
    simp

theorem store_nalu_kept (kept : SbmKept pSbm counts) (bTakeVideoInfo : Bool)
    (pStream : VideoStreamDataInfo) (pNaluInfo : NaluInfo) :
    SbmKept (storeNaluInfo pSbm bTakeVideoInfo slot pStream pNaluInfo) counts :=
  set_detect_kept (set_frame_kept kept slot _) rfl rfl kept.idle kept.busy

variable (detector : Detector) (pStream : VideoStreamDataInfo) (ptr nBefore : Int)
  (naluHeader : UInt8)

def recordedSize (detector : Detector) (pSbm : SbmFrame) (slot : Nat) (ptr nBefore : Int) : Int :=
  let skipped := skipCurStreamDataBytes pSbm slot ptr nBefore
  s32 (detector.naluSize skipped ptr (skipPtr pSbm ptr nBefore)
    skipped.mDetectInfo.nCurStreamDataSize)

def recordedNalu (detector : Detector) (pSbm : SbmFrame) (slot : Nat) (ptr nBefore : Int)
    (naluHeader : UInt8) : NaluInfo :=
  { nType := detector.naluType naluHeader
    nNalRefIdc := detector.nalRefIdc naluHeader
    pDataBuf := skipPtr pSbm ptr nBefore
    nDataSize := recordedSize detector pSbm slot ptr nBefore }

theorem record_kept (kept : SbmKept pSbm counts) (stream : pSbm.mDetectInfo.pCurStream = some p) :
    SbmKept (recordNalu detector pSbm slot pStream ptr nBefore naluHeader) counts := by
  have skipped := @skip_kept pSbm counts slot p kept stream ptr nBefore
  have stored := @store_nalu_kept _ _ slot skipped detector.bTakeVideoInfo pStream
    (recordedNalu detector pSbm slot ptr nBefore naluHeader)
  exact skip_kept stored stream _ _

theorem record_detect : (recordNalu detector pSbm slot pStream ptr nBefore naluHeader).mDetectInfo =
      { pSbm.mDetectInfo with
        pCurStreamDataptr := some (skipPtr pSbm (skipPtr pSbm ptr nBefore)
          (recordedSize detector pSbm slot ptr nBefore))
        nCurStreamDataSize :=
          s32 (s32 (pSbm.mDetectInfo.nCurStreamDataSize - nBefore) -
            recordedSize detector pSbm slot ptr nBefore)
        nCurFramePtsList :=
          if (pSbm.curFrame slot).nCurNaluIdx < MAX_FRAME_PTS_LIST_NUM then
            Function.update pSbm.mDetectInfo.nCurFramePtsList (pSbm.curFrame slot).nCurNaluIdx
              pStream.nPts
          else pSbm.mDetectInfo.nCurFramePtsList } := by
  have same : ((skipCurStreamDataBytes pSbm slot ptr nBefore).curFrame slot).nCurNaluIdx =
      (pSbm.curFrame slot).nCurNaluIdx := by
    simp [skipCurStreamDataBytes, FramePicInfo.nCurNaluIdx]
  simp only [recordNalu, storeNaluInfo, same]
  rfl

theorem record_chunks :
    (recordNalu detector pSbm slot pStream ptr nBefore naluHeader).frameFifo = pSbm.frameFifo := by
  simp only [recordNalu, storeNaluInfo, skipCurStreamDataBytes, SbmFrame.setDetect,
    SbmFrame.setFrame]

theorem record_frame :
    (recordNalu detector pSbm slot pStream ptr nBefore naluHeader).curFrame slot =
      { pSbm.curFrame slot with
        pNaluInfoList := (pSbm.curFrame slot).pNaluInfoList ++
          [recordedNalu detector pSbm slot ptr nBefore naluHeader]
        nlength := s32 (s32 ((pSbm.curFrame slot).nlength + nBefore) +
          recordedSize detector pSbm slot ptr nBefore)
        bVideoInfoFlag :=
          if detector.bTakeVideoInfo ∧ pStream.bVideoInfoFlag = 1 then 1
          else (pSbm.curFrame slot).bVideoInfoFlag } := by
  simp only [recordNalu, storeNaluInfo, skipCurStreamDataBytes, set_detect_frame, set_frame_same]
  rfl

end Record

section Pass

variable {detector : Detector} {pSbm : SbmFrame} {counts : Counts}

def NeedsSupply (pSbm : SbmFrame) : Prop :=
  pSbm.mDetectInfo.nCurStreamDataSize < 5 ∨ pSbm.mDetectInfo.pCurStreamDataptr = none
deriving Decidable

/-- The state in which the supply asks for the next chunk. -/
def idled (pSbm : SbmFrame) (slot : Nat) : SbmFrame :=
  if pSbm.mDetectInfo.pCurStream = none then pSbm else released pSbm slot

def Counts.idled (counts : Counts) (pSbm : SbmFrame) : Counts :=
  if pSbm.mDetectInfo.pCurStream = none then counts else counts.chunkDone

theorem idled_idle (slot : Nat) : (idled pSbm slot).mDetectInfo.pCurStream = none := by
  unfold idled
  split_ifs with idle
  · exact idle
  · rfl

theorem idled_kept (kept : SbmKept pSbm counts) (slot : Nat) :
    SbmKept (idled pSbm slot) (counts.idled pSbm) := by
  unfold idled Counts.idled
  split_ifs with idle
  · exact kept
  · obtain ⟨p, stream⟩ := ne_none_iff_exists'.mp idle
    exact released_kept kept stream

theorem supply_spec (kept : SbmKept pSbm counts) (slot : Nat)
    (nReback : SbmFrame → VideoStreamDataInfo → Bool) :
    ∃ next result after, supplyStreamData pSbm nReback slot = some (next, result) ∧
      Supplies nReback (idled pSbm slot) (counts.idled pSbm) next result after := by
  obtain ⟨next, result, after, supply, supplies⟩ :=
    @supply_idle _ _ slot (idled_kept kept slot) (idled_idle slot) nReback
  refine ⟨next, result, after, ?_, supplies⟩
  rw [← supply]
  unfold idled
  split_ifs with idle
  · rfl
  · obtain ⟨p, stream⟩ := ne_none_iff_exists'.mp idle
    exact supply_busy kept stream nReback

/-- The state in which a pass looks at the chunk: there is a frame to fill, a
chunk under detection, and the cursor is in the ring. -/
structure Ready (detector : Detector) (pSbm : SbmFrame) (counts : Counts) (slot : Nat)
    (ready : SbmFrame) (after : Counts) (p : Nat) (ptr : Int) : Prop where
  from_base : ∃ base, Claims pSbm slot base ∧
    ((¬ NeedsSupply base ∧ ready = base ∧ after = counts) ∨ (NeedsSupply base ∧
        Supplies detector.nReback (idled base slot) (counts.idled base) ready .supplied after))
  stream : ready.mDetectInfo.pCurStream = some p
  cursor : ready.mDetectInfo.pCurStreamDataptr = some ptr
  inRing : ready.pStreamBuffer ≤ ptr ∧ ptr ≤ ready.pStreamBufferEnd

def dryOutcome : Supply → Outcome
  | .emptyStream => .emptyStream
  | _ => .noStream

/-- The state in which a NAL is recorded: the frame may just have its first slice. -/
def begun (boundary : Boundary) (marked : SbmFrame) (slot nNaluType : Nat) : SbmFrame :=
  if boundary = .firstOfFrame then markFound marked slot nNaluType else marked

theorem begun_first (marked : SbmFrame) (slot nNaluType : Nat) :
    begun .firstOfFrame marked slot nNaluType = markFound marked slot nNaluType := if_pos rfl

theorem begun_same (marked : SbmFrame) (slot nNaluType : Nat) :
    begun .sameFrame marked slot nNaluType = marked := if_neg (by decide)

theorem begun_kept {marked : SbmFrame} {slot : Nat} (kept : SbmKept marked counts)
    (boundary : Boundary) (nNaluType : Nat) :
    SbmKept (begun boundary marked slot nNaluType) counts := by
  unfold begun
  split_ifs
  · exact mark_found_kept kept nNaluType
  · exact kept

theorem begun_detect (marked : SbmFrame) (slot : Nat) (boundary : Boundary) (nNaluType : Nat) :
    (begun boundary marked slot nNaluType).mDetectInfo =
      { marked.mDetectInfo with
        bCurFrameStartCodeFound :=
          if boundary = .firstOfFrame then true
          else marked.mDetectInfo.bCurFrameStartCodeFound } := by
  unfold begun
  split_ifs <;> rfl

theorem begun_chunks (marked : SbmFrame) (slot : Nat) (boundary : Boundary) (nNaluType : Nat) :
    (begun boundary marked slot nNaluType).frameFifo = marked.frameFifo := by
  unfold begun
  split_ifs <;> rfl

/-- Every way a pass can go. -/
inductive Passes (detector : Detector) (pSbm : SbmFrame) (counts : Counts) :
    SbmFrame → Outcome → Counts → Prop
  | noFramePic (nothing : pSbm.mDetectInfo.pCurFramePic = none)
      (full : requestEmptyFramePic pSbm = none) :
      Passes detector pSbm counts pSbm .noFramePic counts
  | dry {slot : Nat} {base next : SbmFrame} {result : Supply} {after : Counts}
      (claims : Claims pSbm slot base) (needs : NeedsSupply base)
      (supplies : Supplies detector.nReback (idled base slot) (counts.idled base) next result after)
      (nothing : result ≠ .supplied)
      (goesOn : ¬ (next.mDetectInfo.bCurFrameStartCodeFound ∧ next.nEosFlag = 1)) :
      Passes detector pSbm counts next (dryOutcome result) after
  | eosFrame {slot : Nat} {base next : SbmFrame} {result : Supply} {after : Counts}
      (claims : Claims pSbm slot base) (needs : NeedsSupply base)
      (supplies : Supplies detector.nReback (idled base slot) (counts.idled base) next result after)
      (nothing : result ≠ .supplied)
      (ends : next.mDetectInfo.bCurFrameStartCodeFound ∧ next.nEosFlag = 1) :
      Passes detector pSbm counts (frameJoined (stamped next slot) false) .eosFrame
        after.frameAdded
  | invalid {slot p : Nat} {ready marked : SbmFrame} {after : Counts} {ptr : Int}
      {frame : FramePicInfo} {givenUp : Bool}
      (isReady : Ready detector pSbm counts slot ready after p ptr)
      (isMarked : marked = markStart ready slot (ready.frameFifo.pFrames p) ptr)
      (bad : detector.beforeNalu marked ptr marked.mDetectInfo.nCurStreamDataSize = none ∨
        (marked.curFrame slot).nCurNaluIdx > MAX_NALU_NUM_IN_FRAME)
      (disposes : Disposes marked slot p ptr frame givenUp) :
      Passes detector pSbm counts
        (if givenUp then
            frameJoined (disposed marked slot frame) marked.mDetectInfo.bCurFrameStartCodeFound
          else disposed marked slot frame) .invalid
        (if givenUp then after.chunkDone.frameAdded else after.chunkDone)
  | frame {slot p : Nat} {ready marked : SbmFrame} {after : Counts} {ptr nBefore : Int}
      (isReady : Ready detector pSbm counts slot ready after p ptr)
      (isMarked : marked = markStart ready slot (ready.frameFifo.pFrames p) ptr)
      (before : detector.beforeNalu marked ptr marked.mDetectInfo.nCurStreamDataSize = some nBefore)
      (fits : (marked.curFrame slot).nCurNaluIdx ≤ MAX_NALU_NUM_IN_FRAME)
      (boundary : detector.boundary marked (ptr + nBefore)
        (detector.naluType (readByteIdx marked (ptr + nBefore) 0)) = .newFrame) :
      Passes detector pSbm counts (frameJoined (stamped marked slot) false) .frame
        after.frameAdded
  | again {slot p : Nat} {ready marked : SbmFrame} {after : Counts} {ptr nBefore : Int}
      {boundary : Boundary}
      (isReady : Ready detector pSbm counts slot ready after p ptr)
      (isMarked : marked = markStart ready slot (ready.frameFifo.pFrames p) ptr)
      (before : detector.beforeNalu marked ptr marked.mDetectInfo.nCurStreamDataSize = some nBefore)
      (fits : (marked.curFrame slot).nCurNaluIdx ≤ MAX_NALU_NUM_IN_FRAME)
      (isBoundary : detector.boundary marked (ptr + nBefore)
        (detector.naluType (readByteIdx marked (ptr + nBefore) 0)) = boundary)
      (inside : boundary ≠ .newFrame) :
      Passes detector pSbm counts
        (recordNalu detector
          (begun boundary marked slot
            (detector.naluType (readByteIdx marked (ptr + nBefore) 0)))
          slot (ready.frameFifo.pFrames p) ptr nBefore (readByteIdx marked (ptr + nBefore) 0))
        .again after

variable {slot p : Nat} {next ready base : SbmFrame} {after : Counts} {ptr : Int}
  {outcome : Outcome} {result : Supply}

theorem dry_idle
    (supplies : Supplies detector.nReback (idled base slot) (counts.idled base) next result after)
    (nothing : result ≠ .supplied) : next.mDetectInfo.pCurStream = none := by
  cases supplies with
  | nothing dry | empty waiting here hollow => exact idled_idle slot
  | chunk waiting here bytes => exact absurd rfl nothing

theorem ready_kept
    (kept : SbmKept pSbm counts) (isReady : Ready detector pSbm counts slot ready after p ptr) :
    SbmKept ready after := by
  obtain ⟨base, claims, ⟨_, rfl, rfl⟩ | ⟨_, supplies⟩⟩ := isReady.from_base
  · exact claims_kept kept claims
  · exact supplies_kept (idled_kept (claims_kept kept claims) slot) (idled_idle slot) supplies

theorem idled_frame (base : SbmFrame) (slot : Nat) :
    (idled base slot).mDetectInfo.pCurFramePic = base.mDetectInfo.pCurFramePic := by
  unfold idled
  split_ifs <;> rfl

theorem supplies_frame {nReback : SbmFrame → VideoStreamDataInfo → Bool}
    (supplies : Supplies nReback base counts next result after) :
    next.mDetectInfo.pCurFramePic = base.mDetectInfo.pCurFramePic := by
  cases supplies with
  | nothing dry | empty waiting here hollow | chunk waiting here bytes => rfl

theorem ready_current (isReady : Ready detector pSbm counts slot ready after p ptr) :
    ready.mDetectInfo.pCurFramePic = some slot := by
  obtain ⟨base, claims, ⟨_, rfl, rfl⟩ | ⟨_, supplies⟩⟩ := isReady.from_base
  · exact claims_current claims
  · rw [supplies_frame supplies, idled_frame, claims_current claims]

theorem marked_ready (kept : SbmKept pSbm counts)
    (isReady : Ready detector pSbm counts slot ready after p ptr)
    (isMarked : marked = markStart ready slot (ready.frameFifo.pFrames p) ptr) :
    SbmKept marked after ∧ marked.mDetectInfo.pCurStream = some p ∧
      marked.mDetectInfo.pCurFramePic = some slot := by
  have detect : marked.mDetectInfo = ready.mDetectInfo := isMarked ▸ mark_start_detect _ _
  rw [detect]
  exact ⟨isMarked ▸ mark_start_kept (ready_kept kept isReady) _ _, isReady.stream,
    ready_current isReady⟩

theorem detect_nalu_spec (kept : SbmKept pSbm counts)
    (isReady : Ready detector pSbm counts slot ready after p ptr)
    (pass : detectNalu detector ready slot p ptr = some (next, outcome)) :
    ∃ final, Passes detector pSbm counts next outcome final := by
  have inRing : ¬ (ptr < ready.pStreamBuffer ∨ ready.pStreamBufferEnd < ptr) := by
    have bounds := isReady.inRing
    omega
  let marked := markStart ready slot (ready.frameFifo.pFrames p) ptr
  obtain ⟨markedKept, stream, current⟩ := marked_ready kept isReady (Eq.refl marked)
  have cursor : marked.mDetectInfo.pCurStreamDataptr = some ptr := by
    rw [show marked.mDetectInfo = ready.mDetectInfo from mark_start_detect _ _, isReady.cursor]
  have invalid : ∀ found, (disposeInvalidStreamData marked slot).map (fun pSbm => (pSbm, found)) =
        some (next, outcome) → found = .invalid →
      (detector.beforeNalu marked ptr marked.mDetectInfo.nCurStreamDataSize = none ∨
        (marked.curFrame slot).nCurNaluIdx > MAX_NALU_NUM_IN_FRAME) →
      ∃ final, Passes detector pSbm counts next outcome final := by
    rintro found disposal rfl bad
    obtain ⟨frame, givenUp, disposes, result⟩ := dispose_spec markedKept stream cursor current
    rw [result] at disposal
    obtain ⟨rfl, rfl⟩ := Prod.mk.inj (Option.some.inj disposal)
    exact ⟨_, .invalid isReady rfl bad disposes⟩
  unfold detectNalu at pass
  rw [if_neg inRing] at pass
  dsimp only at pass
  split at pass
  · next none_left => exact invalid _ pass rfl (.inl none_left)
  · next nBefore before =>
    split_ifs at pass with full
    · exact invalid _ pass rfl (.inr full)
    · have fits := Nat.le_of_not_lt full
      split at pass
      · next boundary =>
        change (emitFramePic marked slot).map _ = _ at pass
        rw [emit_frame_spec markedKept current] at pass
        obtain ⟨rfl, rfl⟩ := Prod.mk.inj (Option.some.inj pass)
        exact ⟨_, .frame isReady rfl before fits boundary⟩
      · next boundary =>
        have again := Passes.again isReady rfl before fits boundary (by decide)
        rw [begun_first] at again
        obtain ⟨rfl, rfl⟩ := Prod.mk.inj (Option.some.inj pass)
        exact ⟨_, again⟩
      · next boundary =>
        have again := Passes.again isReady rfl before fits boundary (by decide)
        rw [begun_same] at again
        obtain ⟨rfl, rfl⟩ := Prod.mk.inj (Option.some.inj pass)
        exact ⟨_, again⟩

theorem nalu_in_ring {result : SbmFrame × Outcome}
    (pass : detectNalu detector ready slot p ptr = some result) :
    ready.pStreamBuffer ≤ ptr ∧ ptr ≤ ready.pStreamBufferEnd := by
  by_contra outside
  rw [detectNalu, if_pos (by omega)] at pass
  simp at pass

variable (kept : SbmKept pSbm counts)

include kept

theorem detect_in_frame_spec (claims : Claims pSbm slot base)
    (pass : detectInFrame detector base slot = some (next, outcome)) :
    ∃ final, Passes detector pSbm counts next outcome final := by
  have baseKept := claims_kept kept claims
  unfold detectInFrame at pass
  dsimp only at pass
  change (if NeedsSupply base then supplyStreamData base detector.nReback slot
    else some (base, .supplied)).bind _ = _ at pass
  by_cases needs : NeedsSupply base
  · obtain ⟨supplied, result, after, supply, supplies⟩ :=
      supply_spec baseKept slot detector.nReback
    have suppliedKept := supplies_kept (idled_kept baseKept slot) (idled_idle slot) supplies
    have current : supplied.mDetectInfo.pCurFramePic = some slot := by
      rw [supplies_frame supplies, idled_frame, claims_current claims]
    have nothing : ∀ answer, result ≠ .supplied → dryOutcome result = answer →
        detectNothing supplied slot answer = some (next, outcome) →
        ∃ final, Passes detector pSbm counts next outcome final := by
      rintro answer notSupplied rfl dry
      unfold detectNothing at dry
      split_ifs at dry with ends
      · rw [emit_frame_spec suppliedKept current] at dry
        obtain ⟨rfl, rfl⟩ := Prod.mk.inj (Option.some.inj dry)
        exact ⟨_, .eosFrame claims needs supplies notSupplied ends⟩
      · obtain ⟨rfl, rfl⟩ := Prod.mk.inj (Option.some.inj dry)
        exact ⟨_, .dry claims needs supplies notSupplied ends⟩
    rw [if_pos needs, supply, bind_some] at pass
    cases result with
    | noStream | emptyStream => exact nothing _ (by decide) rfl pass
    | supplied =>
      obtain ⟨p, stream, pass⟩ := bind_eq_some_iff.mp pass
      obtain ⟨ptr, cursor, pass⟩ := bind_eq_some_iff.mp pass
      exact detect_nalu_spec kept
        ⟨⟨base, claims, .inr ⟨needs, supplies⟩⟩, stream, cursor, nalu_in_ring pass⟩ pass
  · rw [if_neg needs, bind_some] at pass
    obtain ⟨p, stream, pass⟩ := bind_eq_some_iff.mp pass
    obtain ⟨ptr, cursor, pass⟩ := bind_eq_some_iff.mp pass
    exact detect_nalu_spec kept
      ⟨⟨base, claims, .inl ⟨needs, rfl, rfl⟩⟩, stream, cursor, nalu_in_ring pass⟩ pass

theorem detect_pass_spec (pass : detectPass detector pSbm = some (next, outcome)) :
    ∃ final, Passes detector pSbm counts next outcome final := by
  unfold detectPass at pass
  split at pass
  · next slot here => exact detect_in_frame_spec kept (.current here) pass
  · next nothing =>
    split at pass
    · next full =>
      obtain ⟨rfl, rfl⟩ := Prod.mk.inj (Option.some.inj pass)
      exact ⟨_, .noFramePic nothing full⟩
    · next slot granted => exact detect_in_frame_spec kept (.fresh nothing granted) pass

theorem passes_kept (passes : Passes detector pSbm counts next outcome after) :
    SbmKept next after := by
  cases passes with
  | noFramePic nothing full => exact kept
  | dry claims needs supplies nothing goesOn =>
    exact supplies_kept (idled_kept (claims_kept kept claims) _) (idled_idle _) supplies
  | eosFrame claims needs supplies nothing ends =>
    have supplied := supplies_kept (idled_kept (claims_kept kept claims) _) (idled_idle _) supplies
    apply emitted_kept supplied
    rw [supplies_frame supplies, idled_frame, claims_current claims]
  | @invalid slot p ready marked after ptr frame givenUp isReady isMarked bad disposes =>
    obtain ⟨markedKept, stream, current⟩ := marked_ready kept isReady isMarked
    have disposedKept := @disposed_kept marked after slot p markedKept stream frame
    cases givenUp with
    | false => exact disposedKept
    | true => exact frame_joined_kept disposedKept current _
  | @frame slot p ready marked after ptr nBefore isReady isMarked before fits boundary =>
    obtain ⟨markedKept, _, current⟩ := marked_ready kept isReady isMarked
    exact emitted_kept markedKept current
  | @again slot p ready marked after ptr nBefore boundary isReady isMarked before fits isBoundary
      inside =>
      obtain ⟨markedKept, stream, _⟩ := marked_ready kept isReady isMarked
      apply record_kept _ _ _ _ _ (begun_kept markedKept _ _)
      rw [begun_detect]
      exact stream

end Pass

/-- What a pass reads and never writes. -/
structure Input where
  bytes : Int → UInt8
  pStreamBuffer : Int
  pStreamBufferEnd : Int
  nStreamBufferSize : Int
  pWriteAddr : Int
  nValidDataSize : Int
  pFrames : Nat → VideoStreamDataInfo
  nMaxFrameNum : Nat
  nMaxFramePicNum : Nat
  bStreamWithStartCode : Int
  nNaluLength : Nat
  nEosFlag : Int

def input (pSbm : SbmFrame) : Input :=
  { bytes := pSbm.bytes
    pStreamBuffer := pSbm.pStreamBuffer
    pStreamBufferEnd := pSbm.pStreamBufferEnd
    nStreamBufferSize := pSbm.nStreamBufferSize
    pWriteAddr := pSbm.pWriteAddr
    nValidDataSize := pSbm.nValidDataSize
    pFrames := pSbm.frameFifo.pFrames
    nMaxFrameNum := pSbm.frameFifo.nMaxFrameNum
    nMaxFramePicNum := pSbm.mFramePicFifo.nMaxFrameNum
    bStreamWithStartCode := pSbm.bStreamWithStartCode
    nNaluLength := pSbm.nNaluLength
    nEosFlag := pSbm.nEosFlag }

variable {detector : Detector} {pSbm : SbmFrame} {counts : Counts} {slot : Nat}
  {after : Counts} {next base ready : SbmFrame} {ptr : Int}
  {nReback : SbmFrame → VideoStreamDataInfo → Bool} {result : Supply} {outcome : Outcome}

theorem claims_input (claims : Claims pSbm slot base) : input base = input pSbm := by
  cases claims <;> rfl

theorem idled_input (base : SbmFrame) (slot : Nat) : input (idled base slot) = input base := by
  unfold idled
  split_ifs <;> rfl

theorem supplies_input (supplies : Supplies nReback base counts next result after) :
    input next = input base := by
  cases supplies <;> rfl

theorem ready_input {p : Nat}
    (isReady : Ready detector pSbm counts slot ready after p ptr) : input ready = input pSbm := by
  obtain ⟨base, claims, ⟨_, rfl, _⟩ | ⟨_, supplies⟩⟩ := isReady.from_base
  · exact claims_input claims
  · rw [supplies_input supplies, idled_input, claims_input claims]

theorem mark_start_input (pStream : VideoStreamDataInfo) (ptr : Int) :
    input (markStart pSbm slot pStream ptr) = input pSbm := by
  unfold markStart
  dsimp only
  split_ifs <;> rfl

theorem begun_input (boundary : Boundary) (nNaluType : Nat) :
    input (begun boundary pSbm slot nNaluType) = input pSbm := by
  unfold begun
  split_ifs <;> rfl

@[simp] theorem set_frame_input (frame : FramePicInfo) :
    input (pSbm.setFrame slot frame) = input pSbm := rfl

@[simp] theorem set_detect_input (pDetectInfo : DetectFramePicInfo) :
    input (pSbm.setDetect pDetectInfo) = input pSbm := rfl

theorem record_input (pStream : VideoStreamDataInfo) (ptr nBefore : Int) (naluHeader : UInt8) :
    input (recordNalu detector pSbm slot pStream ptr nBefore naluHeader) = input pSbm := by
  simp only [recordNalu, skipCurStreamDataBytes, storeNaluInfo, set_frame_input, set_detect_input]

/-- What a pass changes before it records: nothing but the mark of the first slice. -/
theorem begun_of_ready {marked : SbmFrame} {pStream : VideoStreamDataInfo}
    (isMarked : marked = markStart ready slot pStream ptr) (boundary : Boundary) (nNaluType : Nat) :
    input (begun boundary marked slot nNaluType) = input ready ∧
      (begun boundary marked slot nNaluType).mDetectInfo =
        { ready.mDetectInfo with
          bCurFrameStartCodeFound :=
            if boundary = .firstOfFrame then true
            else ready.mDetectInfo.bCurFrameStartCodeFound } := by
  constructor
  · rw [begun_input, isMarked, mark_start_input]
  · rw [begun_detect, isMarked, mark_start_detect]

theorem passes_input
    (passes : Passes detector pSbm counts next outcome after) : input next = input pSbm := by
  cases passes with
  | noFramePic nothing full => rfl
  | dry claims needs supplies nothing goesOn =>
    rw [supplies_input supplies, idled_input, claims_input claims]
  | @eosFrame slot base supplied result after claims needs supplies nothing ends =>
    change input supplied = _
    rw [supplies_input supplies, idled_input, claims_input claims]
  | @invalid slot p ready marked after ptr frame givenUp isReady isMarked bad disposes =>
    have same : input marked = input pSbm := by rw [isMarked, mark_start_input, ready_input isReady]
    cases givenUp <;> exact same
  | @frame slot p ready marked after ptr nBefore isReady isMarked before fits boundary =>
    change input marked = _
    rw [isMarked, mark_start_input, ready_input isReady]
  | @again slot p ready marked after ptr nBefore boundary isReady isMarked before fits isBoundary
      inside =>
      rw [record_input, begun_input, isMarked, mark_start_input, ready_input isReady]

structure CountsLater (counts after : Counts) : Prop where
  chunksFlushed : counts.chunksFlushed ≤ after.chunksFlushed
  chunksAdded : after.chunksAdded = counts.chunksAdded
  framesFlushed : after.framesFlushed = counts.framesFlushed
  framesDelivered : after.framesDelivered = counts.framesDelivered

theorem later_refl (counts : Counts) : CountsLater counts counts := ⟨Nat.le_refl _, rfl, rfl, rfl⟩

theorem later_idled (base : SbmFrame) : CountsLater counts (counts.idled base) := by
  unfold Counts.idled
  split_ifs
  · exact later_refl counts
  · exact ⟨Nat.le_succ _, rfl, rfl, rfl⟩

theorem later_supplies
    (supplies : Supplies nReback (idled base slot) (counts.idled base) next result after) :
    CountsLater counts after := by
  have idle := @later_idled counts base
  cases supplies with
  | nothing dry | chunk waiting here bytes => exact idle
  | empty waiting here hollow =>
    exact ⟨Nat.le_succ_of_le idle.chunksFlushed, idle.chunksAdded, idle.framesFlushed,
      idle.framesDelivered⟩

theorem later_ready {p : Nat}
    (isReady : Ready detector pSbm counts slot ready after p ptr) : CountsLater counts after := by
  obtain ⟨base, claims, ⟨_, _, rfl⟩ | ⟨_, supplies⟩⟩ := isReady.from_base
  · exact later_refl _
  · exact later_supplies supplies

theorem passes_later
    (passes : Passes detector pSbm counts next outcome after) : CountsLater counts after := by
  cases passes with
  | noFramePic nothing full => exact later_refl counts
  | dry claims needs supplies nothing goesOn => exact later_supplies supplies
  | eosFrame claims needs supplies nothing ends =>
    have later := later_supplies supplies
    exact ⟨later.chunksFlushed, later.chunksAdded, later.framesFlushed, later.framesDelivered⟩
  | @invalid slot p ready marked after ptr frame givenUp isReady isMarked bad disposes =>
    have later := later_ready isReady
    cases givenUp <;>
      exact ⟨Nat.le_succ_of_le later.chunksFlushed, later.chunksAdded, later.framesFlushed,
        later.framesDelivered⟩
  | frame isReady isMarked before fits boundary =>
    have later := later_ready isReady
    exact ⟨later.chunksFlushed, later.chunksAdded, later.framesFlushed, later.framesDelivered⟩
  | again isReady isMarked before fits isBoundary inside => exact later_ready isReady

end CedarC.SbmFrameSteps
