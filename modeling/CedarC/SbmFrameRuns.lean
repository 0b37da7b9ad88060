import CedarC.SbmFrameSteps

/-!
# Runs of the frame manager

The manager with its four users: the application writes the ring, adds chunks
and signals the end of the stream, the detector thread takes one pass after
another, and the decoder requests, returns and flushes frame pictures. The
history keeps every pass that the detector has taken.
-/

namespace CedarC.SbmFrameRuns

open CyclicBuffer FixedWidth GuardedRuns SbmFrameModel SbmFrameDetect
open CedarC.SbmFrameFifo (CursorsKept init_cursors store_cursors advance_read_spec
  advance_flush_spec advance_write_spec request_some request_none flush_oldest full_iff
  give_back_spec)
open SbmFrameSteps

/-- A pass of the detector, from one state to the next. -/
structure PassTaken where
  before : SbmFrame
  after : SbmFrame
  outcome : Outcome

structure SbmSystem where
  pSbm : SbmFrame
  held : List Nat
  history : List PassTaken

inductive SbmOp
  | write (bytes : Int → UInt8)
  | addStream (pDataInfo : VideoStreamDataInfo)
  | detect
  | requestFramePic
  | returnFramePic (pFramePic : Nat)
  | flushFramePic (pFramePic : Nat)
  | setEos (nEosFlag : Int)

def SbmSystem.start (pSbm : SbmFrame) : SbmSystem := ⟨pSbm, [], []⟩

def exec (codec : Codec) (system : SbmSystem) : SbmOp → Option SbmSystem
  | .write bytes => some { system with pSbm := { system.pSbm with bytes := bytes } }
  | .addStream pDataInfo =>
    some { system with pSbm := (sbmFrameAddStream system.pSbm pDataInfo).1 }
  | .detect =>
    if system.pSbm.bStreamWithStartCode = -1 then
      (checkBitStreamTypeOf codec system.pSbm).map fun pSbm => { system with pSbm := pSbm }
    else
      (detectPass (detectorOf codec system.pSbm) system.pSbm).map fun (pSbm, outcome) =>
        { system with
          pSbm := pSbm
          history := system.history ++ [⟨system.pSbm, pSbm, outcome⟩] }
  | .requestFramePic =>
    match sbmFrameRequestFramePic system.pSbm with
    | (pSbm, none) => some { system with pSbm := pSbm }
    | (pSbm, some p) => some { system with pSbm := pSbm, held := system.held ++ [p] }
  | .returnFramePic pFramePic =>
    (sbmFrameReturnFramePic system.pSbm pFramePic).map fun (pSbm, result) =>
      { system with
        pSbm := pSbm
        held := if result = 0 then system.held.dropLast else system.held }
  | .flushFramePic pFramePic =>
    (sbmFrameFlushFramePic system.pSbm pFramePic).map fun (pSbm, result) =>
      { system with
        pSbm := pSbm
        held := if result = 0 then system.held.tail else system.held }
  | .setEos nEosFlag => some { system with pSbm := sbmFrameSetEos system.pSbm nEosFlag }

/-- A chunk lies in the ring, where the request for its bytes put it. -/
def ChunkInRing (pSbm : SbmFrame) (pDataInfo : VideoStreamDataInfo) : Prop :=
  0 ≤ pDataInfo.nLength ∧ pDataInfo.nLength ≤ pSbm.nStreamBufferSize ∧
    pSbm.pStreamBuffer ≤ pDataInfo.pData ∧ pDataInfo.pData ≤ pSbm.pStreamBufferEnd
deriving Decidable

def Legal (system : SbmSystem) : SbmOp → Prop
  | .addStream pDataInfo => ChunkInRing system.pSbm pDataInfo
  | .returnFramePic pFramePic => system.held.getLast? = some pFramePic
  | .flushFramePic pFramePic => system.held.head? = some pFramePic
  | _ => True

instance (system : SbmSystem) : ∀ op, Decidable (Legal system op)
  | .write _ => isTrue trivial
  | .addStream pDataInfo => inferInstanceAs (Decidable (ChunkInRing system.pSbm pDataInfo))
  | .detect | .requestFramePic => isTrue trivial
  | .returnFramePic pFramePic =>
    inferInstanceAs (Decidable (system.held.getLast? = some pFramePic))
  | .flushFramePic pFramePic => inferInstanceAs (Decidable (system.held.head? = some pFramePic))
  | .setEos _ => isTrue trivial

/-- More than the 32 MB that the decoder asks for at most. -/
def RING_LIMIT : Int := 2 ^ 29

/-- The ring is one block of the size asked for, and a prefix fits a word. -/
structure RingShape (pSbm : SbmFrame) : Prop where
  size : 0 < pSbm.nStreamBufferSize
  limit : pSbm.nStreamBufferSize ≤ RING_LIMIT
  last : pSbm.pStreamBufferEnd = pSbm.pStreamBuffer + pSbm.nStreamBufferSize - 1
  prefixBytes : pSbm.nNaluLength ≤ 4

structure RunKept (system : SbmSystem) (counts : Counts) : Prop where
  sbm : SbmKept system.pSbm counts
  shape : RingShape system.pSbm
  held : system.held = window id system.pSbm.mFramePicFifo.nMaxFrameNum counts.framesFlushed
    (counts.framesDelivered - counts.framesFlushed)
  untyped : system.pSbm.bStreamWithStartCode = -1 →
    system.pSbm.mDetectInfo.pCurStream = none ∧ system.pSbm.mDetectInfo.pCurFramePic = none
  inRing : ∀ i, counts.chunksFlushed ≤ i → i < counts.chunksAdded →
    ChunkInRing system.pSbm (system.pSbm.frameFifo.pFrames (i % system.pSbm.frameFifo.nMaxFrameNum))

section TypeCheck

variable {withStartCode withoutStartCode : SbmFrame → VideoStreamDataInfo → Bool}
  {pSbm : SbmFrame} {counts : Counts}

/-- A chunk that tells nothing of the stream leaves with its bytes. -/
def typeDropped (pSbm : SbmFrame) (p : Nat) : SbmFrame :=
  { pSbm with
    frameFifo := pSbm.frameFifo.advanceRead.advanceFlush
    nValidDataSize := s32 (pSbm.nValidDataSize - (pSbm.frameFifo.pFrames p).nLength) }

def chunkRead (pSbm : SbmFrame) : SbmFrame := { pSbm with frameFifo := pSbm.frameFifo.advanceRead }

def typeOf (withStartCode withoutStartCode : SbmFrame → VideoStreamDataInfo → Bool)
    (pSbm : SbmFrame) (p : Nat) : Int :=
  streamTypeOf (withStartCode (chunkRead pSbm) (pSbm.frameFifo.pFrames p))
    (withoutStartCode (chunkRead pSbm) (pSbm.frameFifo.pFrames p))

/-- What the loop of the type check does to the manager. -/
inductive TypeChecks (withStartCode withoutStartCode : SbmFrame → VideoStreamDataInfo → Bool) :
    SbmFrame → Counts → SbmFrame → Counts → Prop
  | stop (pSbm : SbmFrame) (counts : Counts) :
      TypeChecks withStartCode withoutStartCode pSbm counts pSbm counts
  | found {pSbm : SbmFrame} {counts : Counts} {p : Nat}
      (waiting : counts.chunksFlushed < counts.chunksAdded)
      (oldest : p = counts.chunksFlushed % pSbm.frameFifo.nMaxFrameNum)
      (known : typeOf withStartCode withoutStartCode pSbm p ≠ -1) :
      TypeChecks withStartCode withoutStartCode pSbm counts
        { pSbm with bStreamWithStartCode := typeOf withStartCode withoutStartCode pSbm p } counts
  | drop {pSbm next : SbmFrame} {counts after : Counts} {p : Nat}
      (waiting : counts.chunksFlushed < counts.chunksAdded)
      (oldest : p = counts.chunksFlushed % pSbm.frameFifo.nMaxFrameNum)
      (useless : (pSbm.frameFifo.pFrames p).nLength = 0 ∨ (pSbm.frameFifo.pFrames p).pData = 0 ∨
        typeOf withStartCode withoutStartCode pSbm p = -1)
      (later : TypeChecks withStartCode withoutStartCode (typeDropped pSbm p) counts.chunkDone
        next after) :
      TypeChecks withStartCode withoutStartCode pSbm counts next after

theorem read_given_back {Frame : Type} {fifo : FrameFifo Frame} {flushed delivered added : Nat}
    (kept : CursorsKept fifo flushed delivered added) (waiting : delivered < added) :
    fifo.advanceRead.giveBack (delivered % fifo.nMaxFrameNum) = some (fifo, 0) := by
  have ordered := kept.flushedDelivered
  have valid := kept.valid
  have unRead := kept.unRead
  have readPos := kept.readPos
  have some_valid : fifo.advanceRead.nValidFrameNum ≠ 0 := by
    change fifo.nValidFrameNum ≠ 0
    omega
  have previous := cursor_previous delivered kept.capacity
  have read : fifo.advanceRead.nReadPos = (delivered + 1) % fifo.nMaxFrameNum :=
    (advance_read_spec kept waiting).readPos
  rw [← read] at previous
  change (if fifo.advanceRead.nReadPos = 0 then fifo.advanceRead.nMaxFrameNum - 1
    else fifo.advanceRead.nReadPos - 1) = _ at previous
  unfold FrameFifo.giveBack
  rw [if_neg some_valid]
  dsimp only
  rw [previous, if_neg (by simp)]
  have count : fifo.nUnReadFrameNum - 1 + 1 = fifo.nUnReadFrameNum := by omega
  simp only [FrameFifo.advanceRead, count, ← readPos]

theorem type_dropped_kept (kept : SbmKept pSbm counts) (idle : pSbm.mDetectInfo.pCurStream = none)
    (waiting : counts.chunksFlushed < counts.chunksAdded) (p : Nat) :
    SbmKept (typeDropped pSbm p) counts.chunkDone := by
  have chunks := kept.chunks
  rw [under_detection_none idle, Nat.add_zero] at chunks
  exact
  { kept with
    chunks := by
      have still : underDetection (typeDropped pSbm p) = 0 := under_detection_none idle
      rw [still]
      exact advance_flush_spec (advance_read_spec chunks waiting) (Nat.lt_succ_self _)
    stream := by
      intro q busy
      rw [show (typeDropped pSbm p).mDetectInfo.pCurStream = none from idle] at busy
      simp at busy }

theorem type_check_spec (count : Nat) (kept : SbmKept pSbm counts)
    (idle : pSbm.mDetectInfo.pCurStream = none) (untyped : pSbm.bStreamWithStartCode = -1) :
    ∃ next after, checkBitStreamType withStartCode withoutStartCode count pSbm = some next ∧
      TypeChecks withStartCode withoutStartCode pSbm counts next after := by
  induction count generalizing pSbm counts with
  | zero => exact ⟨pSbm, counts, rfl, .stop pSbm counts⟩
  | succ count ih =>
    have chunks := kept.chunks
    rw [under_detection_none idle, Nat.add_zero] at chunks
    have inside := chunks.deliveredAdded
    by_cases dry : counts.chunksFlushed = counts.chunksAdded
    · refine ⟨pSbm, counts, ?_, .stop pSbm counts⟩
      simp [checkBitStreamType, requestStream, request_none chunks dry]
    · have waiting : counts.chunksFlushed < counts.chunksAdded := by omega
      let p := counts.chunksFlushed % pSbm.frameFifo.nMaxFrameNum
      have request : requestStream pSbm = (chunkRead pSbm, some p) := by
        simp only [requestStream, request_some chunks waiting]
        rfl
      have flush : flushStream (chunkRead pSbm) p true = some (typeDropped pSbm p, 0) := by
        have oldest := flush_oldest (advance_read_spec chunks waiting) (Nat.lt_succ_self _)
        change pSbm.frameFifo.advanceRead.flush p = _ at oldest
        unfold flushStream
        change (pSbm.frameFifo.advanceRead.flush p).map _ = _
        rw [oldest]
        rfl
      have same : { chunkRead pSbm with bStreamWithStartCode := -1 } = chunkRead pSbm := by
        rw [← untyped]
        rfl
      obtain ⟨next, after, checked, later⟩ :=
        ih (type_dropped_kept kept idle waiting p) idle untyped
      unfold checkBitStreamType
      rw [request]
      dsimp only
      split_ifs with empty unknown
      · rw [flush, Option.bind_some]
        have useless :=
          empty.imp_right (@Or.inl _ (typeOf withStartCode withoutStartCode pSbm p = -1))
        exact ⟨next, after, checked, .drop waiting rfl useless later⟩
      · rw [unknown, same, flush, Option.bind_some]
        exact ⟨next, after, checked, .drop waiting rfl (.inr (.inr unknown)) later⟩
      · have back := read_given_back chunks waiting
        refine ⟨_, counts, ?_, .found waiting rfl unknown⟩
        unfold returnStream
        change ((pSbm.frameFifo.advanceRead.giveBack p).map _).map _ = _
        rw [back]
        rfl

end TypeCheck

section Kept

variable {codec : Codec} {system : SbmSystem} {counts : Counts}
  {next before : SbmFrame} {after : Counts}

theorem shape_of_input {after : SbmFrame} (same : input after = input before)
    (shape : RingShape before) : RingShape after := by
  have size : after.nStreamBufferSize = before.nStreamBufferSize :=
    congrArg Input.nStreamBufferSize same
  have first : after.pStreamBuffer = before.pStreamBuffer := congrArg Input.pStreamBuffer same
  have last : after.pStreamBufferEnd = before.pStreamBufferEnd :=
    congrArg Input.pStreamBufferEnd same
  have bytes : after.nNaluLength = before.nNaluLength := congrArg Input.nNaluLength same
  exact
  { size := size ▸ shape.size
    limit := size ▸ shape.limit
    last := by rw [last, first, size, shape.last]
    prefixBytes := bytes ▸ shape.prefixBytes }

theorem chunk_of_input {after : SbmFrame} (same : input after = input before)
    {pDataInfo : VideoStreamDataInfo} (inRing : ChunkInRing before pDataInfo) :
    ChunkInRing after pDataInfo := by
  have size : after.nStreamBufferSize = before.nStreamBufferSize :=
    congrArg Input.nStreamBufferSize same
  have first : after.pStreamBuffer = before.pStreamBuffer := congrArg Input.pStreamBuffer same
  have last : after.pStreamBufferEnd = before.pStreamBufferEnd :=
    congrArg Input.pStreamBufferEnd same
  unfold ChunkInRing at inRing ⊢
  rwa [size, first, last]

theorem start_kept {pSbm : SbmFrame} {nSbmBufferTotalSize pSbmBuf : Int} {nNaluLength : Nat}
    {bytes : Int → UInt8} (limit : nSbmBufferTotalSize ≤ RING_LIMIT) (prefixBytes : nNaluLength ≤ 4)
    (init : sbmFrameInit nSbmBufferTotalSize nNaluLength pSbmBuf bytes = some pSbm) :
    RunKept (SbmSystem.start pSbm) ⟨0, 0, 0, 0, 0⟩ := by
  unfold sbmFrameInit at init
  split_ifs at init with empty failed
  obtain rfl := Option.some.inj init
  exact
  { sbm :=
    { chunks := init_cursors _ (by decide)
      frames := init_cursors _ (by decide)
      stream := by
        intro p here
        simp [SbmSystem.start] at here
      slot := by
        intro p here
        simp [SbmSystem.start] at here
      idle := fun _ => ⟨rfl, rfl⟩
      busy := by
        intro some_left
        exact absurd rfl some_left }
    shape :=
    { size := by
        change 0 < nSbmBufferTotalSize
        omega
      limit := limit
      last := rfl
      prefixBytes := prefixBytes }
    held := rfl
    untyped := fun _ => ⟨rfl, rfl⟩
    inRing := by
      intro i _ below
      simp at below }

variable (history : List PassTaken)

include history

theorem detected_kept
    (kept : RunKept system counts) (sbm : SbmKept next after) (later : CountsLater counts after)
    (shape : RingShape next)
    (frames : next.mFramePicFifo.nMaxFrameNum = system.pSbm.mFramePicFifo.nMaxFrameNum)
    (pFrames : next.frameFifo.pFrames = system.pSbm.frameFifo.pFrames)
    (chunks : next.frameFifo.nMaxFrameNum = system.pSbm.frameFifo.nMaxFrameNum)
    (inRing : ∀ pDataInfo, ChunkInRing system.pSbm pDataInfo → ChunkInRing next pDataInfo)
    (untyped : next.bStreamWithStartCode = -1 →
      next.mDetectInfo.pCurStream = none ∧ next.mDetectInfo.pCurFramePic = none) :
    RunKept ⟨next, system.held, history⟩ after :=
  { sbm := sbm
    shape := shape
    held := by
      rw [later.framesFlushed, later.framesDelivered]
      change system.held = window id next.mFramePicFifo.nMaxFrameNum _ _
      rw [frames, kept.held]
    untyped := untyped
    inRing := by
      intro i low high
      change ChunkInRing next (next.frameFifo.pFrames (i % next.frameFifo.nMaxFrameNum))
      rw [pFrames, chunks]
      exact inRing _ (kept.inRing i (Nat.le_trans later.chunksFlushed low)
        (later.chunksAdded ▸ high)) }

theorem pass_kept {outcome : Outcome} {detector : Detector} (kept : RunKept system counts)
    (typed : system.pSbm.bStreamWithStartCode ≠ -1)
    (passes : Passes detector system.pSbm counts next outcome after) :
    RunKept ⟨next, system.held, history⟩ after := by
  have same := passes_input passes
  refine detected_kept history kept (passes_kept kept.sbm passes)
    (passes_later passes) (shape_of_input same kept.shape) (congrArg Input.nMaxFramePicNum same)
    (congrArg Input.pFrames same) (congrArg Input.nMaxFrameNum same)
    (fun _ => chunk_of_input same) ?_
  intro untyped
  exact absurd ((congrArg Input.bStreamWithStartCode same).symm.trans untyped) typed

/-- What a type check keeps, from the chunk it drops to the one it leaves. -/
theorem type_checks_kept {withStartCode withoutStartCode : SbmFrame → VideoStreamDataInfo → Bool}
    {pSbm : SbmFrame} (checks : TypeChecks withStartCode withoutStartCode pSbm counts next after)
    (held : List Nat) (kept : RunKept ⟨pSbm, held, history⟩ counts)
    (untyped : pSbm.bStreamWithStartCode = -1) : RunKept ⟨next, held, history⟩ after := by
  induction checks with
  | stop pSbm counts => exact kept
  | @found pSbm counts p waiting oldest known =>
    have idle := kept.untyped untyped
    exact
    { sbm := { kept.sbm with }
      shape := { kept.shape with }
      held := kept.held
      untyped := fun _ => idle
      inRing := kept.inRing }
  | @drop pSbm next counts after p waiting oldest useless later ih =>
    have idle := kept.untyped untyped
    refine ih ?_ untyped
    exact detected_kept history kept (type_dropped_kept kept.sbm idle.1 waiting p)
      ⟨Nat.le_succ _, rfl, rfl, rfl⟩
      { kept.shape with }
      rfl rfl rfl (fun _ inRing => inRing) (fun _ => idle)

end Kept

section Consumer

variable {codec : Codec} {system : SbmSystem} {counts : Counts}

/-- The accepted chunk with its mark, in the free entry of the FIFO. -/
def chunkJoined (pSbm : SbmFrame) (pDataInfo : VideoStreamDataInfo) (pWriteAddr : Int) : SbmFrame :=
  { pSbm with
    frameFifo := (pSbm.frameFifo.store pSbm.frameFifo.nWritePos pDataInfo).advanceWrite
    nValidDataSize := s32 (pSbm.nValidDataSize + pDataInfo.nLength)
    pWriteAddr := pWriteAddr }

theorem add_stream_spec (pSbm : SbmFrame) (pDataInfo : VideoStreamDataInfo) :
    (sbmFrameAddStream pSbm pDataInfo).1 = pSbm ∨
      ∃ marked pWriteAddr, marked.pData = pDataInfo.pData ∧ marked.nLength = pDataInfo.nLength ∧
        ¬ pSbm.frameFifo.nMaxFrameNum ≤ pSbm.frameFifo.nValidFrameNum ∧
        (sbmFrameAddStream pSbm pDataInfo).1 = chunkJoined pSbm marked pWriteAddr := by
  unfold sbmFrameAddStream
  split_ifs with noData full tooLong unmarked
  · exact .inl rfl
  · exact .inl rfl
  · exact .inl rfl
  · exact .inr ⟨{ pDataInfo with bValid := 1 }, _, rfl, rfl, full, rfl⟩
  · exact .inr ⟨pDataInfo, _, rfl, rfl, full, rfl⟩

theorem chunk_joined_kept (kept : RunKept system counts) {pDataInfo : VideoStreamDataInfo}
    (legal : ChunkInRing system.pSbm pDataInfo) (pWriteAddr : Int)
    (free : ¬ system.pSbm.frameFifo.nMaxFrameNum ≤ system.pSbm.frameFifo.nValidFrameNum) :
    RunKept { system with pSbm := chunkJoined system.pSbm pDataInfo pWriteAddr }
      counts.chunkAdded := by
  have chunks := kept.sbm.chunks
  have room : counts.chunksAdded < counts.chunksFlushed + system.pSbm.frameFifo.nMaxFrameNum := by
    have atMost := chunks.room
    have notFull := (not_congr (full_iff chunks)).mp free
    omega
  have writePos := chunks.writePos
  exact
  { sbm :=
    { kept.sbm with
      chunks := advance_write_spec (store_cursors chunks _ _) room }
    shape := { kept.shape with }
    held := kept.held
    untyped := kept.untyped
    inRing := by
      intro i low high
      change ChunkInRing system.pSbm (Function.update system.pSbm.frameFifo.pFrames
        system.pSbm.frameFifo.nWritePos pDataInfo (i % system.pSbm.frameFifo.nMaxFrameNum))
      rw [writePos]
      by_cases newest : i = counts.chunksAdded
      · subst newest
        rw [Function.update_self]
        exact legal
      · have older : i < counts.chunksAdded := by
          change i < counts.chunksAdded + 1 at high
          omega
        have first : counts.chunksFlushed ≤ i := low
        rw [Function.update_of_ne (slots_differ older (by omega))]
        exact kept.inRing i first older }

theorem consumer_kept {after : Counts} {fifo : FrameFifo FramePicInfo} {nValidDataSize : Int}
    {held : List Nat} (kept : RunKept system counts)
    (cursors : CursorsKept fifo after.framesFlushed after.framesDelivered counts.framesAdded)
    (capacity : fifo.nMaxFrameNum = system.pSbm.mFramePicFifo.nMaxFrameNum)
    (oldest : counts.framesFlushed ≤ after.framesFlushed) (same : after = { counts with
      framesFlushed := after.framesFlushed, framesDelivered := after.framesDelivered })
    (holds : held = window id system.pSbm.mFramePicFifo.nMaxFrameNum after.framesFlushed
      (after.framesDelivered - after.framesFlushed)) :
    RunKept ⟨{ system.pSbm with mFramePicFifo := fifo, nValidDataSize := nValidDataSize },
      held, system.history⟩ after := by
  rw [same]
  exact
  { sbm :=
    { kept.sbm with
      frames := cursors
      slot := by
        intro p here
        have before := kept.sbm.slot p here
        change p = counts.framesAdded % fifo.nMaxFrameNum ∧
          counts.framesAdded < after.framesFlushed + fifo.nMaxFrameNum
        rw [capacity]
        exact ⟨before.1, by omega⟩ }
    shape := { kept.shape with }
    held := by
      change held = window id fifo.nMaxFrameNum _ _
      rw [capacity, holds]
    untyped := kept.untyped
    inRing := kept.inRing }

end Consumer

variable {codec : Codec} {system next : SbmSystem} {counts after : Counts} {op : SbmOp}

def startCodeCheck : Codec → SbmFrame → VideoStreamDataInfo → Bool
  | .avc => avcCheckBitStreamTypeWithStartCode
  | .hevc => hevcCheckBitStreamTypeWithStartCode

def lengthCheck : Codec → SbmFrame → VideoStreamDataInfo → Bool
  | .avc => avcCheckBitStreamTypeWithoutStartCode
  | .hevc => hevcCheckBitStreamTypeWithoutStartCode

theorem check_of_codec (pSbm : SbmFrame) : checkBitStreamTypeOf codec pSbm =
    checkBitStreamType (startCodeCheck codec) (lengthCheck codec) CHECK_LIMIT pSbm := by
  cases codec <;> rfl

inductive Steps (codec : Codec) (system : SbmSystem) (counts : Counts) :
    SbmOp → SbmSystem → Counts → Prop
  | write (bytes : Int → UInt8) :
      Steps codec system counts (.write bytes)
        { system with pSbm := { system.pSbm with bytes := bytes } } counts
  | setEos (nEosFlag : Int) :
      Steps codec system counts (.setEos nEosFlag)
        { system with pSbm := sbmFrameSetEos system.pSbm nEosFlag } counts
  | refused (pDataInfo : VideoStreamDataInfo) :
      Steps codec system counts (.addStream pDataInfo) system counts
  | added (pDataInfo marked : VideoStreamDataInfo) (pWriteAddr : Int)
      (legal : ChunkInRing system.pSbm marked) (size : marked.nLength = pDataInfo.nLength)
      (free : ¬ system.pSbm.frameFifo.nMaxFrameNum ≤ system.pSbm.frameFifo.nValidFrameNum) :
      Steps codec system counts (.addStream pDataInfo)
        { system with pSbm := chunkJoined system.pSbm marked pWriteAddr } counts.chunkAdded
  | checked {pSbm : SbmFrame} {after : Counts}
      (untyped : system.pSbm.bStreamWithStartCode = -1)
      (checks : TypeChecks (startCodeCheck codec) (lengthCheck codec) system.pSbm counts
        pSbm after) :
      Steps codec system counts .detect { system with pSbm := pSbm } after
  | passed {pSbm : SbmFrame} {outcome : Outcome} {after : Counts}
      (typed : system.pSbm.bStreamWithStartCode ≠ -1)
      (pass : detectPass (detectorOf codec system.pSbm) system.pSbm = some (pSbm, outcome))
      (passes : Passes (detectorOf codec system.pSbm) system.pSbm counts pSbm outcome after) :
      Steps codec system counts .detect
        { system with
          pSbm := pSbm
          history := system.history ++ [⟨system.pSbm, pSbm, outcome⟩] } after
  | nothing (none_left : counts.framesDelivered = counts.framesAdded) :
      Steps codec system counts .requestFramePic system counts
  | delivered {p : Nat} (waiting : counts.framesDelivered < counts.framesAdded)
      (oldest : p = counts.framesDelivered % system.pSbm.mFramePicFifo.nMaxFrameNum) :
      Steps codec system counts .requestFramePic
        { system with
          pSbm := { system.pSbm with mFramePicFifo := system.pSbm.mFramePicFifo.advanceRead }
          held := system.held ++ [p] } (counts.delivered (counts.framesDelivered + 1))
  | returned {p nReadPos nUnReadFrameNum framesDelivered : Nat}
      (position : counts.framesDelivered = framesDelivered + 1)
      (cursors : CursorsKept { system.pSbm.mFramePicFifo with
        nReadPos := nReadPos, nUnReadFrameNum := nUnReadFrameNum } counts.framesFlushed
        framesDelivered counts.framesAdded)
      (held : system.held.dropLast = window id system.pSbm.mFramePicFifo.nMaxFrameNum
        counts.framesFlushed (framesDelivered - counts.framesFlushed)) :
      Steps codec system counts (.returnFramePic p)
        { system with
          pSbm :=
            { system.pSbm with
              mFramePicFifo :=
                { system.pSbm.mFramePicFifo with
                  nReadPos := nReadPos, nUnReadFrameNum := nUnReadFrameNum } }
          held := system.held.dropLast } (counts.delivered framesDelivered)
  | flushed {p : Nat} (read : counts.framesFlushed < counts.framesDelivered)
      (oldest : p = counts.framesFlushed % system.pSbm.mFramePicFifo.nMaxFrameNum)
      (held : system.held.tail = window id system.pSbm.mFramePicFifo.nMaxFrameNum
        (counts.framesFlushed + 1) (counts.framesDelivered - (counts.framesFlushed + 1))) :
      Steps codec system counts (.flushFramePic p)
        { system with
          pSbm :=
            { system.pSbm with
              mFramePicFifo := system.pSbm.mFramePicFifo.advanceFlush
              nValidDataSize := s32 (system.pSbm.nValidDataSize - (system.pSbm.curFrame p).nlength) }
          held := system.held.tail } counts.frameFlushed

theorem request_steps (kept : RunKept system counts) :
    ∃ next after, exec codec system .requestFramePic = some next ∧
      Steps codec system counts .requestFramePic next after := by
  have frames := kept.sbm.frames
  have inside := frames.deliveredAdded
  by_cases empty : counts.framesDelivered = counts.framesAdded
  · refine ⟨_, _, ?_, .nothing empty⟩
    simp only [exec, sbmFrameRequestFramePic, request_none frames empty]
  · have waiting : counts.framesDelivered < counts.framesAdded := by omega
    refine ⟨_, _, ?_, .delivered waiting rfl⟩
    simp only [exec, sbmFrameRequestFramePic, request_some frames waiting]

theorem return_steps (kept : RunKept system counts) {p : Nat}
    (newest : system.held.getLast? = some p) :
    ∃ next after, exec codec system (.returnFramePic p) = some next ∧
      Steps codec system counts (.returnFramePic p) next after := by
  have frames := kept.sbm.frames
  have ordered := frames.flushedDelivered
  have valid := frames.valid
  have inside := frames.deliveredAdded
  rw [kept.held] at newest
  obtain ⟨count, size, rfl, shorter⟩ := SbmFrameFifo.window_last newest
  have position : counts.framesDelivered = counts.framesFlushed + count + 1 := by omega
  rw [position] at frames
  obtain ⟨fifo, giveBack, cursors, pFrames, capacity⟩ := give_back_spec frames (by omega)
  have some_valid : system.pSbm.mFramePicFifo.nValidFrameNum ≠ 0 := by omega
  have shape := giveBack
  unfold FrameFifo.giveBack at shape
  rw [if_neg some_valid] at shape
  dsimp only at shape
  split_ifs at shape with first other other
  all_goals
    obtain ⟨rfl, -⟩ := Prod.mk.inj (Option.some.inj shape)
    refine ⟨_, _, ?_, .returned position cursors ?_⟩
    · simp [exec, sbmFrameReturnFramePic, giveBack]
    · rw [kept.held, shorter, show counts.framesFlushed + count - counts.framesFlushed = count by
        omega]

theorem flush_steps (kept : RunKept system counts) {p : Nat} (oldest : system.held.head? = some p) :
    ∃ next after, exec codec system (.flushFramePic p) = some next ∧
      Steps codec system counts (.flushFramePic p) next after := by
  rw [kept.held] at oldest
  obtain ⟨count, size, rfl, shorter⟩ := SbmFrameFifo.window_head oldest
  have read : counts.framesFlushed < counts.framesDelivered := by omega
  have flush := flush_oldest kept.sbm.frames read
  refine ⟨_, _, ?_, .flushed read rfl ?_⟩
  · simp [exec, sbmFrameFlushFramePic, flush, SbmFrame.curFrame]
  · rw [kept.held, shorter, show counts.framesDelivered - (counts.framesFlushed + 1) = count by
      omega]

theorem exec_steps (kept : RunKept system counts) (legal : Legal system op)
    (step : exec codec system op = some next) : ∃ after, Steps codec system counts op next after := by
  have unique : (∃ next after, exec codec system op = some next ∧
      Steps codec system counts op next after) → ∃ after, Steps codec system counts op next after := by
    rintro ⟨other, after, same, steps⟩
    obtain rfl : other = next := Option.some.inj (same.symm.trans step)
    exact ⟨after, steps⟩
  cases op with
  | write bytes => exact unique ⟨_, _, rfl, .write bytes⟩
  | setEos nEosFlag => exact unique ⟨_, _, rfl, .setEos nEosFlag⟩
  | addStream pDataInfo =>
    obtain refused | ⟨marked, pWriteAddr, place, size, free, added⟩ :=
      add_stream_spec system.pSbm pDataInfo
    · refine unique ⟨system, counts, ?_, .refused pDataInfo⟩
      simp only [exec, refused]
    · have inRing : ChunkInRing system.pSbm marked := by
        unfold ChunkInRing
        rw [place, size]
        exact legal
      refine unique ⟨_, _, ?_, .added pDataInfo marked pWriteAddr inRing size free⟩
      simp only [exec, added]
  | detect =>
    unfold exec at step
    split_ifs at step with untyped
    · obtain ⟨pSbm, check, rfl⟩ := Option.map_eq_some_iff.mp step
      rw [check_of_codec] at check
      obtain ⟨found, after, checked, checks⟩ :=
        @type_check_spec (startCodeCheck codec) (lengthCheck codec) system.pSbm counts CHECK_LIMIT
          kept.sbm (kept.untyped untyped).1 untyped
      obtain rfl : found = pSbm := Option.some.inj (checked.symm.trans check)
      exact ⟨after, .checked untyped checks⟩
    · obtain ⟨⟨pSbm, outcome⟩, pass, rfl⟩ := Option.map_eq_some_iff.mp step
      obtain ⟨after, passes⟩ := detect_pass_spec kept.sbm pass
      exact ⟨after, .passed untyped pass passes⟩
  | requestFramePic => exact unique (request_steps kept)
  | returnFramePic pFramePic => exact unique (return_steps kept legal)
  | flushFramePic pFramePic => exact unique (flush_steps kept legal)

theorem joined_elsewhere (kept : RunKept system counts)
    (free : ¬ system.pSbm.frameFifo.nMaxFrameNum ≤ system.pSbm.frameFifo.nValidFrameNum) {p : Nat}
    (stream : system.pSbm.mDetectInfo.pCurStream = some p) :
    p ≠ system.pSbm.frameFifo.nWritePos := by
  have chunks := kept.sbm.chunks
  have place := kept.sbm.stream p stream
  rw [under_detection_some stream] at chunks
  have inside := chunks.deliveredAdded
  have atMost := chunks.room
  have notFull := (not_congr (full_iff chunks)).mp free
  rw [place, chunks.writePos]
  exact slots_differ (by omega) (by omega)

theorem checks_detect {withStartCode withoutStartCode : SbmFrame → VideoStreamDataInfo → Bool}
    {pSbm next : SbmFrame}
    (checks : TypeChecks withStartCode withoutStartCode pSbm counts next after) :
    next.mDetectInfo = pSbm.mDetectInfo := by
  induction checks with
  | stop pSbm counts | found waiting oldest known => rfl
  | drop waiting oldest useless later ih => exact ih

theorem steps_kept (kept : RunKept system counts) (steps : Steps codec system counts op next after) :
    RunKept next after := by
  have frames := kept.sbm.frames
  have inside := frames.flushedDelivered
  cases steps with
  | write bytes | setEos nEosFlag =>
    exact ⟨{ kept.sbm with }, { kept.shape with }, kept.held, kept.untyped, kept.inRing⟩
  | refused pDataInfo | nothing none_left => exact kept
  | added pDataInfo marked pWriteAddr legal size free =>
    exact chunk_joined_kept kept legal pWriteAddr free
  | checked untyped checks => exact type_checks_kept system.history checks system.held kept untyped
  | passed typed pass passes =>
    have same := passes_input passes
    exact pass_kept _ kept typed passes
  | delivered waiting oldest =>
    refine consumer_kept kept (advance_read_spec frames waiting) rfl (Nat.le_refl _) rfl ?_
    change system.held ++ [_] = window id _ counts.framesFlushed
      (counts.framesDelivered + 1 - counts.framesFlushed)
    rw [kept.held, oldest, show counts.framesDelivered + 1 - counts.framesFlushed =
      counts.framesDelivered - counts.framesFlushed + 1 by omega, window_back,
      show counts.framesFlushed + (counts.framesDelivered - counts.framesFlushed) =
        counts.framesDelivered by omega]
    rfl
  | returned position cursors held =>
    exact consumer_kept kept cursors rfl (Nat.le_refl _) rfl held
  | flushed read oldest held =>
    exact consumer_kept kept (advance_flush_spec frames read) rfl (Nat.le_succ _) rfl held

end CedarC.SbmFrameRuns
