import CedarC.SbmStreamModel
import CedarC.CyclicBuffer
import CedarC.GuardedRuns

/-!
# Runs of the stream buffer manager

One producer requests a buffer and adds at most what it was granted; one
consumer requests chunks, gives the newest back or flushes the oldest. The
chunks are numbered in the order they were added, so the two cyclic structures
are described by three numbers that only grow: the chunks flushed, delivered
and added.
-/

namespace CedarC.SbmStreamFifo

open FixedWidth CyclicBuffer GuardedRuns SbmStreamModel List

/-- The manager, what its two clients hold, and what has passed through it. -/
structure SbmSystem where
  sbm : SbmStream
  grant : Option (Int × Int)
  held : List Nat
  added : List VideoStreamDataInfo
  delivered : List VideoStreamDataInfo
  flushed : List VideoStreamDataInfo

inductive SbmOp
  | requestBuffer (nRequireSize : Int)
  | addStream (pDataInfo : VideoStreamDataInfo)
  | requestStream
  | returnStream (pDataInfo : Nat)
  | flushStream (pDataInfo : Nat)

def SbmSystem.start (nSbmBufferTotalSize pSbmBuf : Int) : Option SbmSystem :=
  (sbmStreamInit nSbmBufferTotalSize pSbmBuf).map fun sbm => ⟨sbm, none, [], [], [], []⟩

/-- The entry of the frame FIFO that a successful add writes. -/
def stored (pDataInfo : VideoStreamDataInfo) : VideoStreamDataInfo :=
  if pDataInfo.bValid = 0 then { pDataInfo with bValid := 1 } else pDataInfo

/-- One call with its effect on the clients; `none` when the call aborts. -/
def exec (system : SbmSystem) : SbmOp → Option SbmSystem
  | .requestBuffer nRequireSize =>
    match sbmStreamRequestBuffer system.sbm nRequireSize with
    | some granted => some { system with grant := some granted }
    | none => some system
  | .addStream pDataInfo =>
    let (sbm, result) := sbmStreamAddStream system.sbm pDataInfo
    if result = 0 then
      some { system with
        sbm := sbm, grant := none, added := system.added ++ [stored pDataInfo] }
    else some { system with sbm := sbm, grant := none }
  | .requestStream =>
    match sbmStreamRequestStream system.sbm with
    | (sbm, some pDataInfo) =>
      some { system with
        sbm := sbm
        held := system.held ++ [pDataInfo]
        delivered := system.delivered ++ [sbm.frameFifo.pFrames pDataInfo] }
    | (sbm, none) => some { system with sbm := sbm }
  | .returnStream pDataInfo =>
    (sbmStreamReturnStream system.sbm pDataInfo).map fun (sbm, result) =>
      if result = 0 then
        { system with
          sbm := sbm
          held := system.held.dropLast
          delivered := system.delivered.dropLast }
      else { system with sbm := sbm }
  | .flushStream pDataInfo =>
    (sbmStreamFlushStream system.sbm pDataInfo).map fun (sbm, result) =>
      if result = 0 then
        { system with
          sbm := sbm
          held := system.held.tail
          flushed := system.flushed ++ [system.sbm.frameFifo.pFrames pDataInfo] }
      else { system with sbm := sbm }

/-- The producer asks for an `int` and adds at most what it was granted, the
consumer returns its newest chunk and flushes its oldest. -/
def Legal (system : SbmSystem) : SbmOp → Prop
  | .requestBuffer nRequireSize => InS32 nRequireSize
  | .addStream pDataInfo =>
    ∃ granted ∈ system.grant, pDataInfo.pData = granted.1 ∧
      0 ≤ pDataInfo.nLength ∧ pDataInfo.nLength ≤ granted.2
  | .requestStream => True
  | .returnStream pDataInfo => system.held.getLast? = some pDataInfo
  | .flushStream pDataInfo => system.held.head? = some pDataInfo

instance (system : SbmSystem) : ∀ op, Decidable (Legal system op)
  | .requestBuffer _ => inferInstanceAs (Decidable (InS32 _))
  | .addStream _ => inferInstanceAs (Decidable (∃ granted ∈ (_ : Option (Int × Int)), _))
  | .requestStream => inferInstanceAs (Decidable True)
  | .returnStream _ | .flushStream _ => inferInstanceAs (Decidable (_ = _))

/-- No request whose reserve of 64 bytes leaves the range of `int` is granted
more than is free beside chunks that still hold bytes. -/
def RequestSafe (system : SbmSystem) : SbmOp → Prop
  | .requestBuffer nRequireSize =>
    ¬ (2 ^ 31 ≤ nRequireSize + 64 ∧
      system.sbm.frameFifo.nValidFrameNum < system.sbm.frameFifo.nMaxFrameNum ∧
      0 < system.sbm.nValidDataSize ∧
      system.sbm.nValidDataSize < system.sbm.nStreamBufferSize ∧
      system.sbm.nStreamBufferSize - system.sbm.nValidDataSize < nRequireSize)
  | _ => True

instance (system : SbmSystem) : ∀ op, Decidable (RequestSafe system op)
  | .requestBuffer _ => inferInstanceAs (Decidable (¬ _))
  | .addStream _ | .requestStream | .returnStream _ | .flushStream _ =>
    inferInstanceAs (Decidable True)

section Contract

variable (system : SbmSystem)

/-- The chunks that were added and not yet flushed, as the frame FIFO has them. -/
def unflushed : List VideoStreamDataInfo :=
  let fifo := system.sbm.frameFifo
  window fifo.pFrames fifo.nMaxFrameNum fifo.nFlushPos fifo.nValidFrameNum

def unread : List VideoStreamDataInfo :=
  let fifo := system.sbm.frameFifo
  window fifo.pFrames fifo.nMaxFrameNum fifo.nReadPos fifo.nUnReadFrameNum

def byteRange (chunk : VideoStreamDataInfo) : Int × Int := (chunk.pData, chunk.nLength)

def Apart (left right : Int × Int) : Prop :=
  RangesApart system.sbm.nStreamBufferSize left.1 left.2 right.1 right.2

structure StreamContract : Prop where
  inOrder : system.delivered ++ unread system = system.added
  flushedOnce : system.flushed ++ unflushed system = system.added
  holding : system.flushed ++ system.held.map system.sbm.frameFifo.pFrames = system.delivered
  disjoint : ((unflushed system).map byteRange).Pairwise (Apart system)
  grantDisjoint : ∀ granted ∈ system.grant, ∀ chunk ∈ unflushed system,
    Apart system (byteRange chunk) granted
  writeAddr : system.sbm.pStreamBuffer ≤ system.sbm.pWriteAddr ∧
    system.sbm.pWriteAddr ≤ system.sbm.pStreamBufferEnd
  dataSize : system.sbm.nValidDataSize = ((unflushed system).map VideoStreamDataInfo.nLength).sum
  unreadValid : system.sbm.frameFifo.nUnReadFrameNum ≤ system.sbm.frameFifo.nValidFrameNum
  validCapacity : system.sbm.frameFifo.nValidFrameNum ≤ system.sbm.frameFifo.nMaxFrameNum

end Contract

@[simp] theorem stored_range (pDataInfo : VideoStreamDataInfo) :
    byteRange (stored pDataInfo) = byteRange pDataInfo := by
  unfold stored
  split_ifs <;> rfl

section FrameFifo

/-- The frame FIFO after `added.length` adds, of which `delivered.length` are
delivered and `flushed.length` flushed. -/
structure FifoKept (fifo : StreamFrameFifo) (held : List Nat)
    (added delivered flushed : List VideoStreamDataInfo) : Prop where
  capacity : 0 < fifo.nMaxFrameNum
  flushedDelivered : flushed.length ≤ delivered.length
  deliveredAdded : delivered.length ≤ added.length
  room : added.length ≤ flushed.length + fifo.nMaxFrameNum
  writePos : fifo.nWritePos = added.length % fifo.nMaxFrameNum
  readPos : fifo.nReadPos = delivered.length % fifo.nMaxFrameNum
  flushPos : fifo.nFlushPos = flushed.length % fifo.nMaxFrameNum
  valid : fifo.nValidFrameNum = added.length - flushed.length
  unRead : fifo.nUnReadFrameNum = added.length - delivered.length
  contents : window fifo.pFrames fifo.nMaxFrameNum flushed.length
    (added.length - flushed.length) = added.drop flushed.length
  deliveredPrefix : delivered = added.take delivered.length
  flushedPrefix : flushed = added.take flushed.length
  holding : held = (List.range' flushed.length (delivered.length - flushed.length)).map
    (· % fifo.nMaxFrameNum)

variable {fifo : StreamFrameFifo} {held : List Nat}
  {added delivered flushed : List VideoStreamDataInfo}
  (kept : FifoKept fifo held added delivered flushed)

include kept

theorem fifo_slot {position : Nat}
    (notFlushed : flushed.length ≤ position) (inside : position < added.length) :
    added[position]? = some (fifo.pFrames (position % fifo.nMaxFrameNum)) := by
  have slot := @window_get _ fifo.pFrames fifo.nMaxFrameNum flushed.length
    (added.length - flushed.length) (position - flushed.length) (by omega)
  rw [kept.contents, List.getElem?_drop] at slot
  rwa [show flushed.length + (position - flushed.length) = position by omega] at slot

theorem fifo_unread : window fifo.pFrames fifo.nMaxFrameNum fifo.nReadPos fifo.nUnReadFrameNum =
      added.drop delivered.length := by
  have ordered := kept.flushedDelivered
  have inside := kept.deliveredAdded
  have split := window_split fifo.pFrames fifo.nMaxFrameNum flushed.length
    (delivered.length - flushed.length) (added.length - delivered.length)
  rw [show delivered.length - flushed.length + (added.length - delivered.length) =
      added.length - flushed.length by omega, kept.contents,
    show flushed.length + (delivered.length - flushed.length) = delivered.length by omega] at split
  have tail := congrArg (List.drop (delivered.length - flushed.length)) split
  rw [drop_drop, drop_left' (window_length _ _ _ _),
    show flushed.length + (delivered.length - flushed.length) = delivered.length by omega] at tail
  rw [kept.readPos, kept.unRead, window_cursor]
  exact tail.symm

theorem fifo_unflushed : window fifo.pFrames fifo.nMaxFrameNum fifo.nFlushPos fifo.nValidFrameNum =
      added.drop flushed.length := by
  rw [kept.flushPos, kept.valid, window_cursor]
  exact kept.contents

theorem fifo_held : flushed ++ held.map fifo.pFrames = delivered := by
  have ordered := kept.flushedDelivered
  have inside := kept.deliveredAdded
  have split := window_split fifo.pFrames fifo.nMaxFrameNum flushed.length
    (delivered.length - flushed.length) (added.length - delivered.length)
  rw [show delivered.length - flushed.length + (added.length - delivered.length) =
      added.length - flushed.length by omega, kept.contents] at split
  have front := congrArg (List.take (delivered.length - flushed.length)) split
  rw [take_left' (window_length _ _ _ _)] at front
  have same : held.map fifo.pFrames = window fifo.pFrames fifo.nMaxFrameNum flushed.length
      (delivered.length - flushed.length) := by
    rw [kept.holding, range'_eq_map_range, map_map, map_map]
    rfl
  have prefixes := @take_add _ added flushed.length (delivered.length - flushed.length)
  rw [show flushed.length + (delivered.length - flushed.length) = delivered.length by omega,
    ← kept.deliveredPrefix, ← kept.flushedPrefix] at prefixes
  rw [same, ← front, ← prefixes]

omit kept

variable {pSbm : SbmStream} {pDataInfo : Nat}

theorem request_stream_spec (kept : FifoKept pSbm.frameFifo held added delivered flushed) :
    sbmStreamRequestStream pSbm = (pSbm, none) ∨ ∃ next, sbmStreamRequestStream pSbm =
          ({ pSbm with frameFifo := next }, some pSbm.frameFifo.nReadPos) ∧
        FifoKept next (held ++ [pSbm.frameFifo.nReadPos]) added
          (delivered ++ [next.pFrames pSbm.frameFifo.nReadPos]) flushed := by
  have ordered := kept.flushedDelivered
  have unRead := kept.unRead
  by_cases empty : pSbm.frameFifo.nUnReadFrameNum = 0
  · left
    simp [sbmStreamRequestStream, empty]
  · right
    have slot := fifo_slot kept ordered (by omega)
    rw [← kept.readPos] at slot
    have next := cursor_next delivered.length kept.capacity
    rw [← kept.readPos] at next
    refine ⟨{ pSbm.frameFifo with
      nReadPos := (delivered.length + 1) % pSbm.frameFifo.nMaxFrameNum
      nUnReadFrameNum := pSbm.frameFifo.nUnReadFrameNum - 1 }, ?_, ?_⟩
    · simp only [sbmStreamRequestStream, if_neg empty, next]
    · exact
      { kept with
        flushedDelivered := by
          simp only [length_append, length_singleton]
          omega
        deliveredAdded := by
          simp only [length_append, length_singleton]
          omega
        readPos := by rw [length_append, length_singleton]
        unRead := by
          simp only [length_append, length_singleton]
          omega
        deliveredPrefix := by
          rw [length_append, length_singleton, take_add_one, slot, ← kept.deliveredPrefix]
          rfl
        holding := by
          rw [length_append, length_singleton, Nat.sub_add_comm ordered,
            range'_1_concat, map_append, ← kept.holding, map_singleton,
            Nat.add_sub_cancel' ordered, ← kept.readPos] }

theorem return_stream_spec (kept : FifoKept pSbm.frameFifo held added delivered flushed)
    (newest : held.getLast? = some pDataInfo) :
    ∃ next, sbmStreamReturnStream pSbm pDataInfo = some ({ pSbm with frameFifo := next }, 0) ∧
      FifoKept next held.dropLast added delivered.dropLast flushed := by
  have ordered := kept.flushedDelivered
  have inside := kept.deliveredAdded
  have valid := kept.valid
  have holds : flushed.length < delivered.length := by
    by_contra none
    rw [kept.holding, show delivered.length - flushed.length = 0 by omega] at newest
    cases newest
  obtain ⟨earlier, count⟩ : ∃ earlier, delivered.length = earlier + 1 :=
    ⟨delivered.length - 1, by omega⟩
  have held_split : held = (List.range' flushed.length (earlier - flushed.length)).map
      (· % pSbm.frameFifo.nMaxFrameNum) ++ [earlier % pSbm.frameFifo.nMaxFrameNum] := by
    rw [kept.holding, count, Nat.sub_add_comm (by omega), range'_1_concat, map_append,
      map_singleton, Nat.add_sub_cancel' (by omega)]
  have last : pDataInfo = earlier % pSbm.frameFifo.nMaxFrameNum := by
    rw [held_split, List.getLast?_concat] at newest
    exact (Option.some.inj newest).symm
  have previous := cursor_previous earlier kept.capacity
  rw [← count, ← kept.readPos] at previous
  have nonempty : pSbm.frameFifo.nValidFrameNum ≠ 0 := by omega
  refine ⟨{ pSbm.frameFifo with
    nReadPos := earlier % pSbm.frameFifo.nMaxFrameNum
    nUnReadFrameNum := pSbm.frameFifo.nUnReadFrameNum + 1 }, ?_, ?_⟩
  · simp only [sbmStreamReturnStream, if_neg nonempty, previous, last, ne_eq, not_true_eq_false,
      if_false, Function.update_eq_self]
  · exact
    { kept with
      flushedDelivered := by
        rw [length_dropLast]
        omega
      deliveredAdded := by
        rw [length_dropLast]
        omega
      readPos := by
        rw [length_dropLast, count, Nat.add_sub_cancel]
      unRead := by
        have unRead := kept.unRead
        simp only [length_dropLast]
        omega
      deliveredPrefix := by
        rw [length_dropLast, dropLast_eq_take]
        nth_rewrite 2 [kept.deliveredPrefix]
        rw [take_take, Nat.min_eq_left (Nat.sub_le _ _)]
      holding := by
        rw [length_dropLast, count, Nat.add_sub_cancel, held_split, dropLast_concat] }

theorem flush_stream_spec (kept : FifoKept pSbm.frameFifo held added delivered flushed)
    (oldest : held.head? = some pDataInfo) :
    ∃ next chunk rest, added.drop flushed.length = chunk :: rest ∧
      pSbm.frameFifo.pFrames pDataInfo = chunk ∧
      sbmStreamFlushStream pSbm pDataInfo =
        some ({ pSbm with
          frameFifo := next, nValidDataSize := s32 (pSbm.nValidDataSize - chunk.nLength) }, 0) ∧
      added.drop (flushed ++ [chunk]).length = rest ∧
      FifoKept next held.tail added delivered (flushed ++ [chunk]) := by
  have inside := kept.deliveredAdded
  have valid := kept.valid
  have holds : flushed.length < delivered.length := by
    by_contra none
    rw [kept.holding, show delivered.length - flushed.length = 0 by omega] at oldest
    cases oldest
  obtain ⟨count, counted⟩ : ∃ count, delivered.length - flushed.length = count + 1 :=
    ⟨delivered.length - flushed.length - 1, by omega⟩
  have held_split : held = flushed.length % pSbm.frameFifo.nMaxFrameNum ::
      (List.range' (flushed.length + 1) count).map (· % pSbm.frameFifo.nMaxFrameNum) := by
    rw [kept.holding, counted, range'_succ, map_cons]
  have first : pDataInfo = pSbm.frameFifo.nFlushPos := by
    rw [held_split, List.head?_cons] at oldest
    rw [kept.flushPos]
    exact (Option.some.inj oldest).symm
  have slot := fifo_slot kept (Nat.le_refl _) (by omega)
  rw [← kept.flushPos] at slot
  have dropped : added.drop flushed.length =
      pSbm.frameFifo.pFrames pSbm.frameFifo.nFlushPos :: added.drop (flushed.length + 1) := by
    rw [drop_eq_getElem?_toList_append, slot]
    rfl
  have next := cursor_next flushed.length kept.capacity
  rw [← kept.flushPos] at next
  have nonempty : pSbm.frameFifo.nValidFrameNum ≠ 0 := by omega
  refine ⟨{ pSbm.frameFifo with
    nValidFrameNum := pSbm.frameFifo.nValidFrameNum - 1
    nFlushPos := (flushed.length + 1) % pSbm.frameFifo.nMaxFrameNum },
    pSbm.frameFifo.pFrames pSbm.frameFifo.nFlushPos, added.drop (flushed.length + 1),
    dropped, by rw [first], ?_, by rw [length_append]; rfl, ?_⟩
  · simp only [sbmStreamFlushStream, if_neg nonempty, next, first, ne_eq, not_true_eq_false,
      if_false]
  · exact
    { kept with
      flushedDelivered := by
        rw [length_append, length_singleton]
        omega
      room := by
        have room := kept.room
        simp only [length_append, length_singleton]
        omega
      flushPos := by rw [length_append, length_singleton]
      valid := by
        simp only [length_append, length_singleton]
        omega
      contents := by
        have contents := kept.contents
        rw [show added.length - flushed.length = added.length - (flushed.length + 1) + 1 by omega,
          window_front, dropped] at contents
        rw [length_append, length_singleton]
        exact (List.cons.inj contents).2
      flushedPrefix := by
        rw [length_append, length_singleton, take_add_one, slot, ← kept.flushedPrefix]
        rfl
      holding := by
        rw [length_append, length_singleton, held_split, tail_cons,
          show delivered.length - (flushed.length + 1) = count by omega] }

theorem add_stream_fifo {pDataInfo : VideoStreamDataInfo}
    (kept : FifoKept fifo held added delivered flushed)
    (room : fifo.nValidFrameNum < fifo.nMaxFrameNum) :
    FifoKept
      { fifo with
        pFrames := Function.update fifo.pFrames fifo.nWritePos pDataInfo
        nWritePos := if fifo.nMaxFrameNum ≤ fifo.nWritePos + 1 then 0 else fifo.nWritePos + 1
        nValidFrameNum := fifo.nValidFrameNum + 1
        nUnReadFrameNum := fifo.nUnReadFrameNum + 1 }
      held (added ++ [pDataInfo]) delivered flushed := by
  have ordered := kept.flushedDelivered
  have inside := kept.deliveredAdded
  have valid := kept.valid
  have unRead := kept.unRead
  have count : added.length + 1 - flushed.length = added.length - flushed.length + 1 := by omega
  exact
    { kept with
      deliveredAdded := by
        rw [length_append]
        omega
      room := by
        simp only [length_append, length_singleton]
        omega
      writePos := by
        rw [length_append, length_singleton, ← cursor_next added.length kept.capacity,
          ← kept.writePos]
      valid := by
        simp only [length_append, length_singleton]
        omega
      unRead := by
        simp only [length_append, length_singleton]
        omega
      contents := by
        have place : fifo.nWritePos =
            (flushed.length + (added.length - flushed.length)) % fifo.nMaxFrameNum := by
          rw [kept.writePos, Nat.add_sub_cancel' (by omega)]
        rw [length_append, length_singleton, count, place, window_append (by omega),
          kept.contents, drop_append_of_le_length (by omega)]
      deliveredPrefix := by rw [take_append_of_le_length inside, ← kept.deliveredPrefix]
      flushedPrefix := by
        rw [take_append_of_le_length (by omega), ← kept.flushedPrefix] }

end FrameFifo

section ByteRing

structure BytesKept (pSbm : SbmStream) (grant : Option (Int × Int))
    (ranges : List (Int × Int)) : Prop where
  size : 0 < pSbm.nStreamBufferSize
  sizeRange : pSbm.nStreamBufferSize < 2 ^ 31
  bufferEnd : pSbm.pStreamBufferEnd = pSbm.pStreamBuffer + pSbm.nStreamBufferSize - 1
  aboveStart : pSbm.pStreamBuffer ≤ pSbm.pWriteAddr
  belowEnd : pSbm.pWriteAddr ≤ pSbm.pStreamBufferEnd
  dataSize : pSbm.nValidDataSize = totalLength ranges
  dataBound : pSbm.nValidDataSize ≤ pSbm.nStreamBufferSize
  placed : ∃ position, Consecutive pSbm.nStreamBufferSize position ranges ∧
    pSbm.pWriteAddr % pSbm.nStreamBufferSize =
      (position + totalLength ranges) % pSbm.nStreamBufferSize
  granted : ∀ granted ∈ grant, granted.1 = pSbm.pWriteAddr ∧ InS32 granted.2 ∧
    (pSbm.nValidDataSize = 0 ∨ granted.2 ≤ pSbm.nStreamBufferSize - pSbm.nValidDataSize)

variable {pSbm : SbmStream} {grant : Option (Int × Int)} {ranges : List (Int × Int)}
  (kept : BytesKept pSbm grant ranges)

include kept

theorem data_size_nonneg : 0 ≤ pSbm.nValidDataSize := by
  rcases kept.placed with ⟨position, consecutive, -⟩
  rw [kept.dataSize]
  exact consecutive_total_nonneg consecutive

theorem grant_dropped : BytesKept pSbm none ranges := { kept with granted := by simp }

theorem request_buffer_bytes {nRequireSize : Int} {granted : Int × Int} (range : InS32 nRequireSize)
    (safe : ¬ (2 ^ 31 ≤ nRequireSize + 64 ∧
      pSbm.frameFifo.nValidFrameNum < pSbm.frameFifo.nMaxFrameNum ∧
      0 < pSbm.nValidDataSize ∧ pSbm.nValidDataSize < pSbm.nStreamBufferSize ∧
      pSbm.nStreamBufferSize - pSbm.nValidDataSize < nRequireSize))
    (given : sbmStreamRequestBuffer pSbm nRequireSize = some granted) :
    BytesKept pSbm (some granted) ranges := by
  have nonneg := data_size_nonneg kept
  have sizeRange := kept.sizeRange
  unfold sbmStreamRequestBuffer at given
  by_cases full : pSbm.frameFifo.nMaxFrameNum ≤ pSbm.frameFifo.nValidFrameNum
  · simp [full] at given
  rw [if_neg full] at given
  by_cases free : pSbm.nValidDataSize < pSbm.nStreamBufferSize
  swap
  · simp [free] at given
  have freeSize : s32 (pSbm.nStreamBufferSize - pSbm.nValidDataSize) =
      pSbm.nStreamBufferSize - pSbm.nValidDataSize :=
    s32_of_range ⟨by omega, by omega⟩
  rw [if_pos free, freeSize] at given
  by_cases refused :
      s32 (nRequireSize + 64) > pSbm.nStreamBufferSize - pSbm.nValidDataSize
  · simp [refused] at given
  simp only [if_neg refused, Option.some.injEq] at given
  subst given
  refine { kept with granted := ?_ }
  intro granted member
  obtain rfl : (pSbm.pWriteAddr, nRequireSize) = granted := by simpa using member
  refine ⟨rfl, range, ?_⟩
  by_cases wraps : 2 ^ 31 ≤ nRequireSize + 64
  · by_cases empty : pSbm.nValidDataSize = 0
    · exact Or.inl empty
    · right
      by_contra exceeds
      exact safe ⟨wraps, by omega, by omega, free, Int.not_le.mp exceeds⟩
  · right
    have exact : s32 (nRequireSize + 64) = nRequireSize + 64 := by
      unfold InS32 at range
      exact s32_of_range ⟨by omega, by omega⟩
    rw [exact] at refused
    change nRequireSize ≤ _
    omega

omit kept

/-- Adding what was granted is refused, or it fits behind the other chunks. -/
theorem add_stream_spec {pDataInfo : VideoStreamDataInfo} {granted : Int × Int}
    (kept : BytesKept pSbm (some granted) ranges) (address : pDataInfo.pData = granted.1)
    (nonneg : 0 ≤ pDataInfo.nLength) (atMost : pDataInfo.nLength ≤ granted.2) :
    sbmStreamAddStream pSbm pDataInfo = (pSbm, -1) ∨
      ∃ next, sbmStreamAddStream pSbm pDataInfo = (next, 0) ∧
        pSbm.frameFifo.nValidFrameNum < pSbm.frameFifo.nMaxFrameNum ∧
        next.frameFifo =
          { pSbm.frameFifo with
            pFrames := Function.update pSbm.frameFifo.pFrames pSbm.frameFifo.nWritePos
              (stored pDataInfo)
            nWritePos :=
              if pSbm.frameFifo.nMaxFrameNum ≤ pSbm.frameFifo.nWritePos + 1 then 0
              else pSbm.frameFifo.nWritePos + 1
            nValidFrameNum := pSbm.frameFifo.nValidFrameNum + 1
            nUnReadFrameNum := pSbm.frameFifo.nUnReadFrameNum + 1 } ∧
        BytesKept next none (ranges ++ [byteRange pDataInfo]) := by
  have valid_nonneg := data_size_nonneg kept
  have sizeRange := kept.sizeRange
  have aboveStart := kept.aboveStart
  have belowEnd := kept.belowEnd
  have bufferEnd := kept.bufferEnd
  rcases kept.granted granted rfl with ⟨grantAddr, grantRange, fits⟩
  have same_length : (stored pDataInfo).nLength = pDataInfo.nLength :=
    congrArg Prod.snd (stored_range pDataInfo)
  by_cases null : pDataInfo.pData = 0
  · left
    simp [sbmStreamAddStream, null]
  by_cases full : pSbm.frameFifo.nMaxFrameNum ≤ pSbm.frameFifo.nValidFrameNum
  · left
    simp [sbmStreamAddStream, full]
  have exact : s32 (pDataInfo.nLength + pSbm.nValidDataSize) =
      pDataInfo.nLength + pSbm.nValidDataSize := by
    unfold InS32 at grantRange
    exact s32_of_range ⟨by omega, by omega⟩
  by_cases beyond : pDataInfo.nLength + pSbm.nValidDataSize > pSbm.nStreamBufferSize
  · left
    simp only [sbmStreamAddStream, if_neg null, if_neg full, exact, if_pos beyond]
  right
  have exact' : s32 (pSbm.nValidDataSize + pDataInfo.nLength) =
      pSbm.nValidDataSize + pDataInfo.nLength := by
    rw [Int.add_comm, exact, Int.add_comm]
  have total : totalLength (ranges ++ [byteRange pDataInfo]) =
      totalLength ranges + pDataInfo.nLength := by
    simp [totalLength, byteRange]
  refine ⟨_, by
    simp only [sbmStreamAddStream, if_neg null, if_neg full, exact, if_neg beyond]
    rfl, by omega, rfl, ?_⟩
  change BytesKept
    { pSbm with
      frameFifo := _
      nValidDataSize := s32 (pSbm.nValidDataSize + (stored pDataInfo).nLength)
      pWriteAddr :=
        if pSbm.pWriteAddr + (stored pDataInfo).nLength > pSbm.pStreamBufferEnd then
          pSbm.pWriteAddr + (stored pDataInfo).nLength - pSbm.nStreamBufferSize
        else pSbm.pWriteAddr + (stored pDataInfo).nLength } _ _
  rw [same_length, exact']
  have dataSize := kept.dataSize
  rcases kept.placed with ⟨position, consecutive, behind⟩
  have wrapped : (if pSbm.pWriteAddr + pDataInfo.nLength > pSbm.pStreamBufferEnd then
      pSbm.pWriteAddr + pDataInfo.nLength - pSbm.nStreamBufferSize
      else pSbm.pWriteAddr + pDataInfo.nLength) % pSbm.nStreamBufferSize =
      (pSbm.pWriteAddr + pDataInfo.nLength) % pSbm.nStreamBufferSize := by
    split_ifs
    · exact Int.sub_emod_right _ _
    · rfl
  exact
    { kept with
      aboveStart := by
        dsimp only
        split_ifs <;> omega
      belowEnd := by
        dsimp only
        split_ifs <;> omega
      dataSize := by
        dsimp only
        omega
      dataBound := by
        dsimp only
        omega
      placed := by
        refine ⟨position, consecutive_append.mpr ⟨consecutive, ?_, nonneg⟩, ?_⟩
        · rw [address, grantAddr, behind]
        · dsimp only
          rw [wrapped, total, ← Int.emod_add_emod, behind, Int.emod_add_emod, Int.add_assoc]
      granted := by simp }

theorem flush_stream_bytes {next : StreamFrameFifo} {range : Int × Int}
    (kept : BytesKept pSbm grant (range :: ranges)) :
    BytesKept
      { pSbm with frameFifo := next, nValidDataSize := s32 (pSbm.nValidDataSize - range.2) }
      grant ranges := by
  rcases kept.placed with ⟨position, consecutive, behind⟩
  have nonneg : 0 ≤ range.2 := consecutive.2.1
  have split : totalLength (range :: ranges) = range.2 + totalLength ranges := by simp [totalLength]
  have rest := consecutive_total_nonneg consecutive.2.2
  have dataSize := kept.dataSize
  have bound := kept.dataBound
  have sizeRange := kept.sizeRange
  have exact : s32 (pSbm.nValidDataSize - range.2) = pSbm.nValidDataSize - range.2 :=
    s32_of_range ⟨by omega, by omega⟩
  have remaining : pSbm.nValidDataSize - range.2 ≤ pSbm.nStreamBufferSize := by omega
  rw [exact]
  exact
    { kept with
      dataSize := by
        change pSbm.nValidDataSize - range.2 = _
        omega
      dataBound := remaining
      placed := by
        refine ⟨position + range.2, consecutive.2.2, ?_⟩
        rw [behind, split, Int.add_assoc]
      granted := by
        intro granted member
        rcases kept.granted granted member with ⟨address, range32, fits⟩
        refine ⟨address, range32, ?_⟩
        change pSbm.nValidDataSize - range.2 = 0 ∨
          granted.2 ≤ pSbm.nStreamBufferSize - (pSbm.nValidDataSize - range.2)
        omega }

end ByteRing

variable {system : SbmSystem}

/-- Both cyclic structures hold the chunks that were added and not yet flushed. -/
structure InRing (system : SbmSystem) : Prop where
  fifo : FifoKept system.sbm.frameFifo system.held system.added system.delivered system.flushed
  bytes : BytesKept system.sbm system.grant
    ((system.added.drop system.flushed.length).map byteRange)

theorem start_in_ring {nSbmBufferTotalSize pSbmBuf : Int} (positive : 0 < nSbmBufferTotalSize)
    (range : InS32 nSbmBufferTotalSize) (allocated : pSbmBuf ≠ 0) :
    ∃ system, SbmSystem.start nSbmBufferTotalSize pSbmBuf = some system ∧ InRing system := by
  have notEmpty : ¬ nSbmBufferTotalSize ≤ 0 := by omega
  refine ⟨_, by
    simp only [SbmSystem.start, sbmStreamInit, if_neg notEmpty, if_neg allocated, Option.map_some]
    rfl, ?_⟩
  constructor
  · constructor <;> simp [window, SBM_FRAME_FIFO_SIZE]
  · constructor
    · exact positive
    · exact range.2
    · rfl
    · exact Int.le_refl _
    · dsimp only
      omega
    · rfl
    · dsimp only
      omega
    · exact ⟨pSbmBuf, trivial, by simp [totalLength]⟩
    · simp

theorem contract_of_in_ring (kept : InRing system) : StreamContract system := by
  have all : unflushed system = system.added.drop system.flushed.length := fifo_unflushed kept.fifo
  have ordered := kept.fifo.flushedDelivered
  have inside := kept.fifo.deliveredAdded
  have dataSize := kept.bytes.dataSize
  have within := kept.bytes.dataBound
  rcases kept.bytes.placed with ⟨position, consecutive, behind⟩
  constructor
  · change system.delivered ++ window _ _ _ _ = _
    rw [fifo_unread kept.fifo]
    nth_rewrite 1 [kept.fifo.deliveredPrefix]
    exact take_append_drop _ _
  · rw [all]
    nth_rewrite 1 [kept.fifo.flushedPrefix]
    exact take_append_drop _ _
  · exact fifo_held kept.fifo
  · rw [all]
    exact consecutive_pairwise_apart consecutive (by omega)
  · intro granted given chunk member
    rw [all] at member
    have inRanges := mem_map_of_mem (f := byteRange) member
    rcases kept.bytes.granted granted given with ⟨address, -, fits⟩
    rcases fits with empty | free
    · intro i j low inChunk
      rcases consecutive_member consecutive inRanges with ⟨place, first, last, -⟩
      omega
    · exact consecutive_range_apart consecutive (by rw [address, behind]) (by omega) inRanges
  · exact ⟨kept.bytes.aboveStart, kept.bytes.belowEnd⟩
  · rw [all, dataSize, totalLength, map_map]
    rfl
  · rw [kept.fifo.unRead, kept.fifo.valid]
    omega
  · have room := kept.fifo.room
    rw [kept.fifo.valid]
    omega

theorem exec_in_ring {op : SbmOp} (kept : InRing system) (legal : Legal system op)
    (safe : RequestSafe system op) : ∃ next, exec system op = some next ∧ InRing next := by
  cases op with
  | requestBuffer nRequireSize =>
    cases given : sbmStreamRequestBuffer system.sbm nRequireSize with
    | none => exact ⟨system, by simp only [exec, given], kept⟩
    | some granted =>
      exact ⟨{ system with grant := some granted }, by simp only [exec, given],
        { fifo := kept.fifo
          bytes := request_buffer_bytes kept.bytes legal safe given }⟩
  | addStream pDataInfo =>
    rcases legal with ⟨granted, given, address, nonneg, atMost⟩
    have bytes := kept.bytes
    rw [show system.grant = some granted from given] at bytes
    rcases add_stream_spec bytes address nonneg atMost with refused | ⟨sbm, accepted, room,
      fifo, bytes'⟩
    · exact ⟨{ system with grant := none }, by simp [exec, refused],
        { fifo := kept.fifo
          bytes := grant_dropped kept.bytes }⟩
    · have fifo' := @add_stream_fifo _ _ _ _ _ (stored pDataInfo) kept.fifo room
      rw [← fifo] at fifo'
      refine ⟨{ system with
        sbm := sbm
        grant := none
        added := system.added ++ [stored pDataInfo] }, by simp [exec, accepted], fifo', ?_⟩
      have ordered := kept.fifo.flushedDelivered
      have inside := kept.fifo.deliveredAdded
      have within : system.flushed.length ≤ system.added.length := by omega
      rw [drop_append_of_le_length within, map_append, map_singleton, stored_range]
      exact bytes'
  | requestStream =>
    rcases request_stream_spec kept.fifo with empty | ⟨next, delivered, fifo⟩
    · exact ⟨system, by simp only [exec, empty], kept⟩
    · exact ⟨{ system with
        sbm := { system.sbm with frameFifo := next }
        held := system.held ++ [system.sbm.frameFifo.nReadPos]
        delivered := system.delivered ++ [next.pFrames system.sbm.frameFifo.nReadPos] },
        by simp only [exec, delivered], fifo, { kept.bytes with }⟩
  | returnStream pDataInfo =>
    rcases return_stream_spec kept.fifo legal with ⟨next, returned, fifo⟩
    exact ⟨{ system with
      sbm := { system.sbm with frameFifo := next }
      held := system.held.dropLast
      delivered := system.delivered.dropLast }, by simp [exec, returned], fifo,
      { kept.bytes with }⟩
  | flushStream pDataInfo =>
    rcases flush_stream_spec kept.fifo legal with
      ⟨next, chunk, rest, pending, pointed, returned, pending', fifo⟩
    have bytes := kept.bytes
    rw [pending, map_cons] at bytes
    refine ⟨{ system with
      sbm := { system.sbm with
        frameFifo := next, nValidDataSize := s32 (system.sbm.nValidDataSize - chunk.nLength) }
      held := system.held.tail
      flushed := system.flushed ++ [chunk] }, by simp [exec, returned, pointed], fifo, ?_⟩
    rw [pending']
    exact flush_stream_bytes bytes

/-- In every legal run whose requests are safe no call aborts, and the
contract holds wherever the run has come to. -/
theorem ring_contract_in_safe_runs (nSbmBufferTotalSize pSbmBuf : Int)
    (positive : 0 < nSbmBufferTotalSize) (range : InS32 nSbmBufferTotalSize)
    (allocated : pSbmBuf ≠ 0) :
    ∃ system, SbmSystem.start nSbmBufferTotalSize pSbmBuf = some system ∧
      ∀ ops, StepsMeet Legal exec system ops → StepsMeet RequestSafe exec system ops →
        ∃ final, runOps exec system ops = some final ∧ StreamContract final := by
  rcases start_in_ring positive range allocated with ⟨system, started, initial⟩
  refine ⟨system, started, fun ops legal safe => ?_⟩
  have ends : ∀ state op, InRing state → (Legal state op ∧ RequestSafe state op) →
      ∃ next, exec state op = some next ∧ InRing next :=
    fun _ _ kept meets => exec_in_ring kept meets.1 meets.2
  rcases guarded_run_ends ends initial (steps_meet_and legal safe) with ⟨final, run, reached⟩
  exact ⟨final, run, contract_of_in_ring reached⟩

/-- A turn of the ring: the third chunk wraps around, one chunk is given back
and the two oldest are flushed. -/
def wrapAroundRun : List SbmOp :=
  [.requestBuffer 400, .addStream ⟨4096, 400, 0, 0⟩, .requestBuffer 300,
    .addStream ⟨4496, 300, 1, 1⟩, .requestStream, .requestStream, .returnStream 1,
    .flushStream 0, .requestBuffer 500, .requestStream, .flushStream 1,
    .addStream ⟨4796, 500, 2, 1⟩, .requestStream]

theorem wrap_around_run_contract : ∃ system, SbmSystem.start 1024 4096 = some system ∧
      ∃ final, runOps exec system wrapAroundRun = some final ∧ StreamContract final := by
  rcases ring_contract_in_safe_runs 1024 4096 (by decide) (by decide) (by decide) with
    ⟨system, started, kept⟩
  obtain rfl : _ = system := Option.some.inj started
  exact ⟨_, rfl, kept wrapAroundRun (by decide) (by decide)⟩

/-- The reserve of 64 bytes wraps a request near `INT_MAX` to a negative size. -/
def wrappedRequestRun : List SbmOp :=
  [.requestBuffer 100, .addStream ⟨4096, 100, 0, 1⟩, .requestBuffer 2147483647]

/-- The granted region runs through the whole ring and covers the chunk. -/
theorem wrapped_request_breaks_contract : ∃ system, SbmSystem.start 1024 4096 = some system ∧
      StepsMeet Legal exec system wrappedRequestRun ∧
      ∃ final, runOps exec system wrappedRequestRun = some final ∧
        final.grant = some (4196, 2147483647) ∧ ¬ StreamContract final := by
  refine ⟨_, rfl, by decide, _, rfl, by decide, ?_⟩
  intro contract
  have apart := contract.grantDisjoint (4196, 2147483647) (by decide) ⟨4096, 100, 0, 1⟩ (by decide)
  exact apart 0 924 (by decide) (by decide) (by decide) (by decide) (by decide)

end CedarC.SbmStreamFifo
