import CedarC.VdecoderSubmit
import CedarC.SbmStreamFifo

/-!
# Runs of partial submission

The application requests a buffer, fills it and submits the part; the decoder
takes chunks, gives the newest back or flushes the oldest. The bytes that were
submitted form one log, cut into the frames that were closed or displaced by the
next first part and the bytes of the frame that is still open. The ring holds
the part of the log behind the flushed frames.
-/

namespace CedarC.VdecoderSubmitRuns

open FixedWidth CyclicBuffer GuardedRuns SbmStreamModel SbmStreamFifo VdecoderSubmit List

/-- One stream of the decoder with the memory of its ring, the two clients and
what was submitted: the frames that ended and the bytes of the open frame. -/
structure SubmitSystem where
  sbm : SbmStream
  gathered : VideoStreamDataInfo
  memory : Int → UInt8
  grant : Option StreamBuffer
  held : List Nat
  added : List VideoStreamDataInfo
  delivered : List VideoStreamDataInfo
  flushed : List VideoStreamDataInfo
  frames : List (List UInt8)
  openFrame : Option (List UInt8)

inductive SubmitOp
  | requestBuffer (nRequireSize : Int)
  | submit (pDataInfo : StreamPart) (data : List UInt8)
  | requestStream
  | returnStream (pDataInfo : Nat)
  | flushStream (pDataInfo : Nat)

/-- A decoder whose stream buffer manager was just created. -/
def SubmitSystem.start (nSbmBufferTotalSize pSbmBuf : Int) : Option SubmitSystem :=
  (sbmStreamInit nSbmBufferTotalSize pSbmBuf).map fun sbm =>
    { sbm := sbm
      gathered := ⟨0, 0, -1, 0⟩
      memory := fun _ => 0
      grant := none
      held := []
      added := []
      delivered := []
      flushed := []
      frames := []
      openFrame := none }

/-- The frames that ended and the bytes of the open frame when a part joins: a
first part ends an open frame that has bytes. -/
def gatherBytes (frames : List (List UInt8)) (bytes : List UInt8) (pDataInfo : StreamPart)
    (data : List UInt8) : List (List UInt8) × List UInt8 :=
  if pDataInfo.bIsFirstPart ≠ 0 then (if bytes = [] then frames else frames ++ [bytes], data)
  else (frames, bytes ++ data)

def framesAfter (frames : List (List UInt8)) (openFrame : Option (List UInt8))
    (pDataInfo : StreamPart) (data : List UInt8) : List (List UInt8) :=
  let (frames, bytes) := gatherBytes frames (openFrame.getD []) pDataInfo data
  if pDataInfo.bIsLastPart ≠ 0 then frames ++ [bytes] else frames

def openAfter (frames : List (List UInt8)) (openFrame : Option (List UInt8))
    (pDataInfo : StreamPart) (data : List UInt8) : Option (List UInt8) :=
  if pDataInfo.bIsLastPart ≠ 0 then none
  else some (gatherBytes frames (openFrame.getD []) pDataInfo data).2

/-- The chunks that the adds of one submit wrote, oldest first. -/
def addedBy (earlier later : SbmStream) : List VideoStreamDataInfo :=
  let fifo := later.frameFifo
  let count := fifo.nValidFrameNum - earlier.frameFifo.nValidFrameNum
  window fifo.pFrames fifo.nMaxFrameNum earlier.frameFifo.nWritePos count

/-- One call with its effect on the clients; `none` when the call aborts. -/
def exec (system : SubmitSystem) : SubmitOp → Option SubmitSystem
  | .requestBuffer nRequireSize =>
    match requestVideoStreamBuffer ⟨some system.sbm, system.gathered⟩ nRequireSize with
    | some granted => some { system with grant := some granted }
    | none => some { system with grant := none }
  | .submit pDataInfo data =>
    let memory :=
      match system.grant with
      | some granted => fillBuffer system.memory granted data
      | none => system.memory
    match submitVideoStreamData ⟨some system.sbm, system.gathered⟩ pDataInfo with
    | (⟨some sbm, gathered⟩, 0) =>
      some { system with
        sbm := sbm
        gathered := gathered
        memory := memory
        grant := none
        added := system.added ++ addedBy system.sbm sbm
        frames := framesAfter system.frames system.openFrame pDataInfo data
        openFrame := openAfter system.frames system.openFrame pDataInfo data }
    | _ => some { system with memory := memory, grant := none }
  | .requestStream =>
    match sbmStreamRequestStream system.sbm with
    | (sbm, some pDataInfo) =>
      some { system with
        sbm := sbm
        held := system.held ++ [pDataInfo]
        delivered := system.delivered ++ [sbm.frameFifo.pFrames pDataInfo] }
    | (sbm, none) => some { system with sbm := sbm }
  | .returnStream pDataInfo =>
    (sbmStreamReturnStream system.sbm pDataInfo).map fun (sbm, result) =>
      if result = 0 then
        { system with
          sbm := sbm
          held := system.held.dropLast
          delivered := system.delivered.dropLast }
      else { system with sbm := sbm }
  | .flushStream pDataInfo =>
    (sbmStreamFlushStream system.sbm pDataInfo).map fun (sbm, result) =>
      if result = 0 then
        { system with
          sbm := sbm
          held := system.held.tail
          flushed := system.flushed ++ [system.sbm.frameFifo.pFrames pDataInfo] }
      else { system with sbm := sbm }

/-- A request for an empty part is one for four bytes. -/
def askedSize (nRequireSize : Int) : Int := if nRequireSize = 0 then 4 else nRequireSize

/-- The application asks for sizes whose total with the gathered frame fits an
`int`, fills at most what it was granted, points the part to it and opens a
frame with a first part; the decoder returns its newest chunk and flushes its
oldest. -/
def Legal (system : SubmitSystem) : SubmitOp → Prop
  | .requestBuffer nRequireSize =>
    0 ≤ nRequireSize ∧ InS32 (askedSize nRequireSize + system.gathered.nLength + 64)
  | .submit pDataInfo data =>
    ∃ granted ∈ system.grant, pDataInfo.pData = granted.pBuf ∧ pDataInfo.nLength = data.length ∧
      pDataInfo.nLength ≤ granted.nBufSize + granted.nRingBufSize ∧
      (pDataInfo.bIsFirstPart = 0 → system.openFrame ≠ none)
  | .requestStream => True
  | .returnStream pDataInfo => system.held.getLast? = some pDataInfo
  | .flushStream pDataInfo => system.held.head? = some pDataInfo

instance (system : SubmitSystem) : ∀ op, Decidable (Legal system op)
  | .requestBuffer _ => inferInstanceAs (Decidable (_ ∧ _))
  | .submit _ _ => inferInstanceAs (Decidable (∃ granted ∈ (_ : Option StreamBuffer), _))
  | .requestStream => inferInstanceAs (Decidable True)
  | .returnStream _ | .flushStream _ => inferInstanceAs (Decidable (_ = _))

/-- No submit both displaces an open frame that has bytes and ends its own while
the frame FIFO has one entry left. -/
def EntryForBoth (system : SubmitSystem) : SubmitOp → Prop
  | .submit pDataInfo _ =>
    ¬ (pDataInfo.bIsFirstPart ≠ 0 ∧ pDataInfo.bIsLastPart ≠ 0 ∧ system.gathered.nLength ≠ 0 ∧
      system.sbm.frameFifo.nValidFrameNum + 1 = system.sbm.frameFifo.nMaxFrameNum)
  | _ => True

instance (system : SubmitSystem) : ∀ op, Decidable (EntryForBoth system op)
  | .submit _ _ => inferInstanceAs (Decidable (¬ _))
  | .requestBuffer _ | .requestStream | .returnStream _ | .flushStream _ =>
    inferInstanceAs (Decidable True)

section Contract

variable (system : SubmitSystem)

def chunks : List VideoStreamDataInfo :=
  let fifo := system.sbm.frameFifo
  window fifo.pFrames fifo.nMaxFrameNum fifo.nFlushPos fifo.nValidFrameNum

def chunkBytes (chunk : VideoStreamDataInfo) : List UInt8 :=
  readRing system.memory system.sbm chunk.pData chunk.nLength

/-- Each frame that ended is one chunk, in the order of submission, and until it
is flushed the ring has its bytes. -/
structure SubmitContract : Prop where
  arrived : system.added.length = system.frames.length
  inTurn : system.delivered <+: system.added
  inOrder : system.flushed ++ chunks system = system.added
  bytes : (chunks system).map (chunkBytes system) = system.frames.drop system.flushed.length

end Contract

section Layout

/-- Address and length of frames that follow each other in a ring from a position on. -/
def layout (start capacity : Int) : Nat → List (List UInt8) → List (Int × Int)
  | _, [] => []
  | position, frame :: rest =>
    (start + position % capacity, (frame.length : Int)) ::
      layout start capacity (position + frame.length) rest

theorem layout_append (start capacity : Int) (position : Nat) (frames : List (List UInt8))
    (last : List UInt8) :
    layout start capacity position (frames ++ [last]) = layout start capacity position frames ++
        [(start + ((position + frames.flatten.length : Nat) : Int) % capacity,
          (last.length : Int))] := by
  induction frames generalizing position with
  | nil => simp [layout]
  | cons frame rest ih =>
    simp only [cons_append, layout, ih, flatten_cons, length_append, Nat.add_assoc]

theorem layout_drop (start capacity : Int) (position count : Nat) (frames : List (List UInt8)) :
    (layout start capacity position frames).drop count =
      layout start capacity (position + (frames.take count).flatten.length)
        (frames.drop count) := by
  induction frames generalizing position count with
  | nil => simp [layout]
  | cons frame rest ih =>
    cases count with
    | zero => simp
    | succ count =>
      simp only [layout, drop_succ_cons, take_succ_cons, flatten_cons,
        length_append, ih, Nat.add_assoc]

def ringBytes (memory : Int → UInt8) (pSbm : SbmStream) : Nat → UInt8 :=
  fun offset => memory (pSbm.pStreamBuffer + offset)

variable {memory : Int → UInt8} {pSbm : SbmStream}

theorem read_ring_window (positive : 0 < pSbm.nStreamBufferSize) (position count : Nat) :
    readRing memory pSbm (pSbm.pStreamBuffer + position % pSbm.nStreamBufferSize) count =
      window (ringBytes memory pSbm) pSbm.nStreamBufferSize.toNat position count := by
  unfold readRing window ringBytes
  apply map_congr_left
  intro i _
  have size : (pSbm.nStreamBufferSize.toNat : Int) = pSbm.nStreamBufferSize := by omega
  have offset : pSbm.pStreamBuffer + (position : Int) % pSbm.nStreamBufferSize -
      pSbm.pStreamBuffer = (position : Int) % pSbm.nStreamBufferSize := by omega
  rw [offset, Int.emod_add_emod, Int.natCast_emod, size, Int.natCast_add]

theorem layout_bytes {first position : Nat} {earlier log : List UInt8}
    {frames : List (List UInt8)} (positive : 0 < pSbm.nStreamBufferSize)
    (holds : HoldsLog (ringBytes memory pSbm) pSbm.nStreamBufferSize.toNat first log)
    (start : position = earlier.length) (low : first ≤ position)
    (cut : earlier ++ frames.flatten <+: log) :
    (layout pSbm.pStreamBuffer pSbm.nStreamBufferSize position frames).map
      (fun range => readRing memory pSbm range.1 range.2) = frames := by
  induction frames generalizing position earlier with
  | nil => rfl
  | cons frame rest ih =>
    rcases cut with ⟨later, whole⟩
    have log_eq : log = earlier ++ (frame ++ (rest.flatten ++ later)) := by
      rw [← whole, flatten_cons]
      simp only [append_assoc]
    have high : position + frame.length ≤ log.length := by
      rw [log_eq]
      simp only [length_append]
      omega
    have here : (log.drop position).take frame.length = frame := by
      rw [log_eq, start, drop_left, take_left]
    have tail := @ih (position + frame.length) (earlier ++ frame)
      (by rw [length_append, start]) (by omega)
      ⟨later, by rw [log_eq]; simp only [append_assoc]⟩
    rw [layout, map_cons, tail, read_ring_window positive, window_of_log holds low high, here]

end Layout

section Filling

/-- A run of `count` granted bytes of the ring from a position on, in one or two pieces. -/
def ringPieces (start capacity : Int) (position : Nat) (count : Int) : StreamBuffer :=
  let place := start + position % capacity
  if place + count ≤ start + capacity then ⟨place, count, 0, 0⟩
  else ⟨place, start + capacity - place, start, count - (start + capacity - place)⟩

@[simp] theorem ring_pieces_start (start capacity : Int) (position : Nat) (count : Int) :
    (ringPieces start capacity position count).pBuf = start + position % capacity := by
  unfold ringPieces
  dsimp only
  split_ifs <;> rfl

@[simp] theorem ring_pieces_total (start capacity : Int) (position : Nat) (count : Int) :
    (ringPieces start capacity position count).nBufSize +
      (ringPieces start capacity position count).nRingBufSize = count := by
  unfold ringPieces
  dsimp only
  split_ifs
  · exact Int.add_zero _
  · dsimp only
    omega

@[simp] theorem copy_nothing (memory : Int → UInt8) (address : Int) :
    copyTo memory address [] = memory := by
  funext place
  simp [copyTo]

variable {memory : Int → UInt8} {data : List UInt8}

theorem copy_at {address : Int} (index : Nat) : copyTo memory address data (address + index) =
      (data[index]?).getD (memory (address + index)) := by
  unfold copyTo
  rw [if_pos (by omega), show (address + (index : Int) - address).toNat = index by omega]

theorem copy_before {address place : Int}
    (before : place < address) : copyTo memory address data place = memory place := by
  simp [copyTo, Int.not_le.mpr before]

theorem fill_slot {memory : Int → UInt8} {start : Int} {capacity position slot : Nat}
    {count : Int} {data : List UInt8} (fits : (data.length : Int) ≤ count)
    (turn : data.length ≤ capacity) (inside : slot < capacity) :
    fillBuffer memory (ringPieces start capacity position count) data (start + slot) =
      (data[(slot + (capacity - position % capacity)) % capacity]?).getD
        (memory (start + slot)) := by
  have bound : position % capacity < capacity := Nat.mod_lt position (by omega)
  have cast : (position : Int) % (capacity : Int) = ((position % capacity : Nat) : Int) :=
    (Int.natCast_emod position capacity).symm
  unfold ringPieces
  rw [cast]
  generalize position % capacity = place at bound ⊢
  have behind : place ≤ slot → (slot + (capacity - place)) % capacity = slot - place := by
    intro ordered
    rw [show slot + (capacity - place) = slot - place + capacity by omega, Nat.add_mod_right]
    exact Nat.mod_eq_of_lt (by omega)
  have ahead : slot < place → (slot + (capacity - place)) % capacity =
      slot + (capacity - place) := by
    intro ordered
    exact Nat.mod_eq_of_lt (by omega)
  by_cases whole : start + (place : Int) + count ≤ start + capacity
  · rw [if_pos whole]
    have all : data.take count.toNat = data := take_of_length_le (by omega)
    have rest : data.drop count.toNat = [] := drop_eq_nil_of_le (by omega)
    simp only [fillBuffer, all, rest, copy_nothing]
    by_cases ordered : place ≤ slot
    · rw [behind ordered, show start + (slot : Int) = start + place + (slot - place : Nat) by omega,
        copy_at]
    · rw [ahead (by omega), copy_before (by omega), List.getElem?_eq_none (by omega)]
      rfl
  · rw [if_neg whole]
    simp only [fillBuffer]
    rw [show (start + (capacity : Int) - (start + place)).toNat = capacity - place by omega,
      copy_at, List.getElem?_drop]
    by_cases ordered : place ≤ slot
    · rw [behind ordered, List.getElem?_eq_none (by omega),
        show start + (slot : Int) = start + place + (slot - place : Nat) by omega, copy_at,
        List.getElem?_take_of_lt (by omega)]
      rfl
    · rw [ahead (by omega), copy_before (by omega), Nat.add_comm]

end Filling

section ByteLog

/-- The ring after the frames that ended, `flushed` of which are flushed, with
the bytes of the open frame behind them. -/
structure RingKept (pSbm : SbmStream) (memory : Int → UInt8)
    (added : List VideoStreamDataInfo) (frames : List (List UInt8)) (flushed : Nat)
    (pending : List UInt8) : Prop where
  base : 0 < pSbm.pStreamBuffer
  positive : 0 < pSbm.nStreamBufferSize
  sizeRange : pSbm.nStreamBufferSize < 2 ^ 31
  bufferEnd : pSbm.pStreamBufferEnd = pSbm.pStreamBuffer + pSbm.nStreamBufferSize - 1
  writeAddr : pSbm.pWriteAddr =
    pSbm.pStreamBuffer + (frames.flatten.length : Int) % pSbm.nStreamBufferSize
  dataSize : pSbm.nValidDataSize + (frames.take flushed).flatten.length = frames.flatten.length
  room : (frames.flatten.length : Int) + pending.length ≤
    (frames.take flushed).flatten.length + pSbm.nStreamBufferSize
  placed : added.map byteRange = layout pSbm.pStreamBuffer pSbm.nStreamBufferSize 0 frames
  log : HoldsLog (ringBytes memory pSbm) pSbm.nStreamBufferSize.toNat
    (frames.take flushed).flatten.length (frames.flatten ++ pending)

variable {pSbm : SbmStream} {memory : Int → UInt8} {added : List VideoStreamDataInfo}
  {frames : List (List UInt8)} {flushed : Nat} {pending : List UInt8}

theorem take_flatten_le (count : Nat) (frames : List (List UInt8)) :
    (frames.take count).flatten.length ≤ frames.flatten.length := by
  have split := congrArg (fun list => list.flatten.length) (take_append_drop count frames)
  simp only [flatten_append, length_append] at split
  omega

theorem take_flatten_mono (count : Nat) (frames : List (List UInt8)) :
    (frames.take count).flatten.length ≤ (frames.take (count + 1)).flatten.length := by
  rw [take_add, flatten_append, length_append]
  exact Nat.le_add_right _ _

theorem data_nonneg (kept : RingKept pSbm memory added frames flushed pending) :
    0 ≤ pSbm.nValidDataSize := by
  have dataSize := kept.dataSize
  have ordered := take_flatten_le flushed frames
  omega

structure Granted (pSbm : SbmStream) (frames : List (List UInt8)) (flushed : Nat)
    (pending : List UInt8) (granted : StreamBuffer) : Prop where
  entry : pSbm.frameFifo.nValidFrameNum < pSbm.frameFifo.nMaxFrameNum
  pieces : ∃ count : Int, 0 < count ∧ granted = ringPieces pSbm.pStreamBuffer pSbm.nStreamBufferSize
      (frames.flatten.length + pending.length) count ∧
    (frames.flatten.length : Int) + pending.length + count ≤
      (frames.take flushed).flatten.length + pSbm.nStreamBufferSize

theorem wrap_once {position count size : Int} (positive : 0 < size) (nonneg : 0 ≤ count)
    (turn : count ≤ size) :
    (position + count) % size =
      if size ≤ position % size + count then position % size + count - size
      else position % size + count := by
  have low := Int.emod_nonneg position (by omega : size ≠ 0)
  have high := Int.emod_lt_of_pos position positive
  rw [← Int.emod_add_emod]
  generalize position % size = place at low high ⊢
  split_ifs with wraps
  · rw [← Int.sub_emod_right, Int.emod_eq_of_lt (by omega) (by omega)]
  · rw [Int.emod_eq_of_lt (by omega) (by omega)]

variable {info : VideoStreamDataInfo} {nRequireSize : Int} {granted : StreamBuffer}
  (kept : RingKept pSbm memory added frames flushed pending)

include kept

/-- A request is granted the run behind the open frame when an entry is left and
the bytes with their reserve are free. -/
theorem request_value (gathered : info.nLength = pending.length) (nonneg : 0 ≤ nRequireSize)
    (total : InS32 (askedSize nRequireSize + info.nLength + 64)) :
    requestVideoStreamBuffer ⟨some pSbm, info⟩ nRequireSize =
      if pSbm.frameFifo.nValidFrameNum < pSbm.frameFifo.nMaxFrameNum ∧
          (frames.flatten.length : Int) + pending.length + askedSize nRequireSize + 64 ≤
            (frames.take flushed).flatten.length + pSbm.nStreamBufferSize then
        some (ringPieces pSbm.pStreamBuffer pSbm.nStreamBufferSize
          (frames.flatten.length + pending.length) (askedSize nRequireSize))
      else none := by
  have valid := data_nonneg kept
  have sizeRange := kept.sizeRange
  have positive := kept.positive
  have dataSize := kept.dataSize
  have writeAddr := kept.writeAddr
  have room := kept.room
  have ordered := take_flatten_le flushed frames
  unfold InS32 at total
  have positive_size : 0 < askedSize nRequireSize := by
    unfold askedSize
    split_ifs <;> omega
  simp only [requestVideoStreamBuffer]
  rw [← askedSize]
  generalize askedSize nRequireSize = asked at positive_size total ⊢
  have sum : s32 (asked + info.nLength) = asked + info.nLength := s32_of_range ⟨by omega, by omega⟩
  have reserve : s32 (asked + info.nLength + 64) = asked + info.nLength + 64 :=
    s32_of_range ⟨by omega, by omega⟩
  have rest : s32 (asked + info.nLength - info.nLength) = asked := by
    rw [show asked + info.nLength - info.nLength = asked by omega]
    exact s32_of_range ⟨by omega, by omega⟩
  have freeSize : s32 (pSbm.nStreamBufferSize - pSbm.nValidDataSize) =
      pSbm.nStreamBufferSize - pSbm.nValidDataSize := s32_of_range ⟨by omega, by omega⟩
  have start : (if pSbm.pWriteAddr + info.nLength ≥ pSbm.pStreamBuffer + pSbm.nStreamBufferSize
      then pSbm.pWriteAddr + info.nLength - pSbm.nStreamBufferSize
      else pSbm.pWriteAddr + info.nLength) =
      pSbm.pStreamBuffer + ((frames.flatten.length + pending.length : Nat) : Int) %
        pSbm.nStreamBufferSize := by
    rw [Int.natCast_add, wrap_once positive (by omega) (by omega), writeAddr, gathered]
    split_ifs <;> omega
  have same : (frames.flatten.length : Int) + pending.length + asked + 64 ≤
      (frames.take flushed).flatten.length + pSbm.nStreamBufferSize ↔
      asked + info.nLength + 64 ≤ pSbm.nStreamBufferSize - pSbm.nValidDataSize := by omega
  rw [sum]
  unfold sbmStreamRequestBuffer
  simp only [same, freeSize, reserve]
  by_cases full : pSbm.frameFifo.nMaxFrameNum ≤ pSbm.frameFifo.nValidFrameNum
  · rw [if_pos full, if_neg (fun free => absurd full (Nat.not_le.mpr free.1))]
  rw [if_neg full]
  by_cases fits : asked + info.nLength + 64 ≤ pSbm.nStreamBufferSize - pSbm.nValidDataSize
  · have free : pSbm.nValidDataSize < pSbm.nStreamBufferSize := by omega
    have more : ¬ asked + info.nLength ≤ info.nLength := by omega
    rw [if_pos free, if_neg (Int.not_lt.mpr fits), if_pos ⟨Nat.not_le.mp full, fits⟩]
    simp only [if_neg more, start, rest]
    unfold ringPieces
    dsimp only
    split_ifs <;> rfl
  · have never : ¬ (pSbm.frameFifo.nValidFrameNum < pSbm.frameFifo.nMaxFrameNum ∧
        asked + info.nLength + 64 ≤ pSbm.nStreamBufferSize - pSbm.nValidDataSize) :=
      fun free => fits free.2
    rw [if_neg never]
    by_cases free : pSbm.nValidDataSize < pSbm.nStreamBufferSize
    · rw [if_pos free, if_pos (Int.not_le.mp fits)]
    · rw [if_neg free]

theorem request_spec (gathered : info.nLength = pending.length) (nonneg : 0 ≤ nRequireSize)
    (total : InS32 (askedSize nRequireSize + info.nLength + 64))
    (given : requestVideoStreamBuffer ⟨some pSbm, info⟩ nRequireSize = some granted) :
    Granted pSbm frames flushed pending granted := by
  have positive : 0 < askedSize nRequireSize := by
    unfold askedSize
    split_ifs <;> omega
  rw [request_value kept gathered nonneg total] at given
  split_ifs at given with free
  exact ⟨free.1, askedSize nRequireSize, positive, (Option.some.inj given).symm, by omega⟩

theorem fill_ring {data : List UInt8} (given : Granted pSbm frames flushed pending granted)
    (fits : (data.length : Int) ≤ granted.nBufSize + granted.nRingBufSize) :
    RingKept pSbm (fillBuffer memory granted data) added frames flushed (pending ++ data) := by
  rcases given.pieces with ⟨count, positive, rfl, within⟩
  rw [ring_pieces_total] at fits
  have size : (pSbm.nStreamBufferSize.toNat : Int) = pSbm.nStreamBufferSize := by
    have positive := kept.positive
    omega
  have turns : 0 < pSbm.nStreamBufferSize.toNat := by
    have positive := kept.positive
    omega
  have ordered := take_flatten_le flushed frames
  have logged : (frames.flatten ++ pending).length = frames.flatten.length + pending.length :=
    length_append
  have filled : ∀ slot, slot < pSbm.nStreamBufferSize.toNat → ringBytes (fillBuffer memory
        (ringPieces pSbm.pStreamBuffer pSbm.nStreamBufferSize
          (frames.flatten.length + pending.length) count) data) pSbm slot =
        (data[(slot + (pSbm.nStreamBufferSize.toNat -
          (frames.flatten ++ pending).length % pSbm.nStreamBufferSize.toNat)) %
            pSbm.nStreamBufferSize.toNat]?).getD (ringBytes memory pSbm slot) := by
    intro slot inside
    have here := @fill_slot memory pSbm.pStreamBuffer pSbm.nStreamBufferSize.toNat
      (frames.flatten.length + pending.length) slot count data fits (by omega) inside
    rw [size] at here
    rw [logged]
    exact here
  exact
    { kept with
      room := by
        rw [length_append]
        omega
      log := by
        rw [← append_assoc]
        refine holds_log_extend kept.log (by omega) ?_ ?_
        · intro index inside
          have bound := Nat.mod_lt ((frames.flatten ++ pending).length + index) turns
          rw [filled _ bound, distance_of_slot _ turns (by omega), List.getElem?_eq_getElem inside]
          rfl
        · intro position low high untouched
          have bound := Nat.mod_lt position turns
          rw [filled _ bound, List.getElem?_eq_none]
          · rfl
          · by_contra inside
            refine untouched _ (by omega) (slot_of_distance _ turns bound).symm }

omit kept

structure SameRing (earlier later : SbmStream) : Prop where
  start : later.pStreamBuffer = earlier.pStreamBuffer
  size : later.nStreamBufferSize = earlier.nStreamBufferSize
  entries : later.frameFifo.nMaxFrameNum = earlier.frameFifo.nMaxFrameNum

theorem add_refused (full : pSbm.frameFifo.nMaxFrameNum ≤ pSbm.frameFifo.nValidFrameNum) :
    addPartial pSbm info = (pSbm, info) := by
  have refused : sbmStreamAddStream pSbm info = (pSbm, -1) := by
    unfold sbmStreamAddStream
    split_ifs <;> rfl
  simp [addPartial, refused]

def pushed (fifo : StreamFrameFifo) (info : VideoStreamDataInfo) : StreamFrameFifo :=
  { fifo with
    pFrames := Function.update fifo.pFrames fifo.nWritePos info
    nWritePos := if fifo.nMaxFrameNum ≤ fifo.nWritePos + 1 then 0 else fifo.nWritePos + 1
    nValidFrameNum := fifo.nValidFrameNum + 1
    nUnReadFrameNum := fifo.nUnReadFrameNum + 1 }

theorem add_accepted {frame : List UInt8}
    (kept : RingKept pSbm memory added frames flushed (frame ++ pending))
    (within : flushed ≤ frames.length) (address : info.pData = pSbm.pWriteAddr)
    (length : info.nLength = frame.length)
    (entry : pSbm.frameFifo.nValidFrameNum < pSbm.frameFifo.nMaxFrameNum) :
    ∃ next, addPartial pSbm info = (next, stored info) ∧
      next.frameFifo = pushed pSbm.frameFifo (stored info) ∧ SameRing pSbm next ∧
      RingKept next memory (added ++ [stored info]) (frames ++ [frame]) flushed pending := by
  have positive := kept.positive
  have sizeRange := kept.sizeRange
  have base := kept.base
  have bufferEnd := kept.bufferEnd
  have writeAddr := kept.writeAddr
  have dataSize := kept.dataSize
  have room := kept.room
  have valid := data_nonneg kept
  have ordered := take_flatten_le flushed frames
  have low := Int.emod_nonneg (frames.flatten.length : Int)
    (by omega : pSbm.nStreamBufferSize ≠ 0)
  rw [length_append] at room
  have notNull : ¬ info.pData = 0 := by
    rw [address, writeAddr]
    omega
  have exact : s32 (info.nLength + pSbm.nValidDataSize) = info.nLength + pSbm.nValidDataSize :=
    s32_of_range ⟨by omega, by omega⟩
  have fits : ¬ info.nLength + pSbm.nValidDataSize > pSbm.nStreamBufferSize := by omega
  have stored_length : (stored info).nLength = info.nLength := congrArg Prod.snd (stored_range info)
  have accepted : ∃ next, sbmStreamAddStream pSbm info = (next, 0) ∧
      next = { pSbm with
        frameFifo := pushed pSbm.frameFifo (stored info)
        nValidDataSize := s32 (pSbm.nValidDataSize + (stored info).nLength)
        pWriteAddr :=
          if pSbm.pWriteAddr + (stored info).nLength > pSbm.pStreamBufferEnd then
            pSbm.pWriteAddr + (stored info).nLength - pSbm.nStreamBufferSize
          else pSbm.pWriteAddr + (stored info).nLength } := by
    refine ⟨_, ?_, rfl⟩
    simp only [sbmStreamAddStream, if_neg notNull, if_neg (Nat.not_le.mpr entry), exact,
      if_neg fits]
    rfl
  rcases accepted with ⟨next, add, shape⟩
  have total : (frames ++ [frame]).flatten = frames.flatten ++ frame := by
    rw [flatten_append, flatten_singleton]
  have flushedTotal : (frames ++ [frame]).take flushed = frames.take flushed :=
    take_append_of_le_length within
  refine ⟨next, ?_, by rw [shape], by
    rw [shape]
    exact ⟨rfl, rfl, rfl⟩, ?_⟩
  · simp only [addPartial, add, stored, true_and]
  rw [shape, stored_length, Int.add_comm pSbm.nValidDataSize, exact]
  exact
    { base := base
      positive := positive
      sizeRange := sizeRange
      bufferEnd := bufferEnd
      writeAddr := by
        dsimp only
        rw [total, length_append, Int.natCast_add, wrap_once positive (by omega) (by omega),
          writeAddr, length]
        split_ifs <;> omega
      dataSize := by
        dsimp only
        rw [total, flushedTotal, length_append]
        omega
      room := by
        dsimp only
        rw [total, flushedTotal, length_append]
        omega
      placed := by
        dsimp only
        rw [map_append, kept.placed, layout_append, map_singleton, stored_range,
          Nat.zero_add, byteRange, address, writeAddr, length]
      log := by
        dsimp only
        rw [total, flushedTotal, append_assoc]
        exact kept.log }

theorem flush_ring {range : Int} {fifo : StreamFrameFifo}
    (kept : RingKept pSbm memory added frames flushed pending)
    (oldest : ∃ frame rest, frames.drop flushed = frame :: rest ∧ range = (frame.length : Int)) :
    RingKept
      { pSbm with frameFifo := fifo, nValidDataSize := s32 (pSbm.nValidDataSize - range) }
      memory added frames (flushed + 1) pending := by
  rcases oldest with ⟨frame, rest, split, rfl⟩
  have sizeRange := kept.sizeRange
  have dataSize := kept.dataSize
  have room := kept.room
  have bound := take_flatten_le (flushed + 1) frames
  have grown : (frames.take (flushed + 1)).flatten.length =
      (frames.take flushed).flatten.length + frame.length := by
    rw [take_add, split, take_succ_cons, take_zero, flatten_append,
      flatten_singleton, length_append]
  have exact : s32 (pSbm.nValidDataSize - frame.length) = pSbm.nValidDataSize - frame.length :=
    s32_of_range ⟨by omega, by omega⟩
  rw [exact]
  exact
    { kept with
      dataSize := by
        dsimp only
        omega
      room := by
        dsimp only
        omega
      log := holds_log_later kept.log (by omega) }

end ByteLog

section Gathering

/-- Both cyclic structures between the two tests of a submit; `pending` are the
bytes behind the last frame that ended. -/
structure Gathering (pSbm : SbmStream) (memory : Int → UInt8) (held : List Nat)
    (added delivered flushed : List VideoStreamDataInfo) (frames : List (List UInt8))
    (pending : List UInt8) : Prop where
  fifo : FifoKept pSbm.frameFifo held added delivered flushed
  ring : RingKept pSbm memory added frames flushed.length pending
  arrived : added.length = frames.length

variable {pSbm : SbmStream} {memory : Int → UInt8} {held : List Nat}
  {added delivered flushed : List VideoStreamDataInfo} {frames : List (List UInt8)}
  {pending : List UInt8} {info : VideoStreamDataInfo} {pDataInfo : StreamPart}

theorem gathering_add {frame : List UInt8}
    (kept : Gathering pSbm memory held added delivered flushed frames (frame ++ pending))
    (address : info.pData = pSbm.pWriteAddr) (length : info.nLength = frame.length)
    (entry : pSbm.frameFifo.nValidFrameNum < pSbm.frameFifo.nMaxFrameNum) :
    ∃ next, addPartial pSbm info = (next, stored info) ∧
      next.frameFifo = pushed pSbm.frameFifo (stored info) ∧ SameRing pSbm next ∧
      Gathering next memory held (added ++ [stored info]) delivered flushed (frames ++ [frame])
        pending := by
  have ordered := kept.fifo.flushedDelivered
  have inside := kept.fifo.deliveredAdded
  have arrived := kept.arrived
  rcases add_accepted kept.ring (by omega) address length entry with
    ⟨next, add, fifo, same, ring⟩
  refine ⟨next, add, fifo, same, ?_, ring, ?_⟩
  · rw [fifo]
    exact add_stream_fifo kept.fifo entry
  · rw [length_append, length_append, arrived]
    rfl

theorem added_by_spec {later : SbmStream} {new : List VideoStreamDataInfo}
    (before : FifoKept pSbm.frameFifo held added delivered flushed)
    (after : FifoKept later.frameFifo held (added ++ new) delivered flushed)
    (capacity : later.frameFifo.nMaxFrameNum = pSbm.frameFifo.nMaxFrameNum) :
    addedBy pSbm later = new := by
  have ordered := before.flushedDelivered
  have inside := before.deliveredAdded
  have validBefore := before.valid
  have validAfter := after.valid
  rw [length_append] at validAfter
  have count : later.frameFifo.nValidFrameNum - pSbm.frameFifo.nValidFrameNum = new.length := by
    omega
  have split := window_split later.frameFifo.pFrames later.frameFifo.nMaxFrameNum flushed.length
    (added.length - flushed.length) new.length
  rw [show added.length - flushed.length + new.length =
      (added ++ new).length - flushed.length by
        rw [length_append]
        omega,
    after.contents, show flushed.length + (added.length - flushed.length) = added.length by omega,
    drop_append_of_le_length (by omega)] at split
  have tail := (append_inj split (by simp)).2
  unfold addedBy
  dsimp only
  rw [count, before.writePos, ← capacity, window_cursor]
  exact tail.symm

theorem gather_spec {bytes data : List UInt8}
    (kept : Gathering pSbm memory held added delivered flushed frames (bytes ++ data))
    (length : info.nLength = bytes.length)
    (address : bytes ≠ [] ∨ pDataInfo.bIsFirstPart = 0 → info.pData = pSbm.pWriteAddr)
    (entry : pSbm.frameFifo.nValidFrameNum < pSbm.frameFifo.nMaxFrameNum)
    (partAddress : pDataInfo.pData = pSbm.pStreamBuffer +
      ((frames.flatten.length + bytes.length : Nat) : Int) % pSbm.nStreamBufferSize)
    (partLength : pDataInfo.nLength = data.length) :
    ∃ next info' new, gatherPart pSbm info pDataInfo = (next, info') ∧
      Gathering next memory held (added ++ new) delivered flushed
        (gatherBytes frames bytes pDataInfo data).1
        (gatherBytes frames bytes pDataInfo data).2 ∧
      info'.pData = next.pWriteAddr ∧
      info'.nLength = (gatherBytes frames bytes pDataInfo data).2.length ∧
      SameRing pSbm next ∧
      next.frameFifo.nValidFrameNum = pSbm.frameFifo.nValidFrameNum + new.length ∧
      new.length = (if pDataInfo.bIsFirstPart ≠ 0 ∧ info.nLength ≠ 0 then 1 else 0) := by
  have room := kept.ring.room
  have sizeRange := kept.ring.sizeRange
  have ordered := take_flatten_le flushed.length frames
  rw [length_append] at room
  by_cases first : pDataInfo.bIsFirstPart ≠ 0
  · by_cases empty : bytes = []
    · subst empty
      have none_gathered : ¬ info.nLength ≠ 0 := by
        rw [length]
        simp
      refine ⟨pSbm, _, [], by
        simp only [gatherPart, if_pos first, if_neg none_gathered]
        rfl, ?_, ?_, ?_, ⟨rfl, rfl, rfl⟩, rfl, ?_⟩
      · simpa [gatherBytes, first] using kept
      · rw [partAddress, kept.ring.writeAddr]
        simp
      · simp [gatherBytes, first, partLength]
      · rw [if_neg (by simp [none_gathered])]
        rfl
    · have some_gathered : info.nLength ≠ 0 := by
        have positive : bytes.length ≠ 0 := by simpa using empty
        omega
      rcases gathering_add kept (address (Or.inl empty)) length entry with
        ⟨next, add, fifo, same, gathering⟩
      refine ⟨next, _, [stored info], by
        simp only [gatherPart, if_pos first, if_pos some_gathered, add]
        rfl, ?_, ?_, ?_, same, ?_, ?_⟩
      · simpa only [gatherBytes, if_pos first, if_neg empty] using gathering
      · rw [gathering.ring.writeAddr, partAddress, same.start, same.size, flatten_append,
          flatten_singleton, length_append]
      · simp [gatherBytes, first, partLength]
      · rw [fifo]
        rfl
      · rw [if_pos ⟨first, some_gathered⟩]
        rfl
  · have later : pDataInfo.bIsFirstPart = 0 := by omega
    have exact : s32 (info.nLength + pDataInfo.nLength) = info.nLength + pDataInfo.nLength :=
      s32_of_range ⟨by omega, by omega⟩
    refine ⟨pSbm, _, [], by
      simp only [gatherPart, if_neg first, exact]
      rfl, ?_, ?_, ?_, ⟨rfl, rfl, rfl⟩, rfl, ?_⟩
    · simpa [gatherBytes, later] using kept
    · exact address (Or.inr later)
    · simp only [gatherBytes, if_neg first, length_append]
      omega
    · rw [if_neg (by simp [later])]
      rfl

theorem close_spec (kept : Gathering pSbm memory held added delivered flushed frames pending)
    (address : info.pData = pSbm.pWriteAddr) (length : info.nLength = pending.length)
    (entry : pDataInfo.bIsLastPart ≠ 0 →
      pSbm.frameFifo.nValidFrameNum < pSbm.frameFifo.nMaxFrameNum) :
    ∃ next info' new, closeFrame pSbm info pDataInfo = (next, info') ∧
      Gathering next memory held (added ++ new) delivered flushed
        (if pDataInfo.bIsLastPart ≠ 0 then frames ++ [pending] else frames)
        (if pDataInfo.bIsLastPart ≠ 0 then [] else pending) ∧
      info'.nLength = (if pDataInfo.bIsLastPart ≠ 0 then [] else pending).length ∧
      (pDataInfo.bIsLastPart = 0 → info'.pData = next.pWriteAddr) ∧ SameRing pSbm next := by
  by_cases last : pDataInfo.bIsLastPart ≠ 0
  · have whole : Gathering pSbm memory held added delivered flushed frames (pending ++ []) := by
      rw [append_nil]
      exact kept
    rcases gathering_add whole address length (entry last) with
      ⟨next, add, -, same, gathering⟩
    refine ⟨next, _, [stored info], by
      simp only [closeFrame, if_pos last, add]
      rfl, ?_, ?_, fun more => absurd more last, same⟩
    · simpa only [if_pos last] using gathering
    · rw [if_pos last]
      rfl
  · refine ⟨pSbm, info, [], by simp only [closeFrame, if_neg last], ?_, ?_, fun _ => address,
      ⟨rfl, rfl, rfl⟩⟩
    · simpa only [if_neg last, append_nil] using kept
    · rw [if_neg last]
      exact length

end Gathering

variable {system : SubmitSystem}

structure SubmitKept (system : SubmitSystem) : Prop where
  gathering : Gathering system.sbm system.memory system.held system.added system.delivered
    system.flushed system.frames (system.openFrame.getD [])
  length : system.gathered.nLength = (system.openFrame.getD []).length
  address : system.openFrame ≠ none → system.gathered.pData = system.sbm.pWriteAddr
  granted : ∀ granted ∈ system.grant, Granted system.sbm system.frames system.flushed.length
    (system.openFrame.getD []) granted

theorem start_kept {nSbmBufferTotalSize pSbmBuf : Int} (positive : 0 < nSbmBufferTotalSize)
    (range : InS32 nSbmBufferTotalSize) (allocated : 0 < pSbmBuf) :
    ∃ system, SubmitSystem.start nSbmBufferTotalSize pSbmBuf = some system ∧ SubmitKept system := by
  have notEmpty : ¬ nSbmBufferTotalSize ≤ 0 := by omega
  have notNull : ¬ pSbmBuf = 0 := by omega
  refine ⟨_, by
    simp only [SubmitSystem.start, sbmStreamInit, if_neg notEmpty, if_neg notNull, Option.map_some]
    rfl, ?_⟩
  exact
    { gathering :=
        { fifo := by constructor <;> simp [window, SBM_FRAME_FIFO_SIZE]
          ring :=
            { base := allocated
              positive := positive
              sizeRange := range.2
              bufferEnd := rfl
              writeAddr := by simp
              dataSize := by simp
              room := by
                simp
                omega
              placed := rfl
              log := by
                intro position low high
                simp at high }
          arrived := rfl }
      length := rfl
      address := by simp
      granted := by simp }

theorem contract_of_kept (kept : SubmitKept system) : SubmitContract system := by
  have all : chunks system = system.added.drop system.flushed.length :=
    fifo_unflushed kept.gathering.fifo
  have ring := kept.gathering.ring
  constructor
  · exact kept.gathering.arrived
  · rw [kept.gathering.fifo.deliveredPrefix]
    exact take_prefix _ _
  · rw [all]
    nth_rewrite 1 [kept.gathering.fifo.flushedPrefix]
    exact take_append_drop _ _
  · have places : (chunks system).map (chunkBytes system) =
        ((system.added.map byteRange).drop system.flushed.length).map
          (fun range => readRing system.memory system.sbm range.1 range.2) := by
      rw [all, map_drop, map_drop, map_map]
      rfl
    rw [places, ring.placed, layout_drop]
    refine layout_bytes ring.positive ring.log (Nat.zero_add _) (Nat.le_of_eq (Nat.zero_add _).symm)
      ⟨system.openFrame.getD [], ?_⟩
    rw [← flatten_append, take_append_drop]

variable {pSbm next : SbmStream} {pDataInfo : StreamPart} {data pending : List UInt8} {result : Int}
  {frames : List (List UInt8)} {flushed : Nat}

theorem legal_gather (kept : SubmitKept system) (legal : Legal system (.submit pDataInfo data)) :
    ∃ granted next info new, system.grant = some granted ∧
      gatherPart system.sbm system.gathered pDataInfo = (next, info) ∧
      Gathering next (fillBuffer system.memory granted data) system.held (system.added ++ new)
        system.delivered system.flushed
        (gatherBytes system.frames (system.openFrame.getD []) pDataInfo data).1
        (gatherBytes system.frames (system.openFrame.getD []) pDataInfo data).2 ∧
      info.pData = next.pWriteAddr ∧
      info.nLength =
        (gatherBytes system.frames (system.openFrame.getD []) pDataInfo data).2.length ∧
      SameRing system.sbm next ∧
      next.frameFifo.nValidFrameNum = system.sbm.frameFifo.nValidFrameNum + new.length ∧
      new.length = (if pDataInfo.bIsFirstPart ≠ 0 ∧ system.gathered.nLength ≠ 0 then 1 else 0) ∧
      system.sbm.frameFifo.nValidFrameNum < system.sbm.frameFifo.nMaxFrameNum := by
  rcases legal with ⟨granted, given, address, length, fits, opened⟩
  have grant := kept.granted granted given
  rcases grant.pieces with ⟨count, positive, pieces, within⟩
  have filled : Gathering system.sbm (fillBuffer system.memory granted data) system.held
      system.added system.delivered system.flushed system.frames
      (system.openFrame.getD [] ++ data) :=
    { kept.gathering with
      ring := fill_ring kept.gathering.ring grant (by omega) }
  have partAddress : pDataInfo.pData = system.sbm.pStreamBuffer +
      ((system.frames.flatten.length + (system.openFrame.getD []).length : Nat) : Int) %
        system.sbm.nStreamBufferSize := by
    rw [address, pieces, ring_pieces_start]
  have gatheredAddress : system.openFrame.getD [] ≠ [] ∨ pDataInfo.bIsFirstPart = 0 →
      system.gathered.pData = system.sbm.pWriteAddr := by
    rintro (bytes | later)
    · apply kept.address
      intro closed
      rw [closed] at bytes
      exact bytes rfl
    · exact kept.address (opened later)
  rcases gather_spec filled kept.length gatheredAddress grant.entry partAddress length with
    ⟨next, info, new, step, gathering, place, size, same, valid, count⟩
  exact ⟨granted, next, info, new, given, step, gathering, place, size, same, valid, count,
    grant.entry⟩

theorem submit_kept (kept : SubmitKept system) (legal : Legal system (.submit pDataInfo data))
    (room : EntryForBoth system (.submit pDataInfo data)) :
    ∃ next, exec system (.submit pDataInfo data) = some next ∧ SubmitKept next ∧
      next.frames = framesAfter system.frames system.openFrame pDataInfo data ∧
      next.openFrame = openAfter system.frames system.openFrame pDataInfo data ∧
      next.flushed = system.flushed ∧ SameRing system.sbm next.sbm := by
  rcases legal_gather kept legal with
    ⟨granted, sbm, info, new, given, gather, gathering, place, size, same, valid, count, entry⟩
  have entry_left : pDataInfo.bIsLastPart ≠ 0 →
      sbm.frameFifo.nValidFrameNum < sbm.frameFifo.nMaxFrameNum := by
    intro last
    have entries := same.entries
    by_cases displaced : pDataInfo.bIsFirstPart ≠ 0 ∧ system.gathered.nLength ≠ 0
    · rw [if_pos displaced] at count
      have notLast : system.sbm.frameFifo.nValidFrameNum + 1 ≠
          system.sbm.frameFifo.nMaxFrameNum := by
        intro both
        exact room ⟨displaced.1, last, displaced.2, both⟩
      omega
    · rw [if_neg displaced] at count
      omega
  rcases close_spec gathering place size entry_left with
    ⟨later, info', new', close, closed, size', place', same'⟩
  have observed : addedBy system.sbm later = new ++ new' := by
    have fifo := closed.fifo
    rw [append_assoc] at fifo
    exact added_by_spec kept.gathering.fifo fifo (same'.entries.trans same.entries)
  refine ⟨{ system with
    sbm := later
    gathered := info'
    memory := fillBuffer system.memory granted data
    grant := none
    added := system.added ++ (new ++ new')
    frames := framesAfter system.frames system.openFrame pDataInfo data
    openFrame := openAfter system.frames system.openFrame pDataInfo data }, ?_, ?_, rfl, rfl, rfl,
    ⟨same'.start.trans same.start, same'.size.trans same.size, same'.entries.trans same.entries⟩⟩
  · simp only [exec, submitVideoStreamData, given, gather, close, observed]
  · rw [← append_assoc]
    by_cases last : pDataInfo.bIsLastPart ≠ 0
    · simp only [if_pos last] at closed size'
      refine ⟨?_, ?_, ?_, by simp⟩
      · simpa only [framesAfter, openAfter, if_pos last, Option.getD_none] using closed
      · simpa only [openAfter, if_pos last, Option.getD_none] using size'
      · simp only [openAfter, if_pos last, ne_eq, not_true_eq_false, false_implies]
    · simp only [if_neg last] at closed size'
      refine ⟨?_, ?_, ?_, by simp⟩
      · simpa only [framesAfter, openAfter, if_neg last, Option.getD_some] using closed
      · simpa only [openAfter, if_neg last, Option.getD_some] using size'
      · intro _
        exact place' (by omega)

theorem request_stream_capacity (pSbm : SbmStream) :
    (sbmStreamRequestStream pSbm).1.frameFifo.nMaxFrameNum = pSbm.frameFifo.nMaxFrameNum := by
  unfold sbmStreamRequestStream
  dsimp only
  split_ifs <;> rfl

theorem return_stream_capacity {pDataInfo : Nat}
    (returned : sbmStreamReturnStream pSbm pDataInfo = some (next, result)) :
    next.frameFifo.nMaxFrameNum = pSbm.frameFifo.nMaxFrameNum := by
  unfold sbmStreamReturnStream at returned
  dsimp only at returned
  split_ifs at returned <;> cases returned <;> rfl

theorem flush_stream_capacity {pDataInfo : Nat}
    (flushed : sbmStreamFlushStream pSbm pDataInfo = some (next, result)) :
    next.frameFifo.nMaxFrameNum = pSbm.frameFifo.nMaxFrameNum := by
  unfold sbmStreamFlushStream at flushed
  dsimp only at flushed
  split_ifs at flushed <;> cases flushed <;> rfl

theorem entries_move {fifo : StreamFrameFifo} {granted : StreamBuffer}
    (grant : Granted pSbm frames flushed pending granted)
    (capacity : fifo.nMaxFrameNum = pSbm.frameFifo.nMaxFrameNum)
    (valid : fifo.nValidFrameNum = pSbm.frameFifo.nValidFrameNum) :
    Granted { pSbm with frameFifo := fifo } frames flushed pending granted where
  entry := by
    change fifo.nValidFrameNum < fifo.nMaxFrameNum
    rw [capacity, valid]
    exact grant.entry
  pieces := grant.pieces

theorem oldest_frame {memory : Int → UInt8} {added rest : List VideoStreamDataInfo}
    {chunk : VideoStreamDataInfo} (kept : RingKept pSbm memory added frames flushed pending)
    (oldest : added.drop flushed = chunk :: rest) :
    ∃ frame later, frames.drop flushed = frame :: later ∧ chunk.nLength = (frame.length : Int) := by
  have places := congrArg (List.drop flushed) kept.placed
  rw [← map_drop, oldest, layout_drop, map_cons] at places
  cases split : frames.drop flushed with
  | nil =>
    rw [split] at places
    cases places
  | cons frame later =>
    rw [split, layout] at places
    exact ⟨frame, later, rfl, congrArg Prod.snd (List.cons.inj places).1⟩

theorem moved_kept {next : StreamFrameFifo} {held : List Nat} {delivered : List VideoStreamDataInfo}
    (kept : SubmitKept system) (fifo : FifoKept next held system.added delivered system.flushed)
    (capacity : next.nMaxFrameNum = system.sbm.frameFifo.nMaxFrameNum) :
    SubmitKept { system with
      sbm := { system.sbm with frameFifo := next }, held := held, delivered := delivered } :=
  { kept with
    gathering :=
      { fifo := fifo
        ring := { kept.gathering.ring with }
        arrived := kept.gathering.arrived }
    granted := by
      intro granted member
      exact entries_move (kept.granted granted member) capacity
        (by rw [fifo.valid, kept.gathering.fifo.valid]) }

theorem exec_kept {op : SubmitOp} (kept : SubmitKept system) (legal : Legal system op)
    (room : EntryForBoth system op) : ∃ next, exec system op = some next ∧ SubmitKept next := by
  cases op with
  | requestBuffer nRequireSize =>
    cases given : requestVideoStreamBuffer ⟨some system.sbm, system.gathered⟩ nRequireSize with
    | none =>
      exact ⟨{ system with grant := none }, by simp only [exec, given],
        { kept with granted := by simp }⟩
    | some granted =>
      have grant := request_spec kept.gathering.ring kept.length legal.1 legal.2 given
      exact ⟨{ system with grant := some granted }, by simp only [exec, given],
        { kept with
          granted := by
            intro other member
            obtain rfl : granted = other := by simpa using member
            exact grant }⟩
  | submit pDataInfo data =>
    rcases submit_kept kept legal room with ⟨next, step, kept, -⟩
    exact ⟨next, step, kept⟩
  | requestStream =>
    rcases request_stream_spec kept.gathering.fifo with empty | ⟨next, delivered, fifo⟩
    · exact ⟨system, by simp only [exec, empty], kept⟩
    · have capacity := request_stream_capacity system.sbm
      rw [delivered] at capacity
      refine ⟨_, ?_, moved_kept kept fifo capacity⟩
      simp only [exec, delivered]
  | returnStream pDataInfo =>
    rcases return_stream_spec kept.gathering.fifo legal with ⟨next, returned, fifo⟩
    refine ⟨_, ?_, moved_kept kept fifo (return_stream_capacity returned)⟩
    simp [exec, returned]
  | flushStream pDataInfo =>
    rcases flush_stream_spec kept.gathering.fifo legal with
      ⟨next, chunk, rest, pending, pointed, returned, pending', fifo⟩
    have capacity := flush_stream_capacity returned
    have oldest := oldest_frame kept.gathering.ring pending
    have counted : (system.flushed ++ [chunk]).length = system.flushed.length + 1 := by
      rw [length_append, length_singleton]
    refine ⟨{ system with
      sbm := { system.sbm with
        frameFifo := next, nValidDataSize := s32 (system.sbm.nValidDataSize - chunk.nLength) }
      held := system.held.tail
      flushed := system.flushed ++ [chunk] }, by simp [exec, returned, pointed], ?_⟩
    exact
      { kept with
        gathering :=
          { fifo := fifo
            ring := by
              rw [counted]
              exact flush_ring kept.gathering.ring oldest
            arrived := kept.gathering.arrived }
        granted := by
          intro granted member
          rcases kept.granted granted member with ⟨entry, count, positive, pieces, within⟩
          have fewer := fifo.valid
          have before := kept.gathering.fifo.valid
          rw [counted] at fewer
          refine ⟨?_, count, positive, pieces, ?_⟩
          · dsimp only at capacity ⊢
            omega
          · have grows := take_flatten_mono system.flushed.length system.frames
            dsimp only
            rw [counted]
            omega }

/-- From a fresh decoder every legal run none of whose submits needs two entries
of the frame FIFO where one is left ends, and each frame that ended has become
one chunk with the bytes of its parts, in the order of submission. -/
theorem submitted_frames_arrive {nSbmBufferTotalSize pSbmBuf : Int} {ops : List SubmitOp}
    (positive : 0 < nSbmBufferTotalSize) (range : InS32 nSbmBufferTotalSize)
    (allocated : 0 < pSbmBuf) :
    ∃ start, SubmitSystem.start nSbmBufferTotalSize pSbmBuf = some start ∧
      (StepsMeet Legal exec start ops → StepsMeet EntryForBoth exec start ops →
        ∃ final, runOps exec start ops = some final ∧ SubmitContract final) := by
  rcases start_kept positive range allocated with ⟨start, created, kept⟩
  refine ⟨start, created, ?_⟩
  intro legal room
  have ends := @guarded_run_ends _ _
    (fun system op => Legal system op ∧ EntryForBoth system op) exec SubmitKept
    (fun _ _ kept step => exec_kept kept step.1 step.2) start ops kept
    (steps_meet_and legal room)
  rcases ends with ⟨final, run, kept⟩
  exact ⟨final, run, contract_of_kept kept⟩

/-- A frame displaced by the next first part, a frame in two parts that runs over
the end of the ring, and chunks that are given back and flushed in between. -/
def partialSubmitRun : List SubmitOp :=
  [.requestBuffer 30, .submit ⟨⟨4096, 30, 1, 0⟩, 1, 0⟩ (List.replicate 30 1),
    .requestBuffer 3, .submit ⟨⟨4126, 3, 2, 0⟩, 1, 1⟩ [2, 3, 4], .requestStream, .requestStream,
    .returnStream 1, .requestStream, .flushStream 0, .requestBuffer 32,
    .submit ⟨⟨4129, 32, 3, 0⟩, 1, 0⟩ (List.replicate 32 5), .flushStream 1, .requestBuffer 50,
    .submit ⟨⟨4161, 50, -1, 0⟩, 0, 1⟩ (List.replicate 50 6), .requestStream]

theorem partial_submit_run_contract : ∃ start, SubmitSystem.start 160 4096 = some start ∧
      ∃ final, runOps exec start partialSubmitRun = some final ∧ SubmitContract final := by
  rcases @submitted_frames_arrive 160 4096 partialSubmitRun (by decide) (by decide) (by decide)
    with ⟨start, created, arrive⟩
  obtain rfl : _ = start := Option.some.inj created
  exact ⟨_, rfl, arrive (by decide) (by decide)⟩

/-- The ring after frames of one byte, each in its entry. -/
def filledRing (count : Nat) (pFrames : Nat → VideoStreamDataInfo) : SbmStream :=
  ⟨4096, 69631, 65536, 4096 + count, count,
    ⟨pFrames, SBM_FRAME_FIFO_SIZE, count, count, 0, count % SBM_FRAME_FIFO_SIZE, 0⟩⟩

structure Filled (count : Nat) (system : SubmitSystem) : Prop where
  ring : ∃ pFrames, system.sbm = filledRing count pFrames
  gathered : ∃ bValid, system.gathered = ⟨0, 0, -1, bValid⟩
  frames : system.frames.length = count
  added : system.added.length = count
  closed : system.openFrame = none

def oneByteFrame (position : Nat) : List SubmitOp :=
  [.requestBuffer 1, .submit ⟨⟨4096 + position, 1, 0, 0⟩, 1, 1⟩ [0]]

variable {count : Nat} {pFrames : Nat → VideoStreamDataInfo}

theorem one_byte_granted {bValid : Int} (room : count < SBM_FRAME_FIFO_SIZE) :
    requestVideoStreamBuffer ⟨some (filledRing count pFrames), 0, 0, -1, bValid⟩ 1 =
      some ⟨4096 + count, 1, 0, 0⟩ := by
  have capacity : SBM_FRAME_FIFO_SIZE = 2048 := rfl
  rw [capacity] at room
  have free : s32 (65536 - (count : Int)) = 65536 - count := s32_of_range ⟨by omega, by omega⟩
  have one : s32 1 = 1 := rfl
  have aligned : s32 (1 + 64) = 65 := rfl
  simp (disch := omega) only [requestVideoStreamBuffer, sbmStreamRequestBuffer, filledRing, one,
    aligned, free, capacity, Int.add_zero, Int.sub_zero, if_pos, if_neg, reduceIte, Int.reduceEq]

theorem one_byte_added {info : VideoStreamDataInfo} (room : count < SBM_FRAME_FIFO_SIZE)
    (place : info.pData = 4096 + count) (length : info.nLength = 1) :
    ∃ pFrames', sbmStreamAddStream (filledRing count pFrames) info =
      (filledRing (count + 1) pFrames', 0) := by
  have capacity : SBM_FRAME_FIFO_SIZE = 2048 := rfl
  rw [capacity] at room
  have size : s32 (1 + (count : Int)) = 1 + count := s32_of_range ⟨by omega, by omega⟩
  have total : s32 ((count : Int) + 1) = count + 1 := s32_of_range ⟨by omega, by omega⟩
  have same : (if info.bValid = 0 then { info with bValid := 1 } else info).nLength = 1 := by
    split <;> exact length
  have slot : (if 2048 ≤ count % 2048 + 1 then 0 else count % 2048 + 1) = (count + 1) % 2048 := by
    split <;> omega
  unfold sbmStreamAddStream filledRing
  generalize (if info.bValid = 0 then { info with bValid := 1 } else info) = chunk at same ⊢
  apply Exists.intro (Function.update pFrames (count % SBM_FRAME_FIFO_SIZE) chunk)
  dsimp only
  rw [place, length, same, size, total, capacity, slot, if_neg (by omega), if_neg (by omega),
    if_neg (by omega), if_neg (by omega), Int.natCast_succ, Int.add_assoc]

theorem steps_meet_cons {earlier later : SubmitSystem} {op : SubmitOp} {rest : List SubmitOp}
    (step : exec earlier op = some later) (legal : Legal earlier op)
    (remaining : StepsMeet Legal exec later rest) : StepsMeet Legal exec earlier (op :: rest) := by
  apply And.intro legal
  intro other again
  obtain rfl : later = other := Option.some.inj (step.symm.trans again)
  exact remaining

theorem one_byte_step (filled : Filled count system) (room : count < SBM_FRAME_FIFO_SIZE) :
    ∃ next, runOps exec system (oneByteFrame count) = some next ∧
      StepsMeet Legal exec system (oneByteFrame count) ∧ Filled (count + 1) next := by
  rcases system with ⟨_, _, memory, grant, held, added, delivered, flushed, frames, _⟩
  rcases filled with ⟨⟨pFrames, rfl⟩, ⟨bValid, rfl⟩, framesLength, addedLength, rfl⟩
  rcases @one_byte_added count pFrames ⟨4096 + count, 1, 0, bValid⟩ room rfl rfl with
    ⟨pFrames', add⟩
  have request : exec ⟨filledRing count pFrames, ⟨0, 0, -1, bValid⟩, memory, grant, held, added,
      delivered, flushed, frames, none⟩ (.requestBuffer 1) =
    some ⟨filledRing count pFrames, ⟨0, 0, -1, bValid⟩, memory, some ⟨4096 + count, 1, 0, 0⟩, held,
      added, delivered, flushed, frames, none⟩ := by
    simp only [exec, one_byte_granted room]
  have gather : gatherPart (filledRing count pFrames) ⟨0, 0, -1, bValid⟩
      ⟨⟨4096 + count, 1, 0, 0⟩, 1, 1⟩ =
    (filledRing count pFrames, ⟨4096 + count, 1, 0, bValid⟩) := rfl
  have submit : ∃ bValid' memory', exec ⟨filledRing count pFrames, ⟨0, 0, -1, bValid⟩, memory,
      some ⟨4096 + count, 1, 0, 0⟩, held, added, delivered, flushed, frames, none⟩
      (.submit ⟨⟨4096 + count, 1, 0, 0⟩, 1, 1⟩ [0]) =
    some ⟨filledRing (count + 1) pFrames', ⟨0, 0, -1, bValid'⟩, memory', none, held,
      added ++ addedBy (filledRing count pFrames) (filledRing (count + 1) pFrames'), delivered,
      flushed, frames ++ [[0]], none⟩ := by
    unfold exec submitVideoStreamData closeFrame addPartial
    dsimp only
    rw [gather, add]
    exact ⟨_, _, rfl⟩
  rcases submit with ⟨bValid', memory', submit⟩
  refine ⟨_, (run_cons _ _ _ _ _).mpr ⟨_, request, (run_cons _ _ _ _ _).mpr ⟨_, submit, rfl⟩⟩,
    steps_meet_cons request ⟨by decide, ?_⟩ (steps_meet_cons submit
      ⟨_, rfl, rfl, rfl, Int.le_refl 1, fun later => nomatch later⟩ trivial),
    ⟨pFrames', rfl⟩, ⟨bValid', rfl⟩, ?_, ?_, rfl⟩
  · exact (by decide : InS32 (askedSize 1 + 0 + 64))
  · simp [framesLength]
  · simp [addedLength, addedBy, filledRing]

def oneByteFrames (count : Nat) : List SubmitOp := (List.range count).flatMap oneByteFrame

theorem one_byte_run {start : SubmitSystem} (initial : Filled 0 start)
    (room : count ≤ SBM_FRAME_FIFO_SIZE) :
    ∃ next, runOps exec start (oneByteFrames count) = some next ∧
      StepsMeet Legal exec start (oneByteFrames count) ∧ Filled count next := by
  induction count with
  | zero => exact ⟨start, rfl, trivial, initial⟩
  | succ count ih =>
    rcases ih (by omega) with ⟨middle, run, legal, filled⟩
    rcases one_byte_step filled (by omega) with ⟨next, step, legal', filled'⟩
    have split : oneByteFrames (count + 1) = oneByteFrames count ++ oneByteFrame count := by
      simp [oneByteFrames, range_succ]
    rw [split]
    exact ⟨next, (run_append _ _ _ _ _).mpr ⟨middle, run, step⟩,
      steps_meet_append run legal legal', filled'⟩

def displacedFrame : List SubmitOp :=
  [.requestBuffer 1, .submit ⟨⟨4096 + (2047 : Nat), 1, 0, 0⟩, 1, 0⟩ [1],
    .requestBuffer 1, .submit ⟨⟨4096 + (2048 : Nat), 1, 0, 0⟩, 1, 1⟩ [2]]

/-- The displaced frame takes the last entry, and the add of the other one is refused. -/
theorem displaced_frame_lost (filled : Filled 2047 system) :
    ∃ next, runOps exec system displacedFrame = some next ∧
      StepsMeet Legal exec system displacedFrame ∧
      next.added.length + 1 = next.frames.length := by
  rcases system with ⟨_, _, memory, grant, held, added, delivered, flushed, frames, _⟩
  rcases filled with ⟨⟨pFrames, rfl⟩, ⟨bValid, rfl⟩, framesLength, addedLength, rfl⟩
  rcases @one_byte_added 2047 pFrames ⟨6143, 1, 0, bValid⟩ (by decide) rfl rfl with ⟨pFrames', add⟩
  have gather : ∃ info, gatherPart (filledRing 2047 pFrames) ⟨6143, 1, 0, bValid⟩
      ⟨⟨4096 + (2048 : Nat), 1, 0, 0⟩, 1, 1⟩ = (filledRing 2048 pFrames', info) := by
    unfold gatherPart addPartial
    dsimp only
    rw [add]
    exact ⟨_, rfl⟩
  rcases gather with ⟨info, gather⟩
  have close : closeFrame (filledRing 2048 pFrames') info
      ⟨⟨4096 + (2048 : Nat), 1, 0, 0⟩, 1, 1⟩ = (filledRing 2048 pFrames', clearPartial info) := by
    unfold closeFrame
    rw [add_refused (Nat.le_refl _)]
    rfl
  have submit : ∃ next, exec ⟨filledRing 2047 pFrames, ⟨6143, 1, 0, bValid⟩,
        fillBuffer memory ⟨6143, 1, 0, 0⟩ [1], some ⟨6144, 1, 0, 0⟩, held,
        added ++ addedBy (filledRing 2047 pFrames) (filledRing 2047 pFrames), delivered, flushed,
        frames, some [1]⟩ (.submit ⟨⟨4096 + (2048 : Nat), 1, 0, 0⟩, 1, 1⟩ [2]) = some next ∧
      next.added.length + 1 = next.frames.length := by
    unfold exec submitVideoStreamData
    dsimp only
    rw [gather]
    dsimp only
    rw [close]
    refine ⟨_, rfl, ?_⟩
    simp [addedBy, filledRing, framesAfter, gatherBytes, framesLength, addedLength]
  rcases submit with ⟨next, submit, lost⟩
  refine ⟨next, (run_cons _ _ _ _ _).mpr ⟨_, rfl, (run_cons _ _ _ _ _).mpr ⟨_, rfl,
    (run_cons _ _ _ _ _).mpr ⟨_, rfl, (run_cons _ _ _ _ _).mpr ⟨_, submit, rfl⟩⟩⟩⟩, ?_, lost⟩
  refine steps_meet_cons rfl ⟨by decide, (by decide : InS32 (askedSize 1 + 0 + 64))⟩ ?_
  refine steps_meet_cons rfl ⟨_, rfl, rfl, rfl, Int.le_refl 1, fun later => nomatch later⟩ ?_
  refine steps_meet_cons rfl ⟨by decide, (by decide : InS32 (askedSize 1 + 1 + 64))⟩ ?_
  exact steps_meet_cons submit ⟨_, rfl, rfl, rfl, Int.le_refl 1, fun later => nomatch later⟩ trivial

theorem filled_run_loses {start full : SubmitSystem} {earlier : List SubmitOp}
    (run : runOps exec start earlier = some full) (legal : StepsMeet Legal exec start earlier)
    (filled : Filled 2047 full) :
    StepsMeet Legal exec start (earlier ++ displacedFrame) ∧
      ∃ final, runOps exec start (earlier ++ displacedFrame) = some final ∧
        ¬ SubmitContract final := by
  rcases displaced_frame_lost filled with ⟨final, step, legal', lost⟩
  refine ⟨steps_meet_append run legal legal', final,
    (run_append _ _ _ _ _).mpr ⟨full, run, step⟩, ?_⟩
  intro contract
  have arrived := contract.arrived
  omega

def fullFifoRun : List SubmitOp := oneByteFrames 2047 ++ displacedFrame

theorem full_fifo_breaks_contract : ∃ start, SubmitSystem.start 65536 4096 = some start ∧
      StepsMeet Legal exec start fullFifoRun ∧
      ∃ final, runOps exec start fullFifoRun = some final ∧ ¬ SubmitContract final := by
  obtain ⟨start, created⟩ : ∃ start, SubmitSystem.start 65536 4096 = some start := ⟨_, rfl⟩
  have initial : Filled 0 start := by
    obtain rfl : _ = start := Option.some.inj created
    exact ⟨⟨_, rfl⟩, ⟨0, rfl⟩, rfl, rfl, rfl⟩
  have filling := one_byte_run initial (show 2047 ≤ SBM_FRAME_FIFO_SIZE by decide)
  unfold fullFifoRun
  generalize oneByteFrames 2047 = earlier at filling ⊢
  rcases filling with ⟨full, run, legal, filled⟩
  exact ⟨start, created, filled_run_loses run legal filled⟩

end CedarC.VdecoderSubmitRuns
