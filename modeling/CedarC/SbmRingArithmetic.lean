import CedarC.VdecoderSubmitRuns

/-!
# The sums of the stream ring at every size

A request and an add of any `int`, from any state of the ring with any bytes of an
open frame behind the write address. The reserve of 64 bytes and the sum of an add
are taken in 32 bits without a check before.
-/

namespace CedarC.SbmRingArithmetic

open FixedWidth SbmStreamModel VdecoderSubmit VdecoderSubmitRuns

/-- A ring with its write address, its live bytes before it and the open frame behind. -/
structure RingState where
  pSbm : SbmStream
  partialStreamDataInfo : VideoStreamDataInfo
  sizeRange : 0 < pSbm.nStreamBufferSize ∧ pSbm.nStreamBufferSize < 2 ^ 31
  bufferEnd : pSbm.pStreamBufferEnd = pSbm.pStreamBuffer + pSbm.nStreamBufferSize - 1
  writeAddr : pSbm.pStreamBuffer ≤ pSbm.pWriteAddr ∧
    pSbm.pWriteAddr < pSbm.pStreamBuffer + pSbm.nStreamBufferSize
  dataSize : 0 ≤ pSbm.nValidDataSize ∧ pSbm.nValidDataSize ≤ pSbm.nStreamBufferSize
  gathered : 0 ≤ partialStreamDataInfo.nLength ∧ partialStreamDataInfo.nLength < 2 ^ 31

section Bytes

variable (ring : RingState)

def RingState.context : VideoDecoderContext :=
  { pSbm := some ring.pSbm, partialStreamDataInfo := ring.partialStreamDataInfo }

def RingState.freeSize : Int := ring.pSbm.nStreamBufferSize - ring.pSbm.nValidDataSize

def RingState.byteAt (distance : Int) : Int :=
  ring.pSbm.pStreamBuffer +
    (ring.pSbm.pWriteAddr - ring.pSbm.pStreamBuffer + distance) % ring.pSbm.nStreamBufferSize

/-- The bytes of the added frames end before the write address. -/
def RingState.Live (address : Int) : Prop :=
  ∃ distance, 0 ≤ distance ∧ distance < ring.pSbm.nValidDataSize ∧
    address = ring.byteAt (-1 - distance)

def RingState.Pending (address : Int) : Prop :=
  ∃ distance, 0 ≤ distance ∧ distance < ring.partialStreamDataInfo.nLength ∧
    address = ring.byteAt distance

def Covers (granted : StreamBuffer) (address : Int) : Prop :=
  (granted.pBuf ≤ address ∧ address < granted.pBuf + granted.nBufSize) ∨
    (granted.pRingBuf ≤ address ∧ address < granted.pRingBuf + granted.nRingBufSize)

def RingState.Asks : Prop :=
  ring.pSbm.frameFifo.nValidFrameNum < ring.pSbm.frameFifo.nMaxFrameNum ∧
    ring.pSbm.nValidDataSize < ring.pSbm.nStreamBufferSize

/-- No overflow, and no more granted than the free bytes. -/
def RequestRight (nRequireSize : Int) : Prop :=
  (ring.Asks → InS32 (ring.freeSize) ∧ InS32 (nRequireSize + 64)) ∧
    ∀ pBuf nBufSize, sbmStreamRequestBuffer ring.pSbm nRequireSize = some (pBuf, nBufSize) →
      nBufSize ≤ ring.freeSize

def RingState.Adds (pDataInfo : VideoStreamDataInfo) : Prop :=
  pDataInfo.pData ≠ 0 ∧ ring.pSbm.frameFifo.nValidFrameNum < ring.pSbm.frameFifo.nMaxFrameNum

def AddRight (pDataInfo : VideoStreamDataInfo) : Prop :=
  (ring.Adds pDataInfo → InS32 (pDataInfo.nLength + ring.pSbm.nValidDataSize)) ∧
    ((sbmStreamAddStream ring.pSbm pDataInfo).2 = 0 →
      (sbmStreamAddStream ring.pSbm pDataInfo).1.nValidDataSize ≤ ring.pSbm.nStreamBufferSize)

structure PiecesRight (nRequireSize : Int) (granted : StreamBuffer) : Prop where
  pieces : 0 ≤ granted.nBufSize ∧ 0 ≤ granted.nRingBufSize
  total : granted.nBufSize + granted.nRingBufSize = nRequireSize
  inside : ∀ address, Covers granted address → ring.pSbm.pStreamBuffer ≤ address ∧
      address < ring.pSbm.pStreamBuffer + ring.pSbm.nStreamBufferSize
  unused : ∀ address, Covers granted address → ¬ring.Live address ∧ ¬ring.Pending address

/-- The request with the bytes of the open frame in it, and the split of its grant; a size
of 0 asks for four bytes. -/
def SplitRight (nRequireSize : Int) : Prop :=
  RequestRight ring (s32 (askedSize nRequireSize + ring.partialStreamDataInfo.nLength)) ∧
    ∀ granted, requestVideoStreamBuffer ring.context nRequireSize = some granted →
      PiecesRight ring (askedSize nRequireSize) granted

theorem request_right_iff (nRequireSize : Int) (range : InS32 nRequireSize) :
    RequestRight ring nRequireSize ↔ (ring.Asks → nRequireSize + 64 < 2 ^ 31) := by
  have size := ring.sizeRange
  have data := ring.dataSize
  unfold InS32 at range
  constructor
  · intro right asks
    exact (right.1 asks).2.2
  · intro small
    constructor
    · intro asks
      have below := small asks
      unfold RingState.freeSize InS32
      omega
    · intro pBuf nBufSize granted
      unfold sbmStreamRequestBuffer at granted
      dsimp only at granted
      split_ifs at granted with full room more
      have below := small ⟨Nat.not_le.mp full, room⟩
      cases granted
      unfold RingState.freeSize
      rw [s32_of_range ⟨by omega, below⟩, s32_of_range ⟨by omega, by omega⟩] at more
      omega

variable (pDataInfo : VideoStreamDataInfo)

include pDataInfo

theorem accepted_add (accepted : (sbmStreamAddStream ring.pSbm pDataInfo).2 = 0) :
    ring.Adds pDataInfo ∧
      s32 (pDataInfo.nLength + ring.pSbm.nValidDataSize) ≤ ring.pSbm.nStreamBufferSize ∧
      (sbmStreamAddStream ring.pSbm pDataInfo).1.nValidDataSize =
        s32 (pDataInfo.nLength + ring.pSbm.nValidDataSize) := by
  unfold sbmStreamAddStream at accepted ⊢
  by_cases empty : pDataInfo.pData = 0
  · rw [if_pos empty] at accepted
    exact absurd accepted (show ¬(-1 : Int) = 0 by decide)
  rw [if_neg empty] at accepted ⊢
  by_cases full : ring.pSbm.frameFifo.nMaxFrameNum ≤ ring.pSbm.frameFifo.nValidFrameNum
  · rw [if_pos full] at accepted
    exact absurd accepted (show ¬(-1 : Int) = 0 by decide)
  rw [if_neg full] at accepted ⊢
  by_cases beyond : s32 (pDataInfo.nLength + ring.pSbm.nValidDataSize) >
      ring.pSbm.nStreamBufferSize
  · rw [if_pos beyond] at accepted
    exact absurd accepted (show ¬(-1 : Int) = 0 by decide)
  rw [if_neg beyond]
  refine ⟨⟨empty, Nat.not_le.mp full⟩, Int.not_lt.mp beyond, ?_⟩
  dsimp only
  rw [Int.add_comm]
  split_ifs <;> rfl

theorem add_right_iff (range : InS32 pDataInfo.nLength) : AddRight ring pDataInfo ↔
      (ring.Adds pDataInfo → pDataInfo.nLength + ring.pSbm.nValidDataSize < 2 ^ 31) := by
  have data := ring.dataSize
  unfold InS32 at range
  constructor
  · intro right adds
    exact (right.1 adds).2
  · intro small
    constructor
    · intro adds
      exact ⟨by omega, small adds⟩
    · intro accepted
      rcases accepted_add ring pDataInfo accepted with ⟨-, below, count⟩
      rw [count]
      exact below

omit pDataInfo

theorem bytes_differ {left right : Int} (ordered : left < right)
    (turn : right < left + ring.pSbm.nStreamBufferSize) :
    ring.byteAt left ≠ ring.byteAt right := by
  intro same
  unfold RingState.byteAt at same
  have residues : (ring.pSbm.pWriteAddr - ring.pSbm.pStreamBuffer + right) %
      ring.pSbm.nStreamBufferSize =
        (ring.pSbm.pWriteAddr - ring.pSbm.pStreamBuffer + left) % ring.pSbm.nStreamBufferSize := by
    omega
  have multiple := Int.emod_eq_emod_iff_emod_sub_eq_zero.mp residues
  rw [Int.emod_eq_of_lt (by omega) (by omega)] at multiple
  omega

theorem byte_value {distance : Int} (nonneg : 0 ≤ distance)
    (turn : distance ≤ ring.pSbm.nStreamBufferSize) :
    ring.byteAt distance =
      if ring.pSbm.pStreamBuffer + ring.pSbm.nStreamBufferSize ≤ ring.pSbm.pWriteAddr + distance
      then ring.pSbm.pWriteAddr + distance - ring.pSbm.nStreamBufferSize
      else ring.pSbm.pWriteAddr + distance := by
  have write := ring.writeAddr
  have place : (ring.pSbm.pWriteAddr - ring.pSbm.pStreamBuffer) % ring.pSbm.nStreamBufferSize =
      ring.pSbm.pWriteAddr - ring.pSbm.pStreamBuffer :=
    Int.emod_eq_of_lt (by omega) (by omega)
  unfold RingState.byteAt
  rw [wrap_once ring.sizeRange.1 nonneg turn, place]
  split_ifs <;> omega

end Bytes

section Split

variable {ring : RingState} {nRequireSize : Int} {granted : StreamBuffer}

/-- What a request whose sum stays in range grants: the bytes behind the open frame. -/
structure Grants (ring : RingState) (size : Int) (granted : StreamBuffer) : Prop where
  positive : 0 < size
  room : ring.partialStreamDataInfo.nLength + size + 64 ≤ ring.freeSize
  pieces : granted =
    let start := ring.byteAt ring.partialStreamDataInfo.nLength
    let ringEnd := ring.pSbm.pStreamBuffer + ring.pSbm.nStreamBufferSize
    if start + size ≤ ringEnd then ⟨start, size, 0, 0⟩
    else ⟨start, ringEnd - start, ring.pSbm.pStreamBuffer, size - (ringEnd - start)⟩

theorem asked_range (range : InS32 nRequireSize) : InS32 (askedSize nRequireSize) := by
  unfold askedSize
  split_ifs
  · decide
  · exact range

theorem request_grants (range : InS32 nRequireSize) (small : ring.Asks →
      s32 (askedSize nRequireSize + ring.partialStreamDataInfo.nLength) + 64 < 2 ^ 31)
    (given : requestVideoStreamBuffer ring.context nRequireSize = some granted) :
    Grants ring (askedSize nRequireSize) granted := by
  have size := ring.sizeRange
  have data := ring.dataSize
  have gathered := ring.gathered
  have asked := asked_range range
  have sum := s32_range (askedSize nRequireSize + ring.partialStreamDataInfo.nLength)
  unfold requestVideoStreamBuffer RingState.context at given
  dsimp only at given
  rw [show (if nRequireSize = 0 then 4 else nRequireSize) = askedSize nRequireSize from rfl]
    at given
  generalize askedSize nRequireSize = count at small given asked sum ⊢
  unfold sbmStreamRequestBuffer at given
  split at given
  · cases given
  rename_i pMem nFreeSize request
  dsimp only at request
  split_ifs at request with full room more
  have below := small ⟨Nat.not_le.mp full, room⟩
  cases request
  have fits : s32 (count + ring.partialStreamDataInfo.nLength) + 64 ≤ ring.freeSize := by
    have reserve : s32 (s32 (count + ring.partialStreamDataInfo.nLength) + 64) =
        s32 (count + ring.partialStreamDataInfo.nLength) + 64 :=
      s32_of_range ⟨by have := sum.1; omega, below⟩
    have free : s32 (ring.pSbm.nStreamBufferSize - ring.pSbm.nValidDataSize) =
        ring.pSbm.nStreamBufferSize - ring.pSbm.nValidDataSize :=
      s32_of_range ⟨by omega, by omega⟩
    unfold RingState.freeSize
    omega
  by_cases nothing : s32 (count + ring.partialStreamDataInfo.nLength) ≤
      ring.partialStreamDataInfo.nLength
  · rw [if_pos nothing] at given
    cases given
  rw [if_neg nothing] at given
  have whole : s32 (count + ring.partialStreamDataInfo.nLength) =
      count + ring.partialStreamDataInfo.nLength := by
    unfold InS32 at asked
    unfold s32 at nothing ⊢
    omega
  rw [whole] at given fits nothing
  have rest : s32 (count + ring.partialStreamDataInfo.nLength -
      ring.partialStreamDataInfo.nLength) = count := by
    rw [Int.add_sub_cancel]
    exact s32_of_range asked
  rw [rest] at given
  unfold RingState.freeSize at fits
  have start := byte_value ring gathered.1 (by omega)
  constructor
  · omega
  · unfold RingState.freeSize
    omega
  · dsimp only
    rw [start]
    have ends : ∀ place : Int, place ≥ ring.pSbm.pStreamBuffer + ring.pSbm.nStreamBufferSize ↔
        ring.pSbm.pStreamBuffer + ring.pSbm.nStreamBufferSize ≤ place := fun _ => Iff.rfl
    simp only [ends] at given
    split_ifs at given ⊢ <;> exact (Option.some.inj given).symm

/-- Every byte of the grant is one behind the open frame, before the live bytes. -/
theorem covered_byte {size address : Int} (grants : Grants ring size granted)
    (covered : Covers granted address) :
    ∃ distance, ring.partialStreamDataInfo.nLength ≤ distance ∧
      distance < ring.partialStreamDataInfo.nLength + size ∧ address = ring.byteAt distance := by
  have data := ring.dataSize
  have gathered := ring.gathered
  have write := ring.writeAddr
  have positive := grants.positive
  have room := grants.room
  unfold RingState.freeSize at room
  have start := byte_value ring gathered.1 (by omega)
  -- the byte is at its own distance, or at that distance and a turn
  have here : ∀ distance, 0 ≤ distance → distance < ring.pSbm.nStreamBufferSize →
      (address = ring.pSbm.pWriteAddr + distance ∧
          ring.pSbm.pWriteAddr + distance < ring.pSbm.pStreamBuffer + ring.pSbm.nStreamBufferSize ∨
        address = ring.pSbm.pWriteAddr + distance - ring.pSbm.nStreamBufferSize ∧
          ring.pSbm.pStreamBuffer + ring.pSbm.nStreamBufferSize ≤ ring.pSbm.pWriteAddr + distance) →
        address = ring.byteAt distance := by
    intro distance nonneg turn place
    rw [byte_value ring nonneg (Int.le_of_lt turn)]
    split_ifs <;> omega
  unfold Covers at covered
  rw [grants.pieces] at covered
  dsimp only at covered
  rw [start] at covered
  by_cases before : ring.pSbm.pWriteAddr ≤ address
  · refine ⟨address - ring.pSbm.pWriteAddr, ?_, ?_, here _ ?_ ?_ ?_⟩
    all_goals split_ifs at covered <;> dsimp only at covered <;> omega
  · refine ⟨address - ring.pSbm.pWriteAddr + ring.pSbm.nStreamBufferSize, ?_, ?_, here _ ?_ ?_ ?_⟩
    all_goals split_ifs at covered <;> dsimp only at covered <;> omega

theorem grants_pieces_right {size : Int} (grants : Grants ring size granted) :
    PiecesRight ring size granted := by
  have data := ring.dataSize
  have gathered := ring.gathered
  have write := ring.writeAddr
  have positive := grants.positive
  have room := grants.room
  unfold RingState.freeSize at room
  have start := byte_value ring gathered.1 (by omega)
  constructor
  · rw [grants.pieces]
    dsimp only
    rw [start]
    split_ifs <;> constructor <;> dsimp only <;> omega
  · rw [grants.pieces]
    dsimp only
    split_ifs <;> dsimp only <;> omega
  · intro address covered
    rcases covered_byte grants covered with ⟨distance, -, -, rfl⟩
    unfold RingState.byteAt
    have low := Int.emod_nonneg (ring.pSbm.pWriteAddr - ring.pSbm.pStreamBuffer + distance)
      (Int.ne_of_gt ring.sizeRange.1)
    have high := Int.emod_lt_of_pos (ring.pSbm.pWriteAddr - ring.pSbm.pStreamBuffer + distance)
      ring.sizeRange.1
    omega
  · intro address covered
    rcases covered_byte grants covered with ⟨distance, least, most, rfl⟩
    constructor
    · rintro ⟨back, nonneg, live, same⟩
      exact bytes_differ ring (by omega) (by omega) same.symm
    · rintro ⟨forth, nonneg, pending, same⟩
      exact bytes_differ ring (by omega) (by omega) same.symm

theorem split_right_iff (range : InS32 nRequireSize) : SplitRight ring nRequireSize ↔ (ring.Asks →
        s32 (askedSize nRequireSize + ring.partialStreamDataInfo.nLength) + 64 < 2 ^ 31) := by
  unfold SplitRight
  rw [request_right_iff ring _ (s32_range _)]
  apply and_iff_left_of_imp
  intro small granted given
  exact grants_pieces_right (request_grants range small given)

end Split

/-- For a size and a data info of any `int` the ring's arithmetic is right exactly where the
reserve and the add do not pass 31 bits. -/
theorem ring_arithmetic_iff (ring : RingState) (nRequireSize : Int)
    (pDataInfo : VideoStreamDataInfo) (range : InS32 nRequireSize)
    (length : InS32 pDataInfo.nLength) :
    (RequestRight ring nRequireSize ∧ SplitRight ring nRequireSize ∧ AddRight ring pDataInfo) ↔
      (ring.Asks → nRequireSize + 64 < 2 ^ 31 ∧
        s32 (askedSize nRequireSize + ring.partialStreamDataInfo.nLength) + 64 < 2 ^ 31) ∧
      (ring.Adds pDataInfo → pDataInfo.nLength + ring.pSbm.nValidDataSize < 2 ^ 31) := by
  rw [request_right_iff ring nRequireSize range, split_right_iff range,
    add_right_iff ring pDataInfo length, ← and_assoc, ← imp_and]

/-- A ring of four kilobytes that wraps behind 96 bytes: 3000 live ones before them and an
open frame of 32. -/
def wrappingRing : RingState :=
  { pSbm :=
      { pStreamBuffer := 4096
        pStreamBufferEnd := 8191
        nStreamBufferSize := 4096
        pWriteAddr := 8096
        nValidDataSize := 3000
        frameFifo :=
          { pFrames := fun _ => ⟨0, 0, 0, 0⟩
            nMaxFrameNum := SBM_FRAME_FIFO_SIZE
            nValidFrameNum := 1
            nUnReadFrameNum := 1
            nReadPos := 0
            nWritePos := 1
            nFlushPos := 0 } }
    partialStreamDataInfo := ⟨8096, 32, 0, 0⟩
    sizeRange := by decide
    bufferEnd := by decide
    writeAddr := by decide
    dataSize := by decide
    gathered := by decide }

/-- The request of 200 bytes gets 64 at the end and 136 at the start. -/
theorem wrapping_request_right :
    requestVideoStreamBuffer wrappingRing.context 200 = some ⟨8128, 64, 4096, 136⟩ ∧
      RequestRight wrappingRing 200 ∧ SplitRight wrappingRing 200 ∧
        AddRight wrappingRing ⟨8096, 232, 0, 0⟩ :=
  ⟨by decide, (ring_arithmetic_iff wrappingRing 200 ⟨8096, 232, 0, 0⟩ (by decide) (by decide)).mpr
      ⟨fun _ => by decide, fun _ => by decide⟩⟩

/-- A request of `INT_MAX` bytes is granted. -/
theorem longest_request_overflows :
    ¬∀ (ring : RingState) (nRequireSize : Int) (pDataInfo : VideoStreamDataInfo),
      InS32 nRequireSize → InS32 pDataInfo.nLength →
        RequestRight ring nRequireSize ∧ SplitRight ring nRequireSize ∧
          AddRight ring pDataInfo := by
  intro right
  have request := (right wrappingRing (2 ^ 31 - 1) ⟨8096, 232, 0, 0⟩ (by decide)
    (by decide)).1.2 8096 (2 ^ 31 - 1) (by decide)
  revert request
  decide

end CedarC.SbmRingArithmetic
