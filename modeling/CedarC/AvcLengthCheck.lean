import CedarC.LengthFraming
import CedarC.SbmFrameContainment
import Mathlib.Tactic.IntervalCases

/-!
# The check for length prefixed H264 streams

`checkBitStreamTypeWithoutStartCode` on a chunk anywhere in the ring, with the bytes
that it reads. The length is gathered in a variable that is not cleared from one unit
to the next: four bytes push the last length out of it, fewer leave some of it in.
-/

namespace CedarC.AvcLengthCheck

open FixedWidth LengthFraming SbmFrameContainment SbmFrameDetect SbmFrameModel List

section Ring

variable {pSbm : SbmFrame} {p start count : Int}

def ringBytes (pSbm : SbmFrame) (start count : Int) : List UInt8 :=
  (List.range count.toNat).map fun (k : Nat) => pSbm.bytes (ringAt pSbm (start + k))

@[simp] theorem ring_bytes_length : (ringBytes pSbm start count).length = count.toNat := by
  simp [ringBytes]

theorem ring_bytes_cons (positive : 0 < count) : ringBytes pSbm start count =
      pSbm.bytes (ringAt pSbm start) :: ringBytes pSbm (start + 1) (count - 1) := by
  obtain ⟨left, rfl⟩ : ∃ left : Nat, count = left + 1 := ⟨(count - 1).toNat, by omega⟩
  unfold ringBytes
  have turns : ((left : Int) + 1).toNat = left + 1 := by omega
  have fewer : ((left : Int) + 1 - 1).toNat = left := by omega
  rw [turns, fewer, range_succ_eq_map, map_cons, map_map]
  congr 1
  · simp
  · apply map_congr_left
    intro k _
    simp only [Function.comp_apply, Int.natCast_succ]
    rw [Int.add_assoc, Int.add_comm 1]

theorem ring_bytes_drop {n : Nat} :
    (ringBytes pSbm start count).drop n = ringBytes pSbm (start + n) (count - n) := by
  apply ext_getElem
  · simp
  · intro i _ _
    simp only [ringBytes, getElem_drop, getElem_map, getElem_range, Int.natCast_add]
    rw [Int.add_assoc]

theorem ring_bytes_take {n : Nat} (inside : (n : Int) ≤ count) :
    (ringBytes pSbm start count).take n = ringBytes pSbm start n := by
  apply ext_getElem
  · simp
    omega
  · intro i _ _
    simp [ringBytes]

end Ring

/-- The bytes of the list shifted into `n`. -/
def word (n : Int) (bytes : List UInt8) : Int := bytes.foldl shiftIn n

def avcLengths (nNaluLength : Nat) : Nat → List UInt8 → Int → Bool
  | 0, _, _ => false
  | fuel + 1, rest, nDataSize =>
    if rest = [] ∨ rest.length < nNaluLength then false
    else
      let nDataSize := word nDataSize (rest.take nNaluLength)
      if nDataSize > rest.length - nNaluLength ∨ nDataSize < 0 then false
      else if nDataSize = rest.length - nNaluLength ∧ nDataSize ≠ 0 then true
      else avcLengths nNaluLength fuel (rest.drop (nDataSize.toNat + nNaluLength)) nDataSize

section Lengths

variable {nNaluLength fuel : Nat} {rest : List UInt8} {nDataSize : Int}

/-- The last length is out of the variable behind the next prefix. -/
def pushedOut (nNaluLength length : Nat) : Bool := (256 ^ nNaluLength * length) % 2 ^ 32 = 0

theorem s32_shift_in (value : Int) (byte : Nat) :
    s32 (s32 value * 256 + byte) = s32 (value * 256 + byte) := by
  unfold s32
  omega

theorem word_value (bytes : List UInt8) (range : InS32 nDataSize) :
    word nDataSize bytes = s32 (nDataSize * 256 ^ bytes.length + bigEndian bytes) := by
  induction bytes using List.reverseRecOn with
  | nil => simp [word, bigEndian, s32_of_range range]
  | append_singleton bytes byte shorter =>
    have last : word nDataSize (bytes ++ [byte]) = shiftIn (word nDataSize bytes) byte := by
      unfold word
      rw [foldl_append, foldl_cons, foldl_nil]
    have value : nDataSize * 256 ^ (bytes ++ [byte]).length + (bigEndian (bytes ++ [byte]) : Int) =
        (nDataSize * 256 ^ bytes.length + bigEndian bytes) * 256 + byte.toNat := by
      rw [big_endian_append, length_append, length_singleton, Int.pow_succ]
      rw [Int.natCast_add, Int.natCast_mul, Int.add_mul, Int.mul_assoc, Int.add_assoc]
      rfl
    rw [last, shorter, value]
    exact s32_shift_in _ _

theorem word_of_pushed_out {length : Nat} (bytes : List UInt8) (fits : length < 2 ^ 31)
    (pushed : pushedOut bytes.length length = true) :
    word length bytes = s32 (bigEndian bytes) := by
  unfold pushedOut at pushed
  rw [decide_eq_true_eq, Nat.mul_comm] at pushed
  rw [word_value bytes ⟨by omega, by omega⟩]
  have same : ((length * 256 ^ bytes.length : Nat) : Int) =
      (length : Int) * 256 ^ bytes.length := by
    rw [Int.natCast_mul, Int.natCast_pow]
    rfl
  rw [← same]
  generalize length * 256 ^ bytes.length = product at pushed ⊢
  unfold s32
  omega

/-- Whether the check reads bytes of the chunk only; a prefix that runs over the end of the
chunk is read all the same. -/
def avcReadsInside (nNaluLength : Nat) : Nat → List UInt8 → Int → Bool
  | 0, _, _ => true
  | fuel + 1, rest, nDataSize =>
    if rest = [] then true
    else if rest.length < nNaluLength then false
    else
      let nDataSize := word nDataSize (rest.take nNaluLength)
      if nDataSize > rest.length - nNaluLength ∨ nDataSize < 0 then true
      else if nDataSize = rest.length - nNaluLength ∧ nDataSize ≠ 0 then true
      else avcReadsInside nNaluLength fuel (rest.drop (nDataSize.toNat + nNaluLength)) nDataSize

theorem avc_turn (filled : rest ≠ []) (prefixed : nNaluLength ≤ rest.length) {value : Nat}
    (read : word nDataSize (rest.take nNaluLength) = value) :
    (avcLengths nNaluLength (fuel + 1) rest nDataSize =
      if rest.length < nNaluLength + value then false
      else if rest.length = nNaluLength + value ∧ value ≠ 0 then true
      else avcLengths nNaluLength fuel (rest.drop (nNaluLength + value)) value) ∧
    (avcReadsInside nNaluLength (fuel + 1) rest nDataSize =
      if rest.length < nNaluLength + value then true
      else if rest.length = nNaluLength + value ∧ value ≠ 0 then true
      else avcReadsInside nNaluLength fuel (rest.drop (nNaluLength + value)) value) := by
  have some_left : ¬(rest = [] ∨ rest.length < nNaluLength) := by
    rintro (empty | short)
    · exact filled empty
    · omega
  have beyond : ((value : Int) > rest.length - nNaluLength ∨ (value : Int) < 0) ↔
      rest.length < nNaluLength + value := by omega
  have last : ((value : Int) = rest.length - nNaluLength ∧ (value : Int) ≠ 0) ↔
      rest.length = nNaluLength + value ∧ value ≠ 0 := by omega
  have behind : (value : Int).toNat + nNaluLength = nNaluLength + value := by omega
  constructor
  · rw [avcLengths, if_neg some_left, read]
    simp only [beyond, last, behind]
  · rw [avcReadsInside, if_neg filled, if_neg (Nat.not_lt.mpr prefixed), read]
    simp only [beyond, last, behind]

theorem avc_turn_ends (filled : rest ≠ []) (prefixed : nNaluLength ≤ rest.length)
    (read : word nDataSize (rest.take nNaluLength) > rest.length - nNaluLength ∨
      word nDataSize (rest.take nNaluLength) < 0) :
    avcLengths nNaluLength (fuel + 1) rest nDataSize = false ∧
      avcReadsInside nNaluLength (fuel + 1) rest nDataSize = true := by
  have some_left : ¬(rest = [] ∨ rest.length < nNaluLength) := by
    rintro (empty | short)
    · exact filled empty
    · omega
  constructor
  · rw [avcLengths, if_neg some_left]
    dsimp only
    rw [if_pos read]
  · rw [avcReadsInside, if_neg filled, if_neg (Nat.not_lt.mpr prefixed)]
    dsimp only
    rw [if_pos read]

theorem out_of_step_ends {length : Nat} (fits : length < 256 ^ nNaluLength)
    (prefixBytes : nNaluLength ≤ 4) (prefixed : nNaluLength ≤ rest.length)
    (short : rest.length ≤ 256 ^ nNaluLength) (kept : pushedOut nNaluLength length = false)
    (small : length < 2 ^ 31) :
    word length (rest.take nNaluLength) > rest.length - nNaluLength ∨
      word length (rest.take nNaluLength) < 0 := by
  have taken : (rest.take nNaluLength).length = nNaluLength := by
    rw [length_take]
    omega
  have bound := big_endian_lt (rest.take nNaluLength)
  rw [taken] at bound
  unfold pushedOut at kept
  rw [decide_eq_false_iff_not] at kept
  rw [word_value _ ⟨by omega, by omega⟩, taken]
  generalize bigEndian (rest.take nNaluLength) = next at bound ⊢
  unfold s32
  interval_cases nNaluLength <;> omega

theorem avc_of_nothing : avcLengths nNaluLength fuel [] nDataSize = false ∧
      avcReadsInside nNaluLength fuel [] nDataSize = true := by
  cases fuel with
  | zero => exact ⟨rfl, rfl⟩
  | succ fuel =>
    constructor
    · rw [avcLengths, if_pos (.inl rfl)]
    · rw [avcReadsInside, if_pos rfl]

theorem avc_of_short_rest (filled : rest ≠ []) (short : rest.length < nNaluLength)
    (enough : rest.length ≤ fuel) :
    avcLengths nNaluLength fuel rest nDataSize = false ∧
      avcReadsInside nNaluLength fuel rest nDataSize = false := by
  cases fuel with
  | zero => exact absurd (eq_nil_of_length_eq_zero (by omega)) filled
  | succ fuel =>
    constructor
    · rw [avcLengths, if_pos (.inr short)]
    · rw [avcReadsInside, if_neg filled, if_pos short]

theorem pushed_out_zero : pushedOut nNaluLength 0 = true := by
  unfold pushedOut
  rw [Nat.mul_zero]
  rfl

/-- What the check says at the end of the walk over the units, and whether it has read
bytes of the list only. -/
theorem avc_lengths_walk {length : Nat} (positive : 0 < nNaluLength)
    (prefixBytes : nNaluLength ≤ 4) (enough : rest.length ≤ fuel) (small : rest.length < 2 ^ 31)
    (fits : length < 2 ^ 31) (pushed : pushedOut nNaluLength length = true) :
    match walk nNaluLength (pushedOut nNaluLength) fuel rest with
    | .whole last =>
      avcLengths nNaluLength fuel rest length = decide (last ≠ 0) ∧
        avcReadsInside nNaluLength fuel rest length = true
    | .overlong =>
      avcLengths nNaluLength fuel rest length = false ∧
        avcReadsInside nNaluLength fuel rest length = true
    | .shortRest =>
      avcLengths nNaluLength fuel rest length = false ∧
        avcReadsInside nNaluLength fuel rest length = false
    | .outOfStep =>
      rest.length ≤ 256 ^ nNaluLength → avcLengths nNaluLength fuel rest length = false ∧
          avcReadsInside nNaluLength fuel rest length = true := by
  induction fuel generalizing rest length with
  | zero => exact ⟨rfl, rfl⟩
  | succ fuel later =>
    by_cases empty : rest = []
    · rw [empty, walk, if_pos rfl]
      exact ⟨rfl, rfl⟩
    have filled := length_pos_iff.mpr empty
    rw [walk_step empty]
    by_cases short : rest.length < nNaluLength
    · rw [if_pos short]
      exact avc_of_short_rest empty short enough
    rw [if_neg short]
    have prefixed := Nat.not_lt.mp short
    have taken : (rest.take nNaluLength).length = nNaluLength := by
      rw [length_take]
      omega
    have bound := big_endian_lt (rest.take nNaluLength)
    have value := word_of_pushed_out (rest.take nNaluLength) fits (by rw [taken]; exact pushed)
    rw [taken] at bound
    generalize bigEndian (rest.take nNaluLength) = next at bound value ⊢
    have word_sized : next < 2 ^ 32 :=
      Nat.lt_of_lt_of_le bound (Nat.pow_le_pow_right (show 0 < 256 by decide) prefixBytes)
    by_cases beyond : rest.length < nNaluLength + next
    · rw [if_pos beyond]
      apply avc_turn_ends empty prefixed
      rw [value]
      unfold s32
      omega
    rw [if_neg beyond]
    have read : word length (rest.take nNaluLength) = next := by
      rw [value]
      exact s32_of_range ⟨by omega, by omega⟩
    have turn := @avc_turn nNaluLength fuel rest length empty prefixed next read
    rw [if_neg beyond, if_neg beyond] at turn
    rw [turn.1, turn.2]
    have rest_of : (rest.drop (nNaluLength + next)).length =
        rest.length - (nNaluLength + next) := length_drop
    generalize rest.drop (nNaluLength + next) = behind at rest_of ⊢
    by_cases last : behind = []
    · have whole : rest.length = nNaluLength + next := by
        rw [last, length_nil] at rest_of
        omega
      rw [if_pos last, last, avc_of_nothing.1, avc_of_nothing.2]
      by_cases none : next = 0
      · simp [none]
      · simp [none, whole]
    rw [if_neg last]
    have not_last : ¬(rest.length = nNaluLength + next ∧ next ≠ 0) := by
      rintro ⟨whole, -⟩
      exact last (eq_nil_of_length_eq_zero (by omega))
    rw [if_neg not_last, if_neg not_last]
    by_cases step : pushedOut nNaluLength next = true
    · rw [if_pos step]
      have further := @later behind next (by omega) (by omega) (by omega) step
      split <;> rename_i ended <;> rw [ended] at further
      · exact further
      · exact further
      · exact further
      · exact fun bounded => further (by omega)
    rw [if_neg step]
    by_cases few : behind.length < nNaluLength
    · rw [if_pos few]
      exact avc_of_short_rest last few (by omega)
    · rw [if_neg few]
      intro bounded
      have behind_filled := length_pos_iff.mpr last
      rcases Nat.exists_eq_add_one_of_ne_zero (show fuel ≠ 0 by omega) with ⟨turns, rfl⟩
      apply avc_turn_ends last (Nat.not_lt.mp few)
      exact out_of_step_ends bound prefixBytes (Nat.not_lt.mp few) (by omega)
        (Bool.eq_false_iff.mpr step) (by omega)

end Lengths

variable (pSbm : SbmFrame) (pStream : VideoStreamDataInfo)

/-- A chunk anywhere in a ring of any size, for a prefix of one to four bytes. -/
structure ChunkInBuffer : Prop where
  size : 0 < pSbm.nStreamBufferSize ∧ pSbm.nStreamBufferSize < 2 ^ 31
  last : pSbm.pStreamBufferEnd = pSbm.pStreamBuffer + pSbm.nStreamBufferSize - 1
  length : 0 ≤ pStream.nLength ∧ pStream.nLength ≤ pSbm.nStreamBufferSize
  data : pSbm.pStreamBuffer ≤ pStream.pData ∧ pStream.pData ≤ pSbm.pStreamBufferEnd
  prefixBytes : 1 ≤ pSbm.nNaluLength ∧ pSbm.nNaluLength ≤ 4

/-- The bytes that the check reads, as distances from the start of the chunk. -/
def avcLengthReads : Nat → Int → Int → Int → List Int
  | 0, _, _, _ => []
  | fuel + 1, nHadProcessLen, pBuf, nDataSize =>
    if nHadProcessLen < pStream.nLength then
      let nRemainSize := pStream.nLength - nHadProcessLen
      let nDataSize := readBytes pSbm pBuf pSbm.nNaluLength 0 nDataSize
      (List.range pSbm.nNaluLength).map (fun (i : Nat) => nHadProcessLen + i) ++
        if nDataSize > nRemainSize - pSbm.nNaluLength ∨ nDataSize < 0 then []
        else if nDataSize = nRemainSize - pSbm.nNaluLength ∧ nDataSize ≠ 0 then []
        else
          avcLengthReads fuel (nHadProcessLen + (nDataSize + pSbm.nNaluLength))
            (pBuf + (nDataSize + pSbm.nNaluLength)) nDataSize
    else []

variable {pSbm pStream}

theorem read_bytes_in_buffer (chunk : ChunkInBuffer pSbm pStream) {p : Int}
    (low : pSbm.pStreamBuffer ≤ p) (high : p ≤ pSbm.pStreamBufferEnd + pSbm.nStreamBufferSize)
    (count : Nat) (i n : Int) :
    readBytes pSbm p count i n = word n (ringBytes pSbm (p + i) count) := by
  induction count generalizing i n with
  | zero => simp [readBytes, ringBytes, word]
  | succ count further =>
    have byte : readByteIdx pSbm p i = pSbm.bytes (ringAt pSbm (p + i)) := by
      have size := chunk.size
      have last := chunk.last
      unfold readByteIdx ringAt
      by_cases inside : p + i ≤ pSbm.pStreamBufferEnd
      · rw [if_pos inside, if_neg (by omega)]
      · rw [if_neg inside, if_pos (by omega)]
        dsimp only
        rw [s32_of_range ⟨by omega, by omega⟩]
        congr 1
        omega
    have next : p + (i + 1) = p + i + 1 := by omega
    have fewer : ((count + 1 : Nat) : Int) - 1 = count := by omega
    have head := @ring_bytes_cons pSbm (p + i) (count + 1 : Nat) (by omega)
    rw [readBytes, further, byte, head, next, fewer]
    rfl

/-- The check on the ring is the check on the bytes that are left, and so are its reads. -/
theorem avc_check_view (chunk : ChunkInBuffer pSbm pStream) {fuel : Nat}
    {nHadProcessLen nDataSize : Int} (low : 0 ≤ nHadProcessLen)
    (high : nHadProcessLen ≤ pStream.nLength) :
    (avcLengthsFrom pSbm pStream fuel nHadProcessLen (pStream.pData + nHadProcessLen) nDataSize =
      avcLengths pSbm.nNaluLength fuel
        (ringBytes pSbm (pStream.pData + nHadProcessLen) (pStream.nLength - nHadProcessLen))
        nDataSize) ∧
    ((∀ offset ∈ avcLengthReads pSbm pStream fuel nHadProcessLen
        (pStream.pData + nHadProcessLen) nDataSize, 0 ≤ offset ∧ offset < pStream.nLength) ↔
      avcReadsInside pSbm.nNaluLength fuel
        (ringBytes pSbm (pStream.pData + nHadProcessLen) (pStream.nLength - nHadProcessLen))
        nDataSize = true) := by
  induction fuel generalizing nHadProcessLen nDataSize with
  | zero => exact ⟨rfl, by simp [avcLengthReads, avcReadsInside]⟩
  | succ fuel further =>
    have size := chunk.size
    have last := chunk.last
    have length := chunk.length
    have data := chunk.data
    have prefixBytes := chunk.prefixBytes
    have left : (ringBytes pSbm (pStream.pData + nHadProcessLen)
        (pStream.nLength - nHadProcessLen)).length = (pStream.nLength - nHadProcessLen).toNat :=
      ring_bytes_length
    by_cases done : nHadProcessLen < pStream.nLength
    · have filled : ringBytes pSbm (pStream.pData + nHadProcessLen)
          (pStream.nLength - nHadProcessLen) ≠ [] := by
        apply length_pos_iff.mp
        omega
      have read := read_bytes_in_buffer chunk (p := pStream.pData + nHadProcessLen) (by omega)
        (by omega) pSbm.nNaluLength 0 nDataSize
      rw [avcLengthsFrom, if_pos done, avcLengthReads, if_pos done]
      dsimp only
      by_cases short : pStream.nLength - nHadProcessLen < pSbm.nNaluLength
      · -- the prefix runs past the end, and no value of it fits what is left
        have few : (ringBytes pSbm (pStream.pData + nHadProcessLen)
            (pStream.nLength - nHadProcessLen)).length < pSbm.nNaluLength := by omega
        have beyond : readBytes pSbm (pStream.pData + nHadProcessLen) pSbm.nNaluLength 0 nDataSize >
            pStream.nLength - nHadProcessLen - pSbm.nNaluLength ∨
              readBytes pSbm (pStream.pData + nHadProcessLen) pSbm.nNaluLength 0 nDataSize < 0 := by
          omega
        rw [if_pos beyond, if_pos beyond, avcLengths, if_pos (.inr few), avcReadsInside,
          if_neg filled, if_pos few]
        apply And.intro rfl
        apply iff_of_false _ Bool.false_ne_true
        intro all
        have outside := all (nHadProcessLen + (pSbm.nNaluLength - 1 : Nat))
          (mem_append_left _ (mem_map.mpr
            ⟨pSbm.nNaluLength - 1, mem_range.mpr (by omega), rfl⟩))
        omega
      · have whole : readBytes pSbm (pStream.pData + nHadProcessLen) pSbm.nNaluLength 0 nDataSize =
            word nDataSize ((ringBytes pSbm (pStream.pData + nHadProcessLen)
              (pStream.nLength - nHadProcessLen)).take pSbm.nNaluLength) := by
          rw [read, Int.add_zero, ring_bytes_take (by omega)]
        have some_left : ¬(ringBytes pSbm (pStream.pData + nHadProcessLen)
            (pStream.nLength - nHadProcessLen) = [] ∨
              (ringBytes pSbm (pStream.pData + nHadProcessLen)
                (pStream.nLength - nHadProcessLen)).length < pSbm.nNaluLength) := by
          rintro (empty | few)
          · exact filled empty
          · omega
        have enough : ¬(ringBytes pSbm (pStream.pData + nHadProcessLen)
            (pStream.nLength - nHadProcessLen)).length < pSbm.nNaluLength := fun few =>
          some_left (.inr few)
        have remain : ((ringBytes pSbm (pStream.pData + nHadProcessLen)
            (pStream.nLength - nHadProcessLen)).length : Int) =
              pStream.nLength - nHadProcessLen := by omega
        rw [whole, avcLengths, if_neg some_left, avcReadsInside, if_neg filled, if_neg enough]
        dsimp only
        rw [remain]
        have head : ∀ offset ∈ (List.range pSbm.nNaluLength).map
            (fun (i : Nat) => nHadProcessLen + (i : Int)),
              0 ≤ offset ∧ offset < pStream.nLength := by
          intro offset member
          rcases mem_map.mp member with ⟨i, within, rfl⟩
          have bound := mem_range.mp within
          omega
        generalize word nDataSize ((ringBytes pSbm (pStream.pData + nHadProcessLen)
          (pStream.nLength - nHadProcessLen)).take pSbm.nNaluLength) = value
        split_ifs with beyond ends
        · exact ⟨rfl, by simpa using head⟩
        · exact ⟨rfl, by simpa using head⟩
        · have later := @further (nHadProcessLen + (value + pSbm.nNaluLength)) value (by omega)
            (by omega)
          have place : pStream.pData + nHadProcessLen + (value + pSbm.nNaluLength) =
              pStream.pData + (nHadProcessLen + (value + pSbm.nNaluLength)) := by omega
          have behind : (ringBytes pSbm (pStream.pData + nHadProcessLen)
              (pStream.nLength - nHadProcessLen)).drop (value.toNat + pSbm.nNaluLength) =
                ringBytes pSbm (pStream.pData + (nHadProcessLen + (value + pSbm.nNaluLength)))
                  (pStream.nLength - (nHadProcessLen + (value + pSbm.nNaluLength))) := by
            rw [ring_bytes_drop]
            congr 1 <;> omega
          rw [place, behind, later.1]
          apply And.intro rfl
          rw [← later.2]
          constructor
          · intro all offset member
            exact all offset (mem_append_right _ member)
          · intro rest offset member
            rcases mem_append.mp member with here | there
            · exact head offset here
            · exact rest offset there
    · have empty : ringBytes pSbm (pStream.pData + nHadProcessLen)
          (pStream.nLength - nHadProcessLen) = [] :=
        eq_nil_of_length_eq_zero (by omega)
      rw [empty, avc_of_nothing.1, avc_of_nothing.2, avcLengthsFrom, if_neg done, avcLengthReads,
        if_neg done]
      simp

/-- Every turn goes on by a byte at least, so more turns than bytes change nothing. -/
theorem avc_check_ends (prefixBytes : 1 ≤ pSbm.nNaluLength) {fuel : Nat} (more : Nat)
    {nHadProcessLen pBuf nDataSize : Int} (enough : pStream.nLength - nHadProcessLen ≤ fuel) :
    avcLengthsFrom pSbm pStream (fuel + more) nHadProcessLen pBuf nDataSize =
      avcLengthsFrom pSbm pStream fuel nHadProcessLen pBuf nDataSize := by
  induction fuel generalizing nHadProcessLen pBuf nDataSize with
  | zero =>
    cases more with
    | zero => rfl
    | succ more =>
      have done : ¬nHadProcessLen < pStream.nLength := by omega
      rw [Nat.zero_add, avcLengthsFrom, avcLengthsFrom, if_neg done]
  | succ fuel further =>
    rw [Nat.succ_add, avcLengthsFrom, avcLengthsFrom]
    by_cases done : nHadProcessLen < pStream.nLength
    · rw [if_pos done, if_pos done]
      dsimp only
      generalize readBytes pSbm pBuf pSbm.nNaluLength 0 nDataSize = value
      split_ifs with beyond last
      · rfl
      · rfl
      · apply further
        omega
    · rw [if_neg done, if_neg done]

/-- The check ends, tells whether the chunk is framed, and reads bytes of the chunk only. -/
structure Recognises (pSbm : SbmFrame) (pStream : VideoStreamDataInfo) : Prop where
  ends : ∀ more, avcLengthsFrom pSbm pStream (pStream.nLength.toNat + more) 0 pStream.pData 0 =
    avcCheckBitStreamTypeWithoutStartCode pSbm pStream
  framed : avcCheckBitStreamTypeWithoutStartCode pSbm pStream = true ↔
    Framed pSbm.nNaluLength (ringBytes pSbm pStream.pData pStream.nLength)
  inside : ∀ offset ∈ avcLengthReads pSbm pStream pStream.nLength.toNat 0 pStream.pData 0,
    0 ≤ offset ∧ offset < pStream.nLength

def chunkEnding (pSbm : SbmFrame) (pStream : VideoStreamDataInfo) : Ending :=
  walk pSbm.nNaluLength (pushedOut pSbm.nNaluLength) pStream.nLength.toNat
    (ringBytes pSbm pStream.pData pStream.nLength)

/-- The endings that are told right: not behind an empty unit, not at a rest that is shorter
than a prefix, and out of step only where there are no units. -/
def toldRight (pSbm : SbmFrame) (pStream : VideoStreamDataInfo) : Ending → Prop
  | .whole last => last ≠ 0
  | .overlong => True
  | .shortRest => False
  | .outOfStep => ¬Framed pSbm.nNaluLength (ringBytes pSbm pStream.pData pStream.nLength)

theorem recognises_of_bytes (chunk : ChunkInBuffer pSbm pStream) : Recognises pSbm pStream ↔
      (avcLengths pSbm.nNaluLength pStream.nLength.toNat
          (ringBytes pSbm pStream.pData pStream.nLength) 0 = true ↔
        Framed pSbm.nNaluLength (ringBytes pSbm pStream.pData pStream.nLength)) ∧
      avcReadsInside pSbm.nNaluLength pStream.nLength.toNat
        (ringBytes pSbm pStream.pData pStream.nLength) 0 = true := by
  have view := @avc_check_view pSbm pStream chunk pStream.nLength.toNat 0 0 (by omega)
    chunk.length.1
  rw [Int.add_zero, Int.sub_zero] at view
  have check : avcCheckBitStreamTypeWithoutStartCode pSbm pStream =
      avcLengths pSbm.nNaluLength pStream.nLength.toNat
        (ringBytes pSbm pStream.pData pStream.nLength) 0 := view.1
  rw [← view.2, ← check]
  constructor
  · intro recognised
    exact ⟨recognised.framed, recognised.inside⟩
  · rintro ⟨framed, inside⟩
    apply Recognises.mk _ framed inside
    intro more
    exact avc_check_ends chunk.prefixBytes.1 more (by omega)

def ringOf (bytes : List UInt8) (place nStreamBufferSize : Int) (nNaluLength : Nat) : SbmFrame :=
  { bytes := fun address => bytes.getD (address - place).toNat 0
    pStreamBuffer := 0
    pStreamBufferEnd := nStreamBufferSize - 1
    nStreamBufferSize := nStreamBufferSize
    pWriteAddr := 0
    nValidDataSize := 0
    frameFifo := FrameFifo.init ⟨0, 0, 0, 0, 0, 0⟩ SBM_FRAME_FIFO_SIZE
    mFramePicFifo := FrameFifo.init ⟨[], 0, none, 0, 0, false, 0, 0, 0⟩ MAX_FRAME_PIC_NUM
    bStreamWithStartCode := -1
    mDetectInfo := ⟨none, none, 0, false, none, false, fun _ => 0⟩
    nNaluLength := nNaluLength
    nEosFlag := 0 }

end CedarC.AvcLengthCheck
