import CedarC.H264HeaderBuffer
import Mathlib.Data.List.Count

/-!
# The start of the slice data

The software parser stops at a bit of the payload. `H264ConfigVbvRegisters` looks for the
same bit of the unit in the ring: it adds the bytes that were left out before it.
-/

namespace CedarC.H264SliceDataStart

open EmulationPrevention H264HeaderBuffer List

section Source

/-- The two registers that say where the slice data is. -/
structure VldRegisters where
  REG_VLD_OFFSET : Nat
  REG_VLD_BIT_LENGTH : Nat
deriving DecidableEq

/-- The loop over `emulateIndex`, for `bytes` in place of `nBitCounts / 8`. -/
def emulateBefore (bytes : Nat) : List Nat → Nat
  | [] => 0
  | place :: rest => if bytes ≤ place then 0 else emulateBefore bytes rest + 1

/-- `H264ConfigVbvRegisters`, with the `index` of the bit reader. -/
def H264ConfigVbvRegisters (vbv : VbvInfo) (h264Dec : HeaderBuffer) (index sliceDataLen : Nat) :
    VldRegisters :=
  let nBitCounts := (index + emulateBefore (index / 8) h264Dec.emulateIndex * 8) % 2 ^ 32
  let offset := vbv.pReadPtr * 8 + nBitCounts
  let bufBitSize := vbv.pVbvBuf.length * 8
  ⟨(if bufBitSize < offset then offset - bufBitSize else offset) % 2 ^ 32,
    (sliceDataLen + 2 ^ 32 - nBitCounts) % 2 ^ 32⟩

end Source

section Property

/-- The place in the unit of the byte `count` of its payload. -/
def placeOf : UInt8 → UInt8 → List UInt8 → Nat → Nat
  | _, _, [], _ => 0
  | before, last, byte :: rest, count =>
    if prevents before last byte then placeOf last byte rest count + 1
    else match count with
      | 0 => 0
      | count + 1 => placeOf last byte rest count + 1

def bitOf (unit : List UInt8) (index : Nat) : Nat :=
  8 * placeOf 255 255 unit (index / 8) + index % 8

/-- The registers hold the bit of the ring where the parser stopped, and the bits of the
unit from there on. -/
def StartsAtParser (overlapped : List UInt8 → Nat → Nat → Nat → List UInt8)
    (fresh : Nat → UInt8) (vbv : VbvInfo) (pDecHeaderBuf : List UInt8)
    (nalUnitType sliceLen index : Nat) : Prop :=
  H264ConfigVbvRegisters vbv
      (H264DecodeProcessData overlapped fresh vbv pDecHeaderBuf nalUnitType sliceLen) index
      (sliceLen * 8 % 2 ^ 32) =
    ⟨(8 * vbv.pReadPtr + bitOf (taken vbv nalUnitType sliceLen) index) %
        (8 * vbv.pVbvBuf.length),
      8 * sliceLen - bitOf (taken vbv nalUnitType sliceLen) index⟩
deriving Decidable

end Property

section Places

variable {before last : UInt8} {place : Nat} {bytes : List UInt8}

theorem preventing_from (before last : UInt8) (place : Nat) (bytes : List UInt8) :
    ∀ found ∈ preventing before last place bytes, place ≤ found := by
  induction bytes generalizing before last place with
  | nil => exact fun _ member => (nomatch member)
  | cons byte rest later =>
    intro found member
    have behind := later last byte (place + 1) found
    unfold preventing at member
    split at member
    · rcases mem_cons.mp member with rfl | other
      · exact Nat.le_refl _
      · exact Nat.le_of_succ_le (behind other)
    · exact Nat.le_of_succ_le (behind member)

/-- No place that the scan finds is before the first that is as large as `bound`. -/
theorem count_before_start {bound : Nat} (early : bound ≤ place) :
    (preventing before last place bytes).countP (· < bound) = 0 := by
  rw [countP_eq_zero]
  intro found member
  have behind := preventing_from before last place bytes found member
  simp
  omega

theorem emulate_before_count {bound sentinel : Nat} (inside : bound ≤ sentinel) :
    emulateBefore bound (preventing before last place bytes ++ [sentinel]) =
      (preventing before last place bytes).countP (· < bound) := by
  induction bytes generalizing before last place with
  | nil => simp [preventing, emulateBefore, inside]
  | cons byte rest later =>
    unfold preventing
    split
    · rw [cons_append, emulateBefore, later, countP_cons]
      by_cases early : bound ≤ place
      · rw [if_pos early, count_before_start (Nat.le_succ_of_le early)]
        simp [early]
      · simp [early]
    · exact later

/-- The byte of the payload stands in the unit behind the bytes left out before it. -/
theorem place_of_kept {count : Nat} (inside : count < (kept before last bytes).length) :
    bytes[placeOf before last bytes count]? = (kept before last bytes)[count]? ∧
      placeOf before last bytes count = count + (preventing before last place bytes).countP
        (· < place + placeOf before last bytes count) := by
  induction bytes generalizing before last place count with
  | nil => cases inside
  | cons byte rest later =>
    unfold kept at inside
    unfold kept placeOf preventing
    have shift : place + (placeOf last byte rest count + 1) =
        place + 1 + placeOf last byte rest count := by omega
    split at inside
    · rename_i pattern
      obtain ⟨same, counted⟩ := @later last byte (place + 1) count inside
      rw [if_pos pattern, if_pos pattern, if_pos pattern, getElem?_cons_succ, shift,
        countP_cons_of_pos (by simp only [decide_eq_true_eq]; omega)]
      exact ⟨same, by omega⟩
    · rename_i other
      rw [if_neg other, if_neg other, if_neg other]
      cases count with
      | zero =>
        dsimp only
        rw [Nat.add_zero, count_before_start (Nat.le_add_right place 1)]
        exact ⟨rfl, rfl⟩
      | succ count =>
        obtain ⟨same, counted⟩ := @later last byte (place + 1) count (Nat.lt_of_succ_lt_succ inside)
        have shift : place + (placeOf last byte rest count + 1) =
            place + 1 + placeOf last byte rest count := by omega
        dsimp only
        rw [getElem?_cons_succ, getElem?_cons_succ, shift]
        exact ⟨same, by omega⟩

theorem count_same_iff {low high : Nat} (ordered : low ≤ high) (places : List Nat) :
    places.countP (· < low) ≤ places.countP (· < high) ∧
      (places.countP (· < low) = places.countP (· < high) ↔
        ∀ found ∈ places, ¬ (low ≤ found ∧ found < high)) := by
  induction places with
  | nil => simp
  | cons place rest later =>
    rw [countP_cons, countP_cons, forall_mem_cons, ← later.2]
    have fewer := later.1
    simp only [decide_eq_true_eq]
    split_ifs <;> omega

end Places

/-- Both registers are right where the bytes added are those left out, but for the end of the
ring. -/
theorem registers_right_iff {place ring length index low high : Nat} (start : place < ring)
    (inside : index + 8 * high < 8 * length) (fits : length ≤ ring) (bound : ring < 2 ^ 29)
    (fewer : low ≤ high) :
    VldRegisters.mk
        ((if ring * 8 < place * 8 + (index + low * 8) % 2 ^ 32 then
            place * 8 + (index + low * 8) % 2 ^ 32 - ring * 8
          else place * 8 + (index + low * 8) % 2 ^ 32) % 2 ^ 32)
        ((length * 8 % 2 ^ 32 + 2 ^ 32 - (index + low * 8) % 2 ^ 32) % 2 ^ 32) =
      ⟨(8 * place + (index + 8 * high)) % (8 * ring), 8 * length - (index + 8 * high)⟩ ↔
      low = high ∧ 8 * place + (index + 8 * high) ≠ 8 * ring := by
  have small : (index + low * 8) % 2 ^ 32 = index + low * 8 := Nat.mod_eq_of_lt (by omega)
  rw [VldRegisters.mk.injEq, small]
  have bits : (length * 8 % 2 ^ 32 + 2 ^ 32 - (index + low * 8)) % 2 ^ 32 =
      8 * length - (index + 8 * high) ↔ low = high := by omega
  rw [bits, and_comm]
  apply and_congr_right
  rintro rfl
  rcases Nat.lt_trichotomy (8 * place + (index + 8 * low)) (8 * ring) with before | there | behind
  · rw [Nat.mod_eq_of_lt before, if_neg (by omega)]
    omega
  · rw [there, Nat.mod_self, if_neg (by omega)]
    omega
  · have wrapped : (8 * place + (index + 8 * low)) % (8 * ring) =
        8 * place + (index + 8 * low) - 8 * ring := by
      rw [Nat.mod_eq_sub_mod behind.le, Nat.mod_eq_of_lt (by omega)]
    rw [wrapped, if_pos (by omega)]
    omega

variable {overlapped : List UInt8 → Nat → Nat → Nat → List UInt8} {fresh : Nat → UInt8}
  {vbv : VbvInfo} {pDecHeaderBuf : List UInt8} {nalUnitType sliceLen index : Nat}

theorem emulate_before_taken (start : vbv.pReadPtr < vbv.pVbvBuf.length)
    (fits : sliceLen ≤ vbv.pVbvBuf.length)
    (stopped : index / 8 ≤ (taken vbv nalUnitType sliceLen).length) :
    emulateBefore (index / 8) (H264DecodeProcessData overlapped fresh vbv pDecHeaderBuf nalUnitType
        sliceLen).emulateIndex =
      (preventing 255 255 0 (taken vbv nalUnitType sliceLen)).countP (· < index / 8) := by
  rw [taken_length fits] at stopped
  have counted := @emulate_before_count 255 255 0 (taken vbv nalUnitType sliceLen) _ _ stopped
  rw [process_data_places start fits]
  cases found : preventing 255 255 0 (taken vbv nalUnitType sliceLen) with
  | nil => rfl
  | cons place rest =>
    rw [found] at counted
    exact counted

/-- The slice data start where the parser stopped unless a byte was left out between the place
of its byte in the payload and the place in the unit, or the header ends with the ring. -/
theorem slice_start_iff (start : vbv.pReadPtr < vbv.pVbvBuf.length)
    (fits : sliceLen ≤ vbv.pVbvBuf.length) (ring : vbv.pVbvBuf.length < 2 ^ 29)
    (stopped : index < 8 * (rbsp (taken vbv nalUnitType sliceLen)).length) :
    StartsAtParser overlapped fresh vbv pDecHeaderBuf nalUnitType sliceLen index ↔
      (∀ found ∈ preventing 255 255 0 (taken vbv nalUnitType sliceLen), ¬ (index / 8 ≤ found ∧
          found < placeOf 255 255 (taken vbv nalUnitType sliceLen) (index / 8))) ∧
        8 * vbv.pReadPtr + bitOf (taken vbv nalUnitType sliceLen) index ≠
          8 * vbv.pVbvBuf.length := by
  have shorter := rbsp_length (taken vbv nalUnitType sliceLen)
  have size := @taken_length vbv nalUnitType sliceLen fits
  have unit := header_length_le nalUnitType sliceLen
  have before := @emulate_before_taken overlapped fresh vbv pDecHeaderBuf nalUnitType sliceLen index
    start fits (by omega)
  obtain ⟨byte, place⟩ := @place_of_kept 255 255 0 (taken vbv nalUnitType sliceLen) (index / 8)
    (by rw [kept_rbsp]; omega)
  rw [kept_rbsp] at byte
  unfold StartsAtParser H264ConfigVbvRegisters bitOf
  rw [before]
  generalize taken vbv nalUnitType sliceLen = bytes at *
  generalize placeOf 255 255 bytes (index / 8) = reached at *
  rw [Nat.zero_add] at place
  have inside : reached < bytes.length := by
    by_contra outside
    rw [getElem?_eq_none (Nat.not_lt.mp outside), getElem?_eq_getElem (by omega)] at byte
    cases byte
  obtain ⟨fewer, same⟩ := @count_same_iff (index / 8) reached (by omega) (preventing 255 255 0 bytes)
  have whole : 8 * reached + index % 8 = index + 8 * (preventing 255 255 0 bytes).countP
      (· < reached) := by omega
  rw [whole, ← same]
  exact registers_right_iff start (by omega) fits ring fewer

theorem header_across_ring_end :
    StartsAtParser moved zeroed ⟨[3, 0, 7, 9, 1, 101, 0, 0], 5⟩ [] 5 7 40 := by
  rw [slice_start_iff (by decide) (by decide) (by decide) (by decide)]
  decide

/-- An escape at the header end is taken for the first byte of the slice data; a header that
ends with the ring leaves the offset behind its last bit. -/
theorem slice_start_missed : ¬ StartsAtParser moved zeroed ⟨[101, 0, 0, 3, 1, 7], 0⟩ [] 5 6 24 ∧
      ¬ StartsAtParser moved zeroed ⟨[7, 9, 101, 1, 2], 2⟩ [] 5 5 24 := by
  decide

end CedarC.H264SliceDataStart
