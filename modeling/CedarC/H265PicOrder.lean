import CedarC.FixedWidth
import CedarC.ResidueWindow

/-!
# Picture order counts of the H265 decoder

`HevcComputePoc` and the picture order count part of `HevcDecodeSliceHeader`
along a sequence of pictures, each coded by the low bits of its count. The
decoder predicts the high bits from `nPocTid0` with the remainder of C, which
is negative for a negative count.
-/

namespace CedarC.H265PicOrder

open FixedWidth ResidueWindow List

inductive HevcNaluType
  | HEVC_NAL_TRAIL_N
  | HEVC_NAL_TRAIL_R
  | HEVC_NAL_TSA_N
  | HEVC_NAL_TSA_R
  | HEVC_NAL_STSA_N
  | HEVC_NAL_STSA_R
  | HEVC_NAL_RADL_N
  | HEVC_NAL_RADL_R
  | HEVC_NAL_RASL_N
  | HEVC_NAL_RASL_R
  | HEVC_NAL_BLA_W_LP
  | HEVC_NAL_BLA_W_RADL
  | HEVC_NAL_BLA_N_LP
  | HEVC_NAL_IDR_W_RADL
  | HEVC_NAL_IDR_N_LP
  | HEVC_NAL_CRA_NUT
deriving DecidableEq

def HEVC_IS_IDR (eNaluType : HevcNaluType) : Bool :=
  eNaluType = .HEVC_NAL_IDR_W_RADL ∨ eNaluType = .HEVC_NAL_IDR_N_LP

def HEVC_IS_BLA (eNaluType : HevcNaluType) : Bool :=
  eNaluType = .HEVC_NAL_BLA_W_RADL ∨ eNaluType = .HEVC_NAL_BLA_W_LP ∨ eNaluType = .HEVC_NAL_BLA_N_LP

structure HevcContex where
  eNaluType : HevcNaluType
  nTemporalId : Nat
  nLog2MaxPocLsb : Nat
  nPoc : Int
  nPocTid0 : Int

section Decoder

variable (pHevcDec : HevcContex)

/-- The remainder and the quotient of C round to zero. -/
def HevcComputePoc (nPicOrderCntLsb : Int) : Int :=
  let nMaxPocLsb := 2 ^ pHevcDec.nLog2MaxPocLsb
  let nPrevPocLsb := pHevcDec.nPocTid0.tmod nMaxPocLsb
  let nPrevPocMsb := pHevcDec.nPocTid0 - nPrevPocLsb
  let nPocMsb :=
    if nPicOrderCntLsb < nPrevPocLsb ∧ nPrevPocLsb - nPicOrderCntLsb ≥ nMaxPocLsb / 2 then
      s32 (nPrevPocMsb + nMaxPocLsb)
    else if nPicOrderCntLsb > nPrevPocLsb ∧ nPicOrderCntLsb - nPrevPocLsb > nMaxPocLsb / 2 then
      s32 (nPrevPocMsb - nMaxPocLsb)
    else nPrevPocMsb
  let nPocMsb := if HEVC_IS_BLA pHevcDec.eNaluType then 0 else nPocMsb
  s32 (nPocMsb + nPicOrderCntLsb)

/-- Sub-layer non-reference and leading pictures predict no other. -/
def updatesPocTid0 (eNaluType : HevcNaluType) (nTemporalId : Nat) : Bool :=
  nTemporalId = 0 ∧ eNaluType ≠ .HEVC_NAL_TRAIL_N ∧ eNaluType ≠ .HEVC_NAL_TSA_N ∧
    eNaluType ≠ .HEVC_NAL_STSA_N ∧ eNaluType ≠ .HEVC_NAL_RADL_N ∧
    eNaluType ≠ .HEVC_NAL_RADL_R ∧ eNaluType ≠ .HEVC_NAL_RASL_N ∧
    eNaluType ≠ .HEVC_NAL_RASL_R

/-- A slice header as coded; a dependent slice segment has no picture order count. -/
structure SliceHeader where
  eNaluType : HevcNaluType
  nTemporalId : Nat
  nLog2MaxPocLsb : Nat
  bFirstSliceInPicFlag : Bool
  bDependentSliceSegmentFlag : Bool
  nPicOrderCntLsb : Int

/-- `HevcDecodeSliceHeader`, as far as the picture order count goes. -/
def HevcDecodeSliceHeader (pSh : SliceHeader) : HevcContex :=
  let pHevcDec :=
    { pHevcDec with
      eNaluType := pSh.eNaluType
      nTemporalId := pSh.nTemporalId
      nLog2MaxPocLsb := pSh.nLog2MaxPocLsb }
  if ¬ pSh.bFirstSliceInPicFlag ∧ pSh.bDependentSliceSegmentFlag then pHevcDec
  else
    let nPoc :=
      if HEVC_IS_IDR pSh.eNaluType then 0
      else
        let nPoc := HevcComputePoc pHevcDec pSh.nPicOrderCntLsb
        if ¬ pSh.bFirstSliceInPicFlag ∧ nPoc ≠ pHevcDec.nPoc then pHevcDec.nPoc else nPoc
    { pHevcDec with
      nPoc := nPoc
      nPocTid0 :=
        if updatesPocTid0 pSh.eNaluType pSh.nTemporalId then nPoc else pHevcDec.nPocTid0 }

def decodeSlices : HevcContex → List SliceHeader → HevcContex × List Int
  | pHevcDec, [] => (pHevcDec, [])
  | pHevcDec, pSh :: rest =>
    let next := HevcDecodeSliceHeader pHevcDec pSh
    let (final, counts) := decodeSlices next rest
    (final, next.nPoc :: counts)

end Decoder

/-- A picture to be coded: its count, and for each slice behind the first
whether it is a dependent slice segment. -/
structure CodedPicture where
  eNaluType : HevcNaluType
  nTemporalId : Nat
  nLog2MaxPocLsb : Nat
  poc : Int
  laterSlices : List Bool

def CodedPicture.slice (pic : CodedPicture) (first dependent : Bool) : SliceHeader :=
  { eNaluType := pic.eNaluType
    nTemporalId := pic.nTemporalId
    nLog2MaxPocLsb := pic.nLog2MaxPocLsb
    bFirstSliceInPicFlag := first
    bDependentSliceSegmentFlag := dependent
    nPicOrderCntLsb := pic.poc % 2 ^ pic.nLog2MaxPocLsb }

def CodedPicture.slices (pic : CodedPicture) : List SliceHeader :=
  pic.slice true false :: pic.laterSlices.map (pic.slice false)

def nextPrevious (previous : Int) (pic : CodedPicture) : Int :=
  if updatesPocTid0 pic.eNaluType pic.nTemporalId then pic.poc else previous

/-- The count of an IDR picture is 0, that of a BLA picture its low bits, and that
of any other less than half of the low bits' range off the previous one. -/
def Codable (previous : Int) (pic : CodedPicture) : Prop :=
  0 < pic.nLog2MaxPocLsb ∧ pic.nLog2MaxPocLsb ≤ 16 ∧ InS32 pic.poc ∧
    if HEVC_IS_IDR pic.eNaluType then pic.poc = 0
    else if HEVC_IS_BLA pic.eNaluType then 0 ≤ pic.poc ∧ pic.poc < 2 ^ pic.nLog2MaxPocLsb
    else -2 ^ pic.nLog2MaxPocLsb < 2 * (pic.poc - previous) ∧
      2 * (pic.poc - previous) < 2 ^ pic.nLog2MaxPocLsb

def Along (relation : Int → CodedPicture → Prop) : Int → List CodedPicture → Prop
  | _, [] => True
  | previous, pic :: rest => relation previous pic ∧ Along relation (nextPrevious previous pic) rest

def FallsBelow (previous : Int) (pic : CodedPicture) : Prop :=
  HEVC_IS_IDR pic.eNaluType = false ∧ HEVC_IS_BLA pic.eNaluType = false ∧ previous < 0 ∧
    previous % 2 ^ pic.nLog2MaxPocLsb ≠ 0 ∧
    pic.poc < previous - previous % 2 ^ pic.nLog2MaxPocLsb

section Recovery

variable {pHevcDec : HevcContex} {previous poc : Int} {pic : CodedPicture} {pSh : SliceHeader}

theorem max_poc_lsb_facts {nLog2MaxPocLsb : Nat} (some_bits : 0 < nLog2MaxPocLsb)
    (few : nLog2MaxPocLsb ≤ 16) :
    (0 : Int) < 2 ^ nLog2MaxPocLsb ∧ (2 : Int) ∣ 2 ^ nLog2MaxPocLsb ∧
      (2 : Int) ^ nLog2MaxPocLsb ≤ 2 ^ 16 := by
  refine ⟨Int.pow_pos (by decide), ?_, ?_⟩
  · obtain ⟨fewer, rfl⟩ : ∃ fewer, nLog2MaxPocLsb = fewer + 1 := ⟨nLog2MaxPocLsb - 1, by omega⟩
    rw [Int.pow_succ]
    exact Int.dvd_mul_left _ _
  · exact_mod_cast Nat.pow_le_pow_right (show 0 < 2 by decide) few

/-- The remainder of C is a turn off where the count is negative and no multiple. -/
theorem c_remainder (previous : Int) {modulus : Int} (positive : 0 < modulus) :
    previous.tmod modulus = previous % modulus -
      if previous < 0 ∧ previous % modulus ≠ 0 then modulus else 0 := by
  rw [Int.tmod_eq_emod]
  have whole : modulus ∣ previous ↔ previous % modulus = 0 := Int.dvd_iff_emod_eq_zero
  by_cases negative : previous < 0 ∧ previous % modulus ≠ 0
  · have inside : ¬ (0 ≤ previous ∨ modulus ∣ previous) := by
      rw [whole]
      omega
    rw [if_neg inside, if_pos negative]
    omega
  · have inside : 0 ≤ previous ∨ modulus ∣ previous := by
      rw [whole]
      omega
    rw [if_pos inside, if_neg negative]
    rfl

/-- The count of a picture that is predicted comes back unless it falls below the
multiple under a negative one. -/
theorem compute_poc_recovers (bla : HEVC_IS_BLA pHevcDec.eNaluType = false)
    (some_bits : 0 < pHevcDec.nLog2MaxPocLsb) (few : pHevcDec.nLog2MaxPocLsb ≤ 16)
    (range : InS32 poc) (near : -2 ^ pHevcDec.nLog2MaxPocLsb < 2 * (poc - pHevcDec.nPocTid0) ∧
      2 * (poc - pHevcDec.nPocTid0) < 2 ^ pHevcDec.nLog2MaxPocLsb) :
    HevcComputePoc pHevcDec (poc % 2 ^ pHevcDec.nLog2MaxPocLsb) = poc ↔
      ¬ (pHevcDec.nPocTid0 < 0 ∧ pHevcDec.nPocTid0 % 2 ^ pHevcDec.nLog2MaxPocLsb ≠ 0 ∧
        poc < pHevcDec.nPocTid0 - pHevcDec.nPocTid0 % 2 ^ pHevcDec.nLog2MaxPocLsb) := by
  obtain ⟨positive, even, small⟩ := max_poc_lsb_facts some_bits few
  unfold HevcComputePoc
  simp only [bla, Bool.false_eq_true, if_false]
  rw [c_remainder pHevcDec.nPocTid0 positive]
  generalize (2 : Int) ^ pHevcDec.nLog2MaxPocLsb = modulus at *
  generalize pHevcDec.nPocTid0 = previous at *
  have low := Int.emod_nonneg poc (Int.ne_of_gt positive)
  have high := Int.emod_lt_of_pos poc positive
  have previousLow := Int.emod_nonneg previous (Int.ne_of_gt positive)
  have previousHigh := Int.emod_lt_of_pos previous positive
  have aligned : modulus ∣ previous - previous % modulus := Int.dvd_self_sub_emod
  have close : Near modulus (previous - previous % modulus + previous % modulus) poc := by
    unfold Near
    omega
  have turns := residue_turns positive aligned ⟨previousLow, previousHigh⟩ close
  unfold InS32 at range
  unfold s32
  split_ifs <;> omega

/-- What the first slice of a picture leaves, whatever its count turns out to be. -/
theorem first_slice_carries : (HevcDecodeSliceHeader pHevcDec (pic.slice true false)).nPocTid0 =
      if updatesPocTid0 pic.eNaluType pic.nTemporalId then
        (HevcDecodeSliceHeader pHevcDec (pic.slice true false)).nPoc
      else pHevcDec.nPocTid0 := by
  simp [HevcDecodeSliceHeader, CodedPicture.slice]

theorem first_slice_of_idr (idr : HEVC_IS_IDR pic.eNaluType = true) :
    (HevcDecodeSliceHeader pHevcDec (pic.slice true false)).nPoc = 0 := by
  simp [HevcDecodeSliceHeader, CodedPicture.slice, idr]

theorem first_slice_computed (predicted : HEVC_IS_IDR pic.eNaluType = false) :
    (HevcDecodeSliceHeader pHevcDec (pic.slice true false)).nPoc = HevcComputePoc
        { pHevcDec with
          eNaluType := pic.eNaluType
          nTemporalId := pic.nTemporalId
          nLog2MaxPocLsb := pic.nLog2MaxPocLsb }
        (pic.poc % 2 ^ pic.nLog2MaxPocLsb) := by
  simp [HevcDecodeSliceHeader, CodedPicture.slice, predicted]

/-- The first slice of a picture has the picture's count unless that falls below
the multiple under a negative one. -/
theorem first_slice_poc (coded : Codable pHevcDec.nPocTid0 pic) :
    (HevcDecodeSliceHeader pHevcDec (pic.slice true false)).nPoc = pic.poc ↔
      ¬ FallsBelow pHevcDec.nPocTid0 pic := by
  rcases coded with ⟨some_bits, few, range, kind⟩
  unfold FallsBelow
  by_cases idr : HEVC_IS_IDR pic.eNaluType = true
  · rw [if_pos idr] at kind
    rw [first_slice_of_idr idr, kind]
    simp [idr]
  · rw [if_neg idr] at kind
    rw [Bool.not_eq_true] at idr
    rw [first_slice_computed idr]
    by_cases bla : HEVC_IS_BLA pic.eNaluType = true
    · rw [if_pos bla] at kind
      have computed : HevcComputePoc
          { pHevcDec with
            eNaluType := pic.eNaluType
            nTemporalId := pic.nTemporalId
            nLog2MaxPocLsb := pic.nLog2MaxPocLsb }
          (pic.poc % 2 ^ pic.nLog2MaxPocLsb) = pic.poc := by
        rw [Int.emod_eq_of_lt kind.1 kind.2]
        simp only [HevcComputePoc, bla, if_true, Int.zero_add]
        exact s32_of_range range
      simp [computed, bla]
    · rw [if_neg bla] at kind
      rw [Bool.not_eq_true] at bla
      rw [compute_poc_recovers bla some_bits few range kind]
      simp [idr, bla]

theorem later_slice_keeps (dependent : Bool)
    (begun : HEVC_IS_IDR pic.eNaluType = true → pHevcDec.nPoc = 0)
    (carried : updatesPocTid0 pic.eNaluType pic.nTemporalId = true →
      pHevcDec.nPocTid0 = pHevcDec.nPoc) :
    (HevcDecodeSliceHeader pHevcDec (pic.slice false dependent)).nPoc = pHevcDec.nPoc ∧
      (HevcDecodeSliceHeader pHevcDec (pic.slice false dependent)).nPocTid0 =
        pHevcDec.nPocTid0 := by
  have kept : (HevcDecodeSliceHeader pHevcDec (pic.slice false dependent)).nPoc =
      pHevcDec.nPoc := by
    cases dependent with
    | true => simp [HevcDecodeSliceHeader, CodedPicture.slice]
    | false =>
      by_cases idr : HEVC_IS_IDR pic.eNaluType = true
      · simp [HevcDecodeSliceHeader, CodedPicture.slice, idr, begun idr]
      · simp only [HevcDecodeSliceHeader, CodedPicture.slice, idr, Bool.false_eq_true,
          not_false_eq_true, and_false, if_false, true_and, ne_eq]
        split_ifs with same
        · exact same
        · rfl
  apply And.intro kept
  cases dependent with
  | true => simp [HevcDecodeSliceHeader, CodedPicture.slice]
  | false =>
    by_cases updates : updatesPocTid0 pic.eNaluType pic.nTemporalId = true
    · rw [carried updates, ← kept]
      simp [HevcDecodeSliceHeader, CodedPicture.slice, updates]
    · simp [HevcDecodeSliceHeader, CodedPicture.slice, updates]

theorem later_slices_keep (flags : List Bool)
    (begun : HEVC_IS_IDR pic.eNaluType = true → pHevcDec.nPoc = 0)
    (carried : updatesPocTid0 pic.eNaluType pic.nTemporalId = true →
      pHevcDec.nPocTid0 = pHevcDec.nPoc) :
    (decodeSlices pHevcDec (flags.map (pic.slice false))).2 =
        List.replicate flags.length pHevcDec.nPoc ∧
      (decodeSlices pHevcDec (flags.map (pic.slice false))).1.nPocTid0 = pHevcDec.nPocTid0 := by
  induction flags generalizing pHevcDec with
  | nil => exact ⟨rfl, rfl⟩
  | cons dependent rest later =>
    have kept := later_slice_keeps dependent begun carried
    have onward := later (by rw [kept.1]; exact begun)
      (by rw [kept.1, kept.2]; exact carried)
    rw [kept.1, kept.2] at onward
    simp only [map_cons, decodeSlices, length_cons, replicate_succ]
    rw [kept.1, onward.1]
    exact ⟨rfl, onward.2⟩

theorem picture_slices (pHevcDec : HevcContex) (pic : CodedPicture) :
    (decodeSlices pHevcDec pic.slices).2 = List.replicate (pic.laterSlices.length + 1)
          (HevcDecodeSliceHeader pHevcDec (pic.slice true false)).nPoc ∧
      (decodeSlices pHevcDec pic.slices).1.nPocTid0 =
        if updatesPocTid0 pic.eNaluType pic.nTemporalId then
          (HevcDecodeSliceHeader pHevcDec (pic.slice true false)).nPoc
        else pHevcDec.nPocTid0 := by
  have kept := @later_slices_keep (HevcDecodeSliceHeader pHevcDec (pic.slice true false)) pic
    pic.laterSlices first_slice_of_idr (by
      intro updates
      rw [first_slice_carries, if_pos updates])
  rw [first_slice_carries] at kept
  unfold CodedPicture.slices
  simp only [decodeSlices, replicate_succ]
  rw [kept.1]
  exact ⟨rfl, kept.2⟩

theorem decode_slices_append (pHevcDec : HevcContex) (slices more : List SliceHeader) :
    decodeSlices pHevcDec (slices ++ more) =
      ((decodeSlices (decodeSlices pHevcDec slices).1 more).1, (decodeSlices pHevcDec slices).2 ++
          (decodeSlices (decodeSlices pHevcDec slices).1 more).2) := by
  induction slices generalizing pHevcDec with
  | nil => rfl
  | cons pSh rest later =>
    simp only [cons_append, decodeSlices]
    rw [later]

def CodedPicture.counts (pic : CodedPicture) : List Int :=
  List.replicate (pic.laterSlices.length + 1) pic.poc

/-- Along a sequence every slice has the count of its picture exactly where no count
falls below the multiple under a negative one. -/
theorem slices_have_their_count (pHevcDec : HevcContex) (pics : List CodedPicture)
    (coded : Along Codable pHevcDec.nPocTid0 pics) :
    (decodeSlices pHevcDec (pics.flatMap CodedPicture.slices)).2 =
        pics.flatMap CodedPicture.counts ↔
      Along (fun previous pic => ¬ FallsBelow previous pic) pHevcDec.nPocTid0 pics := by
  induction pics generalizing pHevcDec with
  | nil => simp [decodeSlices, Along]
  | cons pic rest later =>
    rcases coded with ⟨here, onward⟩
    have picture := picture_slices pHevcDec pic
    have recovers := first_slice_poc here
    have sameLength : (decodeSlices pHevcDec pic.slices).2.length = pic.counts.length := by
      rw [picture.1]
      simp [CodedPicture.counts]
    have heads : (decodeSlices pHevcDec pic.slices).2 = pic.counts ↔
        ¬ FallsBelow pHevcDec.nPocTid0 pic := by
      rw [picture.1, ← recovers]
      simp [CodedPicture.counts]
    have previous : ¬ FallsBelow pHevcDec.nPocTid0 pic →
        (decodeSlices pHevcDec pic.slices).1.nPocTid0 = nextPrevious pHevcDec.nPocTid0 pic := by
      intro stays
      rw [picture.2, recovers.mpr stays]
      rfl
    rw [flatMap_cons, flatMap_cons, decode_slices_append]
    constructor
    · intro recovered
      have parts := append_inj recovered sameLength
      have stays := heads.mp parts.1
      rw [← previous stays] at onward
      apply And.intro stays
      rw [← previous stays]
      exact (later _ onward).mp parts.2
    · intro stays
      rw [← previous stays.1] at onward
      have recovered := (later _ onward).mpr (by rw [previous stays.1]; exact stays.2)
      dsimp only
      rw [heads.mpr stays.1, recovered]

end Recovery

def newDecoder : HevcContex :=
  { eNaluType := .HEVC_NAL_TRAIL_N
    nTemporalId := 0
    nLog2MaxPocLsb := 0
    nPoc := 0
    nPocTid0 := 0 }

def picture (eNaluType : HevcNaluType) (poc : Int) (laterSlices : List Bool) : CodedPicture :=
  { eNaluType := eNaluType
    nTemporalId := 0
    nLog2MaxPocLsb := 4
    poc := poc
    laterSlices := laterSlices }

def leadingSequence : List CodedPicture :=
  [picture .HEVC_NAL_IDR_W_RADL 0 [false], picture .HEVC_NAL_RADL_N (-3) [true, false],
    picture .HEVC_NAL_TRAIL_R 6 [],
    picture .HEVC_NAL_TRAIL_R 13 [false],
    picture .HEVC_NAL_TRAIL_N 18 []]

theorem leading_sequence_codable : Along Codable newDecoder.nPocTid0 leadingSequence := by
  simp only [leadingSequence, Along, Codable, nextPrevious, picture, newDecoder]
  decide

theorem leading_sequence_stays :
    Along (fun previous pic => ¬ FallsBelow previous pic) newDecoder.nPocTid0
      leadingSequence := by
  simp only [leadingSequence, Along, FallsBelow, nextPrevious, picture, newDecoder]
  decide

theorem leading_sequence_counts :
    (decodeSlices newDecoder (leadingSequence.flatMap CodedPicture.slices)).2 =
      [0, 0, -3, -3, -3, 6, 13, 13, 18] :=
  (slices_have_their_count newDecoder leadingSequence leading_sequence_codable).mpr
    leading_sequence_stays

/-- Four pictures, each less than 8 below the one before. -/
def fallingSequence : List CodedPicture :=
  [picture .HEVC_NAL_IDR_W_RADL 0 [], picture .HEVC_NAL_TRAIL_R (-6) [],
    picture .HEVC_NAL_TRAIL_R (-12) [],
    picture .HEVC_NAL_TRAIL_R (-19) []]

/-- The remainder of the count -12 is -12, and the low bits 13 of the count -19 are
more than 8 above it; the multiple is -16 instead of -32. -/
theorem falling_sequence_miscounted : ¬ ∀ (pHevcDec : HevcContex) (pics : List CodedPicture),
      Along Codable pHevcDec.nPocTid0 pics →
        (decodeSlices pHevcDec (pics.flatMap CodedPicture.slices)).2 =
          pics.flatMap CodedPicture.counts := by
  intro recovers
  have coded : Along Codable newDecoder.nPocTid0 fallingSequence := by
    simp only [fallingSequence, Along, Codable, nextPrevious, picture, newDecoder]
    decide
  have last := congrArg List.getLast? (recovers newDecoder fallingSequence coded)
  revert last
  decide

end CedarC.H265PicOrder
