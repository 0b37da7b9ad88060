import CedarC.H265PicOrder
import CedarC.H265ShortTermRps
import Mathlib.Data.Int.ModEq
import Mathlib.Data.Nat.Log

/-!
# Long-term reference picture sets of the H265 parser

The long-term list of `HevcDecodeNalSps`, `HevcParseLongTermRefSet`, and the reference picture set
part of `HevcDecodeSliceHeader`, compared with equation 7-52 and clause 8.3.2. The bit reader is
represented by the values that it returns; a value of a given number of bits depends on that
number. `none` stands for an access outside an array.
-/

namespace CedarC.H265LongTermRps

open FixedWidth Option Function
open CedarC.H265PicOrder (HevcNaluType HEVC_IS_IDR HevcComputePoc)
open CedarC.H265ShortTermRps (hevcCeilLog2)

def ltArraySize : Nat := 32

structure HevcSPS where
  nLog2MaxPocLsb : Nat
  bLongtermRefPicsPresentFlag : Bool
  nNumLongTermRefPicsSps : UInt8
  nLtRefPicPocLsbSps : Nat → UInt16
  bUsedByCurrPicLtSpsFlag : Nat → Bool

/-- The list as coded; a value is returned for a number of bits. More than 16 low bits of a count
are refused before. -/
structure SpsSyntax where
  nLog2MaxPocLsb : Nat
  longTermRefPicsPresentFlag : Bool
  numLongTermRefPicsSps : UInt32
  ltRefPicPocLsbSps : Nat → Nat → Nat
  usedByCurrPicLtSpsFlag : Nat → Bool
  few_bits : nLog2MaxPocLsb ≤ 16

def ltSpsEntry (coded : SpsSyntax) (pSps : HevcSPS) (i : Nat) : Option HevcSPS :=
  if ltArraySize ≤ i then none
  else
    some
      { pSps with
        nLtRefPicPocLsbSps := update pSps.nLtRefPicPocLsbSps i
          (UInt16.ofNat (coded.ltRefPicPocLsbSps pSps.nLog2MaxPocLsb i))
        bUsedByCurrPicLtSpsFlag :=
          update pSps.bUsedByCurrPicLtSpsFlag i (coded.usedByCurrPicLtSpsFlag i) }

def HevcDecodeNalSps (coded : SpsSyntax) : Option HevcSPS :=
  let pSps : HevcSPS :=
    { nLog2MaxPocLsb := coded.nLog2MaxPocLsb
      bLongtermRefPicsPresentFlag := coded.longTermRefPicsPresentFlag
      nNumLongTermRefPicsSps := 0
      nLtRefPicPocLsbSps := fun _ => 0
      bUsedByCurrPicLtSpsFlag := fun _ => false }
  if pSps.bLongtermRefPicsPresentFlag then
    let pSps := { pSps with nNumLongTermRefPicsSps := coded.numLongTermRefPicsSps.toUInt8 }
    (List.range pSps.nNumLongTermRefPicsSps.toNat).foldlM (ltSpsEntry coded) pSps
  else some pSps

structure HevcLongTermRPS where
  nPoc : Nat → Int
  bUsed : Nat → Bool
  nNumOfRefs : Int

structure LongTermSyntax where
  numLongTermSps : UInt32
  numLongTermPics : UInt32
  ltIdxSps : Nat → Nat → Nat
  pocLsbLt : Nat → Nat → Nat
  usedByCurrPicLtFlag : Nat → Bool
  deltaPocMsbPresentFlag : Nat → Bool
  deltaPocMsbCycleLt : Nat → UInt32
  idx_of_bits : ∀ nBits i, ltIdxSps nBits i < 2 ^ nBits
  lsb_of_bits : ∀ nBits i, pocLsbLt nBits i < 2 ^ nBits

structure LtLoop where
  pLt : HevcLongTermRPS
  nPrvDeltaMsb : Int
  nDeltaPocMsbCycleLt : Int

/-- What the loop runs with: the sets, the syntax elements, the picture and both counts. -/
structure LtParse where
  pSps : HevcSPS
  syn : LongTermSyntax
  nPoc : Int
  nPicOrderCntLsb : Int
  nNumOfLtSps : Int
  nNumOfLtSh : Int

def ltEntry (parse : LtParse) (s : LtLoop) (i : Nat) : Option LtLoop :=
  let pSps := parse.pSps
  let nLtIdxSps :=
    if pSps.nNumLongTermRefPicsSps > 1 then
      parse.syn.ltIdxSps (hevcCeilLog2 pSps.nNumLongTermRefPicsSps.toNat) i
    else 0
  if ltArraySize ≤ i ∨ (i : Int) < parse.nNumOfLtSps ∧ ltArraySize ≤ nLtIdxSps then none
  else
    let nPoc : Int :=
      if (i : Int) < parse.nNumOfLtSps then (pSps.nLtRefPicPocLsbSps nLtIdxSps).toNat
      else parse.syn.pocLsbLt pSps.nLog2MaxPocLsb i
    let bUsed :=
      if (i : Int) < parse.nNumOfLtSps then pSps.bUsedByCurrPicLtSpsFlag nLtIdxSps
      else parse.syn.usedByCurrPicLtFlag i
    let nDeltaPocMsbCycleLt :=
      if parse.syn.deltaPocMsbPresentFlag i then
        let nDeltaPocMsbCycleLt := s32 (parse.syn.deltaPocMsbCycleLt i).toNat
        if i ≠ 0 ∧ i ≠ parse.nNumOfLtSps then s32 (nDeltaPocMsbCycleLt + s.nPrvDeltaMsb)
        else nDeltaPocMsbCycleLt
      else if i = s32 (s.pLt.nNumOfRefs - parse.nNumOfLtSh) then 0
      else s.nDeltaPocMsbCycleLt
    let nPoc :=
      if parse.syn.deltaPocMsbPresentFlag i then
        s32 (nPoc + s32 (s32 (parse.nPoc - s32 (nDeltaPocMsbCycleLt * 2 ^ pSps.nLog2MaxPocLsb)) -
          parse.nPicOrderCntLsb))
      else nPoc
    some
      { pLt := { s.pLt with
          nPoc := update s.pLt.nPoc i nPoc
          bUsed := update s.pLt.bUsed i bUsed }
        nPrvDeltaMsb := nDeltaPocMsbCycleLt
        nDeltaPocMsbCycleLt := nDeltaPocMsbCycleLt }

def HevcParseLongTermRefSet (pSps : HevcSPS) (syn : LongTermSyntax) (nPoc nPicOrderCntLsb : Int)
    (pLt : HevcLongTermRPS) : Option (Int × HevcLongTermRPS) :=
  if !pSps.bLongtermRefPicsPresentFlag then some (0, pLt)
  else
    let nNumOfLtSps :=
      if pSps.nNumLongTermRefPicsSps > 0 then s32 syn.numLongTermSps.toNat else 0
    let nNumOfLtSh := s32 syn.numLongTermPics.toNat
    if s32 (nNumOfLtSps + nNumOfLtSh) > 32 then some (-1, pLt)
    else
      let pLt := { pLt with nNumOfRefs := s32 (nNumOfLtSps + nNumOfLtSh) }
      ((List.range pLt.nNumOfRefs.toNat).foldlM
        (ltEntry ⟨pSps, syn, nPoc, nPicOrderCntLsb, nNumOfLtSps, nNumOfLtSh⟩)
        ⟨pLt, 0, 0⟩).map fun s => (0, s.pLt)

/-- An independent slice segment; a dependent one leaves the sets as they are. -/
structure SliceSegment where
  eNaluType : HevcNaluType
  nTemporalId : Nat
  bFirstSliceInPicFlag : Bool
  slicePicOrderCntLsb : Nat → Nat
  long : LongTermSyntax
  lsb_of_bits : ∀ nBits, slicePicOrderCntLsb nBits < 2 ^ nBits

structure HevcContex where
  pic : H265PicOrder.HevcContex
  LongTermRps : HevcLongTermRPS

def SliceSegment.header (slice : SliceSegment) (pSps : HevcSPS) : H265PicOrder.SliceHeader :=
  { eNaluType := slice.eNaluType
    nTemporalId := slice.nTemporalId
    nLog2MaxPocLsb := pSps.nLog2MaxPocLsb
    bFirstSliceInPicFlag := slice.bFirstSliceInPicFlag
    bDependentSliceSegmentFlag := false
    nPicOrderCntLsb := slice.slicePicOrderCntLsb pSps.nLog2MaxPocLsb }

def HevcDecodeSliceHeader (pSps : HevcSPS) (pHevcDec : HevcContex) (slice : SliceSegment) :
    Option HevcContex :=
  let pic := H265PicOrder.HevcDecodeSliceHeader pHevcDec.pic (slice.header pSps)
  if HEVC_IS_IDR slice.eNaluType then
    some ⟨pic, { pHevcDec.LongTermRps with nNumOfRefs := 0 }⟩
  else
    (HevcParseLongTermRefSet pSps slice.long pic.nPoc (slice.header pSps).nPicOrderCntLsb
      pHevcDec.LongTermRps).map fun result => ⟨pic, result.2⟩

section Clause

variable (pSps : HevcSPS) (syn : LongTermSyntax) (PicOrderCntVal : Int)

/-- Inferred to be 0 where the sequence parameter set lists no pictures. -/
def numLongTermSps : Nat :=
  if 0 < pSps.nNumLongTermRefPicsSps.toNat then syn.numLongTermSps.toNat else 0

/-- `lt_idx_sps[ i ]` has `Ceil( Log2( num_long_term_ref_pics_sps ) )` bits. -/
def ltIdx (i : Nat) : Nat :=
  if 1 < pSps.nNumLongTermRefPicsSps.toNat then
    syn.ltIdxSps (Nat.clog 2 pSps.nNumLongTermRefPicsSps.toNat) i
  else 0

def PocLsbLt (i : Nat) : Nat :=
  if i < numLongTermSps pSps syn then (pSps.nLtRefPicPocLsbSps (ltIdx pSps syn i)).toNat
  else syn.pocLsbLt pSps.nLog2MaxPocLsb i

def UsedByCurrPicLt (i : Nat) : Bool :=
  if i < numLongTermSps pSps syn then pSps.bUsedByCurrPicLtSpsFlag (ltIdx pSps syn i)
  else syn.usedByCurrPicLtFlag i

def deltaPocMsbCycle (i : Nat) : Nat :=
  if syn.deltaPocMsbPresentFlag i then (syn.deltaPocMsbCycleLt i).toNat else 0

def DeltaPocMsbCycleLt : Nat → Nat
  | 0 => deltaPocMsbCycle syn 0
  | i + 1 =>
    if i + 1 = numLongTermSps pSps syn then deltaPocMsbCycle syn (i + 1)
    else deltaPocMsbCycle syn (i + 1) + DeltaPocMsbCycleLt i

/-- The picture order count of entry `i` in clause 8.3.2. -/
def pocLt (i : Nat) : Int :=
  if syn.deltaPocMsbPresentFlag i then
    PocLsbLt pSps syn i + PicOrderCntVal - DeltaPocMsbCycleLt pSps syn i * 2 ^ pSps.nLog2MaxPocLsb -
      PicOrderCntVal % 2 ^ pSps.nLog2MaxPocLsb
  else PocLsbLt pSps syn i

def numEntries (slice : SliceSegment) : Nat :=
  if HEVC_IS_IDR slice.eNaluType ∨ pSps.bLongtermRefPicsPresentFlag = false then 0
  else numLongTermSps pSps slice.long + slice.long.numLongTermPics.toNat

structure LongTermRight (slice : SliceSegment) (pHevcDec : HevcContex) : Prop where
  count : pHevcDec.LongTermRps.nNumOfRefs = numEntries pSps slice
  pocs : ∀ i < numEntries pSps slice, pHevcDec.LongTermRps.nPoc i =
    s32 (pocLt pSps slice.long pHevcDec.pic.nPoc i)
  used : ∀ i < numEntries pSps slice, pHevcDec.LongTermRps.bUsed i =
    UsedByCurrPicLt pSps slice.long i

/-- The counts of the slice header are small enough for its arrays, and a later slice has the low
bits of its picture. -/
structure SliceWithin (pHevcDec : HevcContex) (slice : SliceSegment) : Prop where
  entries : numEntries pSps slice ≤ 32
  low_bits : HEVC_IS_IDR slice.eNaluType = false → slice.bFirstSliceInPicFlag = false →
    (slice.slicePicOrderCntLsb pSps.nLog2MaxPocLsb : Int) =
      pHevcDec.pic.nPoc % 2 ^ pSps.nLog2MaxPocLsb

end Clause

section List

variable {coded : SpsSyntax} {pSps : HevcSPS}

theorem sps_list_loop (count : Nat) (pSps : HevcSPS) (within : count ≤ ltArraySize) :
    ∃ pSps', (List.range count).foldlM (ltSpsEntry coded) pSps = some pSps' ∧
      pSps'.nLog2MaxPocLsb = pSps.nLog2MaxPocLsb ∧
      pSps'.bLongtermRefPicsPresentFlag = pSps.bLongtermRefPicsPresentFlag ∧
      pSps'.nNumLongTermRefPicsSps = pSps.nNumLongTermRefPicsSps ∧
      ∀ i < count, pSps'.nLtRefPicPocLsbSps i =
          UInt16.ofNat (coded.ltRefPicPocLsbSps pSps.nLog2MaxPocLsb i) ∧
        pSps'.bUsedByCurrPicLtSpsFlag i = coded.usedByCurrPicLtSpsFlag i := by
  induction count with
  | zero =>
    apply Exists.intro pSps
    exact ⟨rfl, rfl, rfl, rfl, fun i none => absurd none (Nat.not_lt_zero i)⟩
  | succ count ih =>
    rcases ih (Nat.le_of_succ_le within) with ⟨sofar, run, bits, flag, number, entries⟩
    have inside : ¬ ltArraySize ≤ count := by omega
    rw [List.range_succ, List.foldlM_append, run, bind_eq_bind, bind_some]
    simp only [List.foldlM_cons, List.foldlM_nil, ltSpsEntry, if_neg inside,
      pure_def, bind_eq_bind, bind_some]
    refine ⟨_, rfl, bits, flag, number, ?_⟩
    intro i below
    by_cases last : i = count
    · rw [last]
      dsimp only
      rw [update_self, update_self, bits]
      exact ⟨rfl, rfl⟩
    · dsimp only
      rw [update_of_ne last, update_of_ne last]
      exact entries i (by omega)

theorem sps_list_outside (count : Nat) (pSps : HevcSPS) (outside : ltArraySize < count) :
    (List.range count).foldlM (ltSpsEntry coded) pSps = none := by
  induction count with
  | zero => exact absurd outside (Nat.not_lt_zero _)
  | succ count ih =>
    rw [List.range_succ, List.foldlM_append]
    by_cases before : ltArraySize < count
    · rw [ih before]
      rfl
    · cases (List.range count).foldlM (ltSpsEntry coded) pSps with
      | none => rfl
      | some sofar =>
        simp only [bind_eq_bind, bind_some, List.foldlM_cons, ltSpsEntry,
          if_pos (show ltArraySize ≤ count by omega), bind_none]

/-- The number of pictures listed, as its field of eight bits has it. -/
def listCount (coded : SpsSyntax) : Nat :=
  if coded.longTermRefPicsPresentFlag then coded.numLongTermRefPicsSps.toUInt8.toNat else 0

theorem decode_sps_list (coded : SpsSyntax) :
    (listCount coded ≤ ltArraySize → ∃ pSps, HevcDecodeNalSps coded = some pSps ∧
      pSps.nLog2MaxPocLsb = coded.nLog2MaxPocLsb ∧
      pSps.bLongtermRefPicsPresentFlag = coded.longTermRefPicsPresentFlag ∧
      pSps.nNumLongTermRefPicsSps.toNat = listCount coded ∧
      ∀ i < listCount coded, pSps.nLtRefPicPocLsbSps i =
          UInt16.ofNat (coded.ltRefPicPocLsbSps coded.nLog2MaxPocLsb i) ∧
        pSps.bUsedByCurrPicLtSpsFlag i = coded.usedByCurrPicLtSpsFlag i) ∧
      (ltArraySize < listCount coded → HevcDecodeNalSps coded = none) := by
  unfold listCount HevcDecodeNalSps
  by_cases flag : coded.longTermRefPicsPresentFlag = true
  · dsimp only
    rw [if_pos flag, if_pos flag]
    constructor
    · intro within
      rcases @sps_list_loop coded _
        { nLog2MaxPocLsb := coded.nLog2MaxPocLsb
          bLongtermRefPicsPresentFlag := coded.longTermRefPicsPresentFlag
          nNumLongTermRefPicsSps := coded.numLongTermRefPicsSps.toUInt8
          nLtRefPicPocLsbSps := fun _ => 0
          bUsedByCurrPicLtSpsFlag := fun _ => false } within with
        ⟨pSps, run, bits, present, number, entries⟩
      exact ⟨pSps, run, bits, present, congrArg UInt8.toNat number, entries⟩
    · intro outside
      exact sps_list_outside _ _ outside
  · dsimp only
    rw [if_neg flag, if_neg flag]
    constructor
    · intro _
      exact ⟨_, rfl, rfl, rfl, rfl, fun i none => absurd none (Nat.not_lt_zero i)⟩
    · intro outside
      exact absurd outside (Nat.not_lt_zero _)

end List

section Loop

theorem ceil_log2 {number : Nat} (several : 1 < number) (byte : number < 2 ^ 8) :
    hevcCeilLog2 number = Nat.clog 2 number := by
  have twice : ((((number : Int) - 1) * 2) % 2 ^ 32).toNat = (number - 1) * 2 := by omega
  have low := Nat.pow_pred_clog_lt_self Nat.one_lt_two several
  have high := Nat.le_pow_clog Nat.one_lt_two number
  have some_bits := Nat.clog_pos Nat.one_lt_two several
  have double : 2 ^ Nat.clog 2 number = 2 * 2 ^ (Nat.clog 2 number).pred := by
    rw [← Nat.pow_succ', Nat.succ_pred_eq_of_pos some_bits]
  unfold hevcCeilLog2
  rw [twice, Nat.log2_eq_log_two]
  apply Nat.log_eq_of_pow_le_of_lt_pow
  · omega
  · rw [Nat.pow_succ]
    omega

theorem s32_congr {first second : Int} (same : first ≡ second [ZMOD 2 ^ 32]) :
    s32 first = s32 second := by
  unfold Int.ModEq at same
  unfold s32
  omega

theorem s32_modeq (value : Int) : s32 value ≡ value [ZMOD 2 ^ 32] := by
  unfold Int.ModEq s32
  omega

/-- The wraps on the way to a long-term count leave one wrap of the whole. -/
theorem wrapped_poc (low count cycle turn bits : Int) :
    s32 (low + s32 (s32 (count - s32 (s32 cycle * turn)) - bits)) =
      s32 (low + count - cycle * turn - bits) := by
  apply s32_congr
  have product : s32 (s32 cycle * turn) ≡ cycle * turn [ZMOD 2 ^ 32] :=
    (s32_modeq _).trans ((s32_modeq cycle).mul_right turn)
  have whole : low + s32 (s32 (count - s32 (s32 cycle * turn)) - bits) ≡
      low + (count - cycle * turn - bits) [ZMOD 2 ^ 32] := by
    apply Int.ModEq.add_left
    apply (s32_modeq _).trans
    apply Int.ModEq.sub_right
    apply (s32_modeq _).trans
    exact product.sub_left count
  have regroup : low + (count - cycle * turn - bits) = low + count - cycle * turn - bits := by omega
  rw [← regroup]
  exact whole

variable {pSps : HevcSPS} {syn : LongTermSyntax}

theorem cycle_sum (i : Nat) : DeltaPocMsbCycleLt pSps syn i =
      if i = 0 ∨ i = numLongTermSps pSps syn then deltaPocMsbCycle syn i
      else deltaPocMsbCycle syn i + DeltaPocMsbCycleLt pSps syn (i - 1) := by
  cases i with
  | zero =>
    rw [if_pos (Or.inl rfl)]
    rfl
  | succ i =>
    conv_lhs => unfold DeltaPocMsbCycleLt
    simp only [Nat.succ_ne_zero, false_or, Nat.add_sub_cancel]

theorem poc_lsb_small (few : pSps.nLog2MaxPocLsb ≤ 16) (i : Nat) :
    PocLsbLt pSps syn i < 2 ^ 16 := by
  unfold PocLsbLt
  split_ifs
  · exact UInt16.toNat_lt _
  · exact (syn.lsb_of_bits _ i).trans_le (Nat.pow_le_pow_right (by decide) few)

theorem lt_idx_inside (listed : pSps.nNumLongTermRefPicsSps.toNat ≤ ltArraySize) (i : Nat) :
    ltIdx pSps syn i < ltArraySize := by
  unfold ltIdx
  split_ifs with several
  · apply (syn.idx_of_bits _ i).trans_le
    have bits : Nat.clog 2 pSps.nNumLongTermRefPicsSps.toNat ≤ 5 := Nat.clog_le_of_le_pow listed
    exact Nat.pow_le_pow_right (by decide) bits
  · decide

theorem read_idx (i : Nat) :
    (if pSps.nNumLongTermRefPicsSps > 1 then
      syn.ltIdxSps (hevcCeilLog2 pSps.nNumLongTermRefPicsSps.toNat) i else 0) =
      ltIdx pSps syn i := by
  have same : pSps.nNumLongTermRefPicsSps > 1 ↔ 1 < pSps.nNumLongTermRefPicsSps.toNat :=
    UInt8.lt_iff_toNat_lt
  unfold ltIdx
  by_cases several : 1 < pSps.nNumLongTermRefPicsSps.toNat
  · rw [if_pos (same.mpr several), if_pos several, ceil_log2 several (UInt8.toNat_lt _)]
  · rw [if_neg fun more => several (same.mp more), if_neg several]

/-- What the loop has found before entry `i`. -/
structure LoopAt (pSps : HevcSPS) (syn : LongTermSyntax) (PicOrderCntVal : Int) (count i : Nat)
    (s : LtLoop) : Prop where
  refs : s.pLt.nNumOfRefs = count
  sum : s.nDeltaPocMsbCycleLt = s.nPrvDeltaMsb
  cycle : s.nPrvDeltaMsb = if i = 0 then 0 else s32 (DeltaPocMsbCycleLt pSps syn (i - 1))
  pocs : ∀ j < i, s.pLt.nPoc j = s32 (pocLt pSps syn PicOrderCntVal j)
  used : ∀ j < i, s.pLt.bUsed j = UsedByCurrPicLt pSps syn j

/-- The loop of a slice with few entries whose low bits are those of its picture. -/
def sliceParse (pSps : HevcSPS) (syn : LongTermSyntax) (PicOrderCntVal : Int) : LtParse :=
  { pSps := pSps
    syn := syn
    nPoc := PicOrderCntVal
    nPicOrderCntLsb := PicOrderCntVal % 2 ^ pSps.nLog2MaxPocLsb
    nNumOfLtSps := numLongTermSps pSps syn
    nNumOfLtSh := syn.numLongTermPics.toNat }

variable {PicOrderCntVal : Int} {s : LtLoop}

/-- The sum that the loop forms at an entry, with the restart at the first one of the slice
header. -/
theorem cycle_step {i : Nat}
    (within : numLongTermSps pSps syn + syn.numLongTermPics.toNat ≤ ltArraySize)
    (sofar : LoopAt pSps syn PicOrderCntVal
      (numLongTermSps pSps syn + syn.numLongTermPics.toNat) i s) :
    (if syn.deltaPocMsbPresentFlag i then
        if i ≠ 0 ∧ (i : Int) ≠ numLongTermSps pSps syn then
          s32 (s32 (syn.deltaPocMsbCycleLt i).toNat + s.nPrvDeltaMsb)
        else s32 (syn.deltaPocMsbCycleLt i).toNat
      else if (i : Int) = s32 (s.pLt.nNumOfRefs - syn.numLongTermPics.toNat) then 0
      else s.nDeltaPocMsbCycleLt) = s32 (DeltaPocMsbCycleLt pSps syn i) := by
  have border : s32 (s.pLt.nNumOfRefs - syn.numLongTermPics.toNat) = numLongTermSps pSps syn := by
    rw [sofar.refs]
    unfold ltArraySize at within
    unfold s32
    omega
  rw [border, sofar.sum, sofar.cycle, cycle_sum i]
  unfold deltaPocMsbCycle
  by_cases first : i = 0
  · rw [if_pos (Or.inl first), if_pos first]
    by_cases present : syn.deltaPocMsbPresentFlag i = true
    · have alone : ¬ (i ≠ 0 ∧ (i : Int) ≠ numLongTermSps pSps syn) := fun both => both.1 first
      rw [if_pos present, if_pos present, if_neg alone]
    · rw [if_neg present, if_neg present, ite_self]
      rfl
  · rw [if_neg first]
    by_cases restart : i = numLongTermSps pSps syn
    · have same : (i : Int) = numLongTermSps pSps syn := congrArg Nat.cast restart
      have alone : ¬ (i ≠ 0 ∧ (i : Int) ≠ numLongTermSps pSps syn) := fun both => both.2 same
      rw [if_pos (Or.inr restart), if_neg alone, if_pos same]
      split_ifs <;> rfl
    · have other : (i : Int) ≠ numLongTermSps pSps syn := fun same => restart (Int.ofNat.inj same)
      have inner : i ≠ 0 ∧ (i : Int) ≠ numLongTermSps pSps syn := ⟨first, other⟩
      have neither : ¬ (i = 0 ∨ i = numLongTermSps pSps syn) :=
        fun either => either.elim first restart
      rw [if_neg neither, if_pos inner, if_neg other]
      by_cases present : syn.deltaPocMsbPresentFlag i = true
      · rw [if_pos present, if_pos present, Nat.cast_add]
        exact s32_congr ((s32_modeq _).add (s32_modeq _))
      · rw [if_neg present, if_neg present, Nat.zero_add]

theorem lt_entry_step {i : Nat} (few : pSps.nLog2MaxPocLsb ≤ 16)
    (listed : pSps.nNumLongTermRefPicsSps.toNat ≤ ltArraySize)
    (within : numLongTermSps pSps syn + syn.numLongTermPics.toNat ≤ ltArraySize)
    (below : i < numLongTermSps pSps syn + syn.numLongTermPics.toNat)
    (sofar : LoopAt pSps syn PicOrderCntVal
      (numLongTermSps pSps syn + syn.numLongTermPics.toNat) i s) :
    ∃ s', ltEntry (sliceParse pSps syn PicOrderCntVal) s i = some s' ∧
      LoopAt pSps syn PicOrderCntVal
        (numLongTermSps pSps syn + syn.numLongTermPics.toNat) (i + 1) s' := by
  have inside := @lt_idx_inside pSps syn listed i
  have small := @poc_lsb_small pSps syn few i
  have next := cycle_step within sofar
  have low : (if (i : Int) < numLongTermSps pSps syn then
        ((pSps.nLtRefPicPocLsbSps (ltIdx pSps syn i)).toNat : Int)
      else syn.pocLsbLt pSps.nLog2MaxPocLsb i) = PocLsbLt pSps syn i := by
    unfold PocLsbLt
    split_ifs <;> first | rfl | omega
  have mark : (if (i : Int) < numLongTermSps pSps syn then
        pSps.bUsedByCurrPicLtSpsFlag (ltIdx pSps syn i)
      else syn.usedByCurrPicLtFlag i) = UsedByCurrPicLt pSps syn i := by
    unfold UsedByCurrPicLt
    split_ifs <;> first | rfl | omega
  have count : (if syn.deltaPocMsbPresentFlag i then
        s32 (PocLsbLt pSps syn i + s32 (s32 (PicOrderCntVal -
          s32 (s32 (DeltaPocMsbCycleLt pSps syn i) * 2 ^ pSps.nLog2MaxPocLsb)) -
            PicOrderCntVal % 2 ^ pSps.nLog2MaxPocLsb))
      else (PocLsbLt pSps syn i : Int)) = s32 (pocLt pSps syn PicOrderCntVal i) := by
    unfold pocLt
    split_ifs
    · exact wrapped_poc ..
    · unfold s32
      omega
  unfold ltEntry sliceParse
  dsimp only
  rw [read_idx, if_neg (by omega), low, mark, next, count]
  refine ⟨_, rfl, ?_⟩
  constructor
  · exact sofar.refs
  · rfl
  · rw [if_neg (Nat.succ_ne_zero i), Nat.add_sub_cancel]
  · intro j before
    by_cases last : j = i
    · rw [last]
      exact update_self ..
    · exact (update_of_ne last ..).trans (sofar.pocs j (by omega))
  · intro j before
    by_cases last : j = i
    · rw [last]
      exact update_self ..
    · exact (update_of_ne last ..).trans (sofar.used j (by omega))

theorem lt_loop {PicOrderCntVal : Int} {start : LtLoop} (few : pSps.nLog2MaxPocLsb ≤ 16)
    (listed : pSps.nNumLongTermRefPicsSps.toNat ≤ ltArraySize)
    (within : numLongTermSps pSps syn + syn.numLongTermPics.toNat ≤ ltArraySize)
    (begins : LoopAt pSps syn PicOrderCntVal
      (numLongTermSps pSps syn + syn.numLongTermPics.toNat) 0 start)
    (i : Nat) (below : i ≤ numLongTermSps pSps syn + syn.numLongTermPics.toNat) :
    ∃ s, (List.range i).foldlM (ltEntry (sliceParse pSps syn PicOrderCntVal)) start = some s ∧
      LoopAt pSps syn PicOrderCntVal
        (numLongTermSps pSps syn + syn.numLongTermPics.toNat) i s := by
  induction i with
  | zero => exact ⟨start, rfl, begins⟩
  | succ i ih =>
    rcases ih (Nat.le_of_succ_le below) with ⟨s, run, sofar⟩
    rcases lt_entry_step few listed within below sofar with ⟨s', step, later⟩
    refine ⟨s', ?_, later⟩
    rw [List.range_succ, List.foldlM_append, run]
    simp only [bind_eq_bind, bind_some, List.foldlM_cons, List.foldlM_nil, step, pure_def]

end Loop

variable {pSps : HevcSPS} {pHevcDec : HevcContex} {slice : SliceSegment}

theorem compute_poc_low_bits {pic : H265PicOrder.HevcContex} (few : pic.nLog2MaxPocLsb ≤ 16)
    {nPicOrderCntLsb : Nat} (bits : nPicOrderCntLsb < 2 ^ pic.nLog2MaxPocLsb) :
    HevcComputePoc pic nPicOrderCntLsb % 2 ^ pic.nLog2MaxPocLsb = nPicOrderCntLsb := by
  have divides : (2 : Int) ^ pic.nLog2MaxPocLsb ∣ 2 ^ 32 := pow_dvd_pow 2 (few.trans (by decide))
  have wrap : ∀ value : Int, s32 value ≡ value [ZMOD 2 ^ pic.nLog2MaxPocLsb] :=
    fun value => (s32_modeq value).of_dvd divides
  have previous : pic.nPocTid0 - pic.nPocTid0.tmod (2 ^ pic.nLog2MaxPocLsb) ≡ 0
      [ZMOD 2 ^ pic.nLog2MaxPocLsb] := by
    rw [Int.modEq_zero_iff_dvd]
    exact Int.dvd_self_sub_tmod
  have turn : (2 : Int) ^ pic.nLog2MaxPocLsb ≡ 0 [ZMOD 2 ^ pic.nLog2MaxPocLsb] :=
    Int.modEq_zero_iff_dvd.mpr (Int.dvd_refl _)
  have small : (nPicOrderCntLsb : Int) % 2 ^ pic.nLog2MaxPocLsb = nPicOrderCntLsb :=
    Int.emod_eq_of_lt (Int.natCast_nonneg _) (by exact_mod_cast bits)
  unfold HevcComputePoc
  dsimp only
  conv_rhs => rw [← small]
  apply (wrap _).trans
  conv_rhs => rw [← Int.zero_add (nPicOrderCntLsb : Int)]
  apply Int.ModEq.add_right
  split_ifs
  · rfl
  · exact (wrap _).trans (previous.add turn)
  · exact (wrap _).trans (previous.sub turn)
  · exact previous

theorem slice_low_bits (few : pSps.nLog2MaxPocLsb ≤ 16)
    (other : HEVC_IS_IDR slice.eNaluType = false) (within : SliceWithin pSps pHevcDec slice) :
    (slice.slicePicOrderCntLsb pSps.nLog2MaxPocLsb : Int) =
      (H265PicOrder.HevcDecodeSliceHeader pHevcDec.pic (slice.header pSps)).nPoc %
        2 ^ pSps.nLog2MaxPocLsb := by
  have computed := @compute_poc_low_bits
    { pHevcDec.pic with
      eNaluType := slice.eNaluType
      nTemporalId := slice.nTemporalId
      nLog2MaxPocLsb := pSps.nLog2MaxPocLsb } few _ (slice.lsb_of_bits pSps.nLog2MaxPocLsb)
  unfold H265PicOrder.HevcDecodeSliceHeader SliceSegment.header
  dsimp only at computed ⊢
  simp only [other, Bool.false_eq_true, and_false, if_false]
  cases first : slice.bFirstSliceInPicFlag with
  | true =>
    simp only [not_true_eq_false, false_and, if_false]
    exact computed.symm
  | false =>
    simp only [Bool.false_eq_true, not_false_eq_true, true_and]
    split_ifs
    · exact within.low_bits other first
    · exact computed.symm

/-- The parse of a slice whose sequence parameter set allows long-term pictures. -/
theorem parse_present {PicOrderCntVal : Int} {syn : LongTermSyntax} (pLt : HevcLongTermRPS)
    (few : pSps.nLog2MaxPocLsb ≤ 16) (listed : pSps.nNumLongTermRefPicsSps.toNat ≤ ltArraySize)
    (present : pSps.bLongtermRefPicsPresentFlag = true)
    (within : numLongTermSps pSps syn + syn.numLongTermPics.toNat ≤ ltArraySize) :
    ∃ pLt', HevcParseLongTermRefSet pSps syn PicOrderCntVal
        (PicOrderCntVal % 2 ^ pSps.nLog2MaxPocLsb) pLt = some (0, pLt') ∧
      pLt'.nNumOfRefs = (numLongTermSps pSps syn + syn.numLongTermPics.toNat : Nat) ∧
      ∀ i < numLongTermSps pSps syn + syn.numLongTermPics.toNat,
        pLt'.nPoc i = s32 (pocLt pSps syn PicOrderCntVal i) ∧
          pLt'.bUsed i = UsedByCurrPicLt pSps syn i := by
  unfold ltArraySize at within
  have listed_iff : pSps.nNumLongTermRefPicsSps > 0 ↔ 0 < pSps.nNumLongTermRefPicsSps.toNat :=
    UInt8.lt_iff_toNat_lt
  have sps : (if pSps.nNumLongTermRefPicsSps > 0 then s32 syn.numLongTermSps.toNat else 0) =
      numLongTermSps pSps syn := by
    unfold numLongTermSps at within ⊢
    by_cases some_listed : 0 < pSps.nNumLongTermRefPicsSps.toNat
    · rw [if_pos some_listed] at within
      rw [if_pos (listed_iff.mpr some_listed), if_pos some_listed]
      unfold s32
      omega
    · rw [if_neg fun more => some_listed (listed_iff.mp more), if_neg some_listed]
      rfl
  have sh : s32 syn.numLongTermPics.toNat = syn.numLongTermPics.toNat := by
    unfold s32
    omega
  have sum : s32 ((numLongTermSps pSps syn : Int) + syn.numLongTermPics.toNat) =
      (numLongTermSps pSps syn + syn.numLongTermPics.toNat : Nat) := by
    unfold s32
    omega
  have few_entries : ¬ ((numLongTermSps pSps syn + syn.numLongTermPics.toNat : Nat) : Int) > 32 := by
    omega
  rcases @lt_loop pSps syn PicOrderCntVal
    ⟨{ pLt with nNumOfRefs := (numLongTermSps pSps syn + syn.numLongTermPics.toNat : Nat) }, 0, 0⟩
    few listed within
    ⟨rfl, rfl, rfl, fun j none => absurd none (Nat.not_lt_zero j),
      fun j none => absurd none (Nat.not_lt_zero j)⟩ _ (Nat.le_refl _) with ⟨s, run, after⟩
  refine ⟨s.pLt, ?_, after.refs, fun i below => ⟨after.pocs i below, after.used i below⟩⟩
  unfold HevcParseLongTermRefSet
  simp only [present, Bool.not_true, Bool.false_eq_true, if_false]
  rw [sps, sh, sum, if_neg few_entries, Int.toNat_natCast]
  unfold sliceParse at run
  rw [run]
  rfl

theorem slice_right_iff (few : pSps.nLog2MaxPocLsb ≤ 16)
    (listed : pSps.nNumLongTermRefPicsSps.toNat ≤ ltArraySize)
    (within : SliceWithin pSps pHevcDec slice) :
    (∃ after, HevcDecodeSliceHeader pSps pHevcDec slice = some after ∧
      LongTermRight pSps slice after) ↔
      HEVC_IS_IDR slice.eNaluType = true ∨ pSps.bLongtermRefPicsPresentFlag = true ∨
        pHevcDec.LongTermRps.nNumOfRefs = 0 := by
  have entries := within.entries
  unfold HevcDecodeSliceHeader
  cases idr : HEVC_IS_IDR slice.eNaluType with
  | true =>
    have none : numEntries pSps slice = 0 := if_pos (Or.inl idr)
    apply iff_of_true _ (Or.inl rfl)
    refine ⟨_, rfl, ?_, ?_, ?_⟩
    · rw [none]
      rfl
    all_goals
      rw [none]
      exact fun i below => absurd below (Nat.not_lt_zero i)
  | false =>
    have low := slice_low_bits few idr within
    simp only [Bool.false_eq_true, if_false, false_or]
    cases present : pSps.bLongtermRefPicsPresentFlag with
    | true =>
      have whole : numEntries pSps slice =
          numLongTermSps pSps slice.long + slice.long.numLongTermPics.toNat :=
        if_neg (by rw [idr, present]; decide)
      rw [whole] at entries
      rcases @parse_present pSps
        (H265PicOrder.HevcDecodeSliceHeader pHevcDec.pic (slice.header pSps)).nPoc slice.long
        pHevcDec.LongTermRps few listed present entries with ⟨pLt, run, count, stored⟩
      apply iff_of_true _ (Or.inl rfl)
      refine ⟨⟨H265PicOrder.HevcDecodeSliceHeader pHevcDec.pic (slice.header pSps), pLt⟩, ?_, ?_⟩
      · have lsb : (slice.header pSps).nPicOrderCntLsb =
            (H265PicOrder.HevcDecodeSliceHeader pHevcDec.pic (slice.header pSps)).nPoc %
              2 ^ pSps.nLog2MaxPocLsb := low
        rw [lsb, run]
        rfl
      · rw [← whole] at count stored
        exact ⟨count, fun i below => (stored i below).1, fun i below => (stored i below).2⟩
    | false =>
      have none : numEntries pSps slice = 0 := if_pos (Or.inr present)
      unfold HevcParseLongTermRefSet
      simp only [present, Bool.not_false, if_true, map_some, Option.some.injEq,
        exists_eq_left', Bool.false_eq_true, false_or]
      constructor
      · intro right
        have count := right.count
        rw [none] at count
        exact count
      · intro empty
        constructor
        · rw [none]
          exact empty
        all_goals
          rw [none]
          exact fun i below => absurd below (Nat.not_lt_zero i)

/-- A slice gets the long-term set of the standard exactly where the list fits its array and the
slice codes its set, is one of an IDR picture, or finds an empty set in the header. -/
theorem long_term_set_right_iff (coded : SpsSyntax) (pHevcDec : HevcContex) (slice : SliceSegment)
    (within : ∀ pSps, HevcDecodeNalSps coded = some pSps → SliceWithin pSps pHevcDec slice) :
    (∃ pSps after, HevcDecodeNalSps coded = some pSps ∧
      HevcDecodeSliceHeader pSps pHevcDec slice = some after ∧ LongTermRight pSps slice after) ↔
      listCount coded ≤ ltArraySize ∧
        (HEVC_IS_IDR slice.eNaluType = true ∨ coded.longTermRefPicsPresentFlag = true ∨
          pHevcDec.LongTermRps.nNumOfRefs = 0) := by
  rcases decode_sps_list coded with ⟨accepts, refuses⟩
  by_cases fits : listCount coded ≤ ltArraySize
  · rcases accepts fits with ⟨pSps, decoded, bits, flag, number, entries⟩
    have slice_iff := slice_right_iff (bits ▸ coded.few_bits) (number ▸ fits) (within pSps decoded)
    rw [flag] at slice_iff
    rw [and_iff_right fits, ← slice_iff]
    constructor
    · rintro ⟨other, after, same, right⟩
      rw [decoded] at same
      cases same
      exact ⟨after, right⟩
    · rintro ⟨after, right⟩
      exact ⟨pSps, after, decoded, right⟩
  · have refused := refuses (Nat.lt_of_not_le fits)
    apply iff_of_false
    · rintro ⟨pSps, after, decoded, _⟩
      rw [refused] at decoded
      cases decoded
    · exact fun both => fits both.1

def listedSps : SpsSyntax where
  nLog2MaxPocLsb := 4
  longTermRefPicsPresentFlag := true
  numLongTermRefPicsSps := 1
  ltRefPicPocLsbSps _ _ := 5
  usedByCurrPicLtSpsFlag _ := true
  few_bits := by decide

def plainSps : SpsSyntax := { listedSps with longTermRefPicsPresentFlag := false }

def listedSlice : SliceSegment where
  eNaluType := .HEVC_NAL_CRA_NUT
  nTemporalId := 0
  bFirstSliceInPicFlag := true
  slicePicOrderCntLsb nBits := 7 % 2 ^ nBits
  long :=
    { numLongTermSps := 1
      numLongTermPics := 0
      ltIdxSps := fun _ _ => 0
      pocLsbLt := fun _ _ => 0
      usedByCurrPicLtFlag := fun _ => true
      deltaPocMsbPresentFlag := fun _ => true
      deltaPocMsbCycleLt := fun _ => 1
      idx_of_bits := fun nBits _ => Nat.two_pow_pos nBits
      lsb_of_bits := fun nBits _ => Nat.two_pow_pos nBits }
  lsb_of_bits nBits := Nat.mod_lt _ (Nat.two_pow_pos nBits)

def newContext : HevcContex where
  pic :=
    { eNaluType := .HEVC_NAL_TRAIL_R
      nTemporalId := 0
      nLog2MaxPocLsb := 4
      nPoc := 0
      nPocTid0 := 0 }
  LongTermRps := ⟨fun _ => 0, fun _ => false, 0⟩

theorem listed_slice_within (pSps : HevcSPS) : SliceWithin pSps newContext listedSlice := by
  constructor
  · have one : numLongTermSps pSps listedSlice.long ≤ 1 := by
      unfold numLongTermSps
      split_ifs <;> decide
    have none : listedSlice.long.numLongTermPics.toNat = 0 := rfl
    unfold numEntries
    split_ifs <;> omega
  · intro _ later
    cases later

theorem listed_slice_right : ∃ pSps after, HevcDecodeNalSps listedSps = some pSps ∧
      HevcDecodeSliceHeader pSps newContext listedSlice = some after ∧
      LongTermRight pSps listedSlice after :=
  (long_term_set_right_iff listedSps newContext listedSlice
    fun pSps _ => listed_slice_within pSps).mpr ⟨by decide, Or.inr (Or.inl rfl)⟩

/-- The set of a slice with the listed picture stays for a slice whose sequence parameter set has
no long-term pictures. -/
theorem listed_set_stays : ∃ before, ((HevcDecodeNalSps listedSps).bind fun pSps =>
      HevcDecodeSliceHeader pSps newContext listedSlice) = some before ∧
    ¬ ∃ pSps after, HevcDecodeNalSps plainSps = some pSps ∧
      HevcDecodeSliceHeader pSps before listedSlice = some after ∧
      LongTermRight pSps listedSlice after := by
  have one : ((HevcDecodeNalSps listedSps).bind fun pSps =>
      HevcDecodeSliceHeader pSps newContext listedSlice).map
        (fun before => before.LongTermRps.nNumOfRefs) = some 1 := by decide
  rcases map_eq_some_iff.mp one with ⟨before, run, kept⟩
  refine ⟨before, run, ?_⟩
  rintro ⟨pSps, after, decoded, step, right⟩
  cases decoded
  have count := right.count
  cases step
  rw [show numEntries _ listedSlice = 0 from rfl] at count
  rw [kept] at count
  cases count

end CedarC.H265LongTermRps
