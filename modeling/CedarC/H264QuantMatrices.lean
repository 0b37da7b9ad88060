import CedarC.H264ActiveSps

/-!
# The quantisation matrices of a slice

The words the engine gets for a slice beside the lists the clauses define for the parameter
sets it names. A PPS keeps the matrices it was read with, so it has to be read again in
thought when its SPS is replaced; where that changes nothing, the matrices in use for a PPS
and its SPS are those of the clauses.
-/

namespace CedarC.H264

open Option

def hasScalingSyntax (profile_idc : Nat) : Bool :=
  profile_idc ∈ [100, 110, 122, 244, 44, 83, 86, 118, 128, 138, 139, 134, 135]

def SpsSyntax.carries (read : SpsSyntax) : Option ScalingMatrixSyntax :=
  if hasScalingSyntax read.profile_idc then read.scaling_matrix else none

def PpsSyntax.carries (read : PpsSyntax) : Option ScalingMatrixSyntax :=
  read.extension.bind PpsExtension.scaling_matrix

def PpsSyntax.transform8x8 (read : PpsSyntax) : Bool :=
  (read.extension.map PpsExtension.transform_8x8_mode_flag).getD false

def matricesOf (lists : ScalingLists) : ScalingMatrices where
  nScalingMatrix4 i := factorsOf 16 4 (lists (i.castLE small_lists))
  nScalingMatrix8 i := factorsOf 64 8 (lists (![6, 7] i))

def flatWords : QuantWords := convertScalingMatrices (matricesOf flatLists)

def QuantRegisters.words : QuantRegisters → QuantWords
  | .flat => flatWords
  | .written words => words

def clauseWords (sps : SpsSyntax) (pps : PpsSyntax) : QuantWords :=
  convertScalingMatrices (matricesOf (picLists sps.carries pps.carries))

structure QuantRight (registers : QuantRegisters) (sps : SpsSyntax) (pps : PpsSyntax) : Prop where
  words4 : registers.words.nScalingMatrix4 = (clauseWords sps pps).nScalingMatrix4
  words8 : pps.transform8x8 = true →
    registers.words.nScalingMatrix8 = (clauseWords sps pps).nScalingMatrix8

/-- A step of the decoder that gives the engine the matrices of the slice. -/
def MatricesRight (nDecStreamIndex : Nat) (hCtx : Context) (nalu : Nalu) : Prop :=
  ∀ registers, (processNaluUnit nDecStreamIndex hCtx nalu).registers = some registers →
    ∃ sps pps, (processNaluUnit nDecStreamIndex hCtx nalu).hCtx.curSps = some sps ∧
      (processNaluUnit nDecStreamIndex hCtx nalu).hCtx.curPps = some pps ∧
      QuantRight registers sps.read pps.read

/-- The profiles `H264ConfigureSliceRegister` writes matrices for. -/
def writesMatrices (profile_idc : Nat) : Bool :=
  profile_idc = 100 || profile_idc = 118 || profile_idc = 128

structure Resolves (pps : PpsInfo) (sps : SpsInfo) : Prop where
  present : (pps.read.info sps).bScalingMatrixPresent = pps.bScalingMatrixPresent
  matrices4 : pps.bScalingMatrixPresent = true →
    (pps.read.info sps).matrices.nScalingMatrix4 = pps.matrices.nScalingMatrix4
  matrices8 : pps.bScalingMatrixPresent = true → pps.read.transform8x8 = true →
    (pps.read.info sps).matrices.nScalingMatrix8 = pps.matrices.nScalingMatrix8

section Sets

variable {sps : SpsSyntax} {pps : PpsSyntax}

theorem writes_high {profile_idc : Nat} (writes : writesMatrices profile_idc = true) :
    profile_idc ≥ 100 ∧ hasScalingSyntax profile_idc = true := by
  have which : (profile_idc = 100 ∨ profile_idc = 118) ∨ profile_idc = 128 := by
    simpa [writesMatrices] using writes
  rcases which with (rfl | rfl) | rfl <;> decide

theorem writes_judge {info : SpsInfo} (writes : writesMatrices info.nProfileIdc = true) :
    judgeMoreRbspData info = true := by
  have which : (info.nProfileIdc = 100 ∨ info.nProfileIdc = 118) ∨ info.nProfileIdc = 128 := by
    simpa [writesMatrices] using writes
  rcases which with (same | same) | same <;> simp [judgeMoreRbspData, same]

theorem sps_falls_back : FallsBack true false zeroMatrices fallBackRuleA where
  onDefault _ := rfl
  onSps never := nomatch never

theorem sps_present (writes : writesMatrices sps.profile_idc = true) :
    sps.info.bScalingMatrixPresent = sps.carries.isSome := by
  obtain ⟨high, hasSyntax⟩ := writes_high writes
  change sps.matrices.1 = _
  rw [SpsSyntax.matrices, if_pos high, SpsSyntax.carries, if_pos hasSyntax]
  cases sps.scaling_matrix <;> rfl

variable {sent : ScalingMatrixSyntax} (writes : writesMatrices sps.profile_idc = true)

include writes

theorem sps_holds (carries : sps.carries = some sent) :
    Holds4 sps.info.matrices (listsOf sent fallBackRuleA) ∧
      Holds8 sps.info.matrices (listsOf sent fallBackRuleA) := by
  obtain ⟨high, hasSyntax⟩ := writes_high writes
  have read : sps.scaling_matrix = some sent := by
    rw [SpsSyntax.carries, if_pos hasSyntax] at carries
    exact carries
  have kept : sps.info.matrices =
      (decodeScalingMatrices (some sent) true false false zeroMatrices zeroMatrices).2 := by
    change sps.matrices.2 = _
    rw [SpsSyntax.matrices, if_pos high, read]
  rw [kept]
  exact ⟨decode_matrices4 sps_falls_back, decode_matrices8 sps_falls_back rfl⟩

theorem pps_extension : pps.extensionRead sps.info = pps.extension := by
  rw [PpsSyntax.extensionRead, @writes_judge sps.info writes]
  rfl

theorem pps_present : (pps.info sps.info).bScalingMatrixPresent = pps.carries.isSome := by
  rw [PpsSyntax.info, pps_extension writes, PpsSyntax.carries]
  cases pps.extension with
  | none => rfl
  | some extension =>
    rw [bind_some]
    dsimp only
    cases extension.scaling_matrix <;> rfl

theorem pps_falls_back : FallsBack false sps.info.bScalingMatrixPresent sps.info.matrices
      (if sps.carries.isNone then fallBackRuleA else fallBackRuleB (seqLists sps.carries)) := by
  have present := sps_present writes
  cases carries : sps.carries with
  | none =>
    rw [carries] at present
    rw [present]
    exact ⟨fun _ => rfl, (fun never => nomatch never)⟩
  | some sent =>
    rw [carries] at present
    rw [present]
    refine ⟨(fun never => nomatch never), fun _ => ⟨listsOf sent fallBackRuleA, rfl, ?_⟩⟩
    exact sps_holds writes carries

theorem pps_holds (carries : pps.carries = some sent) :
    Holds4 (pps.info sps.info).matrices (picLists sps.carries (some sent)) ∧
      (pps.transform8x8 = true →
        Holds8 (pps.info sps.info).matrices (picLists sps.carries (some sent))) := by
  have falls := pps_falls_back writes
  rw [PpsSyntax.info, pps_extension writes]
  unfold PpsSyntax.carries at carries
  unfold PpsSyntax.transform8x8
  cases extended : pps.extension with
  | none =>
    rw [extended] at carries
    cases carries
  | some extension =>
    rw [extended, bind_some] at carries
    dsimp only
    rw [carries]
    refine ⟨decode_matrices4 falls, ?_⟩
    intro transform
    have transform : extension.transform_8x8_mode_flag = true := transform
    exact decode_matrices8 falls (by simp [transform])

end Sets

variable {sps : SpsSyntax} {pps : PpsInfo}
  {matrices first second : ScalingMatrices} {lists : ScalingLists}

theorem holds4_eq (holds : Holds4 matrices lists) :
    matrices.nScalingMatrix4 = (matricesOf lists).nScalingMatrix4 := funext holds

theorem holds8_eq (holds : Holds8 matrices lists) :
    matrices.nScalingMatrix8 = (matricesOf lists).nScalingMatrix8 := funext holds

theorem convert4 (same : first.nScalingMatrix4 = second.nScalingMatrix4) :
    (convertScalingMatrices first).nScalingMatrix4 =
      (convertScalingMatrices second).nScalingMatrix4 := by
  unfold convertScalingMatrices
  rw [same]

theorem convert8 (same : first.nScalingMatrix8 = second.nScalingMatrix8) :
    (convertScalingMatrices first).nScalingMatrix8 =
      (convertScalingMatrices second).nScalingMatrix8 := by
  unfold convertScalingMatrices
  rw [same]

theorem words_in_use_right (writes : writesMatrices sps.profile_idc = true)
    (resolves : Resolves pps sps.info) (inUse : matricesInUse pps sps.info = some matrices) :
    QuantRight (.written (convertScalingMatrices matrices)) sps pps.read := by
  have present := resolves.present
  rw [pps_present writes] at present
  unfold matricesInUse at inUse
  cases own : pps.bScalingMatrixPresent with
  | true =>
    rw [own, if_pos rfl] at inUse
    obtain rfl := Option.some.inj inUse
    rw [own] at present
    obtain ⟨sent, carries⟩ := isSome_iff_exists.mp present
    obtain ⟨four, eight⟩ := pps_holds writes carries
    constructor
    · apply convert4
      rw [← resolves.matrices4 own, holds4_eq four, carries]
    · intro transform
      apply convert8
      rw [← resolves.matrices8 own transform, holds8_eq (eight transform), carries]
  | false =>
    rw [own, if_neg Bool.false_ne_true] at inUse
    rw [own, isSome_eq_false_iff, isNone_iff_eq_none] at present
    split at inUse
    · rename_i seq
      obtain rfl := Option.some.inj inUse
      rw [sps_present writes] at seq
      obtain ⟨sent, carries⟩ := isSome_iff_exists.mp seq
      obtain ⟨four, eight⟩ := sps_holds writes carries
      constructor
      · apply convert4
        rw [holds4_eq four, present, carries]
        rfl
      · intro _
        apply convert8
        rw [holds8_eq eight, present, carries]
        rfl
    · cases inUse

theorem flat_right {pps : PpsSyntax} (seq : sps.carries = none) (pic : pps.carries = none) :
    QuantRight .flat sps pps := by
  constructor
  · change flatWords.nScalingMatrix4 = _
    rw [clauseWords, seq, pic]
    rfl
  · intro _
    change flatWords.nScalingMatrix8 = _
    rw [clauseWords, seq, pic]
    rfl

end CedarC.H264
