import CedarC.FixedWidth
import CedarC.TableWrites
import Mathlib.Data.List.GetD
import Mathlib.Data.List.Nodup
import Mathlib.Tactic.IntervalCases

/-!
# Scaling lists of the H265 parser

`HevcScalingListDefaultData` and `HevcParseScalingListData` of `h265_parser.c`. The bit reader is
represented by the values that it returns for each matrix. `none` stands for an access outside an
array; a matrix is read and written within its own size.
-/

namespace CedarC.H265ScalingList

open FixedWidth TableWrites List

def gSigLastScan_0_1 : List Nat := [0, 4, 1, 8, 5, 2, 12, 9, 6, 3, 13, 10, 7, 14, 11, 15]

def gSigLastScanCG32x32 : List Nat :=
  [0, 8, 1, 16, 9, 2, 24, 17, 10, 3, 32, 25, 18, 11, 4, 40, 33, 26, 19, 12, 5, 48, 41, 34,
   27, 20, 13, 6, 56, 49, 42, 35,
   28, 21, 14, 7, 57, 50, 43, 36,
   29, 22, 15, 58, 51, 44, 37, 30,
   23, 59, 52, 45, 38, 31, 60, 53,
   46, 39, 61, 54, 47, 62, 55, 63]

def DefaultScalingListIntra : List UInt8 :=
  [16, 16, 16, 16, 17, 18, 21, 24, 16, 16, 16, 16, 17, 19, 22, 25, 16, 16, 17, 18, 20, 22, 25, 29,
   16, 16, 18, 21, 24, 27, 31, 36,
   17, 17, 20, 24, 30, 35, 41, 47,
   18, 19, 22, 27, 35, 44, 54, 65,
   21, 22, 25, 31, 41, 54, 70, 88,
   24, 25, 29, 36, 47, 65, 88, 115]

def DefaultScalingListInter : List UInt8 :=
  [16, 16, 16, 16, 17, 18, 20, 24, 16, 16, 16, 17, 18, 20, 24, 25, 16, 16, 17, 18, 20, 24, 25, 28,
   16, 17, 18, 20, 24, 25, 28, 33,
   17, 18, 20, 24, 25, 28, 33, 41,
   18, 20, 24, 25, 28, 33, 41, 54,
   20, 24, 25, 28, 33, 41, 54, 71,
   24, 25, 28, 33, 41, 54, 71, 91]

structure HevcScalingList where
  Sl : Nat → Nat → Nat → UInt8
  SlDc : Nat → Nat → UInt8
  nRefMatrixId : Nat → Nat → UInt8
  bScalingListMatrixModified : Bool

namespace HevcScalingList

/-- The first bytes of one matrix are copied from elsewhere. -/
def copy (pSl : HevcScalingList) (nSizeId nMatrixId count : Nat) (source : Nat → UInt8) :
    HevcScalingList :=
  { pSl with
    Sl := fun size matrix k =>
      if size = nSizeId ∧ matrix = nMatrixId ∧ k < count then source k
      else pSl.Sl size matrix k }

def setDc (pSl : HevcScalingList) (row nMatrixId : Nat) (dc : UInt8) : HevcScalingList :=
  { pSl with
    SlDc := fun other matrix =>
      if other = row ∧ matrix = nMatrixId then dc else pSl.SlDc other matrix }

def setRef (pSl : HevcScalingList) (nSizeId nMatrixId : Nat) (ref : UInt8) : HevcScalingList :=
  { pSl with
    nRefMatrixId := fun size matrix =>
      if size = nSizeId ∧ matrix = nMatrixId then ref else pSl.nRefMatrixId size matrix }

end HevcScalingList

def matrixCount (nSizeId : Nat) : Nat := if nSizeId = 3 then 2 else 6

def sizeMatrices : List (Nat × Nat) :=
  (List.range 4).flatMap fun nSizeId =>
    (List.range (matrixCount nSizeId)).map fun nMatrixId => (nSizeId, nMatrixId)

def defaultMatrices : List (Nat × Nat × List UInt8) :=
  [(1, 0, DefaultScalingListIntra), (1, 1, DefaultScalingListIntra),
   (1, 2, DefaultScalingListIntra), (1, 3, DefaultScalingListInter),
   (1, 4, DefaultScalingListInter), (1, 5, DefaultScalingListInter),
   (2, 0, DefaultScalingListIntra), (2, 1, DefaultScalingListIntra),
   (2, 2, DefaultScalingListIntra), (2, 3, DefaultScalingListInter),
   (2, 4, DefaultScalingListInter), (2, 5, DefaultScalingListInter),
   (3, 0, DefaultScalingListIntra), (3, 1, DefaultScalingListInter)]

def HevcScalingListDefaultData (pSl : HevcScalingList) : HevcScalingList :=
  let pSl := (List.range 6).foldl
    (fun pSl i => ((pSl.copy 0 i 16 fun _ => 16).setDc 0 i 16).setDc 1 i 16) pSl
  let pSl := defaultMatrices.foldl
    (fun pSl entry => pSl.copy entry.1 entry.2.1 64 fun k => entry.2.2.getD k 0) pSl
  sizeMatrices.foldl (fun pSl at' => pSl.setRef at'.1 at'.2 (UInt8.ofNat at'.2)) pSl

/-- The syntax elements of `scaling_list_data`, by size and matrix. -/
structure ScalingListSyntax where
  predModeFlag : Nat → Nat → Bool
  predMatrixIdDelta : Nat → Nat → UInt32
  dcCoefMinus8 : Nat → Nat → Int
  deltaCoef : Nat → Nat → Nat → Int

def u8 (value : Int) : UInt8 := UInt8.ofNat (value % 256).toNat

/-- The signed delta, after the repair of one that reaches before the first matrix. -/
def repairedDelta (syn : ScalingListSyntax) (nSizeId nMatrixId : Nat) : Int :=
  let nDelta := s32 (syn.predMatrixIdDelta nSizeId nMatrixId).toNat
  if (nMatrixId : Int) < nDelta then
    if (nMatrixId : Int) - 1 ≥ 0 then (nMatrixId : Int) - 1 else 0
  else nDelta

/-- A matrix that is predicted; without a delta it keeps its default. -/
def predictMatrix (syn : ScalingListSyntax) (pSl : HevcScalingList) (nSizeId nMatrixId : Nat) :
    Option HevcScalingList :=
  if s32 (syn.predMatrixIdDelta nSizeId nMatrixId).toNat = 0 then some pSl
  else
    let reference := s32 (nMatrixId - repairedDelta syn nSizeId nMatrixId)
    if reference < 0 ∨ 6 ≤ reference then none
    else
      let pSl := pSl.setRef nSizeId nMatrixId (u8 reference)
      let pSl := pSl.copy nSizeId nMatrixId (if nSizeId > 0 then 64 else 16)
        (pSl.Sl nSizeId reference.toNat)
      some <|
        if nSizeId > 1 then
          pSl.setDc (nSizeId - 2) nMatrixId (pSl.SlDc (nSizeId - 2) reference.toNat)
        else pSl

/-- The matrix that is filled and the last coefficient. -/
structure CoefLoop where
  coefs : Nat → UInt8
  nNextCoef : Int

def nextCoef (nNextCoef nScalingListDeltaCoef : Int) : Int :=
  (s32 (s32 (nNextCoef + nScalingListDeltaCoef) + 256)).tmod 256

def coefEntry (Scan : List Nat) (deltaCoef : Nat → Int) (s : CoefLoop) (i : Nat) :
    Option CoefLoop :=
  match Scan[i]? with
  | none => none
  | some nPos =>
    if 64 ≤ nPos then none
    else
      let nNextCoef := nextCoef s.nNextCoef (deltaCoef i)
      some ⟨Function.update s.coefs nPos (u8 nNextCoef), nNextCoef⟩

def scanOf (nSizeId : Nat) : List Nat :=
  if nSizeId = 0 then gSigLastScan_0_1 else gSigLastScanCG32x32

def nCoefNum (nSizeId : Nat) : Nat := min 64 (2 ^ (4 + 2 * nSizeId))

def firstCoef (syn : ScalingListSyntax) (nSizeId nMatrixId : Nat) : Int :=
  if nSizeId > 1 then s32 (syn.dcCoefMinus8 nSizeId nMatrixId + 8) else 8

def explicitMatrix (syn : ScalingListSyntax) (pSl : HevcScalingList) (nSizeId nMatrixId : Nat) :
    Option HevcScalingList :=
  let nNextCoef := firstCoef syn nSizeId nMatrixId
  let pSl := if nSizeId > 1 then pSl.setDc (nSizeId - 2) nMatrixId (u8 nNextCoef) else pSl
  ((List.range (nCoefNum nSizeId)).foldlM
    (coefEntry (scanOf nSizeId) (syn.deltaCoef nSizeId nMatrixId))
    ⟨pSl.Sl nSizeId nMatrixId, nNextCoef⟩).map fun s =>
      { pSl.copy nSizeId nMatrixId 64 s.coefs with bScalingListMatrixModified := true }

def parseMatrix (syn : ScalingListSyntax) (pSl : HevcScalingList) (place : Nat × Nat) :
    Option HevcScalingList :=
  if syn.predModeFlag place.1 place.2 then explicitMatrix syn pSl place.1 place.2
  else predictMatrix syn pSl place.1 place.2

def HevcParseScalingListData (syn : ScalingListSyntax) (pSl : HevcScalingList) :
    Option HevcScalingList :=
  sizeMatrices.foldlM (parseMatrix syn) { pSl with bScalingListMatrixModified := false }

theorem scan_facts (nSizeId : Nat) :
    (scanOf nSizeId).length = nCoefNum nSizeId ∧ (scanOf nSizeId).Nodup ∧
      ∀ nPos ∈ scanOf nSizeId, nPos < nCoefNum nSizeId := by
  unfold scanOf nCoefNum
  cases nSizeId with
  | zero => decide
  | succ larger =>
    have whole : min 64 (2 ^ (4 + 2 * (larger + 1))) = 64 := by
      apply Nat.min_eq_left
      exact Nat.pow_le_pow_right (show 0 < 2 by decide) (show 6 ≤ 4 + 2 * (larger + 1) by omega)
    rw [if_neg (Nat.succ_ne_zero larger), whole]
    decide

theorem coef_num_le (nSizeId : Nat) : nCoefNum nSizeId ≤ 64 := Nat.min_le_left ..

/-- The coefficient before place `i` of the loop. -/
def codedCoef (deltaCoef : Nat → Int) (start : Int) : Nat → Int
  | 0 => start
  | i + 1 => nextCoef (codedCoef deltaCoef start i) (deltaCoef i)

def coefWrites (nSizeId : Nat) (deltaCoef : Nat → Int) (start : Int) (count : Nat) :
    List (Nat × UInt8) :=
  (List.range count).map fun i =>
    ((scanOf nSizeId).getD i 0, u8 (codedCoef deltaCoef start (i + 1)))

theorem coef_loop (nSizeId : Nat) (deltaCoef : Nat → Int) (start : CoefLoop) (count : Nat)
    (within : count ≤ nCoefNum nSizeId) :
    (List.range count).foldlM (coefEntry (scanOf nSizeId) deltaCoef) start =
      some ⟨writeAll start.coefs (coefWrites nSizeId deltaCoef start.nNextCoef count),
        codedCoef deltaCoef start.nNextCoef count⟩ := by
  rcases scan_facts nSizeId with ⟨size, _, inside⟩
  induction count with
  | zero => rfl
  | succ count ih =>
    have here : count < (scanOf nSizeId).length := by omega
    have position : (scanOf nSizeId).getD count 0 = (scanOf nSizeId)[count] :=
      getD_eq_getElem _ _ here
    have below := inside _ (getElem_mem here)
    have small : ¬ 64 ≤ (scanOf nSizeId)[count] := by
      have most := coef_num_le nSizeId
      omega
    rw [range_succ, foldlM_append, ih (Nat.le_of_succ_le within)]
    unfold coefWrites
    rw [range_succ, map_append, write_all_append]
    simp only [Option.bind_eq_bind, Option.bind_some, foldlM_cons, foldlM_nil,
      coefEntry, List.getElem?_eq_getElem here, if_neg small, Option.pure_def, map_cons,
      map_nil, write_all_cons, write_all_nil, position, codedCoef]

theorem coef_written (nSizeId : Nat) (deltaCoef : Nat → Int) (start : Int) (coefs : Nat → UInt8)
    {i : Nat} (below : i < nCoefNum nSizeId) :
    writeAll coefs (coefWrites nSizeId deltaCoef start (nCoefNum nSizeId))
        ((scanOf nSizeId).getD i 0) = u8 (codedCoef deltaCoef start (i + 1)) := by
  rcases scan_facts nSizeId with ⟨size, distinct, _⟩
  unfold coefWrites
  apply write_all_agree
  · intro write member same
    rcases mem_map.mp member with ⟨j, range, rfl⟩
    have within := mem_range.mp range
    dsimp only at same ⊢
    rw [getD_eq_getElem _ _ (by omega), getD_eq_getElem _ _ (by omega)] at same
    rw [(distinct.getElem_inj_iff).mp same]
  · exact ⟨_, mem_map_of_mem (mem_range.mpr below), rfl⟩

section Matrices

/-- A matrix is predicted from one of its size: its delta, as a signed number, does not reach
behind the last one. -/
def MatrixInside (syn : ScalingListSyntax) (place : Nat × Nat) : Prop :=
  syn.predModeFlag place.1 place.2 = false →
    place.2 - s32 (syn.predMatrixIdDelta place.1 place.2).toNat < 6

variable {syn : ScalingListSyntax} {pSl pSl' : HevcScalingList} {nSizeId nMatrixId : Nat}

structure Elsewhere (pSl pSl' : HevcScalingList) (nSizeId nMatrixId : Nat) : Prop where
  matrix : ∀ size matrix, (size, matrix) ≠ (nSizeId, nMatrixId) →
    pSl'.Sl size matrix = pSl.Sl size matrix
  dc : ∀ size matrix, 1 < size → (size, matrix) ≠ (nSizeId, nMatrixId) →
    pSl'.SlDc (size - 2) matrix = pSl.SlDc (size - 2) matrix

theorem copy_elsewhere (count : Nat) (source : Nat → UInt8) :
    Elsewhere pSl (pSl.copy nSizeId nMatrixId count source) nSizeId nMatrixId := by
  constructor
  · intro size matrix apart
    funext k
    apply if_neg
    rintro ⟨rfl, rfl, _⟩
    exact apart rfl
  · intro size matrix _ _
    rfl

theorem set_dc_elsewhere (large : 1 < nSizeId) (dc : UInt8) :
    Elsewhere pSl (pSl.setDc (nSizeId - 2) nMatrixId dc) nSizeId nMatrixId := by
  constructor
  · intro size matrix _
    rfl
  · intro size matrix large' apart
    apply if_neg
    rintro ⟨row, rfl⟩
    apply apart
    rw [show size = nSizeId by omega]

theorem Elsewhere.trans {pSl'' : HevcScalingList} (first : Elsewhere pSl pSl' nSizeId nMatrixId)
    (second : Elsewhere pSl' pSl'' nSizeId nMatrixId) : Elsewhere pSl pSl'' nSizeId nMatrixId := by
  constructor
  · intro size matrix apart
    rw [second.matrix size matrix apart, first.matrix size matrix apart]
  · intro size matrix large apart
    rw [second.dc size matrix large apart, first.dc size matrix large apart]

theorem Elsewhere.refl : Elsewhere pSl pSl nSizeId nMatrixId :=
  ⟨fun _ _ _ => rfl, fun _ _ _ _ => rfl⟩

theorem Elsewhere.modified (elsewhere : Elsewhere pSl pSl' nSizeId nMatrixId) (flag : Bool) :
    Elsewhere pSl { pSl' with bScalingListMatrixModified := flag } nSizeId nMatrixId :=
  ⟨elsewhere.matrix, elsewhere.dc⟩

theorem explicit_matrix (syn : ScalingListSyntax) (pSl : HevcScalingList)
    (nSizeId nMatrixId : Nat) :
    ∃ pSl', explicitMatrix syn pSl nSizeId nMatrixId = some pSl' ∧
      (∀ i < nCoefNum nSizeId, pSl'.Sl nSizeId nMatrixId ((scanOf nSizeId).getD i 0) =
        u8 (codedCoef (syn.deltaCoef nSizeId nMatrixId) (firstCoef syn nSizeId nMatrixId)
          (i + 1))) ∧
      (1 < nSizeId → pSl'.SlDc (nSizeId - 2) nMatrixId = u8 (firstCoef syn nSizeId nMatrixId)) ∧
      Elsewhere pSl pSl' nSizeId nMatrixId := by
  unfold explicitMatrix
  dsimp only
  rw [coef_loop _ _ _ _ (Nat.le_refl _), Option.map_some]
  refine ⟨_, rfl, ?_, ?_, ?_⟩
  · intro i below
    rcases scan_facts nSizeId with ⟨size, _, inside⟩
    have here : i < (scanOf nSizeId).length := by omega
    have position := inside _ (getElem_mem here)
    have most := coef_num_le nSizeId
    rw [← getD_eq_getElem _ 0 here] at position
    have written : nSizeId = nSizeId ∧ nMatrixId = nMatrixId ∧
        (scanOf nSizeId).getD i 0 < 64 := ⟨rfl, rfl, by omega⟩
    unfold HevcScalingList.copy
    dsimp only
    rw [if_pos written]
    exact coef_written _ _ _ _ below
  · intro large
    rw [if_pos large]
    exact if_pos ⟨rfl, rfl⟩
  · by_cases large : 1 < nSizeId
    · rw [if_pos large]
      exact ((set_dc_elsewhere large _).trans (copy_elsewhere _ _)).modified true
    · rw [if_neg large]
      exact (copy_elsewhere _ _).modified true

/-- The delta is no more than the number of the matrix: the one that it names is copied. -/
theorem predict_matrix {delta : Nat} (coded : (syn.predMatrixIdDelta nSizeId nMatrixId).toNat = delta)
    (some_delta : 0 < delta) (back : delta ≤ nMatrixId) (few : nMatrixId < 6) :
    ∃ pSl', predictMatrix syn pSl nSizeId nMatrixId = some pSl' ∧
      (∀ k < nCoefNum nSizeId, pSl'.Sl nSizeId nMatrixId k = pSl.Sl nSizeId (nMatrixId - delta) k) ∧
      (1 < nSizeId → pSl'.SlDc (nSizeId - 2) nMatrixId =
        pSl.SlDc (nSizeId - 2) (nMatrixId - delta)) ∧
      Elsewhere pSl pSl' nSizeId nMatrixId := by
  have small : s32 (syn.predMatrixIdDelta nSizeId nMatrixId).toNat = delta := by
    rw [coded]
    unfold s32
    omega
  have repaired : repairedDelta syn nSizeId nMatrixId = delta := by
    unfold repairedDelta
    rw [small]
    exact if_neg (by omega)
  have reference : s32 (nMatrixId - repairedDelta syn nSizeId nMatrixId) =
      (nMatrixId - delta : Nat) := by
    rw [repaired]
    unfold s32
    omega
  have nonzero : ¬ s32 (syn.predMatrixIdDelta nSizeId nMatrixId).toNat = 0 := by omega
  have inside : ¬ (((nMatrixId - delta : Nat) : Int) < 0 ∨
      6 ≤ ((nMatrixId - delta : Nat) : Int)) := by omega
  have bytes : nCoefNum nSizeId ≤ if nSizeId > 0 then 64 else 16 := by
    unfold nCoefNum
    cases nSizeId with
    | zero => decide
    | succ larger => exact Nat.min_le_left ..
  unfold predictMatrix
  dsimp only
  rw [if_neg nonzero, reference, if_neg inside, Int.toNat_natCast]
  refine ⟨_, rfl, ?_, ?_, ?_⟩
  · intro k below
    have copied : nSizeId = nSizeId ∧ nMatrixId = nMatrixId ∧
        k < (if nSizeId > 0 then 64 else 16) := ⟨rfl, rfl, by omega⟩
    by_cases large : nSizeId > 1
    · rw [if_pos large]
      exact if_pos copied
    · rw [if_neg large]
      exact if_pos copied
  · intro large
    rw [if_pos large]
    exact if_pos ⟨rfl, rfl⟩
  · have kept : Elsewhere pSl (pSl.setRef nSizeId nMatrixId (u8 ((nMatrixId - delta : Nat) : Int)))
        nSizeId nMatrixId := ⟨fun _ _ _ => rfl, fun _ _ _ _ => rfl⟩
    by_cases large : 1 < nSizeId
    · rw [if_pos large]
      exact (kept.trans (copy_elsewhere _ _)).trans (set_dc_elsewhere large _)
    · rw [if_neg large]
      exact kept.trans (copy_elsewhere _ _)

/-- Whether a matrix stays inside its array does not depend on what the lists have. -/
theorem parse_matrix_inside (syn : ScalingListSyntax) (pSl : HevcScalingList)
    {place : Nat × Nat} (few : place.2 < 6) :
    (parseMatrix syn pSl place).isSome ↔ MatrixInside syn place := by
  unfold parseMatrix MatrixInside
  cases coded : syn.predModeFlag place.1 place.2 with
  | true =>
    rcases explicit_matrix syn pSl place.1 place.2 with ⟨pSl', run, _⟩
    simp [run]
  | false =>
    have range := s32_range (syn.predMatrixIdDelta place.1 place.2).toNat
    unfold InS32 at range
    simp only [Bool.false_eq_true, if_false, forall_const]
    unfold predictMatrix repairedDelta
    generalize s32 (syn.predMatrixIdDelta place.1 place.2).toNat = nDelta at range ⊢
    dsimp only
    by_cases none : nDelta = 0
    · rw [if_pos none, none]
      apply iff_of_true rfl
      omega
    · have border : (s32 (place.2 - if (place.2 : Int) < nDelta then
            (if (place.2 : Int) - 1 ≥ 0 then (place.2 : Int) - 1 else 0) else nDelta) < 0 ∨
          6 ≤ s32 (place.2 - if (place.2 : Int) < nDelta then
            (if (place.2 : Int) - 1 ≥ 0 then (place.2 : Int) - 1 else 0) else nDelta)) ↔
          ¬ place.2 - nDelta < 6 := by
        unfold s32
        split_ifs <;> omega
      rw [if_neg none]
      by_cases inside : place.2 - nDelta < 6
      · rw [if_neg fun outside => border.mp outside inside]
        exact iff_of_true rfl inside
      · rw [if_pos (border.mpr inside)]
        exact iff_of_false Bool.false_ne_true inside

end Matrices

theorem set_refs_keep (places : List (Nat × Nat)) (pSl : HevcScalingList) :
    (places.foldl (fun pSl at' => pSl.setRef at'.1 at'.2 (UInt8.ofNat at'.2)) pSl).Sl = pSl.Sl ∧
      (places.foldl (fun pSl at' => pSl.setRef at'.1 at'.2 (UInt8.ofNat at'.2)) pSl).SlDc =
        pSl.SlDc := by
  induction places generalizing pSl with
  | nil => exact ⟨rfl, rfl⟩
  | cons place places ih => exact ih _

theorem default_small (pSl : HevcScalingList) {nMatrixId k : Nat} (few : nMatrixId < 6)
    (inside : k < 16) : (HevcScalingListDefaultData pSl).Sl 0 nMatrixId k = 16 := by
  unfold HevcScalingListDefaultData
  dsimp only
  rw [(set_refs_keep _ _).1]
  simp only [defaultMatrices, foldl_cons, foldl_nil, HevcScalingList.copy,
    HevcScalingList.setDc, List.range, List.range.loop]
  interval_cases nMatrixId <;> simp [inside]

def defaultTable (nSizeId nMatrixId : Nat) : List UInt8 :=
  if nMatrixId < if nSizeId = 3 then 1 else 3 then DefaultScalingListIntra
  else DefaultScalingListInter

theorem default_large (pSl : HevcScalingList) {nSizeId nMatrixId k : Nat} (large : 0 < nSizeId)
    (sizes : nSizeId < 4) (few : nMatrixId < matrixCount nSizeId) (inside : k < 64) :
    (HevcScalingListDefaultData pSl).Sl nSizeId nMatrixId k =
      (defaultTable nSizeId nMatrixId).getD k 0 := by
  unfold HevcScalingListDefaultData
  dsimp only
  rw [(set_refs_keep _ _).1]
  simp only [defaultMatrices, foldl_cons, foldl_nil, HevcScalingList.copy,
    HevcScalingList.setDc, List.range, List.range.loop]
  unfold matrixCount at few
  unfold defaultTable
  interval_cases nSizeId <;> simp only [Nat.reduceEqDiff, if_true, if_false] at few <;>
    interval_cases nMatrixId <;> simp [inside]

theorem default_dc (pSl : HevcScalingList) {row nMatrixId : Nat} (rows : row < 2)
    (few : nMatrixId < 6) : (HevcScalingListDefaultData pSl).SlDc row nMatrixId = 16 := by
  unfold HevcScalingListDefaultData
  dsimp only
  rw [(set_refs_keep _ _).2]
  simp only [defaultMatrices, foldl_cons, foldl_nil, HevcScalingList.copy,
    HevcScalingList.setDc, List.range, List.range.loop]
  interval_cases row <;> interval_cases nMatrixId <;> simp

end CedarC.H265ScalingList
