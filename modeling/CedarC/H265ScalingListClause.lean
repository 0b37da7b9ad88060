import CedarC.H265ScalingList
import Mathlib.Data.List.Flatten

/-!
# Scaling lists against clause 7.4.5

The scaling factors of clause 7.4.5 of the matrices of `scaling_list_data`, and the parser of
`H265ScalingList` compared with them. A matrix of a large size is stored as one of 8 rows with
its DC apart.
-/

namespace CedarC.H265ScalingListClause

open FixedWidth H265ScalingList List

section Clause

/-- The up-right diagonal scan of clause 6.5.3, as pairs of a column and a row. -/
def diagScan (blkSize : Nat) : List (Nat × Nat) :=
  (List.range (2 * blkSize - 1)).flatMap fun diagonal =>
    ((List.range (diagonal + 1)).filter fun x => x < blkSize ∧ diagonal - x < blkSize).map
      fun x => (x, diagonal - x)

def defaultIntra : List Nat :=
  [16, 16, 16, 16, 16, 16, 16, 16, 16, 16, 17, 16, 17, 16, 17, 18,
   17, 18, 18, 17, 18, 21, 19, 20, 21, 20, 19, 21, 24, 22, 22, 24,
   24, 22, 22, 24, 25, 25, 27, 30, 27, 25, 25, 29, 31, 35, 35, 31,
   29, 36, 41, 44, 41, 36, 47, 54, 54, 47, 65, 70, 65, 88, 88, 115]

def defaultInter : List Nat :=
  [16, 16, 16, 16, 16, 16, 16, 16, 16, 16, 17, 17, 17, 17, 17, 18,
   18, 18, 18, 18, 18, 20, 20, 20, 20, 20, 20, 20, 24, 24, 24, 24,
   24, 24, 24, 24, 25, 25, 25, 25, 25, 25, 25, 28, 28, 28, 28, 28,
   28, 33, 33, 33, 33, 33, 41, 41, 41, 41, 54, 54, 54, 71, 71, 91]

variable (syn : ScalingListSyntax) (sizeId : Nat)

def defaultCoef (matrixId i : Nat) : Nat :=
  if sizeId = 0 then 16
  else if matrixId < if sizeId = 3 then 1 else 3 then defaultIntra.getD i 0
  else defaultInter.getD i 0

def explicitCoef (matrixId : Nat) : Nat → Int
  | 0 =>
    ((if sizeId > 1 then syn.dcCoefMinus8 sizeId matrixId + 8 else 8) +
      syn.deltaCoef sizeId matrixId 0 + 256) % 256
  | i + 1 => (explicitCoef matrixId i + syn.deltaCoef sizeId matrixId (i + 1) + 256) % 256

/-- `scaling_list_pred_matrix_id_delta`, as far as there is a matrix before. -/
def predDelta (matrixId : Nat) : Nat := min (syn.predMatrixIdDelta sizeId matrixId).toNat matrixId

def ScalingListCoef (matrixId i : Nat) : Nat :=
  if syn.predModeFlag sizeId matrixId then (explicitCoef syn sizeId matrixId i).toNat
  else if predDelta syn sizeId matrixId = 0 then defaultCoef sizeId matrixId i
  else ScalingListCoef (matrixId - predDelta syn sizeId matrixId) i
termination_by matrixId
decreasing_by
  have back : predDelta syn sizeId matrixId ≤ matrixId := Nat.min_le_right ..
  omega

def ScalingListDc (matrixId : Nat) : Nat :=
  if syn.predModeFlag sizeId matrixId then (syn.dcCoefMinus8 sizeId matrixId + 8).toNat
  else if predDelta syn sizeId matrixId = 0 then 16
  else ScalingListDc (matrixId - predDelta syn sizeId matrixId)
termination_by matrixId
decreasing_by
  have back : predDelta syn sizeId matrixId ≤ matrixId := Nat.min_le_right ..
  omega

/-- The rows of a matrix as coded, and the rows of a block that each of them stands for. -/
def codedRows : Nat := if sizeId = 0 then 4 else 8

def rowsPerCoded : Nat := 2 ^ (sizeId - 1)

def ScalingFactor (matrixId x y : Nat) : Nat :=
  if sizeId > 1 ∧ x = 0 ∧ y = 0 then ScalingListDc syn sizeId matrixId
  else ScalingListCoef syn sizeId matrixId
    ((diagScan (codedRows sizeId)).idxOf (x / rowsPerCoded sizeId, y / rowsPerCoded sizeId))

def storedFactor (pSl : HevcScalingList) (matrixId x y : Nat) : Nat :=
  if sizeId > 1 ∧ x = 0 ∧ y = 0 then (pSl.SlDc (sizeId - 2) matrixId).toNat
  else (pSl.Sl sizeId matrixId
    (y / rowsPerCoded sizeId * codedRows sizeId + x / rowsPerCoded sizeId)).toNat

end Clause

def MatrixValid (syn : ScalingListSyntax) (place : Nat × Nat) : Prop :=
  if syn.predModeFlag place.1 place.2 then
    (place.1 > 1 → -7 ≤ syn.dcCoefMinus8 place.1 place.2 ∧ syn.dcCoefMinus8 place.1 place.2 ≤ 247) ∧
    ∀ i < nCoefNum place.1, -128 ≤ syn.deltaCoef place.1 place.2 i ∧
      syn.deltaCoef place.1 place.2 i ≤ 127
  else (syn.predMatrixIdDelta place.1 place.2).toNat ≤ place.2

def PayloadValid (syn : ScalingListSyntax) : Prop := ∀ place ∈ sizeMatrices, MatrixValid syn place

def FactorsRight (syn : ScalingListSyntax) (pSl : HevcScalingList) : Prop :=
  ∀ place ∈ sizeMatrices, ∀ x < 4 * 2 ^ place.1, ∀ y < 4 * 2 ^ place.1,
    storedFactor place.1 pSl place.2 x y = ScalingFactor syn place.1 place.2 x y

/-- The lists are parsed within their arrays, and a valid payload gives the factors of the
standard. -/
def ScalingListsRight (syn : ScalingListSyntax) (pSl : HevcScalingList) : Prop :=
  ∃ pSl', HevcParseScalingListData syn (HevcScalingListDefaultData pSl) = some pSl' ∧
    (PayloadValid syn → FactorsRight syn pSl')

/-- No matrix is predicted with a delta that is negative as a signed number and reaches behind the
last matrix. -/
def DeltasInside (syn : ScalingListSyntax) : Prop := ∀ place ∈ sizeMatrices, MatrixInside syn place

theorem diag_scan_positions (sizeId : Nat) :
    (diagScan (codedRows sizeId)).map (fun at' => at'.2 * codedRows sizeId + at'.1) =
      scanOf sizeId := by
  unfold codedRows scanOf
  split_ifs
  · decide
  · decide

theorem mem_diag_scan {blkSize x y : Nat} (column : x < blkSize) (row : y < blkSize) :
    (x, y) ∈ diagScan blkSize := by
  unfold diagScan
  rw [mem_flatMap]
  refine ⟨x + y, mem_range.mpr (by omega), ?_⟩
  rw [mem_map]
  refine ⟨x, ?_, by rw [Nat.add_sub_cancel_left]⟩
  rw [mem_filter, mem_range, decide_eq_true_iff, Nat.add_sub_cancel_left]
  exact ⟨by omega, column, row⟩

theorem scan_place (sizeId : Nat) {x y : Nat} (column : x < codedRows sizeId)
    (row : y < codedRows sizeId) :
    (diagScan (codedRows sizeId)).idxOf (x, y) < nCoefNum sizeId ∧
      (scanOf sizeId).getD ((diagScan (codedRows sizeId)).idxOf (x, y)) 0 =
        y * codedRows sizeId + x := by
  have found := idxOf_lt_length_of_mem (mem_diag_scan column row)
  have positions := diag_scan_positions sizeId
  have sizes := congrArg List.length positions
  rw [length_map, (scan_facts sizeId).1] at sizes
  constructor
  · omega
  · rw [← positions, getD_eq_getElem _ _ (by rw [length_map]; exact found),
      getElem_map, getElem_idxOf]

section Matrix

variable {syn : ScalingListSyntax} {pSl pSl' : HevcScalingList} {place : Nat × Nat}

structure MatrixHas (pSl : HevcScalingList) (place : Nat × Nat) (coef : Nat → Nat) (dc : Nat) :
    Prop where
  coefs : ∀ i < nCoefNum place.1,
    (pSl.Sl place.1 place.2 ((scanOf place.1).getD i 0)).toNat = coef i
  dc : 1 < place.1 → (pSl.SlDc (place.1 - 2) place.2).toNat = dc

def MatrixRight (syn : ScalingListSyntax) (pSl : HevcScalingList) (place : Nat × Nat) : Prop :=
  MatrixHas pSl place (ScalingListCoef syn place.1 place.2) (ScalingListDc syn place.1 place.2)

def MatrixDefault (pSl : HevcScalingList) (place : Nat × Nat) : Prop :=
  MatrixHas pSl place (defaultCoef place.1 place.2) 16

theorem default_tables (i : Nat) (below : i < 64) :
    (DefaultScalingListIntra.getD (gSigLastScanCG32x32.getD i 0) 0).toNat = defaultIntra.getD i 0 ∧
      (DefaultScalingListInter.getD (gSigLastScanCG32x32.getD i 0) 0).toNat =
        defaultInter.getD i 0 := by
  revert i
  decide

theorem place_facts (member : place ∈ sizeMatrices) :
    place.1 < 4 ∧ place.2 < matrixCount place.1 ∧ place.2 < 6 := by
  revert place
  decide

theorem scan_position {sizeId i : Nat} (below : i < nCoefNum sizeId) :
    (scanOf sizeId).getD i 0 < nCoefNum sizeId := by
  rcases scan_facts sizeId with ⟨size, _, inside⟩
  have here : i < (scanOf sizeId).length := by omega
  rw [getD_eq_getElem _ 0 here]
  exact inside _ (getElem_mem here)

theorem defaults_right (pSl : HevcScalingList) (member : place ∈ sizeMatrices) :
    MatrixDefault (HevcScalingListDefaultData pSl) place := by
  rcases place_facts member with ⟨sizes, count, few⟩
  rcases place with ⟨sizeId, matrixId⟩
  dsimp only at sizes count few
  constructor
  · intro i below
    dsimp only at below ⊢
    have position := scan_position below
    unfold defaultCoef
    cases sizeId with
    | zero =>
      rw [default_small pSl few position]
      rfl
    | succ larger =>
      have most := coef_num_le (larger + 1)
      rcases default_tables i (by omega) with ⟨intra, inter⟩
      rw [default_large pSl (Nat.succ_pos larger) sizes count (by omega),
        if_neg (Nat.succ_ne_zero larger)]
      unfold defaultTable scanOf
      rw [if_neg (Nat.succ_ne_zero larger)]
      split_ifs <;> first | exact intra | exact inter
  · intro large
    dsimp only at large ⊢
    rw [default_dc pSl (by omega) few]
    rfl

theorem MatrixHas.elsewhere {coef : Nat → Nat} {dc : Nat} {other : Nat × Nat}
    (has : MatrixHas pSl place coef dc) (elsewhere : Elsewhere pSl pSl' other.1 other.2)
    (apart : place ≠ other) : MatrixHas pSl' place coef dc := by
  constructor
  · intro i below
    rw [elsewhere.matrix _ _ apart]
    exact has.coefs i below
  · intro large
    rw [elsewhere.dc _ _ large apart]
    exact has.dc large

/-- For values in their ranges the signed arithmetic of the loop is the one of the standard. -/
theorem coded_explicit (valid : MatrixValid syn place)
    (explicit : syn.predModeFlag place.1 place.2 = true) (i : Nat) (below : i < nCoefNum place.1) :
    codedCoef (syn.deltaCoef place.1 place.2) (firstCoef syn place.1 place.2) (i + 1) =
        explicitCoef syn place.1 place.2 i ∧
      0 ≤ explicitCoef syn place.1 place.2 i ∧ explicitCoef syn place.1 place.2 i < 256 := by
  unfold MatrixValid at valid
  rw [if_pos explicit] at valid
  rcases valid with ⟨dc, deltas⟩
  have step : ∀ previous delta : Int, 0 ≤ previous → previous < 256 → -128 ≤ delta →
      delta ≤ 127 → nextCoef previous delta = (previous + delta + 256) % 256 := by
    intro previous delta low high least most
    have inner : s32 (previous + delta) = previous + delta := by
      unfold s32
      omega
    have whole : s32 (previous + delta + 256) = previous + delta + 256 := by
      unfold s32
      omega
    unfold nextCoef
    rw [inner, whole, Int.tmod_eq_emod_of_nonneg (by omega)]
  have start : firstCoef syn place.1 place.2 =
      (if place.1 > 1 then syn.dcCoefMinus8 place.1 place.2 + 8 else 8) ∧
      0 ≤ firstCoef syn place.1 place.2 ∧ firstCoef syn place.1 place.2 < 256 := by
    unfold firstCoef
    by_cases large : place.1 > 1
    · have range := dc large
      rw [if_pos large, if_pos large]
      unfold s32
      omega
    · rw [if_neg large, if_neg large]
      decide
  induction i with
  | zero =>
    have range := deltas 0 below
    unfold explicitCoef
    rw [← start.1]
    refine ⟨step _ _ start.2.1 start.2.2 range.1 range.2, ?_, ?_⟩ <;> omega
  | succ i ih =>
    rcases ih (Nat.lt_of_succ_lt below) with ⟨same, low, high⟩
    have range := deltas (i + 1) below
    unfold explicitCoef
    refine ⟨?_, ?_, ?_⟩
    · conv_lhs => unfold codedCoef
      rw [same]
      exact step _ _ low high range.1 range.2
    · omega
    · omega

end Matrix

variable {syn : ScalingListSyntax} {pSl pSl' : HevcScalingList} {place : Nat × Nat}

theorem u8_to_nat {value : Int} (low : 0 ≤ value) (high : value < 256) :
    (u8 value).toNat = value.toNat := by
  unfold u8
  rw [UInt8.toNat_ofNat']
  omega

/-- A matrix is right after its own syntax if those before it were and it had its default. -/
theorem parse_matrix_right (few : place.2 < 6) (valid : MatrixValid syn place)
    (default : MatrixDefault pSl place)
    (earlier : ∀ matrixId < place.2, MatrixRight syn pSl (place.1, matrixId)) :
    ∃ pSl', parseMatrix syn pSl place = some pSl' ∧ MatrixRight syn pSl' place ∧
      Elsewhere pSl pSl' place.1 place.2 := by
  unfold parseMatrix
  cases coded : syn.predModeFlag place.1 place.2 with
  | true =>
    rcases explicit_matrix syn pSl place.1 place.2 with ⟨pSl', run, coefs, dc, elsewhere⟩
    refine ⟨pSl', run, ⟨?_, ?_⟩, elsewhere⟩
    · intro i below
      rcases coded_explicit valid coded i below with ⟨same, low, high⟩
      unfold ScalingListCoef
      rw [if_pos coded, coefs i below, same, u8_to_nat low high]
    · intro large
      have range := valid
      unfold MatrixValid at range
      rw [if_pos coded] at range
      have bounds := range.1 large
      have first : firstCoef syn place.1 place.2 = syn.dcCoefMinus8 place.1 place.2 + 8 := by
        unfold firstCoef
        rw [if_pos large]
        unfold s32
        omega
      unfold ScalingListDc
      rw [if_pos coded, dc large, first, u8_to_nat (by omega) (by omega)]
  | false =>
    have plain : ¬ syn.predModeFlag place.1 place.2 = true := by
      rw [coded]
      exact Bool.false_ne_true
    have back : (syn.predMatrixIdDelta place.1 place.2).toNat ≤ place.2 := by
      unfold MatrixValid at valid
      rw [if_neg plain] at valid
      exact valid
    have delta : predDelta syn place.1 place.2 =
        (syn.predMatrixIdDelta place.1 place.2).toNat := Nat.min_eq_left back
    by_cases none : (syn.predMatrixIdDelta place.1 place.2).toNat = 0
    · refine ⟨pSl, ?_, ?_, Elsewhere.refl⟩
      · rw [if_neg Bool.false_ne_true]
        unfold predictMatrix
        rw [none]
        rfl
      · constructor
        · intro i below
          unfold ScalingListCoef
          rw [if_neg plain, delta, if_pos none]
          exact default.coefs i below
        · intro large
          unfold ScalingListDc
          rw [if_neg plain, delta, if_pos none]
          exact default.dc large
    · rcases @predict_matrix syn pSl place.1 place.2 _ rfl (Nat.pos_of_ne_zero none) back few with
        ⟨pSl', run, coefs, dc, elsewhere⟩
      have reference := earlier (place.2 - (syn.predMatrixIdDelta place.1 place.2).toNat)
        (by omega)
      refine ⟨pSl', ?_, ⟨?_, ?_⟩, elsewhere⟩
      · rw [if_neg Bool.false_ne_true]
        exact run
      · intro i below
        unfold ScalingListCoef
        rw [if_neg plain, delta, if_neg none, coefs _ (scan_position below)]
        exact reference.coefs i below
      · intro large
        unfold ScalingListDc
        rw [if_neg plain, delta, if_neg none, dc large]
        exact reference.dc large

theorem earlier_matrices {done rest : List (Nat × Nat)}
    (parts : sizeMatrices = done ++ place :: rest) {matrixId : Nat} (before : matrixId < place.2) :
    (place.1, matrixId) ∈ done := by
  have ordered : ∀ j < 20, ∀ matrixId < (sizeMatrices.getD j (0, 0)).2,
      ((sizeMatrices.getD j (0, 0)).1, matrixId) ∈ sizeMatrices.take j := by decide
  have few : done.length < 20 := by
    have sizes := congrArg List.length parts
    rw [length_append, length_cons] at sizes
    have twenty : sizeMatrices.length = 20 := rfl
    omega
  have here := ordered done.length few
  rw [parts, take_left, getD_append_right _ _ _ _ (Nat.le_refl _), Nat.sub_self] at here
  exact here matrixId before

theorem parse_matrices (valid : PayloadValid syn) (rest : List (Nat × Nat))
    (done : List (Nat × Nat)) (pSl : HevcScalingList) (parts : sizeMatrices = done ++ rest)
    (right : ∀ place ∈ done, MatrixRight syn pSl place)
    (default : ∀ place ∈ rest, MatrixDefault pSl place) :
    ∃ pSl', rest.foldlM (parseMatrix syn) pSl = some pSl' ∧
      ∀ place ∈ sizeMatrices, MatrixRight syn pSl' place := by
  induction rest generalizing done pSl with
  | nil =>
    rw [append_nil] at parts
    exact ⟨pSl, rfl, fun place member => right place (parts ▸ member)⟩
  | cons place rest ih =>
    have member : place ∈ sizeMatrices := by simp [parts]
    have distinct : sizeMatrices.Nodup := by decide
    rw [parts, nodup_append] at distinct
    have fresh := (nodup_cons.mp distinct.2.1).1
    rcases parse_matrix_right (place_facts member).2.2 (valid place member)
      (default place mem_cons_self)
      (fun matrixId before => right _ (earlier_matrices parts before)) with
      ⟨next, step, here, elsewhere⟩
    rcases ih (done ++ [place]) next (by rw [parts, append_assoc]; rfl)
      (by
        intro other either
        rcases mem_append.mp either with behind | last
        · exact (right other behind).elsewhere elsewhere
            (distinct.2.2 other behind place mem_cons_self)
        · rw [mem_singleton.mp last]
          exact here)
      (by
        intro other ahead
        apply (default other (mem_cons_of_mem _ ahead)).elsewhere elsewhere
        rintro rfl
        exact fresh ahead) with ⟨pSl', run, whole⟩
    refine ⟨pSl', ?_, whole⟩
    rw [foldlM_cons, step, Option.bind_eq_bind, Option.bind_some, run]

theorem factors_of_matrices (right : ∀ place ∈ sizeMatrices, MatrixRight syn pSl place) :
    FactorsRight syn pSl := by
  intro place member x column y row
  have has := right place member
  unfold storedFactor ScalingFactor
  by_cases corner : place.1 > 1 ∧ x = 0 ∧ y = 0
  · rw [if_pos corner, if_pos corner]
    exact has.dc corner.1
  · rw [if_neg corner, if_neg corner]
    have block : 4 * 2 ^ place.1 = rowsPerCoded place.1 * codedRows place.1 := by
      unfold rowsPerCoded codedRows
      cases place.1 with
      | zero => rfl
      | succ larger =>
        rw [if_neg (Nat.succ_ne_zero larger), Nat.add_sub_cancel, Nat.pow_succ]
        omega
    rw [block] at column row
    rcases scan_place place.1 (Nat.div_lt_of_lt_mul column) (Nat.div_lt_of_lt_mul row) with
      ⟨below, position⟩
    rw [← position]
    exact has.coefs _ below

theorem parse_inside (places : List (Nat × Nat)) (few : ∀ place ∈ places, place.2 < 6)
    (pSl : HevcScalingList) :
    (places.foldlM (parseMatrix syn) pSl).isSome ↔ ∀ place ∈ places, MatrixInside syn place := by
  induction places generalizing pSl with
  | nil => simp
  | cons place places ih =>
    have here := parse_matrix_inside syn pSl (few place mem_cons_self)
    have later := ih fun other member => few other (mem_cons_of_mem _ member)
    rw [foldlM_cons, forall_mem_cons, ← here]
    cases parseMatrix syn pSl place with
    | none => simp
    | some next => simpa using later next

/-- A valid payload gives the factors of the standard, whatever the lists had before. -/
theorem valid_payload_right (pSl : HevcScalingList) (valid : PayloadValid syn) :
    ∃ pSl', HevcParseScalingListData syn (HevcScalingListDefaultData pSl) = some pSl' ∧
      FactorsRight syn pSl' := by
  rcases parse_matrices valid sizeMatrices []
    { HevcScalingListDefaultData pSl with bScalingListMatrixModified := false } rfl
    (fun place none => absurd none not_mem_nil)
    (fun place member =>
      ⟨(defaults_right pSl member).coefs, (defaults_right pSl member).dc⟩) with
    ⟨pSl', run, right⟩
  exact ⟨pSl', run, factors_of_matrices right⟩

/-- The lists are right exactly where no delta is taken for a negative number that reaches behind
the last matrix. -/
theorem scaling_lists_right_iff (syn : ScalingListSyntax) (pSl : HevcScalingList) :
    ScalingListsRight syn pSl ↔ DeltasInside syn := by
  have inside := @parse_inside syn sizeMatrices
    (fun place member => (place_facts member).2.2)
    { HevcScalingListDefaultData pSl with bScalingListMatrixModified := false }
  unfold ScalingListsRight DeltasInside HevcParseScalingListData
  rw [← inside]
  constructor
  · rintro ⟨pSl', run, _⟩
    rw [run]
    rfl
  · intro parsed
    rcases Option.isSome_iff_exists.mp parsed with ⟨pSl', run⟩
    refine ⟨pSl', run, ?_⟩
    intro valid
    rcases valid_payload_right pSl valid with ⟨pSl'', again, right⟩
    have same := run.symm.trans again
    cases same
    exact right

/-- All matrices have their defaults but the last of the smallest, whose delta is too large. -/
def wrappedDelta : ScalingListSyntax where
  predModeFlag _ _ := false
  predMatrixIdDelta nSizeId nMatrixId := if nSizeId = 0 ∧ nMatrixId = 5 then 0xfffffffe else 0
  dcCoefMinus8 _ _ := 0
  deltaCoef _ _ _ := 0

def clearedLists : HevcScalingList := ⟨fun _ _ _ => 0, fun _ _ => 0, fun _ _ => 0, false⟩

theorem wrapped_delta_outside : ¬ ScalingListsRight wrappedDelta clearedLists := by
  rintro ⟨pSl', run, _⟩
  have inside := (parse_inside sizeMatrices (fun place member => (place_facts member).2.2)
    _).mp (Option.isSome_of_eq_some run) (0, 5) (by decide) rfl
  revert inside
  decide

end CedarC.H265ScalingListClause
