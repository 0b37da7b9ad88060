import CedarC.FixedWidth
import CedarC.SramPort
import Mathlib.Data.List.Nodup
import Mathlib.Data.List.Range
import Mathlib.Tactic.IntervalCases

/-!
# Weighted prediction tables of the H265 decoder

`HevcParseWeightTable2` and `HevcInitWpScaling` of `h265_parser.c`, which leave tables in the
slice header, and `HevcSetWeightPredReg` of `h265_register.c`, which packs them into the words of
the SRAM. The bit reader is represented by the values that it returns for each list and reference.
-/

namespace CedarC.H265WeightPred

open FixedWidth SramPort List

def HEVC_MAX_REFS : Nat := 16
def HEVC_WEIGHT_PRED_PARAM_ADDR : Nat := 0

inductive HevcSliceType
  | HEVC_B_SLICE
  | HEVC_P_SLICE
  | HEVC_I_SLICE
deriving DecidableEq

structure WpScalingParam where
  bPresentFlag : Bool
  uiLog2WeightDenom : Nat
  iWeight : Int
  iOffset : Int
  w : Int
  o : Int
  shift : Int
  round : Int

/-- The part of both tables for one reference: by component, the parameters and the byte of the
delta weight. -/
structure RefWeights where
  wp : Nat → WpScalingParam
  weightBuf : Nat → Nat

structure HevcSliceHeader where
  eSliceType : HevcSliceType
  nNumOfRefs : Nat → Nat
  m_weightPredTable : Nat → Nat → Nat → WpScalingParam
  hevc_weight_buf : Nat → Nat → Nat → Nat

namespace HevcSliceHeader

def refAt (pSh : HevcSliceHeader) (list iRefIdx : Nat) : RefWeights :=
  { wp := pSh.m_weightPredTable list iRefIdx
    weightBuf := fun yuv => pSh.hevc_weight_buf list yuv iRefIdx }

def update (pSh : HevcSliceHeader) (list iRefIdx : Nat) (change : RefWeights → RefWeights) :
    HevcSliceHeader :=
  let changed := change (pSh.refAt list iRefIdx)
  { pSh with
    m_weightPredTable := fun e i =>
      if e = list ∧ i = iRefIdx then changed.wp else pSh.m_weightPredTable e i
    hevc_weight_buf := fun e yuv i =>
      if e = list ∧ i = iRefIdx then changed.weightBuf yuv else pSh.hevc_weight_buf e yuv i }

end HevcSliceHeader

/-- `pred_weight_table` as coded, by list, reference and chroma component; what is not coded
is 0. -/
structure WeightSyntax where
  lumaLog2WeightDenom : UInt32
  deltaChromaLog2WeightDenom : Int
  lumaWeightFlag : Nat → Nat → Bool
  chromaWeightFlag : Nat → Nat → Bool
  deltaLumaWeight : Nat → Nat → Int
  lumaOffset : Nat → Nat → Int
  deltaChromaWeight : Nat → Nat → Nat → Int
  deltaChromaOffset : Nat → Nat → Nat → Int

section Parse

variable (syn : WeightSyntax)

def uiLog2WeightDenomLuma : Nat := syn.lumaLog2WeightDenom.toNat

def uiLog2WeightDenomChroma : Nat :=
  (u32 (syn.deltaChromaLog2WeightDenom + uiLog2WeightDenomLuma syn)).toNat

/-- `value & 0xff`. -/
def lowByte (value : Int) : Nat := (value % 256).toNat

def HevcClip (value least most : Int) : Int :=
  if value < least then least else if value > most then most else value

def lumaFlagPass (list iRefIdx : Nat) (ref : RefWeights) : RefWeights :=
  { ref with
    wp := fun yuv =>
      if yuv = 0 then
        { ref.wp 0 with
          uiLog2WeightDenom := uiLog2WeightDenomLuma syn
          bPresentFlag := syn.lumaWeightFlag list iRefIdx }
      else { ref.wp yuv with uiLog2WeightDenom := uiLog2WeightDenomChroma syn } }

def chromaFlagPass (list iRefIdx : Nat) (ref : RefWeights) : RefWeights :=
  { ref with
    wp := fun yuv =>
      if yuv = 0 then ref.wp 0
      else { ref.wp yuv with bPresentFlag := syn.chromaWeightFlag list iRefIdx } }

def lumaValues (list iRefIdx : Nat) (wp : WpScalingParam) : WpScalingParam × Nat :=
  if wp.bPresentFlag then
    let iDeltaWeight := syn.deltaLumaWeight list iRefIdx
    ({ wp with
        iWeight := s32 (iDeltaWeight + s32 (2 ^ wp.uiLog2WeightDenom))
        iOffset := syn.lumaOffset list iRefIdx }, lowByte iDeltaWeight)
  else ({ wp with iWeight := s32 (2 ^ wp.uiLog2WeightDenom), iOffset := 0 }, 0)

/-- The chroma part of the third pass, for component `j` of 1 and 2. -/
def chromaValues (list iRefIdx j : Nat) (wp : WpScalingParam) : WpScalingParam × Nat :=
  if wp.bPresentFlag then
    let iDeltaWeight := syn.deltaChromaWeight list iRefIdx j
    let iWeight := s32 (iDeltaWeight + s32 (2 ^ wp.uiLog2WeightDenom))
    let iDeltaChroma := syn.deltaChromaOffset list iRefIdx j
    let pred := s32 (128 - s32 (128 * iWeight) / 2 ^ wp.uiLog2WeightDenom)
    ({ wp with
        iWeight := iWeight
        iOffset := HevcClip (s32 (iDeltaChroma + pred)) (-128) 127 }, lowByte iDeltaWeight)
  else ({ wp with iWeight := s32 (2 ^ wp.uiLog2WeightDenom), iOffset := 0 }, 0)

def valuePass (list iRefIdx : Nat) (ref : RefWeights) : RefWeights :=
  let values := fun yuv =>
    if yuv = 0 then lumaValues syn list iRefIdx (ref.wp 0)
    else chromaValues syn list iRefIdx yuv (ref.wp yuv)
  { wp := fun yuv => (values yuv).1, weightBuf := fun yuv => (values yuv).2 }

/-- The references behind the last one have no values. -/
def clearPass (ref : RefWeights) : RefWeights :=
  { ref with wp := fun yuv => { ref.wp yuv with bPresentFlag := false } }

def parseList (pSh : HevcSliceHeader) (list : Nat) : HevcSliceHeader :=
  let nNumOfRefs := pSh.nNumOfRefs list
  let indices := List.range nNumOfRefs
  let pSh := indices.foldl (fun pSh i => pSh.update list i (lumaFlagPass syn list i)) pSh
  let pSh := indices.foldl (fun pSh i => pSh.update list i (chromaFlagPass syn list i)) pSh
  let pSh := indices.foldl (fun pSh i => pSh.update list i (valuePass syn list i)) pSh
  (List.range' nNumOfRefs (HEVC_MAX_REFS - nNumOfRefs)).foldl
    (fun pSh i => pSh.update list i clearPass) pSh

def iNbRef (pSh : HevcSliceHeader) : Nat := if pSh.eSliceType = .HEVC_B_SLICE then 2 else 1

def HevcParseWeightTable2 (pSh : HevcSliceHeader) : HevcSliceHeader :=
  (List.range (iNbRef pSh)).foldl (parseList syn) pSh

def initWp (bitDepth : Nat) (pwp : WpScalingParam) : WpScalingParam :=
  let pwp :=
    if pwp.bPresentFlag then pwp
    else { pwp with iWeight := s32 (2 ^ pwp.uiLog2WeightDenom), iOffset := 0 }
  { pwp with
    w := pwp.iWeight
    o := s32 (pwp.iOffset * 2 ^ (bitDepth - 8))
    shift := pwp.uiLog2WeightDenom
    round := if pwp.uiLog2WeightDenom ≥ 1 then s32 (2 ^ (pwp.uiLog2WeightDenom - 1)) else 0 }

def initRef (bitDepthY bitDepthC : Nat) (ref : RefWeights) : RefWeights :=
  { ref with
    wp := fun yuv => initWp (if yuv = 0 then bitDepthY else bitDepthC) (ref.wp yuv) }

def HevcInitWpScaling (bitDepthY bitDepthC : Nat) (pSh : HevcSliceHeader) : HevcSliceHeader :=
  (List.range 2).foldl (fun pSh e =>
    (List.range HEVC_MAX_REFS).foldl (fun pSh i =>
      pSh.update e i (initRef bitDepthY bitDepthC)) pSh) pSh

structure HevcPPS where
  bWeightedPredFlag : Bool
  bWeightedBipredFlag : Bool

def weighted (pPps : HevcPPS) (pSh : HevcSliceHeader) : Bool :=
  match pSh.eSliceType with
  | .HEVC_B_SLICE => pPps.bWeightedBipredFlag
  | .HEVC_P_SLICE => pPps.bWeightedPredFlag
  | .HEVC_I_SLICE => false

def HevcDecodeSliceHeader (pPps : HevcPPS) (nBitDepthLuma nBitDepthChroma : Nat)
    (pSh : HevcSliceHeader) : HevcSliceHeader :=
  if weighted pPps pSh then
    HevcInitWpScaling nBitDepthLuma nBitDepthChroma (HevcParseWeightTable2 syn pSh)
  else pSh

end Parse

section Registers

variable (pSh : HevcSliceHeader) (list : Nat)

def halfWord (iRefIdx yuv : Nat) : Nat :=
  lowByte (pSh.m_weightPredTable list iRefIdx yuv).iOffset <<< 8 |||
    pSh.hevc_weight_buf list yuv iRefIdx % 256

def lumaWord (k : Nat) : Nat :=
  if 2 * k + 1 < pSh.nNumOfRefs list then
    halfWord pSh list (2 * k + 1) 0 <<< 16 ||| halfWord pSh list (2 * k) 0
  else halfWord pSh list (2 * k) 0

def chromaWord (iRefIdx : Nat) : Nat :=
  halfWord pSh list iRefIdx 2 <<< 16 ||| halfWord pSh list iRefIdx 1

def lumaWords : List Nat := (List.range ((pSh.nNumOfRefs list + 1) / 2)).map (lumaWord pSh list)

/-- The chroma loop goes in steps of two references as well. -/
def chromaWords : List Nat :=
  (List.range ((pSh.nNumOfRefs list + 1) / 2)).flatMap fun k =>
    chromaWord pSh list (2 * k) ::
      if 2 * k + 1 < pSh.nNumOfRefs list then [chromaWord pSh list (2 * k + 1)] else []

def listWrites : List PortWrite :=
  block (HEVC_WEIGHT_PRED_PARAM_ADDR + 96 * list) (lumaWords pSh list) ++
    block (HEVC_WEIGHT_PRED_PARAM_ADDR + 96 * list + 32) (chromaWords pSh list)

def HevcSetWeightPredReg (pPps : HevcPPS) : List PortWrite :=
  if weighted pPps pSh then (List.range (iNbRef pSh)).flatMap (listWrites pSh) else []

end Registers

section Clause

variable (syn : WeightSyntax)

def ChromaLog2WeightDenom : Nat :=
  (syn.lumaLog2WeightDenom.toNat + syn.deltaChromaLog2WeightDenom).toNat

def lumaDelta (list i : Nat) : Int :=
  if syn.lumaWeightFlag list i then syn.deltaLumaWeight list i else 0

def lumaOffsetLx (list i : Nat) : Int :=
  if syn.lumaWeightFlag list i then syn.lumaOffset list i else 0

def chromaDelta (list i j : Nat) : Int :=
  if syn.chromaWeightFlag list i then syn.deltaChromaWeight list i j else 0

/-- `ChromaWeightLX`. -/
def chromaWeight (list i j : Nat) : Int := 2 ^ ChromaLog2WeightDenom syn + chromaDelta syn list i j

/-- `ChromaOffsetLX` of clause 7.4.7.3. -/
def chromaOffset (list i j : Nat) : Int :=
  if syn.chromaWeightFlag list i then
    max (-128) (min 127 (128 + syn.deltaChromaOffset list i j -
      128 * chromaWeight syn list i j / 2 ^ ChromaLog2WeightDenom syn))
  else 0

def signedByte (byte : Nat) : Int := if byte < 128 then byte else (byte : Int) - 256

structure WeightsInPlace (pSh : HevcSliceHeader) (port : Port) : Prop where
  luma : ∀ list < iNbRef pSh, ∀ i < pSh.nNumOfRefs list,
    signedByte (port.byteAt (96 * list + 2 * i)) = lumaDelta syn list i ∧
      signedByte (port.byteAt (96 * list + 2 * i + 1)) = lumaOffsetLx syn list i
  chroma : ∀ list < iNbRef pSh, ∀ i < pSh.nNumOfRefs list, ∀ j < 2,
    signedByte (port.byteAt (96 * list + 32 + 4 * i + 2 * j)) = chromaDelta syn list i (j + 1) ∧
      signedByte (port.byteAt (96 * list + 32 + 4 * i + 2 * j + 1)) =
        chromaOffset syn list i (j + 1)

def InS8 (value : Int) : Prop := -128 ≤ value ∧ value ≤ 127

/-- The values of the table are in the ranges of the standard. -/
structure TableValid : Prop where
  lumaDenom : syn.lumaLog2WeightDenom.toNat ≤ 7
  chromaDenom : 0 ≤ syn.lumaLog2WeightDenom.toNat + syn.deltaChromaLog2WeightDenom ∧
    syn.lumaLog2WeightDenom.toNat + syn.deltaChromaLog2WeightDenom ≤ 7
  lumaWeights : ∀ list i, InS8 (syn.deltaLumaWeight list i)
  lumaOffsets : ∀ list i, InS8 (syn.lumaOffset list i)
  chromaWeights : ∀ list i j, InS8 (syn.deltaChromaWeight list i j)
  chromaOffsets : ∀ list i j, -512 ≤ syn.deltaChromaOffset list i j ∧
    syn.deltaChromaOffset list i j ≤ 511

end Clause

section Passes

variable {pSh : HevcSliceHeader} {list : Nat}

theorem update_ref (pSh : HevcSliceHeader) (list iRefIdx : Nat)
    (change : RefWeights → RefWeights) (e i : Nat) :
    (pSh.update list iRefIdx change).refAt e i =
      if e = list ∧ i = iRefIdx then change (pSh.refAt list iRefIdx) else pSh.refAt e i := by
  unfold HevcSliceHeader.update
  conv_lhs => unfold HevcSliceHeader.refAt
  dsimp only
  split_ifs <;> rfl

theorem pass_refs (change : Nat → RefWeights → RefWeights) (indices : List Nat)
    (distinct : indices.Nodup) (pSh : HevcSliceHeader) (e i : Nat) :
    (indices.foldl (fun pSh i => pSh.update list i (change i)) pSh).refAt e i =
      if e = list ∧ i ∈ indices then change i (pSh.refAt list i) else pSh.refAt e i := by
  induction indices generalizing pSh with
  | nil => simp
  | cons index indices ih =>
    rcases nodup_cons.mp distinct with ⟨fresh, distinct⟩
    rw [foldl_cons, ih distinct, update_ref, update_ref]
    simp only [mem_cons]
    by_cases first : i = index
    · subst first
      simp [fresh]
    · simp [first]

theorem pass_keeps (change : Nat → RefWeights → RefWeights) (indices : List Nat)
    (pSh : HevcSliceHeader) :
    (indices.foldl (fun pSh i => pSh.update list i (change i)) pSh).nNumOfRefs = pSh.nNumOfRefs ∧
      (indices.foldl (fun pSh i => pSh.update list i (change i)) pSh).eSliceType =
        pSh.eSliceType := by
  induction indices generalizing pSh with
  | nil => exact ⟨rfl, rfl⟩
  | cons index indices ih => exact ih _

variable (syn : WeightSyntax)

def passes (list i : Nat) (ref : RefWeights) : RefWeights :=
  valuePass syn list i (chromaFlagPass syn list i (lumaFlagPass syn list i ref))

theorem parse_list_keeps (pSh : HevcSliceHeader) (list : Nat) :
    (parseList syn pSh list).nNumOfRefs = pSh.nNumOfRefs ∧
      (parseList syn pSh list).eSliceType = pSh.eSliceType := by
  unfold parseList
  dsimp only
  constructor
  · rw [(pass_keeps (fun _ => clearPass) _ _).1, (pass_keeps (valuePass syn list) _ _).1,
      (pass_keeps (chromaFlagPass syn list) _ _).1, (pass_keeps (lumaFlagPass syn list) _ _).1]
  · rw [(pass_keeps (fun _ => clearPass) _ _).2, (pass_keeps (valuePass syn list) _ _).2,
      (pass_keeps (chromaFlagPass syn list) _ _).2, (pass_keeps (lumaFlagPass syn list) _ _).2]

theorem parse_list_refs (pSh : HevcSliceHeader) (list e i : Nat) (below : i < pSh.nNumOfRefs e) :
    (parseList syn pSh list).refAt e i =
      if e = list then passes syn list i (pSh.refAt list i) else pSh.refAt e i := by
  unfold parseList passes
  dsimp only
  rw [pass_refs (fun _ => clearPass) _ nodup_range', pass_refs (valuePass syn list) _ nodup_range,
    pass_refs (valuePass syn list) _ nodup_range, pass_refs (chromaFlagPass syn list) _ nodup_range,
    pass_refs (chromaFlagPass syn list) _ nodup_range,
    pass_refs (lumaFlagPass syn list) _ nodup_range,
    pass_refs (lumaFlagPass syn list) _ nodup_range]
  by_cases same : e = list
  · subst same
    have inside : i ∈ List.range (pSh.nNumOfRefs e) := mem_range.mpr below
    have before : ¬ i ∈ List.range' (pSh.nNumOfRefs e) (HEVC_MAX_REFS - pSh.nNumOfRefs e) := by
      rw [mem_range'_1]
      omega
    simp only [inside, before, and_true, and_false, if_true, if_false]
  · simp only [same, false_and, if_false]

theorem parse_refs (lists : Nat) (pSh : HevcSliceHeader) (e i : Nat)
    (below : i < pSh.nNumOfRefs e) :
    ((List.range lists).foldl (parseList syn) pSh).refAt e i =
        (if e < lists then passes syn e i (pSh.refAt e i) else pSh.refAt e i) ∧
      ((List.range lists).foldl (parseList syn) pSh).nNumOfRefs = pSh.nNumOfRefs ∧
      ((List.range lists).foldl (parseList syn) pSh).eSliceType = pSh.eSliceType := by
  induction lists with
  | zero => exact ⟨rfl, rfl, rfl⟩
  | succ lists ih =>
    rcases ih with ⟨refs, counts, type⟩
    rw [range_succ, foldl_append, foldl_cons, foldl_nil]
    refine ⟨?_, ?_, ?_⟩
    · rw [parse_list_refs _ _ _ _ _ (by rw [counts]; exact below)]
      by_cases last : e = lists
      · subst last
        rw [refs, if_pos rfl, if_neg (Nat.lt_irrefl _), if_pos (Nat.lt_succ_self _)]
      · rw [if_neg last, refs]
        have same : e < lists ↔ e < lists + 1 := by omega
        simp only [same]
    · rw [(parse_list_keeps _ _ _).1, counts]
    · rw [(parse_list_keeps _ _ _).2, type]

theorem init_refs (bitDepthY bitDepthC : Nat) (pSh : HevcSliceHeader) {e i : Nat} (lists : e < 2)
    (few : i < HEVC_MAX_REFS) :
    (HevcInitWpScaling bitDepthY bitDepthC pSh).refAt e i =
        initRef bitDepthY bitDepthC (pSh.refAt e i) := by
  have inside : i ∈ List.range HEVC_MAX_REFS := mem_range.mpr few
  unfold HevcInitWpScaling
  rw [show List.range 2 = [0, 1] from rfl, foldl_cons, foldl_cons, foldl_nil,
    pass_refs (fun _ => initRef bitDepthY bitDepthC) _ nodup_range,
    pass_refs (fun _ => initRef bitDepthY bitDepthC) _ nodup_range,
    pass_refs (fun _ => initRef bitDepthY bitDepthC) _ nodup_range]
  have either : e = 0 ∨ e = 1 := by omega
  rcases either with rfl | rfl <;> simp [inside]

theorem init_keeps (bitDepthY bitDepthC : Nat) (pSh : HevcSliceHeader) :
    (HevcInitWpScaling bitDepthY bitDepthC pSh).nNumOfRefs = pSh.nNumOfRefs ∧
      (HevcInitWpScaling bitDepthY bitDepthC pSh).eSliceType = pSh.eSliceType := by
  unfold HevcInitWpScaling
  rw [show List.range 2 = [0, 1] from rfl, foldl_cons, foldl_cons, foldl_nil]
  constructor
  · rw [(pass_keeps (fun _ => initRef bitDepthY bitDepthC) _ _).1,
      (pass_keeps (fun _ => initRef bitDepthY bitDepthC) _ _).1]
  · rw [(pass_keeps (fun _ => initRef bitDepthY bitDepthC) _ _).2,
      (pass_keeps (fun _ => initRef bitDepthY bitDepthC) _ _).2]

end Passes

section Values

variable {syn : WeightSyntax} {bitDepthY bitDepthC : Nat}

theorem init_offset (bitDepth : Nat) (pwp : WpScalingParam) :
    (initWp bitDepth pwp).iOffset = if pwp.bPresentFlag then pwp.iOffset else 0 := by
  unfold initWp
  dsimp only
  split_ifs <;> rfl

theorem luma_ref (list i : Nat) (ref : RefWeights) :
    ((initRef bitDepthY bitDepthC (passes syn list i ref)).wp 0).iOffset = lumaOffsetLx syn list i ∧
      (initRef bitDepthY bitDepthC (passes syn list i ref)).weightBuf 0 =
        lowByte (lumaDelta syn list i) := by
  unfold initRef
  dsimp only
  rw [init_offset]
  unfold passes valuePass chromaFlagPass lumaFlagPass lumaValues lumaOffsetLx lumaDelta
  dsimp only
  cases flag : syn.lumaWeightFlag list i with
  | true => simp
  | false => simp [lowByte]

theorem clip_between (value : Int) : HevcClip value (-128) 127 = max (-128) (min 127 value) := by
  unfold HevcClip
  split_ifs <;> omega

theorem chroma_arithmetic {denom : Nat} (small : denom ≤ 7) {delta offset : Int}
    (weights : InS8 delta) (offsets : -512 ≤ offset ∧ offset ≤ 511) :
    HevcClip (s32 (offset + s32 (128 - s32 (128 * s32 (delta + s32 (2 ^ denom))) / 2 ^ denom)))
        (-128) 127 =
      max (-128) (min 127 (128 + offset - 128 * (2 ^ denom + delta) / 2 ^ denom)) := by
  rcases weights with ⟨low, high⟩
  rw [clip_between]
  congr 2
  unfold s32
  interval_cases denom <;> norm_num only <;> omega

theorem chroma_denom (valid : TableValid syn) :
    uiLog2WeightDenomChroma syn = ChromaLog2WeightDenom syn ∧ ChromaLog2WeightDenom syn ≤ 7 := by
  have range := valid.chromaDenom
  unfold uiLog2WeightDenomChroma ChromaLog2WeightDenom uiLog2WeightDenomLuma u32
  omega

theorem chroma_ref (valid : TableValid syn) (list i : Nat) (ref : RefWeights) {j : Nat}
    (chroma : j ≠ 0) :
    ((initRef bitDepthY bitDepthC (passes syn list i ref)).wp j).iOffset =
        chromaOffset syn list i j ∧
      (initRef bitDepthY bitDepthC (passes syn list i ref)).weightBuf j =
        lowByte (chromaDelta syn list i j) := by
  rcases chroma_denom valid with ⟨denom, small⟩
  unfold initRef
  dsimp only
  rw [init_offset]
  unfold passes valuePass chromaFlagPass lumaFlagPass chromaValues
  simp only [if_neg chroma]
  unfold chromaOffset chromaWeight chromaDelta
  cases flag : syn.chromaWeightFlag list i with
  | true =>
    rw [if_pos rfl, if_pos rfl, if_pos rfl, if_pos rfl, denom]
    exact ⟨chroma_arithmetic small (valid.chromaWeights list i j)
      (valid.chromaOffsets list i j), rfl⟩
  | false => simp [lowByte]

end Values

section Words

variable {pSh : HevcSliceHeader} {port : Port} {list : Nat}

theorem low_byte_lt (value : Int) : lowByte value < 256 := by
  unfold lowByte
  omega

theorem signed_low_byte {value : Int} (range : InS8 value) : signedByte (lowByte value) = value := by
  unfold InS8 at range
  unfold signedByte lowByte
  split_ifs <;> omega

theorem half_word (iRefIdx yuv : Nat) : halfWord pSh list iRefIdx yuv =
      lowByte (pSh.m_weightPredTable list iRefIdx yuv).iOffset * 256 +
        pSh.hevc_weight_buf list yuv iRefIdx % 256 := by
  have small : pSh.hevc_weight_buf list yuv iRefIdx % 256 < 2 ^ 8 := Nat.mod_lt _ (by decide)
  unfold halfWord
  rw [← Nat.shiftLeft_add_eq_or_of_lt small, Nat.shiftLeft_eq]

theorem half_word_lt (iRefIdx yuv : Nat) : halfWord pSh list iRefIdx yuv < 2 ^ 16 := by
  have offset := low_byte_lt (pSh.m_weightPredTable list iRefIdx yuv).iOffset
  rw [half_word]
  omega

theorem pair_word (high iRefIdx yuv : Nat) : high <<< 16 ||| halfWord pSh list iRefIdx yuv =
      high * 65536 + halfWord pSh list iRefIdx yuv := by
  rw [← Nat.shiftLeft_add_eq_or_of_lt (half_word_lt iRefIdx yuv), Nat.shiftLeft_eq]

theorem pairs_flat (words : Nat → Nat) (pairs : Nat) :
    ((List.range pairs).flatMap fun k => [words (2 * k), words (2 * k + 1)]) =
      (List.range (2 * pairs)).map words := by
  induction pairs with
  | zero => rfl
  | succ pairs ih =>
    rw [range_succ, flatMap_append, ih,
      show 2 * (pairs + 1) = 2 * pairs + 1 + 1 by omega, range_succ, range_succ]
    simp

theorem chroma_words : chromaWords pSh list =
    (List.range (pSh.nNumOfRefs list)).map (chromaWord pSh list) := by
  unfold chromaWords
  generalize pSh.nNumOfRefs list = count
  have whole : ∀ pairs ≤ count / 2, ((List.range pairs).flatMap fun k =>
      chromaWord pSh list (2 * k) ::
        if 2 * k + 1 < count then [chromaWord pSh list (2 * k + 1)] else []) =
      (List.range (2 * pairs)).map (chromaWord pSh list) := by
    intro pairs most
    rw [← pairs_flat]
    apply flatMap_congr
    intro k member
    have below := mem_range.mp member
    rw [if_pos (by omega)]
  by_cases even : count % 2 = 0
  · rw [show (count + 1) / 2 = count / 2 by omega, whole _ (Nat.le_refl _),
      show 2 * (count / 2) = count by omega]
  · rw [show (count + 1) / 2 = count / 2 + 1 by omega, range_succ, flatMap_append,
      whole _ (Nat.le_refl _)]
    conv_rhs => rw [show count = 2 * (count / 2) + 1 by omega, range_succ, map_append]
    have last : ¬ 2 * (count / 2) + 1 < count := by omega
    simp [last]

structure ListWords (pSh : HevcSliceHeader) (port : Port) (list : Nat) : Prop where
  luma : ∀ k < (pSh.nNumOfRefs list + 1) / 2, port.words (96 * list + 4 * k) = lumaWord pSh list k
  chroma : ∀ i < pSh.nNumOfRefs list, port.words (96 * list + 32 + 4 * i) = chromaWord pSh list i

theorem list_writes_inside (port : Port) (few : pSh.nNumOfRefs list ≤ HEVC_MAX_REFS) :
    ListWords pSh (port.run (listWrites pSh list)) list := by
  unfold HEVC_MAX_REFS at few
  have luma_length : (lumaWords pSh list).length = (pSh.nNumOfRefs list + 1) / 2 := by
    simp [lumaWords]
  unfold listWrites HEVC_WEIGHT_PRED_PARAM_ADDR
  rw [run_append, Nat.zero_add]
  constructor
  · intro k below
    rw [block_outside _ _ (Or.inl (by omega)), block_inside _ _ (by omega)]
    unfold lumaWords
    rw [getD_eq_getElem _ _ (by simpa using below), getElem_map, getElem_range]
  · intro i below
    rw [block_inside _ _ (by rw [chroma_words]; simpa using below), chroma_words,
      getD_eq_getElem _ _ (by simpa using below), getElem_map, getElem_range]

theorem list_writes_outside (port : Port) {addr : Nat} (before : addr < 96 * list) :
    (port.run (listWrites pSh list)).words addr = port.words addr := by
  unfold listWrites HEVC_WEIGHT_PRED_PARAM_ADDR
  rw [run_append, Nat.zero_add, block_outside _ _ (Or.inl (by omega)),
    block_outside _ _ (Or.inl before)]

theorem all_lists (port : Port) (lists : Nat)
    (few : ∀ list < lists, pSh.nNumOfRefs list ≤ HEVC_MAX_REFS) :
    ∀ list < lists, ListWords pSh
      (port.run ((List.range lists).flatMap (listWrites pSh))) list := by
  induction lists with
  | zero => exact fun list none => absurd none (Nat.not_lt_zero list)
  | succ lists ih =>
    intro list below
    rw [range_succ, flatMap_append, run_append, flatMap_singleton]
    by_cases last : list = lists
    · rw [last]
      exact list_writes_inside _ (few lists (Nat.lt_succ_self lists))
    · have earlier := ih (fun other before => few other (Nat.lt_succ_of_lt before)) list
        (by omega)
      have counted := few list below
      unfold HEVC_MAX_REFS at counted
      constructor
      · intro k inside
        rw [list_writes_outside _ (by omega)]
        exact earlier.luma k inside
      · intro i inside
        rw [list_writes_outside _ (by omega)]
        exact earlier.chroma i inside

/-- The two bytes of a reference from an address on. -/
def BytesAt (port : Port) (addr : Nat) (pSh : HevcSliceHeader) (list iRefIdx yuv : Nat) : Prop :=
  port.byteAt addr = pSh.hevc_weight_buf list yuv iRefIdx % 256 ∧
    port.byteAt (addr + 1) = lowByte (pSh.m_weightPredTable list iRefIdx yuv).iOffset

theorem low_half {addr high iRefIdx yuv : Nat} (aligned : addr % 4 = 0)
    (word : port.words addr = high * 65536 + halfWord pSh list iRefIdx yuv) :
    BytesAt port addr pSh list iRefIdx yuv := by
  have offset := low_byte_lt (pSh.m_weightPredTable list iRefIdx yuv).iOffset
  have small : pSh.hevc_weight_buf list yuv iRefIdx % 256 < 256 := Nat.mod_lt _ (by decide)
  rw [half_word] at word
  unfold BytesAt Port.byteAt
  rw [show 4 * (addr / 4) = addr by omega, show 4 * ((addr + 1) / 4) = addr by omega, word,
    aligned, show (addr + 1) % 4 = 1 by omega]
  omega

theorem high_half {addr low iRefIdx yuv : Nat} (aligned : addr % 4 = 0) (small : low < 65536)
    (word : port.words addr = halfWord pSh list iRefIdx yuv * 65536 + low) :
    BytesAt port (addr + 2) pSh list iRefIdx yuv := by
  have offset := low_byte_lt (pSh.m_weightPredTable list iRefIdx yuv).iOffset
  have byte : pSh.hevc_weight_buf list yuv iRefIdx % 256 < 256 := Nat.mod_lt _ (by decide)
  rw [half_word] at word
  unfold BytesAt Port.byteAt
  rw [show 4 * ((addr + 2) / 4) = addr by omega, show 4 * ((addr + 2 + 1) / 4) = addr by omega,
    word, show (addr + 2) % 4 = 2 by omega, show (addr + 2 + 1) % 4 = 3 by omega]
  omega

theorem luma_bytes (words : ListWords pSh port list) {i : Nat} (below : i < pSh.nNumOfRefs list) :
    BytesAt port (96 * list + 2 * i) pSh list i 0 := by
  have word := words.luma (i / 2) (by omega)
  unfold lumaWord at word
  rw [pair_word] at word
  by_cases even : i % 2 = 0
  · have first : 2 * (i / 2) = i := by omega
    have place : 96 * list + 4 * (i / 2) = 96 * list + 2 * i := by omega
    rw [first, place] at word
    split_ifs at word
    · exact low_half (by omega) word
    · apply @low_half _ _ _ _ 0 _ _ (by omega)
      rw [Nat.zero_mul, Nat.zero_add]
      exact word
  · have second : 2 * (i / 2) + 1 = i := by omega
    have place : 96 * list + 2 * i = 96 * list + 4 * (i / 2) + 2 := by omega
    rw [second, if_pos below] at word
    rw [place]
    exact high_half (by omega) (half_word_lt _ _) word

theorem chroma_bytes (words : ListWords pSh port list) {i : Nat} (below : i < pSh.nNumOfRefs list) :
    BytesAt port (96 * list + 32 + 4 * i) pSh list i 1 ∧
      BytesAt port (96 * list + 32 + 4 * i + 2) pSh list i 2 := by
  have word := words.chroma i below
  unfold chromaWord at word
  rw [pair_word] at word
  exact ⟨low_half (by omega) word, high_half (by omega) (half_word_lt _ _) word⟩

end Words

section Result

variable {syn : WeightSyntax} {pSh : HevcSliceHeader} {pPps : HevcPPS}

theorem slice_tables (valid : TableValid syn)
    (few : ∀ list < iNbRef pSh, pSh.nNumOfRefs list ≤ HEVC_MAX_REFS)
    (coded : weighted pPps pSh = true) (bitDepthY bitDepthC : Nat) {list i : Nat}
    (lists : list < iNbRef pSh) (below : i < pSh.nNumOfRefs list) :
    ((HevcDecodeSliceHeader syn pPps bitDepthY bitDepthC pSh).m_weightPredTable list i 0).iOffset =
        lumaOffsetLx syn list i ∧
      (HevcDecodeSliceHeader syn pPps bitDepthY bitDepthC pSh).hevc_weight_buf list 0 i =
        lowByte (lumaDelta syn list i) ∧
      ∀ j ≠ 0, ((HevcDecodeSliceHeader syn pPps bitDepthY bitDepthC pSh).m_weightPredTable
          list i j).iOffset = chromaOffset syn list i j ∧
        (HevcDecodeSliceHeader syn pPps bitDepthY bitDepthC pSh).hevc_weight_buf list j i =
          lowByte (chromaDelta syn list i j) := by
  have two : list < 2 := by
    unfold iNbRef at lists
    split_ifs at lists <;> omega
  have table : (HevcDecodeSliceHeader syn pPps bitDepthY bitDepthC pSh).refAt list i =
      initRef bitDepthY bitDepthC (passes syn list i (pSh.refAt list i)) := by
    unfold HevcDecodeSliceHeader HevcParseWeightTable2
    rw [if_pos coded, init_refs _ _ _ two (below.trans_le (few list lists)),
      (parse_refs syn (iNbRef pSh) pSh list i below).1, if_pos lists]
  have luma := @luma_ref syn bitDepthY bitDepthC list i (pSh.refAt list i)
  rw [← table] at luma
  refine ⟨luma.1, luma.2, ?_⟩
  intro j chroma
  have values := @chroma_ref syn bitDepthY bitDepthC valid list i (pSh.refAt list i) j chroma
  rw [← table] at values
  exact values

theorem slice_keeps (bitDepthY bitDepthC : Nat) :
    (HevcDecodeSliceHeader syn pPps bitDepthY bitDepthC pSh).nNumOfRefs = pSh.nNumOfRefs ∧
      (HevcDecodeSliceHeader syn pPps bitDepthY bitDepthC pSh).eSliceType = pSh.eSliceType := by
  have lists : ∀ count, ((List.range count).foldl (parseList syn) pSh).nNumOfRefs = pSh.nNumOfRefs ∧
      ((List.range count).foldl (parseList syn) pSh).eSliceType = pSh.eSliceType := by
    intro count
    induction count with
    | zero => exact ⟨rfl, rfl⟩
    | succ count ih =>
      rw [range_succ, foldl_append, foldl_cons, foldl_nil]
      rw [(parse_list_keeps syn _ _).1, (parse_list_keeps syn _ _).2]
      exact ih
  unfold HevcDecodeSliceHeader HevcParseWeightTable2
  split_ifs
  · rw [(init_keeps _ _ _).1, (init_keeps _ _ _).2]
    exact lists _
  · exact ⟨rfl, rfl⟩

theorem chroma_offset_range (list i j : Nat) : InS8 (chromaOffset syn list i j) := by
  unfold InS8 chromaOffset
  split_ifs <;> omega

theorem deltas_in_range (valid : TableValid syn) (list i : Nat) :
    InS8 (lumaDelta syn list i) ∧ InS8 (lumaOffsetLx syn list i) ∧
      ∀ j, InS8 (chromaDelta syn list i j) := by
  have none : InS8 0 := by
    unfold InS8
    decide
  unfold lumaDelta lumaOffsetLx chromaDelta
  refine ⟨?_, ?_, ?_⟩
  · split_ifs
    · exact valid.lumaWeights list i
    · exact none
  · split_ifs
    · exact valid.lumaOffsets list i
    · exact none
  · intro j
    split_ifs
    · exact valid.chromaWeights list i j
    · exact none

theorem bytes_signed {port : Port} {addr list i yuv : Nat} {delta offset : Int}
    (bytes : BytesAt port addr pSh list i yuv)
    (weight : pSh.hevc_weight_buf list yuv i = lowByte delta)
    (stored : (pSh.m_weightPredTable list i yuv).iOffset = offset)
    (small : InS8 delta) (near : InS8 offset) :
    signedByte (port.byteAt addr) = delta ∧ signedByte (port.byteAt (addr + 1)) = offset := by
  rcases bytes with ⟨low, high⟩
  rw [low, high, weight, stored, Nat.mod_eq_of_lt (low_byte_lt delta)]
  exact ⟨signed_low_byte small, signed_low_byte near⟩

/-- After the registers of a slice with a weight table are set, the SRAM has the delta weights and
the offsets of its references, whatever the tables and the SRAM had before. -/
theorem weights_in_place (valid : TableValid syn) (coded : weighted pPps pSh = true)
    (few : ∀ list < iNbRef pSh, pSh.nNumOfRefs list ≤ HEVC_MAX_REFS)
    (nBitDepthLuma nBitDepthChroma : Nat) (port : Port) :
    WeightsInPlace syn pSh (port.run (HevcSetWeightPredReg
      (HevcDecodeSliceHeader syn pPps nBitDepthLuma nBitDepthChroma pSh) pPps)) := by
  rcases @slice_keeps syn pSh pPps nBitDepthLuma nBitDepthChroma with ⟨counts, type⟩
  have tables := @slice_tables syn pSh pPps valid few coded nBitDepthLuma nBitDepthChroma
  generalize HevcDecodeSliceHeader syn pPps nBitDepthLuma nBitDepthChroma pSh = decoded
    at counts type tables ⊢
  have again : weighted pPps decoded = true := by
    unfold weighted at coded ⊢
    rw [type]
    exact coded
  have lists : iNbRef decoded = iNbRef pSh := by
    unfold iNbRef
    rw [type]
  unfold HevcSetWeightPredReg
  rw [if_pos again, lists]
  have words := all_lists port (iNbRef pSh) (by rw [counts]; exact few)
  constructor
  · intro list used i below
    rcases tables used below with ⟨offset, weight, _⟩
    rcases deltas_in_range valid list i with ⟨small, near, _⟩
    exact bytes_signed (luma_bytes (words list used) (by rw [counts]; exact below)) weight offset
      small near
  · intro list used i below j component
    rcases tables used below with ⟨_, _, chroma⟩
    rcases chroma (j + 1) (Nat.succ_ne_zero j) with ⟨offset, weight⟩
    have small := (deltas_in_range valid list i).2.2 (j + 1)
    rcases chroma_bytes (words list used) (by rw [counts]; exact below) with ⟨first, second⟩
    interval_cases j
    · exact bytes_signed first weight offset small (chroma_offset_range list i 1)
    · exact bytes_signed second weight offset small (chroma_offset_range list i 2)

def threeRefs : HevcSliceHeader where
  eSliceType := .HEVC_P_SLICE
  nNumOfRefs list := if list = 0 then 3 else 0
  m_weightPredTable _ _ _ := ⟨true, 7, 99, 99, 0, 0, 0, 0⟩
  hevc_weight_buf _ _ _ := 99

def secondWeighted : WeightSyntax where
  lumaLog2WeightDenom := 6
  deltaChromaLog2WeightDenom := -1
  lumaWeightFlag _ i := i = 1
  chromaWeightFlag _ i := i = 1
  deltaLumaWeight _ _ := -5
  lumaOffset _ _ := -128
  deltaChromaWeight _ _ _ := 7
  deltaChromaOffset _ _ _ := 511

theorem second_weighted_valid : TableValid secondWeighted := by
  have luma : InS8 (-5) := ⟨by decide, by decide⟩
  have offset : InS8 (-128) := ⟨by decide, by decide⟩
  have chroma : InS8 7 := ⟨by decide, by decide⟩
  have large : (-512 : Int) ≤ 511 ∧ (511 : Int) ≤ 511 := by decide
  constructor
  · decide
  · decide
  · exact fun _ _ => luma
  · exact fun _ _ => offset
  · exact fun _ _ _ => chroma
  · exact fun _ _ _ => large

theorem three_refs_in_place :
    WeightsInPlace secondWeighted threeRefs ((⟨0, fun _ => 0⟩ : Port).run (HevcSetWeightPredReg
      (HevcDecodeSliceHeader secondWeighted ⟨true, false⟩ 8 8 threeRefs) ⟨true, false⟩)) :=
  weights_in_place second_weighted_valid rfl (by decide) 8 8 _

end Result

end CedarC.H265WeightPred
