import CedarC.FixedWidth
import Mathlib.Data.Fin.VecNotation
import Mathlib.Data.Fintype.Basic

/-!
# H.264 scaling lists

`H264DecodeScalingList` and `H264DecodeScalingMatrices` beside clauses 7.3.2.1.1.1,
7.4.2.1.1 and table 7-2. The decoder keeps its matrices in raster order and the clauses
their lists in zig-zag order; `weightScale` goes from the second to the first.
-/

namespace CedarC.H264

/-- One list of a NAL unit: its flag and, by place, the `delta_scale` values. -/
abbrev ScalingListSyntax := Option (Nat → Int)

/-- The lists of a matrix syntax in the order they are sent, six 4x4 and two 8x8 ones. -/
abbrev ScalingMatrixSyntax := Fin 8 → ScalingListSyntax

/-- The zig-zag scan of a square of this side, as raster positions. -/
def zigzag (side : Nat) : List Nat :=
  (List.range (2 * side - 1)).flatMap fun diagonal =>
    let rows := (List.range side).filter fun y => y ≤ diagonal ∧ diagonal - y < side
    (if diagonal % 2 = 0 then rows.reverse else rows).map fun y => diagonal - y + y * side

def weightScale (side : Nat) (list : Nat → Nat) (position : Nat) : Nat :=
  list ((zigzag side).idxOf position)

/-- `lastScale` and `nextScale` before an entry. -/
def scales (deltas : Nat → Int) : Nat → Nat × Nat
  | 0 => (8, 8)
  | j + 1 =>
    let (lastScale, nextScale) := scales deltas j
    let nextScale :=
      if nextScale ≠ 0 then ((lastScale + deltas j + 256) % 256).toNat else nextScale
    (if nextScale = 0 then lastScale else nextScale, nextScale)

def scalingList (deltas : Nat → Int) (j : Nat) : Nat := (scales deltas (j + 1)).1

def useDefaultScalingMatrix (deltas : Nat → Int) : Bool := (scales deltas 1).2 = 0

def Default_4x4_Intra : List Nat := [6, 13, 13, 20, 20, 20, 28, 28, 28, 28, 32, 32, 32, 37, 37, 42]

def Default_4x4_Inter : List Nat := [10, 14, 14, 20, 20, 20, 24, 24, 24, 24, 27, 27, 27, 30, 30, 34]

def Default_8x8_Intra : List Nat :=
  [6, 10, 10, 13, 11, 13, 16, 16, 16, 16, 18, 18, 18, 18, 18, 23,
    23, 23, 23, 23, 23, 25, 25, 25, 25, 25, 25, 25, 27, 27, 27, 27,
    27, 27, 27, 27, 29, 29, 29, 29, 29, 29, 29, 31, 31, 31, 31, 31,
    31, 33, 33, 33, 33, 33, 36, 36, 36, 36, 38, 38, 38, 40, 40, 42]

def Default_8x8_Inter : List Nat :=
  [9, 13, 13, 15, 13, 15, 17, 17, 17, 17, 19, 19, 19, 19, 19, 21,
    21, 21, 21, 21, 21, 22, 22, 22, 22, 22, 22, 22, 24, 24, 24, 24,
    24, 24, 24, 24, 25, 25, 25, 25, 25, 25, 25, 27, 27, 27, 27, 27,
    27, 28, 28, 28, 28, 28, 30, 30, 30, 30, 32, 32, 32, 33, 33, 35]

/-- Lists in zig-zag order, the last two of 64 entries. -/
abbrev ScalingLists := Fin 8 → Nat → Nat

structure FallBack where
  intra4 : Nat → Nat
  inter4 : Nat → Nat
  intra8 : Nat → Nat
  inter8 : Nat → Nat

def fallBackRuleA : FallBack where
  intra4 := (Default_4x4_Intra.getD · 0)
  inter4 := (Default_4x4_Inter.getD · 0)
  intra8 := (Default_8x8_Intra.getD · 0)
  inter8 := (Default_8x8_Inter.getD · 0)

def fallBackRuleB (lists : ScalingLists) : FallBack where
  intra4 := lists 0
  inter4 := lists 3
  intra8 := lists 6
  inter8 := lists 7

def listOf (sent : ScalingListSyntax) (default fallback : Nat → Nat) : Nat → Nat :=
  match sent with
  | none => fallback
  | some deltas => if useDefaultScalingMatrix deltas then default else scalingList deltas

def listsOf (sent : ScalingMatrixSyntax) (rule : FallBack) : ScalingLists :=
  let default := fallBackRuleA
  let intraY := listOf (sent 0) default.intra4 rule.intra4
  let intraCb := listOf (sent 1) default.intra4 intraY
  let intraCr := listOf (sent 2) default.intra4 intraCb
  let interY := listOf (sent 3) default.inter4 rule.inter4
  let interCb := listOf (sent 4) default.inter4 interY
  let interCr := listOf (sent 5) default.inter4 interCb
  ![intraY, intraCb, intraCr, interY, interCb, interCr,
    listOf (sent 6) default.intra8 rule.intra8, listOf (sent 7) default.inter8 rule.inter8]

/-- `Flat_4x4_16` and `Flat_8x8_16`. -/
def flatLists : ScalingLists := fun _ _ => 16

def seqLists (sps : Option ScalingMatrixSyntax) : ScalingLists :=
  match sps with
  | none => flatLists
  | some sent => listsOf sent fallBackRuleA

/-- Clause 7.4.2.1.1 with 7.4.2.2: the lists of a slice by what its parameter sets carry. -/
def picLists (sps pps : Option ScalingMatrixSyntax) : ScalingLists :=
  match pps with
  | none => seqLists sps
  | some sent => listsOf sent (if sps.isNone then fallBackRuleA else fallBackRuleB (seqLists sps))

def default_scaling4 : Fin 2 → Fin 16 → UInt8 := ![
  ![6, 13, 20, 28, 13, 20, 28, 32, 20, 28, 32, 37, 28, 32, 37, 42],
  ![10, 14, 20, 24, 14, 20, 24, 27, 20, 24, 27, 30, 24, 27, 30, 34]]

def default_scaling8 : Fin 2 → Fin 64 → UInt8 := ![
  ![6, 10, 13, 16, 18, 23, 25, 27, 10, 11, 16, 18, 23, 25, 27, 29, 13, 16, 18, 23, 25, 27, 29, 31,
    16, 18, 23, 25, 27, 29, 31, 33,
    18, 23, 25, 27, 29, 31, 33, 36,
    23, 25, 27, 29, 31, 33, 36, 38,
    25, 27, 29, 31, 33, 36, 38, 40,
    27, 29, 31, 33, 36, 38, 40, 42],
  ![9, 13, 15, 17, 19, 21, 22, 24, 13, 13, 17, 19, 21, 22, 24, 25, 15, 17, 19, 21, 22, 24, 25, 27,
    17, 19, 21, 22, 24, 25, 27, 28,
    19, 21, 22, 24, 25, 27, 28, 30,
    21, 22, 24, 25, 27, 28, 30, 32,
    22, 24, 25, 27, 28, 30, 32, 33,
    24, 25, 27, 28, 30, 32, 33, 35]]

def zigzag_scan : Fin 16 → Fin 16 := ![
  0+0*4, 1+0*4, 0+1*4, 0+2*4,
  1+1*4, 2+0*4, 3+0*4, 2+1*4,
  1+2*4, 0+3*4, 1+3*4, 2+2*4,
  3+1*4, 3+2*4, 2+3*4, 3+3*4]

def zigzag_scan8x8 : Fin 64 → Fin 64 := ![
  0+0*8, 1+0*8, 0+1*8, 0+2*8,
  1+1*8, 2+0*8, 3+0*8, 2+1*8,
  1+2*8, 0+3*8, 0+4*8, 1+3*8,
  2+2*8, 3+1*8, 4+0*8, 5+0*8,
  4+1*8, 3+2*8, 2+3*8, 1+4*8,
  0+5*8, 0+6*8, 1+5*8, 2+4*8,
  3+3*8, 4+2*8, 5+1*8, 6+0*8,
  7+0*8, 6+1*8, 5+2*8, 4+3*8,
  3+4*8, 2+5*8, 1+6*8, 0+7*8,
  1+7*8, 2+6*8, 3+5*8, 4+4*8,
  5+3*8, 6+2*8, 7+1*8, 7+2*8,
  6+3*8, 5+4*8, 4+5*8, 3+6*8,
  2+7*8, 3+7*8, 4+6*8, 5+5*8,
  6+4*8, 7+3*8, 7+4*8, 6+5*8,
  5+6*8, 4+7*8, 5+7*8, 6+6*8,
  7+5*8, 7+6*8, 6+7*8, 7+7*8]

/-- The loop of `H264DecodeScalingList` over the places still to read. -/
def readFactors {size : Nat} (scan : Fin size → Fin size) (deltas : Nat → Int)
    (jvt_list : Fin size → UInt8) :
    List (Fin size) → UInt8 → UInt8 → (Fin size → UInt8) → Fin size → UInt8
  | [], _, _, factors => factors
  | i :: todo, last, next, factors =>
    let next := if next ≠ 0 then UInt8.ofInt (last.toNat + deltas i.val) else next
    if i.val = 0 ∧ next = 0 then jvt_list
    else
      let last := if next ≠ 0 then next else last
      readFactors scan deltas jvt_list todo last next (Function.update factors (scan i) last)

/-- `H264DecodeScalingList`. -/
def decodeScalingList {size : Nat} (scan : Fin size → Fin size) (read : ScalingListSyntax)
    (factors jvt_list fallback_list : Fin size → UInt8) : Fin size → UInt8 :=
  match read with
  | none => fallback_list
  | some deltas => readFactors scan deltas jvt_list (List.finRange size) 8 8 factors

structure ScalingMatrices where
  nScalingMatrix4 : Fin 6 → Fin 16 → UInt8
  nScalingMatrix8 : Fin 2 → Fin 64 → UInt8

/-- `H264DecodeScalingMatrices`: whether the set carries matrices, and the matrices. -/
def decodeScalingMatrices (read : Option ScalingMatrixSyntax) (isSps bTransform8x8Mode : Bool)
    (bSpsPresent : Bool) (pSps factors : ScalingMatrices) : Bool × ScalingMatrices :=
  let fallbackSps := !isSps && bSpsPresent
  match read with
  | some lists =>
    let fallback0 := if fallbackSps then pSps.nScalingMatrix4 0 else default_scaling4 0
    let fallback1 := if fallbackSps then pSps.nScalingMatrix4 3 else default_scaling4 1
    let fallback2 := if fallbackSps then pSps.nScalingMatrix8 0 else default_scaling8 0
    let fallback3 := if fallbackSps then pSps.nScalingMatrix8 1 else default_scaling8 1
    let list4 (i : Fin 6) (list : Fin 8) :=
      decodeScalingList zigzag_scan (lists list) (factors.nScalingMatrix4 i)
    let intraY := list4 0 0 (default_scaling4 0) fallback0
    let intraCr := list4 1 1 (default_scaling4 0) intraY
    let intraCb := list4 2 2 (default_scaling4 0) intraCr
    let interY := list4 3 3 (default_scaling4 1) fallback1
    let interCr := list4 4 4 (default_scaling4 1) interY
    let interCb := list4 5 5 (default_scaling4 1) interCr
    let list8 (i : Fin 2) (list : Fin 8) :=
      decodeScalingList zigzag_scan8x8 (lists list) (factors.nScalingMatrix8 i)
    (true,
      { nScalingMatrix4 := ![intraY, intraCr, intraCb, interY, interCr, interCb]
        nScalingMatrix8 :=
          if isSps || bTransform8x8Mode then
            ![list8 0 6 (default_scaling8 0) fallback2, list8 1 7 (default_scaling8 1) fallback3]
          else factors.nScalingMatrix8 })
  | none => (false, if fallbackSps then pSps else factors)

section OneList

variable {size side : Nat} {scan : Fin size → Fin size} {deltas : Nat → Int}

/-- The table holds the zig-zag scan of its square. -/
structure Scans (side : Nat) (scan : Fin size → Fin size) : Prop where
  place : ∀ i, (zigzag side).idxOf (scan i).val = i.val
  covers : ∀ position, ∃ i, scan i = position

theorem zigzag_scans : Scans 4 zigzag_scan where
  place := by decide +kernel
  covers := by decide +kernel

theorem zigzag8x8_scans : Scans 8 zigzag_scan8x8 where
  place := by decide
  covers := by decide +kernel

theorem Scans.scan_of_place (scans : Scans side scan) {i position : Fin size}
    (same : (zigzag side).idxOf position.val = i.val) : scan i = position := by
  obtain ⟨j, found⟩ := scans.covers position
  have place := scans.place j
  rw [found, same] at place
  rw [Fin.ext place, found]

def factorsOf (size side : Nat) (list : Nat → Nat) : Fin size → UInt8 :=
  fun position => UInt8.ofNat (weightScale side list position.val)

theorem next_scale (last : UInt8) (delta : Int) :
    (UInt8.ofInt (last.toNat + delta)).toNat = ((last.toNat + delta + 256) % 256).toNat := by
  have byte : ((last.toNat + delta) % 2 ^ 8).toNat < 2 ^ 8 := by omega
  rw [UInt8.ofInt, UInt8.toNat_ofNat', Nat.mod_eq_of_lt byte, Int.add_emod_right]
  rfl

theorem next_of_scales (k : Nat) : (scales deltas (k + 1)).2 =
    if (scales deltas k).2 ≠ 0 then (((scales deltas k).1 + deltas k + 256) % 256).toNat
    else (scales deltas k).2 := rfl

theorem last_of_scales (k : Nat) : (scales deltas (k + 1)).1 =
    if (scales deltas (k + 1)).2 = 0 then (scales deltas k).1 else (scales deltas (k + 1)).2 := rfl

theorem byte_zero (value : UInt8) : value = 0 ↔ value.toNat = 0 := by
  rw [← UInt8.toNat_inj]
  rfl

variable {jvt_list : Fin size → UInt8}

/-- The places from `k` on get their entry of the list, the places before keep what they hold. -/
theorem read_factors_from (scans : Scans side scan)
    (explicit : useDefaultScalingMatrix deltas = false) (m : Nat) :
    ∀ (k : Nat) (todo : List (Fin size)) (last next : UInt8) (factors : Fin size → UInt8),
      todo.map Fin.val = List.range' k m → k + m = size →
      last.toNat = (scales deltas k).1 → next.toNat = (scales deltas k).2 →
      ∀ position, readFactors scan deltas jvt_list todo last next factors position =
        if k ≤ (zigzag side).idxOf position.val then
          factorsOf size side (scalingList deltas) position
        else factors position := by
  induction m with
  | zero =>
    intro k todo last next factors places ends _ _ position
    have done : todo = [] := by simpa using places
    obtain ⟨i, found⟩ := scans.covers position
    have inside : ¬ k ≤ (zigzag side).idxOf position.val := by
      rw [← found, scans.place i]
      omega
    rw [done, readFactors, if_neg inside]
  | succ m induction =>
    intro k todo last next factors places ends lastScale nextScale position
    cases todo with
    | nil => simp at places
    | cons i todo =>
      rw [List.map_cons, List.range'_succ] at places
      obtain ⟨here, places⟩ := List.cons.inj places
      have nextScale' : (if next ≠ 0 then UInt8.ofInt (last.toNat + deltas i.val)
          else next).toNat = (scales deltas (k + 1)).2 := by
        rw [next_of_scales, ← lastScale, ← nextScale, here, apply_ite UInt8.toNat, next_scale]
        simp only [ne_eq, byte_zero]
      rw [readFactors]
      generalize (if next ≠ 0 then UInt8.ofInt (last.toNat + deltas i.val) else next)
        = next' at nextScale' ⊢
      have lastScale' : (if next' ≠ 0 then next' else last).toNat = (scales deltas (k + 1)).1 := by
        rw [last_of_scales, ← lastScale, ← nextScale', apply_ite UInt8.toNat, ite_not]
        simp only [byte_zero]
      have reads : ¬ (i.val = 0 ∧ next' = 0) := by
        rintro ⟨first, ended⟩
        rw [here] at first
        subst first
        rw [byte_zero, nextScale'] at ended
        simp [useDefaultScalingMatrix, ended] at explicit
      dsimp only
      rw [if_neg reads, induction (k + 1) todo _ _ _ places (by omega) lastScale' nextScale']
      -- Only the place `k` is written here, and no later place writes over it.
      by_cases written : (zigzag side).idxOf position.val = k
      · have same : scan i = position := scans.scan_of_place (written.trans here.symm)
        rw [if_neg (by omega), if_pos (by omega : k ≤ _), ← same, Function.update_self, factorsOf,
          weightScale, same, written, scalingList, ← lastScale', UInt8.ofNat_toNat]
      · have other : position ≠ scan i := by
          intro same
          rw [same, scans.place i] at written
          omega
        rw [Function.update_of_ne other]
        congr 1
        apply propext
        omega

theorem read_factors_default (explicit : useDefaultScalingMatrix deltas = true)
    (factors : Fin size → UInt8) (some_place : 0 < size) :
    readFactors scan deltas jvt_list (List.finRange size) 8 8 factors = jvt_list := by
  cases size with
  | zero => exact absurd some_place (Nat.lt_irrefl 0)
  | succ size =>
    have ended : UInt8.ofInt ((8 : UInt8).toNat + deltas 0) = 0 := by
      rw [byte_zero, next_scale]
      simpa [useDefaultScalingMatrix, scales] using explicit
    have first : (if (8 : UInt8) ≠ 0 then
        UInt8.ofInt ((8 : UInt8).toNat + deltas (0 : Fin (size + 1)).val) else 8) = 0 := by
      rw [if_pos (by decide)]
      exact ended
    rw [List.finRange_succ, readFactors]
    dsimp only
    rw [first, if_pos ⟨rfl, rfl⟩]

/-- The decoder reads the list the clause defines, in the order of its matrices. -/
theorem decode_scaling_list (scans : Scans side scan) (some_place : 0 < size)
    (read : ScalingListSyntax) (factors : Fin size → UInt8) (default fallback : Nat → Nat) :
    decodeScalingList scan read factors (factorsOf size side default)
        (factorsOf size side fallback) =
      factorsOf size side (listOf read default fallback) := by
  cases read with
  | none => rfl
  | some deltas =>
    cases explicit : useDefaultScalingMatrix deltas with
    | true =>
      rw [decodeScalingList, read_factors_default explicit factors some_place]
      simp [listOf, explicit]
    | false =>
      have places : (List.finRange size).map Fin.val = List.range' 0 size := by
        apply List.ext_getElem <;> simp
      funext position
      rw [decodeScalingList, read_factors_from scans explicit size 0 _ 8 8 factors places
        (Nat.zero_add size) rfl rfl position, if_pos (Nat.zero_le _)]
      simp [listOf, explicit]

end OneList

theorem small_lists : 6 ≤ 8 := by decide

def Holds4 (matrices : ScalingMatrices) (lists : ScalingLists) : Prop :=
  ∀ i : Fin 6, matrices.nScalingMatrix4 i = factorsOf 16 4 (lists (i.castLE small_lists))

def Holds8 (matrices : ScalingMatrices) (lists : ScalingLists) : Prop :=
  ∀ i : Fin 2, matrices.nScalingMatrix8 i = factorsOf 64 8 (lists (![6, 7] i))

theorem default_scalings : (default_scaling4 0 = factorsOf 16 4 fallBackRuleA.intra4 ∧
      default_scaling4 1 = factorsOf 16 4 fallBackRuleA.inter4) ∧
    default_scaling8 0 = factorsOf 64 8 fallBackRuleA.intra8 ∧
      default_scaling8 1 = factorsOf 64 8 fallBackRuleA.inter8 := by
  decide +kernel

variable {lists : ScalingMatrixSyntax} {isSps bTransform8x8Mode bSpsPresent : Bool}
  {pSps factors : ScalingMatrices} {rule : FallBack}

structure FallsBack (isSps bSpsPresent : Bool) (pSps : ScalingMatrices) (rule : FallBack) :
    Prop where
  onDefault : (!isSps && bSpsPresent) = false → rule = fallBackRuleA
  onSps : (!isSps && bSpsPresent) = true → ∃ seq, rule = fallBackRuleB seq ∧
    Holds4 pSps seq ∧ Holds8 pSps seq

theorem FallsBack.factors_of {size side : Nat} (falls : FallsBack isSps bSpsPresent pSps rule)
    (list : FallBack → Nat → Nat) {own default : Fin size → UInt8}
    (onDefault : default = factorsOf size side (list fallBackRuleA))
    (onSps : ∀ seq, Holds4 pSps seq → Holds8 pSps seq →
      own = factorsOf size side (list (fallBackRuleB seq))) :
    (if (!isSps && bSpsPresent) = true then own else default) =
      factorsOf size side (list rule) := by
  cases which : !isSps && bSpsPresent with
  | false =>
    rw [falls.onDefault which]
    exact onDefault
  | true =>
    obtain ⟨seq, same, four, eight⟩ := falls.onSps which
    rw [same]
    exact onSps seq four eight

theorem read_list4 (read : ScalingListSyntax) (old : Fin 16 → UInt8)
    (default fallback : Nat → Nat) :
    decodeScalingList zigzag_scan read old (factorsOf 16 4 default) (factorsOf 16 4 fallback) =
      factorsOf 16 4 (listOf read default fallback) :=
  decode_scaling_list zigzag_scans (by decide) read old default fallback

theorem read_list8 (read : ScalingListSyntax) (old : Fin 64 → UInt8)
    (default fallback : Nat → Nat) :
    decodeScalingList zigzag_scan8x8 read old (factorsOf 64 8 default) (factorsOf 64 8 fallback) =
      factorsOf 64 8 (listOf read default fallback) :=
  decode_scaling_list zigzag8x8_scans (by decide) read old default fallback

theorem decode_matrices4 (falls : FallsBack isSps bSpsPresent pSps rule) :
    Holds4 (decodeScalingMatrices (some lists) isSps bTransform8x8Mode bSpsPresent pSps
      factors).2 (listsOf lists rule) := by
  intro i
  dsimp only [decodeScalingMatrices]
  rw [falls.factors_of FallBack.intra4 default_scalings.1.1 (fun _ four _ => four 0),
    falls.factors_of FallBack.inter4 default_scalings.1.2 (fun _ four _ => four 3)]
  simp only [default_scalings.1.1, default_scalings.1.2, read_list4]
  match i with
  | 0 | 1 | 2 | 3 | 4 | 5 => rfl

theorem decode_matrices8 (falls : FallsBack isSps bSpsPresent pSps rule)
    (carried : (isSps || bTransform8x8Mode) = true) :
    Holds8 (decodeScalingMatrices (some lists) isSps bTransform8x8Mode bSpsPresent pSps
      factors).2 (listsOf lists rule) := by
  intro i
  dsimp only [decodeScalingMatrices]
  rw [falls.factors_of FallBack.intra8 default_scalings.2.1 (fun _ _ eight => eight 0),
    falls.factors_of FallBack.inter8 default_scalings.2.2 (fun _ _ eight => eight 1)]
  simp only [default_scalings.2.1, default_scalings.2.2, read_list8, carried, if_true]
  match i with
  | 0 | 1 => rfl

end CedarC.H264
