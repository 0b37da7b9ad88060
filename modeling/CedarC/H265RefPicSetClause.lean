import CedarC.H265ShortTermRps
import Mathlib.Data.List.Sort

/-!
# The reference picture sets of clause 7.4.8

The lists `DeltaPocS0` and `DeltaPocS1` that the clause derives from the syntax
elements, over the integers and without a bound on memory. A derived set
carries the order of its two lists and the bound on its size.
-/

namespace CedarC.H265RefPicSetClause

open H265ShortTermRps List

/-- A delta with its used flag. -/
abbrev RpsEntry := Int × Bool

def maxRpsEntries : Nat := 16

structure RefPicSet where
  s0 : List RpsEntry
  s1 : List RpsEntry
  s0Descending : s0.Pairwise fun earlier later => later.1 < earlier.1
  s0Negative : ∀ entry ∈ s0, entry.1 < 0
  s1Ascending : s1.Pairwise fun earlier later => earlier.1 < later.1
  s1Positive : ∀ entry ∈ s1, 0 < entry.1
  bounded : s0.length + s1.length ≤ maxRpsEntries

def accumulated (sign : Int) (deltaPocMinus1 : Nat → UInt32) : Nat → Int
  | 0 => sign * ((deltaPocMinus1 0).toNat + 1)
  | i + 1 => accumulated sign deltaPocMinus1 i + sign * ((deltaPocMinus1 (i + 1)).toNat + 1)

def explicitList (sign : Int) (deltaPocMinus1 : Nat → UInt32) (usedByCurrPicFlag : Nat → Bool)
    (count : Nat) : List RpsEntry :=
  (List.range count).map fun i => (accumulated sign deltaPocMinus1 i, usedByCurrPicFlag i)

theorem accumulated_away (sign : Int) (deltaPocMinus1 : Nat → UInt32) (unit : sign * sign = 1)
    (i : Nat) : 0 < sign * accumulated sign deltaPocMinus1 i := by
  induction i with
  | zero =>
    rw [accumulated, ← Int.mul_assoc, unit]
    omega
  | succ i ih =>
    rw [accumulated, Int.mul_add, ← Int.mul_assoc, unit]
    omega

theorem accumulated_increasing (sign : Int) (deltaPocMinus1 : Nat → UInt32)
    (unit : sign * sign = 1) {earlier later : Nat} (ordered : earlier < later) :
    sign * accumulated sign deltaPocMinus1 earlier <
      sign * accumulated sign deltaPocMinus1 later := by
  induction later with
  | zero => omega
  | succ later ih =>
    have step : sign * accumulated sign deltaPocMinus1 later <
        sign * accumulated sign deltaPocMinus1 (later + 1) := by
      rw [accumulated, Int.mul_add, ← Int.mul_assoc sign sign, unit]
      omega
    rcases Nat.lt_succ_iff_lt_or_eq.mp ordered with before | rfl
    · exact Int.lt_trans (ih before) step
    · exact step

theorem explicit_list_ordered (sign : Int) (deltaPocMinus1 : Nat → UInt32)
    (usedByCurrPicFlag : Nat → Bool) (count : Nat) (unit : sign * sign = 1) :
    (explicitList sign deltaPocMinus1 usedByCurrPicFlag count).Pairwise
        (fun earlier later => sign * earlier.1 < sign * later.1) ∧
      ∀ entry ∈ explicitList sign deltaPocMinus1 usedByCurrPicFlag count, 0 < sign * entry.1 := by
  unfold explicitList
  constructor
  · rw [pairwise_map]
    exact pairwise_lt_range.imp fun ordered =>
      accumulated_increasing sign deltaPocMinus1 unit ordered
  · intro entry member
    rcases mem_map.mp member with ⟨i, -, rfl⟩
    exact accumulated_away sign deltaPocMinus1 unit i

def ExplicitCounts (syn : RpsSyntax) : Prop :=
  syn.numNegativePics.toNat < maxRpsEntries ∧ syn.numPositivePics.toNat < maxRpsEntries ∧
    syn.numNegativePics.toNat + syn.numPositivePics.toNat ≤ maxRpsEntries
deriving Decidable

def explicitS0 (syn : RpsSyntax) : List RpsEntry :=
  explicitList (-1) syn.deltaPocS0Minus1 syn.usedByCurrPicS0Flag syn.numNegativePics.toNat

def explicitS1 (syn : RpsSyntax) : List RpsEntry :=
  explicitList 1 syn.deltaPocS1Minus1 syn.usedByCurrPicS1Flag syn.numPositivePics.toNat

def explicitRefPicSet (syn : RpsSyntax) : Option RefPicSet :=
  if counts : ExplicitCounts syn then
    some
      { s0 := explicitS0 syn
        s1 := explicitS1 syn
        s0Descending :=
          (explicit_list_ordered (-1) _ _ _ (by decide)).1.imp fun ordered => by omega
        s0Negative := fun entry member => by
          have away := (explicit_list_ordered (-1) _ _ _ (by decide)).2 entry member
          omega
        s1Ascending :=
          (explicit_list_ordered 1 _ _ _ (by decide)).1.imp fun ordered => by omega
        s1Positive := fun entry member => by
          have away := (explicit_list_ordered 1 _ _ _ (by decide)).2 entry member
          omega
        bounded := by
          simp only [explicitS0, explicitS1, explicitList, length_map, length_range]
          exact counts.2.2 }
  else none

section Predicted

def clauseDeltaRps (syn : RpsSyntax) : Int :=
  (1 - if syn.deltaRpsSign then 2 else 0) * (syn.absDeltaRpsMinus1.toNat + 1)

/-- `use_delta_flag[j]`, which is inferred to be 1 when it is not present. -/
def useDelta (syn : RpsSyntax) (j : Nat) : Bool := syn.usedByCurrPicFlag j || syn.useDeltaFlag j

variable (syn : RpsSyntax) (ref : RefPicSet)

/-- The delta of entry `j` of the reference set, and 0 for the reference itself. -/
def refDelta (j : Nat) : Int := ((ref.s0 ++ ref.s1)[j]?.map Prod.fst).getD 0

def dPoc (j : Nat) : Int := refDelta ref j + clauseDeltaRps syn

/-- The entry that index `j` contributes to a list, unless it is left out. -/
def predicted (side : Int → Bool) (j : Nat) : Option RpsEntry :=
  if side (dPoc syn ref j) && useDelta syn j then some (dPoc syn ref j, syn.usedByCurrPicFlag j)
  else none

def isNegative (value : Int) : Bool := decide (value < 0)
def isPositive (value : Int) : Bool := decide (0 < value)

/-- (7-61): down the positive entries, the reference, up the negative ones. -/
def predictedS0 : List RpsEntry :=
  ((List.range ref.s1.length).reverse.filterMap fun j =>
      predicted syn ref isNegative (ref.s0.length + j)) ++
    (predicted syn ref isNegative (ref.s0.length + ref.s1.length)).toList ++
    (List.range ref.s0.length).filterMap (predicted syn ref isNegative)

/-- (7-62): down the negative entries, the reference, up the positive ones. -/
def predictedS1 : List RpsEntry :=
  (List.range ref.s0.length).reverse.filterMap (predicted syn ref isPositive) ++
    (predicted syn ref isPositive (ref.s0.length + ref.s1.length)).toList ++
    ((List.range ref.s1.length).filterMap fun j =>
      predicted syn ref isPositive (ref.s0.length + j))

def indicesDown : List Nat :=
  (List.range ref.s1.length).reverse.map (ref.s0.length + ·) ++
    [ref.s0.length + ref.s1.length] ++ List.range ref.s0.length

theorem predicted_s0_eq :
    predictedS0 syn ref = (indicesDown ref).filterMap (predicted syn ref isNegative) := by
  simp only [predictedS0, indicesDown, filterMap_append, filterMap_map]
  congr 2

theorem predicted_s1_eq :
    predictedS1 syn ref = (indicesDown ref).reverse.filterMap (predicted syn ref isPositive) := by
  simp only [predictedS1, indicesDown, reverse_append, map_reverse, reverse_reverse,
    filterMap_append, filterMap_map, append_assoc, reverse_singleton]
  congr 2

theorem indices_down_perm :
    (indicesDown ref).Perm (List.range (ref.s0.length + ref.s1.length + 1)) := by
  rw [range_succ, range_add, indicesDown]
  have positives : ((List.range ref.s1.length).reverse.map (ref.s0.length + ·)).Perm
      ((List.range ref.s1.length).map (ref.s0.length + ·)) :=
    (reverse_perm _).map _
  have shuffled := List.Perm.append_left (List.range ref.s0.length)
    (positives.append_right [ref.s0.length + ref.s1.length])
  rw [append_assoc (List.range ref.s0.length)]
  exact perm_append_comm.trans shuffled

theorem ref_delta_negative {j : Nat} (inside : j < ref.s0.length) :
    refDelta ref j = (ref.s0[j]).1 := by
  simp [refDelta, List.getElem?_append_left inside, inside]

theorem ref_delta_self : refDelta ref (ref.s0.length + ref.s1.length) = 0 := by
  simp [refDelta]

theorem ref_delta_positive {j : Nat} (inside : j < ref.s1.length) :
    refDelta ref (ref.s0.length + j) = (ref.s1[j]).1 := by
  simp [refDelta, inside]

theorem ref_delta_down :
    (indicesDown ref).Pairwise fun earlier later => refDelta ref later < refDelta ref earlier := by
  have positive : ∀ i ∈ (List.range ref.s1.length).reverse.map (ref.s0.length + ·),
      0 < refDelta ref i := by
    intro i member
    rcases mem_map.mp member with ⟨j, inside, rfl⟩
    rw [mem_reverse, mem_range] at inside
    rw [ref_delta_positive ref inside]
    exact ref.s1Positive _ (getElem_mem _)
  have negative : ∀ i ∈ List.range ref.s0.length, refDelta ref i < 0 := by
    intro i member
    rw [mem_range] at member
    rw [ref_delta_negative ref member]
    exact ref.s0Negative _ (getElem_mem _)
  have falling : ((List.range ref.s1.length).reverse.map (ref.s0.length + ·)).Pairwise
      fun earlier later => refDelta ref later < refDelta ref earlier := by
    rw [pairwise_map, pairwise_reverse]
    apply pairwise_lt_range.imp_of_mem
    intro earlier later earlierMember laterMember ordered
    rw [mem_range] at earlierMember laterMember
    rw [ref_delta_positive ref earlierMember, ref_delta_positive ref laterMember]
    exact pairwise_iff_getElem.mp ref.s1Ascending _ _ _ _ ordered
  have rising : (List.range ref.s0.length).Pairwise
      fun earlier later => refDelta ref later < refDelta ref earlier := by
    apply pairwise_lt_range.imp_of_mem
    intro earlier later earlierMember laterMember ordered
    rw [mem_range] at earlierMember laterMember
    rw [ref_delta_negative ref earlierMember, ref_delta_negative ref laterMember]
    exact pairwise_iff_getElem.mp ref.s0Descending _ _ _ _ ordered
  rw [indicesDown, append_assoc, pairwise_append, singleton_append, pairwise_cons]
  refine ⟨falling, ⟨?_, rising⟩, ?_⟩
  · intro i member
    rw [ref_delta_self]
    exact negative i member
  · intro earlier member later laterMember
    have above := positive earlier member
    rcases mem_cons.mp laterMember with rfl | laterMember
    · rw [ref_delta_self]
      exact above
    · exact Int.lt_trans (negative later laterMember) above

variable {syn} {ref}

theorem predicted_some {side : Int → Bool} {j : Nat} {entry : RpsEntry} :
    predicted syn ref side j = some entry ↔ side (dPoc syn ref j) = true ∧ useDelta syn j = true ∧
        entry = (dPoc syn ref j, syn.usedByCurrPicFlag j) := by
  simp only [predicted, Option.ite_none_right_eq_some, Bool.and_eq_true, Option.some.injEq,
    and_assoc, eq_comm (b := entry)]

theorem predicted_s0_ordered :
    (predictedS0 syn ref).Pairwise (fun earlier later => later.1 < earlier.1) ∧
      ∀ entry ∈ predictedS0 syn ref, entry.1 < 0 := by
  rw [predicted_s0_eq]
  constructor
  · rw [pairwise_filterMap]
    apply (ref_delta_down ref).imp
    intro earlier later falls left leftSome right rightSome
    obtain ⟨-, -, rfl⟩ := predicted_some.mp leftSome
    obtain ⟨-, -, rfl⟩ := predicted_some.mp rightSome
    simp only [dPoc]
    omega
  · intro entry member
    rcases mem_filterMap.mp member with ⟨j, -, here⟩
    obtain ⟨negative, -, rfl⟩ := predicted_some.mp here
    simpa [isNegative] using negative

theorem predicted_s1_ordered :
    (predictedS1 syn ref).Pairwise (fun earlier later => earlier.1 < later.1) ∧
      ∀ entry ∈ predictedS1 syn ref, 0 < entry.1 := by
  rw [predicted_s1_eq]
  constructor
  · rw [pairwise_filterMap, pairwise_reverse]
    apply (ref_delta_down ref).imp
    intro earlier later falls left leftSome right rightSome
    obtain ⟨-, -, rfl⟩ := predicted_some.mp leftSome
    obtain ⟨-, -, rfl⟩ := predicted_some.mp rightSome
    simp only [dPoc]
    omega
  · intro entry member
    rcases mem_filterMap.mp member with ⟨j, -, here⟩
    obtain ⟨positive, -, rfl⟩ := predicted_some.mp here
    simpa [isPositive] using positive

/-- The set predicted from `ref`, unless it has more entries than a set may have. -/
def predictedRefPicSet (syn : RpsSyntax) (ref : RefPicSet) : Option RefPicSet :=
  if bounded : (predictedS0 syn ref).length + (predictedS1 syn ref).length ≤ maxRpsEntries then
    some
      { s0 := predictedS0 syn ref
        s1 := predictedS1 syn ref
        s0Descending := predicted_s0_ordered.1
        s0Negative := predicted_s0_ordered.2
        s1Ascending := predicted_s1_ordered.1
        s1Positive := predicted_s1_ordered.2
        bounded := bounded }
  else none

end Predicted

/-- The set with index `stRpsIdx` of the SPS, predicted from the one before it. -/
def spsRefPicSet (sets : Nat → RpsSyntax) : Nat → Option RefPicSet
  | 0 => explicitRefPicSet (sets 0)
  | stRpsIdx + 1 =>
    if (sets (stRpsIdx + 1)).interRefPicSetPredictionFlag then
      (spsRefPicSet sets stRpsIdx).bind (predictedRefPicSet (sets (stRpsIdx + 1)))
    else explicitRefPicSet (sets (stRpsIdx + 1))

def sliceRefPicSet (numShortTermRefPicSets : Nat) (sets : Nat → RpsSyntax) (syn : RpsSyntax) :
    Option RefPicSet :=
  if numShortTermRefPicSets ≠ 0 ∧ syn.interRefPicSetPredictionFlag then
    if syn.deltaIdxMinus1.toNat < numShortTermRefPicSets then
      (spsRefPicSet sets (numShortTermRefPicSets - (syn.deltaIdxMinus1.toNat + 1))).bind
        (predictedRefPicSet syn)
    else none
  else explicitRefPicSet syn

end CedarC.H265RefPicSetClause
