import CedarC.H265ShortTermRpsSets

/-!
# Chains of short-term reference picture sets

An SPS with its sets and any number of slice headers that use them. The parser
follows clause 7.4.8 on exactly those chains in which every set stays within
the clause, no predicted set keeps an entry for the current picture, and no set
is predicted from or used after it was refused.
-/

namespace CedarC.H265ShortTermRpsChain

open FixedWidth ArrayPasses H265ShortTermRps H265RefPicSetClause H265ShortTermRpsSets Option

structure RpsChain where
  numShortTermRefPicSets : UInt32
  sets : Nat → RpsSyntax
  slices : List SliceSyntax

def AcceptedAsClause (result : HevcShortTermRPS × Int) (set : Option RefPicSet) : Prop :=
  result.2 = 0 → ∃ derived, set = some derived ∧ StoredRps result.1 derived

/-- The call for set `i` in the loop of the SPS that starts with `pSps`. -/
def spsResult (sets : Nat → RpsSyntax) (pSps : HevcSPS) (i : Nat) :
    Option (HevcShortTermRPS × Int) :=
  (stRpsAfter sets pSps i).bind fun pSps => parseStRps sets pSps i

def SpsSetCorrect (sets : Nat → RpsSyntax) (pSps : HevcSPS) (i : Nat) : Prop :=
  ∃ result, spsResult sets pSps i = some result ∧ AcceptedAsClause result (spsRefPicSet sets i)

/-- The slice uses no set that was refused, and its own set is the one of the clause. -/
def SliceCorrect (sets : Nat → RpsSyntax) (start pSps : HevcSPS) (sliceRps : HevcShortTermRPS)
    (slice : SliceSyntax) : Prop :=
  match hevcDecodeSliceRps pSps sliceRps slice with
  | none => False
  | some (_, none) => True
  | some (_, some .sliceRps) =>
    ∃ result, hevcParseShortTermRefSet slice.set .sliceRps sliceRps pSps = some result ∧
      result.2 = 0 ∧ AcceptedAsClause result (sliceRefPicSet pSps.nNumStRps sets slice.set)
  | some (_, some (.stRps i)) =>
    i < pSps.nNumStRps → ∃ result, spsResult sets start i = some result ∧ result.2 = 0

def SlicesCorrect (sets : Nat → RpsSyntax) (start pSps : HevcSPS) :
    HevcShortTermRPS → List SliceSyntax → Prop
  | _, [] => True
  | sliceRps, slice :: rest =>
    SliceCorrect sets start pSps sliceRps slice ∧
      ∀ outcome, hevcDecodeSliceRps pSps sliceRps slice = some outcome →
        SlicesCorrect sets start pSps outcome.1 rest

/-- No access leaves the arrays, every accepted set is the one of the clause
and no slice uses a refused one. A refused SPS has no sets. -/
def ChainCorrect (chain : RpsChain) (pSps : HevcSPS) (sliceRps : HevcShortTermRPS) : Prop :=
  let start := { pSps with nNumStRps := chain.numShortTermRefPicSets.toNat }
  match hevcDecodeNalSpsRps chain.numShortTermRefPicSets chain.sets pSps with
  | none => False
  | some none => True
  | some (some final) =>
    (∀ i < start.nNumStRps, SpsSetCorrect chain.sets start i) ∧
      SlicesCorrect chain.sets start final sliceRps chain.slices

/-- The set is coded explicitly and the parser's test refuses its counts. -/
def SetRefused (sets : Nat → RpsSyntax) (i : Nat) : Prop :=
  (i = 0 ∨ (sets i).interRefPicSetPredictionFlag = false) ∧ ExplicitRefused (sets i)

def SpsSetSafe (sets : Nat → RpsSyntax) : Nat → Prop
  | 0 => ExplicitSafe (sets 0) ∨ ExplicitRefused (sets 0)
  | i + 1 =>
    if (sets (i + 1)).interRefPicSetPredictionFlag then
      ∃ ref, spsRefPicSet sets i = some ref ∧ InterSafe (sets (i + 1)) ref
    else ExplicitSafe (sets (i + 1)) ∨ ExplicitRefused (sets (i + 1))

def SliceSafe (nNumStRps : Nat) (sets : Nat → RpsSyntax) (slice : SliceSyntax) : Prop :=
  if slice.shortTermRefPicSetSpsFlag then
    rpsIdx nNumStRps slice < nNumStRps → ¬ SetRefused sets (rpsIdx nNumStRps slice)
  else if nNumStRps ≠ 0 ∧ slice.set.interRefPicSetPredictionFlag then
    slice.set.deltaIdxMinus1.toNat < nNumStRps ∧
      ∃ ref, spsRefPicSet sets (nNumStRps - (slice.set.deltaIdxMinus1.toNat + 1)) = some ref ∧
        InterSafe slice.set ref
  else ExplicitSafe slice.set

def ChainSafe (chain : RpsChain) : Prop :=
  chain.numShortTermRefPicSets.toNat ≤ HEVC_MAX_SHORT_TERM_RPS_COUNT →
    (∀ i < chain.numShortTermRefPicSets.toNat, SpsSetSafe chain.sets i) ∧
      ∀ slice ∈ chain.slices, SliceSafe chain.numShortTermRefPicSets.toNat chain.sets slice

section OneSet

theorem stored_delta_nonzero {pRps : HevcShortTermRPS} {set : RefPicSet}
    (stored : StoredRps pRps set) {i : Nat} (inside : (i : Int) < pRps.nNumDeltaPocs) :
    pRps.nDeltaPoc i ≠ 0 := by
  have total := stored.total
  have member : entry pRps i ∈ set.s0 ++ set.s1 := by
    rw [← stored.entries, mem_front]
    exact ⟨i, by omega, rfl⟩
  have nonzero : (entry pRps i).1 ≠ 0 := by
    rcases List.mem_append.mp member with negative | positive
    · exact Int.ne_of_lt (set.s0Negative _ negative)
    · exact Int.ne_of_gt (set.s1Positive _ positive)
  exact nonzero

variable {syn : RpsSyntax} {pRps pRpsRidx : HevcShortTermRPS}

theorem explicit_accepted_iff : (∃ result, explicitSet syn pRps = some result ∧ result.2 = 0 ∧
      AcceptedAsClause result (explicitRefPicSet syn)) ↔ ExplicitSafe syn := by
  constructor
  · rintro ⟨result, computed, accepted, clause⟩
    obtain ⟨set, derived, stored⟩ := clause accepted
    exact explicit_stored_safe computed derived stored
  · intro safe
    obtain ⟨result, computed, set, derived, stored⟩ := explicit_safe_stored pRps safe
    exact ⟨(result, 0), computed, rfl, fun _ => ⟨set, derived, stored⟩⟩

theorem explicit_accepted {result : HevcShortTermRPS × Int} (kept : ¬ ExplicitRefused syn)
    (computed : explicitSet syn pRps = some result) : result.2 = 0 := by
  unfold ExplicitRefused at kept
  simp only [explicitSet, if_neg kept] at computed
  split_ifs at computed
  · obtain ⟨lower, -, mapped⟩ := bind_eq_some_iff.mp computed
    obtain ⟨upper, -, rfl⟩ := map_eq_some_iff.mp mapped
    rfl
  · rw [← Option.some.inj computed]

theorem explicit_correct_iff : (∃ result, explicitSet syn pRps = some result ∧
      AcceptedAsClause result (explicitRefPicSet syn)) ↔
        ExplicitSafe syn ∨ ExplicitRefused syn := by
  constructor
  · rintro ⟨result, computed, clause⟩
    by_cases refused : ExplicitRefused syn
    · exact Or.inr refused
    · left
      have accepted : result.2 = 0 := explicit_accepted refused computed
      exact explicit_accepted_iff.mp ⟨result, computed, accepted, clause⟩
  · rintro (safe | refused)
    · obtain ⟨result, computed, -, clause⟩ := explicit_accepted_iff.mpr safe
      exact ⟨result, computed, clause⟩
    · obtain ⟨result, computed, nonzero⟩ := explicit_refused pRps refused
      exact ⟨result, computed, fun accepted => absurd accepted nonzero⟩

theorem inter_correct_iff {refSet : Option RefPicSet}
    (known : ∀ ref, refSet = some ref → StoredRps pRpsRidx ref) :
    (∃ result, (predictSet syn pRpsRidx pRps).map (fun pRps => (pRps, (0 : Int))) = some result ∧
      AcceptedAsClause result (refSet.bind (predictedRefPicSet syn))) ↔
        ∃ ref, refSet = some ref ∧ InterSafe syn ref := by
  constructor
  · rintro ⟨result, computed, clause⟩
    obtain ⟨stored, predicted, rfl⟩ := map_eq_some_iff.mp computed
    obtain ⟨set, derived, holds⟩ := clause rfl
    obtain ⟨ref, isRef, derived⟩ := bind_eq_some_iff.mp derived
    exact ⟨ref, isRef, predicted_stored_safe (known ref isRef) predicted derived holds⟩
  · rintro ⟨ref, rfl, safe⟩
    obtain ⟨result, predicted, set, derived, holds⟩ :=
      predicted_safe_stored pRps (known ref rfl) safe
    exact ⟨(result, 0), by rw [predicted, map_some], fun _ => ⟨set, derived, holds⟩⟩

end OneSet

section SpsLoop

variable {sets : Nat → RpsSyntax} {start : HevcSPS}

/-- The first `count` sets are stored as far as the clause derives them. -/
structure SpsKnown (sets : Nat → RpsSyntax) (start : HevcSPS) (count : Nat) (pSps : HevcSPS) :
    Prop where
  reached : stRpsAfter sets start count = some pSps
  number : pSps.nNumStRps = start.nNumStRps
  stored : ∀ i < count, ∀ ref, spsRefPicSet sets i = some ref → StoredRps (pSps.StRps i) ref

variable {pSps : HevcSPS} {count i : Nat}

theorem sps_set_explicit (pSps : HevcSPS)
    (coded : i = 0 ∨ (sets i).interRefPicSetPredictionFlag = false) :
    parseStRps sets pSps i = explicitSet (sets i) (pSps.StRps i) ∧
      spsRefPicSet sets i = explicitRefPicSet (sets i) ∧
      (SpsSetSafe sets i ↔ ExplicitSafe (sets i) ∨ ExplicitRefused (sets i)) := by
  cases i with
  | zero => simp [parseStRps, hevcParseShortTermRefSet, spsRefPicSet, SpsSetSafe]
  | succ i =>
    have flag : (sets (i + 1)).interRefPicSetPredictionFlag = false := by simpa using coded
    simp [parseStRps, hevcParseShortTermRefSet, spsRefPicSet, SpsSetSafe, flag]

theorem sps_set_predicted (number : pSps.nNumStRps ≠ 0)
    (flag : (sets (i + 1)).interRefPicSetPredictionFlag = true) :
    parseStRps sets pSps (i + 1) =
        (predictSet (sets (i + 1)) (pSps.StRps i) (pSps.StRps (i + 1))).map
          (fun pRps => (pRps, (0 : Int))) ∧
      spsRefPicSet sets (i + 1) = (spsRefPicSet sets i).bind (predictedRefPicSet (sets (i + 1))) ∧
      (SpsSetSafe sets (i + 1) ↔
        ∃ ref, spsRefPicSet sets i = some ref ∧ InterSafe (sets (i + 1)) ref) := by
  simp [parseStRps, hevcParseShortTermRefSet, spsRefPicSet, SpsSetSafe, flag, number]

theorem sps_step_iff (known : SpsKnown sets start count pSps) (number : pSps.nNumStRps ≠ 0) :
    SpsSetCorrect sets start count ↔ SpsSetSafe sets count := by
  have result : spsResult sets start count = parseStRps sets pSps count := by
    rw [spsResult, known.reached, bind_some]
  unfold SpsSetCorrect
  rw [result]
  by_cases coded : count = 0 ∨ (sets count).interRefPicSetPredictionFlag = false
  · obtain ⟨parsed, derived, safe⟩ := sps_set_explicit pSps coded
    rw [parsed, derived, safe]
    exact explicit_correct_iff
  · cases count with
    | zero => simp at coded
    | succ i =>
      have flag : (sets (i + 1)).interRefPicSetPredictionFlag = true := by simpa using coded
      obtain ⟨parsed, derived, safe⟩ := sps_set_predicted number flag
      rw [parsed, derived, safe]
      exact inter_correct_iff (known.stored i (by omega))

theorem sps_derived_accepted (number : pSps.nNumStRps ≠ 0)
    {result : HevcShortTermRPS × Int} (parsed : parseStRps sets pSps count = some result)
    {set : RefPicSet} (derived : spsRefPicSet sets count = some set) : result.2 = 0 := by
  by_cases coded : count = 0 ∨ (sets count).interRefPicSetPredictionFlag = false
  · obtain ⟨parsed', derived', -⟩ := sps_set_explicit pSps coded
    rw [derived'] at derived
    rw [parsed'] at parsed
    apply explicit_accepted _ parsed
    intro refused
    rw [explicit_refused_underived refused] at derived
    cases derived
  · cases count with
    | zero => simp at coded
    | succ i =>
      have flag : (sets (i + 1)).interRefPicSetPredictionFlag = true := by simpa using coded
      rw [(sps_set_predicted number flag).1] at parsed
      obtain ⟨_, -, rfl⟩ := map_eq_some_iff.mp parsed
      rfl

theorem sps_known_succ (known : SpsKnown sets start count pSps)
    (number : pSps.nNumStRps ≠ 0) (correct : SpsSetCorrect sets start count) :
    ∃ next, SpsKnown sets start (count + 1) next := by
  obtain ⟨result, computed, clause⟩ := correct
  rw [spsResult, known.reached, bind_some] at computed
  refine ⟨{ pSps with StRps := Function.update pSps.StRps count result.1 }, ?_, known.number, ?_⟩
  · rw [stRpsAfter, known.reached, bind_some, computed, map_some]
  · intro i inside ref derived
    by_cases here : i = count
    · subst here
      obtain ⟨set, derived', stored⟩ := clause (sps_derived_accepted number computed derived)
      obtain rfl := Option.some.inj (derived'.symm.trans derived)
      simp only [Function.update_self]
      exact stored
    · simp only [Function.update_of_ne here]
      exact known.stored i (by omega) ref derived

theorem sps_correct_known {count : Nat} (number : start.nNumStRps ≠ 0)
    (correct : ∀ i < count, SpsSetCorrect sets start i) :
    ∃ pSps, SpsKnown sets start count pSps := by
  induction count with
  | zero => exact ⟨start, rfl, rfl, fun i below => absurd below (Nat.not_lt_zero i)⟩
  | succ count ih =>
    obtain ⟨pSps, known⟩ := ih fun i below => correct i (by omega)
    exact sps_known_succ known (by rw [known.number]; exact number)
      (correct count (Nat.lt_succ_self count))

theorem sps_correct_iff (number : start.nNumStRps ≠ 0) :
    (∀ i < count, SpsSetCorrect sets start i) ↔ ∀ i < count, SpsSetSafe sets i := by
  induction count with
  | zero => simp
  | succ count ih =>
    have last : (∀ i < count, SpsSetCorrect sets start i) →
        (SpsSetCorrect sets start count ↔ SpsSetSafe sets count) := by
      intro correct
      obtain ⟨pSps, known⟩ := sps_correct_known number correct
      exact sps_step_iff known (by rw [known.number]; exact number)
    rw [Nat.forall_lt_succ_right, Nat.forall_lt_succ_right, ih]
    exact and_congr_right fun safe => last (ih.mpr safe)

end SpsLoop

section Slices

variable {sets : Nat → RpsSyntax} {start pSps : HevcSPS}

theorem slice_set_iff (known : SpsKnown sets start pSps.nNumStRps pSps)
    (few : pSps.nNumStRps ≤ HEVC_MAX_SHORT_TERM_RPS_COUNT) (sliceRps : HevcShortTermRPS)
    (syn : RpsSyntax) :
    (∃ result, hevcParseShortTermRefSet syn .sliceRps sliceRps pSps = some result ∧
      result.2 = 0 ∧ AcceptedAsClause result (sliceRefPicSet pSps.nNumStRps sets syn)) ↔
        if pSps.nNumStRps ≠ 0 ∧ syn.interRefPicSetPredictionFlag then
          syn.deltaIdxMinus1.toNat < pSps.nNumStRps ∧
            ∃ ref, spsRefPicSet sets (pSps.nNumStRps - (syn.deltaIdxMinus1.toNat + 1)) =
              some ref ∧ InterSafe syn ref
        else ExplicitSafe syn := by
  by_cases predicts : pSps.nNumStRps ≠ 0 ∧ syn.interRefPicSetPredictionFlag = true
  swap
  · have parsed : hevcParseShortTermRefSet syn .sliceRps sliceRps pSps =
        explicitSet syn sliceRps := by
      have flag : (if RpsPlace.sliceRps ≠ .stRps 0 ∧ pSps.nNumStRps ≠ 0 then
          syn.interRefPicSetPredictionFlag else false) = false := by
        by_cases none : pSps.nNumStRps = 0
        · simp [none]
        · simpa [none] using predicts
      simp only [hevcParseShortTermRefSet, flag, Bool.false_eq_true, if_false]
    rw [if_neg predicts, parsed, sliceRefPicSet, if_neg predicts]
    exact explicit_accepted_iff
  rw [if_pos predicts, sliceRefPicSet, if_pos predicts]
  by_cases inside : syn.deltaIdxMinus1.toNat < pSps.nNumStRps
  · have index : (syn.deltaIdxMinus1.toNat + 1) % 2 ^ 32 = syn.deltaIdxMinus1.toNat + 1 := by
      unfold HEVC_MAX_SHORT_TERM_RPS_COUNT at few
      exact Nat.mod_eq_of_lt (by omega)
    have parsed : hevcParseShortTermRefSet syn .sliceRps sliceRps pSps =
        (predictSet syn (pSps.StRps (pSps.nNumStRps - (syn.deltaIdxMinus1.toNat + 1)))
          sliceRps).map fun pRps => (pRps, (0 : Int)) := by
      have low : ¬ syn.deltaIdxMinus1.toNat + 1 > pSps.nNumStRps := by omega
      have high : ¬ HEVC_MAX_SHORT_TERM_RPS_COUNT ≤
          pSps.nNumStRps - (syn.deltaIdxMinus1.toNat + 1) := by omega
      have place : RpsPlace.sliceRps ≠ .stRps 0 := by decide
      simp only [hevcParseShortTermRefSet, if_pos (And.intro place predicts.1), predicts.2, if_true,
        index, if_neg low, if_neg high]
    rw [if_pos inside, parsed, and_iff_right inside]
    have predicted := @inter_correct_iff syn sliceRps
      (pSps.StRps (pSps.nNumStRps - (syn.deltaIdxMinus1.toNat + 1))) _
      (known.stored (pSps.nNumStRps - (syn.deltaIdxMinus1.toNat + 1)) (by omega))
    rw [← predicted]
    constructor
    · rintro ⟨result, computed, -, clause⟩
      exact ⟨result, computed, clause⟩
    · rintro ⟨result, computed, clause⟩
      obtain ⟨_, -, rfl⟩ := map_eq_some_iff.mp computed
      exact ⟨_, computed, rfl, clause⟩
  · rw [if_neg inside]
    constructor
    · rintro ⟨result, -, accepted, clause⟩
      obtain ⟨_, derived, -⟩ := clause accepted
      cases derived
    · rintro ⟨inside', -⟩
      exact absurd inside' inside

theorem sps_set_used_iff {i : Nat} (number : start.nNumStRps ≠ 0)
    (correct : ∀ j < start.nNumStRps, SpsSetCorrect sets start j) (inside : i < start.nNumStRps) :
    (∃ result, spsResult sets start i = some result ∧ result.2 = 0) ↔ ¬ SetRefused sets i := by
  obtain ⟨before, known⟩ := @sps_correct_known sets start i number fun j below =>
    correct j (by omega)
  have counted : before.nNumStRps ≠ 0 := by
    rw [known.number]
    exact number
  have result : spsResult sets start i = parseStRps sets before i := by
    rw [spsResult, known.reached, bind_some]
  obtain ⟨stored, computed, -⟩ := correct i inside
  rw [result] at computed ⊢
  by_cases coded : i = 0 ∨ (sets i).interRefPicSetPredictionFlag = false
  · obtain ⟨parsed, -, -⟩ := sps_set_explicit before coded
    rw [parsed] at computed ⊢
    constructor
    · rintro ⟨again, computed', accepted⟩ refused
      obtain ⟨other, computed'', nonzero⟩ := explicit_refused (before.StRps i) refused.2
      obtain rfl := Option.some.inj (computed'.symm.trans computed'')
      exact nonzero accepted
    · intro kept
      exact ⟨stored, computed, explicit_accepted (fun refused => kept ⟨coded, refused⟩) computed⟩
  · constructor
    · rintro - refused
      exact coded refused.1
    · intro _
      cases i with
      | zero => simp at coded
      | succ j =>
        have flag : (sets (j + 1)).interRefPicSetPredictionFlag = true := by simpa using coded
        obtain ⟨parsed, -, -⟩ := sps_set_predicted counted flag
        rw [parsed] at computed ⊢
        obtain ⟨_, -, rfl⟩ := map_eq_some_iff.mp computed
        exact ⟨_, computed, rfl⟩

theorem slice_correct_iff (known : SpsKnown sets start pSps.nNumStRps pSps)
    (few : pSps.nNumStRps ≤ HEVC_MAX_SHORT_TERM_RPS_COUNT)
    (correct : ∀ i < start.nNumStRps, SpsSetCorrect sets start i)
    (sliceRps : HevcShortTermRPS) (slice : SliceSyntax) :
    SliceCorrect sets start pSps sliceRps slice ↔ SliceSafe pSps.nNumStRps sets slice := by
  unfold SliceCorrect SliceSafe hevcDecodeSliceRps
  cases slice.shortTermRefPicSetSpsFlag with
  | false =>
    simp only [Bool.not_false, if_true, Bool.false_eq_true, if_false]
    rw [← slice_set_iff known few sliceRps slice.set]
    cases hevcParseShortTermRefSet slice.set .sliceRps sliceRps pSps with
    | none | some result => simp
  | true =>
    simp only [Bool.not_true, Bool.false_eq_true, if_false, if_true]
    by_cases outside : rpsIdx pSps.nNumStRps slice ≥ HEVC_MAX_SHORT_TERM_RPS_COUNT
    · simp only [if_pos outside, true_iff]
      intro inside
      omega
    · simp only [if_neg outside]
      apply forall_congr'
      intro inside
      rw [known.number] at inside ⊢
      exact sps_set_used_iff (by omega) correct inside

theorem slices_correct_iff (known : SpsKnown sets start pSps.nNumStRps pSps)
    (few : pSps.nNumStRps ≤ HEVC_MAX_SHORT_TERM_RPS_COUNT)
    (correct : ∀ i < start.nNumStRps, SpsSetCorrect sets start i)
    (sliceRps : HevcShortTermRPS) (slices : List SliceSyntax) :
    SlicesCorrect sets start pSps sliceRps slices ↔
      ∀ slice ∈ slices, SliceSafe pSps.nNumStRps sets slice := by
  induction slices generalizing sliceRps with
  | nil => simp [SlicesCorrect]
  | cons slice rest ih =>
    rw [SlicesCorrect, List.forall_mem_cons, slice_correct_iff known few correct sliceRps slice]
    apply and_congr_right
    intro safe
    have ends := (slice_correct_iff known few correct sliceRps slice).mpr safe
    unfold SliceCorrect at ends
    cases outcome : hevcDecodeSliceRps pSps sliceRps slice with
    | none => simp [outcome] at ends
    | some result =>
      rw [← ih result.1]
      simp

end Slices

variable {sets : Nat → RpsSyntax} {start : HevcSPS}

theorem sps_loop_known (correct : ∀ i < start.nNumStRps, SpsSetCorrect sets start i) :
    ∃ final, SpsKnown sets start start.nNumStRps final := by
  by_cases none : start.nNumStRps = 0
  · refine ⟨start, ?_⟩
    rw [none]
    exact ⟨rfl, rfl, fun i below => absurd below (Nat.not_lt_zero i)⟩
  · exact sps_correct_known none correct

theorem sps_loop_iff : (∀ i < start.nNumStRps, SpsSetCorrect sets start i) ↔
    ∀ i < start.nNumStRps, SpsSetSafe sets i := by
  by_cases none : start.nNumStRps = 0
  · simp [none]
  · exact sps_correct_iff none

/-- Whatever the memory held before, a chain is parsed as the clause has it
exactly when it is safe. -/
theorem chain_correct_iff_safe (chain : RpsChain) (pSps : HevcSPS)
    (sliceRps : HevcShortTermRPS) : ChainCorrect chain pSps sliceRps ↔ ChainSafe chain := by
  simp only [ChainCorrect, hevcDecodeNalSpsRps, ChainSafe]
  by_cases many : chain.numShortTermRefPicSets.toNat > HEVC_MAX_SHORT_TERM_RPS_COUNT
  · simp only [if_pos many, true_iff]
    intro few
    omega
  have few : chain.numShortTermRefPicSets.toNat ≤ HEVC_MAX_SHORT_TERM_RPS_COUNT := by omega
  simp only [if_neg many, few, forall_const]
  rw [← @sps_loop_iff chain.sets
    { pSps with nNumStRps := chain.numShortTermRefPicSets.toNat }]
  by_cases correct : ∀ i < chain.numShortTermRefPicSets.toNat, SpsSetCorrect chain.sets
      { pSps with nNumStRps := chain.numShortTermRefPicSets.toNat } i
  · obtain ⟨final, known⟩ := @sps_loop_known chain.sets
      { pSps with nNumStRps := chain.numShortTermRefPicSets.toNat } correct
    rw [known.reached, map_some]
    apply and_congr_right
    intro _
    have number : final.nNumStRps = chain.numShortTermRefPicSets.toNat := known.number
    have slices := @slices_correct_iff chain.sets
      { pSps with nNumStRps := chain.numShortTermRefPicSets.toNat } final
      (by rw [number]; exact known) (by rw [number]; exact few) correct sliceRps chain.slices
    rw [number] at slices
    exact slices
  · cases stRpsAfter chain.sets { pSps with nNumStRps := chain.numShortTermRefPicSets.toNat }
      chain.numShortTermRefPicSets.toNat with
    | none => simpa using fun all => absurd all correct
    | some final =>
      constructor
      all_goals
        intro both
        exact absurd both.1 correct

def clearedRps : HevcShortTermRPS := ⟨0, 0, fun _ => 0, fun _ => false⟩

def clearedSps (nNumStRps : Nat) : HevcSPS := ⟨nNumStRps, fun _ => clearedRps⟩

/-- One negative picture, or a step forward from the set before that selects
every index. -/
def currentPictureSet (predicts : Bool) : RpsSyntax :=
  { interRefPicSetPredictionFlag := predicts
    deltaIdxMinus1 := 0
    deltaRpsSign := false
    absDeltaRpsMinus1 := 0
    usedByCurrPicFlag := fun _ => true
    useDeltaFlag := fun _ => false
    numNegativePics := 1
    numPositivePics := 0
    deltaPocS0Minus1 := fun _ => 0
    usedByCurrPicS0Flag := fun _ => true
    deltaPocS1Minus1 := fun _ => 0
    usedByCurrPicS1Flag := fun _ => false }

def currentPictureChain : RpsChain :=
  { numShortTermRefPicSets := 2
    sets := fun i => currentPictureSet (i = 1)
    slices := [⟨true, currentPictureSet false, 1⟩] }

/-- The predicted set keeps delta 0, the current picture itself. -/
theorem current_picture_chain_incorrect :
    ¬ ChainCorrect currentPictureChain (clearedSps 0) clearedRps := by
  intro correct
  obtain ⟨result, computed, clause⟩ := correct.1 1 (by decide)
  have stored : (spsResult currentPictureChain.sets (clearedSps 2) 1).map
      (fun result => (result.2, result.1.nNumDeltaPocs, result.1.nDeltaPoc 0)) =
        some (0, 2, 0) := by decide
  rw [show spsResult currentPictureChain.sets (clearedSps 2) 1 = some result from computed,
    map_some, Option.some.injEq, Prod.mk.injEq, Prod.mk.injEq] at stored
  obtain ⟨accepted, total, zero⟩ := stored
  obtain ⟨derived, -, holds⟩ := clause accepted
  exact stored_delta_nonzero holds (by omega) zero

end CedarC.H265ShortTermRpsChain
