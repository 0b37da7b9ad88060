import CedarC.H265ListEntries

/-!
# Reference picture lists against clause 8.3.4

The temporary list of the clause goes round the candidates. `HevcSliceRps` goes round them
in whole turns until there are as many entries as the list is to have, at most
`HEVC_MAX_REFS`, and refuses a modification that names an entry behind these.
-/

namespace CedarC.H265SliceListClause

open H265Dpb H265ListEntries H265RefLists List
open CedarC.H265ShortTermRps (hevcCeilLog2)

section Clause

variable (pHevcDec : HevcContex) (pSh : HevcSliceHeader)

/-- Entry `k` of `RefPicListTemp`: the candidates in the order of the list, gone round. -/
def refPicListTemp (nListIdx : RefList) (k : Nat) : Option RefSlot :=
  (candSlots pHevcDec nListIdx)[k % (candSlots pHevcDec nListIdx).length]?

def refPicList (nListIdx : RefList) (i : Nat) : Option RefSlot :=
  if pSh.bRplModificationFlag nListIdx then
    refPicListTemp pHevcDec nListIdx (pSh.ListEntryLx nListIdx i)
  else refPicListTemp pHevcDec nListIdx i

/-- The lists of the slice are those of the clause, with their long term marks. -/
def ListsOfClause (RefPicList : RefList → RefSlots) : Prop :=
  ∀ nListIdx ∈ sliceLists pSh.eSliceType, ∀ i < pSh.nNumOfRefs nListIdx,
    (RefPicList nListIdx).getD i none = refPicList pHevcDec pSh nListIdx i

/-- `HevcComputeNumOfRefs` of a slice that is not of type I. -/
def HevcComputeNumOfRefs : Nat :=
  (pHevcDec.pShortTermRps.elim 0 fun pSrps =>
    (List.range pSrps.nNumDeltaPocs.toNat).countP fun i => pSrps.bUsed i) +
    pHevcDec.LongTermRps.countP LongTermRef.bUsed

/-- What the slice parser accepts: with more than one picture to refer to, a modification
of as many bits as `HevcCeilLog2` gives. -/
def ParserAccepts : Prop :=
  ∀ nListIdx ∈ sliceLists pSh.eSliceType, pSh.bRplModificationFlag nListIdx = true →
    1 < HevcComputeNumOfRefs pHevcDec ∧ ∀ i < pSh.nNumOfRefs nListIdx,
        pSh.ListEntryLx nListIdx i < 2 ^ hevcCeilLog2 (HevcComputeNumOfRefs pHevcDec)

/-- The entries of the temporary list of `HevcSliceRps`: whole turns round the candidates. -/
def tempEntries (nListIdx : RefList) : Nat :=
  let candidates := (candSlots pHevcDec nListIdx).length
  min HEVC_MAX_REFS
    ((pSh.nNumOfRefs nListIdx + candidates - 1) / candidates * candidates)

/-- No list is longer than the array, and a modification names entries of the temporary
list only. -/
def EntriesInside : Prop :=
  ∀ nListIdx ∈ sliceLists pSh.eSliceType, pSh.nNumOfRefs nListIdx ≤ HEVC_MAX_REFS ∧
      (pSh.bRplModificationFlag nListIdx = true → ∀ i < pSh.nNumOfRefs nListIdx,
        pSh.ListEntryLx nListIdx i < tempEntries pHevcDec pSh nListIdx)

instance : Decidable (EntriesInside pHevcDec pSh) :=
  inferInstanceAs (Decidable (∀ nListIdx ∈ _, _ ∧ (_ → ∀ i < _, _)))

end Clause

section Turns

variable {cands : List RefSlot} {nNumOfRefs : Nat}

def turnsFor (nNumOfRefs candidates : Nat) : Nat := (nNumOfRefs + candidates - 1) / candidates

theorem turns_enough (some : cands ≠ []) :
    nNumOfRefs ≤ turnsFor nNumOfRefs cands.length * cands.length := by
  have positive := length_pos_iff.mpr some
  have split := Nat.div_add_mod (nNumOfRefs + cands.length - 1) cands.length
  have bound := Nat.mod_lt (nNumOfRefs + cands.length - 1) positive
  unfold turnsFor
  rw [Nat.mul_comm] at split
  omega

theorem turns_needed (some : cands ≠ []) {turns : Nat}
    (fewer : turns < turnsFor nNumOfRefs cands.length) : turns * cands.length < nNumOfRefs := by
  have positive := length_pos_iff.mpr some
  unfold turnsFor at fewer
  have more := (Nat.le_div_iff_mul_le positive).mp (Nat.succ_le_of_lt fewer)
  rw [Nat.succ_mul] at more
  omega

def roundTurns (cands : List RefSlot) (turns : Nat) : List RefSlot :=
  (List.replicate turns cands).flatten.take HEVC_MAX_REFS

theorem round_turns_length (turns : Nat) :
    (roundTurns cands turns).length = min HEVC_MAX_REFS (turns * cands.length) := by
  unfold roundTurns
  rw [length_take, length_flatten, map_replicate, sum_replicate_nat]

theorem next_turn (turns : Nat) :
    (roundTurns cands turns ++ cands).take HEVC_MAX_REFS = roundTurns cands (turns + 1) := by
  unfold roundTurns
  rw [take_append_take, replicate_succ', flatten_concat]

theorem fill_temp_from (some : cands ≠ []) (bound : nNumOfRefs ≤ HEVC_MAX_REFS) {turns : Nat}
    (fuel : Nat) (early : turns ≤ turnsFor nNumOfRefs cands.length)
    (enough : turnsFor nNumOfRefs cands.length ≤ turns + fuel) :
    fillTemp cands nNumOfRefs fuel (roundTurns cands turns) =
      roundTurns cands (turnsFor nNumOfRefs cands.length) := by
  induction fuel generalizing turns with
  | zero =>
    rw [fillTemp, Nat.le_antisymm early (by omega)]
  | succ fuel further =>
    rw [fillTemp, round_turns_length]
    by_cases last : turns = turnsFor nNumOfRefs cands.length
    · have full := @turns_enough cands nNumOfRefs some
      rw [← last] at full
      rw [if_neg (by omega), last]
    · have few := @turns_needed cands nNumOfRefs some turns (by omega)
      rw [if_pos (by omega), next_turn]
      apply further
      · omega
      · omega

theorem turns_bound (some : cands ≠ []) (bound : nNumOfRefs ≤ HEVC_MAX_REFS) :
    turnsFor nNumOfRefs cands.length ≤ HEVC_MAX_REFS := by
  have positive := length_pos_iff.mpr some
  by_contra more
  have few := @turns_needed cands nNumOfRefs some HEVC_MAX_REFS (by omega)
  have least : HEVC_MAX_REFS * 1 ≤ HEVC_MAX_REFS * cands.length := Nat.mul_le_mul_left _ positive
  omega

theorem fill_temp_whole_turns (some : cands ≠ []) (bound : nNumOfRefs ≤ HEVC_MAX_REFS) :
    fillTemp cands nNumOfRefs HEVC_MAX_REFS [] =
      roundTurns cands (turnsFor nNumOfRefs cands.length) := by
  have short := turns_bound some bound
  have start : ([] : List RefSlot) = roundTurns cands 0 := rfl
  rw [start]
  apply fill_temp_from some bound
  · exact Nat.zero_le _
  · omega

end Turns

section Building

variable {pHevcDec : HevcContex} {pSh : HevcSliceHeader}

theorem temp_entries_length {nListIdx : RefList} (some : candSlots pHevcDec .L0 ≠ [])
    (bound : pSh.nNumOfRefs nListIdx ≤ HEVC_MAX_REFS) :
    (fillTemp (candSlots pHevcDec nListIdx) (pSh.nNumOfRefs nListIdx) HEVC_MAX_REFS []).length =
      tempEntries pHevcDec pSh nListIdx := by
  rw [fill_temp_whole_turns (cand_slots_nonempty some nListIdx) bound, round_turns_length]
  rfl

/-- A modification is copied up to the first index behind the temporary list. -/
theorem modify_list_ends (RplTemp : List RefSlot) (entries : Nat → Nat) (count : Nat)
    (pRpl : RefSlots) :
    (modifyList RplTemp entries count pRpl).2 = true ↔ ∀ i < count, entries i < RplTemp.length := by
  induction count with
  | zero => exact iff_of_true rfl fun i below => absurd below (Nat.not_lt_zero i)
  | succ count earlier =>
    rw [modifyList]
    cases before : modifyList RplTemp entries count pRpl with
    | mk written done =>
      rw [before] at earlier
      cases done with
      | false =>
        apply iff_of_false Bool.false_ne_true
        intro all
        exact Bool.false_ne_true (earlier.mpr fun i below => all i (by omega))
      | true =>
        dsimp only
        have so_far := earlier.mp rfl
        cases named : RplTemp[entries count]? with
        | none =>
          apply iff_of_false Bool.false_ne_true
          intro all
          have inside := all count (Nat.lt_succ_self count)
          have behind := List.getElem?_eq_none_iff.mp named
          omega
        | some slot =>
          have inside := (List.getElem?_eq_some_iff.mp named).1
          apply iff_of_true rfl
          intro i below
          rcases Nat.lt_succ_iff_lt_or_eq.mp below with sooner | last
          · exact so_far i sooner
          · rw [last]
            exact inside

theorem build_list_ends (some : candSlots pHevcDec .L0 ≠ []) {nListIdx : RefList}
    (bound : pSh.nNumOfRefs nListIdx ≤ HEVC_MAX_REFS) (pRpl : RefSlots) :
    (buildList pHevcDec pSh nListIdx pRpl).2 = true ↔
      (pSh.bRplModificationFlag nListIdx = true → ∀ i < pSh.nNumOfRefs nListIdx,
        pSh.ListEntryLx nListIdx i < tempEntries pHevcDec pSh nListIdx) := by
  unfold buildList
  dsimp only
  by_cases modified : pSh.bRplModificationFlag nListIdx = true
  · rw [if_pos modified, modify_list_ends, temp_entries_length some bound]
    exact ⟨fun all _ => all, fun all => all modified⟩
  · rw [if_neg modified]
    exact iff_of_true rfl fun flag => absurd flag modified

variable (some : candSlots pHevcDec .L0 ≠ [])

include some

theorem build_lists_ends (lists : List RefList) (RefPicList : RefList → RefSlots) :
    (buildLists pHevcDec pSh lists RefPicList).2 = .built ↔
      ∀ nListIdx ∈ lists, pSh.nNumOfRefs nListIdx ≤ HEVC_MAX_REFS ∧
        (pSh.bRplModificationFlag nListIdx = true → ∀ i < pSh.nNumOfRefs nListIdx,
          pSh.ListEntryLx nListIdx i < tempEntries pHevcDec pSh nListIdx) := by
  induction lists generalizing RefPicList with
  | nil => exact iff_of_true rfl fun _ member => absurd member not_mem_nil
  | cons first rest further =>
    rw [buildLists, forall_mem_cons]
    by_cases long : HEVC_MAX_REFS < pSh.nNumOfRefs first
    · rw [if_pos long]
      apply iff_of_false
      · exact SliceRpsResult.noConfusion
      · rintro ⟨⟨short, -⟩, -⟩
        omega
    · have bound := Nat.not_lt.mp long
      have ends := @build_list_ends pHevcDec pSh some first bound (RefPicList first)
      rw [if_neg long]
      cases result : buildList pHevcDec pSh first (RefPicList first) with
      | mk pRpl done =>
        rw [result] at ends
        cases done with
        | true =>
          dsimp only
          rw [further]
          exact ⟨fun all => ⟨⟨bound, ends.mp rfl⟩, all⟩, fun all => all.2⟩
        | false =>
          dsimp only
          apply iff_of_false
          · exact SliceRpsResult.noConfusion
          · rintro ⟨⟨-, inside⟩, -⟩
            exact Bool.false_ne_true (ends.mpr inside)

theorem slice_rps_ends (RefPicList : RefList → RefSlots) :
    (HevcSliceRps pHevcDec pSh RefPicList).2 = .built ↔ EntriesInside pHevcDec pSh := by
  unfold HevcSliceRps
  rw [if_neg some]
  exact build_lists_ends some _ RefPicList

theorem buildable_of_inside
    (inside : EntriesInside pHevcDec pSh) : ListsBuildable pHevcDec pSh := by
  apply And.intro some
  intro nListIdx listed
  rcases inside nListIdx listed with ⟨bound, named⟩
  apply And.intro bound
  rw [temp_entries_length some bound]
  exact named

/-- Indices that the clause allows, of a set that fits the array, lie inside. -/
theorem candidates_inside {nListIdx : RefList} {entry : Nat} (filled : 0 < pSh.nNumOfRefs nListIdx)
    (fits : (candSlots pHevcDec nListIdx).length ≤ HEVC_MAX_REFS)
    (named : entry < (candSlots pHevcDec nListIdx).length) :
    entry < tempEntries pHevcDec pSh nListIdx := by
  have nonempty := cand_slots_nonempty some nListIdx
  have enough := @turns_enough _ (pSh.nNumOfRefs nListIdx) nonempty
  have one : 1 * (candSlots pHevcDec nListIdx).length ≤
      turnsFor (pSh.nNumOfRefs nListIdx) (candSlots pHevcDec nListIdx).length *
        (candSlots pHevcDec nListIdx).length := by
    apply Nat.mul_le_mul_right
    apply Nat.one_le_iff_ne_zero.mpr
    intro none
    rw [none, Nat.zero_mul] at enough
    omega
  unfold tempEntries
  dsimp only
  change _ < min HEVC_MAX_REFS (turnsFor _ _ * _)
  omega

end Building

/-- A decoder whose current picture refers to the three pictures in front of it. -/
def threeBefore : HevcContex where
  secOutputEnabled := false
  bDisplayErrorFrameFlag := true
  bHadFindSpsFlag := true
  bHadFindPpsFlag := true
  pSps := none
  bFbmInitFlag := true
  pCurrFrame := none
  pCurrSecFrame := none
  DPB := []
  pCurrDPB := none
  nSeqDecode := 0
  nSeqOutput := 0
  Rps := fun type =>
    match type with
    | .HEVC_ST_CURR_BEF => [⟨0, 7⟩, ⟨1, 6⟩, ⟨2, 5⟩]
    | _ => []
  eNaluType := .HEVC_NAL_TRAIL_R
  nPoc := 8
  pShortTermRps := some ⟨3, 3, fun i => -1 - i, fun _ => true⟩
  LongTermRps := []
  bPicOutputFlag := true
  bDropFrameAdaptiveEnable := false
  nSqueueFramePocList := []
  nLastDispPoc := 0
  bIsFirstPicture := false
  nCurrentFramePts := 0
  PtsList := []
  fbmCalls := []
  outputs := []

def twoEntries (first : Nat) : HevcSliceHeader where
  eSliceType := .HEVC_P_SLICE
  nNumOfRefs := fun nListIdx => match nListIdx with | .L0 => 2 | .L1 => 0
  bRplModificationFlag := fun nListIdx => match nListIdx with | .L0 => true | .L1 => false
  ListEntryLx := fun _ i => if i = 0 then first else 0

def emptyArrays : RefList → RefSlots := fun _ => List.replicate HEVC_MAX_REFS none

end CedarC.H265SliceListClause
