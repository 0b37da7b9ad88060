import CedarC.H265RefLists
import Mathlib.Data.List.GetD
import Mathlib.Data.List.ReduceOption
import Mathlib.Data.List.TakeWhile

/-!
# Entries of the reference picture lists and bytes of their words

Entry `j` of a list that `HevcSliceRps` has built is the candidate that the header
names, counted round the candidates. Where no entry is null, byte `j` of the words for
the hardware is the one for entry `j`.
-/

namespace CedarC.H265ListEntries

open H265Dpb H265RefLists List Function

section Words

def wordByte (words : List Nat) (j : Nat) : Nat := words.getD (j / 4) 0 / 256 ^ (j % 4) % 256

theorem packed_byte {bytes : List Nat} (small : ∀ byte ∈ bytes, byte < 256) (j : Nat) :
    packBytes bytes / 256 ^ j % 256 = bytes.getD j 0 := by
  unfold packBytes
  induction bytes generalizing j with
  | nil => simp
  | cons byte rest ih =>
    have first := small byte mem_cons_self
    have later := fun j => ih (fun other inside => small other (mem_cons_of_mem _ inside)) j
    rw [Nat.ofDigits_cons]
    cases j with
    | zero =>
      rw [getD_cons_zero, Nat.pow_zero, Nat.div_one, Nat.add_mul_mod_self_left]
      exact Nat.mod_eq_of_lt first
    | succ j =>
      rw [getD_cons_succ, Nat.pow_succ', ← Nat.div_div_eq_div_mul,
        Nat.add_mul_div_left _ _ (by decide), Nat.div_eq_of_lt first, Nat.zero_add]
      exact later j

theorem ref_byte_lt (slot : RefSlot) : refByte slot < 256 := by
  unfold refByte
  have index := Nat.mod_lt slot.Ref (show 0 < 32 by decide)
  split_ifs <;> omega

variable {pRpl : RefSlots} {nNumOfRefs : Nat}
  (all : ∀ j < nNumOfRefs, (pRpl.getD j none).isSome = true)

include all

theorem word_slots_some (i : Nat) : (wordSlots pRpl nNumOfRefs i).all Option.isSome = true := by
  rw [all_eq_true]
  intro entry inside
  obtain ⟨k, below, rfl⟩ := mem_map.mp inside
  have bound := mem_range.mp below
  exact all (i + k) (by omega)

theorem ref_words_complete : refWords pRpl nNumOfRefs = (wordStarts nNumOfRefs).map fun i =>
        packBytes ((packedSlots pRpl nNumOfRefs i).map refByte) := by
  have each : refWord pRpl nNumOfRefs = fun i =>
      some (packBytes ((packedSlots pRpl nNumOfRefs i).map refByte)) := by
    funext i
    unfold refWord
    rw [if_pos (word_slots_some all i)]
  unfold refWords
  rw [each, filterMap_eq_map']

theorem packed_slots_getD {i k : Nat} (inside : k < min 4 (nNumOfRefs - i)) :
    (packedSlots pRpl nNumOfRefs i)[k]? = pRpl.getD (i + k) none := by
  have whole : (wordSlots pRpl nNumOfRefs i).takeWhile Option.isSome =
      wordSlots pRpl nNumOfRefs i := by
    apply takeWhile_eq_self_iff.mpr
    intro entry listed
    exact all_eq_true.mp (word_slots_some all i) entry listed
  have reduced : (packedSlots pRpl nNumOfRefs i).map some = wordSlots pRpl nNumOfRefs i := by
    unfold packedSlots
    rw [whole]
    have every := all_eq_true.mp (word_slots_some all i)
    generalize wordSlots pRpl nNumOfRefs i = entries at every
    induction entries with
    | nil => rfl
    | cons entry rest ih =>
      obtain ⟨slot, rfl⟩ := Option.isSome_iff_exists.mp (every entry mem_cons_self)
      rw [reduceOption_cons_of_some, map_cons,
        ih fun other listed => every other (mem_cons_of_mem _ listed)]
  have entry : (wordSlots pRpl nNumOfRefs i)[k]? = some (pRpl.getD (i + k) none) := by
    unfold wordSlots
    rw [List.getElem?_map, List.getElem?_range inside]
    rfl
  rw [← reduced, List.getElem?_map] at entry
  obtain ⟨slot, held, same⟩ := Option.map_eq_some_iff.mp entry
  rw [held, same]

theorem word_byte_of_entry {j : Nat}
    (inside : j < nNumOfRefs) {slot : RefSlot} (entry : pRpl.getD j none = some slot) :
    wordByte (refWords pRpl nNumOfRefs) j = refByte slot := by
  have split := Nat.div_add_mod j 4
  have word : j / 4 < (nNumOfRefs + 3) / 4 := by omega
  have byte : j % 4 < min 4 (nNumOfRefs - 4 * (j / 4)) := by omega
  unfold wordByte
  rw [ref_words_complete all]
  have start : ((wordStarts nNumOfRefs).map fun i =>
      packBytes ((packedSlots pRpl nNumOfRefs i).map refByte)).getD (j / 4) 0 =
        packBytes ((packedSlots pRpl nNumOfRefs (4 * (j / 4))).map refByte) := by
    unfold wordStarts
    rw [map_map, getD_eq_getElem?_getD, List.getElem?_map, List.getElem?_range word]
    rfl
  rw [start, packed_byte]
  · have held := packed_slots_getD all byte
    rw [split, entry] at held
    rw [getD_eq_getElem?_getD, List.getElem?_map, held]
    rfl
  · intro byte packed
    obtain ⟨other, _, rfl⟩ := mem_map.mp packed
    exact ref_byte_lt other

end Words

section Filling

variable {α : Type*}

theorem get_round (cands : List α) (turns : Nat) {k : Nat} (inside : k < turns * cands.length) :
    (List.replicate turns cands).flatten[k]? = cands[k % cands.length]? := by
  induction turns generalizing k with
  | zero => omega
  | succ turns ih =>
    rw [replicate_succ, flatten_cons]
    by_cases first : k < cands.length
    · rw [List.getElem?_append_left first, Nat.mod_eq_of_lt first]
    · rw [List.getElem?_append_right (Nat.not_lt.mp first),
        Nat.mod_eq_sub_mod (Nat.not_lt.mp first)]
      apply ih
      rw [Nat.succ_mul] at inside
      omega

theorem take_append_take (limit : Nat) (first second : List α) :
    (first.take limit ++ second).take limit = (first ++ second).take limit := by
  by_cases short : first.length ≤ limit
  · rw [take_of_length_le short]
  · have long : limit ≤ first.length := by omega
    rw [take_append_of_le_length long, take_append_of_le_length]
    · exact take_take.trans (by rw [Nat.min_self])
    · rw [length_take]
      omega

variable {cands : List RefSlot} {nNumOfRefs : Nat}

theorem fill_temp_turns (cands : List RefSlot) (nNumOfRefs fuel turns : Nat) :
    ∃ last, fillTemp cands nNumOfRefs fuel
        ((List.replicate turns cands).flatten.take HEVC_MAX_REFS) =
          (List.replicate last cands).flatten.take HEVC_MAX_REFS ∧
      (nNumOfRefs ≤ ((List.replicate last cands).flatten.take HEVC_MAX_REFS).length ∨
        last = turns + fuel) := by
  induction fuel generalizing turns with
  | zero => exact ⟨turns, rfl, Or.inr rfl⟩
  | succ fuel ih =>
    unfold fillTemp
    split_ifs with more
    · have next : ((List.replicate turns cands).flatten.take HEVC_MAX_REFS ++ cands).take
          HEVC_MAX_REFS = (List.replicate (turns + 1) cands).flatten.take HEVC_MAX_REFS := by
        rw [take_append_take, replicate_succ', flatten_concat]
      rw [next]
      obtain ⟨last, filled, enough⟩ := ih (turns + 1)
      refine ⟨last, filled, ?_⟩
      rcases enough with enough | all
      · exact Or.inl enough
      · exact Or.inr (by omega)
    · exact ⟨turns, rfl, Or.inl (by omega)⟩

/-- With a candidate there are entries enough, each of them in its turn. -/
theorem fill_temp_entries (some : cands ≠ []) (bound : nNumOfRefs ≤ HEVC_MAX_REFS) :
    nNumOfRefs ≤ (fillTemp cands nNumOfRefs HEVC_MAX_REFS []).length ∧
      (fillTemp cands nNumOfRefs HEVC_MAX_REFS []).length ≤ HEVC_MAX_REFS ∧
      ∀ k < (fillTemp cands nNumOfRefs HEVC_MAX_REFS []).length,
        (fillTemp cands nNumOfRefs HEVC_MAX_REFS [])[k]? = cands[k % cands.length]? := by
  have positive := length_pos_iff.mpr some
  obtain ⟨last, filled, enough⟩ := fill_temp_turns cands nNumOfRefs HEVC_MAX_REFS 0
  have size : ((List.replicate last cands).flatten.take HEVC_MAX_REFS).length =
      min HEVC_MAX_REFS (last * cands.length) := by
    rw [length_take, length_flatten, map_replicate, sum_replicate_nat]
  change fillTemp cands nNumOfRefs HEVC_MAX_REFS [] = _ at filled
  rw [filled]
  refine ⟨?_, ?_, ?_⟩
  · rcases enough with enough | all
    · exact enough
    · rw [size, all, Nat.zero_add]
      have turns : HEVC_MAX_REFS * 1 ≤ HEVC_MAX_REFS * cands.length :=
        Nat.mul_le_mul_left _ positive
      omega
  · rw [size]
    exact Nat.min_le_left _ _
  · intro k inside
    rw [size] at inside
    rw [List.getElem?_take_of_lt (by omega)]
    exact get_round cands last (by omega)

end Filling

variable {pHevcDec : HevcContex} {pSh : HevcSliceHeader}

/-- Entry `j` of a list: the candidates in their order, counted round, with the index that
a modification gives. -/
def listEntry (pHevcDec : HevcContex) (pSh : HevcSliceHeader) (nListIdx : RefList) (j : Nat) :
    Option RefSlot :=
  let cands := candSlots pHevcDec nListIdx
  let index := if pSh.bRplModificationFlag nListIdx then pSh.ListEntryLx nListIdx j else j
  cands[index % cands.length]?

/-- The lists of the slice have candidates, they fit in the arrays, and no index of a
modification is behind the entries of the temporary list. -/
def ListsBuildable (pHevcDec : HevcContex) (pSh : HevcSliceHeader) : Prop :=
  candSlots pHevcDec .L0 ≠ [] ∧ ∀ nListIdx ∈ sliceLists pSh.eSliceType,
      pSh.nNumOfRefs nListIdx ≤ HEVC_MAX_REFS ∧
        (pSh.bRplModificationFlag nListIdx = true → ∀ j < pSh.nNumOfRefs nListIdx,
          pSh.ListEntryLx nListIdx j <
            (fillTemp (candSlots pHevcDec nListIdx) (pSh.nNumOfRefs nListIdx) HEVC_MAX_REFS
              []).length)

instance (pHevcDec : HevcContex) (pSh : HevcSliceHeader) :
    Decidable (ListsBuildable pHevcDec pSh) :=
  inferInstanceAs (Decidable (_ ∧ ∀ nListIdx ∈ _, _ ∧ (_ → ∀ j < _, _)))

theorem cand_slots_nonempty (some : candSlots pHevcDec .L0 ≠ []) (nListIdx : RefList) :
    candSlots pHevcDec nListIdx ≠ [] := by
  intro empty
  apply some
  cases nListIdx with
  | L0 => exact empty
  | L1 =>
    unfold candSlots candLists at empty ⊢
    simp only [flatMap_cons, flatMap_nil, append_nil, append_eq_nil_iff]
      at empty ⊢
    exact ⟨empty.2.1, empty.1, empty.2.2⟩

variable {RplTemp : List RefSlot} {pRpl : RefSlots}

theorem modify_list_done {entries : Nat → Nat} {count : Nat} (size : count ≤ pRpl.length)
    (inside : ∀ j < count, entries j < RplTemp.length) :
    ∃ built, modifyList RplTemp entries count pRpl = (built, true) ∧ built.length = pRpl.length ∧
      ∀ j < count, built.getD j none = RplTemp[entries j]? := by
  induction count with
  | zero => exact ⟨pRpl, rfl, rfl, fun j below => absurd below (Nat.not_lt_zero j)⟩
  | succ count ih =>
    obtain ⟨built, done, length, held⟩ := ih (by omega) fun j below => inside j (by omega)
    have bound := inside count (Nat.lt_succ_self count)
    have named : RplTemp[entries count]? = some RplTemp[entries count] :=
      List.getElem?_eq_getElem bound
    refine ⟨built.set count (some RplTemp[entries count]), ?_, ?_, ?_⟩
    · rw [modifyList, done]
      dsimp only
      rw [named]
    · rw [length_set, length]
    · intro j below
      rw [getD_eq_getElem?_getD, List.getElem?_set]
      by_cases last : count = j
      · subst last
        rw [if_pos rfl, if_pos (by omega), named]
        rfl
      · rw [if_neg last, ← getD_eq_getElem?_getD]
        exact held j (by omega)

theorem modify_list_length (RplTemp : List RefSlot) (entries : Nat → Nat) (count : Nat)
    (pRpl : RefSlots) : (modifyList RplTemp entries count pRpl).1.length = pRpl.length := by
  induction count with
  | zero => rfl
  | succ count ih =>
    rw [modifyList]
    split
    · next written result =>
        rw [result] at ih
        exact ih
    · next written result =>
        rw [result] at ih
        split
        · exact ih
        · exact (length_set ..).trans ih

theorem copy_list_entry {j : Nat} (inside : j < RplTemp.length) :
    (copyList RplTemp).getD j none = RplTemp[j]? := by
  unfold copyList
  rw [getD_eq_getElem?_getD, List.getElem?_append_left (by rwa [length_map]),
    List.getElem?_map, List.getElem?_eq_getElem inside]
  rfl

theorem build_list_done (some : candSlots pHevcDec .L0 ≠ []) (nListIdx : RefList)
    (size : pRpl.length = HEVC_MAX_REFS) (bound : pSh.nNumOfRefs nListIdx ≤ HEVC_MAX_REFS)
    (named : pSh.bRplModificationFlag nListIdx = true → ∀ j < pSh.nNumOfRefs nListIdx,
      pSh.ListEntryLx nListIdx j <
        (fillTemp (candSlots pHevcDec nListIdx) (pSh.nNumOfRefs nListIdx) HEVC_MAX_REFS
          []).length) :
    ∃ built, buildList pHevcDec pSh nListIdx pRpl = (built, true) ∧ built.length = HEVC_MAX_REFS ∧
      ∀ j < pSh.nNumOfRefs nListIdx,
        built.getD j none = listEntry pHevcDec pSh nListIdx j := by
  obtain ⟨enough, fits, round⟩ := fill_temp_entries (cand_slots_nonempty some nListIdx) bound
  unfold buildList listEntry
  dsimp only
  split_ifs with modified
  · obtain ⟨built, done, length, held⟩ := modify_list_done
      (show pSh.nNumOfRefs nListIdx ≤ pRpl.length by rwa [size]) (named modified)
    refine ⟨built, done, length.trans size, ?_⟩
    intro j below
    rw [held j below]
    exact round _ (named modified j below)
  · refine ⟨_, rfl, ?_, ?_⟩
    · unfold copyList
      rw [length_append, length_map, length_replicate]
      omega
    · intro j below
      rw [copy_list_entry (by omega)]
      exact round j (by omega)

theorem build_list_length (nListIdx : RefList) {pRpl : RefSlots}
    (size : pRpl.length = HEVC_MAX_REFS) :
    (buildList pHevcDec pSh nListIdx pRpl).1.length = HEVC_MAX_REFS := by
  unfold buildList
  dsimp only
  split_ifs
  · exact (modify_list_length ..).trans size
  · obtain ⟨last, filled, _⟩ := fill_temp_turns (candSlots pHevcDec nListIdx)
      (pSh.nNumOfRefs nListIdx) HEVC_MAX_REFS 0
    change fillTemp (candSlots pHevcDec nListIdx) (pSh.nNumOfRefs nListIdx) HEVC_MAX_REFS [] = _
      at filled
    unfold copyList
    rw [filled, length_append, length_map, length_replicate, length_take]
    omega

theorem build_lists_length {RefPicList : RefList → RefSlots} (lists : List RefList)
    (size : ∀ nListIdx, (RefPicList nListIdx).length = HEVC_MAX_REFS) (nListIdx : RefList) :
    ((buildLists pHevcDec pSh lists RefPicList).1 nListIdx).length = HEVC_MAX_REFS := by
  have updated : ∀ (RefPicList : RefList → RefSlots) (other : RefList) (pRpl : RefSlots),
      (∀ nListIdx, (RefPicList nListIdx).length = HEVC_MAX_REFS) →
        pRpl.length = HEVC_MAX_REFS → ∀ nListIdx,
          (update RefPicList other pRpl nListIdx).length = HEVC_MAX_REFS := by
    intro RefPicList other pRpl size length nListIdx
    by_cases same : nListIdx = other
    · subst same
      rwa [update_self]
    · rw [update_of_ne same]
      exact size nListIdx
  induction lists generalizing RefPicList with
  | nil => exact size nListIdx
  | cons first rest ih =>
    have length := @build_list_length pHevcDec pSh first _ (size first)
    rw [buildLists]
    split_ifs
    · exact size nListIdx
    · split
      · next built result =>
          rw [result] at length
          exact ih (updated RefPicList first built size length)
      · next built result =>
          rw [result] at length
          exact updated RefPicList first built size length nListIdx

theorem slice_rps_length {RefPicList : RefList → RefSlots}
    (size : ∀ nListIdx, (RefPicList nListIdx).length = HEVC_MAX_REFS) (nListIdx : RefList) :
    ((HevcSliceRps pHevcDec pSh RefPicList).1 nListIdx).length = HEVC_MAX_REFS := by
  unfold HevcSliceRps
  split_ifs
  · exact size nListIdx
  · exact build_lists_length _ size nListIdx

/-- `HevcSliceRps` builds every list of a slice whose lists can be built. -/
theorem slice_rps_builds {RefPicList : RefList → RefSlots}
    (size : ∀ nListIdx, (RefPicList nListIdx).length = HEVC_MAX_REFS)
    (buildable : ListsBuildable pHevcDec pSh) :
    ∃ built, HevcSliceRps pHevcDec pSh RefPicList = (built, .built) ∧
      ∀ nListIdx ∈ sliceLists pSh.eSliceType, ∀ j < pSh.nNumOfRefs nListIdx,
        (built nListIdx).getD j none = listEntry pHevcDec pSh nListIdx j := by
  obtain ⟨some, lists⟩ := buildable
  have all : ∀ (order : List RefList) (RefPicList : RefList → RefSlots),
      (∀ nListIdx, (RefPicList nListIdx).length = HEVC_MAX_REFS) → order.Nodup →
      (∀ nListIdx ∈ order, nListIdx ∈ sliceLists pSh.eSliceType) →
      ∃ built, buildLists pHevcDec pSh order RefPicList = (built, .built) ∧
        (∀ nListIdx ∈ order, ∀ j < pSh.nNumOfRefs nListIdx,
          (built nListIdx).getD j none = listEntry pHevcDec pSh nListIdx j) ∧
        ∀ nListIdx ∉ order, built nListIdx = RefPicList nListIdx := by
    intro order
    induction order with
    | nil =>
      intro RefPicList _ _ _
      exact ⟨RefPicList, rfl, fun _ inside => absurd inside not_mem_nil, fun _ _ => rfl⟩
    | cons first rest ih =>
      intro RefPicList size distinct listed
      obtain ⟨apart, distinct⟩ := nodup_cons.mp distinct
      obtain ⟨bound, named⟩ := lists first (listed first mem_cons_self)
      obtain ⟨pRpl, done, length, held⟩ := build_list_done some first (size first) bound named
      obtain ⟨built, rested, entries, others⟩ := ih (update RefPicList first pRpl)
        (by
          intro nListIdx
          by_cases same : nListIdx = first
          · subst same
            rwa [update_self]
          · rw [update_of_ne same]
            exact size nListIdx)
        distinct fun nListIdx inside => listed nListIdx (mem_cons_of_mem _ inside)
      refine ⟨built, ?_, ?_, ?_⟩
      · rw [buildLists, if_neg (by omega), done]
        exact rested
      · intro nListIdx inside
        rcases mem_cons.mp inside with same | later
        · subst same
          rw [others _ apart, update_self]
          exact held
        · exact entries nListIdx later
      · intro nListIdx outside
        rw [others nListIdx fun later => outside (mem_cons_of_mem _ later),
          update_of_ne fun same => outside (by
            rw [same]
            exact mem_cons_self)]
  obtain ⟨built, done, entries, _⟩ := all (sliceLists pSh.eSliceType) RefPicList size
    (by cases pSh.eSliceType <;> decide) fun _ inside => inside
  refine ⟨built, ?_, entries⟩
  unfold HevcSliceRps
  rw [if_neg some]
  exact done

theorem list_entry_some (some : candSlots pHevcDec .L0 ≠ []) (nListIdx : RefList) (j : Nat) :
    ∃ slot ∈ candSlots pHevcDec nListIdx, listEntry pHevcDec pSh nListIdx j = Option.some slot := by
  have positive := length_pos_iff.mpr (cand_slots_nonempty some nListIdx)
  unfold listEntry
  dsimp only
  generalize (if pSh.bRplModificationFlag nListIdx then pSh.ListEntryLx nListIdx j else j) = index
  have inside := Nat.mod_lt index positive
  exact ⟨_, getElem_mem inside, List.getElem?_eq_getElem inside⟩

theorem cand_slot_ref {nListIdx : RefList} {slot : RefSlot}
    (listed : slot ∈ candSlots pHevcDec nListIdx) :
    ∃ type, ∃ entry ∈ pHevcDec.Rps type, entry.Ref = slot.Ref := by
  obtain ⟨type, _, inside⟩ := mem_flatMap.mp listed
  obtain ⟨entry, held, rfl⟩ := mem_map.mp inside
  exact ⟨type, entry, held, rfl⟩

end CedarC.H265ListEntries
