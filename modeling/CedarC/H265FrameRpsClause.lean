import CedarC.H265LiveRefs

/-!
# The reference picture sets of a frame

What `HevcConstuctFrameRps` should leave in the five lists when it returns 0: owned
pictures of the current sequence, each the one that the slice header names, no more
than `HEVC_MAX_REFS` in a list, and marked as references exactly those. It does so
unless the header codes no set at all, a picture is found by its low bits alone, a
list is too long, or the picture of count 0 is missing behind one that is there.
-/

namespace CedarC.H265FrameRpsClause

open H265Dpb List
open CedarC.H265ShortTermRps (HevcShortTermRPS)
open H265LiveRefs

/-- A picture that the header names; `lsbOnly` where only the low bits of its count are
coded. -/
structure NamedRef where
  candidate : Candidate
  lsbOnly : Bool
deriving DecidableEq

/-- The pictures that the header names, with the `delta_poc_msb_present_flag` of each
long-term one. -/
def namedRefs (pHevcDec : HevcContex) (msbPresent : Nat → Bool) : List NamedRef :=
  (pHevcDec.pShortTermRps.elim [] (shortCandidates pHevcDec.nPoc)).map (⟨·, false⟩) ++
    (longCandidates pHevcDec.LongTermRps).zipIdx.map fun entry => ⟨entry.1, !msbPresent entry.2⟩

def Names (pHevcDec : HevcContex) (named : NamedRef) (pHf : HevcFrame) : Prop :=
  pHf.nPoc = named.candidate.nPoc ∨
    named.lsbOnly = true ∧ pHf.nPoc % nMaxPocLsb pHevcDec = named.candidate.nPoc
deriving Decidable

def namedFor (pHevcDec : HevcContex) (msbPresent : Nat → Bool) (type : HevcRPSType) :
    List NamedRef :=
  (namedRefs pHevcDec msbPresent).filter fun named => named.candidate.nListIdx = type

/-- The lists of `after` are those that the header of `before` codes. Each stored pointer
belongs to one of the named pictures, in their order. -/
structure SetsSound (before : HevcContex) (msbPresent : Nat → Bool) (after : HevcContex) :
    Prop where
  current : ∀ type, ∀ entry ∈ after.Rps type, inSequence after (after.frame entry.Ref) = true
  named : ∀ type, ∃ matched : List (NamedRef × Nat),
    (matched.map Prod.fst).Sublist (namedFor before msbPresent type) ∧
    (after.Rps type).map RefEntry.Ref = matched.map Prod.snd ∧
    ∀ pair ∈ matched, Names before pair.1 (after.frame pair.2)
  bounded : ∀ type, (after.Rps type).length ≤ HEVC_MAX_REFS
  marked : ∀ index, FrameFlags.marked (after.frame index).bFlags = true ↔
    ∃ type, ∃ entry ∈ after.Rps type, entry.Ref = index

/-- The header codes no set, as that of an IDR picture. -/
def noSets (pHevcDec : HevcContex) : Prop :=
  pHevcDec.pShortTermRps.isNone ∧ pHevcDec.LongTermRps = []
deriving Decidable

/-- The pictures of one list that are in `DPB`. -/
def presentIn (pHevcDec : HevcContex) (type : HevcRPSType) : List Candidate :=
  (rpsCandidates pHevcDec).filter fun candidate =>
    decide (candidate.nListIdx = type) && (HevcFindRefIdx pHevcDec candidate.nPoc).isSome

/-- Nothing is left of the sets before where none is coded; nothing is found in front of a
missing picture of count 0; else each picture that is found is the one named, and no
list is longer than its array. -/
def SetsSafe (pHevcDec : HevcContex) (msbPresent : Nat → Bool) : Prop :=
  if noSets pHevcDec then
    pHevcDec.Rps .HEVC_ST_FOLL = [] ∧ pHevcDec.Rps .HEVC_LT_CURR = [] ∧
      pHevcDec.Rps .HEVC_LT_FOLL = [] ∧
      ∀ pHf ∈ pHevcDec.DPB, FrameFlags.marked pHf.bFlags = false
  else if missesZero pHevcDec = true then
    ∀ candidate ∈ (rpsCandidates pHevcDec).takeWhile fun candidate => candidate.nPoc ≠ 0,
      HevcFindRefIdx pHevcDec candidate.nPoc = none
  else
    (∀ named ∈ namedRefs pHevcDec msbPresent, ∀ index,
      HevcFindRefIdx pHevcDec named.candidate.nPoc = some index →
        Names pHevcDec named (pHevcDec.frame index)) ∧
    ∀ type, (presentIn pHevcDec type).length ≤ HEVC_MAX_REFS

section Naming

variable {pHevcDec : HevcContex} {msbPresent : Nat → Bool}

theorem named_candidates (pHevcDec : HevcContex) (msbPresent : Nat → Bool) :
    (namedRefs pHevcDec msbPresent).map NamedRef.candidate = rpsCandidates pHevcDec := by
  unfold namedRefs rpsCandidates
  rw [map_append, map_map, map_map]
  congr 1
  · exact map_id _
  · exact zipIdx_map_fst 0 _

theorem find_in_sequence {nPoc : Int} {index : Nat}
    (found : HevcFindRefIdx pHevcDec nPoc = some index) :
    inSequence pHevcDec (pHevcDec.frame index) = true := by
  have held : ∀ test : HevcFrame → Bool,
      pHevcDec.DPB.findIdx? (fun pHf => inSequence pHevcDec pHf && test pHf) = some index →
        inSequence pHevcDec (pHevcDec.frame index) = true := by
    intro test found
    obtain ⟨inside, meets, _⟩ := List.findIdx?_eq_some_iff_getElem.mp found
    unfold HevcContex.frame
    rw [getD_eq_getElem _ _ inside]
    exact (Bool.and_eq_true _ _ ▸ meets).1
  unfold HevcFindRefIdx at found
  split at found
  · next same =>
      obtain rfl := Option.some.inj found
      exact held _ same
  · exact held _ found

theorem named_found {named : NamedRef} {index : Nat}
    (current : inSequence pHevcDec (pHevcDec.frame index) = true)
    (names : Names pHevcDec named (pHevcDec.frame index)) :
    (HevcFindRefIdx pHevcDec named.candidate.nPoc).isSome = true := by
  have inside : index < pHevcDec.DPB.length := by
    by_contra beyond
    unfold inSequence HevcContex.frame at current
    rw [getD_eq_default _ _ (Nat.not_lt.mp beyond)] at current
    cases current
  have member : pHevcDec.frame index ∈ pHevcDec.DPB := by
    unfold HevcContex.frame
    rw [getD_eq_getElem _ _ inside]
    exact getElem_mem inside
  unfold HevcFindRefIdx
  split
  · rfl
  · next missing =>
      rw [List.findIdx?_isSome, any_eq_true]
      refine ⟨pHevcDec.frame index, member, ?_⟩
      rw [current, Bool.true_and, decide_eq_true_eq]
      rcases names with exact_count | low
      · have absent := List.findIdx?_eq_none_iff.mp missing _ member
        rw [current, Bool.true_and, decide_eq_false_iff_not] at absent
        exact absurd exact_count absent
      · exact low.2

end Naming

section Building

variable {start grown added : HevcContex} {done : List Candidate} {candidate : Candidate}

def storedIn (start : HevcContex) (done : List Candidate) (type : HevcRPSType) : List RefEntry :=
  (done.filter fun candidate => candidate.nListIdx = type).filterMap fun candidate =>
    (HevcFindRefIdx start candidate.nPoc).map fun index => ⟨index, (start.frame index).nPoc⟩

def listedIn (pHevcDec : HevcContex) (index : Nat) : Prop :=
  ∃ type, ∃ entry ∈ pHevcDec.Rps type, entry.Ref = index

/-- The sets after some of the candidates: they hold what was found, and it is marked. -/
structure Built (start : HevcContex) (done : List Candidate) (grown : HevcContex) : Prop
    extends SetsGrown start grown where
  lists : ∀ type, grown.Rps type = storedIn start done type
  marks : ∀ index, FrameFlags.marked (grown.frame index).bFlags = true ↔ listedIn grown index

theorem stored_append (type : HevcRPSType) : storedIn start (done ++ [candidate]) type =
      storedIn start done type ++ storedIn start [candidate] type := by
  unfold storedIn
  rw [filter_append, filterMap_append]

theorem stored_one_found {index : Nat} (found : HevcFindRefIdx start candidate.nPoc = some index)
    (type : HevcRPSType) :
    storedIn start [candidate] type =
      if candidate.nListIdx = type then [⟨index, (start.frame index).nPoc⟩] else [] := by
  unfold storedIn
  rw [filter_singleton]
  by_cases own : candidate.nListIdx = type
  · rw [decide_eq_true own, if_pos own]
    change List.filterMap _ [candidate] = _
    rw [filterMap_cons, found]
    rfl
  · rw [decide_eq_false own, if_neg own]
    rfl

theorem stored_one_missing (missing : HevcFindRefIdx start candidate.nPoc = none)
    (type : HevcRPSType) : storedIn start [candidate] type = [] := by
  unfold storedIn
  rw [filter_singleton]
  by_cases own : candidate.nListIdx = type
  · rw [decide_eq_true own]
    change List.filterMap _ [candidate] = _
    rw [filterMap_cons, missing]
    rfl
  · rw [decide_eq_false own]
    rfl

theorem frame_members
    (entries : grown.DPB.map (fun pHf => (pHf.pFbmBuffer, pHf.nSequence, pHf.nPoc)) =
      start.DPB.map fun pHf => (pHf.pFbmBuffer, pHf.nSequence, pHf.nPoc)) (index : Nat) :
    (grown.frame index).pFbmBuffer = (start.frame index).pFbmBuffer ∧
      (grown.frame index).nSequence = (start.frame index).nSequence ∧
      (grown.frame index).nPoc = (start.frame index).nPoc := by
  have same : ((grown.frame index).pFbmBuffer, (grown.frame index).nSequence,
      (grown.frame index).nPoc) = ((start.frame index).pFbmBuffer,
        (start.frame index).nSequence, (start.frame index).nPoc) := by
    unfold HevcContex.frame
    have through := congrArg (fun all => all.getD index
      ((none : Option Nat), (0 : Fin 256), (0 : Int))) entries
    rw [getD_eq_getElem?_getD, getD_eq_getElem?_getD, List.getElem?_map,
      List.getElem?_map] at through
    rw [getD_eq_getElem?_getD, getD_eq_getElem?_getD]
    cases left : grown.DPB[index]? with
    | none =>
      cases right : start.DPB[index]? with
      | none => rfl
      | some pHf =>
        rw [left, right] at through
        exact through
    | some pHf =>
      cases right : start.DPB[index]? with
      | none | some other =>
        rw [left, right] at through
        exact through
  exact ⟨congrArg Prod.fst same, congrArg (fun all => all.2.1) same,
    congrArg (fun all => all.2.2) same⟩

theorem SetsGrown.find (so_far : SetsGrown start grown) (nPoc : Int) :
    HevcFindRefIdx grown nPoc = HevcFindRefIdx start nPoc :=
  find_ref_idx_congr so_far.entries so_far.sequence so_far.sps nPoc

theorem add_candidate_built (so_far : Built start done grown)
    (marks : FrameFlags.marked candidate.bFlags = true)
    (here : candidate.nPoc = 0 → (HevcFindRefIdx start 0).isSome = true)
    (ok : HevcAddCandidateRef grown candidate = (added, .HEVC_RESULT_OK)) :
    Built start (done ++ [candidate]) added := by
  have grows := add_candidate_grows so_far.toSetsGrown marks here ok
  have same := SetsGrown.find so_far.toSetsGrown candidate.nPoc
  unfold HevcAddCandidateRef at ok
  split at ok
  · next missing =>
      split_ifs at ok with leading zero
      · cases ok
      · have found := here zero
        rw [← zero, ← same, missing] at found
        cases found
      · obtain rfl := congrArg Prod.fst ok
        constructor
        · exact grows
        · intro type
          rw [stored_append, stored_one_missing (same ▸ missing), append_nil]
          exact so_far.lists type
        · exact so_far.marks
  · next index found =>
      obtain ⟨inside, owned⟩ := find_ref_idx_found found
      dsimp only at ok
      split_ifs at ok with wrong
      · cases ok
      · obtain rfl := congrArg Prod.fst ok
        have poc := (frame_members so_far.entries index).2.2
        have lists : ∀ type,
            ((grown.appendRef candidate.nListIdx ⟨index, (grown.frame index).nPoc⟩).setFrame
              index (HevcMarkRef (grown.frame index) candidate.bFlags)).Rps type =
              grown.Rps type ++
                if candidate.nListIdx = type then [⟨index, (grown.frame index).nPoc⟩] else [] := by
          intro type
          change Function.update grown.Rps candidate.nListIdx
            (grown.Rps candidate.nListIdx ++ [⟨index, (grown.frame index).nPoc⟩]) type = _
          by_cases own : candidate.nListIdx = type
          · subst own
            rw [Function.update_self, if_pos rfl]
          · rw [Function.update_of_ne (Ne.symm own), if_neg own, append_nil]
        constructor
        · exact grows
        · intro type
          rw [lists, stored_append, stored_one_found (same ▸ found), so_far.lists, poc]
        · intro place
          rw [frame_set]
          change FrameFlags.marked (if index = place ∧ place < grown.DPB.length then
            HevcMarkRef (grown.frame index) candidate.bFlags
            else grown.frame place).bFlags = true ↔ _
          by_cases own : index = place
          · subst own
            rw [if_pos ⟨rfl, inside⟩]
            apply iff_of_true (mark_ref_marked _ marks)
            refine ⟨candidate.nListIdx, ⟨index, (grown.frame index).nPoc⟩, ?_, rfl⟩
            rw [lists, if_pos rfl]
            exact mem_append_right _ mem_cons_self
          · rw [if_neg fun both => own both.1, so_far.marks]
            constructor
            · rintro ⟨type, entry, listed, place⟩
              refine ⟨type, entry, ?_, place⟩
              rw [lists]
              exact mem_append_left _ listed
            · rintro ⟨type, entry, listed, at_place⟩
              rw [lists] at listed
              rcases mem_append.mp listed with old | new
              · exact ⟨type, entry, old, at_place⟩
              · split_ifs at new
                · rw [mem_singleton.mp new] at at_place
                  exact absurd at_place own
                · cases new

theorem add_candidates_built {candidates : List Candidate}
    (marks : ∀ candidate ∈ candidates, FrameFlags.marked candidate.bFlags = true)
    (here : ∀ candidate ∈ candidates, candidate.nPoc = 0 → (HevcFindRefIdx start 0).isSome = true)
    (so_far : Built start done grown)
    (ok : addCandidates grown candidates = (added, .HEVC_RESULT_OK)) :
    Built start (done ++ candidates) added := by
  induction candidates generalizing grown done with
  | nil =>
    obtain rfl := congrArg Prod.fst ok
    rw [append_nil]
    exact so_far
  | cons candidate rest ih =>
    rw [addCandidates] at ok
    split at ok
    · next next step =>
        have one := add_candidate_built so_far (marks candidate mem_cons_self)
          (here candidate mem_cons_self) step
        rw [append_cons]
        exact ih (fun other inside => marks other (mem_cons_of_mem _ inside))
          (fun other inside => here other (mem_cons_of_mem _ inside)) one ok
    · next other =>
        exact absurd ok (other added)

end Building

section Emptied

variable {pHevcDec added : HevcContex}

def MarksOwned (pHevcDec : HevcContex) : Prop :=
  ∀ pHf ∈ pHevcDec.DPB, pHf.pFbmBuffer = none → FrameFlags.marked pHf.bFlags = false

def Emptied (pHevcDec : HevcContex) : Prop :=
  ∀ pHf ∈ pHevcDec.DPB, pHf.pFbmBuffer = none ∧ FrameFlags.marked pHf.bFlags = false

theorem Emptied.owned (emptied : Emptied pHevcDec) : MarksOwned pHevcDec :=
  fun pHf inside _ => (emptied pHf inside).2

theorem set_frame_owned {index : Nat} {changed : HevcFrame} (owned : MarksOwned pHevcDec)
    (here : index < pHevcDec.DPB.length → changed.pFbmBuffer = none →
      FrameFlags.marked changed.bFlags = false) :
    MarksOwned (pHevcDec.setFrame index changed) := by
  intro pHf inside
  change pHf ∈ pHevcDec.DPB.set index changed at inside
  by_cases short : index < pHevcDec.DPB.length
  · rcases mem_or_eq_of_mem_set inside with old | new
    · exact owned pHf old
    · rw [new]
      exact here short
  · rw [set_eq_of_length_le (Nat.not_lt.mp short)] at inside
    exact owned pHf inside

theorem output_picture_owned (nMinIdx : Nat) (owned : MarksOwned pHevcDec) :
    MarksOwned (outputPicture pHevcDec nMinIdx).1 ∧
      (outputPicture pHevcDec nMinIdx).1.Rps = pHevcDec.Rps := by
  constructor
  · apply set_frame_owned owned
    intro inside free
    have before := owned (pHevcDec.frame nMinIdx) (by
      unfold HevcContex.frame
      rw [getD_eq_getElem _ _ inside]
      exact getElem_mem inside) free
    unfold FrameFlags.marked at before ⊢
    rw [Bool.or_eq_false_iff] at before ⊢
    change ((pHevcDec.frame nMinIdx).bFlags.shortRef && true) = false ∧
      ((pHevcDec.frame nMinIdx).bFlags.longRef && true) = false
    rw [Bool.and_true, Bool.and_true]
    exact before
  · rfl

theorem output_loop_owned (nSpsMaxNumReoderPics : Nat) (bFlush : Bool) (turns : Nat)
    (owned : MarksOwned pHevcDec) :
    MarksOwned (outputLoop nSpsMaxNumReoderPics bFlush turns pHevcDec).1 ∧
      (outputLoop nSpsMaxNumReoderPics bFlush turns pHevcDec).1.Rps = pHevcDec.Rps := by
  induction turns generalizing pHevcDec with
  | zero =>
    unfold outputLoop
    dsimp only
    split_ifs
    · exact ⟨owned, rfl⟩
    · exact output_picture_owned _ owned
    · exact ⟨owned, rfl⟩
  | succ turns ih =>
    unfold outputLoop
    dsimp only
    split_ifs
    · exact ⟨owned, rfl⟩
    · exact output_picture_owned _ owned
    · exact ih owned

theorem output_frame_owned (bFlush : Bool) (owned : MarksOwned pHevcDec) :
    MarksOwned (HevcOutputFrame pHevcDec bFlush).1 ∧
      (HevcOutputFrame pHevcDec bFlush).1.Rps = pHevcDec.Rps := by
  unfold HevcOutputFrame
  split
  · exact output_loop_owned _ _ _ owned
  · exact ⟨owned, rfl⟩

theorem unref_all_emptied (secOutputEnabled : Bool) {pHf : HevcFrame}
    (owned : pHf.pFbmBuffer = none → FrameFlags.marked pHf.bFlags = false) :
    (HevcUnrefFrame secOutputEnabled FrameFlags.all pHf).1.pFbmBuffer = none ∧
      FrameFlags.marked (HevcUnrefFrame secOutputEnabled FrameFlags.all pHf).1.bFlags = false := by
  have zero : ∀ bFlags : FrameFlags, bFlags.without FrameFlags.all = {} := by
    intro bFlags
    obtain ⟨output, short, long⟩ := bFlags
    cases output <;> cases short <;> cases long <;> rfl
  unfold HevcUnrefFrame
  cases held : pHf.pFbmBuffer with
  | none => exact ⟨held, owned held⟩
  | some buffer =>
    dsimp only
    rw [zero, if_neg (by decide)]
    split_ifs <;> exact ⟨rfl, rfl⟩

theorem flush_and_clear_emptied (owned : MarksOwned pHevcDec) :
    Emptied (flushAndClear pHevcDec) ∧ (flushAndClear pHevcDec).Rps = pHevcDec.Rps := by
  obtain ⟨flushed, sets⟩ := output_frame_owned true owned
  constructor
  · intro changed inside
    change changed ∈ List.map Prod.fst ((HevcOutputFrame pHevcDec true).1.DPB.map _) at inside
    rw [map_map] at inside
    obtain ⟨pHf, listed, rfl⟩ := mem_map.mp inside
    exact unref_all_emptied _ (flushed pHf listed)
  · exact sets

variable (emptied : Emptied pHevcDec)

include emptied

theorem emptied_finds_none (nPoc : Int) : HevcFindRefIdx pHevcDec nPoc = none := by
  cases found : HevcFindRefIdx pHevcDec nPoc with
  | none => rfl
  | some index =>
    obtain ⟨inside, owned⟩ := find_ref_idx_found found
    unfold owns HevcContex.frame at owned
    rw [getD_eq_getElem _ _ inside, (emptied _ (getElem_mem inside)).1] at owned
    cases owned

theorem add_candidates_emptied {candidates : List Candidate}
    (ok : addCandidates pHevcDec candidates = (added, .HEVC_RESULT_OK)) :
    Emptied added ∧ added.Rps = pHevcDec.Rps := by
  induction candidates generalizing pHevcDec with
  | nil =>
    obtain rfl := congrArg Prod.fst ok
    exact ⟨emptied, rfl⟩
  | cons candidate rest ih =>
    have one : ∀ next, HevcAddCandidateRef pHevcDec candidate = (next, .HEVC_RESULT_OK) →
        Emptied next ∧ next.Rps = pHevcDec.Rps := by
      intro next step
      unfold HevcAddCandidateRef at step
      rw [emptied_finds_none emptied] at step
      dsimp only at step
      split_ifs at step with leading zero
      · cases step
      · obtain rfl := congrArg Prod.fst step
        exact flush_and_clear_emptied emptied.owned
      · obtain rfl := congrArg Prod.fst step
        exact ⟨emptied, rfl⟩
    rw [addCandidates] at ok
    split at ok
    · next next step =>
        obtain ⟨emptied_next, same⟩ := one next step
        obtain ⟨emptied_added, lists⟩ := ih emptied_next ok
        exact ⟨emptied_added, lists.trans same⟩
    · next other =>
        exact absurd ok (other added)

theorem unref_none_emptied : Emptied (unrefFrames pHevcDec {}) := by
  intro changed inside
  change changed ∈ List.map Prod.fst (pHevcDec.DPB.map _) at inside
  rw [map_map] at inside
  obtain ⟨pHf, listed, rfl⟩ := mem_map.mp inside
  have free := emptied pHf listed
  change (HevcUnrefFrame pHevcDec.secOutputEnabled {} pHf).1.pFbmBuffer = none ∧
    FrameFlags.marked (HevcUnrefFrame pHevcDec.secOutputEnabled {} pHf).1.bFlags = false
  unfold HevcUnrefFrame
  rw [free.1]
  exact free

theorem emptied_frame (index : Nat) : (pHevcDec.frame index).pFbmBuffer = none ∧
      FrameFlags.marked (pHevcDec.frame index).bFlags = false := by
  unfold HevcContex.frame
  by_cases inside : index < pHevcDec.DPB.length
  · rw [getD_eq_getElem _ _ inside]
    exact emptied _ (getElem_mem inside)
  · rw [getD_eq_default _ _ (Nat.not_lt.mp inside)]
    exact ⟨rfl, rfl⟩

end Emptied

variable {pHevcDec built : HevcContex} {msbPresent : Nat → Bool}
  {type : HevcRPSType} {start : HevcContex} {done : List Candidate} {named : NamedRef}

theorem add_candidates_append {added : HevcContex} {front rest : List Candidate}
    (ok : addCandidates start (front ++ rest) = (added, .HEVC_RESULT_OK)) :
    ∃ mid, addCandidates start front = (mid, .HEVC_RESULT_OK) ∧
      addCandidates mid rest = (added, .HEVC_RESULT_OK) := by
  induction front generalizing start with
  | nil => exact ⟨start, rfl, ok⟩
  | cons candidate front ih =>
    rw [cons_append, addCandidates] at ok
    rw [addCandidates]
    split at ok
    · exact ih ok
    · next other =>
        exact absurd ok (other added)

theorem clear_sets_built (pHevcDec : HevcContex) : Built pHevcDec [] (clearSets pHevcDec) := by
  have unmarked : ∀ index,
      FrameFlags.marked ((clearSets pHevcDec).frame index).bFlags = false := by
    intro index
    unfold clearSets HevcContex.frame
    dsimp only
    rw [getD_eq_getElem?_getD, List.getElem?_map]
    cases pHevcDec.DPB[index]? with
    | none => rfl
    | some pHf =>
      change (pHf.bFlags.shortRef && false || false || (pHf.bFlags.longRef && false || false)) =
        false
      rw [Bool.and_false, Bool.and_false]
      rfl
  constructor
  · constructor
    · unfold clearSets
      dsimp only
      rw [map_map]
      rfl
    · rfl
    · rfl
    · intro type entry listed
      cases listed
  · intro type
    rfl
  · intro index
    rw [unmarked]
    constructor
    · intro wrong
      cases wrong
    · rintro ⟨type, entry, listed, _⟩
      cases listed

/-- `HevcUnrefFrame` without flags frees what is not marked and leaves the rest. -/
theorem unref_none_frame (marked : HevcContex) (index : Nat) :
    ((unrefFrames marked {}).frame index).bFlags = (marked.frame index).bFlags ∧
      ((unrefFrames marked {}).frame index).nPoc = (marked.frame index).nPoc ∧
      ((unrefFrames marked {}).frame index).nSequence = (marked.frame index).nSequence ∧
      (FrameFlags.marked (marked.frame index).bFlags = true →
        ((unrefFrames marked {}).frame index).pFbmBuffer = (marked.frame index).pFbmBuffer) := by
  have same : (unrefFrames marked {}).frame index =
      (HevcUnrefFrame marked.secOutputEnabled {} (marked.frame index)).1 := by
    unfold unrefFrames HevcContex.frame
    dsimp only
    rw [getD_eq_getElem?_getD, map_map, List.getElem?_map, getD_eq_getElem?_getD]
    cases marked.DPB[index]? with
    | none | some pHf => rfl
  have flags : ∀ bFlags : FrameFlags, bFlags.without {} = bFlags := by
    intro bFlags
    unfold FrameFlags.without
    simp
  have used : ∀ bFlags : FrameFlags, FrameFlags.marked bFlags = true → bFlags.isZero = false := by
    intro bFlags held
    obtain ⟨output, short, long⟩ := bFlags
    revert held
    cases output <;> cases short <;> cases long <;> decide
  rw [same]
  unfold HevcUnrefFrame
  cases held : (marked.frame index).pFbmBuffer with
  | none => exact ⟨rfl, rfl, rfl, fun _ => held⟩
  | some buffer =>
    dsimp only
    rw [flags]
    split_ifs with keeps enabled
    · exact ⟨rfl, rfl, rfl, fun _ => rfl⟩
    all_goals
      refine ⟨rfl, rfl, rfl, fun flagged => ?_⟩
      rw [used _ flagged] at keeps
      exact absurd rfl keeps

theorem empty_lists_sound (empty : ∀ type, built.Rps type = [])
    (unmarked : ∀ index, FrameFlags.marked (built.frame index).bFlags = false) :
    SetsSound pHevcDec msbPresent built := by
  constructor
  · intro type entry listed
    rw [empty type] at listed
    cases listed
  · intro type
    refine ⟨[], nil_sublist _, ?_, ?_⟩
    · rw [empty type]
      rfl
    · intro pair none
      cases none
  · intro type
    rw [empty type]
    exact Nat.zero_le _
  · intro index
    rw [unmarked]
    apply iff_of_false Bool.false_ne_true
    rintro ⟨type, entry, listed, _⟩
    rw [empty type] at listed
    cases listed

theorem no_sets_unnamed (absent : noSets pHevcDec) (type : HevcRPSType) :
    namedFor pHevcDec msbPresent type = [] := by
  have none : pHevcDec.pShortTermRps = none := Option.isNone_iff_eq_none.mp absent.1
  unfold namedFor namedRefs
  rw [none, absent.2]
  rfl

theorem no_sets_iff (absent : noSets pHevcDec)
    (ok : HevcConstuctFrameRps pHevcDec = (built, .HEVC_RESULT_OK)) :
    SetsSound pHevcDec msbPresent built ↔ SetsSafe pHevcDec msbPresent := by
  unfold HevcConstuctFrameRps at ok
  rw [if_pos (show pHevcDec.pShortTermRps.isNone ∧ pHevcDec.LongTermRps = [] from absent)] at ok
  have same : { pHevcDec with
      Rps := Function.update (Function.update pHevcDec.Rps .HEVC_ST_CURR_BEF [])
        .HEVC_ST_CURR_AFT [] } = built := congrArg Prod.fst ok
  have frames : ∀ index, built.frame index = pHevcDec.frame index := by
    intro index
    rw [← same]
    rfl
  have sets : built.Rps = Function.update (Function.update pHevcDec.Rps .HEVC_ST_CURR_BEF [])
      .HEVC_ST_CURR_AFT [] := by
    rw [← same]
  have kept : built.Rps .HEVC_ST_FOLL = pHevcDec.Rps .HEVC_ST_FOLL ∧
      built.Rps .HEVC_LT_CURR = pHevcDec.Rps .HEVC_LT_CURR ∧
      built.Rps .HEVC_LT_FOLL = pHevcDec.Rps .HEVC_LT_FOLL := by
    rw [sets]
    exact ⟨rfl, rfl, rfl⟩
  unfold SetsSafe
  rw [if_pos absent, ← kept.1, ← kept.2.1, ← kept.2.2]
  clear same ok
  constructor
  · intro sound
    have empty : ∀ type, built.Rps type = [] := by
      intro type
      obtain ⟨matched, named, refs, _⟩ := sound.named type
      rw [no_sets_unnamed absent] at named
      have nothing := map_eq_nil_iff.mp (sublist_nil.mp named)
      rw [nothing] at refs
      exact map_eq_nil_iff.mp refs
    have unmarked : ∀ pHf ∈ pHevcDec.DPB, FrameFlags.marked pHf.bFlags = false := by
      intro pHf inside
      obtain ⟨index, short, rfl⟩ := getElem_of_mem inside
      have flags := sound.marked index
      rw [frames] at flags
      unfold HevcContex.frame at flags
      rw [getD_eq_getElem _ _ short] at flags
      rw [← Bool.not_eq_true, flags]
      rintro ⟨type, entry, listed, _⟩
      rw [empty type] at listed
      cases listed
    exact ⟨empty .HEVC_ST_FOLL, empty .HEVC_LT_CURR, empty .HEVC_LT_FOLL, unmarked⟩
  · rintro ⟨following, long, later, unmarked⟩
    have empty : ∀ type, built.Rps type = [] := by
      intro type
      cases type with
      | HEVC_ST_CURR_BEF | HEVC_ST_CURR_AFT =>
        rw [sets]
        rfl
      | HEVC_ST_FOLL => exact following
      | HEVC_LT_CURR => exact long
      | HEVC_LT_FOLL => exact later
    apply empty_lists_sound empty
    intro index
    rw [frames]
    unfold HevcContex.frame
    by_cases short : index < pHevcDec.DPB.length
    · rw [getD_eq_getElem _ _ short]
      exact unmarked _ (getElem_mem short)
    · rw [getD_eq_default _ _ (Nat.not_lt.mp short)]
      rfl

theorem first_zero {candidates : List Candidate}
    (named : candidates.any (fun candidate => decide (candidate.nPoc = 0)) = true) :
    ∃ zero rest, zero.nPoc = 0 ∧
      candidates = candidates.takeWhile (fun candidate => decide (candidate.nPoc ≠ 0)) ++
        zero :: rest := by
  induction candidates with
  | nil => cases named
  | cons candidate rest ih =>
    by_cases zero : candidate.nPoc = 0
    · refine ⟨candidate, rest, zero, ?_⟩
      rw [takeWhile_cons_of_neg (by rw [decide_eq_true_eq]; exact fun other => other zero)]
      rfl
    · rw [any_cons, decide_eq_false zero, Bool.false_or] at named
      obtain ⟨found, behind, is_zero, split⟩ := ih named
      refine ⟨found, behind, is_zero, ?_⟩
      rw [takeWhile_cons, if_pos (decide_eq_true zero), cons_append, ← split]

theorem built_marks_owned {grown : HevcContex}
    (so_far : Built start done grown) : MarksOwned grown := by
  intro pHf inside free
  obtain ⟨index, short, rfl⟩ := getElem_of_mem inside
  have here : grown.frame index = grown.DPB[index] := by
    unfold HevcContex.frame
    rw [getD_eq_getElem _ _ short]
  rw [← here] at free ⊢
  rw [← Bool.not_eq_true, so_far.marks]
  rintro ⟨type, entry, listed, rfl⟩
  have owned := (so_far.live type entry listed).1
  unfold owns at owned
  rw [free] at owned
  cases owned

theorem mem_stored {entry : RefEntry} : entry ∈ storedIn start done type ↔
      ∃ candidate ∈ done, candidate.nListIdx = type ∧
        HevcFindRefIdx start candidate.nPoc = some entry.Ref ∧
          entry.List = (start.frame entry.Ref).nPoc := by
  unfold storedIn
  rw [mem_filterMap]
  constructor
  · rintro ⟨candidate, kept, found⟩
    obtain ⟨inside, own⟩ := mem_filter.mp kept
    obtain ⟨index, there, rfl⟩ := Option.map_eq_some_iff.mp found
    exact ⟨candidate, inside, of_decide_eq_true own, there, rfl⟩
  · rintro ⟨candidate, inside, own, found, poc⟩
    refine ⟨candidate, mem_filter.mpr ⟨inside, decide_eq_true own⟩, ?_⟩
    rw [found, Option.map_some, ← poc]

/-- Behind a missing picture of count 0 no picture is left, and the lists keep what was
stored before. -/
theorem misses_zero_iff (coded : ¬noSets pHevcDec) (misses : missesZero pHevcDec = true)
    (ok : HevcConstuctFrameRps pHevcDec = (built, .HEVC_RESULT_OK)) :
    SetsSound pHevcDec msbPresent built ↔ SetsSafe pHevcDec msbPresent := by
  have listed_marks := @candidate_marks pHevcDec
  have both := misses
  unfold missesZero at both
  rw [Bool.and_eq_true] at both
  obtain ⟨zero, rest, is_zero, split⟩ := first_zero both.1
  have missing : HevcFindRefIdx pHevcDec 0 = none := Option.isNone_iff_eq_none.mp both.2
  unfold SetsSafe
  rw [if_neg coded, if_pos misses]
  generalize front_list : (rpsCandidates pHevcDec).takeWhile
    (fun candidate => decide (candidate.nPoc ≠ 0)) = front at split
  have inside : ∀ candidate ∈ front, candidate ∈ rpsCandidates pHevcDec := by
    intro candidate listed
    rw [split]
    exact mem_append_left _ listed
  have away : ∀ candidate ∈ front, candidate.nPoc ≠ 0 := by
    intro candidate listed
    rw [← front_list] at listed
    have kept := mem_takeWhile_imp listed
    exact of_decide_eq_true kept
  unfold HevcConstuctFrameRps at ok
  rw [if_neg (show ¬(pHevcDec.pShortTermRps.isNone ∧ pHevcDec.LongTermRps = []) from coded),
    split] at ok
  split at ok
  · next last added =>
      obtain ⟨mid, first, behind⟩ := add_candidates_append added
      have grown := add_candidates_built
        (fun candidate listed => listed_marks (inside candidate listed))
        (fun candidate listed at_zero => absurd at_zero (away candidate listed))
        (clear_sets_built pHevcDec) first
      rw [nil_append] at grown
      have emptied : Emptied last ∧ last.Rps = mid.Rps := by
        rw [addCandidates] at behind
        have absent : HevcFindRefIdx mid zero.nPoc = none := by
          rw [SetsGrown.find grown.toSetsGrown, is_zero, missing]
        unfold HevcAddCandidateRef at behind
        rw [absent] at behind
        dsimp only at behind
        split_ifs at behind with leading
        · cases behind
        · obtain ⟨cleared, sets⟩ := flush_and_clear_emptied (built_marks_owned grown)
          obtain ⟨still, lists⟩ := add_candidates_emptied cleared behind
          exact ⟨still, lists.trans sets⟩
      have ending := unref_none_emptied emptied.1
      obtain rfl := congrArg Prod.fst ok
      have lists : ∀ type, (unrefFrames last {}).Rps type = storedIn pHevcDec front type := by
        intro type
        change last.Rps type = _
        rw [emptied.2, grown.lists]
      constructor
      · intro sound candidate listed
        cases found : HevcFindRefIdx pHevcDec candidate.nPoc with
        | none => rfl
        | some index =>
          have stored : (⟨index, (pHevcDec.frame index).nPoc⟩ : RefEntry) ∈
              (unrefFrames last {}).Rps candidate.nListIdx := by
            rw [lists]
            exact mem_stored.mpr ⟨candidate, listed, rfl, found, rfl⟩
          have current := sound.current _ _ stored
          unfold inSequence at current
          rw [(emptied_frame ending index).1] at current
          cases current
      · intro none_found
        apply empty_lists_sound
        · intro type
          rw [lists, eq_nil_iff_forall_not_mem]
          intro entry stored
          obtain ⟨candidate, listed, _, found, _⟩ := mem_stored.mp stored
          rw [none_found candidate listed] at found
          cases found
        · exact fun index => (emptied_frame ending index).2
  · next other =>
      exact absurd ok (other built)

/-- The pictures named for one list with the entries in which they are found. -/
def matchedFor (pHevcDec : HevcContex) (msbPresent : Nat → Bool) (type : HevcRPSType) :
    List (NamedRef × Nat) :=
  (namedFor pHevcDec msbPresent type).filterMap fun named =>
    (HevcFindRefIdx pHevcDec named.candidate.nPoc).map fun index => (named, index)

theorem paired_first {α β : Type} (search : α → Option β) (items : List α) :
    (items.filterMap fun item => (search item).map fun found => (item, found)).map Prod.fst =
      items.filter fun item => (search item).isSome := by
  induction items with
  | nil => rfl
  | cons item rest ih =>
    cases found : search item with
    | none =>
      rw [filterMap_cons, found, filter_cons, found]
      exact ih
    | some value =>
      rw [filterMap_cons, found, filter_cons, found]
      change item :: _ = item :: _
      rw [ih]

theorem stored_of_named (type : HevcRPSType) :
    (storedIn pHevcDec (rpsCandidates pHevcDec) type).map RefEntry.Ref =
      (matchedFor pHevcDec msbPresent type).map Prod.snd := by
  unfold storedIn matchedFor namedFor
  rw [← named_candidates pHevcDec msbPresent, filter_map, filterMap_map,
    map_filterMap, map_filterMap]
  apply filterMap_congr
  intro named _
  change Option.map _ (Option.map _ _) = Option.map _ (Option.map _ _)
  rw [Option.map_map, Option.map_map]
  rfl

theorem stored_length (type : HevcRPSType) :
    (storedIn pHevcDec (rpsCandidates pHevcDec) type).length =
      (presentIn pHevcDec type).length := by
  unfold storedIn presentIn
  rw [length_filterMap_eq_countP, countP_eq_length_filter, filter_filter]
  congr 1
  apply filter_congr
  intro candidate _
  rw [Option.isSome_map, Bool.and_comm]

theorem names_poc {pHf other : HevcFrame} (same : other.nPoc = pHf.nPoc) :
    Names pHevcDec named other ↔ Names pHevcDec named pHf := by
  unfold Names
  rw [same]

theorem mem_named_for : named ∈ namedFor pHevcDec msbPresent type ↔
      named ∈ namedRefs pHevcDec msbPresent ∧ named.candidate.nListIdx = type := by
  unfold namedFor
  rw [mem_filter, decide_eq_true_eq]

theorem mem_matched {pair : NamedRef × Nat} : pair ∈ matchedFor pHevcDec msbPresent type ↔
      pair.1 ∈ namedFor pHevcDec msbPresent type ∧
        HevcFindRefIdx pHevcDec pair.1.candidate.nPoc = some pair.2 := by
  unfold matchedFor
  rw [mem_filterMap]
  constructor
  · rintro ⟨named, listed, found⟩
    obtain ⟨index, there, rfl⟩ := Option.map_eq_some_iff.mp found
    exact ⟨listed, there⟩
  · rintro ⟨listed, found⟩
    refine ⟨pair.1, listed, ?_⟩
    rw [found]
    rfl

/-- A matching of the stored pointers with named pictures is the one that the search made:
whatever is named rightly is found. -/
theorem matching_unique {matched : List (NamedRef × Nat)}
    (order : (matched.map Prod.fst).Sublist (namedFor pHevcDec msbPresent type))
    (refs : (matchedFor pHevcDec msbPresent type).map Prod.snd = matched.map Prod.snd)
    (found : ∀ pair ∈ matched, (HevcFindRefIdx pHevcDec pair.1.candidate.nPoc).isSome = true) :
    matched = matchedFor pHevcDec msbPresent type := by
  have all : ∀ named ∈ matched.map Prod.fst,
      (HevcFindRefIdx pHevcDec named.candidate.nPoc).isSome = true := by
    intro named listed
    obtain ⟨pair, inside, rfl⟩ := mem_map.mp listed
    exact found pair inside
  have firsts : matched.map Prod.fst = (matchedFor pHevcDec msbPresent type).map Prod.fst := by
    have kept := order.filter fun named =>
      (HevcFindRefIdx pHevcDec named.candidate.nPoc).isSome
    rw [filter_eq_self.mpr all] at kept
    unfold matchedFor at refs ⊢
    rw [paired_first]
    apply kept.eq_of_length
    rw [length_map, ← paired_first, length_map, ← @length_map _ _ matched Prod.snd,
      ← refs, length_map]
  have zipped : ∀ pairs : List (NamedRef × Nat),
      (pairs.map Prod.fst).zip (pairs.map Prod.snd) = pairs := by
    intro pairs
    rw [zip_map', map_id'']
    intro pair
    rfl
  rw [← zipped matched, firsts, ← refs, zipped]

/-- With every picture of count 0 in place, the lists are right exactly where each picture
found is the one named and the lists fit their arrays. -/
theorem sets_kept_iff (coded : ¬noSets pHevcDec) (here : missesZero pHevcDec = false)
    (ok : HevcConstuctFrameRps pHevcDec = (built, .HEVC_RESULT_OK)) :
    SetsSound pHevcDec msbPresent built ↔ SetsSafe pHevcDec msbPresent := by
  have live := constuct_frame_rps_live coded here ok
  unfold HevcConstuctFrameRps at ok
  rw [if_neg (show ¬(pHevcDec.pShortTermRps.isNone ∧ pHevcDec.LongTermRps = []) from coded)] at ok
  split at ok
  · next last added =>
      have grown := add_candidates_built (fun candidate => candidate_marks) (by
        intro candidate listed zero
        unfold missesZero at here
        rw [Bool.and_eq_false_iff] at here
        rcases here with unnamed | found
        · rw [any_eq_false] at unnamed
          exact absurd (decide_eq_true zero) (unnamed candidate listed)
        · rw [← Option.not_isNone, found]
          rfl) (clear_sets_built pHevcDec) added
      rw [nil_append] at grown
      obtain rfl := congrArg Prod.fst ok
      have lists : ∀ type, (unrefFrames last {}).Rps type =
          storedIn pHevcDec (rpsCandidates pHevcDec) type := grown.lists
      have poc : ∀ index, ((unrefFrames last {}).frame index).nPoc =
          (pHevcDec.frame index).nPoc := fun index =>
        (unref_none_frame last index).2.1.trans (frame_members grown.entries index).2.2
      unfold SetsSafe
      rw [if_neg coded, if_neg (by rw [here]; exact Bool.false_ne_true)]
      constructor
      · intro sound
        constructor
        · intro named listed index found
          obtain ⟨matched, order, refs, names⟩ := sound.named named.candidate.nListIdx
          rw [lists, stored_of_named] at refs
          have rightly : ∀ pair ∈ matched, Names pHevcDec pair.1 (pHevcDec.frame pair.2) :=
            fun pair inside => (names_poc (poc pair.2)).mp (names pair inside)
          have current : ∀ pair ∈ matched,
              inSequence pHevcDec (pHevcDec.frame pair.2) = true := by
            intro pair inside
            have stored : pair.2 ∈ matched.map Prod.snd := mem_map_of_mem inside
            rw [← refs] at stored
            obtain ⟨other, kept, same⟩ := mem_map.mp stored
            rw [← same]
            exact find_in_sequence (mem_matched.mp kept).2
          have same := matching_unique order refs fun pair inside =>
            named_found (current pair inside) (rightly pair inside)
          apply rightly (named, index)
          rw [same]
          exact mem_matched.mpr ⟨mem_named_for.mpr ⟨listed, rfl⟩, found⟩
        · intro type
          rw [← stored_length, ← lists]
          exact sound.bounded type
      · rintro ⟨names, bounded⟩
        constructor
        · intro type entry stored
          have owned := live type entry stored
          rw [lists] at stored
          obtain ⟨candidate, _, _, found, _⟩ := mem_stored.mp stored
          have current := find_in_sequence found
          unfold inSequence at current ⊢
          rw [Bool.and_eq_true] at current ⊢
          constructor
          · exact owned
          · rw [(unref_none_frame last entry.Ref).2.2.1,
              (frame_members grown.entries entry.Ref).2.1]
            change decide (_ = last.nSeqDecode) = true
            rw [grown.sequence]
            exact current.2
        · intro type
          refine ⟨matchedFor pHevcDec msbPresent type, ?_, ?_, ?_⟩
          · unfold matchedFor
            rw [paired_first]
            exact filter_sublist
          · rw [lists]
            exact stored_of_named type
          · intro pair inside
            obtain ⟨listed, found⟩ := mem_matched.mp inside
            rw [names_poc (poc pair.2)]
            exact names pair.1 (mem_named_for.mp listed).1 pair.2 found
        · intro type
          rw [lists, stored_length]
          exact bounded type
        · intro index
          rw [(unref_none_frame last index).1]
          exact grown.marks index
  · next other =>
      exact absurd ok (other built)

/-- The sets that `HevcConstuctFrameRps` returns with 0 are those of the header exactly for
the states and headers that are safe. -/
theorem frame_rps_sound_iff (pHevcDec built : HevcContex) (msbPresent : Nat → Bool)
    (ok : HevcConstuctFrameRps pHevcDec = (built, .HEVC_RESULT_OK)) :
    SetsSound pHevcDec msbPresent built ↔ SetsSafe pHevcDec msbPresent := by
  by_cases absent : noSets pHevcDec
  · exact no_sets_iff absent ok
  · cases misses : missesZero pHevcDec with
    | true => exact misses_zero_iff absent misses ok
    | false => exact sets_kept_iff absent misses ok

/-- A picture that names one other, `back` counts before it; a picture of count 17 is there,
and four low bits of a count are coded. -/
def oneNamed (nPoc back : Int) : HevcContex :=
  { (H265DecodeFrame.Decoder.start false true).dpb with
    pSps := some
      { nWidth := 64
        nHeight := 64
        nLog2MaxPocLsb := 4
        nSpsMaxDecPicBuffering := 4
        nSpsMaxNumReoderPics := 0
        others := 0 }
    DPB :=
      { pFbmBuffer := some 0, nPoc := 17, bFlags := { shortRef := true } } :: List.replicate 19 {}
    nPoc := nPoc
    pShortTermRps := some
      { nNumNegativePics := 1
        nNumDeltaPocs := 1
        nDeltaPoc := fun _ => -back
        bUsed := fun _ => true } }

theorem picture_before_sound :
    SetsSound (oneNamed 18 1) (fun _ => true) (HevcConstuctFrameRps (oneNamed 18 1)).1 := by
  have ok : (HevcConstuctFrameRps (oneNamed 18 1)).2 = .HEVC_RESULT_OK := by decide
  have coded : ¬noSets (oneNamed 18 1) := by decide
  have here : missesZero (oneNamed 18 1) = false := by decide
  apply (frame_rps_sound_iff (oneNamed 18 1) _ (fun _ => true) (Prod.ext rfl ok)).mpr
  unfold SetsSafe
  rw [if_neg coded, if_neg (by rw [here]; exact Bool.false_ne_true)]
  constructor
  · intro named listed index found
    have only : named = ⟨⟨.HEVC_ST_CURR_BEF, 17, FrameFlags.HEVC_FRAME_FLAG_SHORT_REF⟩, false⟩ :=
      mem_singleton.mp listed
    subst only
    have first : HevcFindRefIdx (oneNamed 18 1) 17 = some 0 := by decide
    obtain rfl := Option.some.inj (first.symm.trans found)
    exact Or.inl rfl
  · intro type
    cases type <;> decide

/-- The count 1 is named as a short-term reference, is not there, and the picture of count
17 takes its place. -/
theorem low_bits_take_other : (HevcConstuctFrameRps (oneNamed 18 17)).2 = .HEVC_RESULT_OK ∧
      (HevcConstuctFrameRps (oneNamed 18 17)).1.Rps .HEVC_ST_CURR_BEF = [⟨0, 17⟩] ∧
      ¬SetsSound (oneNamed 18 17) (fun _ => true) (HevcConstuctFrameRps (oneNamed 18 17)).1 := by
  have stored : (HevcConstuctFrameRps (oneNamed 18 17)).1.Rps .HEVC_ST_CURR_BEF = [⟨0, 17⟩] := by
    decide
  refine ⟨by decide, stored, ?_⟩
  intro sound
  obtain ⟨matched, order, refs, names⟩ := sound.named .HEVC_ST_CURR_BEF
  rw [stored] at refs
  have single : ∃ pair : NamedRef × Nat, matched = [pair] ∧ pair.2 = 0 := by
    cases matched with
    | nil => cases refs
    | cons pair rest =>
      cases rest with
      | nil => exact ⟨pair, rfl, (List.cons.inj refs).1.symm⟩
      | cons other more => cases (List.cons.inj refs).2
  obtain ⟨pair, rfl, place⟩ := single
  have named : pair.1 ∈ namedFor (oneNamed 18 17) (fun _ => true) .HEVC_ST_CURR_BEF :=
    order.subset mem_cons_self
  have only : pair.1 = ⟨⟨.HEVC_ST_CURR_BEF, 1, FrameFlags.HEVC_FRAME_FLAG_SHORT_REF⟩, false⟩ :=
    mem_singleton.mp named
  have wrong := names pair mem_cons_self
  rw [only, place] at wrong
  exact absurd wrong (by decide)

end CedarC.H265FrameRpsClause
