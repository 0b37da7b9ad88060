import CedarC.H265ListEntries
import CedarC.H265SlotOwnership

/-!
# The references that the hardware is given

The entries of the sets of a picture own their pictures as long as nothing empties
`DPB` after they were found. A run is watched for this, and for whether the lists of the
last independent slice segment were built; where both hold, each index in the words for
the hardware names a picture, at its place.
-/

namespace CedarC.H265LiveRefs

open GuardedRuns H265Dpb H265RefLists H265ListEntries H265DecodeFrame H265DecoderRuns
open CedarC.H265SlotOwnership hiding prepare_header_keeps decode_slice_header_keeps

section Sets

/-- The entry of `DPB` owns a picture. -/
def owns (pHevcDec : HevcContex) (index : Nat) : Prop :=
  (pHevcDec.frame index).pFbmBuffer.isSome = true

def SetsLive (pHevcDec : HevcContex) : Prop :=
  ∀ type, ∀ entry ∈ pHevcDec.Rps type, owns pHevcDec entry.Ref

structure SameRefs (before after : HevcContex) : Prop where
  pictures : ∀ index, (after.frame index).pFbmBuffer = (before.frame index).pFbmBuffer
  sets : after.Rps = before.Rps

variable {before middle after : HevcContex}

theorem SameRefs.refl (pHevcDec : HevcContex) : SameRefs pHevcDec pHevcDec := ⟨fun _ => rfl, rfl⟩

theorem SameRefs.trans (first : SameRefs before middle) (second : SameRefs middle after) :
    SameRefs before after :=
  ⟨fun index => (second.pictures index).trans (first.pictures index), second.sets.trans first.sets⟩

theorem same_refs_of_eq (entries : after.DPB = before.DPB) (sets : after.Rps = before.Rps) :
    SameRefs before after := by
  constructor
  · intro index
    unfold HevcContex.frame
    rw [entries]
  · exact sets

variable (same : SameRefs before after)

include same

theorem SameRefs.owns {index : Nat} (owned : owns before index) : owns after index := by
  unfold H265LiveRefs.owns
  rw [same.pictures]
  exact owned

theorem SameRefs.live (live : SetsLive before) : SetsLive after := by
  intro type entry listed
  rw [same.sets] at listed
  exact same.owns (live type entry listed)

theorem SameRefs.slots (nListIdx : RefList) :
    candSlots after nListIdx = candSlots before nListIdx := by
  unfold candSlots
  rw [same.sets]

theorem SameRefs.entry (pSh : HevcSliceHeader) (nListIdx : RefList) (j : Nat) :
    listEntry after pSh nListIdx j = listEntry before pSh nListIdx j := by
  unfold listEntry
  rw [same.slots]

omit same

theorem frame_set (pHevcDec : HevcContex) (index : Nat) (changed : HevcFrame) (other : Nat) :
    (pHevcDec.setFrame index changed).frame other =
      if index = other ∧ other < pHevcDec.DPB.length then changed else pHevcDec.frame other := by
  unfold HevcContex.setFrame HevcContex.frame
  dsimp only
  rw [List.getD_eq_getElem?_getD, List.getElem?_set, List.getD_eq_getElem?_getD]
  by_cases same : index = other
  · subst same
    by_cases inside : index < pHevcDec.DPB.length
    · rw [if_pos rfl, if_pos inside, if_pos ⟨rfl, inside⟩]
      rfl
    · rw [if_pos rfl, if_neg inside, if_neg fun both => inside both.2,
        List.getElem?_eq_none (Nat.not_lt.mp inside)]
  · rw [if_neg same, if_neg fun both => same both.1]

theorem same_refs_set_frame {pHevcDec : HevcContex} {index : Nat} {changed : HevcFrame}
    (picture : changed.pFbmBuffer = (pHevcDec.frame index).pFbmBuffer) :
    SameRefs pHevcDec (pHevcDec.setFrame index changed) := by
  constructor
  · intro other
    rw [frame_set]
    split_ifs with changed_here
    · rw [picture, changed_here.1]
    · rfl
  · rfl

theorem mark_error_refs (dpb : HevcContex) : SameRefs dpb (markError dpb) := by
  unfold markError
  cases dpb.pCurrDPB with
  | none => exact SameRefs.refl dpb
  | some index => exact same_refs_set_frame rfl

end Sets

section Building

variable {pHevcDec : HevcContex}

def FrameFlags.marked (bFlags : FrameFlags) : Bool := bFlags.shortRef || bFlags.longRef

/-- The sets so far, in `DPB` as it was found. -/
structure SetsGrown (start grown : HevcContex) : Prop where
  entries : grown.DPB.map (fun pHf => (pHf.pFbmBuffer, pHf.nSequence, pHf.nPoc)) =
    start.DPB.map fun pHf => (pHf.pFbmBuffer, pHf.nSequence, pHf.nPoc)
  sequence : grown.nSeqDecode = start.nSeqDecode
  sps : grown.pSps = start.pSps
  live : ∀ type, ∀ entry ∈ grown.Rps type, owns grown entry.Ref ∧
    FrameFlags.marked (grown.frame entry.Ref).bFlags = true

theorem find_ref_idx_congr {first second : HevcContex}
    (entries : second.DPB.map (fun pHf => (pHf.pFbmBuffer, pHf.nSequence, pHf.nPoc)) =
      first.DPB.map fun pHf => (pHf.pFbmBuffer, pHf.nSequence, pHf.nPoc))
    (sequence : second.nSeqDecode = first.nSeqDecode) (sps : second.pSps = first.pSps)
    (nPoc : Int) : HevcFindRefIdx second nPoc = HevcFindRefIdx first nPoc := by
  have search : ∀ (DPB : List HevcFrame) (seq : Fin 256) (test : Int → Bool),
      DPB.findIdx? (fun pHf => (pHf.pFbmBuffer.isSome && decide (pHf.nSequence = seq)) &&
        test pHf.nPoc) =
      (DPB.map fun pHf => (pHf.pFbmBuffer, pHf.nSequence, pHf.nPoc)).findIdx? fun entry =>
        (entry.1.isSome && decide (entry.2.1 = seq)) && test entry.2.2 := by
    intro DPB seq test
    rw [List.findIdx?_map]
    rfl
  have same : ∀ test : Int → Bool,
      second.DPB.findIdx? (fun pHf => inSequence second pHf && test pHf.nPoc) =
        first.DPB.findIdx? fun pHf => inSequence first pHf && test pHf.nPoc := by
    intro test
    unfold inSequence
    rw [search, search, entries, sequence]
  have mask : nMaxPocLsb second = nMaxPocLsb first := by
    unfold nMaxPocLsb
    rw [sps]
  unfold HevcFindRefIdx
  rw [same fun count => decide (count = nPoc),
    same fun count => decide (count % nMaxPocLsb second = nPoc), mask]

theorem find_ref_idx_found {nPoc : Int} {index : Nat}
    (found : HevcFindRefIdx pHevcDec nPoc = some index) :
    index < pHevcDec.DPB.length ∧ owns pHevcDec index := by
  have held : ∀ test : HevcFrame → Bool,
      pHevcDec.DPB.findIdx? (fun pHf => inSequence pHevcDec pHf && test pHf) = some index →
        index < pHevcDec.DPB.length ∧ owns pHevcDec index := by
    intro test found
    obtain ⟨inside, meets, _⟩ := List.findIdx?_eq_some_iff_getElem.mp found
    refine ⟨inside, ?_⟩
    unfold owns HevcContex.frame
    rw [List.getD_eq_getElem _ _ inside]
    unfold inSequence at meets
    rw [Bool.and_eq_true, Bool.and_eq_true] at meets
    exact meets.1.1
  unfold HevcFindRefIdx at found
  split at found
  · next same =>
      obtain rfl := Option.some.inj found
      exact held _ same
  · exact held _ found

/-- A picture of count 0 is named by the sets and is not there. -/
def missesZero (pHevcDec : HevcContex) : Bool :=
  (rpsCandidates pHevcDec).any (fun candidate => decide (candidate.nPoc = 0)) &&
    (HevcFindRefIdx pHevcDec 0).isNone

theorem candidate_marks {candidate : Candidate} (listed : candidate ∈ rpsCandidates pHevcDec) :
    FrameFlags.marked candidate.bFlags = true := by
  unfold rpsCandidates at listed
  rcases List.mem_append.mp listed with short | long
  · cases set : pHevcDec.pShortTermRps with
    | none =>
      rw [set] at short
      cases short
    | some pShortTermRps =>
      rw [set] at short
      obtain ⟨i, _, rfl⟩ := List.mem_map.mp short
      rfl
  · obtain ⟨reference, _, rfl⟩ := List.mem_map.mp long
    rfl

theorem mark_ref_marked (pHf : HevcFrame) {bFlag : FrameFlags}
    (marks : FrameFlags.marked bFlag = true) :
    FrameFlags.marked (HevcMarkRef pHf bFlag).bFlags = true := by
  obtain ⟨output, short, long⟩ := bFlag
  unfold FrameFlags.marked at marks
  unfold HevcMarkRef FrameFlags.marked FrameFlags.union
  dsimp only at marks ⊢
  rw [Bool.or_eq_true] at marks ⊢
  rcases marks with marks | marks
  · left
    rw [marks, Bool.or_true]
  · right
    rw [marks, Bool.or_true]

variable {start grown added : HevcContex}

/-- A candidate that is found joins its set; one that is not changes nothing, unless it
is the one of count 0. -/
theorem add_candidate_grows {candidate : Candidate}
    (so_far : SetsGrown start grown) (marks : FrameFlags.marked candidate.bFlags = true)
    (here : candidate.nPoc = 0 → (HevcFindRefIdx start 0).isSome = true)
    (ok : HevcAddCandidateRef grown candidate = (added, .HEVC_RESULT_OK)) :
    SetsGrown start added := by
  have same := find_ref_idx_congr so_far.entries so_far.sequence so_far.sps
  unfold HevcAddCandidateRef at ok
  split at ok
  · next missing =>
      split_ifs at ok with leading zero
      · cases ok
      · have found := here zero
        rw [← same, ← zero, missing] at found
        cases found
      · obtain rfl := congrArg Prod.fst ok
        exact so_far
  · next index found =>
      obtain ⟨inside, owned⟩ := find_ref_idx_found found
      dsimp only at ok
      split_ifs at ok with wrong
      · cases ok
      · obtain rfl := congrArg Prod.fst ok
        have frames : ∀ other,
            ((grown.appendRef candidate.nListIdx ⟨index, (grown.frame index).nPoc⟩).setFrame
                index (HevcMarkRef (grown.frame index) candidate.bFlags)).frame other =
              if index = other ∧ other < grown.DPB.length then
                HevcMarkRef (grown.frame index) candidate.bFlags
              else grown.frame other := by
          intro other
          rw [frame_set]
          rfl
        constructor
        · change (grown.DPB.set index _).map _ = _
          rw [← so_far.entries, List.map_set]
          apply List.ext_getElem?
          intro place
          rw [List.getElem?_set]
          split_ifs with here inside_map
          · subst here
            rw [List.getElem?_map, List.getElem?_eq_getElem inside]
            change some _ = some _
            unfold HevcContex.frame HevcMarkRef
            rw [List.getD_eq_getElem _ _ inside]
          · rw [List.length_map] at inside_map
            exact absurd inside inside_map
          · rfl
        · exact so_far.sequence
        · exact so_far.sps
        · have kept : ∀ entry : RefEntry, owns grown entry.Ref ∧
              (FrameFlags.marked (grown.frame entry.Ref).bFlags = true ∨ entry.Ref = index) →
              owns ((grown.appendRef candidate.nListIdx
                ⟨index, (grown.frame index).nPoc⟩).setFrame index
                  (HevcMarkRef (grown.frame index) candidate.bFlags)) entry.Ref ∧
              FrameFlags.marked (((grown.appendRef candidate.nListIdx
                ⟨index, (grown.frame index).nPoc⟩).setFrame index
                  (HevcMarkRef (grown.frame index) candidate.bFlags)).frame
                    entry.Ref).bFlags = true := by
            intro entry known
            unfold owns
            rw [frames]
            split_ifs with changed
            · exact ⟨owned, mark_ref_marked _ marks⟩
            · refine ⟨known.1, ?_⟩
              rcases known.2 with marked | new
              · exact marked
              · exact absurd ⟨new.symm, new ▸ inside⟩ changed
          intro type entry listed
          apply kept
          change entry ∈ Function.update grown.Rps candidate.nListIdx
            (grown.Rps candidate.nListIdx ++ [⟨index, (grown.frame index).nPoc⟩]) type at listed
          by_cases own : type = candidate.nListIdx
          · rw [own, Function.update_self] at listed
            rcases List.mem_append.mp listed with old | new
            · have known := so_far.live _ entry old
              exact ⟨known.1, Or.inl known.2⟩
            · rw [List.mem_singleton.mp new]
              exact ⟨owned, Or.inr rfl⟩
          · rw [Function.update_of_ne own] at listed
            have known := so_far.live type entry listed
            exact ⟨known.1, Or.inl known.2⟩

theorem add_candidates_grow {candidates : List Candidate}
    (marks : ∀ candidate ∈ candidates, FrameFlags.marked candidate.bFlags = true)
    (here : ∀ candidate ∈ candidates, candidate.nPoc = 0 →
      (HevcFindRefIdx start 0).isSome = true) (so_far : SetsGrown start grown)
    (ok : addCandidates grown candidates = (added, .HEVC_RESULT_OK)) :
    SetsGrown start added := by
  induction candidates generalizing grown with
  | nil =>
    obtain rfl := congrArg Prod.fst ok
    exact so_far
  | cons candidate rest ih =>
    rw [addCandidates] at ok
    split at ok
    · next next step =>
        have grows := add_candidate_grows so_far (marks candidate List.mem_cons_self)
          (here candidate List.mem_cons_self) step
        exact ih (fun other inside => marks other (List.mem_cons_of_mem _ inside))
          (fun other inside => here other (List.mem_cons_of_mem _ inside)) grows ok
    · next other =>
        exact absurd ok (other added)

theorem constuct_frame_rps_live {built : HevcContex}
    (sets : ¬ (pHevcDec.pShortTermRps.isNone ∧ pHevcDec.LongTermRps = []))
    (here : missesZero pHevcDec = false)
    (ok : HevcConstuctFrameRps pHevcDec = (built, .HEVC_RESULT_OK)) : SetsLive built := by
  unfold HevcConstuctFrameRps at ok
  rw [if_neg sets] at ok
  have cleared : (clearSets pHevcDec).DPB.map
      (fun pHf => (pHf.pFbmBuffer, pHf.nSequence, pHf.nPoc)) =
        pHevcDec.DPB.map fun pHf => (pHf.pFbmBuffer, pHf.nSequence, pHf.nPoc) := by
    unfold clearSets
    dsimp only
    rw [List.map_map]
    rfl
  have start : SetsGrown pHevcDec (clearSets pHevcDec) := by
    constructor
    · exact cleared
    · rfl
    · rfl
    · intro type entry listed
      cases listed
  split at ok
  · next marked added =>
      have grown := add_candidates_grow (fun candidate => candidate_marks) (by
        intro candidate listed zero
        unfold missesZero at here
        rw [Bool.and_eq_false_iff] at here
        rcases here with unnamed | found
        · rw [List.any_eq_false] at unnamed
          exact absurd (decide_eq_true zero) (unnamed candidate listed)
        · rw [← Option.not_isNone, found]
          rfl) start added
      obtain rfl := congrArg Prod.fst ok
      intro type entry listed
      obtain ⟨owned, flagged⟩ := grown.live type entry listed
      have inside : entry.Ref < marked.DPB.length := by
        by_contra beyond
        unfold owns HevcContex.frame at owned
        rw [List.getD_eq_default _ _ (Nat.not_lt.mp beyond)] at owned
        cases owned
      have kept : (unrefFrames marked {}).frame entry.Ref =
          (HevcUnrefFrame marked.secOutputEnabled {} (marked.frame entry.Ref)).1 := by
        unfold unrefFrames HevcContex.frame
        dsimp only
        rw [List.getD_eq_getElem?_getD, List.map_map, List.getElem?_map,
          List.getElem?_eq_getElem inside, List.getD_eq_getElem _ _ inside]
        rfl
      unfold owns at owned ⊢
      rw [kept]
      unfold HevcUnrefFrame
      split
      · exact owned
      · next buffer held =>
          dsimp only
          have used : ((marked.frame entry.Ref).bFlags.without {}).isZero = false := by
            unfold FrameFlags.marked at flagged
            unfold FrameFlags.isZero FrameFlags.without
            rw [decide_eq_false_iff_not]
            intro zero
            rw [FrameFlags.mk.injEq] at zero
            rw [Bool.or_eq_true] at flagged
            rcases flagged with short | long
            · rw [short] at zero
              exact absurd zero.2.1 (by decide)
            · rw [long] at zero
              exact absurd zero.2.2 (by decide)
          rw [used, if_pos (show (!false) = true from rfl)]
          exact owned
  · next other =>
      exact absurd ok (other built)

end Building

section Pictures

variable {dpb started : HevcContex} {nNuhLayerId : Nat} {answers : FbmAnswers}

theorem request_frames_refs (dpb : HevcContex) (answers : FbmAnswers) :
    SameRefs dpb (requestFrames dpb answers).1 := by
  have first : SameRefs dpb (requestFirst dpb answers) := by
    unfold requestFirst
    split_ifs
    · exact same_refs_of_eq rfl rfl
    · exact SameRefs.refl dpb
  have second : ∀ other : HevcContex, SameRefs other (requestSecond other answers) := by
    intro other
    unfold requestSecond
    split_ifs
    · exact same_refs_of_eq rfl rfl
    · exact SameRefs.refl other
  unfold requestFrames
  dsimp only
  split_ifs
  · exact first
  · exact first
  · exact first.trans (second _)
  · exact first.trans (second _)

theorem store_new_ref_live (nPoc : Int) (bPocErrorFlag : Bool)
    (frame : dpb.pCurrFrame.isSome = true) (live : SetsLive dpb) :
    SetsLive (storeNewRef dpb nPoc bPocErrorFlag) := by
  intro type entry listed
  have owned := live type entry listed
  change ((dpb.setFrame (newRefIndex dpb.DPB) (storedFrame dpb nPoc bPocErrorFlag)).frame
    entry.Ref).pFbmBuffer.isSome = true
  rw [frame_set]
  split_ifs
  · exact frame
  · exact owned

theorem set_new_ref_live {nPoc : Int} (fresh : samePoc dpb nPoc nNuhLayerId = false)
    (live : SetsLive dpb)
    (ok : HevcSetNewRef dpb nPoc nNuhLayerId answers = (started, .HEVC_RESULT_OK)) :
    SetsLive started := by
  unfold HevcSetNewRef at ok
  dsimp only at ok
  simp only [fresh, Bool.false_eq_true, if_false] at ok
  split_ifs at ok
  · cases ok
  · have requests := request_frames_refs { dpb with bFbmInitFlag := true } answers
    split at ok
    · next requested result =>
        obtain ⟨_, frame, _⟩ := H265SlotOwnership.request_frames_ok result
        rw [result] at requests
        obtain rfl := congrArg Prod.fst ok
        have kept : SameRefs dpb requested := ⟨requests.pictures, requests.sets⟩
        exact store_new_ref_live _ _ frame (kept.live live)
    · next other =>
        exact absurd ok (other started)

def rpsTypes : List HevcRPSType :=
  [.HEVC_ST_CURR_BEF, .HEVC_ST_CURR_AFT, .HEVC_ST_FOLL, .HEVC_LT_CURR, .HEVC_LT_FOLL]

/-- The sets of the picture are built from `DPB` as it stays: they are coded, they fit in
the arrays, no picture of count 0 is missing and the count of the picture is new. -/
def setsKept (dpb : HevcContex) (nNuhLayerId : Nat) : Bool :=
  let dpb := checkSqueuePoc dpb
  let built := (HevcConstuctFrameRps dpb).1
  (dpb.pShortTermRps.isSome || decide (dpb.LongTermRps ≠ [])) && !missesZero dpb &&
    !samePoc built built.nPoc nNuhLayerId &&
    rpsTypes.all fun type => decide ((built.Rps type).length ≤ HEVC_MAX_REFS)

theorem frame_start_live (kept : setsKept dpb nNuhLayerId = true)
    (ok : HevcFrameStart dpb nNuhLayerId answers = (started, .HEVC_RESULT_OK)) :
    SetsLive started := by
  unfold setsKept at kept
  simp only [Bool.and_eq_true, Bool.not_eq_true'] at kept
  obtain ⟨⟨⟨coded, here⟩, fresh⟩, _⟩ := kept
  have sets : ¬ ((checkSqueuePoc dpb).pShortTermRps.isNone ∧
      (checkSqueuePoc dpb).LongTermRps = []) := by
    rintro ⟨short, long⟩
    rw [Bool.or_eq_true, decide_eq_true_eq] at coded
    rcases coded with coded | coded
    · rw [← Option.not_isNone, short] at coded
      cases coded
    · exact coded long
  unfold HevcFrameStart at ok
  split at ok
  · next built result =>
      rw [result] at fresh
      exact set_new_ref_live fresh (constuct_frame_rps_live sets here result) ok
  · next other =>
      exact absurd ok (other started)

end Pictures

section Headers

variable {dec ready : Decoder} {slice : SliceSegment}

theorem slice_decoder_refs (dec : Decoder) (slice : SliceSegment) :
    SameRefs dec.dpb (sliceDecoder dec slice).dpb ∧
      (sliceDecoder dec slice).RefPicList = dec.RefPicList ∧
      (sliceDecoder dec slice).SliceHeader = dec.SliceHeader ∧
      (sliceDecoder dec slice).bDependentSliceSegmentFlag = dec.bDependentSliceSegmentFlag ∧
      (sliceDecoder dec slice).dpb.pSps = dec.dpb.pSps := by
  unfold sliceDecoder
  dsimp only
  split_ifs <;> exact ⟨same_refs_of_eq rfl rfl, rfl, rfl, rfl, rfl⟩

/-- What a header leaves alone: the lists; for a segment that is not the first one, the
pictures and the sets too; and for a dependent one the header before it. -/
structure HeaderKeeps (slice : SliceSegment) (dec ready : Decoder) : Prop where
  lists : ready.RefPicList = dec.RefPicList
  refs : slice.bFirstSliceInPicFlag = false → dec.dpb.pSps.isSome = true →
    SameRefs dec.dpb ready.dpb
  header : ready.bDependentSliceSegmentFlag = true → ready.SliceHeader = dec.SliceHeader

theorem activate_sps_lists (dec : Decoder) (pCurSps : HevcSPS) (bHdrFlag : Bool) :
    (activateSps dec pCurSps bHdrFlag).1.RefPicList = dec.RefPicList ∧
      (activateSps dec pCurSps bHdrFlag).1.SliceHeader = dec.SliceHeader ∧
      (dec.dpb.pSps.isSome = true → SameRefs dec.dpb (activateSps dec pCurSps bHdrFlag).1.dpb) := by
  unfold activateSps
  cases active : dec.dpb.pSps with
  | none => exact ⟨rfl, rfl, fun known => by cases known⟩
  | some pSps =>
    dsimp only
    split_ifs <;> exact ⟨rfl, rfl, fun _ => same_refs_of_eq rfl rfl⟩

theorem decode_sets_refs (dec : Decoder) (slice : SliceSegment) :
    (decodeSets dec slice).1.RefPicList = dec.RefPicList ∧
      (decodeSets dec slice).1.bDependentSliceSegmentFlag = dec.bDependentSliceSegmentFlag ∧
      SameRefs dec.dpb (decodeSets dec slice).1.dpb := by
  unfold decodeSets
  split_ifs
  · exact ⟨rfl, rfl, same_refs_of_eq rfl rfl⟩
  · dsimp only
    split <;> exact ⟨rfl, rfl, same_refs_of_eq rfl rfl⟩

theorem decode_independent_refs (dec : Decoder) (slice : SliceSegment) :
    (decodeIndependent dec slice).1.RefPicList = dec.RefPicList ∧
      (decodeIndependent dec slice).1.bDependentSliceSegmentFlag = dec.bDependentSliceSegmentFlag ∧
      SameRefs dec.dpb (decodeIndependent dec slice).1.dpb := by
  obtain ⟨lists, dependent, refs⟩ := decode_sets_refs
    { dec with
      dpb := { dec.dpb with bPicOutputFlag := slice.bPicOutputFlag }
      SliceHeader := { dec.SliceHeader with eSliceType := slice.references.eSliceType } } slice
  unfold decodeIndependent
  split
  · next decoded result =>
      rw [result] at lists dependent refs
      exact ⟨lists, dependent, refs.pictures, refs.sets⟩
  · exact ⟨lists, dependent, refs.pictures, refs.sets⟩

theorem start_sequence_refs (dec : Decoder) (slice : SliceSegment) :
    (startSequence dec slice).RefPicList = dec.RefPicList ∧
      (startSequence dec slice).SliceHeader = dec.SliceHeader ∧
      (startSequence dec slice).dpb.pSps = dec.dpb.pSps ∧
      (slice.bFirstSliceInPicFlag = false → startSequence dec slice = dec) := by
  unfold startSequence
  split_ifs with first second
  · exact ⟨rfl, rfl, rfl, fun later => absurd first.1 (by rw [later]; decide)⟩
  · exact ⟨rfl, rfl, rfl, fun later => absurd second.1 (by rw [later]; decide)⟩
  · exact ⟨rfl, rfl, rfl, fun _ => rfl⟩

theorem decode_slice_header_keeps (dec : Decoder) (slice : SliceSegment) :
    HeaderKeeps slice dec (HevcDecodeSliceHeader dec slice).1 := by
  obtain ⟨lists, header, sps, later⟩ := start_sequence_refs
    { dec with dpb := { dec.dpb with eNaluType := slice.eNaluType } } slice
  have refs : slice.bFirstSliceInPicFlag = false → SameRefs dec.dpb (startSequence
        { dec with dpb := { dec.dpb with eNaluType := slice.eNaluType } } slice).dpb := by
    intro second
    rw [later second]
    exact same_refs_of_eq rfl rfl
  unfold HevcDecodeSliceHeader
  dsimp only
  generalize startSequence
    { dec with dpb := { dec.dpb with eNaluType := slice.eNaluType } } slice = begun
      at lists header sps refs
  split
  · exact ⟨lists, fun second _ => refs second, fun _ => header⟩
  · next pCurSps named =>
      obtain ⟨active_lists, active_header, active_refs⟩ :=
        activate_sps_lists begun pCurSps slice.bHdrFlag
      have known : dec.dpb.pSps.isSome = true → begun.dpb.pSps.isSome = true := by
        intro known
        rw [sps]
        exact known
      split
      · next activated result =>
          rw [result] at active_lists active_header active_refs
          split_ifs with dependent
          · exact ⟨active_lists.trans lists,
              fun second sps => (refs second).trans (active_refs (known sps)),
              fun _ => active_header.trans header⟩
          · obtain ⟨coded_lists, coded_flag, coded_refs⟩ := decode_independent_refs
              { activated with
                bDependentSliceSegmentFlag :=
                  !slice.bFirstSliceInPicFlag && slice.bDependentSliceSegmentFlag } slice
            refine ⟨(coded_lists.trans active_lists).trans lists, ?_, ?_⟩
            · intro second sps
              exact ((refs second).trans (active_refs (known sps))).trans
                ⟨coded_refs.pictures, coded_refs.sets⟩
            · intro flag
              exact absurd (coded_flag.symm.trans flag) dependent
      · exact ⟨active_lists.trans lists,
          fun second sps => (refs second).trans (active_refs (known sps)),
          fun _ => active_header.trans header⟩

theorem update_max_ra_refs (dec : Decoder) :
    (updateMaxRa dec).dpb = dec.dpb ∧ (updateMaxRa dec).RefPicList = dec.RefPicList ∧
      (updateMaxRa dec).SliceHeader = dec.SliceHeader ∧
      (updateMaxRa dec).bDependentSliceSegmentFlag = dec.bDependentSliceSegmentFlag := by
  unfold updateMaxRa
  split_ifs <;> exact ⟨rfl, rfl, rfl, rfl⟩

theorem prepare_header_keeps (dec : Decoder) (slice : SliceSegment) :
    HeaderKeeps slice dec (prepareHeader dec slice).1 := by
  unfold prepareHeader
  split_ifs
  · exact ⟨rfl, fun _ _ => same_refs_of_eq rfl rfl, fun _ => rfl⟩
  · have kept := decode_slice_header_keeps dec slice
    split
    · next decoded result =>
        rw [result] at kept
        exact kept
    · next decoded other _ result =>
        rw [result] at kept
        have marked : HeaderKeeps slice dec
            (if other = .refused then { decoded with bErrorFrameFlag := true } else decoded) := by
          split_ifs
          · exact ⟨kept.lists, fun second sps => kept.refs second sps, kept.header⟩
          · exact kept
        dsimp only
        obtain ⟨dpb, lists, header, flag⟩ := update_max_ra_refs
          (if other = .refused then { decoded with bErrorFrameFlag := true } else decoded)
        generalize (if other = .refused then { decoded with bErrorFrameFlag := true }
          else decoded) = started at marked dpb lists header flag ⊢
        have updated : HeaderKeeps slice dec (updateMaxRa started) := by
          constructor
          · exact lists.trans marked.lists
          · intro second sps
            rw [dpb]
            exact marked.refs second sps
          · intro dependent
            rw [header]
            exact marked.header (flag.symm.trans dependent)
        split_ifs
        · exact ⟨updated.lists, fun second sps => ⟨(updated.refs second sps).pictures,
            (updated.refs second sps).sets⟩, updated.header⟩
        · exact ⟨updated.lists, fun second sps => updated.refs second sps, updated.header⟩
        · exact updated

theorem slice_header_keeps (dec : Decoder) (slice : SliceSegment) :
    HeaderKeeps slice dec (prepareHeader (sliceDecoder dec slice) slice).1 := by
  obtain ⟨refs, lists, header, _, sps⟩ := slice_decoder_refs dec slice
  have kept := prepare_header_keeps (sliceDecoder dec slice) slice
  constructor
  · exact kept.lists.trans lists
  · intro second known
    exact refs.trans (kept.refs second (by rw [sps]; exact known))
  · exact fun dependent => (kept.header dependent).trans header

end Headers

section Slices

variable {setsBuilt listsBuilt : Bool} {result : HevcDecodeFrameResult}

theorem prepare_header_ends {dec header : Decoder} {slice : SliceSegment}
    (ended : prepareHeader dec slice = (header, some result)) : goesOn result = false := by
  unfold prepareHeader at ended
  split_ifs at ended
  · obtain rfl := Option.some.inj (congrArg Prod.snd ended)
    rfl
  · split at ended
    · obtain rfl := Option.some.inj (congrArg Prod.snd ended)
      rfl
    · dsimp only at ended
      split_ifs at ended
      all_goals first
        | (obtain rfl := Option.some.inj (congrArg Prod.snd ended); rfl)
        | cases congrArg Prod.snd ended

theorem add_candidates_result (pHevcDec : HevcContex) (candidates : List Candidate) :
    (addCandidates pHevcDec candidates).2 ≠ .HEVC_RESULT_NULA_DATA_ERROR := by
  induction candidates generalizing pHevcDec with
  | nil => exact fun same => by cases same
  | cons candidate rest ih =>
    have first : (HevcAddCandidateRef pHevcDec candidate).2 ≠
        .HEVC_RESULT_NULA_DATA_ERROR := by
      unfold HevcAddCandidateRef
      split
      · split_ifs <;> exact fun same => by cases same
      · dsimp only
        split_ifs <;> exact fun same => by cases same
    rw [addCandidates]
    split
    · exact ih _
    · exact first

theorem frame_start_result (dpb : HevcContex) (nNuhLayerId : Nat) (answers : FbmAnswers) :
    (HevcFrameStart dpb nNuhLayerId answers).2 ≠ .HEVC_RESULT_NULA_DATA_ERROR := by
  have requests : ∀ other : HevcContex,
      (requestFrames other answers).2 ≠ .HEVC_RESULT_NULA_DATA_ERROR := by
    intro other
    unfold requestFrames
    dsimp only
    split_ifs <;> exact fun same => by cases same
  unfold HevcFrameStart
  split
  · unfold HevcSetNewRef
    dsimp only
    generalize (if samePoc _ _ nNuhLayerId then _ else _ : HevcContex) = emptied
    split_ifs
    · exact fun same => by cases same
    · split
      · exact fun same => by cases same
      · exact requests _
  · unfold HevcConstuctFrameRps
    split_ifs
    · exact fun same => by cases same
    · split
      · exact fun same => by cases same
      · exact add_candidates_result _ _

/-- A picture that cannot be started ends the frame; without a picture its other slices
are left out. -/
theorem start_picture_ends {header started : Decoder} {slice : SliceSegment} {answers : FbmAnswers}
    (ended : startPicture header slice answers = (started, some result))
    (on : goesOn result = true) :
    slice.bFirstSliceInPicFlag = false ∧ started = header := by
  unfold startPicture at ended
  split_ifs at ended with first absent
  · split at ended
    · cases congrArg Prod.snd ended
    · obtain rfl := Option.some.inj (congrArg Prod.snd ended)
      cases on
    · next dpb failed failing _ reached =>
        obtain rfl := Option.some.inj (congrArg Prod.snd ended)
        have known := frame_start_result header.dpb slice.nNuhLayerId answers
        rw [reached] at known
        cases failed with
        | HEVC_RESULT_OK => exact absurd rfl failing
        | HEVC_RESULT_NULA_DATA_ERROR => exact absurd rfl known
        | HEVC_RESULT_NO_FRAME_BUFFER | HEVC_RESULT_PICTURES_SIZE_CHANGE
        | HEVC_RESULT_RESET_INTRA_DECODER | HEVC_RESULT_DROP_THE_FRAME
        | HEVC_RESULT_INIT_FBM_FAILED => cases on
  · exact ⟨Bool.eq_false_iff.mpr first, (congrArg Prod.fst ended).symm⟩
  · cases congrArg Prod.snd ended

def listState (dec : Decoder) (slice : SliceSegment) (answers : FbmAnswers) : Option Decoder :=
  match prepareHeader (sliceDecoder dec slice) slice with
  | (_, some _) => none
  | (header, none) =>
    match startPicture header slice answers with
    | (_, some _) => none
    | (ready, none) => if ready.dpb.eNaluType ≠ ready.eFirstNaluType then none else some ready

/-- The slice as it goes to the hardware, if it does. -/
def submitted (dec : Decoder) (slice : SliceSegment) (answers : FbmAnswers) : Option Decoder :=
  match prepareSlice (sliceDecoder dec slice) slice answers with
  | (_, some _) => none
  | (ready, none) => some ready

/-- Whether the sets are those of the picture, with `DPB` as they found it: a first slice
builds them, others leave them unless the first parameter set becomes active. -/
def setsAfter (dec : Decoder) (setsBuilt : Bool) (slice : SliceSegment) : Bool :=
  match prepareHeader (sliceDecoder dec slice) slice with
  | (_, some _) => false
  | (header, none) =>
    if slice.bFirstSliceInPicFlag then setsKept header.dpb slice.nNuhLayerId
    else setsBuilt && dec.dpb.pSps.isSome

/-- Whether the lists are those of the last independent slice segment: such a segment
builds them, dependent ones leave them. -/
def listsAfter (dec : Decoder) (setsBuilt listsBuilt : Bool) (slice : SliceSegment)
    (answers : FbmAnswers) : Bool :=
  if (prepareHeader (sliceDecoder dec slice) slice).1.bDependentSliceSegmentFlag then
    listsBuilt && !slice.bFirstSliceInPicFlag && dec.dpb.pSps.isSome
  else
    (listState dec slice answers).elim false fun ready =>
      setsAfter dec setsBuilt slice &&
        decide (ready.SliceHeader.eSliceType ≠ .HEVC_I_SLICE) &&
        decide (ListsBuildable ready.dpb ready.SliceHeader)

/-- Each entry that is written is the one that the sets and the header give, and its
picture is there. -/
def ListsInPlace (RefPicList : RefList → RefSlots) (pSh : HevcSliceHeader) (dpb : HevcContex) :
    Prop :=
  ∀ nListIdx ∈ writtenLists pSh.eSliceType, ∀ j < pSh.nNumOfRefs nListIdx,
    ∃ slot, (RefPicList nListIdx).getD j none = some slot ∧
      listEntry dpb pSh nListIdx j = some slot ∧ owns dpb slot.Ref

variable {dec header ready : Decoder} {slice : SliceSegment} {answers : FbmAnswers}

theorem lists_in_place_of_refs {RefPicList : RefList → RefSlots} {pSh : HevcSliceHeader}
    {before after : HevcContex} (same : SameRefs before after)
    (held : ListsInPlace RefPicList pSh before) : ListsInPlace RefPicList pSh after := by
  intro nListIdx written j inside
  obtain ⟨slot, entry, named, owned⟩ := held nListIdx written j inside
  exact ⟨slot, entry, (same.entry pSh nListIdx j).trans named, same.owns owned⟩

theorem start_picture_ok (ok : startPicture header slice answers = (ready, none)) :
    ready.SliceHeader = header.SliceHeader ∧ ready.RefPicList = header.RefPicList ∧
      ready.bDependentSliceSegmentFlag = header.bDependentSliceSegmentFlag ∧
      (slice.bFirstSliceInPicFlag = true →
        HevcFrameStart header.dpb slice.nNuhLayerId answers = (ready.dpb, .HEVC_RESULT_OK)) ∧
      (slice.bFirstSliceInPicFlag = false → ready = header) := by
  unfold startPicture at ok
  split_ifs at ok with first absent
  · split at ok
    · next dpb result =>
        obtain rfl := congrArg Prod.fst ok
        exact ⟨rfl, rfl, rfl, fun _ => result, fun second => by
          rw [first] at second
          cases second⟩
    · cases congrArg Prod.snd ok
    · cases congrArg Prod.snd ok
  · cases congrArg Prod.snd ok
  · obtain rfl := congrArg Prod.fst ok
    exact ⟨rfl, rfl, rfl, fun now => absurd now first, fun _ => rfl⟩

theorem started_sets_live (prepared : prepareHeader (sliceDecoder dec slice) slice = (header, none))
    (started : startPicture header slice answers = (ready, none) ∨
      slice.bFirstSliceInPicFlag = false ∧ ready = header)
    (live : setsBuilt = true → SetsLive dec.dpb)
    (sets : setsAfter dec setsBuilt slice = true) : SetsLive ready.dpb := by
  have kept := slice_header_keeps dec slice
  unfold setsAfter at sets
  rw [prepared] at sets kept
  dsimp only at sets
  split_ifs at sets with first
  · rcases started with started | later
    · exact frame_start_live sets ((start_picture_ok started).2.2.2.1 first)
    · rw [first] at later
      cases later.1
  · have second : slice.bFirstSliceInPicFlag = false := Bool.eq_false_iff.mpr first
    have same : ready = header := by
      rcases started with started | later
      · exact (start_picture_ok started).2.2.2.2 second
      · exact later.2
    rw [Bool.and_eq_true] at sets
    rw [same]
    exact (kept.refs second sets.2).live (live sets.1)

theorem dependent_lists_stay
    (prepared : prepareHeader (sliceDecoder dec slice) slice = (header, none))
    (dependent : header.bDependentSliceSegmentFlag = true)
    (held : listsBuilt = true → ListsInPlace dec.RefPicList dec.SliceHeader dec.dpb)
    (lists : listsAfter dec setsBuilt listsBuilt slice answers = true) :
    slice.bFirstSliceInPicFlag = false ∧
      ListsInPlace header.RefPicList header.SliceHeader header.dpb := by
  have kept := slice_header_keeps dec slice
  unfold listsAfter at lists
  rw [prepared] at lists kept
  dsimp only at lists
  rw [if_pos dependent, Bool.and_eq_true, Bool.and_eq_true, Bool.not_eq_true'] at lists
  obtain ⟨⟨built, second⟩, sps⟩ := lists
  refine ⟨second, ?_⟩
  rw [kept.lists, kept.header dependent]
  exact lists_in_place_of_refs (kept.refs second sps) (held built)

theorem list_state_prepared (reached : listState dec slice answers = some ready) :
    ∃ header, prepareHeader (sliceDecoder dec slice) slice = (header, none) ∧
      startPicture header slice answers = (ready, none) := by
  unfold listState at reached
  split at reached
  · cases reached
  · next header prepared =>
      split at reached
      · cases reached
      · next started ok =>
          split_ifs at reached
          obtain rfl := Option.some.inj reached
          exact ⟨header, prepared, ok⟩

theorem slice_references_refs (ready : Decoder) : SameRefs ready.dpb (sliceReferences ready).dpb ∧
      (sliceReferences ready).SliceHeader = ready.SliceHeader := by
  unfold sliceReferences
  split_ifs
  · exact ⟨SameRefs.refl _, rfl⟩
  · split
    · exact ⟨SameRefs.refl _, rfl⟩
    · exact ⟨SameRefs.refl _, rfl⟩
    · refine ⟨?_, rfl⟩
      dsimp only
      cases ready.dpb.pCurrDPB with
      | none => exact SameRefs.refl _
      | some index => exact same_refs_set_frame rfl

theorem written_are_built {eSliceType : HevcSliceType} {nListIdx : RefList}
    (written : nListIdx ∈ writtenLists eSliceType) : nListIdx ∈ sliceLists eSliceType := by
  cases eSliceType with
  | HEVC_B_SLICE | HEVC_P_SLICE => exact written
  | HEVC_I_SLICE | unknown => cases written

theorem decided_in_place (sizes : ∀ nListIdx, (dec.RefPicList nListIdx).length = HEVC_MAX_REFS)
    (live : setsBuilt = true → SetsLive dec.dpb)
    (held : listsBuilt = true → ListsInPlace dec.RefPicList dec.SliceHeader dec.dpb)
    (reached : listState dec slice answers = some ready)
    (lists : listsAfter dec setsBuilt listsBuilt slice answers = true) :
    ListsInPlace (sliceReferences ready).RefPicList ready.SliceHeader ready.dpb := by
  obtain ⟨header, prepared, started⟩ := list_state_prepared reached
  obtain ⟨same_header, same_lists, same_flag, _, later⟩ := start_picture_ok started
  by_cases dependent : header.bDependentSliceSegmentFlag = true
  · obtain ⟨second, stay⟩ := dependent_lists_stay prepared dependent held lists
    have unchanged : sliceReferences ready = ready := by
      unfold sliceReferences
      rw [if_pos (Or.inl (same_flag.trans dependent))]
    rw [unchanged, later second]
    exact stay
  · have kept := slice_header_keeps dec slice
    unfold listsAfter at lists
    rw [prepared] at lists kept
    dsimp only at lists
    rw [if_neg dependent, reached, Option.elim_some, Bool.and_eq_true, Bool.and_eq_true,
      decide_eq_true_eq, decide_eq_true_eq] at lists
    obtain ⟨⟨sets, inter⟩, buildable⟩ := lists
    have alive := started_sets_live prepared (Or.inl started) live sets
    obtain ⟨built, done, entries⟩ := @slice_rps_builds ready.dpb ready.SliceHeader
      ready.RefPicList (by
        intro nListIdx
        rw [same_lists, kept.lists]
        exact sizes nListIdx) buildable
    have independent : ¬ (ready.bDependentSliceSegmentFlag = true ∨
        ready.SliceHeader.eSliceType = .HEVC_I_SLICE) := by
      rintro (flag | intra)
      · exact dependent (same_flag.symm.trans flag)
      · exact inter intra
    have result : sliceReferences ready = { ready with RefPicList := built } := by
      unfold sliceReferences
      rw [if_neg independent, done]
    rw [result]
    intro nListIdx written j inside
    obtain ⟨slot, listed, named⟩ := @list_entry_some ready.dpb ready.SliceHeader buildable.1
      nListIdx j
    obtain ⟨type, entry, member, place⟩ := cand_slot_ref listed
    refine ⟨slot, ?_, named, ?_⟩
    · rw [← named]
      exact entries nListIdx (written_are_built written) j inside
    · rw [← place]
      exact alive type entry member

/-- A slice that does not end its frame, with what it did to lists, header and pictures. -/
theorem slice_outcome {env : NaluEnv}
    (on : goesOn (decodeSlice (sliceDecoder dec slice) slice env).2 = true) :
    ∃ header started, prepareHeader (sliceDecoder dec slice) slice = (header, none) ∧
      (startPicture header slice env.answers = (started, none) ∨
        slice.bFirstSliceInPicFlag = false ∧ started = header) ∧
      SameRefs started.dpb (decodeSlice (sliceDecoder dec slice) slice env).1.dpb ∧
      (decodeSlice (sliceDecoder dec slice) slice env).1.SliceHeader = started.SliceHeader ∧
      ((listState dec slice env.answers = some started ∧
          (decodeSlice (sliceDecoder dec slice) slice env).1.RefPicList =
            (sliceReferences started).RefPicList) ∨
        (listState dec slice env.answers = none ∧
          (decodeSlice (sliceDecoder dec slice) slice env).1.RefPicList = started.RefPicList)) := by
  cases prepared : prepareHeader (sliceDecoder dec slice) slice with
  | mk header ended =>
    cases ended with
    | some result =>
      unfold decodeSlice prepareSlice at on
      rw [prepared] at on
      have last := prepare_header_ends prepared
      change goesOn result = true at on
      rw [last] at on
      cases on
    | none =>
      refine ⟨header, ?_⟩
      cases picture : startPicture header slice env.answers with
      | mk started ended =>
        have state : listState dec slice env.answers =
            match startPicture header slice env.answers with
            | (_, some _) => none
            | (ready, none) =>
              if ready.dpb.eNaluType ≠ ready.eFirstNaluType then none
              else some ready := by
          unfold listState
          rw [prepared]
        rw [picture] at state
        cases ended with
        | some result =>
          have whole : decodeSlice (sliceDecoder dec slice) slice env = (started, result) := by
            unfold decodeSlice prepareSlice
            rw [prepared]
            dsimp only
            rw [picture]
          rw [whole] at on ⊢
          obtain ⟨second, same⟩ := start_picture_ends picture on
          refine ⟨started, rfl, Or.inr ⟨second, same⟩, SameRefs.refl _, rfl, ?_⟩
          exact Or.inr ⟨state, rfl⟩
        | none =>
          refine ⟨started, rfl, Or.inl rfl, ?_⟩
          dsimp only at state
          by_cases other : started.dpb.eNaluType ≠ started.eFirstNaluType
          · have whole : decodeSlice (sliceDecoder dec slice) slice env =
                (started, .HEVC_RESULT_NULA_DATA_ERROR) := by
              unfold decodeSlice prepareSlice
              rw [prepared]
              dsimp only
              rw [picture]
              dsimp only
              rw [if_pos other]
            rw [if_pos other] at state
            rw [whole]
            exact ⟨SameRefs.refl _, rfl, Or.inr ⟨state, rfl⟩⟩
          · rw [if_neg other] at state
            obtain ⟨refs, same_header⟩ := slice_references_refs started
            have whole : decodeSlice (sliceDecoder dec slice) slice env =
                if (sliceReferences started).dpb.pCurrDPB.elim false
                  (fun index => ((sliceReferences started).dpb.frame index).bDropFlag)
                then (sliceReferences started, .HEVC_RESULT_DROP_THE_FRAME)
                else submitSlice (sliceReferences started) env.bHardwareError := by
              unfold decodeSlice prepareSlice
              rw [prepared]
              dsimp only
              rw [picture]
              dsimp only
              rw [if_neg other]
              split_ifs <;> rfl
            rw [whole] at on ⊢
            split_ifs at on ⊢ with dropped
            · cases on
            · unfold submitSlice
              dsimp only
              split_ifs
              · exact ⟨refs.trans (mark_error_refs _), same_header, Or.inl ⟨state, rfl⟩⟩
              · exact ⟨refs, same_header, Or.inl ⟨state, rfl⟩⟩

theorem submitted_state (goes : submitted dec slice answers = some ready) :
    ∃ started, listState dec slice answers = some started ∧ ready = sliceReferences started := by
  unfold submitted prepareSlice at goes
  unfold listState
  cases prepared : prepareHeader (sliceDecoder dec slice) slice with
  | mk header ended =>
    rw [prepared] at goes
    cases ended with
    | some result => cases goes
    | none =>
      dsimp only at goes ⊢
      cases picture : startPicture header slice answers with
      | mk started ended =>
        rw [picture] at goes
        cases ended with
        | some result => cases goes
        | none =>
          dsimp only at goes ⊢
          split_ifs at goes ⊢
          exact ⟨started, rfl, (Option.some.inj goes).symm⟩

end Slices

structure SliceWatch where
  run : DecoderRun
  setsBuilt : Bool
  listsBuilt : Bool

def SliceWatch.start (secOutputEnabled bDisplayErrorFrameFlag : Bool) : SliceWatch :=
  ⟨DecoderRun.start secOutputEnabled bDisplayErrorFrameFlag, false, false⟩

def watchNext (watch : SliceWatch) (op : DecoderOp) (next : DecoderRun) : SliceWatch :=
  match op with
  | .nalu (.slice slice) env =>
    ⟨next, setsAfter watch.run.dec watch.setsBuilt slice,
      listsAfter watch.run.dec watch.setsBuilt watch.listsBuilt slice env.answers⟩
  | .nalu _ _ | .skipNalu => ⟨next, watch.setsBuilt, watch.listsBuilt⟩
  | _ => ⟨next, false, false⟩

def watchExec (watch : SliceWatch) (op : DecoderOp) : Option SliceWatch :=
  (decoderExec watch.run op).map (watchNext watch op)

/-- The lists of a slice with references that goes to the hardware are those of its last
independent segment. -/
def ReferencesBuilt (watch : SliceWatch) : DecoderOp → Prop
  | .nalu (.slice slice) env => watch.run.inFrame = true →
      ∀ ready ∈ submitted watch.run.dec slice env.answers,
        writtenLists ready.SliceHeader.eSliceType ≠ [] →
          listsAfter watch.run.dec watch.setsBuilt watch.listsBuilt slice env.answers = true
  | _ => True

/-- Each index in the words that are written for a slice is the one of its entry, which
the sets and the header give and whose picture is there. -/
def ReferencesInPlace (watch : SliceWatch) : DecoderOp → Prop
  | .nalu (.slice slice) env => watch.run.inFrame = true →
      ∀ ready ∈ submitted watch.run.dec slice env.answers,
        ∀ nListIdx ∈ writtenLists ready.SliceHeader.eSliceType,
          ∀ j < ready.SliceHeader.nNumOfRefs nListIdx,
            ∃ slot, (ready.RefPicList nListIdx).getD j none = some slot ∧
              listEntry ready.dpb ready.SliceHeader nListIdx j = some slot ∧
              owns ready.dpb slot.Ref ∧
              wordByte (refWords (ready.RefPicList nListIdx)
                (ready.SliceHeader.nNumOfRefs nListIdx)) j =
                  slot.Ref + if slot.bIsLongTerm then 128 else 0
  | _ => True

/-- What the watch knows holds of the decoder. -/
structure WatchKept (watch : SliceWatch) : Prop where
  well : SlotsWell watch.run.dec.dpb
  sizes : ∀ nListIdx, (watch.run.dec.RefPicList nListIdx).length = HEVC_MAX_REFS
  sets : watch.run.inFrame = true → watch.setsBuilt = true → SetsLive watch.run.dec.dpb
  lists : watch.run.inFrame = true → watch.listsBuilt = true →
    ListsInPlace watch.run.dec.RefPicList watch.run.dec.SliceHeader watch.run.dec.dpb

theorem start_watch_kept (secOutputEnabled bDisplayErrorFrameFlag : Bool) :
    WatchKept (SliceWatch.start secOutputEnabled bDisplayErrorFrameFlag) := by
  constructor
  · exact start_slots_well secOutputEnabled bDisplayErrorFrameFlag
  · intro nListIdx
    rfl
  · intro inside
    cases inside
  · intro inside
    cases inside

variable {watch next : SliceWatch} {slice : SliceSegment} {env : NaluEnv} {op : DecoderOp}

theorem other_step_kept (kept : WatchKept watch) (well : SlotsWell next.run.dec.dpb)
    (lists : next.run.dec.RefPicList = watch.run.dec.RefPicList)
    (header : next.run.dec.SliceHeader = watch.run.dec.SliceHeader)
    (refs : SameRefs watch.run.dec.dpb next.run.dec.dpb) (inFrame : watch.run.inFrame = true)
    (sets : next.setsBuilt = watch.setsBuilt) (built : next.listsBuilt = watch.listsBuilt) :
    WatchKept next := by
  constructor
  · exact well
  · intro nListIdx
    rw [lists]
    exact kept.sizes nListIdx
  · intro _ known
    exact refs.live (kept.sets inFrame (sets ▸ known))
  · intro _ known
    rw [lists, header]
    exact lists_in_place_of_refs refs (kept.lists inFrame (built ▸ known))

theorem slice_references_sizes (ready : Decoder)
    (sizes : ∀ nListIdx, (ready.RefPicList nListIdx).length = HEVC_MAX_REFS)
    (nListIdx : RefList) :
    ((sliceReferences ready).RefPicList nListIdx).length = HEVC_MAX_REFS := by
  have built := @slice_rps_length ready.dpb ready.SliceHeader _ sizes nListIdx
  unfold sliceReferences
  split_ifs
  · exact sizes nListIdx
  · split
    all_goals
      next result =>
        rw [result] at built
        exact built

theorem decode_slice_sizes {dec : Decoder}
    (sizes : ∀ nListIdx, (dec.RefPicList nListIdx).length = HEVC_MAX_REFS) (nListIdx : RefList) :
    ((decodeSlice (sliceDecoder dec slice) slice env).1.RefPicList nListIdx).length =
      HEVC_MAX_REFS := by
  have kept := (slice_header_keeps dec slice).lists
  have started : ∀ header : Decoder,
      (startPicture header slice env.answers).1.RefPicList = header.RefPicList := by
    intro header
    unfold startPicture
    split_ifs
    · split <;> rfl
    · rfl
    · rfl
  have prepared : ((prepareSlice (sliceDecoder dec slice) slice env.answers).1.RefPicList
      nListIdx).length = HEVC_MAX_REFS := by
    unfold prepareSlice
    split
    · next header ended result =>
        rw [result] at kept
        rw [kept]
        exact sizes nListIdx
    · next header result =>
        rw [result] at kept
        have same := started header
        split
        · next begun ended picture =>
            rw [picture] at same
            rw [same, kept]
            exact sizes nListIdx
        · next begun picture =>
            rw [picture] at same
            have sized : ∀ nListIdx, (begun.RefPicList nListIdx).length = HEVC_MAX_REFS := by
              intro nListIdx
              rw [same, kept]
              exact sizes nListIdx
            dsimp only
            split_ifs
            · exact sized nListIdx
            all_goals exact slice_references_sizes begun sized nListIdx
  unfold decodeSlice
  split
  · next ready ended result =>
      rw [result] at prepared
      exact prepared
  · next ready result =>
      rw [result] at prepared
      unfold submitSlice
      dsimp only
      split_ifs <;> exact prepared

theorem finish_frame_lists (dec : Decoder) (bCtuMissing : Bool) :
    (finishFrame dec bCtuMissing).RefPicList = dec.RefPicList := by
  have ended : ∀ marked : Decoder, (marked.dpb.pCurrDPB.elim marked fun pCurrDPB =>
        { marked with
          dpb :=
            { marked.dpb with
              nSqueueFramePocList := marked.dpb.nSqueueFramePocList.set
                (squeueIndex marked.dpb.nSqueueFramePocList)
                (marked.dpb.frame pCurrDPB).nPoc } }).RefPicList = marked.RefPicList := by
    intro marked
    cases marked.dpb.pCurrDPB <;> rfl
  unfold finishFrame
  dsimp only
  rw [ended]
  split_ifs <;> rfl

theorem slice_step_kept (kept : WatchKept watch)
    (well : SlotsWell (decodeSlice (sliceDecoder watch.run.dec slice) slice env).1.dpb)
    (inFrame : watch.run.inFrame = true) :
    WatchKept (watchNext watch (.nalu (.slice slice) env)
      ⟨(decodeSlice (sliceDecoder watch.run.dec slice) slice env).1,
        goesOn (decodeSlice (sliceDecoder watch.run.dec slice) slice env).2⟩) := by
  have live := kept.sets inFrame
  have held := kept.lists inFrame
  constructor
  · exact well
  · intro nListIdx
    exact decode_slice_sizes kept.sizes nListIdx
  · intro on sets
    obtain ⟨header, started, prepared, picture, refs, _, _⟩ := slice_outcome on
    exact refs.live (started_sets_live prepared picture live sets)
  · intro on lists
    obtain ⟨header, started, prepared, picture, refs, same_header, outcome⟩ := slice_outcome on
    change ListsInPlace (decodeSlice (sliceDecoder watch.run.dec slice) slice env).1.RefPicList
      (decodeSlice (sliceDecoder watch.run.dec slice) slice env).1.SliceHeader
      (decodeSlice (sliceDecoder watch.run.dec slice) slice env).1.dpb
    rw [same_header]
    apply lists_in_place_of_refs refs
    rcases outcome with ⟨reached, same_lists⟩ | ⟨unreached, same_lists⟩
    · rw [same_lists]
      exact decided_in_place kept.sizes live held reached lists
    · rw [same_lists]
      by_cases dependent : header.bDependentSliceSegmentFlag = true
      · obtain ⟨second, stay⟩ := dependent_lists_stay prepared dependent held lists
        have same : started = header := by
          rcases picture with picture | later
          · exact (start_picture_ok picture).2.2.2.2 second
          · exact later.2
        rw [same]
        exact stay
      · change listsAfter _ _ _ _ _ = true at lists
        unfold listsAfter at lists
        rw [prepared] at lists
        dsimp only at lists
        rw [if_neg dependent, unreached] at lists
        cases lists

theorem watch_step_kept (kept : WatchKept watch)
    (step : watchExec watch op = some next) : WatchKept next := by
  obtain ⟨ran, executed, rfl⟩ := Option.map_eq_some_iff.mp step
  obtain ⟨allowed, rfl⟩ := step_of_exec executed
  have well : SlotsWell (decoderStep watch.run.dec op).dpb :=
    (@decoder_step_keeps False watch.run.dec watch.run.inFrame op False.elim).well kept.well
  have outside : ∀ dec inFrame, SlotsWell (Decoder.dpb dec) →
      (∀ nListIdx, (dec.RefPicList nListIdx).length = HEVC_MAX_REFS) →
        WatchKept ⟨⟨dec, inFrame⟩, false, false⟩ := by
    intro dec inFrame well sizes
    constructor
    · exact well
    · exact sizes
    · intro _ known
      cases known
    · intro _ known
      cases known
  cases op with
  | outputFrame bFlush | startFrame | setDropFrame enable | reset =>
    exact outside _ _ well kept.sizes
  | requestFrame nFrameDuration nPts =>
    apply outside _ _ well
    intro nListIdx
    change ((requestFrame nFrameDuration nPts watch.run.dec).RefPicList nListIdx).length = _
    unfold requestFrame HevcDecoderAddPtsToList
    dsimp only
    split_ifs <;> exact kept.sizes nListIdx
  | skipNalu =>
    exact other_step_kept kept well rfl rfl (same_refs_of_eq rfl rfl) allowed.symm rfl rfl
  | nalu nalu env =>
    cases nalu with
    | slice slice => exact slice_step_kept kept well allowed.symm
    | sps small | pps | bitDepthChange | endOfSequence =>
      exact other_step_kept kept well rfl rfl (same_refs_of_eq rfl rfl) allowed.symm rfl rfl
    | damaged keyFrame | other keyFrame =>
      have same : ∀ flag : Prop, [Decidable flag] →
          let dec := if flag then { watch.run.dec with bFindKeyFrameOnly := false }
            else watch.run.dec
          dec.RefPicList = watch.run.dec.RefPicList ∧
            dec.SliceHeader = watch.run.dec.SliceHeader ∧ dec.dpb = watch.run.dec.dpb := by
        intro flag _
        dsimp only
        split_ifs <;> exact ⟨rfl, rfl, rfl⟩
      obtain ⟨lists, header, dpb⟩ := same (keyFrame = some true)
      exact other_step_kept kept well lists header
        (same_refs_of_eq (congrArg HevcContex.DPB dpb) (congrArg HevcContex.Rps dpb))
        allowed.symm rfl rfl
  | finishFrame bCtuMissing =>
    apply outside _ _ well
    intro nListIdx
    change ((finishFrame watch.run.dec bCtuMissing).RefPicList nListIdx).length = _
    rw [finish_frame_lists]
    exact kept.sizes nListIdx

theorem submitted_well {dec started : Decoder} {answers : FbmAnswers}
    (well : SlotsWell dec.dpb) (reached : listState dec slice answers = some started) :
    SlotsWell (sliceReferences started).dpb := by
  obtain ⟨header, prepared, picture⟩ := list_state_prepared reached
  have headers := (@H265SlotOwnership.prepare_header_keeps False (sliceDecoder dec slice) slice).behind
    (slice_decoder_same dec slice)
  have pictures := @start_picture_keeps False header slice answers False.elim
  rw [prepared] at headers
  rw [picture] at pictures
  exact ((headers.trans pictures).trans (slice_references_keeps started)).well well

theorem ref_inside {dpb : HevcContex} {index : Nat} (well : SlotsWell dpb)
    (owned : owns dpb index) : index < HEVC_MAX_DPB_SIZE := by
  by_contra beyond
  unfold owns HevcContex.frame at owned
  rw [List.getD_eq_default _ _ (by rw [well.size]; exact Nat.not_lt.mp beyond)] at owned
  cases owned

theorem ref_byte_index {slot : RefSlot} (inside : slot.Ref < HEVC_MAX_DPB_SIZE) :
    refByte slot = slot.Ref + if slot.bIsLongTerm then 128 else 0 := by
  unfold refByte
  rw [Nat.mod_eq_of_lt (Nat.lt_trans inside (by decide))]

theorem references_in_place_of_built
    (kept : WatchKept watch) (built : ReferencesBuilt watch op) : ReferencesInPlace watch op := by
  unfold ReferencesInPlace
  split
  · next slice env =>
      intro inFrame ready goes nListIdx written j inside
      have lists := built inFrame ready goes (List.ne_nil_of_mem written)
      obtain ⟨started, reached, rfl⟩ := submitted_state goes
      obtain ⟨refs, header⟩ := slice_references_refs started
      have decided := decided_in_place kept.sizes (kept.sets inFrame)
        (kept.lists inFrame) reached lists
      rw [← header] at decided
      have here := lists_in_place_of_refs refs decided
      obtain ⟨slot, entry, named, owned⟩ := here nListIdx written j inside
      have place := ref_inside (submitted_well kept.well reached) owned
      refine ⟨slot, entry, named, owned, ?_⟩
      rw [← ref_byte_index place]
      apply word_byte_of_entry _ inside entry
      intro other below
      obtain ⟨slot, entry, _⟩ := here nListIdx written other below
      rw [entry]
      rfl
  · trivial

/-- In a run whose submitted slices have their lists built, the words name the pictures
of the entries in their order. -/
theorem references_in_place_in_guarded_runs (secOutputEnabled bDisplayErrorFrameFlag : Bool)
    {ops : List DecoderOp} (meets : StepsMeet ReferencesBuilt watchExec
      (SliceWatch.start secOutputEnabled bDisplayErrorFrameFlag) ops) :
    StepsMeet ReferencesInPlace watchExec
      (SliceWatch.start secOutputEnabled bDisplayErrorFrameFlag) ops := by
  have step : ∀ watch op next, WatchKept watch → ReferencesBuilt watch op →
      watchExec watch op = some next → WatchKept next :=
    fun _ _ _ kept _ ran => watch_step_kept kept ran
  apply steps_meet_of_invariant step _ (start_watch_kept _ _) meets
  exact fun _ _ kept built => references_in_place_of_built kept built

instance (watch : SliceWatch) : ∀ op, Decidable (ReferencesBuilt watch op)
  | .nalu (.slice slice) env =>
    inferInstanceAs (Decidable (watch.run.inFrame = true →
      ∀ ready ∈ submitted watch.run.dec slice env.answers,
        writtenLists ready.SliceHeader.eSliceType ≠ [] →
          listsAfter watch.run.dec watch.setsBuilt watch.listsBuilt slice env.answers = true))
  | .nalu (.sps _) _ | .nalu .pps _ | .nalu .bitDepthChange _ | .nalu .endOfSequence _
  | .nalu (.damaged _) _ | .nalu (.other _) _ => isTrue trivial
  | .outputFrame _ | .requestFrame _ _ | .startFrame | .skipNalu | .finishFrame _
  | .setDropFrame _ | .reset => isTrue trivial

/-- A picture of one P slice with `refs` references, whose set names the given
distances. -/
def interSlice (nPoc : Int) (deltas : List Int) (refs : Nat) : SliceSegment :=
  { keepingSlice 1 0 with
    nPicOrderCntLsb := nPoc
    shortTermRps := some
      { nNumNegativePics := deltas.length
        nNumDeltaPocs := deltas.length
        nDeltaPoc := fun i => deltas.getD i 0
        bUsed := fun _ => true }
    references :=
      { eSliceType := .HEVC_P_SLICE
        nNumOfRefs := fun nListIdx => if nListIdx = .L0 then refs else 0
        bRplModificationFlag := fun _ => false
        ListEntryLx := fun _ _ => 0 } }

def interFrame (nPoc : Nat) (deltas : List Int) (refs : Nat) : List DecoderOp :=
  [.requestFrame 0 (1000 * (nPoc + 1)), .startFrame,
    .nalu (.slice (interSlice nPoc deltas refs)) (bufferReady nPoc), .finishFrame false,
    .outputFrame false]

/-- A key frame and two pictures that refer to those before them. -/
def interPictures : List DecoderOp :=
  parameterSets ++ keepingFrame 0 0 0 ++ interFrame 1 [-1] 1 ++ interFrame 2 [-1, -2] 2

theorem inter_pictures_in_place :
    StepsMeet ReferencesInPlace watchExec (SliceWatch.start false false) interPictures := by
  apply references_in_place_in_guarded_runs
  decide +kernel

/-- The next picture refers to one that is lost. `HevcSliceRps` leaves the lists of the
slice before, and the words name an entry whose picture was given back. -/
theorem lost_reference_leaves_old_list : ∃ watch, runOps watchExec (SliceWatch.start false false)
        (interPictures ++ [.requestFrame 0 4000, .startFrame]) = some watch ∧
      ¬ ReferencesInPlace watch (.nalu (.slice (interSlice 3 [-8] 2)) (bufferReady 3)) := by
  have observed : (runOps watchExec (SliceWatch.start false false)
        (interPictures ++ [.requestFrame 0 4000, .startFrame])).map (fun watch =>
          (watch.run.inFrame,
            (submitted watch.run.dec (interSlice 3 [-8] 2) (bufferReady 3).answers).map
              fun ready =>
                (ready.SliceHeader.eSliceType, ready.SliceHeader.nNumOfRefs .L0,
                  decide ((ready.RefPicList .L0).getD 0 none = some ⟨1, 1, false⟩),
                  (ready.dpb.frame 1).pFbmBuffer.isSome))) =
        some (true, some (.HEVC_P_SLICE, 2, true, false)) := by
    decide +kernel
  obtain ⟨watch, run, data⟩ := Option.map_eq_some_iff.mp observed
  rw [Prod.mk.injEq] at data
  obtain ⟨ready, goes, seen⟩ := Option.map_eq_some_iff.mp data.2
  simp only [Prod.mk.injEq] at seen
  refine ⟨watch, run, ?_⟩
  intro placed
  have written : RefList.L0 ∈ writtenLists ready.SliceHeader.eSliceType := by
    rw [seen.1]
    decide
  obtain ⟨slot, entry, _, owned, _⟩ := placed data.1 ready goes .L0 written 0 (by
    rw [seen.2.1]
    decide)
  rw [of_decide_eq_true seen.2.2.1] at entry
  obtain rfl := Option.some.inj entry
  unfold owns at owned
  rw [seen.2.2.2] at owned
  cases owned

end CedarC.H265LiveRefs
