import CedarC.H265Dpb
import Mathlib.Data.List.GetD
import Mathlib.Data.List.Nodup

/-!
# Flush before reset

`HevcOutputFrame` takes at most one picture out of `DPB` in a call, with `bFlush` as
without. Where `HevcAddCandidateRef` and `HevcSetNewRef` flush before they clear all
entries they call it once.
-/

namespace CedarC.H265FlushClause

open FixedWidth H265Dpb List

section Property

variable (pHevcDec : HevcContex)

def waitingEntries (DPB : List HevcFrame) : List Nat :=
  (List.range DPB.length).filter fun i => (DPB.getD i {}).bFlags.output

/-- Dropped and wrong pictures are taken out and not shown. -/
def HevcContex.shows (pHf : HevcFrame) : Bool :=
  !(pHf.bDropFlag || !pHevcDec.bDisplayErrorFrameFlag && pHf.bErrorFrameFlag)

/-- The call that hands the picture of an entry to the display. -/
def HevcContex.showCall (pHf : HevcFrame) : Option FbmCall :=
  if pHevcDec.secOutputEnabled then
    pHf.pSecFbmBuffer.map fun second => .returnBuffer .SecondFbm second true
  else pHf.pFbmBuffer.map .shareBuffer

/-- The picture of an entry has been taken out, and handed to the display unless it is not
to be shown. -/
structure Sent (before after : HevcContex) (i : Nat) : Prop where
  cleared : (after.frame i).bFlags.output = false
  taken : ∃ nPts, ⟨(before.frame i).nPoc, (before.frame i).nSequence, nPts,
    HevcContex.shows before (before.frame i)⟩ ∈ after.outputs.drop before.outputs.length
  present : FbmCall.nullPicture ∉ after.fbmCalls.drop before.fbmCalls.length
  handed : HevcContex.shows before (before.frame i) = true →
    ∃ call ∈ HevcContex.showCall before (before.frame i),
      call ∈ after.fbmCalls.drop before.fbmCalls.length

/-- Every entry that waits has been sent when `flushAndClear` comes to clear it. -/
def LosesNothing : Prop :=
  ∀ i ∈ waitingEntries pHevcDec.DPB, Sent pHevcDec (HevcOutputFrame pHevcDec true).1 i

def distance (first sequence : Fin 256) : Nat := (sequence - first).val

/-- The flush comes to the entry: there are parameter sets, the sequence of the entry is
not behind the current one, its count is below the start of the search and its pictures
are there. -/
structure InReach (i : Nat) : Prop where
  found : (pHevcDec.bHadFindSpsFlag && pHevcDec.bHadFindPpsFlag) = true
  active : pHevcDec.pSps.isSome = true
  sequence : distance pHevcDec.nSeqOutput (pHevcDec.frame i).nSequence ≤
    distance pHevcDec.nSeqOutput pHevcDec.nSeqDecode
  count : (pHevcDec.frame i).nPoc < HEVC_INT_MAX ∨ i = 0
  first : (pHevcDec.frame i).pFbmBuffer.isSome = true
  second : pHevcDec.secOutputEnabled = true → (pHevcDec.frame i).pSecFbmBuffer.isSome = true

def AtMostOneInReach : Prop :=
  waitingEntries pHevcDec.DPB = [] ∨ ∃ i, waitingEntries pHevcDec.DPB = [i] ∧ InReach pHevcDec i

end Property

section Search

variable {nSeqOutput : Fin 256} {DPB : List HevcFrame}

def searchTurn (nSeqOutput : Fin 256) (search : OutputSearch) (entry : HevcFrame × Nat) :
    OutputSearch :=
  if entry.1.waits nSeqOutput then
    if entry.1.nPoc < search.nMinPoc then ⟨search.nNumOutput + 1, entry.1.nPoc, entry.2⟩
    else { search with nNumOutput := search.nNumOutput + 1 }
  else search

theorem search_of_turns :
    outputSearch DPB nSeqOutput = DPB.zipIdx.foldl (searchTurn nSeqOutput) ⟨0, HEVC_INT_MAX, 0⟩ :=
  rfl

theorem turns_count (frames : List HevcFrame) (offset : Nat) (search : OutputSearch) :
    ((frames.zipIdx offset).foldl (searchTurn nSeqOutput) search).nNumOutput =
      search.nNumOutput + frames.countP (HevcFrame.waits nSeqOutput) := by
  induction frames generalizing offset search with
  | nil => rfl
  | cons pHf rest later =>
    rw [zipIdx_cons, foldl_cons, later, countP_cons]
    unfold searchTurn
    dsimp only
    split_ifs
    · dsimp only
      omega
    · dsimp only
      omega
    · omega

theorem turns_idle {frames : List HevcFrame} (none : ∀ pHf ∈ frames, pHf.waits nSeqOutput = false)
    (offset : Nat) (search : OutputSearch) :
    (frames.zipIdx offset).foldl (searchTurn nSeqOutput) search = search := by
  induction frames generalizing offset with
  | nil => rfl
  | cons pHf rest later =>
    have here := none pHf mem_cons_self
    rw [zipIdx_cons, foldl_cons]
    have idle : searchTurn nSeqOutput search (pHf, offset) = search := by
      unfold searchTurn
      dsimp only
      rw [here, if_neg Bool.false_ne_true]
    rw [idle]
    exact later (fun other member => none other (mem_cons_of_mem _ member)) _

theorem search_finds_some (found : (outputSearch DPB nSeqOutput).nNumOutput ≠ 0) :
    ∃ pHf ∈ DPB, pHf.waits nSeqOutput = true := by
  rw [search_of_turns, turns_count, Nat.zero_add] at found
  exact countP_pos_iff.mp (Nat.pos_of_ne_zero found)

theorem search_finds {pHf : HevcFrame} (member : pHf ∈ DPB)
    (waits : pHf.waits nSeqOutput = true) : (outputSearch DPB nSeqOutput).nNumOutput ≠ 0 := by
  rw [search_of_turns, turns_count, Nat.zero_add]
  exact Nat.ne_of_gt (countP_pos_iff.mpr ⟨pHf, member, waits⟩)

/-- With one entry that waits, the search ends there unless its count is too large. -/
theorem search_single {i : Nat} (inside : i < DPB.length)
    (waits : (DPB.getD i {}).waits nSeqOutput = true)
    (only : ∀ j, j < DPB.length → j ≠ i → (DPB.getD j {}).waits nSeqOutput = false) :
    (outputSearch DPB nSeqOutput).nMinIdx =
      if (DPB.getD i {}).nPoc < HEVC_INT_MAX then i else 0 := by
  have entry : DPB.getD i {} = DPB[i] := getD_eq_getElem _ _ inside
  have split : DPB = DPB.take i ++ DPB[i] :: DPB.drop (i + 1) := by
    rw [← drop_eq_getElem_cons inside, take_append_drop]
  have idle : ∀ pHf, (∃ j, j ≠ i ∧ DPB[j]? = some pHf) → pHf.waits nSeqOutput = false := by
    rintro pHf ⟨j, other, held⟩
    rcases List.getElem?_eq_some_iff.mp held with ⟨bound, rfl⟩
    have here := only j bound other
    rwa [getD_eq_getElem _ _ bound] at here
  have before : ∀ pHf ∈ DPB.take i, pHf.waits nSeqOutput = false := by
    intro pHf member
    rcases mem_iff_getElem?.mp member with ⟨j, held⟩
    have bound := (List.getElem?_eq_some_iff.mp held).1
    rw [length_take] at bound
    rw [List.getElem?_take_of_lt (by omega)] at held
    exact idle pHf ⟨j, by omega, held⟩
  have behind : ∀ pHf ∈ DPB.drop (i + 1), pHf.waits nSeqOutput = false := by
    intro pHf member
    rcases mem_iff_getElem?.mp member with ⟨j, held⟩
    rw [List.getElem?_drop] at held
    exact idle pHf ⟨i + 1 + j, by omega, held⟩
  have size : (DPB.take i).length = i := by
    rw [length_take]
    omega
  rw [entry] at waits ⊢
  rw [search_of_turns]
  generalize DPB[i] = pHf at split waits ⊢
  rw [split, zipIdx_append, foldl_append, turns_idle before, zipIdx_cons,
    foldl_cons, turns_idle behind, size]
  unfold searchTurn
  dsimp only
  rw [if_pos waits]
  split_ifs
  · exact Nat.zero_add i
  · rfl

end Search

section Flush

variable {pHevcDec : HevcContex}

theorem flush_needs_output (nSpsMaxNumReoderPics : Nat) (search : OutputSearch) :
    needsOutput pHevcDec nSpsMaxNumReoderPics true search = true := by
  unfold needsOutput
  simp

theorem distance_self (first : Fin 256) : distance first first = 0 := by
  unfold distance
  rw [Fin.sub_self]
  rfl

variable {first sequence : Fin 256} {pHf : HevcFrame}

theorem distance_zero (none : distance first sequence = 0) : sequence = first := by
  unfold distance at none
  rw [Fin.sub_def] at none
  dsimp only at none
  apply Fin.ext
  omega

theorem distance_next (other : sequence ≠ first) :
    distance (first + 1) sequence + 1 = distance first sequence := by
  have apart : sequence.val ≠ first.val := fun same => other (Fin.ext same)
  unfold distance
  rw [Fin.sub_def, Fin.sub_def, Fin.add_def]
  dsimp only
  have one : ((1 : Fin 256) : Nat) = 1 := rfl
  rw [one]
  omega

/-- What a flush does: nothing waits in the sequences that it passes, or it takes one
picture out of the first one where some wait. -/
theorem flush_loop_cases (nSpsMaxNumReoderPics turns : Nat) :
    ((outputLoop nSpsMaxNumReoderPics true turns pHevcDec).1.DPB = pHevcDec.DPB ∧
      ∀ sequence, distance pHevcDec.nSeqOutput sequence ≤ turns →
        (outputSearch pHevcDec.DPB sequence).nNumOutput = 0) ∨
    ∃ sequence nLastDispPoc, distance pHevcDec.nSeqOutput sequence ≤ turns ∧
      (outputSearch pHevcDec.DPB sequence).nNumOutput ≠ 0 ∧
      outputLoop nSpsMaxNumReoderPics true turns pHevcDec =
        outputPicture { pHevcDec with nLastDispPoc := nLastDispPoc, nSeqOutput := sequence }
          (outputSearch pHevcDec.DPB sequence).nMinIdx := by
  have here := distance_self pHevcDec.nSeqOutput
  induction turns generalizing pHevcDec with
  | zero =>
    unfold outputLoop
    dsimp only
    rw [flush_needs_output]
    by_cases found : (outputSearch pHevcDec.DPB pHevcDec.nSeqOutput).nNumOutput ≠ 0
    · rw [if_neg (by decide), if_pos found]
      exact .inr ⟨_, _, Nat.le_of_eq here, found, rfl⟩
    · rw [if_neg (by decide), if_neg found]
      apply Or.inl
      apply And.intro rfl
      intro sequence near
      rw [distance_zero (Nat.le_zero.mp near)]
      exact not_not.mp found
  | succ turns further =>
    unfold outputLoop
    dsimp only
    rw [flush_needs_output]
    by_cases found : (outputSearch pHevcDec.DPB pHevcDec.nSeqOutput).nNumOutput ≠ 0
    · rw [if_neg (by decide), if_pos found]
      exact .inr ⟨_, _, by omega, found, rfl⟩
    · rw [if_neg (by decide), if_neg found]
      rcases @further { pHevcDec with
          nLastDispPoc := (outputSearch pHevcDec.DPB pHevcDec.nSeqOutput).nMinPoc
          nSeqOutput := pHevcDec.nSeqOutput + 1 } (distance_self _) with
        ⟨same, idle⟩ | ⟨sequence, nLastDispPoc, near, waits, taken⟩
      · apply Or.inl
        apply And.intro same
        intro sequence near
        by_cases first : sequence = pHevcDec.nSeqOutput
        · rw [first]
          exact not_not.mp found
        · have next := distance_next first
          exact idle sequence (by dsimp only; omega)
      · apply Or.inr
        refine ⟨sequence, nLastDispPoc, ?_, waits, taken⟩
        by_cases first : sequence = pHevcDec.nSeqOutput
        · rw [first, here]
          exact Nat.zero_le _
        · have next := distance_next first
          dsimp only at near
          omega

/-- The picture that is taken out leaves the other entries as they were. -/
theorem output_others (nMinIdx : Nat) {i : Nat} (other : i ≠ nMinIdx) :
    (outputPicture pHevcDec nMinIdx).1.frame i = pHevcDec.frame i := by
  unfold outputPicture HevcContex.frame HevcContex.setFrame
  dsimp only
  rw [getD_eq_getElem?_getD, List.getElem?_set_ne (Ne.symm other), ← getD_eq_getElem?_getD]

theorem output_cleared {nMinIdx : Nat} (inside : nMinIdx < pHevcDec.DPB.length) :
    ((outputPicture pHevcDec nMinIdx).1.frame nMinIdx).bFlags.output = false := by
  unfold outputPicture HevcContex.frame HevcContex.setFrame
  dsimp only
  rw [getD_eq_getElem?_getD, List.getElem?_set_self inside]
  unfold FrameFlags.without FrameFlags.HEVC_FRAME_FLAG_OUTPUT
  simp

theorem output_taken (nMinIdx : Nat) :
    ∃ nPts, ⟨(pHevcDec.frame nMinIdx).nPoc, (pHevcDec.frame nMinIdx).nSequence, nPts,
        HevcContex.shows pHevcDec (pHevcDec.frame nMinIdx)⟩ ∈
      (outputPicture pHevcDec nMinIdx).1.outputs.drop pHevcDec.outputs.length := by
  unfold outputPicture HevcContex.setFrame
  dsimp only
  rw [drop_left]
  exact ⟨_, mem_singleton.mpr rfl⟩

def pictureCalls (pHevcDec : HevcContex) (pHf : HevcFrame) : List FbmCall :=
  match pHevcDec.secOutputEnabled, pHf.pFbmBuffer, pHf.pSecFbmBuffer with
  | _, none, _ => [.nullPicture]
  | true, some _, none => [.nullPicture]
  | true, some _, some second =>
    [.returnBuffer .SecondFbm second (HevcContex.shows pHevcDec pHf)]
  | false, some buffer, _ =>
    if HevcContex.shows pHevcDec pHf then [.shareBuffer buffer] else []

theorem output_calls (nMinIdx : Nat) :
    (outputPicture pHevcDec nMinIdx).1.fbmCalls.drop pHevcDec.fbmCalls.length =
      pictureCalls pHevcDec (pHevcDec.frame nMinIdx) := by
  unfold outputPicture HevcContex.setFrame
  dsimp only
  rw [drop_left]
  rfl

theorem calls_present :
    FbmCall.nullPicture ∉ pictureCalls pHevcDec pHf ↔ pHf.pFbmBuffer.isSome = true ∧
      (pHevcDec.secOutputEnabled = true → pHf.pSecFbmBuffer.isSome = true) := by
  unfold pictureCalls
  cases pHevcDec.secOutputEnabled <;> cases pHf.pFbmBuffer <;> cases pHf.pSecFbmBuffer <;>
    cases HevcContex.shows pHevcDec pHf <;> simp

theorem calls_handed (first : pHf.pFbmBuffer.isSome = true)
    (second : pHevcDec.secOutputEnabled = true → pHf.pSecFbmBuffer.isSome = true)
    (shown : HevcContex.shows pHevcDec pHf = true) :
    ∃ call ∈ HevcContex.showCall pHevcDec pHf, call ∈ pictureCalls pHevcDec pHf := by
  unfold pictureCalls HevcContex.showCall
  rw [shown]
  cases enabled : pHevcDec.secOutputEnabled with
  | false =>
    cases held : pHf.pFbmBuffer with
    | none =>
      rw [held] at first
      cases first
    | some buffer => simp
  | true =>
    cases held : pHf.pFbmBuffer with
    | none =>
      rw [held] at first
      cases first
    | some buffer =>
      cases also : pHf.pSecFbmBuffer with
      | none =>
        have there := second enabled
        rw [also] at there
        cases there
      | some other => simp

end Flush

variable {pHevcDec : HevcContex}
  {i : Nat} {DPB : List HevcFrame} {sequence : Fin 256} {pHf : HevcFrame}

theorem mem_waiting :
    i ∈ waitingEntries DPB ↔ i < DPB.length ∧ (DPB.getD i {}).bFlags.output = true := by
  unfold waitingEntries
  rw [mem_filter, mem_range]

theorem waits_iff :
    pHf.waits sequence = true ↔ pHf.bFlags.output = true ∧ pHf.nSequence = sequence := by
  unfold HevcFrame.waits
  rw [Bool.and_eq_true, decide_eq_true_iff]

theorem waiting_place (member : pHf ∈ DPB) (waits : pHf.waits sequence = true) :
    ∃ i ∈ waitingEntries DPB, (DPB.getD i {}).nSequence = sequence := by
  rcases mem_iff_getElem.mp member with ⟨i, inside, rfl⟩
  have entry : DPB.getD i {} = DPB[i] := getD_eq_getElem _ _ inside
  have both := waits_iff.mp waits
  exact ⟨i, mem_waiting.mpr ⟨inside, by rw [entry]; exact both.1⟩, by rw [entry]; exact both.2⟩

theorem search_of_waiting (waiting : waitingEntries pHevcDec.DPB = [i]) :
    (outputSearch pHevcDec.DPB (pHevcDec.frame i).nSequence).nMinIdx =
      if (pHevcDec.frame i).nPoc < HEVC_INT_MAX then i else 0 := by
  have here := mem_waiting.mp (waiting ▸ mem_singleton_self i)
  apply search_single here.1 (waits_iff.mpr ⟨here.2, rfl⟩)
  intro j inside other
  apply Bool.eq_false_iff.mpr
  intro waits
  have place : j ∈ waitingEntries pHevcDec.DPB := mem_waiting.mpr ⟨inside, (waits_iff.mp waits).1⟩
  rw [waiting] at place
  exact other (mem_singleton.mp place)

theorem flush_cases : ((HevcOutputFrame pHevcDec true).1.DPB = pHevcDec.DPB ∧
      ((pHevcDec.bHadFindSpsFlag && pHevcDec.bHadFindPpsFlag) = true →
        pHevcDec.pSps.isSome = true → ∀ sequence,
          distance pHevcDec.nSeqOutput sequence ≤ distance pHevcDec.nSeqOutput pHevcDec.nSeqDecode →
          (outputSearch pHevcDec.DPB sequence).nNumOutput = 0)) ∨
    ((pHevcDec.bHadFindSpsFlag && pHevcDec.bHadFindPpsFlag) = true ∧ pHevcDec.pSps.isSome = true ∧
      ∃ sequence nLastDispPoc,
        distance pHevcDec.nSeqOutput sequence ≤ distance pHevcDec.nSeqOutput pHevcDec.nSeqDecode ∧
        (outputSearch pHevcDec.DPB sequence).nNumOutput ≠ 0 ∧
        HevcOutputFrame pHevcDec true =
          outputPicture { pHevcDec with nLastDispPoc := nLastDispPoc, nSeqOutput := sequence }
            (outputSearch pHevcDec.DPB sequence).nMinIdx) := by
  cases found : (pHevcDec.bHadFindSpsFlag && pHevcDec.bHadFindPpsFlag) with
  | false =>
    have idle : HevcOutputFrame pHevcDec true = (pHevcDec, .HEVC_RESULT_OK) := by
      unfold HevcOutputFrame
      rw [found]
    rw [idle]
    exact .inl ⟨rfl, fun absent => absurd absent (by decide)⟩
  | true =>
    cases active : pHevcDec.pSps.isSome with
    | false =>
      have idle : HevcOutputFrame pHevcDec true = (pHevcDec, .HEVC_RESULT_OK) := by
        unfold HevcOutputFrame
        have absent : pHevcDec.pSps = none :=
          Option.not_isSome_iff_eq_none.mp (Bool.eq_false_iff.mp active)
        rw [found, absent]
      rw [idle]
      exact .inl ⟨rfl, fun _ absent => absurd absent (by decide)⟩
    | true =>
      rcases Option.isSome_iff_exists.mp active with ⟨pSps, held⟩
      have loop : HevcOutputFrame pHevcDec true = outputLoop pSps.nSpsMaxNumReoderPics true
            (distance pHevcDec.nSeqOutput pHevcDec.nSeqDecode) pHevcDec := by
        unfold HevcOutputFrame
        rw [found, held]
        rfl
      rw [loop]
      rcases flush_loop_cases pSps.nSpsMaxNumReoderPics
        (distance pHevcDec.nSeqOutput pHevcDec.nSeqDecode) with idle | taken
      · exact .inl ⟨idle.1, fun _ _ => idle.2⟩
      · exact .inr ⟨rfl, rfl, taken⟩

theorem reached_sent (waiting : waitingEntries pHevcDec.DPB = [i])
    (reach : InReach pHevcDec i) : Sent pHevcDec (HevcOutputFrame pHevcDec true).1 i := by
  have here := mem_waiting.mp (waiting ▸ mem_singleton_self i)
  have entry : pHevcDec.DPB.getD i {} ∈ pHevcDec.DPB := by
    rw [getD_eq_getElem _ _ here.1]
    exact getElem_mem here.1
  rcases @flush_cases pHevcDec with ⟨_, idle⟩ |
    ⟨_, _, sequence, nLastDispPoc, _, finds, taken⟩
  · have some := search_finds entry (waits_iff.mpr ⟨here.2, rfl⟩)
    exact absurd (idle reach.found reach.active _ reach.sequence) some
  · rcases search_finds_some finds with ⟨pHf, member, waits⟩
    rcases waiting_place member waits with ⟨j, place, same⟩
    rw [waiting] at place
    rw [mem_singleton.mp place] at same
    have index : (outputSearch pHevcDec.DPB sequence).nMinIdx = i := by
      rw [← same]
      apply Eq.trans (search_of_waiting waiting)
      rcases reach.count with below | first
      · exact if_pos below
      · rw [first]
        exact ite_self 0
    rw [taken, index]
    constructor
    · exact output_cleared here.1
    · exact output_taken i
    · have calls := @output_calls
        { pHevcDec with nLastDispPoc := nLastDispPoc, nSeqOutput := sequence } i
      dsimp only at calls
      rw [calls]
      exact calls_present.mpr ⟨reach.first, reach.second⟩
    · intro shown
      have calls := @output_calls
        { pHevcDec with nLastDispPoc := nLastDispPoc, nSeqOutput := sequence } i
      dsimp only at calls
      rw [calls]
      exact calls_handed reach.first reach.second shown

theorem sent_reached (complete : LosesNothing pHevcDec) : AtMostOneInReach pHevcDec := by
  unfold AtMostOneInReach
  by_cases none : waitingEntries pHevcDec.DPB = []
  · exact .inl none
  apply Or.inr
  rcases exists_mem_of_ne_nil _ none with ⟨i, member⟩
  have here := mem_waiting.mp member
  have sent := complete i member
  rcases @flush_cases pHevcDec with ⟨same, _⟩ |
    ⟨found, active, sequence, nLastDispPoc, near, finds, taken⟩
  · have cleared := sent.cleared
    unfold HevcContex.frame at cleared
    rw [same, here.2] at cleared
    cases cleared
  · -- every other entry would still wait
    have one : ∀ j ∈ waitingEntries pHevcDec.DPB,
        j = (outputSearch pHevcDec.DPB sequence).nMinIdx := by
      intro j place
      by_contra other
      have cleared := (complete j place).cleared
      rw [taken, output_others _ other] at cleared
      have waits := (mem_waiting.mp place).2
      unfold HevcContex.frame at cleared
      dsimp only at cleared
      rw [waits] at cleared
      cases cleared
    have index := one i member
    have waiting : waitingEntries pHevcDec.DPB = [i] := by
      have nodup : (waitingEntries pHevcDec.DPB).Nodup := List.Nodup.filter _ nodup_range
      apply perm_singleton.mp
      apply (perm_ext_iff_of_nodup nodup (nodup_singleton i)).mpr
      intro j
      rw [mem_singleton]
      constructor
      · intro place
        rw [one j place, index]
      · rintro rfl
        exact member
    rcases search_finds_some finds with ⟨pHf, held, waits⟩
    rcases waiting_place held waits with ⟨j, place, same⟩
    rw [waiting] at place
    rw [mem_singleton.mp place] at same
    have calls := @output_calls
      { pHevcDec with nLastDispPoc := nLastDispPoc, nSeqOutput := sequence } i
    dsimp only at calls
    have present := sent.present
    rw [taken, ← index, calls] at present
    have buffers := calls_present.mp present
    apply Exists.intro i
    apply And.intro waiting
    exact {
      found := found
      active := active
      sequence := by
        unfold HevcContex.frame
        rw [same]
        exact near
      count := by
        have chosen := search_of_waiting waiting
        have place : (pHevcDec.frame i).nSequence = sequence := same
        rw [place, ← index] at chosen
        by_cases below : (pHevcDec.frame i).nPoc < HEVC_INT_MAX
        · exact .inl below
        · rw [if_neg below] at chosen
          exact .inr chosen
      first := buffers.1
      second := buffers.2 }

/-- A flush is one call of `HevcOutputFrame`, which takes out one picture: nothing is lost
when at most one entry waits and the call comes to it. -/
theorem flush_loses_nothing_iff : LosesNothing pHevcDec ↔ AtMostOneInReach pHevcDec := by
  apply Iff.intro sent_reached
  rintro (none | ⟨i, waiting, reach⟩) j member
  · rw [none] at member
    cases member
  · rw [waiting] at member
    rw [mem_singleton.mp member]
    exact reached_sent waiting reach

def twoWaiting : HevcContex where
  secOutputEnabled := false
  bDisplayErrorFrameFlag := true
  bHadFindSpsFlag := true
  bHadFindPpsFlag := true
  pSps := some ⟨64, 64, 8, 4, 2, 0⟩
  bFbmInitFlag := true
  pCurrFrame := none
  pCurrSecFrame := none
  DPB := [{ pFbmBuffer := some 0, nPoc := 1, bFlags := { output := true } },
    { pFbmBuffer := some 1, nPoc := 2, bFlags := { output := true } }]
  pCurrDPB := none
  nSeqDecode := 0
  nSeqOutput := 0
  Rps := fun _ => []
  eNaluType := .HEVC_NAL_TRAIL_R
  nPoc := 3
  pShortTermRps := none
  LongTermRps := []
  bPicOutputFlag := true
  bDropFrameAdaptiveEnable := false
  nSqueueFramePocList := []
  nLastDispPoc := 0
  bIsFirstPicture := false
  nCurrentFramePts := 0
  PtsList := []
  fbmCalls := []
  outputs := []

/-- The second picture goes back to its manager and is not shown. -/
theorem second_waiting_lost : HevcFindRefIdx twoWaiting 0 = none ∧ ¬ LosesNothing twoWaiting ∧
      FbmCall.shareBuffer 1 ∉
        (HevcAddCandidateRef twoWaiting
          ⟨.HEVC_ST_CURR_BEF, 0, FrameFlags.HEVC_FRAME_FLAG_SHORT_REF⟩).1.fbmCalls := by
  apply And.intro (by decide)
  apply And.intro _ (by decide)
  intro complete
  exact absurd (complete 1 (by decide)).cleared (by decide)

end CedarC.H265FlushClause
