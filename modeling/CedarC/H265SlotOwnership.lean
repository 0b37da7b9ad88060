import CedarC.H265DecoderRuns
import Mathlib.Data.List.GetD
import Mathlib.Data.List.Induction
import Mathlib.Data.List.Nodup

/-!
# Who holds the buffers of the H265 decoder

A buffer that `FbmRequestBuffer` handed out is in the entry of `DPB` or in the current
picture that holds it until the one `FbmReturnBuffer` for it. Each operation of the
decoder exchanges places for calls; only an entry that `HevcSetNewRef` overwrites
would lose its picture.
-/

namespace CedarC.H265SlotOwnership

open GuardedRuns H265Dpb H265RefLists H265DecodeFrame H265DecoderRuns List Option

variable {free : Prop}

def requested (calls : List FbmCall) (handle : FbmHandle) (buffer : Nat) : Nat :=
  calls.count (.requestBuffer handle buffer)

def FbmCall.returns (handle : FbmHandle) (buffer : Nat) : FbmCall → Bool
  | .returnBuffer other returned _ => decide (other = handle) && decide (returned = buffer)
  | _ => false

def returned (calls : List FbmCall) (handle : FbmHandle) (buffer : Nat) : Nat :=
  calls.countP (FbmCall.returns handle buffer)

/-- The picture of an entry that comes from the given manager. -/
def HevcFrame.picture (handle : FbmHandle) (pHf : HevcFrame) : Option Nat :=
  match handle with
  | .fbm => pHf.pFbmBuffer
  | .SecondFbm => pHf.pSecFbmBuffer

def HevcContex.current (handle : FbmHandle) (pHevcDec : HevcContex) : Option Nat :=
  match handle with
  | .fbm => pHevcDec.pCurrFrame
  | .SecondFbm => pHevcDec.pCurrSecFrame

/-- The pictures of one manager in the decoder, place by place. -/
def pictures (pHevcDec : HevcContex) (handle : FbmHandle) : List Nat :=
  pHevcDec.DPB.filterMap (HevcFrame.picture handle) ++ (HevcContex.current handle pHevcDec).toList

/-- Every request is answered by one return, or its buffer is in one place. -/
def Balanced (pHevcDec : HevcContex) : Prop :=
  ∀ handle buffer, requested pHevcDec.fbmCalls handle buffer =
      returned pHevcDec.fbmCalls handle buffer + (pictures pHevcDec handle).count buffer

def HandedOutOnce (calls : List FbmCall) : Prop :=
  ∀ before handle buffer after, calls = before ++ .requestBuffer handle buffer :: after →
    requested before handle buffer ≤ returned before handle buffer

section Calls

variable {handle : FbmHandle} {buffer : Nat}

@[simp] theorem requested_append (first second : List FbmCall) :
    requested (first ++ second) handle buffer =
      requested first handle buffer + requested second handle buffer :=
  count_append

@[simp] theorem returned_append (first second : List FbmCall) :
    returned (first ++ second) handle buffer =
      returned first handle buffer + returned second handle buffer :=
  countP_append

theorem handed_out_once_before {calls : List FbmCall} {call : FbmCall}
    (once : HandedOutOnce (calls ++ [call])) : HandedOutOnce calls := by
  intro before handle buffer after split
  apply once before handle buffer (after ++ [call])
  rw [split, append_assoc]
  rfl

theorem requested_le_of_once {calls : List FbmCall} (once : HandedOutOnce calls)
    (handle : FbmHandle) (buffer : Nat) :
    requested calls handle buffer ≤ returned calls handle buffer + 1 := by
  induction calls using List.reverseRecOn with
  | nil => exact Nat.zero_le _
  | append_singleton calls call ih =>
    have earlier := ih (handed_out_once_before once)
    rw [requested_append, returned_append]
    by_cases request : call = .requestBuffer handle buffer
    · subst request
      have back := once calls handle buffer [] rfl
      have one : requested [.requestBuffer handle buffer] handle buffer = 1 := by
        unfold requested
        exact count_singleton_self
      omega
    · have none : requested [call] handle buffer = 0 := by
        unfold requested
        exact count_eq_zero_of_not_mem fun held =>
          request (mem_singleton.mp held).symm
      omega

end Calls

theorem held_in_one_place {pHevcDec : HevcContex} (balanced : Balanced pHevcDec)
    (once : HandedOutOnce pHevcDec.fbmCalls) (handle : FbmHandle) :
    (pictures pHevcDec handle).Nodup := by
  rw [nodup_iff_count_le_one]
  intro buffer
  have books := balanced handle buffer
  have out := requested_le_of_once once handle buffer
  omega

section Exchanges

/-- The entries of `DPB`; one without a first picture has no second one. -/
structure SlotsWell (pHevcDec : HevcContex) : Prop where
  size : pHevcDec.DPB.length = HEVC_MAX_DPB_SIZE
  paired : pHevcDec.secOutputEnabled = true → ∀ pHf ∈ pHevcDec.DPB,
    pHf.pFbmBuffer = none → pHf.pSecFbmBuffer = none

def Exchanges (before after : HevcContex) : Prop :=
  ∀ handle buffer, requested after.fbmCalls handle buffer + returned before.fbmCalls handle buffer +
        (pictures before handle).count buffer =
      requested before.fbmCalls handle buffer + returned after.fbmCalls handle buffer +
        (pictures after handle).count buffer

/-- The entries stay well formed, and where `free` holds places are exchanged for calls. -/
structure Keeps (free : Prop) (before after : HevcContex) : Prop where
  second : after.secOutputEnabled = before.secOutputEnabled
  well : SlotsWell before → SlotsWell after
  exchanges : free → SlotsWell before → Exchanges before after

variable {before middle after : HevcContex}

theorem Keeps.refl (pHevcDec : HevcContex) : Keeps free pHevcDec pHevcDec := by
  constructor
  · rfl
  · exact id
  · intro _ well handle buffer
    omega

theorem Keeps.trans (first : Keeps free before middle) (later : Keeps free middle after) :
    Keeps free before after := by
  constructor
  · exact later.second.trans first.second
  · exact fun well => later.well (first.well well)
  · intro holds well handle buffer
    have here := first.exchanges holds well handle buffer
    have there := later.exchanges holds (first.well well) handle buffer
    omega

theorem Keeps.balanced (kept : Keeps free before after) (holds : free) (well : SlotsWell before)
    (balanced : Balanced before) : Balanced after := by
  intro handle buffer
  have books := balanced handle buffer
  have exchanged := kept.exchanges holds well handle buffer
  omega

/-- What an operation must leave alone to leave all places alone. -/
structure SameSlots (before after : HevcContex) : Prop where
  second : after.secOutputEnabled = before.secOutputEnabled
  entries : after.DPB = before.DPB
  first : after.pCurrFrame = before.pCurrFrame
  other : after.pCurrSecFrame = before.pCurrSecFrame
  calls : after.fbmCalls = before.fbmCalls

theorem SameSlots.keeps (same : SameSlots before after) : Keeps free before after := by
  have current : ∀ handle,
      HevcContex.current handle after = HevcContex.current handle before := by
    intro handle
    cases handle with
    | fbm => exact same.first
    | SecondFbm => exact same.other
  constructor
  · exact same.second
  · intro well
    constructor
    · rw [same.entries]
      exact well.size
    · rw [same.entries, same.second]
      exact well.paired
  · intro _ well handle buffer
    have places : pictures after handle = pictures before handle := by
      unfold pictures
      rw [same.entries, current handle]
    rw [places, same.calls]

theorem Keeps.behind (kept : Keeps free middle after) (same : SameSlots before middle) :
    Keeps free before after :=
  same.keeps.trans kept

end Exchanges

section Entries

variable {handle : FbmHandle} {buffer : Nat}

def held (handle : FbmHandle) (buffer : Nat) (pHf : HevcFrame) : Nat :=
  (HevcFrame.picture handle pHf).toList.count buffer

theorem count_pictures (pHevcDec : HevcContex) : (pictures pHevcDec handle).count buffer =
      (pHevcDec.DPB.map (held handle buffer)).sum +
        (HevcContex.current handle pHevcDec).toList.count buffer := by
  unfold pictures
  rw [count_append]
  apply congrArg (fun places => places + _)
  induction pHevcDec.DPB with
  | nil => rfl
  | cons pHf rest ih =>
    rw [map_cons, sum_cons, ← ih]
    unfold held
    cases picture : HevcFrame.picture handle pHf with
    | none =>
      rw [filterMap_cons_none picture]
      simp
    | some place =>
      rw [filterMap_cons_some picture, toList_some, count_cons, count_cons, count_nil]
      omega

theorem sum_held_set (DPB : List HevcFrame) (index : Nat) (pHf : HevcFrame)
    (outside : DPB.length ≤ index → held handle buffer pHf = 0) :
    ((DPB.set index pHf).map (held handle buffer)).sum + held handle buffer (DPB.getD index {}) =
      (DPB.map (held handle buffer)).sum + held handle buffer pHf := by
  induction DPB generalizing index with
  | nil =>
    have empty : held handle buffer {} = 0 := by cases handle <;> rfl
    have none := outside (Nat.zero_le _)
    simp [empty, none]
  | cons first rest ih =>
    cases index with
    | zero =>
      simp only [set_cons_zero, map_cons, sum_cons, getD_cons_zero]
      omega
    | succ index =>
      simp only [set_cons_succ, map_cons, sum_cons, getD_cons_succ]
      have later := ih index fun beyond => outside (by
        rw [length_cons]
        omega)
      omega

theorem get_mem_or_default (DPB : List HevcFrame) (index : Nat) :
    DPB.getD index {} ∈ DPB ∨ DPB.getD index {} = {} := by
  by_cases inside : index < DPB.length
  · left
    rw [getD_eq_getElem _ _ inside]
    exact getElem_mem inside
  · right
    exact getD_eq_default _ _ (Nat.not_lt.mp inside)

end Entries

section Single

variable {pHevcDec : HevcContex}

structure EntryKeeps (second : Bool) (pHf changed : HevcFrame) (calls : List FbmCall) : Prop where
  paired : second = true → (pHf.pFbmBuffer = none → pHf.pSecFbmBuffer = none) →
    changed.pFbmBuffer = none → changed.pSecFbmBuffer = none
  none_requested : ∀ handle buffer, requested calls handle buffer = 0
  given_back : (second = true → pHf.pFbmBuffer = none → pHf.pSecFbmBuffer = none) → ∀ handle buffer,
      held handle buffer pHf = held handle buffer changed + returned calls handle buffer

variable {changed : HevcFrame} {index : Nat}

theorem entry_keeps_same {second : Bool} {pHf : HevcFrame}
    (first : changed.pFbmBuffer = pHf.pFbmBuffer)
    (other : changed.pSecFbmBuffer = pHf.pSecFbmBuffer) :
    EntryKeeps second pHf changed [] := by
  constructor
  · intro _ paired free
    rw [other]
    exact paired (first ▸ free)
  · intro handle buffer
    rfl
  · intro _ handle buffer
    unfold held
    cases handle with
    | fbm =>
      change pHf.pFbmBuffer.toList.count buffer = changed.pFbmBuffer.toList.count buffer + 0
      rw [first, Nat.add_zero]
    | SecondFbm =>
      change pHf.pSecFbmBuffer.toList.count buffer = changed.pSecFbmBuffer.toList.count buffer + 0
      rw [other, Nat.add_zero]

theorem unref_frame_keeps (second : Bool) (bFlags : FrameFlags) (pHf : HevcFrame) :
    EntryKeeps second pHf (HevcUnrefFrame second bFlags pHf).1
      (HevcUnrefFrame second bFlags pHf).2 := by
  unfold HevcUnrefFrame
  cases first : pHf.pFbmBuffer with
  | none => exact entry_keeps_same rfl rfl
  | some buffer =>
    dsimp only
    split_ifs with used enabled
    · exact entry_keeps_same first.symm rfl
    · constructor
      · intro _ _ _
        rfl
      · intro handle other
        cases pHf.pSecFbmBuffer <;> rfl
      · intro _ handle other
        unfold held
        cases handle with
        | fbm =>
          cases pHf.pSecFbmBuffer <;>
            simp [HevcFrame.picture, first, returned, FbmCall.returns, countP_cons, count_cons]
        | SecondFbm =>
          cases place : pHf.pSecFbmBuffer <;>
            simp [HevcFrame.picture, place, returned, FbmCall.returns, countP_cons, count_cons]
    · constructor
      · intro must
        exact absurd must enabled
      · intro handle other
        rfl
      · intro _ handle other
        unfold held
        cases handle <;>
          simp [HevcFrame.picture, first, returned, FbmCall.returns, countP_cons, count_cons]

theorem keeps_set_frame {calls : List FbmCall}
    (kept : EntryKeeps pHevcDec.secOutputEnabled (pHevcDec.frame index) changed calls) :
    Keeps free pHevcDec ((pHevcDec.setFrame index changed).call calls) := by
  constructor
  · rfl
  · intro well
    constructor
    · change (pHevcDec.DPB.set index changed).length = _
      rw [length_set]
      exact well.size
    · intro enabled pHf inside free
      rcases mem_or_eq_of_mem_set inside with old | new
      · exact well.paired enabled pHf old free
      · rw [new] at free ⊢
        apply kept.paired enabled _ free
        intro empty
        rcases get_mem_or_default pHevcDec.DPB index with listed | default
        · exact well.paired enabled _ listed empty
        · change (pHevcDec.DPB.getD index {}).pSecFbmBuffer = none
          rw [default]
  · intro _ well handle buffer
    have whole : pHevcDec.secOutputEnabled = true →
        (pHevcDec.frame index).pFbmBuffer = none → (pHevcDec.frame index).pSecFbmBuffer = none := by
      intro enabled empty
      rcases get_mem_or_default pHevcDec.DPB index with listed | default
      · exact well.paired enabled _ listed empty
      · change (pHevcDec.DPB.getD index {}).pSecFbmBuffer = none
        rw [default]
    have local_books := kept.given_back whole handle buffer
    have none_asked := kept.none_requested handle buffer
    have moved := @sum_held_set handle buffer pHevcDec.DPB index changed (by
      intro beyond
      have default : pHevcDec.frame index = {} := getD_eq_default _ _ beyond
      have empty : held handle buffer {} = 0 := by cases handle <;> rfl
      rw [default, empty] at local_books
      omega)
    have current : HevcContex.current handle ((pHevcDec.setFrame index changed).call calls) =
        HevcContex.current handle pHevcDec := by
      cases handle <;> rfl
    rw [count_pictures, count_pictures, current]
    change requested (pHevcDec.fbmCalls ++ calls) handle buffer + _ + _ =
      _ + returned (pHevcDec.fbmCalls ++ calls) handle buffer +
        (((pHevcDec.DPB.set index changed).map (held handle buffer)).sum + _)
    rw [requested_append, returned_append]
    change held handle buffer (pHevcDec.DPB.getD index {}) = _ at local_books
    omega

theorem keeps_mark_frame (first : changed.pFbmBuffer = (pHevcDec.frame index).pFbmBuffer)
    (other : changed.pSecFbmBuffer = (pHevcDec.frame index).pSecFbmBuffer) :
    Keeps free pHevcDec (pHevcDec.setFrame index changed) :=
  (keeps_set_frame (entry_keeps_same first other)).trans
    (SameSlots.keeps ⟨rfl, rfl, rfl, rfl, (append_nil _).symm⟩)

theorem unref_frames_keeps (bFlags : FrameFlags) :
    Keeps free pHevcDec (unrefFrames pHevcDec bFlags) := by
  have all : ∀ (handle : FbmHandle) (buffer : Nat) (DPB : List HevcFrame),
      (pHevcDec.secOutputEnabled = true → ∀ pHf ∈ DPB,
        pHf.pFbmBuffer = none → pHf.pSecFbmBuffer = none) →
      requested ((DPB.map (HevcUnrefFrame pHevcDec.secOutputEnabled bFlags)).flatMap Prod.snd)
          handle buffer = 0 ∧
        (DPB.map (held handle buffer)).sum =
          (((DPB.map (HevcUnrefFrame pHevcDec.secOutputEnabled bFlags)).map Prod.fst).map
              (held handle buffer)).sum +
            returned
              ((DPB.map (HevcUnrefFrame pHevcDec.secOutputEnabled bFlags)).flatMap Prod.snd)
              handle buffer := by
    intro handle buffer DPB paired
    induction DPB with
    | nil => exact ⟨rfl, rfl⟩
    | cons pHf rest ih =>
      have later := ih fun enabled other inside =>
        paired enabled other (mem_cons_of_mem pHf inside)
      have kept := unref_frame_keeps pHevcDec.secOutputEnabled bFlags pHf
      have asked := kept.none_requested handle buffer
      have books := kept.given_back
        (fun enabled => paired enabled pHf mem_cons_self) handle buffer
      simp only [map_cons, sum_cons, flatMap_cons, requested_append, returned_append]
      constructor
      · omega
      · omega
  constructor
  · rfl
  · intro well
    constructor
    · change (List.map Prod.fst (pHevcDec.DPB.map _)).length = _
      rw [length_map, length_map]
      exact well.size
    · intro enabled changed inside free
      change changed ∈ List.map Prod.fst (pHevcDec.DPB.map _) at inside
      rw [List.map_map] at inside
      obtain ⟨pHf, listed, image⟩ := mem_map.mp inside
      have kept := unref_frame_keeps pHevcDec.secOutputEnabled bFlags pHf
      rw [← image] at free ⊢
      exact kept.paired enabled (well.paired enabled pHf listed) free
  · intro _ well handle buffer
    obtain ⟨asked, books⟩ := all handle buffer pHevcDec.DPB well.paired
    have current : HevcContex.current handle (unrefFrames pHevcDec bFlags) =
        HevcContex.current handle pHevcDec := by
      cases handle <;> rfl
    rw [count_pictures, count_pictures, current]
    unfold unrefFrames
    dsimp only
    rw [requested_append, returned_append]
    omega

end Single

section Output

variable (pHevcDec : HevcContex)

theorem output_entry_keeps (bDisplayFlag : Bool) (pHf : HevcFrame) :
    EntryKeeps pHevcDec.secOutputEnabled pHf
      { pHf with
        bFlags := pHf.bFlags.without FrameFlags.HEVC_FRAME_FLAG_OUTPUT
        pSecFbmBuffer := if pHevcDec.secOutputEnabled then none else pHf.pSecFbmBuffer }
      (match pHevcDec.secOutputEnabled, pHf.pFbmBuffer, pHf.pSecFbmBuffer with
      | _, none, _ => [.nullPicture]
      | true, some _, none => [.nullPicture]
      | true, some _, some second => [.returnBuffer .SecondFbm second bDisplayFlag]
      | false, some buffer, _ => if bDisplayFlag then [.shareBuffer buffer] else []) := by
  cases pHevcDec.secOutputEnabled with
  | false =>
    constructor
    · intro enabled
      exact absurd enabled Bool.false_ne_true
    · intro handle buffer
      cases pHf.pFbmBuffer with
      | none => rfl
      | some first => cases bDisplayFlag <;> rfl
    · intro _ handle buffer
      unfold held
      cases handle <;> cases first : pHf.pFbmBuffer <;> cases bDisplayFlag <;>
        simp [HevcFrame.picture, first, returned, FbmCall.returns]
  | true =>
    constructor
    · intro _ _ _
      rfl
    · intro handle buffer
      cases pHf.pFbmBuffer with
      | none => rfl
      | some first => cases pHf.pSecFbmBuffer <;> rfl
    · intro paired handle buffer
      unfold held
      cases first : pHf.pFbmBuffer with
      | none =>
        have other := paired rfl first
        cases handle <;>
          simp [HevcFrame.picture, first, other, returned, FbmCall.returns]
      | some buffer =>
        cases handle <;> cases other : pHf.pSecFbmBuffer <;>
          simp [HevcFrame.picture, first, other, returned, FbmCall.returns, countP_cons, count_cons]

theorem output_picture_keeps (nMinIdx : Nat) :
    Keeps free pHevcDec (outputPicture pHevcDec nMinIdx).1 :=
  (keeps_set_frame (output_entry_keeps pHevcDec _ (pHevcDec.frame nMinIdx))).trans
    (SameSlots.keeps ⟨rfl, rfl, rfl, rfl, rfl⟩)

theorem output_loop_keeps (nSpsMaxNumReoderPics : Nat) (bFlush : Bool) (turns : Nat) :
    Keeps free pHevcDec (outputLoop nSpsMaxNumReoderPics bFlush turns pHevcDec).1 := by
  induction turns generalizing pHevcDec with
  | zero =>
    unfold outputLoop
    dsimp only
    split_ifs with idle picture
    · exact Keeps.refl pHevcDec
    · exact (output_picture_keeps _ _).behind ⟨rfl, rfl, rfl, rfl, rfl⟩
    · exact SameSlots.keeps ⟨rfl, rfl, rfl, rfl, rfl⟩
  | succ turns ih =>
    unfold outputLoop
    dsimp only
    split_ifs with idle picture
    · exact Keeps.refl pHevcDec
    · exact (output_picture_keeps _ _).behind ⟨rfl, rfl, rfl, rfl, rfl⟩
    · exact (ih _).behind ⟨rfl, rfl, rfl, rfl, rfl⟩

theorem output_frame_keeps (bFlush : Bool) :
    Keeps free pHevcDec (HevcOutputFrame pHevcDec bFlush).1 := by
  unfold HevcOutputFrame
  split
  · exact output_loop_keeps pHevcDec _ bFlush _
  · exact Keeps.refl pHevcDec

theorem flush_and_clear_keeps : Keeps free pHevcDec (flushAndClear pHevcDec) :=
  (output_frame_keeps pHevcDec true).trans (unref_frames_keeps FrameFlags.all)

theorem add_candidate_ref_keeps (candidate : Candidate) :
    Keeps free pHevcDec (HevcAddCandidateRef pHevcDec candidate).1 := by
  unfold HevcAddCandidateRef
  split
  · split_ifs
    · exact Keeps.refl pHevcDec
    · exact flush_and_clear_keeps pHevcDec
    · exact Keeps.refl pHevcDec
  · dsimp only
    split_ifs
    · exact Keeps.refl pHevcDec
    · exact Keeps.behind (keeps_mark_frame rfl rfl) ⟨rfl, rfl, rfl, rfl, rfl⟩

theorem add_candidates_keeps (candidates : List Candidate) :
    Keeps free pHevcDec (addCandidates pHevcDec candidates).1 := by
  induction candidates generalizing pHevcDec with
  | nil => exact Keeps.refl pHevcDec
  | cons candidate rest ih =>
    have first := @add_candidate_ref_keeps free pHevcDec candidate
    unfold addCandidates
    split
    · next added result =>
        rw [result] at first
        exact first.trans (ih added)
    · exact first

theorem clear_sets_keeps : Keeps free pHevcDec (clearSets pHevcDec) := by
  have entries : ∀ pHf : HevcFrame, (HevcMarkRef pHf {}).pFbmBuffer = pHf.pFbmBuffer ∧
      (HevcMarkRef pHf {}).pSecFbmBuffer = pHf.pSecFbmBuffer := fun _ => ⟨rfl, rfl⟩
  constructor
  · rfl
  · intro well
    constructor
    · change (pHevcDec.DPB.map _).length = _
      rw [length_map]
      exact well.size
    · intro enabled changed inside free
      obtain ⟨pHf, listed, image⟩ := mem_map.mp inside
      rw [← image] at free ⊢
      exact well.paired enabled pHf listed free
  · intro _ _ handle buffer
    have places : pictures (clearSets pHevcDec) handle = pictures pHevcDec handle := by
      unfold pictures clearSets
      dsimp only
      rw [filterMap_map]
      cases handle <;> rfl
    rw [places]
    rfl

theorem constuct_frame_rps_keeps : Keeps free pHevcDec (HevcConstuctFrameRps pHevcDec).1 := by
  unfold HevcConstuctFrameRps
  split_ifs
  · exact SameSlots.keeps ⟨rfl, rfl, rfl, rfl, rfl⟩
  · have added := (@clear_sets_keeps free pHevcDec).trans
      (add_candidates_keeps (clearSets pHevcDec) (rpsCandidates pHevcDec))
    split
    · next marked result =>
        rw [result] at added
        exact added.trans (unref_frames_keeps {})
    · exact added

end Output

section NewReference

variable {pHevcDec : HevcContex}

/-- The managers have pictures for the decoder, or it has them already. -/
def framesToHand (pHevcDec : HevcContex) (answers : FbmAnswers) : Bool :=
  (pHevcDec.bFbmInitFlag || HevcInitialFBM pHevcDec answers) &&
    (pHevcDec.pCurrFrame.isSome || answers.first.isSome) &&
    (!pHevcDec.secOutputEnabled || pHevcDec.pCurrSecFrame.isSome || answers.second.isSome)

/-- The entry that the new picture is stored in, as `HevcSetNewRef` finds it. -/
def newRefEntry (pHevcDec : HevcContex) (nPoc : Int) (nNuhLayerId : Nat) : HevcFrame :=
  let pHevcDec :=
    if samePoc pHevcDec nPoc nNuhLayerId then flushAndClear pHevcDec else pHevcDec
  pHevcDec.frame (newRefIndex pHevcDec.DPB)

/-- An entry of `DPB` owns no picture, or the count of the new one is in `DPB` already,
so that `DPB` is emptied for it. -/
def SlotFree (pHevcDec : HevcContex) (nPoc : Int) (nNuhLayerId : Nat) : Prop :=
  samePoc pHevcDec nPoc nNuhLayerId = true ∨ ∃ pHf ∈ pHevcDec.DPB, pHf.pFbmBuffer = none

theorem new_ref_index_free (size : pHevcDec.DPB.length = HEVC_MAX_DPB_SIZE)
    (free : ∃ pHf ∈ pHevcDec.DPB, pHf.pFbmBuffer = none) :
    newRefIndex pHevcDec.DPB < pHevcDec.DPB.length ∧
      (pHevcDec.frame (newRefIndex pHevcDec.DPB)).pFbmBuffer = none := by
  have found : pHevcDec.DPB.findIdx (fun pHf => pHf.pFbmBuffer.isNone) < pHevcDec.DPB.length := by
    obtain ⟨pHf, inside, empty⟩ := free
    exact findIdx_lt_length_of_exists ⟨pHf, inside, by rw [empty]; rfl⟩
  have index : newRefIndex pHevcDec.DPB =
      pHevcDec.DPB.findIdx fun pHf => pHf.pFbmBuffer.isNone := by
    unfold newRefIndex
    dsimp only
    rw [if_neg]
    omega
  rw [index]
  constructor
  · exact found
  · have none := findIdx_getElem (w := found)
    change (pHevcDec.DPB.getD _ {}).pFbmBuffer = _
    rw [getD_eq_getElem _ _ found]
    exact isNone_iff_eq_none.mp none

theorem reset_clears (pHevcDec : HevcContex) :
    ∀ pHf ∈ (HevcResetClearRefs pHevcDec).DPB, pHf.pFbmBuffer = none := by
  intro changed inside
  change changed ∈ List.map Prod.fst (pHevcDec.DPB.map _) at inside
  rw [List.map_map] at inside
  obtain ⟨pHf, _, rfl⟩ := mem_map.mp inside
  have zero : ∀ bFlags : FrameFlags, (bFlags.without FrameFlags.all).isZero = true := by
    intro bFlags
    obtain ⟨output, short, long⟩ := bFlags
    cases output <;> cases short <;> cases long <;> rfl
  change (HevcUnrefFrame pHevcDec.secOutputEnabled FrameFlags.all pHf).1.pFbmBuffer = none
  unfold HevcUnrefFrame
  cases first : pHf.pFbmBuffer with
  | none => exact first
  | some buffer =>
    dsimp only
    rw [zero, if_neg (by decide)]
    split_ifs <;> rfl

theorem request_keeps (answer : Option Nat) : (pHevcDec.pCurrFrame = none → Keeps free pHevcDec
      { pHevcDec.call (FbmHandle.fbm.requested answer) with pCurrFrame := answer }) ∧
    (pHevcDec.pCurrSecFrame = none → Keeps free pHevcDec
      { pHevcDec.call (FbmHandle.SecondFbm.requested answer) with pCurrSecFrame := answer }) := by
  constructor
  all_goals
    intro missing
    constructor
    · rfl
    · intro well
      exact ⟨well.size, well.paired⟩
    · intro _ _ handle buffer
      change requested (pHevcDec.fbmCalls ++ _) _ _ + _ + _ =
        _ + returned (pHevcDec.fbmCalls ++ _) _ _ + _
      rw [requested_append, returned_append]
      unfold pictures
      cases handle <;> cases answer <;>
        simp [FbmHandle.requested, requested, returned, FbmCall.returns, HevcContex.call,
          HevcContex.current, missing, count_append, count_cons]
      omega

theorem request_first_step (pHevcDec : HevcContex) (answers : FbmAnswers) :
    Keeps free pHevcDec (requestFirst pHevcDec answers) := by
  unfold requestFirst
  split_ifs with missing
  · exact (request_keeps answers.first).1 (isNone_iff_eq_none.mp missing)
  · exact Keeps.refl pHevcDec

theorem request_second_step (pHevcDec : HevcContex) (answers : FbmAnswers) :
    Keeps free pHevcDec (requestSecond pHevcDec answers) := by
  unfold requestSecond
  split_ifs with missing
  · exact (request_keeps answers.second).2 (isNone_iff_eq_none.mp missing)
  · exact Keeps.refl pHevcDec

theorem request_frames_keeps (pHevcDec : HevcContex) (answers : FbmAnswers) :
    Keeps free pHevcDec (requestFrames pHevcDec answers).1 := by
  have first := @request_first_step free pHevcDec answers
  unfold requestFrames
  dsimp only
  split_ifs
  · exact first
  · exact first
  all_goals exact first.trans (request_second_step _ answers)

@[simp] theorem request_first_DPB (pHevcDec : HevcContex) (answers : FbmAnswers) :
    (requestFirst pHevcDec answers).DPB = pHevcDec.DPB := by
  unfold requestFirst
  split_ifs <;> rfl

@[simp] theorem request_second_DPB (pHevcDec : HevcContex) (answers : FbmAnswers) :
    (requestSecond pHevcDec answers).DPB = pHevcDec.DPB := by
  unfold requestSecond
  split_ifs <;> rfl

/-- What `HevcSetNewRef` goes on with: the entries as they were and the pictures. -/
theorem request_frames_ok {answers : FbmAnswers} {requestedDec : HevcContex}
    (ok : requestFrames pHevcDec answers = (requestedDec, .HEVC_RESULT_OK)) :
    requestedDec.DPB = pHevcDec.DPB ∧ requestedDec.pCurrFrame.isSome = true ∧
      (pHevcDec.pCurrFrame.isSome || answers.first.isSome) = true ∧
      (!pHevcDec.secOutputEnabled || pHevcDec.pCurrSecFrame.isSome ||
        answers.second.isSome) = true := by
  have shown : (pHevcDec.pCurrFrame.isSome || answers.first.isSome) =
      (requestFirst pHevcDec answers).pCurrFrame.isSome := by
    unfold requestFirst
    cases held : pHevcDec.pCurrFrame <;> simp [held]
  have kept : (requestFirst pHevcDec answers).pCurrSecFrame = pHevcDec.pCurrSecFrame := by
    unfold requestFirst
    split_ifs <;> rfl
  have second := (@request_first_step True pHevcDec answers).second
  unfold requestFrames at ok
  dsimp only at ok
  split_ifs at ok with missing one absent
  · cases ok
  · obtain rfl := congrArg Prod.fst ok
    have some : (requestFirst pHevcDec answers).pCurrFrame.isSome = true :=
      isSome_iff_ne_none.mpr (by simpa using missing)
    refine ⟨request_first_DPB _ _, some, shown.trans some, ?_⟩
    rw [second] at one
    rw [one]
    rfl
  · cases ok
  · obtain rfl := congrArg Prod.fst ok
    have some : (requestFirst pHevcDec answers).pCurrFrame.isSome = true :=
      isSome_iff_ne_none.mpr (by simpa using missing)
    have present : (requestSecond (requestFirst pHevcDec answers) answers).pCurrSecFrame.isSome =
        (pHevcDec.pCurrSecFrame.isSome || answers.second.isSome) := by
      unfold requestSecond
      rw [kept]
      cases held : pHevcDec.pCurrSecFrame <;> simp [kept, held]
    have same : (requestSecond (requestFirst pHevcDec answers) answers).pCurrFrame =
        (requestFirst pHevcDec answers).pCurrFrame := by
      unfold requestSecond
      split_ifs <;> rfl
    refine ⟨?_, ?_, shown.trans some, ?_⟩
    · simp
    · rw [same]
      exact some
    · rw [Bool.or_assoc, ← present, Bool.or_eq_true]
      right
      exact isSome_iff_ne_none.mpr (by simpa using absent)

theorem store_new_ref_keeps (nPoc : Int) (bPocErrorFlag : Bool)
    (frame : pHevcDec.pCurrFrame.isSome = true)
    (found : free → SlotsWell pHevcDec → ∃ pHf ∈ pHevcDec.DPB, pHf.pFbmBuffer = none) :
    Keeps free pHevcDec (storeNewRef pHevcDec nPoc bPocErrorFlag) := by
  constructor
  · rfl
  · intro well
    constructor
    · change (pHevcDec.DPB.set _ _).length = _
      rw [length_set]
      exact well.size
    · intro enabled pHf inside empty
      rcases mem_or_eq_of_mem_set inside with old | new
      · exact well.paired enabled pHf old empty
      · rw [new] at empty
        change pHevcDec.pCurrFrame = none at empty
        rw [empty] at frame
        cases frame
  · intro holds well handle buffer
    obtain ⟨inside, empty⟩ := new_ref_index_free well.size (found holds well)
    have listed : pHevcDec.frame (newRefIndex pHevcDec.DPB) ∈ pHevcDec.DPB := by
      change pHevcDec.DPB.getD _ {} ∈ _
      rw [getD_eq_getElem _ _ inside]
      exact getElem_mem inside
    have moved := fun changed => @sum_held_set handle buffer pHevcDec.DPB
      (newRefIndex pHevcDec.DPB) changed fun beyond => absurd inside (Nat.not_lt.mpr beyond)
    change ∀ changed, _ + held handle buffer (pHevcDec.frame (newRefIndex pHevcDec.DPB)) = _
      at moved
    rw [count_pictures, count_pictures]
    have change_of_places : held handle buffer (pHevcDec.frame (newRefIndex pHevcDec.DPB)) +
        (HevcContex.current handle pHevcDec).toList.count buffer =
          held handle buffer (storedFrame pHevcDec nPoc bPocErrorFlag) + (HevcContex.current handle
              (storeNewRef pHevcDec nPoc bPocErrorFlag)).toList.count buffer := by
      cases handle with
      | fbm =>
        change (pHevcDec.frame _).pFbmBuffer.toList.count buffer +
            pHevcDec.pCurrFrame.toList.count buffer =
          pHevcDec.pCurrFrame.toList.count buffer + 0
        rw [empty, toList_none, count_nil]
        omega
      | SecondFbm =>
        change (pHevcDec.frame _).pSecFbmBuffer.toList.count buffer +
            pHevcDec.pCurrSecFrame.toList.count buffer =
          (if pHevcDec.secOutputEnabled then pHevcDec.pCurrSecFrame
            else (pHevcDec.frame _).pSecFbmBuffer).toList.count buffer +
          (if pHevcDec.secOutputEnabled then none
            else pHevcDec.pCurrSecFrame).toList.count buffer
        split_ifs with enabled
        · rw [well.paired enabled _ listed empty, toList_none, count_nil]
          omega
        · rfl
    have stored := moved (storedFrame pHevcDec nPoc bPocErrorFlag)
    change requested pHevcDec.fbmCalls handle buffer + returned pHevcDec.fbmCalls handle buffer +
        _ = requested pHevcDec.fbmCalls handle buffer +
      returned pHevcDec.fbmCalls handle buffer + (((pHevcDec.DPB.set (newRefIndex pHevcDec.DPB)
          (storedFrame pHevcDec nPoc bPocErrorFlag)).map (held handle buffer)).sum + _)
    omega

section SetNewRef

variable {nPoc : Int} {nNuhLayerId : Nat} {answers : FbmAnswers}

/-- What `HevcSetNewRef` stores into after it has emptied `DPB`, or without. -/
theorem slot_found (well : SlotsWell pHevcDec) (free : SlotFree pHevcDec nPoc nNuhLayerId) :
    ∃ pHf ∈ (if samePoc pHevcDec nPoc nNuhLayerId then flushAndClear pHevcDec
      else pHevcDec).DPB, pHf.pFbmBuffer = none := by
  split_ifs with same
  · have size := ((@flush_and_clear_keeps True pHevcDec).well well).size
    have some : 0 < (flushAndClear pHevcDec).DPB.length := by
      rw [size]
      decide
    exact ⟨_, getElem_mem some, reset_clears _ _ (getElem_mem some)⟩
  · rcases free with again | free
    · exact absurd again same
    · exact free

theorem emptied_keeps (pHevcDec : HevcContex) (nPoc : Int) (nNuhLayerId : Nat) : Keeps free pHevcDec
      (if samePoc pHevcDec nPoc nNuhLayerId then flushAndClear pHevcDec else pHevcDec) := by
  split_ifs
  · exact flush_and_clear_keeps pHevcDec
  · exact Keeps.refl pHevcDec

theorem new_ref_entry_free (well : SlotsWell pHevcDec) (free : SlotFree pHevcDec nPoc nNuhLayerId) :
    (newRefEntry pHevcDec nPoc nNuhLayerId).pFbmBuffer = none :=
  (new_ref_index_free ((@emptied_keeps True pHevcDec nPoc nNuhLayerId).well well).size
    (slot_found well free)).2

theorem set_new_ref_keeps
    (found : free → framesToHand pHevcDec answers = true → SlotFree pHevcDec nPoc nNuhLayerId) :
    Keeps free pHevcDec (HevcSetNewRef pHevcDec nPoc nNuhLayerId answers).1 := by
  unfold HevcSetNewRef
  dsimp only
  split_ifs with same unable unable
  · exact flush_and_clear_keeps pHevcDec
  · have requests := (@request_frames_keeps free _ answers).behind
      (show SameSlots (flushAndClear pHevcDec)
        { flushAndClear pHevcDec with bFbmInitFlag := true } from ⟨rfl, rfl, rfl, rfl, rfl⟩)
    have whole := (flush_and_clear_keeps pHevcDec).trans requests
    split
    · next requestedDec ok =>
        rw [ok] at whole
        obtain ⟨entries, frame, _⟩ := request_frames_ok ok
        apply whole.trans
        apply store_new_ref_keeps _ _ frame
        intro _ well
        have some : 0 < requestedDec.DPB.length := by
          rw [well.size]
          decide
        refine ⟨requestedDec.DPB[0], getElem_mem some, ?_⟩
        have listed : requestedDec.DPB[0] ∈ (flushAndClear pHevcDec).DPB := by
          change requestedDec.DPB[0] ∈ ({ flushAndClear pHevcDec with
            bFbmInitFlag := true } : HevcContex).DPB
          rw [← entries]
          exact getElem_mem some
        exact reset_clears (HevcOutputFrame pHevcDec true).1 _ listed
    · exact whole
  · exact Keeps.refl pHevcDec
  · have requests := (@request_frames_keeps free _ answers).behind
      (show SameSlots pHevcDec { pHevcDec with bFbmInitFlag := true } from
        ⟨rfl, rfl, rfl, rfl, rfl⟩)
    split
    · next requestedDec ok =>
        rw [ok] at requests
        obtain ⟨entries, frame, first, second⟩ := request_frames_ok ok
        have ready : framesToHand pHevcDec answers = true := by
          unfold framesToHand
          rw [Bool.and_eq_true, Bool.and_eq_true]
          refine ⟨⟨?_, first⟩, second⟩
          by_contra never
          apply unable
          simpa using never
        apply requests.trans
        apply store_new_ref_keeps _ _ frame
        intro holds _
        rw [entries]
        rcases found holds ready with again | free
        · exact absurd again same
        · exact free
    · exact requests

end SetNewRef

end NewReference

section Decoding

variable (dec : Decoder) (slice : SliceSegment)

theorem check_squeue_poc_keeps (dpb : HevcContex) : Keeps free dpb (checkSqueuePoc dpb) := by
  unfold checkSqueuePoc
  dsimp only
  split_ifs
  · exact (flush_and_clear_keeps dpb).trans (SameSlots.keeps ⟨rfl, rfl, rfl, rfl, rfl⟩)
  · exact flush_and_clear_keeps dpb
  · exact Keeps.refl dpb

theorem start_sequence_keeps : Keeps free dec.dpb (startSequence dec slice).dpb := by
  unfold startSequence
  split_ifs
  · exact (unref_frames_keeps FrameFlags.bothRefs).behind ⟨rfl, rfl, rfl, rfl, rfl⟩
  · exact SameSlots.keeps ⟨rfl, rfl, rfl, rfl, rfl⟩
  · exact Keeps.refl dec.dpb

theorem activate_sps_keeps (pCurSps : HevcSPS) (bHdrFlag : Bool) :
    Keeps free dec.dpb (activateSps dec pCurSps bHdrFlag).1.dpb := by
  unfold activateSps
  split
  · have cleared : Keeps free dec.dpb (HevcClearRefs { dec.dpb with pSps := some pCurSps }) :=
      (unref_frames_keeps FrameFlags.bothRefs).behind ⟨rfl, rfl, rfl, rfl, rfl⟩
    exact cleared.trans (SameSlots.keeps ⟨rfl, rfl, rfl, rfl, rfl⟩)
  · split_ifs
    · exact Keeps.refl dec.dpb
    · exact SameSlots.keeps ⟨rfl, rfl, rfl, rfl, rfl⟩

theorem decode_sets_same : SameSlots dec.dpb (decodeSets dec slice).1.dpb := by
  unfold decodeSets
  split_ifs
  · exact ⟨rfl, rfl, rfl, rfl, rfl⟩
  · dsimp only
    split <;> exact ⟨rfl, rfl, rfl, rfl, rfl⟩

theorem decode_independent_same : SameSlots dec.dpb (decodeIndependent dec slice).1.dpb := by
  have sets := decode_sets_same
    { dec with
      dpb := { dec.dpb with bPicOutputFlag := slice.bPicOutputFlag }
      SliceHeader := { dec.SliceHeader with eSliceType := slice.references.eSliceType } } slice
  unfold decodeIndependent
  split
  · next decoded result =>
      rw [result] at sets
      exact ⟨sets.second, sets.entries, sets.first, sets.other, sets.calls⟩
  · exact ⟨sets.second, sets.entries, sets.first, sets.other, sets.calls⟩

theorem decode_slice_header_keeps : Keeps free dec.dpb (HevcDecodeSliceHeader dec slice).1.dpb := by
  have started := @start_sequence_keeps free
    { dec with dpb := { dec.dpb with eNaluType := slice.eNaluType } } slice
  have begun := started.behind
    (show SameSlots dec.dpb { dec.dpb with eNaluType := slice.eNaluType } from
      ⟨rfl, rfl, rfl, rfl, rfl⟩)
  unfold HevcDecodeSliceHeader
  dsimp only
  split
  · exact begun
  · next pCurSps named =>
      have active := begun.trans (activate_sps_keeps _ pCurSps slice.bHdrFlag)
      split
      · next activated result =>
          rw [result] at active
          split_ifs
          · exact active
          · have coded := decode_independent_same
              { activated with
                bDependentSliceSegmentFlag :=
                  !slice.bFirstSliceInPicFlag && slice.bDependentSliceSegmentFlag } slice
            exact active.trans coded.keeps
      · exact active

theorem update_max_ra_same : SameSlots dec.dpb (updateMaxRa dec).dpb := by
  unfold updateMaxRa
  split_ifs <;> exact ⟨rfl, rfl, rfl, rfl, rfl⟩

theorem prepare_header_keeps : Keeps free dec.dpb (prepareHeader dec slice).1.dpb := by
  unfold prepareHeader
  split_ifs
  · exact SameSlots.keeps ⟨rfl, rfl, rfl, rfl, rfl⟩
  · have header := @decode_slice_header_keeps free dec slice
    split
    · next decoded changed =>
        rw [changed] at header
        exact header
    · next decoded result _ changed =>
        rw [changed] at header
        have marked := header.trans
          (update_max_ra_same
            (if result = .refused then { decoded with bErrorFrameFlag := true } else decoded)
            |>.keeps.behind (by split_ifs <;> exact ⟨rfl, rfl, rfl, rfl, rfl⟩))
        dsimp only
        generalize updateMaxRa
          (if result = .refused then { decoded with bErrorFrameFlag := true } else decoded) =
            updated at marked ⊢
        split_ifs
        · exact marked.trans (SameSlots.keeps ⟨rfl, rfl, rfl, rfl, rfl⟩)
        · exact marked.trans (SameSlots.keeps ⟨rfl, rfl, rfl, rfl, rfl⟩)
        · exact marked

theorem slice_references_keeps : Keeps free dec.dpb (sliceReferences dec).dpb := by
  unfold sliceReferences
  split_ifs
  · exact Keeps.refl dec.dpb
  · split
    · exact Keeps.refl dec.dpb
    · exact Keeps.refl dec.dpb
    · dsimp only
      cases dec.dpb.pCurrDPB with
      | none => exact Keeps.refl dec.dpb
      | some index => exact keeps_mark_frame rfl rfl

theorem mark_error_keeps (dpb : HevcContex) : Keeps free dpb (markError dpb) := by
  unfold markError
  cases dpb.pCurrDPB with
  | none => exact Keeps.refl dpb
  | some index => exact keeps_mark_frame rfl rfl

theorem submit_slice_keeps (bHardwareError : Bool) :
    Keeps free dec.dpb (submitSlice dec bHardwareError).1.dpb := by
  unfold submitSlice
  dsimp only
  split_ifs
  · exact mark_error_keeps dec.dpb
  · exact Keeps.refl dec.dpb

theorem finish_frame_keeps (bCtuMissing : Bool) :
    Keeps free dec.dpb (finishFrame dec bCtuMissing).dpb := by
  have ended : ∀ marked : Decoder,
      Keeps free marked.dpb (marked.dpb.pCurrDPB.elim marked fun pCurrDPB =>
        { marked with
          dpb :=
            { marked.dpb with
              nSqueueFramePocList := marked.dpb.nSqueueFramePocList.set
                (squeueIndex marked.dpb.nSqueueFramePocList)
                (marked.dpb.frame pCurrDPB).nPoc } }).dpb := by
    intro marked
    cases marked.dpb.pCurrDPB with
    | none => exact Keeps.refl marked.dpb
    | some index => exact SameSlots.keeps ⟨rfl, rfl, rfl, rfl, rfl⟩
  unfold finishFrame
  dsimp only
  apply Keeps.trans _ (ended _)
  split_ifs
  · exact mark_error_keeps dec.dpb
  · exact Keeps.refl dec.dpb
  · exact mark_error_keeps dec.dpb
  · exact Keeps.refl dec.dpb

theorem reset_decoder_keeps : Keeps free dec.dpb (HevcResetDecoder dec).dpb :=
  (unref_frames_keeps FrameFlags.all).trans (SameSlots.keeps ⟨rfl, rfl, rfl, rfl, rfl⟩)

end Decoding

/-- Wherever a slice makes `HevcSetNewRef` store a picture, an entry is free for it. -/
def SlotLeft (run : DecoderRun) : DecoderOp → Prop
  | .nalu (.slice slice) env =>
    ∀ dpb ∈ newRefState run.dec slice, framesToHand dpb env.answers = true →
      SlotFree dpb dpb.nPoc slice.nNuhLayerId
  | _ => True

/-- The entry that `HevcSetNewRef` stores a picture into owns none. -/
def OverwritesNone (run : DecoderRun) : DecoderOp → Prop
  | .nalu (.slice slice) env =>
    ∀ dpb ∈ newRefState run.dec slice, framesToHand dpb env.answers = true →
      (newRefEntry dpb dpb.nPoc slice.nNuhLayerId).pFbmBuffer = none
  | _ => True

theorem slice_decoder_same (dec : Decoder) (slice : SliceSegment) :
    SameSlots dec.dpb (sliceDecoder dec slice).dpb := by
  unfold sliceDecoder
  dsimp only
  split_ifs <;> exact ⟨rfl, rfl, rfl, rfl, rfl⟩

theorem new_ref_state_keeps {dec : Decoder} {slice : SliceSegment} {dpb : HevcContex}
    (reached : dpb ∈ newRefState dec slice) : Keeps free dec.dpb dpb := by
  have header := (@prepare_header_keeps free (sliceDecoder dec slice) slice).behind
    (slice_decoder_same dec slice)
  unfold newRefState at reached
  split at reached
  · cases reached
  · next prepared result =>
      rw [result] at header
      split_ifs at reached
      · split at reached
        · next constructed built =>
            have sets := (@check_squeue_poc_keeps free prepared.dpb).trans
              (constuct_frame_rps_keeps (checkSqueuePoc prepared.dpb))
            rw [built] at sets
            obtain rfl := Option.some.inj reached
            exact header.trans sets
        · cases reached
      · cases reached

theorem start_picture_keeps {dec : Decoder} {slice : SliceSegment} {answers : FbmAnswers}
    (found : free → slice.bFirstSliceInPicFlag = true →
      ∀ dpb, HevcConstuctFrameRps (checkSqueuePoc dec.dpb) = (dpb, .HEVC_RESULT_OK) →
        framesToHand dpb answers = true → SlotFree dpb dpb.nPoc slice.nNuhLayerId) :
    Keeps free dec.dpb (startPicture dec slice answers).1.dpb := by
  have started : slice.bFirstSliceInPicFlag = true →
      Keeps free dec.dpb (HevcFrameStart dec.dpb slice.nNuhLayerId answers).1 := by
    intro first
    have sets := (@check_squeue_poc_keeps free dec.dpb).trans
      (constuct_frame_rps_keeps (checkSqueuePoc dec.dpb))
    unfold HevcFrameStart
    split
    · next dpb built =>
        rw [built] at sets
        exact sets.trans (set_new_ref_keeps fun holds => found holds first dpb built)
    · exact sets
  unfold startPicture
  split_ifs with first none
  · have kept := started first
    split
    · next dpb result =>
        rw [result] at kept
        exact kept
    · next dpb result =>
        rw [result] at kept
        exact kept.trans (SameSlots.keeps ⟨rfl, rfl, rfl, rfl, rfl⟩)
    · next dpb other _ _ result =>
        rw [result] at kept
        exact kept
  · exact Keeps.refl dec.dpb
  · exact Keeps.refl dec.dpb

theorem decode_slice_keeps {dec : Decoder} {inFrame : Bool} {slice : SliceSegment} {env : NaluEnv}
    (left : free → SlotLeft ⟨dec, inFrame⟩ (.nalu (.slice slice) env)) :
    Keeps free dec.dpb (decodeSlice (sliceDecoder dec slice) slice env).1.dpb := by
  have header := (@prepare_header_keeps free (sliceDecoder dec slice) slice).behind
    (slice_decoder_same dec slice)
  have prepared : Keeps free dec.dpb
      (prepareSlice (sliceDecoder dec slice) slice env.answers).1.dpb := by
    unfold prepareSlice
    split
    · next result =>
        rw [result] at header
        exact header
    · next ready result =>
        rw [result] at header
        have kept := @start_picture_keeps free ready slice env.answers (by
          intro holds first dpb built hand
          apply left holds dpb _ hand
          unfold newRefState
          rw [result]
          dsimp only
          rw [if_pos first, built]
          rfl)
        split
        · next result =>
            rw [result] at kept
            exact header.trans kept
        · next begun result =>
            rw [result] at kept
            have referenced := @slice_references_keeps free begun
            dsimp only
            split_ifs
            · exact header.trans kept
            all_goals exact (header.trans kept).trans referenced
  unfold decodeSlice
  split
  · next result =>
      rw [result] at prepared
      exact prepared
  · next ready result =>
      rw [result] at prepared
      exact prepared.trans (submit_slice_keeps ready env.bHardwareError)

theorem decoder_step_keeps {dec : Decoder} {inFrame : Bool} {op : DecoderOp}
    (left : free → SlotLeft ⟨dec, inFrame⟩ op) :
    Keeps free dec.dpb (decoderStep dec op).dpb := by
  cases op with
  | outputFrame bFlush => exact output_frame_keeps dec.dpb bFlush
  | requestFrame nFrameDuration nPts =>
    unfold decoderStep requestFrame HevcDecoderAddPtsToList
    dsimp only
    split_ifs <;> exact SameSlots.keeps ⟨rfl, rfl, rfl, rfl, rfl⟩
  | startFrame | skipNalu | setDropFrame enable => exact SameSlots.keeps ⟨rfl, rfl, rfl, rfl, rfl⟩
  | nalu nalu env =>
    cases nalu with
    | slice slice => exact decode_slice_keeps left
    | sps small | pps | endOfSequence | bitDepthChange =>
      exact SameSlots.keeps ⟨rfl, rfl, rfl, rfl, rfl⟩
    | damaged keyFrame | other keyFrame =>
      change Keeps free dec.dpb (if keyFrame = some true then _ else dec : Decoder).dpb
      split_ifs <;> exact SameSlots.keeps ⟨rfl, rfl, rfl, rfl, rfl⟩
  | finishFrame bCtuMissing => exact finish_frame_keeps dec bCtuMissing
  | reset => exact reset_decoder_keeps dec

theorem overwrites_none_of_left {run : DecoderRun} {op : DecoderOp}
    (well : SlotsWell run.dec.dpb) (left : SlotLeft run op) : OverwritesNone run op := by
  unfold OverwritesNone
  split
  · next slice env =>
      intro dpb reached hand
      exact new_ref_entry_free ((@new_ref_state_keeps True _ _ _ reached).well well)
        (left dpb reached hand)
  · trivial

theorem start_slots_well (second displayErrors : Bool) :
    SlotsWell (Decoder.start second displayErrors).dpb := by
  constructor
  · rfl
  · intro _ pHf inside _
    rw [eq_of_mem_replicate inside]

theorem start_balanced (second displayErrors : Bool) :
    Balanced (Decoder.start second displayErrors).dpb := by
  intro handle buffer
  cases handle <;> rfl

instance (run : DecoderRun) : ∀ op, Decidable (SlotLeft run op)
  | .nalu (.slice slice) env =>
    inferInstanceAs (Decidable (∀ dpb ∈ newRefState run.dec slice,
      framesToHand dpb env.answers = true →
        samePoc dpb dpb.nPoc slice.nNuhLayerId = true ∨ ∃ pHf ∈ dpb.DPB, pHf.pFbmBuffer = none))
  | .nalu (.sps _) _ | .nalu .pps _ | .nalu .bitDepthChange _ | .nalu .endOfSequence _
  | .nalu (.damaged _) _ | .nalu (.other _) _ => isTrue trivial
  | .outputFrame _ | .requestFrame _ _ | .startFrame | .skipNalu | .finishFrame _
  | .setDropFrame _ | .reset => isTrue trivial

instance (run : DecoderRun) : ∀ op, Decidable (OverwritesNone run op)
  | .nalu (.slice slice) env =>
    inferInstanceAs (Decidable (∀ dpb ∈ newRefState run.dec slice,
      framesToHand dpb env.answers = true →
        (newRefEntry dpb dpb.nPoc slice.nNuhLayerId).pFbmBuffer = none))
  | .nalu (.sps _) _ | .nalu .pps _ | .nalu .bitDepthChange _ | .nalu .endOfSequence _
  | .nalu (.damaged _) _ | .nalu (.other _) _ => isTrue trivial
  | .outputFrame _ | .requestFrame _ _ | .startFrame | .skipNalu | .finishFrame _
  | .setDropFrame _ | .reset => isTrue trivial

/-- In a run whose steps find a free entry whenever they store a picture, no picture is
overwritten, every buffer handed out is in one place until its one return, and a buffer
that the managers have out once is in no two places. -/
theorem slots_owned_in_guarded_runs (second displayErrors : Bool) {ops : List DecoderOp}
    {final : DecoderRun}
    (meets : StepsMeet SlotLeft decoderExec (DecoderRun.start second displayErrors) ops)
    (run : runOps decoderExec (DecoderRun.start second displayErrors) ops = some final) :
    StepsMeet OverwritesNone decoderExec (DecoderRun.start second displayErrors) ops ∧
      Balanced final.dec.dpb ∧
      (HandedOutOnce final.dec.dpb.fbmCalls → ∀ handle, (pictures final.dec.dpb handle).Nodup) := by
  have step : ∀ run op next, SlotsWell run.dec.dpb ∧ Balanced run.dec.dpb → SlotLeft run op →
      decoderExec run op = some next → SlotsWell next.dec.dpb ∧ Balanced next.dec.dpb := by
    intro run op next owned left ran
    have kept := decoder_step_keeps fun _ : True => left
    rw [(step_of_exec ran).2]
    exact ⟨kept.well owned.1, kept.balanced trivial owned.1 owned.2⟩
  have start : SlotsWell (DecoderRun.start second displayErrors).dec.dpb ∧
      Balanced (DecoderRun.start second displayErrors).dec.dpb :=
    ⟨start_slots_well second displayErrors, start_balanced second displayErrors⟩
  have reached := guarded_run_invariant step start meets run
  refine ⟨?_, reached.2, fun once => held_in_one_place reached.2 once⟩
  apply steps_meet_of_invariant step _ start meets
  intro run op owned left
  exact overwrites_none_of_left owned.1 left

/-- A picture that keeps the pictures 0 to `kept - 1` for later ones. -/
def keepingSlice (nPoc kept : Nat) : SliceSegment where
  eNaluType := if nPoc = 0 then .HEVC_NAL_IDR_W_RADL else .HEVC_NAL_TRAIL_R
  nTemporalId := 0
  nNuhLayerId := 0
  bFirstSliceInPicFlag := true
  pCurSps := some
    { nWidth := 64
      nHeight := 64
      nLog2MaxPocLsb := 8
      nSpsMaxDecPicBuffering := 16
      nSpsMaxNumReoderPics := 5
      others := 0 }
  bHdrFlag := false
  bDependentSliceSegmentFlag := false
  bPicOutputFlag := true
  nPicOrderCntLsb := nPoc
  shortTermRps := some
    { nNumNegativePics := kept
      nNumDeltaPocs := kept
      nDeltaPoc := fun i => (kept : Int) - 1 - i - nPoc
      bUsed := fun _ => false }
  longTermRps := none
  references :=
    { eSliceType := .HEVC_I_SLICE
      nNumOfRefs := fun _ => 0
      bRplModificationFlag := fun _ => false
      ListEntryLx := fun _ _ => 0 }

/-- The managers are there, and the first one has the buffer to give. -/
def bufferReady (buffer : Nat) : NaluEnv := ⟨⟨true, some buffer, none⟩, false⟩

def keepingFrame (nPoc kept buffer : Nat) : List DecoderOp :=
  [.requestFrame 0 (1000 * (nPoc + 1)), .startFrame,
    .nalu (.slice (keepingSlice nPoc kept)) (bufferReady buffer), .finishFrame false,
    .outputFrame false]

def parameterSets : List DecoderOp :=
  [.startFrame, .nalu (.sps false) (bufferReady 0), .nalu .pps (bufferReady 0), .finishFrame false]

theorem short_run_keeps_pictures : ∃ final, runOps decoderExec (DecoderRun.start false false)
        (parameterSets ++ keepingFrame 0 0 0 ++ keepingFrame 1 1 1 ++ [.reset]) = some final ∧
      Balanced final.dec.dpb := by
  have meets : StepsMeet SlotLeft decoderExec (DecoderRun.start false false)
      (parameterSets ++ keepingFrame 0 0 0 ++ keepingFrame 1 1 1 ++ [.reset]) := by
    decide +kernel
  have ends : (runOps decoderExec (DecoderRun.start false false)
      (parameterSets ++ keepingFrame 0 0 0 ++ keepingFrame 1 1 1 ++ [.reset])).isSome := by
    decide +kernel
  obtain ⟨final, run⟩ := isSome_iff_exists.mp ends
  exact ⟨final, run, (slots_owned_in_guarded_runs false false meets run).2.1⟩

/-- Fifteen pictures that are shown at once and kept, then six that wait for others in
front of them: more than `DPB` has entries, and no more than the sequence announces. -/
def longReferences : List DecoderOp :=
  parameterSets ++ (List.range 15).flatMap (fun nPoc => keepingFrame nPoc nPoc nPoc) ++
    (List.range 6).flatMap fun i => keepingFrame (16 + 2 * i) 15 (15 + i)

/-- The last picture takes the entry of one that still waits, whose buffer is neither
returned nor held any more. -/
theorem full_buffer_loses_picture :
    ¬ StepsMeet OverwritesNone decoderExec (DecoderRun.start false false) longReferences ∧ ∃ final,
        runOps decoderExec (DecoderRun.start false false) longReferences = some final ∧
        requested final.dec.dpb.fbmCalls .fbm 19 = 1 ∧ returned final.dec.dpb.fbmCalls .fbm 19 = 0 ∧
        19 ∉ pictures final.dec.dpb .fbm := by
  constructor
  · decide +kernel
  · have observed :
        (runOps decoderExec (DecoderRun.start false false) longReferences).map (fun final =>
          (requested final.dec.dpb.fbmCalls .fbm 19, returned final.dec.dpb.fbmCalls .fbm 19,
            decide (19 ∉ pictures final.dec.dpb .fbm))) = some (1, 0, true) := by
      decide +kernel
    obtain ⟨final, run, books⟩ := map_eq_some_iff.mp observed
    simp only [Prod.mk.injEq, decide_eq_true_eq] at books
    exact ⟨final, run, books.1, books.2.1, books.2.2⟩

end CedarC.H265SlotOwnership
