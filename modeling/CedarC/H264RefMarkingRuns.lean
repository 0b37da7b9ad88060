import CedarC.GuardedRuns
import CedarC.H264MmcoSteps

/-!
# Runs of the H264 reference marking

The decoder as a state machine whose steps are the slice headers, the commands
of a marking one by one, the refresh of an IDR picture or a reset, a new SPS,
and whatever the output side does to the pictures once the current one is done.
-/

namespace CedarC.H264RefMarkingRuns

open FixedWidth GuardedRuns SlotTables H264RefMarking H264RefSets H264MmcoSteps Option List

inductive Phase
  | decoding
  | marking (rest : List H264MmcoInfo) (currentRefAssigned : Bool)
  | marked
deriving DecidableEq

/-- `settled` is set by the end of a marking and cleared by the next one and by
an SPS. -/
structure MarkingSystem where
  hCtx : H264Context
  phase : Phase
  settled : Bool

def MarkingSystem.start : MarkingSystem := ⟨H264Context.init, .decoding, false⟩

structure SliceInfo where
  nPicStructure : PicStructure
  nFrmNum : UInt32
  nLog2MaxFrmNum : UInt32
  bIdrFrmFlag : Bool

/-- `pVPicture` and `pScaleDownVPicture` say which buffers `H264FrameStart` gets,
`reference` whether `nNalRefIdc` is not 0. -/
inductive MarkingOp
  | frameStart (pic : Pic) (slice : SliceInfo) (reference pVPicture pScaleDownVPicture : Bool)
  | secondField (slice : SliceInfo)
  | slice (slice : SliceInfo)
  | decode (coded : MarkingSyntax)
  | startMarking
  | next
  | refresh
  | sps (nRefFrmCount : Int)
  | output (picture : Pic → H264PicInfo) (pDelayedPic : List Pic) (pDelayedOutPutPic : Option Pic)

/-- What a slice header writes for the picture that it belongs to. -/
def codeSlice (hCtx : H264Context) (slice : SliceInfo) (cur : Pic) : H264Context :=
  let isFrame := decide (slice.nPicStructure = .PICT_FRAME)
  { hCtx with
    picture := Function.update hCtx.picture cur
      { hCtx.picture cur with nFrmNum := s32 slice.nFrmNum.toNat }
    nPicStructure := slice.nPicStructure
    bIdrFrmFlag := slice.bIdrFrmFlag
    nCurPicNum := if isFrame then slice.nFrmNum else 2 * slice.nFrmNum + 1
    nMaxPicNum := if isFrame then 1 <<< slice.nLog2MaxFrmNum
      else 1 <<< (slice.nLog2MaxFrmNum + 1) }

/-- `H264GetValidBufferIndex` picks a picture without buffers. -/
def frameStart (hCtx : H264Context) (pic : Pic) (slice : SliceInfo)
    (reference pVPicture pScaleDownVPicture : Bool) : Option H264Context :=
  let info := hCtx.picture pic
  if info.pVPicture || info.pScaleDownVPicture then none
  else
    let hCtx := hCtx.setPicture pic { info with
      nReference := if reference then slice.nPicStructure.bits else 0
      pVPicture := pVPicture
      pScaleDownVPicture := pScaleDownVPicture
      bHasDispedFlag := false }
    some { codeSlice hCtx slice pic with
      pCurPicturePtr := some pic
      bFstField := decide (slice.nPicStructure ≠ .PICT_FRAME) }

def exec (system : MarkingSystem) : MarkingOp → Option MarkingSystem
  | .frameStart pic slice reference pVPicture pScaleDownVPicture =>
    match system.phase with
    | .marking _ _ => none
    | _ =>
      (frameStart system.hCtx pic slice reference pVPicture pScaleDownVPicture).map fun hCtx =>
        { system with hCtx := hCtx, phase := .decoding }
  | .secondField slice =>
    match system.phase, system.hCtx.pCurPicturePtr with
    | .marking _ _, _ | _, none => none
    | _, some cur =>
      if slice.nPicStructure = .PICT_FRAME ∨ system.hCtx.bFstField = false then none
      else
        some { system with
          hCtx := { codeSlice system.hCtx slice cur with bFstField := false }
          phase := .decoding }
  | .slice slice =>
    match system.phase, system.hCtx.pCurPicturePtr with
    | .decoding, some cur =>
      if slice.nPicStructure = system.hCtx.nPicStructure then
        some { system with hCtx := codeSlice system.hCtx slice cur }
      else none
    | _, _ => none
  | .decode coded =>
    match system.phase with
    | .decoding =>
      (H264DecodeRefPicMarking system.hCtx coded).map fun hCtx => { system with hCtx := hCtx }
    | _ => none
  | .startMarking =>
    match system.phase with
    | .decoding =>
      some { system with phase := .marking system.hCtx.mmco false, settled := false }
    | _ => none
  | .next =>
    match system.phase with
    | .marking (command :: rest) currentRefAssigned =>
      (executeMmco system.hCtx currentRefAssigned command).map
        fun (hCtx, currentRefAssigned) =>
          { hCtx := hCtx, phase := .marking rest currentRefAssigned, settled := false }
    | .marking [] currentRefAssigned =>
      (finishMarking system.hCtx currentRefAssigned).map fun hCtx =>
        { hCtx := hCtx, phase := .marked, settled := true }
    | _ => none
  | .refresh =>
    match system.phase with
    | .marking _ _ => none
    | _ => (H264ReferenceRefresh system.hCtx).map fun hCtx => { system with hCtx := hCtx }
  | .sps nRefFrmCount =>
    match system.phase with
    | .marking _ _ => none
    | _ =>
      some { system with
        hCtx := { system.hCtx with nRefFrmCount := nRefFrmCount }, settled := false }
  | .output picture pDelayedPic pDelayedOutPutPic =>
    match system.phase with
    | .marking _ _ => none
    | _ =>
      some { system with
        hCtx := { system.hCtx with
          picture := picture
          pDelayedPic := pDelayedPic
          pDelayedOutPutPic := pDelayedOutPutPic
          pCurPicturePtr := none } }

structure RefListsConsistent (system : MarkingSystem) : Prop where
  held : ∀ i, i < system.hCtx.nShortRefCount → (system.hCtx.pShortRef i).isSome
  shortApart : ∀ i j, i < system.hCtx.nShortRefCount → j < system.hCtx.nShortRefCount →
    system.hCtx.pShortRef i = system.hCtx.pShortRef j → i = j
  longCount : system.hCtx.nLongRefCount = used MAX_PICTURE_COUNT system.hCtx.pLongRef
  longApart : ∀ i j pic, system.hCtx.pLongRef i = some pic → system.hCtx.pLongRef j = some pic →
    i = j
  apart : ∀ i j pic, i < system.hCtx.nShortRefCount → system.hCtx.pShortRef i = some pic →
    system.hCtx.pLongRef j ≠ some pic
  bounded : system.settled = true →
    system.hCtx.nShortRefCount + system.hCtx.nLongRefCount ≤ max system.hCtx.nRefFrmCount 1

def leads (hCtx : H264Context) : Bool := !(hCtx.isField && !hCtx.bFstField)

/-- The current picture is in no long slot but the one that the command names. -/
def LongSafe (hCtx : H264Context) (bLongArg : Nat) : Prop :=
  leads hCtx = true → ∀ cur ∈ hCtx.pCurPicturePtr, ∀ i < MAX_PICTURE_COUNT, i ≠ bLongArg →
    hCtx.pLongRef i ≠ some cur

/-- At most one picture has to go when the current one is marked. -/
def FinishSafe (hCtx : H264Context) (currentRefAssigned : Bool) : Prop :=
  ∀ cur ∈ hCtx.pCurPicturePtr,
    hCtx.nShortRefCount + hCtx.nLongRefCount + gained hCtx cur currentRefAssigned ≤
      max hCtx.nRefFrmCount 1 + 1
deriving Decidable

def RefreshSafe (hCtx : H264Context) : Prop :=
  ∀ i < MAX_PICTURE_COUNT, hCtx.nLongRefCount ≤ i → hCtx.pLongRef i = none

def PickSafe (hCtx : H264Context) (pic : Pic) : Prop :=
  (∀ i < hCtx.nShortRefCount, hCtx.pShortRef i ≠ some pic) ∧
    ∀ i < MAX_PICTURE_COUNT, hCtx.pLongRef i ≠ some pic

def MarkingSafe (system : MarkingSystem) : MarkingOp → Prop
  | .frameStart pic _ _ _ _ => PickSafe system.hCtx pic
  | .next =>
    match system.phase with
    | .marking (.MMCO_LONG bLongArg :: _) _ => LongSafe system.hCtx bLongArg
    | .marking [] currentRefAssigned => FinishSafe system.hCtx currentRefAssigned
    | _ => True
  | .refresh => RefreshSafe system.hCtx
  | _ => True

instance (hCtx : H264Context) (bLongArg : Nat) : Decidable (LongSafe hCtx bLongArg) :=
  inferInstanceAs (Decidable (_ → _))

instance (hCtx : H264Context) : Decidable (RefreshSafe hCtx) :=
  inferInstanceAs (Decidable (∀ i < MAX_PICTURE_COUNT, _))

instance (hCtx : H264Context) (pic : Pic) : Decidable (PickSafe hCtx pic) :=
  inferInstanceAs (Decidable (_ ∧ _))

instance decidableMarkingSafe (system : MarkingSystem) :
    ∀ op, Decidable (MarkingSafe system op)
  | .frameStart pic _ _ _ _ => inferInstanceAs (Decidable (PickSafe system.hCtx pic))
  | .next =>
    match phase : system.phase with
    | .marking (.MMCO_LONG bLongArg :: _) _ =>
      decidable_of_iff (LongSafe system.hCtx bLongArg) (by simp [MarkingSafe, phase])
    | .marking [] currentRefAssigned =>
      decidable_of_iff (FinishSafe system.hCtx currentRefAssigned)
        (by simp [MarkingSafe, phase])
    | .marking (.MMCO_SHORT_TO_UNUSED _ :: _) _ | .marking (.MMCO_LONG_TO_UNUSED _ :: _) _
    | .marking (.MMCO_SHORT_TO_LONG _ _ :: _) _ | .marking (.MMCO_SET_MAX_LONG _ :: _) _
    | .marking (.MMCO_RESET :: _) _ | .marking (.unknown :: _) _ | .decoding | .marked =>
      isTrue (by simp [MarkingSafe, phase])
  | .refresh => inferInstanceAs (Decidable (RefreshSafe system.hCtx))
  | .secondField _ | .slice _ | .decode _ | .startMarking | .sps _ | .output _ _ _ =>
    isTrue trivial

section Decoding

variable {hCtx after : H264Context}

theorem long_arg_small {value : UInt32} {bLongArg : Nat}
    (accepted : longArg hCtx false value = some bLongArg) : bLongArg < 16 := by
  by_contra large
  have refused : value.toNat > 32 ∨
      (16 ≤ value.toNat ∧ ¬ (false = true ∧ hCtx.isField = true)) → False := by
    intro outside
    rw [longArg, if_pos outside] at accepted
    cases accepted
  unfold longArg at accepted
  rw [if_neg refused] at accepted
  obtain rfl := Option.some.inj accepted
  exact refused (Or.inr ⟨by omega, fun toUnused => Bool.false_ne_true toUnused.1⟩)

variable {mmco : List H264MmcoInfo}

theorem cons_coded {command : H264MmcoInfo} {rests : Option (List H264MmcoInfo)}
    (decoded : rests.map (fun rest => command :: rest) = some mmco)
    (head : Coded command) (tail : ∀ rest, rests = some rest → ∀ other ∈ rest, Coded other) :
    ∀ other ∈ mmco, Coded other := by
  obtain ⟨rest, found, rfl⟩ := map_eq_some_iff.mp decoded
  intro other member
  cases mem_cons.mp member with
  | inl same => exact same ▸ head
  | inr later => exact tail rest found other later

theorem decode_mmcos_coded {values : UeValues} (left pos : Nat)
    (decoded : decodeMmcos hCtx values left pos = some mmco) : ∀ command ∈ mmco, Coded command := by
  induction left generalizing pos mmco with
  | zero =>
    obtain rfl := Option.some.inj decoded
    simp
  | succ left ih =>
    have later : ∀ pos rest, decodeMmcos hCtx values left pos = some rest →
        ∀ command ∈ rest, Coded command := fun pos _ found => ih pos found
    unfold decodeMmcos at decoded
    split at decoded
    · obtain rfl := Option.some.inj decoded
      simp
    · exact cons_coded decoded trivial (later _)
    · obtain ⟨bLongArg, _, found⟩ := bind_eq_some_iff.mp decoded
      exact cons_coded found trivial (later _)
    · obtain ⟨bLongArg, accepted, found⟩ := bind_eq_some_iff.mp decoded
      exact cons_coded found (long_arg_small accepted) (later _)
    · obtain ⟨bLongArg, _, found⟩ := bind_eq_some_iff.mp decoded
      exact cons_coded found trivial (later _)
    · exact cons_coded decoded trivial (later _)
    · obtain ⟨bLongArg, accepted, found⟩ := bind_eq_some_iff.mp decoded
      exact cons_coded found (long_arg_small accepted) (later _)
    · exact cons_coded decoded trivial (later _)

theorem sliding_window_coded (decoded : slidingWindow hCtx = some mmco) :
    ∀ command ∈ mmco, Coded command := by
  unfold slidingWindow at decoded
  by_cases full : hCtx.nShortRefCount ≠ 0 ∧
      hCtx.nLongRefCount + hCtx.nShortRefCount = hCtx.nRefFrmCount
  · rw [if_pos full] at decoded
    obtain ⟨cur, _, window⟩ := bind_eq_some_iff.mp decoded
    split_ifs at window
    · obtain rfl := Option.some.inj window
      simp
    all_goals
      obtain ⟨pic, _, rfl⟩ := map_eq_some_iff.mp window
      simp [Coded]
  · rw [if_neg full] at decoded
    obtain rfl := Option.some.inj decoded
    simp

theorem decode_marking_spec {coded : MarkingSyntax}
    (decoded : H264DecodeRefPicMarking hCtx coded = some after) :
    ∃ mmco, after = { hCtx with mmco := mmco } ∧ ∀ command ∈ mmco, Coded command := by
  unfold H264DecodeRefPicMarking at decoded
  by_cases idr : hCtx.bIdrFrmFlag = true
  · rw [if_pos idr] at decoded
    obtain rfl := Option.some.inj decoded
    refine ⟨_, rfl, ?_⟩
    split_ifs <;> simp [Coded]
  rw [if_neg idr] at decoded
  by_cases adaptive : coded.adaptiveFlag = true
  · rw [if_pos adaptive] at decoded
    obtain rfl := Option.some.inj decoded
    refine ⟨_, rfl, ?_⟩
    cases list : decodeMmcos hCtx coded.values MAX_MMCO_COUNT 0 with
    | none => simp
    | some mmco => exact decode_mmcos_coded MAX_MMCO_COUNT 0 list
  · rw [if_neg adaptive] at decoded
    obtain ⟨mmco, window, rfl⟩ := map_eq_some_iff.mp decoded
    exact ⟨mmco, rfl, sliding_window_coded window⟩

end Decoding

section Invariant

/-- Where the current picture of a frame or a first field may be. -/
def Unplaced (refs : RefSet Pic) (cur : Pic) : Phase → Prop
  | .decoding => ¬ refs.Listed cur
  | .marking _ currentRefAssigned =>
    cur ∉ refs.short ∧ (currentRefAssigned = false → ¬ refs.Listed cur)
  | .marked => True

structure Tracks (system : MarkingSystem) (refs : RefSet Pic) : Prop where
  represents : Represents system.hCtx refs
  reference : ∀ cur, system.hCtx.pCurPicturePtr = some cur → refs.Listed cur →
    (system.hCtx.picture cur).nReference ≠ 0
  unplaced : leads system.hCtx = true → ∀ cur, system.hCtx.pCurPicturePtr = some cur →
    Unplaced refs cur system.phase
  coded : ∀ command ∈ system.hCtx.mmco, Coded command
  pending : ∀ rest assigned, system.phase = .marking rest assigned → ∀ command ∈ rest, Coded command
  bounded : system.settled = true → (refs.size : Int) ≤ max system.hCtx.nRefFrmCount 1

variable {system next : MarkingSystem} {refs : RefSet Pic}

theorem start_tracks : Tracks MarkingSystem.start RefSet.empty where
  represents := by
    refine ⟨rfl, front_nil _, rfl, ?_⟩
    have none := @used_eq_zero Pic MAX_PICTURE_COUNT RefSet.empty.long
    rw [none.mpr fun _ _ => rfl]
    rfl
  reference := by
    intro cur none
    cases none
  unplaced := by
    intro _ cur none
    cases none
  coded := by
    intro command member
    cases member
  pending := by
    intro rest assigned phase
    cases phase
  bounded := by
    intro settled
    cases settled

theorem tracks_consistent (kept : Tracks system refs) : RefListsConsistent system := by
  have count := kept.represents.shortCount
  have front := kept.represents.front
  have longCount := kept.represents.longCount
  have long := kept.represents.long
  constructor
  · intro i inside
    rw [front i (by omega), List.getElem?_eq_getElem (by omega)]
    rfl
  · intro i j first second same
    rw [front i (by omega), front j (by omega)] at same
    exact (List.getElem?_inj (by omega) refs.nodup).mp same
  · rw [long]
    exact longCount
  · rw [long]
    exact refs.injective
  · intro i j pic inside here there
    rw [front i (by omega)] at here
    rw [long] at there
    exact refs.apart j pic there (mem_of_getElem? here)
  · intro settled
    have bounded := kept.bounded settled
    have size : refs.size = refs.short.length + used MAX_PICTURE_COUNT refs.long := rfl
    omega

variable {slice : SliceInfo} {assigned : Bool} {after : H264Context} {pic : Pic}
  {rest : List H264MmcoInfo} {bLongArg : Nat}

theorem pick_unlisted (kept : Represents system.hCtx refs)
    (safe : PickSafe system.hCtx pic) : ¬ refs.Listed pic := by
  intro listed
  cases listed with
  | inl short =>
    obtain ⟨i, inside, held⟩ := (front_holds kept.front).mpr short
    exact safe.1 i (by rw [kept.shortCount]; exact inside) held
  | inr long =>
    obtain ⟨i, held⟩ := long
    have inside := long_slot_inside held
    exact safe.2 i (by unfold MAX_PICTURE_COUNT; omega) (by rw [kept.long]; exact held)

theorem frame_start_tracks {reference frameBuffer scaled : Bool}
    (kept : Tracks system refs) (safe : PickSafe system.hCtx pic)
    (step : exec system (.frameStart pic slice reference frameBuffer scaled) = some next) :
    Tracks next refs := by
  have unlisted := pick_unlisted kept.represents safe
  have started : ∃ hCtx, frameStart system.hCtx pic slice reference frameBuffer scaled = some hCtx ∧
      next = { system with hCtx := hCtx, phase := .decoding } := by
    simp only [exec] at step
    split at step
    · cases step
    · obtain ⟨hCtx, start, rfl⟩ := map_eq_some_iff.mp step
      exact ⟨hCtx, start, rfl⟩
  obtain ⟨hCtx, start, rfl⟩ := started
  unfold frameStart at start
  dsimp only at start
  by_cases busy : ((system.hCtx.picture pic).pVPicture ||
      (system.hCtx.picture pic).pScaleDownVPicture) = true
  · rw [if_pos busy] at start
    cases start
  rw [if_neg busy] at start
  obtain rfl := Option.some.inj start
  refine ⟨represents_of_same kept.represents rfl rfl rfl rfl, ?_, ?_, kept.coded, ?_, kept.bounded⟩
  · intro cur current listed
    obtain rfl : pic = cur := Option.some.inj current
    exact absurd listed unlisted
  · intro _ cur current
    obtain rfl : pic = cur := Option.some.inj current
    exact unlisted
  · intro rest assigned phase
    cases phase

theorem code_slice_reference (hCtx : H264Context) (slice : SliceInfo) (cur : Pic) :
    ((codeSlice hCtx slice cur).picture cur).nReference = (hCtx.picture cur).nReference := by
  simp [codeSlice]

variable (kept : Tracks system refs)

include kept

theorem second_field_tracks
    (step : exec system (.secondField slice) = some next) : Tracks next refs := by
  simp only [exec] at step
  split at step
  · cases step
  · cases step
  · rename_i cur current _
    split_ifs at step with refused
    obtain rfl := Option.some.inj step
    refine ⟨represents_of_same kept.represents rfl rfl rfl rfl, ?_, ?_, kept.coded, ?_,
      kept.bounded⟩
    · intro other same listed
      obtain rfl : cur = other := Option.some.inj (current.symm.trans same)
      have reference := kept.reference cur current listed
      rw [← code_slice_reference system.hCtx slice cur] at reference
      exact reference
    · intro leading
      simp [leads, H264Context.isField, codeSlice] at leading
      exact absurd (Or.inl leading) refused
    · intro rest assigned phase
      cases phase

theorem slice_tracks
    (step : exec system (.slice slice) = some next) : Tracks next refs := by
  simp only [exec] at step
  split at step
  · rename_i cur phase current
    split_ifs at step with same
    obtain rfl := Option.some.inj step
    refine ⟨represents_of_same kept.represents rfl rfl rfl rfl, ?_, ?_, kept.coded, ?_,
      kept.bounded⟩
    · intro other equal listed
      obtain rfl : cur = other := Option.some.inj (current.symm.trans equal)
      have reference := kept.reference cur current listed
      rw [← code_slice_reference system.hCtx slice cur] at reference
      exact reference
    · intro leading other equal
      have leadsBefore : leads system.hCtx = true := by
        simpa only [leads, H264Context.isField, codeSlice, same] using leading
      exact kept.unplaced leadsBefore other equal
    · exact kept.pending
  · cases step

theorem decode_tracks {coded : MarkingSyntax}
    (step : exec system (.decode coded) = some next) : Tracks next refs := by
  simp only [exec] at step
  split at step
  · obtain ⟨hCtx, decoded, rfl⟩ := map_eq_some_iff.mp step
    obtain ⟨mmco, rfl, bounded⟩ := decode_marking_spec decoded
    exact ⟨represents_of_same kept.represents rfl rfl rfl rfl, kept.reference, kept.unplaced,
      bounded, kept.pending, kept.bounded⟩
  · cases step

theorem start_marking_tracks
    (step : exec system .startMarking = some next) : Tracks next refs := by
  simp only [exec] at step
  split at step
  · rename_i phase
    obtain rfl := Option.some.inj step
    refine ⟨kept.represents, kept.reference, ?_, kept.coded, ?_, ?_⟩
    · intro leading cur current
      have unlisted := kept.unplaced leading cur current
      rw [phase] at unlisted
      exact ⟨fun short => unlisted (Or.inl short), fun _ => unlisted⟩
    · intro rest assigned same
      obtain ⟨rfl, rfl⟩ := Phase.marking.inj same
      exact kept.coded
    · intro settled
      cases settled
  · cases step

theorem shrinking_command_tracks {command : H264MmcoInfo} {left : RefSet Pic}
    (phase : system.phase = .marking (command :: rest) assigned)
    (shrunk : Shrinks system.hCtx refs after left) :
    Tracks ⟨after, .marking rest assigned, false⟩ left := by
  have same := shrunk.same
  refine ⟨shrunk.represents, ?_, ?_, ?_, ?_, ?_⟩
  · intro cur current listed
    exact shrunk.reference cur listed
      (kept.reference cur (same.cur.symm.trans current) (shrunk.listed listed))
  · intro leading cur current
    have leadsBefore : leads system.hCtx = true := by
      simpa only [leads, H264Context.isField, same.coded, same.first] using leading
    have earlier := kept.unplaced leadsBefore cur (same.cur.symm.trans current)
    rw [phase] at earlier
    exact ⟨fun short => earlier.1 (shrunk.short cur short),
      fun unassigned listed => earlier.2 unassigned (shrunk.listed listed)⟩
  · show ∀ other ∈ after.mmco, Coded other
    rw [same.mmco]
    exact kept.coded
  · intro others flag equal
    obtain ⟨rfl, rfl⟩ := Phase.marking.inj equal
    intro other member
    exact kept.pending _ _ phase other (mem_cons_of_mem command member)
  · intro settled
    cases settled

omit kept

theorem takes_slot_unlisted {cur : Pic}
    (reference : refs.Listed cur → (system.hCtx.picture cur).nReference ≠ 0)
    (follows : leads system.hCtx = false)
    (takes : takesSlot system.hCtx cur bLongArg = true) : ¬ refs.Listed cur := by
  intro listed
  have marked := reference listed
  simp only [leads, Bool.not_eq_false'] at follows
  simp [takesSlot, follows, marked] at takes

variable (kept : Tracks system refs)

include kept

theorem long_command_tracks (phase : system.phase = .marking (.MMCO_LONG bLongArg :: rest) assigned)
    (safe : LongSafe system.hCtx bLongArg) (step : long system.hCtx bLongArg = some after) :
    ∃ left, Tracks ⟨after, .marking rest true, false⟩ left := by
  have inside : bLongArg < 16 := kept.pending _ _ phase _ (mem_cons_self)
  have started : ∃ cur, system.hCtx.pCurPicturePtr = some cur := by
    cases current : system.hCtx.pCurPicturePtr with
    | none =>
      unfold long at step
      split_ifs at step
      rw [current] at step
      cases step
    | some cur => exact ⟨cur, rfl⟩
  obtain ⟨cur, current⟩ := started
  have free : takesSlot system.hCtx cur bLongArg = true →
      cur ∉ refs.short ∧ ∀ i, i ≠ bLongArg → refs.long i ≠ some cur := by
    intro takes
    cases leading : leads system.hCtx with
    | true =>
      have unplaced := kept.unplaced leading cur current
      rw [phase] at unplaced
      refine ⟨unplaced.1, ?_⟩
      intro i apart held
      have below := long_slot_inside held
      rw [← kept.represents.long] at held
      exact safe leading cur current i (by unfold MAX_PICTURE_COUNT; omega) apart held
    | false =>
      have unlisted := takes_slot_unlisted (kept.reference cur current) leading takes
      exact ⟨fun short => unlisted (Or.inl short), fun i _ held => unlisted (Or.inr ⟨i, held⟩)⟩
  obtain ⟨left, entered, short⟩ := long_spec kept.represents current inside free step
  have same := entered.same
  refine ⟨left, entered.represents, ?_, ?_, ?_, ?_, ?_⟩
  · intro other now _
    obtain rfl : cur = other := Option.some.inj (current.symm.trans (same.cur.symm.trans now))
    exact entered.reference
  · intro leading other now
    have leadsBefore : leads system.hCtx = true := by
      simpa only [leads, H264Context.isField, same.coded, same.first] using leading
    have earlier := kept.unplaced leadsBefore other (same.cur.symm.trans now)
    rw [phase] at earlier
    refine ⟨fun listed => earlier.1 (short other listed), ?_⟩
    intro impossible
    cases impossible
  · show ∀ other ∈ after.mmco, Coded other
    rw [same.mmco]
    exact kept.coded
  · intro others flag equal
    obtain ⟨rfl, rfl⟩ := Phase.marking.inj equal
    intro other member
    exact kept.pending _ _ phase other (mem_cons_of_mem _ member)
  · intro settled
    cases settled

theorem finish_tracks
    (phase : system.phase = .marking [] assigned) (safe : FinishSafe system.hCtx assigned)
    (step : finishMarking system.hCtx assigned = some after) :
    ∃ left, Tracks ⟨after, .marked, true⟩ left := by
  have shortCount := kept.represents.shortCount
  have longCount := kept.represents.longCount
  have started : ∃ cur, system.hCtx.pCurPicturePtr = some cur := by
    obtain ⟨cur, current, _⟩ := bind_eq_some_iff.mp step
    exact ⟨cur, current⟩
  obtain ⟨cur, current⟩ := started
  have unlisted : inserts system.hCtx cur assigned = true → ¬ refs.Listed cur := by
    intro insertion listed
    have marked := kept.reference cur current listed
    simp only [inserts, Bool.and_eq_true, Bool.not_eq_true'] at insertion
    cases leading : leads system.hCtx with
    | true =>
      have unplaced := kept.unplaced leading cur current
      rw [phase] at unplaced
      exact unplaced.2 insertion.1 listed
    | false =>
      simp only [leads, Bool.not_eq_false'] at leading
      simp [continuesReference, leading, marked] at insertion
  have room : (refs.size + gained system.hCtx cur assigned : Int) ≤
      max system.hCtx.nRefFrmCount 1 + 1 := by
    have allowed := safe cur current
    have size : refs.size = refs.short.length + used MAX_PICTURE_COUNT refs.long := rfl
    omega
  obtain ⟨left, represents, same, reference, bounded⟩ :=
    finish_marking_spec kept.represents current (kept.reference cur current) unlisted room step
  refine ⟨left, represents, ?_, ?_, ?_, ?_, fun _ => bounded⟩
  · intro other now
    obtain rfl : cur = other := Option.some.inj (current.symm.trans (same.cur.symm.trans now))
    exact reference
  · intro _ other _
    trivial
  · show ∀ other ∈ after.mmco, Coded other
    rw [same.mmco]
    exact kept.coded
  · intro rest flag impossible
    cases impossible

theorem refresh_tracks (safe : RefreshSafe system.hCtx)
    (step : exec system .refresh = some next) : ∃ left, Tracks next left := by
  have refreshed : ∃ after, H264ReferenceRefresh system.hCtx = some after ∧
      next = { system with hCtx := after } ∧
      ∀ rest assigned, system.phase ≠ .marking rest assigned := by
    simp only [exec] at step
    split at step
    · cases step
    · rename_i idle
      obtain ⟨after, refresh, rfl⟩ := map_eq_some_iff.mp step
      exact ⟨after, refresh, rfl, idle⟩
  obtain ⟨after, refresh, rfl, idle⟩ := refreshed
  obtain ⟨represents, same⟩ := reference_refresh_spec kept.represents safe refresh
  have unlisted : ∀ pic, ¬ (RefSet.empty : RefSet Pic).Listed pic := by
    intro pic listed
    cases listed with
    | inl short => cases short
    | inr long =>
      obtain ⟨i, held⟩ := long
      cases held
  refine ⟨RefSet.empty, represents, ?_, ?_, ?_, kept.pending, ?_⟩
  · intro cur _ listed
    exact absurd listed (unlisted cur)
  · intro _ cur _
    cases phase : system.phase with
    | decoding => exact unlisted cur
    | marking rest assigned => exact absurd phase (idle rest assigned)
    | marked => trivial
  · show ∀ other ∈ after.mmco, Coded other
    rw [same.mmco]
    exact kept.coded
  · intro _
    have none := @used_eq_zero Pic MAX_PICTURE_COUNT RefSet.empty.long
    have size : (RefSet.empty : RefSet Pic).size = 0 := none.mpr fun _ _ => rfl
    rw [size]
    exact Int.le_trans (by decide) (Int.le_max_right _ _)

theorem next_tracks (safe : MarkingSafe system .next)
    (step : exec system .next = some next) : ∃ left, Tracks next left := by
  cases phase : system.phase with
  | decoding | marked =>
    simp only [exec, phase] at step
    cases step
  | marking pending assigned =>
    simp only [MarkingSafe, phase] at safe
    simp only [exec, phase] at step
    cases pending with
    | nil =>
      obtain ⟨after, finished, rfl⟩ := map_eq_some_iff.mp step
      exact finish_tracks kept phase safe finished
    | cons command rest =>
      obtain ⟨⟨after, nowAssigned⟩, executed, rfl⟩ := map_eq_some_iff.mp step
      by_cases isLong : ∃ bLongArg, command = .MMCO_LONG bLongArg
      · obtain ⟨bLongArg, rfl⟩ := isLong
        obtain ⟨placed, place, equal⟩ := map_eq_some_iff.mp executed
        obtain ⟨rfl, rfl⟩ := Prod.mk.inj equal
        exact long_command_tracks kept phase safe place
      · have coded := kept.pending _ _ phase command mem_cons_self
        obtain ⟨rfl, left, shrunk⟩ := execute_shrinks kept.represents coded
          (fun bLongArg same => isLong ⟨bLongArg, same⟩) executed
        exact ⟨left, shrinking_command_tracks kept phase shrunk⟩

theorem sps_tracks {nRefFrmCount : Int}
    (step : exec system (.sps nRefFrmCount) = some next) : Tracks next refs := by
  simp only [exec] at step
  split at step
  · cases step
  · obtain rfl := Option.some.inj step
    refine ⟨represents_of_same kept.represents rfl rfl rfl rfl, kept.reference, kept.unplaced,
      kept.coded, kept.pending, ?_⟩
    intro settled
    cases settled

theorem output_tracks {picture : Pic → H264PicInfo} {delayed : List Pic} {out : Option Pic}
    (step : exec system (.output picture delayed out) = some next) :
    Tracks next refs := by
  simp only [exec] at step
  split at step
  · cases step
  · obtain rfl := Option.some.inj step
    refine ⟨represents_of_same kept.represents rfl rfl rfl rfl, ?_, ?_, kept.coded, kept.pending,
      kept.bounded⟩
    · intro cur none
      cases none
    · intro _ cur none
      cases none

theorem exec_tracks {op : MarkingOp} (safe : MarkingSafe system op)
    (step : exec system op = some next) : ∃ left, Tracks next left := by
  cases op with
  | frameStart pic slice reference frameBuffer scaled =>
    exact ⟨refs, frame_start_tracks kept safe step⟩
  | secondField slice => exact ⟨refs, second_field_tracks kept step⟩
  | slice slice => exact ⟨refs, slice_tracks kept step⟩
  | decode coded => exact ⟨refs, decode_tracks kept step⟩
  | startMarking => exact ⟨refs, start_marking_tracks kept step⟩
  | next => exact next_tracks kept safe step
  | refresh => exact refresh_tracks kept safe step
  | sps nRefFrmCount => exact ⟨refs, sps_tracks kept step⟩
  | output picture delayed out => exact ⟨refs, output_tracks kept step⟩

end Invariant

theorem ref_lists_consistent_in_safe_runs (ops : List MarkingOp) (final : MarkingSystem)
    (safe : StepsMeet MarkingSafe exec MarkingSystem.start ops)
    (run : runOps exec MarkingSystem.start ops = some final) : RefListsConsistent final := by
  have tracked := @guarded_run_invariant _ _ MarkingSafe exec
    (fun system => ∃ refs, Tracks system refs)
    (fun _ _ _ kept guard step => exec_tracks kept.choose_spec guard step)
    _ _ _ ⟨RefSet.empty, start_tracks⟩ safe run
  obtain ⟨refs, kept⟩ := tracked
  exact tracks_consistent kept

def frameSlice (nFrmNum : UInt32) (bIdrFrmFlag : Bool) : SliceInfo :=
  ⟨.PICT_FRAME, nFrmNum, 4, bIdrFrmFlag⟩

def markedFrame (pic : Fin 32) (slice : SliceInfo) (coded : MarkingSyntax) (commands : Nat) :
    List MarkingOp :=
  [.frameStart pic slice true true false, .decode coded, .startMarking] ++
    List.replicate (commands + 1) .next

def noCommands : MarkingSyntax := ⟨false, false, fun _ => 0⟩

/-- An IDR frame kept as long-term picture 0, a frame, a field pair that pushes
the frame out, and the next IDR frame. -/
def safeMarkings : List MarkingOp :=
  [.sps 2, .refresh] ++ markedFrame 0 (frameSlice 0 true) ⟨true, false, fun _ => 0⟩ 1 ++
    markedFrame 1 (frameSlice 1 false) noCommands 0 ++
    markedFrame 2 ⟨.PICT_TOP_FIELD, 2, 4, false⟩ noCommands 2 ++
    [.secondField ⟨.PICT_BOTTOM_FIELD, 2, 4, false⟩, .decode noCommands, .startMarking, .next,
      .refresh] ++
    markedFrame 3 (frameSlice 0 true) noCommands 0

theorem safe_markings_consistent :
    ∃ final, runOps exec MarkingSystem.start safeMarkings = some final ∧
      RefListsConsistent final := by
  have ends : (runOps exec MarkingSystem.start safeMarkings).isSome = true := by decide
  obtain ⟨final, run⟩ := isSome_iff_exists.mp ends
  exact ⟨final, run, ref_lists_consistent_in_safe_runs safeMarkings final (by decide) run⟩

/-- A frame is kept as long-term picture 5 before the next IDR picture. -/
def sparseLongSlot : List MarkingOp :=
  [.sps 4] ++
    markedFrame 0 (frameSlice 1 false) ⟨false, true, fun pos => [6, 5].getD pos 0⟩ 1 ++ [.refresh]

theorem refresh_misses_sparse_slot :
    ∃ final, runOps exec MarkingSystem.start sparseLongSlot = some final ∧
      ¬ RefListsConsistent final := by
  have observed : (runOps exec MarkingSystem.start sparseLongSlot).map
      (fun final => (final.hCtx.nLongRefCount, used MAX_PICTURE_COUNT final.hCtx.pLongRef)) =
        some (0, 1) := by decide
  obtain ⟨final, run, counts⟩ := map_eq_some_iff.mp observed
  refine ⟨final, run, ?_⟩
  intro consistent
  have counted : final.hCtx.nLongRefCount = 0 := congrArg Prod.fst counts
  have held : used MAX_PICTURE_COUNT final.hCtx.pLongRef = 1 := congrArg Prod.snd counts
  have equal := consistent.longCount
  rw [counted, held] at equal
  exact absurd equal (by decide)

end CedarC.H264RefMarkingRuns
