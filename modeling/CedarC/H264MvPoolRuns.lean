import CedarC.GuardedRuns
import CedarC.H264MvPoolKept

/-!
# Runs of pictures over the motion vector buffers

The control of the slice header says which picture is in hand between two
slices. Every way through the header leaves the pool alone or starts a picture
with a node; behind it the picture goes on, or it is marked and sorted. With the
pool kept by each of these, it is parted between the queue and the owners in
every state of a run whose slices meet the guard.
-/

namespace CedarC.H264MvPool

open CedarC.LinkedQueue CedarC.NodePool CedarC.GuardedRuns Option

section Header

def Control.held (c : Control) : Option Nat :=
  if c.bDecStarted = true ∨ c.bFstField = 1 then c.pCurPicturePtr else none

structure ControlKept (c : Control) : Prop where
  started : c.bDecStarted = true → c.nCurSliceNum ≠ 0 ∧ c.pCurPicturePtr.isSome = true
  idle : c.bDecStarted = false → c.nCurSliceNum = 0
  field : c.bFstField = 1 → c.nPicStructure ≠ PICT_FRAME ∧ c.pCurPicturePtr.isSome = true
  notDropped : c.bLastDropBFrame = false

/-- What the header does not touch in front of `H264FrameStart`. -/
structure SamePool (h next : H264Context) : Prop where
  num : next.nH264MvBufNum = h.nH264MvBufNum
  queue : next.pH264MvBufEmptyQueue = h.pH264MvBufEmptyQueue
  inf : next.pH264MvBufInf = h.pH264MvBufInf
  picture : next.picture = h.picture
  separate : next.bSeparateOutput = h.bSeparateOutput
  current : next.pCurPicturePtr = h.pCurPicturePtr

variable {nalu : SliceNalu} {h next : H264Context} {held : Option Nat}

theorem SamePool.refl (h : H264Context) : SamePool h h := ⟨rfl, rfl, rfl, rfl, rfl, rfl⟩

variable {exit : Exit} {middle : H264Context} {nLastFrmNum lastPicStructure : Nat}

theorem SamePool.trans (first : SamePool h middle)
    (second : SamePool middle next) : SamePool h next :=
  ⟨second.num.trans first.num, second.queue.trans first.queue, second.inf.trans first.inf,
    second.picture.trans first.picture, second.separate.trans first.separate,
    second.current.trans first.current⟩

theorem kept_of_same (same : SamePool h next) (kept : Kept h held) : Kept next held := by
  unfold Kept PoolKept Displayable hasDisplayBuffer at kept ⊢
  rw [same.num, same.queue, same.inf, same.picture, same.separate]
  exact kept

structure Finishes (c : Control) (held : Option Nat) : Prop where
  current : c.pCurPicturePtr = held
  some : held.isSome = true
  idle : c.nCurSliceNum = 0
  field : c.bFstField = 1 → c.nPicStructure ≠ PICT_FRAME
  notDropped : c.bLastDropBFrame = false

def Ends (h : H264Context) (held : Option Nat) : Exit → Prop
  | (next, .VRESULT_DEC_FRAME_ERROR) => SamePool h next ∧ Finishes next.control held
  | (next, .VDECODE_RESULT_CONTINUE) => next.bLastDropBFrame = false
  | (next, .VRESULT_ERR_FAIL) =>
    SamePool h next ∧ ControlKept next.control ∧ next.control.held = held
  | (_, _) => False

theorem held_started (started : h.bDecStarted = true) : h.control.held = h.pCurPicturePtr :=
  if_pos (.inl started)

theorem held_field (field : h.bFstField = 1) : h.control.held = h.pCurPicturePtr :=
  if_pos (.inr field)

theorem held_idle (idle : h.bDecStarted = false) (field : h.bFstField ≠ 1) :
    h.control.held = none := by
  apply if_neg
  rintro (started | isField)
  · rw [show h.control.bDecStarted = h.bDecStarted from rfl, idle] at started
    cases started
  · exact field isField

theorem check_new_frame_ok (calm : ControlKept h.control) (ok : h264CheckNewFrame h = .ok next) :
    next = h ∧ h.bDecStarted = false := by
  unfold h264CheckNewFrame at ok
  cases started : h.bDecStarted with
  | false =>
    rw [started] at ok
    exact ⟨(Except.ok.inj ok).symm, rfl⟩
  | true =>
    obtain ⟨slot, current⟩ := isSome_iff_exists.mp (calm.started started).2
    change h.pCurPicturePtr = some slot at current
    rw [started, current] at ok
    dsimp only at ok
    split at ok
    · cases ok
    · cases ok

theorem check_new_frame_error (calm : ControlKept h.control)
    (error : h264CheckNewFrame h = .error exit) : Ends h h.control.held exit := by
  unfold h264CheckNewFrame at error
  split at error
  · rename_i slot started current
    have held := held_started started
    have isSome : h.control.held.isSome = true := by
      rw [held, current]
      rfl
    split at error
    all_goals
      obtain rfl := Except.error.inj error
      refine ⟨⟨rfl, rfl, rfl, rfl, rfl, rfl⟩, held.symm, isSome, rfl, ?_, calm.notDropped⟩
      intro field
      exact (calm.field field).1
  · cases error

/-- A stage of the header that goes on with the same picture in hand. -/
structure GoesOn (h next : H264Context) : Prop where
  same : SamePool h next
  calm : ControlKept next.control
  held : next.control.held = h.control.held
  started : next.bDecStarted = h.bDecStarted

theorem GoesOn.trans (first : GoesOn h middle) (second : GoesOn middle next) : GoesOn h next :=
  ⟨first.same.trans second.same, second.calm, second.held.trans first.held,
    second.started.trans first.started⟩

theorem ends_after (first : GoesOn h middle)
    (ends : Ends middle middle.control.held exit) : Ends h h.control.held exit := by
  obtain ⟨after, ret⟩ := exit
  rw [first.held] at ends
  cases ret with
  | VRESULT_DEC_FRAME_ERROR | VRESULT_ERR_FAIL => exact ⟨first.same.trans ends.1, ends.2⟩
  | VDECODE_RESULT_CONTINUE | VDECODE_RESULT_OK | VDECODE_RESULT_NO_FRAME_BUFFER
  | VRESULT_DROP_B_FRAME => exact ends

variable (calm : ControlKept h.control)

include calm

theorem new_picture_ok (ok : newPicture nalu h = .ok next) :
    GoesOn h next ∧ (nalu.bFstMbInSlice = 0 → next.bDecStarted = false) := by
  unfold newPicture at ok
  split at ok
  · cases checked : h264CheckNewFrame h with
    | error exit =>
      rw [checked] at ok
      cases ok
    | ok middle =>
      rw [checked] at ok
      obtain ⟨rfl, idle⟩ := check_new_frame_ok calm checked
      obtain rfl := Except.ok.inj ok
      refine ⟨⟨⟨rfl, rfl, rfl, rfl, rfl, rfl⟩, ?_, rfl, rfl⟩, fun _ => idle⟩
      refine ⟨?_, fun _ => rfl, calm.field, calm.notDropped⟩
      intro started
      cases idle.symm.trans started
  · rename_i continues
    obtain rfl := Except.ok.inj ok
    refine ⟨⟨SamePool.refl h, calm, rfl, rfl⟩, ?_⟩
    intro first
    exact absurd (.inl first) continues

theorem new_picture_error
    (error : newPicture nalu h = .error exit) : Ends h h.control.held exit := by
  unfold newPicture at error
  split at error
  · cases checked : h264CheckNewFrame h with
    | error exit =>
      rw [checked] at error
      obtain rfl := Except.error.inj error
      exact check_new_frame_error calm checked
    | ok middle =>
      rw [checked] at error
      cases error
  · cases error

theorem leave_early_ok (ok : leaveEarly nalu h = .ok next) : GoesOn h next := by
  unfold leaveEarly at ok
  split at ok
  · cases ok
  · split at ok
    · cases ok
    · obtain rfl := Except.ok.inj ok
      exact ⟨⟨rfl, rfl, rfl, rfl, rfl, rfl⟩, calm, rfl, rfl⟩

theorem leave_early_error
    (error : leaveEarly nalu h = .error exit) : Ends h h.control.held exit := by
  unfold leaveEarly at error
  split at error
  · rename_i dropped
    cases calm.notDropped.symm.trans dropped.2.2
  · split at error
    · obtain rfl := Except.error.inj error
      exact ⟨SamePool.refl h, calm, rfl⟩
    · cases error

theorem check_frame_num_ok (ok : checkFrameNum nalu h = .ok next) : GoesOn h next := by
  have renumbered : GoesOn h { h with nFrmNum := nalu.nFrmNum } :=
    ⟨⟨rfl, rfl, rfl, rfl, rfl, rfl⟩, calm, rfl, rfl⟩
  unfold checkFrameNum at ok
  dsimp only at ok
  split at ok
  · cases checked : h264CheckNewFrame { h with nFrmNum := nalu.nFrmNum } with
    | error exit =>
      rw [checked] at ok
      cases ok
    | ok middle =>
      rw [checked] at ok
      obtain ⟨rfl, -⟩ := check_new_frame_ok renumbered.calm checked
      dsimp only at ok
      split at ok
      · cases ok
      · split at ok
        · cases ok
        · obtain rfl := Except.ok.inj ok
          exact renumbered
  · obtain rfl := Except.ok.inj ok
    exact renumbered

theorem check_frame_num_error
    (error : checkFrameNum nalu h = .error exit) : Ends h h.control.held exit := by
  have renumbered : GoesOn h { h with nFrmNum := nalu.nFrmNum } :=
    ⟨⟨rfl, rfl, rfl, rfl, rfl, rfl⟩, calm, rfl, rfl⟩
  unfold checkFrameNum at error
  dsimp only at error
  split at error
  · cases checked : h264CheckNewFrame { h with nFrmNum := nalu.nFrmNum } with
    | error exit =>
      rw [checked] at error
      obtain rfl := Except.error.inj error
      exact ends_after renumbered (check_new_frame_error renumbered.calm checked)
    | ok middle =>
      rw [checked] at error
      obtain ⟨rfl, idle⟩ := check_new_frame_ok renumbered.calm checked
      dsimp only at error
      split at error
      · rename_i waiting
        obtain rfl := Except.error.inj error
        have held := held_field waiting.1
        have isSome := (calm.field waiting.1).2
        refine ⟨⟨rfl, rfl, rfl, rfl, rfl, rfl⟩, held.symm, ?_, calm.idle idle, ?_, calm.notDropped⟩
        · rw [show h.control.held = h.pCurPicturePtr from held]
          exact isSome
        · intro field
          cases field
      · split at error
        · obtain rfl := Except.error.inj error
          exact calm.notDropped
        · cases error
  · cases error

theorem started_iff : h.bDecStarted = true ↔ h.nCurSliceNum ≠ 0 := by
  constructor
  · intro started
    exact (calm.started started).1
  · intro later
    cases started : h.bDecStarted with
    | true => rfl
    | false => exact absurd (calm.idle started) later

theorem broken_fields_end (field : h.bFstField = 1) (slot : Nat) : Ends h h.control.held
      ({ (brokenFields h slot).1 with bLastMbInSlice := 0, nCurSliceNum := 0 },
        .VRESULT_DEC_FRAME_ERROR) := by
  have held : h.control.held = h.pCurPicturePtr := held_field field
  refine ⟨⟨rfl, rfl, rfl, rfl, rfl, rfl⟩, held.symm, ?_, rfl, ?_, calm.notDropped⟩
  · rw [held]
    exact (calm.field field).2
  · intro again
    cases again

theorem read_structure_ok (first : nalu.bFstMbInSlice = 0 → h.bDecStarted = false)
    (ok : readStructure nalu h = .ok next) : GoesOn h next := by
  unfold readStructure at ok
  dsimp only at ok
  split at ok
  · obtain rfl := Except.ok.inj ok
    exact ⟨SamePool.refl h, calm, rfl, rfl⟩
  · rename_i isFirst
    have idle := first (by simpa using isFirst)
    split at ok
    · cases ok
    · rename_i fits
      obtain rfl := Except.ok.inj ok
      refine ⟨⟨rfl, rfl, rfl, rfl, rfl, rfl⟩, ⟨?_, calm.idle, ?_, calm.notDropped⟩, rfl, rfl⟩
      · intro started
        cases idle.symm.trans started
      · intro field
        refine ⟨?_, (calm.field field).2⟩
        intro frame
        exact fits ⟨field, .inl frame⟩

theorem read_structure_error (first : nalu.bFstMbInSlice = 0 → h.bDecStarted = false)
    (error : readStructure nalu h = .error exit) : Ends h h.control.held exit := by
  unfold readStructure at error
  dsimp only at error
  split at error
  · cases error
  · rename_i isFirst
    have idle := first (by simpa using isFirst)
    split at error
    · rename_i broken
      obtain rfl := Except.error.inj error
      have held : h.control.held = h.pCurPicturePtr := held_field broken.1
      refine ⟨⟨rfl, rfl, rfl, rfl, rfl, rfl⟩, held.symm, ?_, calm.idle idle, ?_, calm.notDropped⟩
      · rw [held]
        exact (calm.field broken.1).2
      · intro again
        cases again
    · cases error

omit calm

/-- The header is read: a picture starts, or the one in hand goes on. -/
structure Goes (h next : H264Context) : Prop where
  same : SamePool h next
  field : next.bFstField = 1 → next.nPicStructure ≠ PICT_FRAME
  notDropped : next.bLastDropBFrame = false
  starts : StartsPicture next → h.control.held = none ∧ next.bDecStarted = false
  continues : ¬ StartsPicture next → h.control.held = next.pCurPicturePtr ∧
    next.pCurPicturePtr.isSome = true

theorem goes_after (first : GoesOn h middle) (goes : Goes middle next) : Goes h next where
  same := first.same.trans goes.same
  field := goes.field
  notDropped := goes.notDropped
  starts := by
    rw [← first.held]
    exact goes.starts
  continues := by
    rw [← first.held]
    exact goes.continues

variable (calm : ControlKept h.control)

include calm

theorem field_state_ok
    (ok : fieldState h nLastFrmNum lastPicStructure = .ok next) : Goes h next := by
  unfold fieldState at ok
  split at ok
  · rename_i later
    obtain rfl := Except.ok.inj ok
    have started : h.bDecStarted = true := (started_iff calm).mpr later
    refine ⟨SamePool.refl h, fun field => (calm.field field).1, calm.notDropped, ?_, ?_⟩
    · intro starts
      exact absurd starts.1 later
    · intro _
      exact ⟨held_started started, (calm.started started).2⟩
  · rename_i firstSlice
    have idle : h.bDecStarted = false := by
      cases started : h.bDecStarted with
      | false => rfl
      | true => exact absurd ((started_iff calm).mp started) firstSlice
    split at ok
    · rename_i isFrame
      obtain rfl := Except.ok.inj ok
      have notField : h.bFstField ≠ 1 := fun field => (calm.field field).1 isFrame
      refine ⟨⟨rfl, rfl, rfl, rfl, rfl, rfl⟩, ?_, calm.notDropped, ?_, ?_⟩
      · intro field
        cases field
      · intro _
        exact ⟨held_idle idle notField, idle⟩
      · intro continues
        exact absurd ⟨by simpa using firstSlice, .inl isFrame⟩ continues
    · rename_i isField
      split at ok
      · rename_i second
        dsimp only at ok
        have held : h.control.held = h.pCurPicturePtr := held_field second
        have goesOn : Goes h { h with bFstField := 0 } := by
          refine ⟨⟨rfl, rfl, rfl, rfl, rfl, rfl⟩, ?_, calm.notDropped, ?_, ?_⟩
          · intro field
            cases field
          · intro starts
            rcases starts.2 with frame | field
            · exact absurd frame isField
            · cases field
          · intro _
            exact ⟨held, (calm.field second).2⟩
        split at ok
        · cases ok
        · split at ok
          · split at ok
            · cases ok
            · obtain rfl := Except.ok.inj ok
              exact goesOn
          · obtain rfl := Except.ok.inj ok
            exact goesOn
      · rename_i notField
        obtain rfl := Except.ok.inj ok
        refine ⟨⟨rfl, rfl, rfl, rfl, rfl, rfl⟩, fun _ => isField, calm.notDropped, ?_, ?_⟩
        · intro _
          exact ⟨held_idle idle notField, idle⟩
        · intro continues
          exact absurd ⟨by simpa using firstSlice, .inr rfl⟩ continues

theorem field_state_error (error : fieldState h nLastFrmNum lastPicStructure = .error exit) :
    Ends h h.control.held exit := by
  unfold fieldState at error
  split at error
  · cases error
  · split at error
    · cases error
    · split at error
      · rename_i second
        dsimp only at error
        have held : h.control.held = h.pCurPicturePtr := held_field second
        split at error
        · obtain rfl := Except.error.inj error
          split
          · exact broken_fields_end calm second _
          · refine ⟨⟨rfl, rfl, rfl, rfl, rfl, rfl⟩, held.symm, ?_, rfl, ?_, calm.notDropped⟩
            · rw [held]
              exact (calm.field second).2
            · intro again
              cases again
        · split at error
          · split at error
            · obtain rfl := Except.error.inj error
              exact broken_fields_end calm second _
            · cases error
          · cases error
      · cases error

theorem header_control_ok (ok : headerControl nalu h = .ok next) : Goes h next := by
  unfold headerControl at ok
  cases first : newPicture nalu h with
  | error exit =>
    rw [first] at ok
    cases ok
  | ok h₁ =>
    rw [first] at ok
    dsimp only at ok
    obtain ⟨goesFirst, idle⟩ := new_picture_ok calm first
    cases second : leaveEarly nalu h₁ with
    | error exit =>
      rw [second] at ok
      cases ok
    | ok h₂ =>
      rw [second] at ok
      dsimp only at ok
      have goesSecond := goesFirst.trans (leave_early_ok goesFirst.calm second)
      cases third : checkFrameNum nalu h₂ with
      | error exit =>
        rw [third] at ok
        cases ok
      | ok h₃ =>
        rw [third] at ok
        dsimp only at ok
        have goesThird := goesSecond.trans (check_frame_num_ok goesSecond.calm third)
        cases fourth : readStructure nalu h₃ with
        | error exit =>
          rw [fourth] at ok
          cases ok
        | ok h₄ =>
          rw [fourth] at ok
          dsimp only at ok
          have idleThird (isFirst : nalu.bFstMbInSlice = 0) : h₃.bDecStarted = false := by
            rw [goesThird.started, ← goesFirst.started]
            exact idle isFirst
          have goesFourth := goesThird.trans (read_structure_ok goesThird.calm idleThird fourth)
          exact goes_after goesFourth (field_state_ok goesFourth.calm ok)

theorem header_control_error
    (error : headerControl nalu h = .error exit) : Ends h h.control.held exit := by
  unfold headerControl at error
  cases first : newPicture nalu h with
  | error exit =>
    rw [first] at error
    obtain rfl := Except.error.inj error
    exact new_picture_error calm first
  | ok h₁ =>
    rw [first] at error
    dsimp only at error
    obtain ⟨goesFirst, idle⟩ := new_picture_ok calm first
    cases second : leaveEarly nalu h₁ with
    | error exit =>
      rw [second] at error
      obtain rfl := Except.error.inj error
      exact ends_after goesFirst (leave_early_error goesFirst.calm second)
    | ok h₂ =>
      rw [second] at error
      dsimp only at error
      have goesSecond := goesFirst.trans (leave_early_ok goesFirst.calm second)
      cases third : checkFrameNum nalu h₂ with
      | error exit =>
        rw [third] at error
        obtain rfl := Except.error.inj error
        exact ends_after goesSecond (check_frame_num_error goesSecond.calm third)
      | ok h₃ =>
        rw [third] at error
        dsimp only at error
        have goesThird := goesSecond.trans (check_frame_num_ok goesSecond.calm third)
        have idleThird (isFirst : nalu.bFstMbInSlice = 0) : h₃.bDecStarted = false := by
          rw [goesThird.started, ← goesFirst.started]
          exact idle isFirst
        cases fourth : readStructure nalu h₃ with
        | error exit =>
          rw [fourth] at error
          obtain rfl := Except.error.inj error
          exact ends_after goesThird
            (read_structure_error goesThird.calm idleThird fourth)
        | ok h₄ =>
          rw [fourth] at error
          dsimp only at error
          have goesFourth := goesThird.trans (read_structure_ok goesThird.calm idleThird fourth)
          exact ends_after goesFourth (field_state_error goesFourth.calm error)

end Header

section Slice

variable {nalu : SliceNalu} {h next : H264Context}

def PoolInvariant (h : H264Context) : Prop := Kept h h.control.held ∧ ControlKept h.control

/-- Before an IDR slice no picture is in hand, and every marked picture is in a
list, a long-term one at an index below their number. -/
def RefreshGuard (h : H264Context) : Prop :=
  h.control.held = none ∧ ∀ slot < MAX_PICTURE_COUNT,
    Unmarked (h.picture slot).nReference ∨ slot ∈ countedLongRefs h ∨ slot ∈ h.pShortRef

instance (h : H264Context) : Decidable (RefreshGuard h) := inferInstanceAs (Decidable (_ ∧ _))

def StartGuard (nalu : SliceNalu) (next : H264Context) : Prop :=
  StartsPicture next → FreeSlot next nalu.bufIndex ∧ nalu.bufferGranted = true →
    Unmarked (next.picture nalu.bufIndex).nReference ∧
      ¬ (nalu.bFrameDelayed = true ∧ nalu.nSliceType = .H264_B_TYPE ∧ next.nNalRefIdc = 0)
deriving Decidable

def HeaderGuard (nalu : SliceNalu) (h : H264Context) : Prop :=
  ∀ next ∈ (headerControl nalu h).toOption, StartGuard nalu next
deriving Decidable

def FinishGuard (nalu : SliceNalu) (h : H264Context) : Prop :=
  ∀ slot ∈ h.pCurPicturePtr, (h.nNalRefIdc ≠ 0 → MarkGuard h slot nalu.mmco nalu.nRefFrmCount) ∧
      ∀ after ∈ markPicture nalu h slot, after.bFstField ≠ 1 → endsDecoding nalu after = false →
        SortGuard after slot nalu.bDecodeKeyFrameOnly
deriving Decidable

def ResultGuard (nalu : SliceNalu) : Exit → Prop
  | (h, .VDECODE_RESULT_OK) =>
    nalu.bPictureComplete = true → FinishGuard nalu (decodedSlice nalu h)
  | (h, .VRESULT_DEC_FRAME_ERROR) => FinishGuard nalu { h with bDecStarted := false }
  | (_, _) => True

instance (nalu : SliceNalu) : ∀ exit, Decidable (ResultGuard nalu exit)
  | (_, .VDECODE_RESULT_OK) => inferInstanceAs (Decidable (_ → _))
  | (_, .VRESULT_DEC_FRAME_ERROR) => inferInstanceAs (Decidable (FinishGuard _ _))
  | (_, .VDECODE_RESULT_CONTINUE) | (_, .VDECODE_RESULT_NO_FRAME_BUFFER) | (_, .VRESULT_ERR_FAIL)
  | (_, .VRESULT_DROP_B_FRAME) => isTrue trivial

/-- The guard of a slice: what it asks of a stage is asked of the state that the
stage starts from. -/
def SliceGuard (h : H264Context) (nalu : SliceNalu) : Prop :=
  (nalu.bIdr = true → RefreshGuard h) ∧ ∀ entered ∈ enterSlice nalu h, HeaderGuard nalu entered ∧
      ∀ exit ∈ h264DecodeSliceHeader nalu entered, ResultGuard nalu exit

instance (h : H264Context) (nalu : SliceNalu) : Decidable (SliceGuard h nalu) :=
  inferInstanceAs (Decidable (_ ∧ ∀ entered ∈ enterSlice nalu h, _))

theorem enter_slice_kept (kept : PoolInvariant h) (guard : nalu.bIdr = true → RefreshGuard h)
    (done : enterSlice nalu h = some next) : PoolInvariant next := by
  obtain ⟨pool, calm⟩ := kept
  have entered : Kept { h with nNalRefIdc := nalu.nNalRefIdc } h.control.held := pool
  unfold enterSlice at done
  dsimp only at done
  split at done
  · rename_i isIdr
    obtain ⟨nothing, listed⟩ := guard isIdr
    have everywhere (s : Nat) : Unmarked (h.picture s).nReference ∨ s ∈ countedLongRefs h ∨
        s ∈ h.pShortRef := by
      by_cases marked : Unmarked (h.picture s).nReference
      · exact .inl marked
      · obtain ⟨⟨nodes, -, -, slots⟩, -⟩ := pool
        exact listed s (slots s (.inr marked))
    obtain ⟨keptAfter, control⟩ :=
      @refresh_kept { h with nNalRefIdc := nalu.nNalRefIdc } next everywhere done
    have same : next.control = h.control := control
    unfold PoolInvariant
    rw [same, nothing]
    exact ⟨keptAfter, calm⟩
  · obtain rfl := Option.some.inj done
    exact ⟨entered, calm⟩

structure InHand (h : H264Context) : Prop where
  kept : Kept h h.pCurPicturePtr
  finishes : Finishes h.control h.pCurPicturePtr
  stopped : h.bDecStarted = false

theorem stopped_invariant (kept : Kept h none) (stopped : h.bDecStarted = false)
    (noField : h.bFstField ≠ 1) (idle : h.nCurSliceNum = 0)
    (notDropped : h.bLastDropBFrame = false) : PoolInvariant h := by
  have held : h.control.held = none := held_idle stopped noField
  refine ⟨?_, ?_, fun _ => idle, ?_, notDropped⟩
  · rw [held]
    exact kept
  · intro started
    cases stopped.symm.trans started
  · intro field
    exact absurd field noField

variable {exit : Exit} {slot : Nat}

theorem mark_picture_kept (kept : Kept h (some slot))
    (guard : h.nNalRefIdc ≠ 0 → MarkGuard h slot nalu.mmco nalu.nRefFrmCount)
    (done : markPicture nalu h slot = some next) :
    Kept next (some slot) ∧ next.control = h.control := by
  unfold markPicture at done
  split at done
  · rename_i reference
    exact execute_ref_pic_marking_kept kept (guard reference) done
  · obtain rfl := Option.some.inj done
    exact ⟨kept, rfl⟩

theorem finish_picture_kept (kept : Kept h (some slot))
    (inHand : h.pCurPicturePtr = some slot) (finishes : Finishes h.control (some slot))
    (stopped : h.bDecStarted = false) (guard : h.bFstField ≠ 1 → endsDecoding nalu h = false →
      SortGuard h slot nalu.bDecodeKeyFrameOnly)
    (done : finishPicture nalu h slot = some next) : PoolInvariant next := by
  unfold finishPicture at done
  split at done
  · rename_i field
    obtain rfl := Option.some.inj done
    have held : h.control.held = some slot := (held_field field).trans inHand
    refine ⟨?_, ?_, fun _ => finishes.idle, ?_, finishes.notDropped⟩
    · rw [held]
      exact kept
    · intro started
      cases stopped.symm.trans started
    · intro isField
      refine ⟨finishes.field isField, ?_⟩
      rw [finishes.current]
      rfl
  · rename_i noField
    split at done
    · obtain ⟨keptAfter, control⟩ := reset_decoder_kept done
      have fields : next.control = ⟨none, 0xFF, 0xFF, 0, false, h.bLastDropBFrame⟩ := control
      apply stopped_invariant keptAfter
      · exact congrArg Control.bDecStarted fields
      · rw [show next.bFstField = 0xFF from congrArg Control.bFstField fields]
        decide
      · exact congrArg Control.nCurSliceNum fields
      · exact (congrArg Control.bLastDropBFrame fields).trans finishes.notDropped
    · rename_i goesOn
      split at done
      · have right := guard noField (by simpa using goesOn)
        have counted : Kept { h with nCurFrmNum := h.nCurFrmNum + 1 } (some slot) := kept
        obtain ⟨keptAfter, current, control⟩ := sort_display_kept counted inHand right done
        have fields : next.control = ⟨current, h.nPicStructure, h.bFstField, h.nCurSliceNum,
          h.bDecStarted, h.bLastDropBFrame⟩ := control
        apply stopped_invariant keptAfter
        · exact (congrArg Control.bDecStarted fields).trans stopped
        · rw [show next.bFstField = h.bFstField from congrArg Control.bFstField fields]
          exact noField
        · exact (congrArg Control.nCurSliceNum fields).trans finishes.idle
        · exact (congrArg Control.bLastDropBFrame fields).trans finishes.notDropped
      · rename_i hidden
        exact absurd (kept.2 slot rfl) hidden

theorem process_decode_result_kept (inHand : InHand h) (guard : FinishGuard nalu h)
    (done : processDecodeResult nalu h = some next) : PoolInvariant next := by
  obtain ⟨slot, current, done⟩ := bind_eq_some_iff.mp done
  obtain ⟨marked, marking, finished⟩ := bind_eq_some_iff.mp done
  obtain ⟨kept, finishes, stopped⟩ := inHand
  rw [current] at kept finishes
  obtain ⟨mark, sort⟩ := guard slot current
  obtain ⟨keptAfter, control⟩ := mark_picture_kept kept mark marking
  have currentAfter : marked.pCurPicturePtr = some slot :=
    (congrArg Control.pCurPicturePtr control).trans current
  have stoppedAfter : marked.bDecStarted = false :=
    (congrArg Control.bDecStarted control).trans stopped
  rw [← control] at finishes
  exact finish_picture_kept keptAfter currentAfter finishes stoppedAfter (sort marked marking)
    finished

def HeaderLeaves : Exit → Prop
  | (next, .VDECODE_RESULT_OK) =>
    Kept next next.pCurPicturePtr ∧ next.pCurPicturePtr.isSome = true ∧ next.nCurSliceNum ≠ 0 ∧
      (next.bFstField = 1 → next.nPicStructure ≠ PICT_FRAME) ∧ next.bLastDropBFrame = false
  | (next, .VRESULT_DEC_FRAME_ERROR) => InHand { next with bDecStarted := false }
  | (_, .VRESULT_DROP_B_FRAME) => False
  | (next, _) => PoolInvariant next

theorem after_header_kept (leaves : HeaderLeaves exit)
    (guard : ResultGuard nalu exit) (done : afterHeader nalu exit = some next) :
    PoolInvariant next := by
  obtain ⟨h, ret⟩ := exit
  cases ret with
  | VDECODE_RESULT_OK =>
    obtain ⟨kept, isSome, counted, field, notDropped⟩ := leaves
    unfold afterHeader at done
    dsimp only at done
    split at done
    · rename_i complete
      have inHand : InHand (decodedSlice nalu h) := by
        unfold decodedSlice
        rw [if_pos complete]
        exact ⟨kept, ⟨rfl, isSome, rfl, field, notDropped⟩, rfl⟩
      exact process_decode_result_kept inHand (guard complete) done
    · rename_i continues
      obtain rfl := Option.some.inj done
      unfold decodedSlice
      rw [if_neg continues]
      refine ⟨?_, fun _ => ⟨counted, isSome⟩, ?_, fun isField => ⟨field isField, isSome⟩,
        notDropped⟩
      · exact kept
      · intro idle
        cases idle
  | VRESULT_DEC_FRAME_ERROR => exact process_decode_result_kept leaves guard done
  | VRESULT_DROP_B_FRAME => exact leaves.elim
  | VDECODE_RESULT_CONTINUE | VDECODE_RESULT_NO_FRAME_BUFFER | VRESULT_ERR_FAIL =>
    obtain rfl := Option.some.inj done
    exact leaves

variable (kept : PoolInvariant h)

include kept

theorem ends_leaves
    (ends : Ends h h.control.held exit) (other : exit.2 ≠ .VDECODE_RESULT_CONTINUE) :
    HeaderLeaves exit := by
  obtain ⟨after, ret⟩ := exit
  cases ret with
  | VRESULT_DEC_FRAME_ERROR =>
    obtain ⟨same, finishes⟩ := ends
    have current : after.pCurPicturePtr = h.control.held := finishes.current
    have pool : Kept after h.control.held := kept_of_same same kept.1
    rw [← current] at finishes pool
    exact ⟨pool, ⟨rfl, finishes.some, finishes.idle, finishes.field, finishes.notDropped⟩, rfl⟩
  | VRESULT_ERR_FAIL =>
    obtain ⟨same, calm, held⟩ := ends
    have pool : Kept after h.control.held := kept_of_same same kept.1
    rw [← held] at pool
    exact ⟨pool, calm⟩
  | VDECODE_RESULT_CONTINUE => exact absurd rfl other
  | VDECODE_RESULT_OK | VDECODE_RESULT_NO_FRAME_BUFFER | VRESULT_DROP_B_FRAME => exact ends.elim

theorem continue_picture_leaves (goes : Goes h next)
    (continues : ¬ StartsPicture next) : HeaderLeaves (continuePicture nalu next) := by
  obtain ⟨held, isSome⟩ := goes.continues continues
  obtain ⟨slot, current⟩ := isSome_iff_exists.mp isSome
  have pool : Kept next (some slot) := by
    have before := kept.1
    rw [held, current] at before
    exact kept_of_same goes.same before
  unfold continuePicture
  rw [current]
  have described : Kept (describePicture next slot) (some slot) :=
    set_picture_kept pool rfl (.inl rfl) rfl rfl
  have stillCurrent : (describePicture next slot).pCurPicturePtr = some slot := current
  refine ⟨?_, ?_, Nat.succ_ne_zero _, goes.field, rfl⟩
  · change Kept (describePicture next slot) (describePicture next slot).pCurPicturePtr
    rw [stillCurrent]
    exact described
  · exact isSome

theorem start_picture_leaves (goes : Goes h next)
    (starts : StartsPicture next) (guard : StartGuard nalu next)
    (done : startPicture nalu next h = some exit) : HeaderLeaves exit := by
  obtain ⟨held, stopped⟩ := goes.starts starts
  obtain ⟨pool, calm⟩ := kept
  rw [held] at pool
  have poolNext : Kept next none := kept_of_same goes.same pool
  unfold startPicture at done
  split at done
  · rename_i granted
    obtain ⟨unmarked, punctual⟩ := guard starts granted
    dsimp only at done
    split at done
    · rename_i late
      exact absurd late punctual
    · obtain ⟨after, taken, rfl⟩ := map_eq_some_iff.mp done
      obtain ⟨keptAfter, control⟩ := start_kept poolNext granted.1 unmarked taken
      have current : after.pCurPicturePtr = some nalu.bufIndex :=
        congrArg Control.pCurPicturePtr control
      have field : after.bFstField = next.bFstField := congrArg Control.bFstField control
      have picture : after.nPicStructure = next.nPicStructure :=
        congrArg Control.nPicStructure control
      refine ⟨?_, ?_, Nat.succ_ne_zero _, ?_, rfl⟩
      · change Kept after after.pCurPicturePtr
        rw [current]
        exact keptAfter
      · change after.pCurPicturePtr.isSome = true
        rw [current]
        rfl
      · change after.bFstField = 1 → after.nPicStructure ≠ PICT_FRAME
        rw [field, picture]
        exact goes.field
  · obtain rfl := Option.some.inj done
    have noField : h.bFstField ≠ 1 := by
      intro field
      have isSome : h.pCurPicturePtr.isSome = true := (calm.field field).2
      rw [← held_field field, held] at isSome
      cases isSome
    exact @stopped_invariant
      { next with nPicStructure := h.nPicStructure, bFstField := h.bFstField } poolNext stopped
      noField starts.1 goes.notDropped

theorem header_leaves (guard : HeaderGuard nalu h)
    (done : h264DecodeSliceHeader nalu h = some exit) : HeaderLeaves exit := by
  unfold h264DecodeSliceHeader at done
  cases control : headerControl nalu h with
  | error early =>
    rw [control] at done
    obtain ⟨after, ret⟩ := early
    dsimp only at done
    split at done
    · rename_i resets
      obtain ⟨reset, resetDone, rfl⟩ := map_eq_some_iff.mp done
      obtain ⟨keptReset, fields⟩ := reset_decoder_kept resetDone
      have ends := header_control_error kept.2 control
      subst resets
      have values : reset.control = ⟨none, 0xFF, 0xFF, 0, false, after.bLastDropBFrame⟩ := fields
      apply stopped_invariant keptReset
      · exact congrArg Control.bDecStarted values
      · rw [show reset.bFstField = 0xFF from congrArg Control.bFstField values]
        decide
      · exact congrArg Control.nCurSliceNum values
      · exact (congrArg Control.bLastDropBFrame values).trans ends
    · rename_i other
      obtain rfl := Option.some.inj done
      exact ends_leaves kept (header_control_error kept.2 control) other
  | ok next =>
    rw [control] at done
    dsimp only at done
    have goes := header_control_ok kept.2 control
    split at done
    · rename_i starts
      have startGuard : StartGuard nalu next := by
        apply guard next
        rw [control]
        rfl
      exact start_picture_leaves kept goes starts startGuard done
    · rename_i continues
      obtain rfl := Option.some.inj done
      exact continue_picture_leaves kept goes continues

theorem decode_slice_kept (guard : SliceGuard h nalu)
    (done : decodeSlice nalu h = some next) : PoolInvariant next := by
  obtain ⟨entered, entering, done⟩ := bind_eq_some_iff.mp done
  obtain ⟨exit, header, finished⟩ := bind_eq_some_iff.mp done
  obtain ⟨refresh, later⟩ := guard
  obtain ⟨headerGuard, resultGuard⟩ := later entered entering
  have keptEntered := enter_slice_kept kept refresh entering
  have leaves := header_leaves keptEntered headerGuard header
  exact after_header_kept leaves (resultGuard exit header) finished

end Slice

def OwnsNode (h : H264Context) (slot node : Nat) : Prop :=
  Owner h.picture h.control.held slot ∧ (h.picture slot).nH264MvBufIndex = node
deriving Decidable

/-- Every node is in the queue or has exactly one owner; the node of a marked
picture is not in the queue and is assigned to it. -/
def NodesSound (h : H264Context) (nodes : List Nat) : Prop :=
  nodes.Nodup ∧ (∀ node < h.nH264MvBufNum,
      (node ∈ nodes ∧ ∀ slot < MAX_PICTURE_COUNT, ¬ OwnsNode h slot node) ∨
        (node ∉ nodes ∧ ∃ slot < MAX_PICTURE_COUNT, OwnsNode h slot node ∧
          ∀ other < MAX_PICTURE_COUNT, OwnsNode h other node → other = slot)) ∧
    ∀ slot < MAX_PICTURE_COUNT, ¬ Unmarked (h.picture slot).nReference →
      (h.picture slot).nH264MvBufIndex ∉ nodes ∧
        (h.pH264MvBufInf (h.picture slot).nH264MvBufIndex).pCurPicturePtr = some slot

instance (h : H264Context) (nodes : List Nat) : Decidable (NodesSound h nodes) :=
  inferInstanceAs (Decidable (_ ∧ _))

def emptyNodes (h : H264Context) : Option (List Nat) :=
  walk h.pH264MvBufEmptyQueue.next h.nH264MvBufNum h.pH264MvBufEmptyQueue.head

/-- The walk along the queue ends and meets no node twice. -/
def PoolSound (h : H264Context) : Prop := ∃ nodes, emptyNodes h = some nodes ∧ NodesSound h nodes

instance (h : H264Context) : Decidable (PoolSound h) :=
  decidable_of_iff ((emptyNodes h).isSome = true ∧ ∀ nodes ∈ emptyNodes h, NodesSound h nodes) (by
    constructor
    · rintro ⟨isSome, sound⟩
      obtain ⟨nodes, found⟩ := isSome_iff_exists.mp isSome
      exact ⟨nodes, found, sound nodes found⟩
    · rintro ⟨nodes, found, sound⟩
      refine ⟨isSome_iff_exists.mpr ⟨nodes, found⟩, ?_⟩
      intro others same
      obtain rfl := Option.some.inj (found.symm.trans same)
      exact sound)

theorem pool_sound {h : H264Context} (kept : PoolInvariant h) : PoolSound h := by
  obtain ⟨⟨⟨nodes, pool⟩, -⟩, -⟩ := kept
  have bound := queue_length pool
  obtain ⟨queue, parted, slots⟩ := pool
  refine ⟨nodes, walk_of_chain queue _ bound, chain_nodup queue, ?_, ?_⟩
  · intro node inPool
    rcases parted.covered node inPool with isFree | ⟨slot, owns, same⟩
    · apply Or.inl
      refine ⟨isFree, ?_⟩
      rintro slot - ⟨owns, same⟩
      exact (free_iff_unowned parted inPool).mp isFree slot owns same
    · apply Or.inr
      refine ⟨?_, slot, slots slot owns, ⟨owns, same⟩, ?_⟩
      · intro isFree
        exact (free_iff_unowned parted inPool).mp isFree slot owns same
      · rintro other - ⟨otherOwns, otherSame⟩
        exact node_injective parted otherOwns owns (otherSame.trans same.symm)
  · intro slot _ marked
    exact ⟨parted.owned_not_free slot (.inr marked), parted.back_owner slot (.inr marked)⟩

theorem start_kept_invariant {bSeparateOutput bDispErrorFrame : Bool} {nRefFrmCount : Nat}
    {h : H264Context} (started : H264Context.start bSeparateOutput bDispErrorFrame nRefFrmCount =
      some h) : PoolInvariant h := by
  obtain ⟨queue, filled, rfl⟩ := map_eq_some_iff.mp started
  have empty : Holds (⟨none, fun _ => none⟩ : Queue Nat) [] := .nil
  have bound : ([] ++ List.range (nRefFrmCount + 1)).length ≤ nRefFrmCount + 1 := by simp
  obtain ⟨after, same, holds⟩ := enqueue_all_holds empty List.nodup_range bound
  obtain rfl := Option.some.inj (same.symm.trans filled)
  have nobody (s : Nat) : ¬ Owner (fun _ => H264PicInfo.unused) none s := by
    rintro (isHeld | marked)
    · cases isHeld
    · exact marked (.inl rfl)
  apply stopped_invariant
  · refine ⟨⟨_, holds, ?_, ?_⟩, ?_⟩
    · apply all_free ?_ nobody
      intro node
      change node ∈ List.range (nRefFrmCount + 1) ↔ node < nRefFrmCount + 1
      exact List.mem_range
    · intro s owns
      exact absurd owns (nobody s)
    · rintro s isHeld
      cases isHeld
  · rfl
  · change (0xFF : Nat) ≠ 1
    decide
  · rfl
  · rfl

/-- In every run of slices that meet the guard the pool is sound in every state
that is reached. -/
theorem mv_nodes_have_one_owner (bSeparateOutput bDispErrorFrame : Bool) (nRefFrmCount : Nat)
    (slices : List SliceNalu) (start final : H264Context)
    (started : H264Context.start bSeparateOutput bDispErrorFrame nRefFrmCount = some start)
    (meets : StepsMeet SliceGuard (fun h nalu => decodeSlice nalu h) start slices)
    (run : runOps (fun h nalu => decodeSlice nalu h) start slices = some final) :
    PoolSound final := by
  apply pool_sound
  apply guarded_run_invariant ?_ (start_kept_invariant started) meets run
  intro h nalu next kept guard step
  exact decode_slice_kept kept guard step

def idrSlice (bFstMbInSlice : Nat) (bPictureComplete : Bool) : SliceNalu :=
  { bIdr := true
    nNalRefIdc := 1
    bDecodeKeyFrameOnly := false
    bFstMbInSlice := bFstMbInSlice
    headerFails := false
    nSliceType := .H264_I_TYPE
    nFrmNum := 0
    gapsAllowed := false
    picture := .frame
    bufIndex := 0
    bufferGranted := true
    bFrameDelayed := false
    decMbNum := 1
    bPictureComplete := bPictureComplete
    bDecErrorFlag := false
    mmco := []
    nRefFrmCount := 1
    out := if bPictureComplete then some 0 else none }

def plainSlices : List SliceNalu :=
  [idrSlice 0 true, { idrSlice 0 true with bIdr := false, nFrmNum := 1, bufIndex := 1 }]

theorem plain_pictures_sound : ∃ start final, H264Context.start false false 1 = some start ∧
      runOps (fun h nalu => decodeSlice nalu h) start plainSlices = some final ∧
      PoolSound final := by
  have starts : (H264Context.start false false 1).isSome = true := by decide
  obtain ⟨start, started⟩ := isSome_iff_exists.mp starts
  have follows : ∀ start ∈ H264Context.start false false 1,
      (runOps (fun h nalu => decodeSlice nalu h) start plainSlices).isSome = true ∧
        StepsMeet SliceGuard (fun h nalu => decodeSlice nalu h) start plainSlices := by
    decide
  obtain ⟨ends, meets⟩ := follows start started
  obtain ⟨final, run⟩ := isSome_iff_exists.mp ends
  exact ⟨start, final, started, run,
    mv_nodes_have_one_owner false false 1 plainSlices start final started meets run⟩

/-- The second slice of an IDR picture puts the node of the picture in hand into
the queue. -/
theorem second_idr_slice_returns_node :
    ∃ start final, H264Context.start false false 1 = some start ∧
      runOps (fun h nalu => decodeSlice nalu h) start [idrSlice 0 false, idrSlice 1 false] =
        some final ∧ ¬ PoolSound final := by
  have starts : (H264Context.start false false 1).isSome = true := by decide
  obtain ⟨start, started⟩ := isSome_iff_exists.mp starts
  have ends : ∀ start ∈ H264Context.start false false 1,
      (runOps (fun h nalu => decodeSlice nalu h) start
        [idrSlice 0 false, idrSlice 1 false]).isSome = true ∧
      ∀ final ∈ runOps (fun h nalu => decodeSlice nalu h) start
        [idrSlice 0 false, idrSlice 1 false], ¬ PoolSound final := by
    decide
  obtain ⟨reached, unsound⟩ := ends start started
  obtain ⟨final, run⟩ := isSome_iff_exists.mp reached
  exact ⟨start, final, started, run, unsound final run⟩

end CedarC.H264MvPool
