import CedarC.FbmSharedModel

/-!
# Rejected calls of the frame buffer manager

The checks by which the six calls reject a picture or a frame, for a manager on its
own and for two streams on one manager. Most checks stand before the first write;
a frame that fails its check behind a dequeue, and a picture whose use was written
off before its index was checked, leave the manager changed.
-/

namespace CedarC.FbmRejections

open LinkedChain FbmFrameModel FbmSharedModel Option

inductive Call where
  | requestBuffer
  | shareBuffer (pVPicture : Nat)
  | returnBuffer (pVPicture : Nat) (bValidPicture : Bool)
  | requestPicture
  | returnPicture (pVPicture : Nat)
  | flush
deriving DecidableEq

section Checks

variable (fbm : Fbm)

/-- What the call leaves; a walk that does not end leaves nothing. -/
def callFbm : Call → Option Fbm
  | .requestBuffer => some (fbmRequestBuffer fbm).1
  | .shareBuffer pVPicture => fbmShareBuffer fbm pVPicture
  | .returnBuffer pVPicture bValidPicture => fbmReturnBuffer fbm pVPicture bValidPicture
  | .requestPicture => some (fbmRequestPicture fbm).1
  | .returnPicture pVPicture => (fbmReturnPicture fbm pVPicture).map Prod.fst
  | .flush => fbmFlush fbm

def requestBufferRejects : Bool :=
  (fbm.head .pEmptyBufferQueue).any fun node =>
    (fbm.flag node).bUsedByDecoder || (fbm.flag node).bInValidPictureQueue ||
      (fbm.flag node).bUsedByRender || (fbm.flag node).bAlreadyDisplayed

def requestPictureRejects : Bool :=
  (fbm.head .pValidPictureQueue).any fun node =>
    !(fbm.flag node).bInValidPictureQueue || (fbm.flag node).bUsedByRender ||
      (fbm.flag node).bAlreadyDisplayed

def indexRejects (pVPicture : Nat) : Bool :=
  decide (fbm.nMaxFrameNum ≤ fbm.nID pVPicture) || decide (pVPicture ≠ fbm.nID pVPicture)

def shareBufferRejects (pVPicture : Nat) : Bool :=
  indexRejects fbm pVPicture ||
    (!(fbm.flag pVPicture).bNeedRelease &&
      (!(fbm.flag pVPicture).bUsedByDecoder || (fbm.flag pVPicture).bInValidPictureQueue ||
        (fbm.flag pVPicture).bAlreadyDisplayed))

/-- The last check comes when the decoder's use is already taken back. -/
def returnBufferRejects (pVPicture : Nat) : Bool :=
  indexRejects fbm pVPicture || !(fbm.flag pVPicture).bUsedByDecoder ||
    ((fbm.flag pVPicture).bInValidPictureQueue &&
      ((fbm.flag pVPicture).bUsedByRender || (fbm.flag pVPicture).bAlreadyDisplayed))

def returnPictureRejects (pVPicture : Nat) : Bool :=
  let index := fbm.nID pVPicture
  if fbm.nMaxFrameNum ≤ index then
    if FRM_FORBID_USE_TAG ≤ index then
      (fbm.flag (index - FRM_FORBID_USE_TAG)).bUsedByRender ||
        (fbm.flag (index - FRM_FORBID_USE_TAG)).bInValidPictureQueue ||
        (fbm.flag (index - FRM_FORBID_USE_TAG)).bAlreadyDisplayed
    else true
  else
    decide (pVPicture ≠ index) || !(fbm.flag index).bUsedByRender ||
      (fbm.flag index).bInValidPictureQueue || (fbm.flag index).bAlreadyDisplayed

end Checks

/-- The loop of `FbmFlush` comes upon a frame that fails its check. -/
def flushRejects : Nat → Fbm → Bool
  | 0, _ => false
  | fuel + 1, fbm =>
    match fbmDequeue fbm .pValidPictureQueue with
    | (_, none) => false
    | (fbm, some node) =>
      let fbm := { fbm.setPicture node fun picture => { picture with nBufStatus := 0 } with
        nValidPictureNum := fbm.nValidPictureNum - 1 }
      if (fbm.flag node).bUsedByRender || (fbm.flag node).bAlreadyDisplayed then true
      else
        let fbm := fbm.setFlag node fun flag => { flag with bInValidPictureQueue := false }
        if (fbm.flag node).bUsedByDecoder = false then
          (fbmEnqueue fbm .pEmptyBufferQueue node).any fun fbm =>
            flushRejects fuel { fbm with nEmptyBufferNum := fbm.nEmptyBufferNum + 1 }
        else
          flushRejects fuel
            (fbm.setFlag node fun flag => { flag with bAlreadyDisplayed := true })

def rejectsFbm (fbm : Fbm) : Call → Bool
  | .requestBuffer => requestBufferRejects fbm
  | .shareBuffer pVPicture => shareBufferRejects fbm pVPicture
  | .returnBuffer pVPicture _ => returnBufferRejects fbm pVPicture
  | .requestPicture => requestPictureRejects fbm
  | .returnPicture pVPicture => returnPictureRejects fbm pVPicture
  | .flush => flushRejects (fbm.nMaxFrameNum + 1) fbm

def ChecksFirst (fbm : Fbm) : Call → Prop
  | .requestBuffer | .requestPicture | .flush => False
  | .shareBuffer _ | .returnPicture _ => True
  | .returnBuffer pVPicture _ =>
    indexRejects fbm pVPicture = true ∨ (fbm.flag pVPicture).bUsedByDecoder = false

section Results

variable {fbm after : Fbm}

/-- Of the calls with a result, those rejected are those that return no frame from a
queue that has one, and -1. -/
theorem request_buffer_rejects_iff : requestBufferRejects fbm = true ↔
      (fbm.head .pEmptyBufferQueue).isSome = true ∧ (fbmRequestBuffer fbm).2 = none := by
  unfold requestBufferRejects fbmRequestBuffer fbmDequeue dequeue
  cases fbm.head .pEmptyBufferQueue with
  | none => simp
  | some node =>
    simp only [any_some, isSome_some, true_and]
    change _ ↔ (if _ then _ else _ : Fbm × Option Nat).2 = none
    split_ifs with invalid
    · exact iff_of_true invalid rfl
    · exact iff_of_false invalid nofun

theorem request_picture_rejects_iff : requestPictureRejects fbm = true ↔
      (fbm.head .pValidPictureQueue).isSome = true ∧ (fbmRequestPicture fbm).2 = none := by
  unfold requestPictureRejects fbmRequestPicture fbmDequeue dequeue
  cases fbm.head .pValidPictureQueue with
  | none => simp
  | some node =>
    simp only [any_some, isSome_some, true_and]
    change _ ↔ (if _ then _ else _ : Fbm × Option Nat).2 = none
    split_ifs with invalid
    · exact iff_of_true invalid rfl
    · exact iff_of_false invalid nofun

variable {result : Int} {pVPicture : Nat}

theorem return_forbidden_result
    (returned : fbmReturnForbidden fbm pVPicture = some (after, result)) :
    let flag := fbm.flag (fbm.nID pVPicture - FRM_FORBID_USE_TAG)
    let invalid := flag.bUsedByRender || flag.bInValidPictureQueue || flag.bAlreadyDisplayed
    (invalid = true ∧ after = fbm ∧ result = -1) ∨ (invalid = false ∧ result = 0) := by
  dsimp only
  unfold fbmReturnForbidden at returned
  dsimp only at returned
  split_ifs at returned with invalid
  · cases returned
    exact .inl ⟨invalid, rfl, rfl⟩
  · rcases map_eq_some_iff.mp returned with ⟨enqueued, -, same⟩
    cases same
    exact .inr ⟨Bool.eq_false_iff.mpr invalid, rfl⟩

theorem return_shown_result {node : Nat}
    (returned : fbmReturnShown fbm node = some (after, result)) :
    let flag := fbm.flag node
    let invalid := !flag.bUsedByRender || flag.bInValidPictureQueue || flag.bAlreadyDisplayed
    (invalid = true ∧ after = fbm ∧ result = -1) ∨ (invalid = false ∧ result = 0) := by
  dsimp only
  unfold fbmReturnShown at returned
  dsimp only at returned
  split_ifs at returned with invalid held kept
  · cases returned
    exact .inl ⟨invalid, rfl, rfl⟩
  · cases returned
    exact .inr ⟨Bool.eq_false_iff.mpr invalid, rfl⟩
  all_goals
    rcases map_eq_some_iff.mp returned with ⟨enqueued, -, same⟩
    cases same
    exact .inr ⟨Bool.eq_false_iff.mpr invalid, rfl⟩

/-- A picture that is not taken back leaves the manager, and one that is gives 0. -/
theorem return_picture_result (returned : fbmReturnPicture fbm pVPicture = some (after, result)) :
    (returnPictureRejects fbm pVPicture = true ∧ after = fbm ∧ result = -1) ∨
      (returnPictureRejects fbm pVPicture = false ∧ result = 0) := by
  unfold fbmReturnPicture at returned
  unfold returnPictureRejects
  dsimp only at returned ⊢
  by_cases outside : fbm.nMaxFrameNum ≤ fbm.nID pVPicture
  · rw [if_pos outside] at returned ⊢
    by_cases tagged : FRM_FORBID_USE_TAG ≤ fbm.nID pVPicture
    · rw [if_pos tagged] at returned ⊢
      exact return_forbidden_result returned
    · rw [if_neg tagged] at returned ⊢
      cases returned
      exact .inl ⟨rfl, rfl, rfl⟩
  · rw [if_neg outside] at returned ⊢
    by_cases other : pVPicture ≠ fbm.nID pVPicture
    · rw [if_pos other] at returned
      cases returned
      exact .inl ⟨by simp [other], rfl, rfl⟩
    · rw [if_neg other] at returned
      rw [decide_eq_false other]
      exact return_shown_result returned

end Results

section Manager

variable {fbm after : Fbm}

theorem dequeue_changes (queue : FbmQueue) (filled : (fbm.head queue).isSome = true) :
    (fbmDequeue fbm queue).1 ≠ fbm := by
  rcases isSome_iff_exists.mp filled with ⟨node, first⟩
  intro same
  have heads := congrArg (fun fbm => fbm.head queue) same
  have links := congrArg (fun fbm => fbm.pNext node) same
  unfold fbmDequeue dequeue at heads links
  rw [first] at heads links
  simp only [Function.update_self] at heads links
  rw [← links] at heads
  cases heads

/-- The manager without the frame at the front of a queue. -/
def unlinked (fbm : Fbm) (queue : FbmQueue) (node : Nat) : Fbm :=
  { fbm with
    pNext := Function.update fbm.pNext node none
    head := Function.update fbm.head queue (fbm.pNext node) }

variable {queue : FbmQueue} {node fuel pVPicture : Nat}

theorem dequeue_front (front : fbm.head queue = some node) :
    fbmDequeue fbm queue = (unlinked fbm queue node, some node) := by
  unfold fbmDequeue dequeue unlinked
  rw [front]

theorem rejected_request_dequeues (rejected : requestBufferRejects fbm = true) :
    (fbmRequestBuffer fbm).1 = (fbmDequeue fbm .pEmptyBufferQueue).1 := by
  unfold requestBufferRejects at rejected
  cases front : fbm.head .pEmptyBufferQueue with
  | none =>
    rw [front] at rejected
    cases rejected
  | some node =>
    rw [front, any_some] at rejected
    have same : (unlinked fbm .pEmptyBufferQueue node).flag = fbm.flag := rfl
    unfold fbmRequestBuffer
    rw [dequeue_front front]
    dsimp only
    rw [same, if_pos rejected]

theorem rejected_picture_dequeues (rejected : requestPictureRejects fbm = true) :
    (fbmRequestPicture fbm).1 = (fbmDequeue fbm .pValidPictureQueue).1 := by
  unfold requestPictureRejects at rejected
  cases front : fbm.head .pValidPictureQueue with
  | none =>
    rw [front] at rejected
    cases rejected
  | some node =>
    rw [front, any_some] at rejected
    have same : (unlinked fbm .pValidPictureQueue node).flag = fbm.flag := rfl
    unfold fbmRequestPicture
    rw [dequeue_front front]
    dsimp only
    rw [same, if_pos rejected]

theorem enqueue_keeps_count (enqueued : fbmEnqueue fbm queue node = some after) :
    after.nValidPictureNum = fbm.nValidPictureNum := by
  rcases map_eq_some_iff.mp enqueued with ⟨lists, -, same⟩
  rw [← same]

theorem dequeued_counts {dequeued : Fbm} {result : Option Nat}
    (taken : fbmDequeue fbm queue = (dequeued, result)) :
    dequeued.nValidPictureNum = fbm.nValidPictureNum :=
  (congrArg (fun result => result.1.nValidPictureNum) taken).symm

theorem flush_loop_counts (flushed : fbmFlushLoop fuel fbm = some after) :
    after.nValidPictureNum ≤ fbm.nValidPictureNum := by
  induction fuel generalizing fbm with
  | zero => cases flushed
  | succ fuel later =>
    unfold fbmFlushLoop at flushed
    split at flushed
    · rename_i dequeued taken
      have same := dequeued_counts taken
      cases flushed
      exact Int.le_of_eq same
    · rename_i dequeued node taken
      have same := dequeued_counts taken
      dsimp only at flushed
      split_ifs at flushed
      · cases flushed
        dsimp only
        omega
      · rcases bind_eq_some_iff.mp flushed with ⟨enqueued, step, rest⟩
        have counted := enqueue_keeps_count step
        have below := later rest
        dsimp only [Fbm.setFlag, Fbm.setPicture] at counted below
        omega
      · have below := later flushed
        dsimp only [Fbm.setFlag, Fbm.setPicture] at below
        omega

theorem rejected_flush_counts (rejected : flushRejects fuel fbm = true)
    (flushed : fbmFlushLoop fuel fbm = some after) :
    after.nValidPictureNum < fbm.nValidPictureNum := by
  cases fuel with
  | zero => cases flushed
  | succ fuel =>
    unfold fbmFlushLoop at flushed
    unfold flushRejects at rejected
    split at flushed
    · rename_i dequeued taken
      rw [taken] at rejected
      cases rejected
    · rename_i dequeued node taken
      have same := dequeued_counts taken
      dsimp only at flushed
      split_ifs at flushed
      · cases flushed
        dsimp only
        omega
      · rcases bind_eq_some_iff.mp flushed with ⟨enqueued, step, rest⟩
        have counted := enqueue_keeps_count step
        have below := flush_loop_counts rest
        dsimp only [Fbm.setFlag, Fbm.setPicture] at counted below
        omega
      · have below := flush_loop_counts flushed
        dsimp only [Fbm.setFlag, Fbm.setPicture] at below
        omega

theorem rejected_share_keeps (rejected : shareBufferRejects fbm pVPicture = true)
    (shared : fbmShareBuffer fbm pVPicture = some after) : after = fbm := by
  unfold shareBufferRejects indexRejects at rejected
  unfold fbmShareBuffer at shared
  dsimp only at shared
  split_ifs at shared with outside other release invalid
  · exact (Option.some.inj shared).symm
  · exact (Option.some.inj shared).symm
  · exact (Option.some.inj shared).symm
  · exact (Option.some.inj shared).symm
  · have own : pVPicture = fbm.nID pVPicture := not_not.mp other
    rw [decide_eq_false outside, decide_eq_false other, own] at rejected
    simp only [Bool.false_or, Bool.and_eq_true] at rejected
    exact absurd rejected.2 invalid

/-- A rejected return changes the manager exactly where the use is taken back before. -/
theorem rejected_return_changes {bValidPicture : Bool}
    (rejected : returnBufferRejects fbm pVPicture = true)
    (returned : fbmReturnBuffer fbm pVPicture bValidPicture = some after) :
    (ChecksFirst fbm (.returnBuffer pVPicture bValidPicture) ∧ after = fbm) ∨
      (¬ChecksFirst fbm (.returnBuffer pVPicture bValidPicture) ∧
        (after.flag pVPicture).bUsedByDecoder ≠ (fbm.flag pVPicture).bUsedByDecoder) := by
  unfold returnBufferRejects indexRejects at rejected
  unfold ChecksFirst indexRejects
  unfold fbmReturnBuffer at returned
  dsimp only at returned ⊢
  split_ifs at returned with outside other
  · exact .inl ⟨.inl (by simp [outside]), (Option.some.inj returned).symm⟩
  · exact .inl ⟨.inl (by simp [other]), (Option.some.inj returned).symm⟩
  · have own : fbm.nID pVPicture = pVPicture := (not_not.mp other).symm
    rw [decide_eq_false outside, decide_eq_false other, Bool.or_self] at rejected ⊢
    rw [own] at returned
    unfold fbmReturnNode at returned
    by_cases unused : (fbm.flag pVPicture).bUsedByDecoder = false
    · rw [if_pos unused] at returned
      exact .inl ⟨.inr unused, (Option.some.inj returned).symm⟩
    · apply Or.inr
      rw [if_neg unused] at returned
      have used : (fbm.flag pVPicture).bUsedByDecoder = true := by simpa using unused
      rw [used] at rejected
      simp only [Bool.not_true, Bool.or_self, Bool.false_or, Bool.and_eq_true] at rejected
      dsimp only at returned
      rw [if_neg (by simp [rejected.1]), Fbm.flag_setFlag, if_pos rejected.1,
        if_pos rejected.2] at returned
      cases returned
      rw [Fbm.flag_setFlag, used]
      exact ⟨by simp, nofun⟩

/-- On a manager on its own a rejected call changes nothing exactly where its check comes
first. -/
theorem rejected_call_keeps (call : Call) (rejected : rejectsFbm fbm call = true)
    (called : callFbm fbm call = some after) : after = fbm ↔ ChecksFirst fbm call := by
  cases call with
  | requestBuffer =>
    have filled := (request_buffer_rejects_iff.mp rejected).1
    apply iff_of_false _ id
    rw [← Option.some.inj called, rejected_request_dequeues rejected]
    exact dequeue_changes _ filled
  | requestPicture =>
    have filled := (request_picture_rejects_iff.mp rejected).1
    apply iff_of_false _ id
    rw [← Option.some.inj called, rejected_picture_dequeues rejected]
    exact dequeue_changes _ filled
  | shareBuffer pVPicture => exact iff_of_true (rejected_share_keeps rejected called) trivial
  | returnPicture pVPicture =>
    rcases map_eq_some_iff.mp called with ⟨⟨left, result⟩, returned, rfl⟩
    apply iff_of_true _ trivial
    rcases return_picture_result returned with ⟨-, same, -⟩ | ⟨taken, -⟩
    · exact same
    · rw [show returnPictureRejects fbm pVPicture = true from rejected] at taken
      cases taken
  | returnBuffer pVPicture bValidPicture =>
    rcases rejected_return_changes rejected called with ⟨first, same⟩ | ⟨later, changed⟩
    · exact iff_of_true same first
    · apply iff_of_false _ later
      intro same
      rw [same] at changed
      exact changed rfl
  | flush =>
    have counted := rejected_flush_counts rejected called
    apply iff_of_false _ id
    intro same
    rw [same] at counted
    omega

end Manager

/-- A manager on its own, or the two managers of streams that share the first. -/
inductive VideoFbmInfo where
  | single (fbm : Fbm)
  | twoStreamShareOneFbm (shared : SharedFbm)

def VideoFbmInfo.fbms : VideoFbmInfo → List Fbm
  | .single fbm => [fbm]
  | .twoStreamShareOneFbm shared => [shared.pFbmFirst, shared.pFbmSecond]

/-- The calls of a stream on a shared manager; the minor stream neither shares nor
flushes. -/
def callShared (shared : SharedFbm) (stream : Stream) : Call → Option SharedFbm
  | .requestBuffer => some (sharedRequestBuffer shared stream).1
  | .shareBuffer pVPicture =>
    match stream with
    | .major =>
      (fbmShareBuffer shared.pFbmFirst pVPicture).map fun fbm =>
        { shared with pFbmFirst := fbm }
    | .minor => some shared
  | .returnBuffer pVPicture bValidPicture =>
    sharedReturnBuffer shared stream pVPicture bValidPicture
  | .requestPicture => (sharedRequestPicture shared stream).map Prod.fst
  | .returnPicture pVPicture => (sharedReturnPicture shared stream pVPicture).map Prod.fst
  | .flush =>
    match stream with
    | .major => (fbmFlush shared.pFbmFirst).map fun fbm => { shared with pFbmFirst := fbm }
    | .minor => some shared

def call (info : VideoFbmInfo) (stream : Stream) (op : Call) : Option VideoFbmInfo :=
  match info with
  | .single fbm => (callFbm fbm op).map .single
  | .twoStreamShareOneFbm shared => (callShared shared stream op).map .twoStreamShareOneFbm

/-- The use that a stream's decoder or renderer gives up before any check. -/
def decoderUse : Stream → UseFlag
  | .major => .MAJOR_DECODER_USE_FLAG
  | .minor => .MINOR_DECODER_USE_FLAG

def dispUse : Stream → UseFlag
  | .major => .MAJOR_DISP_USE_FLAG
  | .minor => .MINOR_DISP_USE_FLAG

def returnWaits (fbm : Fbm) (stream : Stream) (pVPicture : Nat) (bValidPicture : Bool) : Bool :=
  match stream with
  | .major =>
    inUse (status fbm pVPicture) .MINOR_DECODER_USE_FLAG ||
      (bValidPicture && inUse (status fbm pVPicture) .MINOR_NEED_USE_FLAG)
  | .minor => inUse (status fbm pVPicture) .MAJOR_DECODER_USE_FLAG

def showWaits (fbm : Fbm) (stream : Stream) (pVPicture : Nat) : Bool :=
  match stream with
  | .major => inUse (status fbm pVPicture) .MINOR_DISP_USE_FLAG
  | .minor => inUse (status fbm pVPicture) .MAJOR_DISP_USE_FLAG

/-- The checks on the second manager, where the minor renderer returns a picture. -/
def secondRejects (shared : SharedFbm) (pVPicture : Nat) : Bool :=
  let index := shared.pFbmFirst.nID pVPicture
  let second := shared.pFbmSecond
  if second.nMaxFrameNum ≤ index ∧ FRM_FORBID_USE_TAG ≤ index then
    let node := index - FRM_FORBID_USE_TAG
    (second.flag node).bUsedByRender || (second.flag node).bInValidPictureQueue ||
      (second.flag node).bAlreadyDisplayed
  else true

def rejectsShared (shared : SharedFbm) (stream : Stream) : Call → Bool
  | .requestBuffer => stream = .major && requestBufferRejects shared.pFbmFirst
  | .shareBuffer pVPicture => stream = .major && shareBufferRejects shared.pFbmFirst pVPicture
  | .returnBuffer pVPicture bValidPicture =>
    !returnWaits shared.pFbmFirst stream pVPicture bValidPicture &&
      returnBufferRejects shared.pFbmFirst pVPicture
  | .requestPicture => stream = .major && requestPictureRejects shared.pFbmFirst
  | .returnPicture pVPicture =>
    !showWaits shared.pFbmFirst stream pVPicture &&
      match stream with
      | .major => returnPictureRejects shared.pFbmFirst pVPicture
      | .minor => secondRejects shared pVPicture
  | .flush =>
    stream = .major && flushRejects (shared.pFbmFirst.nMaxFrameNum + 1) shared.pFbmFirst

/-- The call is rejected by one of its checks on a frame's status or a picture's index. -/
def rejects (info : VideoFbmInfo) (stream : Stream) (op : Call) : Bool :=
  match info with
  | .single fbm => rejectsFbm fbm op
  | .twoStreamShareOneFbm shared => rejectsShared shared stream op

def givesUpNothing (fbm : Fbm) (stream : Stream) : Call → Prop
  | .returnBuffer pVPicture _ => inUse (status fbm pVPicture) (decoderUse stream) = false
  | .returnPicture pVPicture => inUse (status fbm pVPicture) (dispUse stream) = false
  | .requestBuffer | .shareBuffer _ | .requestPicture | .flush => True

/-- The condition: the check comes first and, between two streams, behind no change of the
picture's use. -/
def Unwritten (info : VideoFbmInfo) (stream : Stream) (op : Call) : Prop :=
  match info with
  | .single fbm => ChecksFirst fbm op
  | .twoStreamShareOneFbm shared =>
    ChecksFirst shared.pFbmFirst op ∧ givesUpNothing shared.pFbmFirst stream op

/-- `nBufStatus` is an `int`. -/
def StatusFits : VideoFbmInfo → Prop
  | .single _ => True
  | .twoStreamShareOneFbm shared => ∀ picture, status shared.pFbmFirst picture < 2 ^ 32

theorem take_same_iff {nBufStatus : Nat} (flag : UseFlag) (fits : nBufStatus < 2 ^ 32) :
    takeOutOfUse flag nBufStatus = nBufStatus ↔ inUse nBufStatus flag = false := by
  constructor
  · intro same
    rw [← same, in_use_take]
    simp
  · intro unused
    apply Nat.eq_of_testBit_eq
    intro i
    unfold takeOutOfUse
    rw [in_use_iff_bit] at unused
    rw [Nat.testBit_and]
    by_cases here : i = flag.bit
    · rw [here, unused, Bool.false_and]
    · by_cases high : 32 ≤ i
      · have above : nBufStatus.testBit i = false :=
          Nat.testBit_lt_two_pow (Nat.lt_of_lt_of_le fits (Nat.pow_le_pow_right (by decide) high))
        rw [above, Bool.false_and]
      · have power : flag.value = 2 ^ flag.bit := by cases flag <;> rfl
        have full : (0xffffffff : Nat) = 2 ^ 32 - 1 := by decide
        have low : i < 32 := by omega
        rw [Nat.testBit_xor, full, Nat.testBit_two_pow_sub_one, power, Nat.testBit_two_pow,
          decide_eq_true low, decide_eq_false (Ne.symm here), Bool.xor_false, Bool.and_true]

section Status

variable {fbm : Fbm} {pVPicture : Nat} {change : Nat → Nat}

theorem set_status_same_iff : setStatus fbm pVPicture change = fbm ↔
      change (status fbm pVPicture) = status fbm pVPicture := by
  constructor
  · intro same
    have written := congrArg (fun fbm => status fbm pVPicture) same
    unfold status setStatus Fbm.setPicture at *
    simpa using written
  · intro same
    unfold status at same
    unfold setStatus Fbm.setPicture
    dsimp only
    rw [same, Function.update_eq_self]

@[simp] theorem flag_set_status : (setStatus fbm pVPicture change).flag = fbm.flag := by
  funext node
  exact Fbm.flag_setPicture fbm pVPicture node _

@[simp] theorem id_set_status : (setStatus fbm pVPicture change).nID = fbm.nID := by
  funext node
  unfold Fbm.nID setStatus Fbm.setPicture
  by_cases here : node = pVPicture
  · subst here
    simp
  · simp [here]

theorem checks_of_status (op : Call) :
    ChecksFirst (setStatus fbm pVPicture change) op ↔ ChecksFirst fbm op := by
  have frames : (setStatus fbm pVPicture change).nMaxFrameNum = fbm.nMaxFrameNum := rfl
  cases op <;> simp [ChecksFirst, indexRejects, frames]

theorem return_rejects_of_status (picture : Nat) :
    returnBufferRejects (setStatus fbm pVPicture change) picture =
      returnBufferRejects fbm picture := by
  have frames : (setStatus fbm pVPicture change).nMaxFrameNum = fbm.nMaxFrameNum := rfl
  simp [returnBufferRejects, indexRejects, frames]

theorem show_rejects_of_status (picture : Nat) :
    returnPictureRejects (setStatus fbm pVPicture change) picture =
      returnPictureRejects fbm picture := by
  have frames : (setStatus fbm pVPicture change).nMaxFrameNum = fbm.nMaxFrameNum := rfl
  simp [returnPictureRejects, frames]

end Status

section Shared

variable {shared after : SharedFbm} {stream : Stream}

def Same (after shared : SharedFbm) : Prop :=
  after.pFbmFirst = shared.pFbmFirst ∧ after.pFbmSecond = shared.pFbmSecond

variable {pVPicture : Nat} {op : Call} {bValidPicture : Bool} {result : Int}

theorem return_goes_on (goes : returnWaits shared.pFbmFirst stream pVPicture bValidPicture = false)
    (returned : sharedReturnBuffer shared stream pVPicture bValidPicture = some after) :
    ∃ fbm, fbmReturnBuffer
        (setStatus shared.pFbmFirst pVPicture (takeOutOfUse (decoderUse stream))) pVPicture
          bValidPicture = some fbm ∧ after = { shared with pFbmFirst := fbm } := by
  have other : ∀ flag, inUse (status (setStatus shared.pFbmFirst pVPicture
      (takeOutOfUse (decoderUse stream))) pVPicture) flag =
        (inUse (status shared.pFbmFirst pVPicture) flag && decide (decoderUse stream ≠ flag)) := by
    intro flag
    rw [← in_use_take]
    unfold status setStatus Fbm.setPicture
    simp
  unfold returnWaits at goes
  unfold sharedReturnBuffer at returned
  cases stream with
  | major =>
    simp only [Bool.or_eq_false_iff] at goes
    dsimp only [decoderUse] at other returned ⊢
    simp only [other, goes.1, goes.2, Bool.false_eq_true, if_false, reduceCtorEq,
      ne_eq, not_false_eq_true, decide_true, Bool.and_true] at returned
    rcases map_eq_some_iff.mp returned with ⟨fbm, inner, rfl⟩
    exact ⟨fbm, inner, rfl⟩
  | minor =>
    dsimp only [decoderUse] at other returned goes ⊢
    simp only [other, goes, Bool.false_and, Bool.false_eq_true, if_false] at returned
    rcases map_eq_some_iff.mp returned with ⟨fbm, inner, rfl⟩
    exact ⟨fbm, inner, rfl⟩

theorem rejected_shared_return (fits : status shared.pFbmFirst pVPicture < 2 ^ 32)
    (rejected : rejectsShared shared stream (.returnBuffer pVPicture bValidPicture) = true)
    (returned : sharedReturnBuffer shared stream pVPicture bValidPicture = some after) :
    Same after shared ↔ ChecksFirst shared.pFbmFirst (.returnBuffer pVPicture bValidPicture) ∧
        inUse (status shared.pFbmFirst pVPicture) (decoderUse stream) = false := by
  unfold rejectsShared at rejected
  simp only [Bool.and_eq_true, Bool.not_eq_true'] at rejected
  rcases return_goes_on rejected.1 returned with ⟨fbm, inner, rfl⟩
  have inner_rejected := rejected.2
  rw [← @return_rejects_of_status shared.pFbmFirst pVPicture (takeOutOfUse (decoderUse stream))]
    at inner_rejected
  rw [← take_same_iff (decoderUse stream) fits, ← set_status_same_iff]
  unfold Same
  rcases rejected_return_changes inner_rejected inner with ⟨first, same⟩ | ⟨later, changed⟩
  · rw [checks_of_status] at first
    dsimp only
    rw [same]
    simp [first]
  · rw [checks_of_status] at later
    apply iff_of_false
    · rintro ⟨same, -⟩
      dsimp only at same
      rw [same, flag_set_status] at changed
      exact changed rfl
    · exact fun both => later both.1

theorem show_goes_on (rejected : rejectsShared shared stream (.returnPicture pVPicture) = true)
    (returned : sharedReturnPicture shared stream pVPicture = some (after, result)) :
    after = { shared with
      pFbmFirst := setStatus shared.pFbmFirst pVPicture (takeOutOfUse (dispUse stream)) } := by
  have other : ∀ flag, inUse (status (setStatus shared.pFbmFirst pVPicture
      (takeOutOfUse (dispUse stream))) pVPicture) flag =
        (inUse (status shared.pFbmFirst pVPicture) flag && decide (dispUse stream ≠ flag)) := by
    intro flag
    rw [← in_use_take]
    unfold status setStatus Fbm.setPicture
    simp
  unfold rejectsShared showWaits at rejected
  unfold sharedReturnPicture at returned
  cases stream with
  | major =>
    simp only [Bool.and_eq_true, Bool.not_eq_true'] at rejected
    dsimp only [dispUse] at other returned ⊢
    simp only [other, rejected.1, Bool.false_and, Bool.false_eq_true, if_false] at returned
    rcases map_eq_some_iff.mp returned with ⟨⟨fbm, inner_result⟩, inner, same⟩
    cases same
    rcases return_picture_result inner with ⟨-, same, -⟩ | ⟨taken, -⟩
    · rw [same]
    · rw [show_rejects_of_status, rejected.2] at taken
      cases taken
  | minor =>
    simp only [Bool.and_eq_true, Bool.not_eq_true'] at rejected
    dsimp only [dispUse] at other returned ⊢
    simp only [other, rejected.1, Bool.false_and, Bool.false_eq_true, if_false] at returned
    have second := rejected.2
    unfold secondRejects at second
    unfold returnToSecond at returned
    simp only [id_set_status] at returned
    dsimp only at second
    split_ifs at second returned
    · cases returned
      rfl
    · cases returned
      rfl

theorem rejected_shared_show (fits : status shared.pFbmFirst pVPicture < 2 ^ 32)
    (rejected : rejectsShared shared stream (.returnPicture pVPicture) = true)
    (returned : sharedReturnPicture shared stream pVPicture = some (after, result)) :
    Same after shared ↔ inUse (status shared.pFbmFirst pVPicture) (dispUse stream) = false := by
  rw [show_goes_on rejected returned, ← take_same_iff (dispUse stream) fits, ← set_status_same_iff]
  unfold Same
  simp

theorem rejected_shared_request (asked : op = .requestBuffer ∨ op = .requestPicture)
    (rejected : rejectsShared shared stream op = true)
    (called : callShared shared stream op = some after) :
    rejectsFbm shared.pFbmFirst op = true ∧ callFbm shared.pFbmFirst op = some after.pFbmFirst ∧
        after.pFbmSecond = shared.pFbmSecond := by
  rcases asked with rfl | rfl
  · simp only [rejectsShared, Bool.and_eq_true, decide_eq_true_eq] at rejected
    rcases rejected with ⟨rfl, rejected⟩
    apply And.intro rejected
    have nothing := (request_buffer_rejects_iff.mp rejected).2
    have same := Option.some.inj called
    unfold sharedRequestBuffer at same
    dsimp only at same
    unfold callFbm
    split at same
    · rename_i fbm left
      rw [left, ← same]
      exact ⟨rfl, rfl⟩
    · rename_i fbm node left
      rw [left] at nothing
      cases nothing
  · simp only [rejectsShared, Bool.and_eq_true, decide_eq_true_eq] at rejected
    rcases rejected with ⟨rfl, rejected⟩
    apply And.intro rejected
    rw [← Option.some.inj called]
    exact ⟨rfl, rfl⟩

theorem rejected_shared_queue (asked : op = .flush ∨ ∃ picture, op = .shareBuffer picture)
    (rejected : rejectsShared shared stream op = true)
    (called : callShared shared stream op = some after) :
    rejectsFbm shared.pFbmFirst op = true ∧ callFbm shared.pFbmFirst op = some after.pFbmFirst ∧
        after.pFbmSecond = shared.pFbmSecond := by
  rcases asked with rfl | ⟨picture, rfl⟩
  all_goals
    simp only [rejectsShared, Bool.and_eq_true, decide_eq_true_eq] at rejected
    rcases rejected with ⟨rfl, rejected⟩
    apply And.intro rejected
    rcases map_eq_some_iff.mp called with ⟨fbm, inner, rfl⟩
    exact ⟨inner, rfl⟩

/-- A call without a prologue on the picture is one of the first manager's. -/
theorem rejected_shared_first (first : rejectsFbm shared.pFbmFirst op = true ∧
      callFbm shared.pFbmFirst op = some after.pFbmFirst ∧ after.pFbmSecond = shared.pFbmSecond) :
    Same after shared ↔ ChecksFirst shared.pFbmFirst op := by
  rw [← rejected_call_keeps op first.1 first.2.1]
  exact and_iff_left first.2.2

end Shared

/-- A rejected call leaves the managers as they were exactly where its check stands before
every write, the one on the picture's use included. -/
theorem rejected_call_changes_nothing_iff (info after : VideoFbmInfo) (stream : Stream)
    (op : Call) (fits : StatusFits info) (rejected : rejects info stream op = true)
    (called : call info stream op = some after) :
    after.fbms = info.fbms ↔ Unwritten info stream op := by
  cases info with
  | single fbm =>
    rcases map_eq_some_iff.mp called with ⟨left, inner, rfl⟩
    have keeps := rejected_call_keeps op rejected inner
    unfold VideoFbmInfo.fbms Unwritten
    simpa using keeps
  | twoStreamShareOneFbm shared =>
    rcases map_eq_some_iff.mp called with ⟨left, inner, rfl⟩
    have same : VideoFbmInfo.fbms (.twoStreamShareOneFbm left) =
        VideoFbmInfo.fbms (.twoStreamShareOneFbm shared) ↔ Same left shared := by
      unfold VideoFbmInfo.fbms Same
      simp
    rw [same]
    cases op with
    | requestBuffer =>
      have first := rejected_shared_request (.inl rfl) rejected inner
      exact (rejected_shared_first first).trans (and_iff_left trivial).symm
    | shareBuffer pVPicture =>
      have first := rejected_shared_queue (.inr ⟨pVPicture, rfl⟩) rejected inner
      exact (rejected_shared_first first).trans (and_iff_left trivial).symm
    | returnBuffer pVPicture bValidPicture =>
      exact rejected_shared_return (fits pVPicture) rejected inner
    | requestPicture =>
      have first := rejected_shared_request (.inr rfl) rejected inner
      exact (rejected_shared_first first).trans (and_iff_left trivial).symm
    | returnPicture pVPicture =>
      rcases map_eq_some_iff.mp inner with ⟨⟨kept, result⟩, returned, rfl⟩
      have unused := rejected_shared_show (fits pVPicture) rejected returned
      unfold Unwritten ChecksFirst givesUpNothing
      simpa using unused
    | flush =>
      have first := rejected_shared_queue (.inl rfl) rejected inner
      exact (rejected_shared_first first).trans (and_iff_left trivial).symm

/-- A frame that the decoder returned while the renderer held it and the manager was being
released comes back to the empty queue with the renderer's flag. -/
def handedBack : Option Fbm :=
  (fbmCreateBuffer 1 true).bind fun fbm =>
    (fbmSetFbmBufAddress fbm 0 false).bind fun (fbm, _) =>
      (fbmShareBuffer (fbmRequestBuffer fbm).1 0).bind fun fbm =>
        (fbmSetNewDispRelease (fbmRequestPicture fbm).1).bind fun fbm =>
          (fbmReturnBuffer fbm 0 true).bind fun fbm =>
            (fbmReturnReleasePicture (fbmRequestReleasePicture fbm).1 1 false).map Prod.fst

def handedBackFbm : Fbm := handedBack.get (by decide)

/-- The request takes it out of the queue before it finds the flag, and nobody has it. -/
theorem request_loses_frame :
    ¬∀ (info after : VideoFbmInfo) (stream : Stream) (op : Call), StatusFits info →
      rejects info stream op = true → call info stream op = some after →
        after.fbms = info.fbms := by
  intro atomic
  have same := atomic (.single handedBackFbm) (.single (fbmRequestBuffer handedBackFbm).1)
    .major .requestBuffer trivial (by decide) rfl
  have heads := congrArg (List.map fun fbm => fbm.head .pEmptyBufferQueue) same
  revert heads
  decide

/-- Its request fails a check that comes behind the dequeue. -/
theorem lost_frame_changes : VideoFbmInfo.fbms (.single (fbmRequestBuffer handedBackFbm).1) ≠
      VideoFbmInfo.fbms (.single handedBackFbm) := fun same =>
  (rejected_call_changes_nothing_iff (.single handedBackFbm)
    (.single (fbmRequestBuffer handedBackFbm).1) .major .requestBuffer trivial
    (by decide) rfl).mp same

end CedarC.FbmRejections
