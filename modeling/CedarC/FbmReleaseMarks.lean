import CedarC.FbmOwnership

/-!
# The release marks of the frames

What every call does to `bNeedRelease` and to the buffers of the nodes, whatever
state it finds: only `FbmSetNewDispRelease` sets marks and only
`FbmReturnReleasePicture` clears one.
-/

namespace CedarC.FbmReleaseMarks

open GuardedRuns FbmFrameModel FbmFramePool FbmOwnership Option Function

/-- What a picture describes apart from its id, with the release mark of its node. -/
def contents (fbm : Fbm) (node : Nat) : Bool × Nat × Nat :=
  ((fbm.flag node).bNeedRelease, (fbm.pFrames node).vpicture.nBufId,
    (fbm.pFrames node).vpicture.nBufStatus)

def labels (fbm : Fbm) (node : Nat) : Bool × Nat :=
  ((fbm.flag node).bNeedRelease, (fbm.pFrames node).vpicture.nBufId)

def marked (fbm : Fbm) (node : Nat) : Bool := (labels fbm node).1

section Fields

variable {fbm fbm' : Fbm} {queue : FbmQueue} {node : Nat}

theorem contents_of_frames (same : fbm'.pFrames = fbm.pFrames) : contents fbm' = contents fbm := by
  funext other
  unfold contents Fbm.flag
  rw [same]

theorem labels_of_contents (same : contents fbm' = contents fbm) : labels fbm' = labels fbm := by
  funext other
  have here := congrFun same other
  exact congrArg (fun content => (content.1, content.2.1)) here

theorem contents_of_update {frame : FrameNode}
    (frames : fbm'.pFrames = Function.update fbm.pFrames node frame)
    (content : (frame.flag.bNeedRelease, frame.vpicture.nBufId, frame.vpicture.nBufStatus) =
      contents fbm node) : contents fbm' = contents fbm := by
  funext other
  unfold contents Fbm.flag
  rw [frames]
  by_cases here : other = node
  · rw [here, update_self]
    exact content
  · rw [update_of_ne here]

theorem labels_of_update {frame : FrameNode}
    (frames : fbm'.pFrames = Function.update fbm.pFrames node frame)
    (label : (frame.flag.bNeedRelease, frame.vpicture.nBufId) = labels fbm node) :
    labels fbm' = labels fbm := by
  funext other
  unfold labels Fbm.flag
  rw [frames]
  by_cases here : other = node
  · rw [here, update_self]
    exact label
  · rw [update_of_ne here]

theorem enqueued_contents {between : Fbm} (entered : fbmEnqueue fbm queue node = some between)
    (same : fbm'.pFrames = between.pFrames) : contents fbm' = contents fbm := by
  unfold fbmEnqueue at entered
  obtain ⟨⟨next, head⟩, _, rfl⟩ := map_eq_some_iff.mp entered
  exact contents_of_frames same

theorem enqueued_labels {between : Fbm} (entered : fbmEnqueue fbm queue node = some between)
    (same : fbm'.pFrames = between.pFrames) : labels fbm' = labels fbm :=
  labels_of_contents (enqueued_contents entered same)

theorem dequeue_contents : contents (fbmDequeue fbm queue).1 = contents fbm :=
  contents_of_frames rfl

theorem dequeue_labels : labels (fbmDequeue fbm queue).1 = labels fbm :=
  labels_of_contents dequeue_contents

end Fields

section Calls

variable {fbm fbm' : Fbm} {node : Nat}

theorem request_buffer_contents : contents (fbmRequestBuffer fbm).1 = contents fbm := by
  have taken := @dequeue_contents fbm .pEmptyBufferQueue
  unfold fbmRequestBuffer
  generalize fbmDequeue fbm .pEmptyBufferQueue = result at taken ⊢
  obtain ⟨after, front⟩ := result
  cases front with
  | none => exact taken
  | some node =>
    dsimp only
    split_ifs
    · exact taken
    · rw [← taken]
      exact contents_of_update rfl rfl

variable {bValidPicture bForbidUseFlag bUseGpuBuf : Bool} {fuel nBufId nFrameNum : Nat}

theorem return_node_contents
    (call : fbmReturnNode fbm node bValidPicture = some fbm') : contents fbm' = contents fbm := by
  unfold fbmReturnNode at call
  have given : contents (fbm.setFlag node fun flag => { flag with bUsedByDecoder := false }) =
      contents fbm := contents_of_update rfl rfl
  dsimp only at call
  rw [← given]
  generalize (fbm.setFlag node fun flag => { flag with bUsedByDecoder := false }) = free
    at call given ⊢
  split_ifs at call
  · rw [given]
    cases call
    rfl
  · obtain ⟨after, entered, rfl⟩ := map_eq_some_iff.mp call
    rw [← @enqueued_contents _ _ _ _ _ entered rfl]
    exact contents_of_update rfl rfl
  · cases call
    rfl
  · cases call
    rfl
  · cases call
    rfl
  · obtain ⟨after, entered, rfl⟩ := map_eq_some_iff.mp call
    exact (enqueued_contents entered rfl).trans (contents_of_update rfl rfl)
  · obtain ⟨after, entered, rfl⟩ := map_eq_some_iff.mp call
    rw [← @enqueued_contents _ _ _ _ _ entered rfl]
    exact contents_of_update rfl rfl
  · obtain ⟨after, entered, rfl⟩ := map_eq_some_iff.mp call
    exact enqueued_contents entered rfl

theorem return_buffer_contents (call : fbmReturnBuffer fbm node bValidPicture = some fbm') :
    contents fbm' = contents fbm := by
  unfold fbmReturnBuffer at call
  dsimp only at call
  split_ifs at call
  · cases call
    rfl
  · cases call
    rfl
  · exact return_node_contents call

theorem share_buffer_contents (call : fbmShareBuffer fbm node = some fbm') :
    contents fbm' = contents fbm := by
  unfold fbmShareBuffer at call
  dsimp only at call
  split_ifs at call
  · cases call
    rfl
  · cases call
    rfl
  · cases call
    rfl
  · cases call
    rfl
  · obtain ⟨after, entered, rfl⟩ := map_eq_some_iff.mp call
    exact (enqueued_contents entered rfl).trans (contents_of_update rfl rfl)

theorem request_picture_labels : labels (fbmRequestPicture fbm).1 = labels fbm := by
  have taken := @dequeue_labels fbm .pValidPictureQueue
  unfold fbmRequestPicture
  generalize fbmDequeue fbm .pValidPictureQueue = result at taken ⊢
  obtain ⟨after, front⟩ := result
  cases front with
  | none => exact taken
  | some node =>
    dsimp only
    split_ifs
    · exact taken
    · rw [← taken]
      have shown : labels (after.setFlag node fun flag =>
          { flag with bInValidPictureQueue := false, bUsedByRender := true }) = labels after :=
        labels_of_update rfl rfl
      rw [← shown]
      exact labels_of_update rfl rfl

theorem return_picture_contents {result : Int}
    (call : fbmReturnPicture fbm node = some (fbm', result)) : contents fbm' = contents fbm := by
  unfold fbmReturnPicture fbmReturnForbidden fbmReturnShown at call
  dsimp only at call
  have given : contents { fbm.setFlag (fbm.nID node) fun flag =>
        { flag with bUsedByRender := false } with
      nRenderHoldingNum := fbm.nRenderHoldingNum - 1 } = contents fbm :=
    contents_of_update rfl rfl
  split_ifs at call
  · cases call
    rfl
  · obtain ⟨after, entered, returned⟩ := map_eq_some_iff.mp call
    cases returned
    rw [← @enqueued_contents _ _ _ _ _ entered rfl]
    exact contents_of_update rfl rfl
  · cases call
    rfl
  · cases call
    rfl
  · cases call
    rfl
  · cases call
    rw [← given]
    exact contents_of_update rfl rfl
  all_goals
    obtain ⟨after, entered, returned⟩ := map_eq_some_iff.mp call
    cases returned
    rw [← given]
    exact enqueued_contents entered rfl

theorem flush_loop_labels (call : fbmFlushLoop fuel fbm = some fbm') :
    labels fbm' = labels fbm := by
  induction fuel generalizing fbm with
  | zero => cases call
  | succ fuel induction =>
    have taken := @dequeue_labels fbm .pValidPictureQueue
    unfold fbmFlushLoop at call
    generalize fbmDequeue fbm .pValidPictureQueue = result at taken call
    obtain ⟨after, front⟩ := result
    rw [← taken]
    cases front with
    | none =>
      cases call
      rfl
    | some node =>
      dsimp only at call
      have cleared : labels { after.setPicture node fun picture =>
            { picture with nBufStatus := 0 } with
          nValidPictureNum := after.nValidPictureNum - 1 } = labels after :=
        labels_of_update rfl rfl
      generalize Fbm.mk _ _ _ _ _ _ _ _ _ _ _ _ = cleaned at cleared call
      dsimp only
      rw [← cleared]
      split_ifs at call
      · cases call
        rfl
      · obtain ⟨entered, enqueued, rest⟩ := bind_eq_some_iff.mp call
        rw [induction rest]
        have unqueued : labels (cleaned.setFlag node fun flag =>
            { flag with bInValidPictureQueue := false }) = labels cleaned :=
          labels_of_update rfl rfl
        rw [← unqueued]
        exact enqueued_labels enqueued rfl
      · rw [induction call]
        have unqueued : labels (cleaned.setFlag node fun flag =>
            { flag with bInValidPictureQueue := false }) = labels cleaned :=
          labels_of_update rfl rfl
        rw [← unqueued]
        exact labels_of_update rfl rfl

theorem drain_loop_contents (call : fbmNewDispReleaseLoop fuel fbm = some fbm') :
    contents fbm' = contents fbm := by
  induction fuel generalizing fbm with
  | zero => cases call
  | succ fuel induction =>
    have taken := @dequeue_contents fbm .pEmptyBufferQueue
    unfold fbmNewDispReleaseLoop at call
    generalize fbmDequeue fbm .pEmptyBufferQueue = result at taken call
    obtain ⟨after, front⟩ := result
    rw [← taken]
    cases front with
    | none =>
      cases call
      rfl
    | some node =>
      dsimp only at call
      split_ifs at call
      · cases call
        rfl
      · obtain ⟨entered, enqueued, rest⟩ := bind_eq_some_iff.mp call
        rw [induction rest]
        exact (enqueued_contents enqueued rfl).trans (contents_of_frames rfl)

theorem request_release_picture_contents :
    contents (fbmRequestReleasePicture fbm).1 = contents fbm := by
  have taken := @dequeue_contents fbm .pReleaseBufferQueue
  unfold fbmRequestReleasePicture
  generalize fbmDequeue fbm .pReleaseBufferQueue = result at taken ⊢
  obtain ⟨after, front⟩ := result
  cases front with
  | none => exact taken
  | some node =>
    rw [← taken]
    exact contents_of_update rfl rfl

theorem mark_labels (node : Nat) : labels (fbmMarkNeedRelease fbm) node =
      (marked fbm node || decide (node < fbm.nMaxFrameNum ∧
        (labels fbm node).2 ≠ FBM_NEW_DISP_INVALID_TAG), (labels fbm node).2) := by
  unfold marked labels fbmMarkNeedRelease Fbm.flag
  dsimp only
  split_ifs with buffered
  · rw [decide_eq_true buffered, Bool.or_true]
  · rw [decide_eq_false buffered, Bool.or_false]

theorem set_new_disp_release_labels (call : fbmSetNewDispRelease fbm = some fbm') :
    labels fbm' = labels (fbmMarkNeedRelease fbm) := by
  unfold fbmSetNewDispRelease at call
  obtain ⟨between, flushed, drained⟩ := bind_eq_some_iff.mp call
  exact (labels_of_contents (drain_loop_contents drained)).trans (flush_loop_labels flushed)

theorem return_release_picture_labels {result : Option Nat}
    (call : fbmReturnReleasePicture fbm nBufId bForbidUseFlag = some (fbm', result)) :
    result = fbmReleaseSlot fbm ∧ ∀ other, labels fbm' other =
        if fbmReleaseSlot fbm = some other then (false, nBufId) else labels fbm other := by
  unfold fbmReturnReleasePicture at call
  cases slot : fbmReleaseSlot fbm with
  | none =>
    rw [slot] at call
    cases call
    exact ⟨rfl, fun other => rfl⟩
  | some index =>
    rw [slot] at call
    dsimp only at call
    have renewed : ∀ after : Fbm, labels after = labels ((fbm.setFlag index fun flag =>
          { flag with bNeedRelease := false }).setPicture index fun picture =>
            { picture with nBufId := nBufId, nID := index }) →
        ∀ other, labels after other =
          if some index = some other then (false, nBufId) else labels fbm other := by
      intro after same other
      rw [same]
      unfold labels
      rw [Fbm.flag_setPicture]
      by_cases here : other = index
      · subst here
        simp [Fbm.setPicture]
      · have different : index ≠ other := Ne.symm here
        simp [Fbm.flag, Fbm.setFlag, Fbm.setPicture, here, different]
    split_ifs at call
    · obtain ⟨after, entered, returned⟩ := map_eq_some_iff.mp call
      cases returned
      exact ⟨rfl, renewed _ (enqueued_labels entered rfl)⟩
    · cases call
      exact ⟨rfl, renewed _ (labels_of_update rfl rfl)⟩

theorem set_fbm_buf_address_labels
    (call : fbmSetFbmBufAddress fbm nBufId bForbidUseFlag = some (fbm', node)) (other : Nat) :
    labels fbm' other =
      if fbm.nValidBufNum = other then (marked fbm other, nBufId) else labels fbm other := by
  unfold fbmSetFbmBufAddress at call
  dsimp only at call
  have given : labels (fbm.setPicture fbm.nValidBufNum fun picture =>
        { picture with nBufId := nBufId, nID := fbm.nValidBufNum }) other =
      if fbm.nValidBufNum = other then (marked fbm other, nBufId) else labels fbm other := by
    unfold marked labels
    rw [Fbm.flag_setPicture]
    by_cases here : other = fbm.nValidBufNum
    · simp [Fbm.setPicture, here]
    · have different : fbm.nValidBufNum ≠ other := Ne.symm here
      simp [Fbm.setPicture, here, different]
  rw [← given]
  apply congrFun
  split_ifs at call
  · obtain ⟨after, entered, returned⟩ := map_eq_some_iff.mp call
    cases returned
    exact enqueued_labels entered rfl
  · cases call
    exact labels_of_update rfl rfl

theorem create_loop_contents {nodes : List Nat}
    (loop : nodes.foldlM (fun fbm node => fbmEnqueue fbm .pEmptyBufferQueue node) fbm =
      some fbm') : contents fbm' = contents fbm := by
  induction nodes generalizing fbm with
  | nil =>
    cases loop
    rfl
  | cons node rest induction =>
    rw [List.foldlM_cons] at loop
    obtain ⟨between, entered, later⟩ := bind_eq_some_iff.mp loop
    rw [induction later]
    exact enqueued_contents entered rfl

theorem create_contents (created : fbmCreateBuffer nFrameNum bUseGpuBuf = some fbm) (node : Nat) :
    contents fbm node = (false, FBM_NEW_DISP_INVALID_TAG, 0) := by
  unfold fbmCreateBuffer at created
  dsimp only at created
  split_ifs at created
  · cases created
    rfl
  · obtain ⟨between, loop, rfl⟩ := map_eq_some_iff.mp created
    have same := congrFun (create_loop_contents loop) node
    exact same

theorem create_labels (created : fbmCreateBuffer nFrameNum bUseGpuBuf = some fbm) (node : Nat) :
    labels fbm node = (false, FBM_NEW_DISP_INVALID_TAG) :=
  congrArg (fun content => (content.1, content.2.1)) (create_contents created node)

end Calls

def labelsAfter (fbm : Fbm) : FbmOp → Nat → Bool × Nat
  | .setNewDispRelease => labels (fbmMarkNeedRelease fbm)
  | .returnReleasePicture nBufId _ => fun node =>
    if fbmReleaseSlot fbm = some node then (false, nBufId) else labels fbm node
  | .setFbmBufAddress nBufId _ => fun node =>
    if fbm.nValidBufNum = node then (marked fbm node, nBufId) else labels fbm node
  | _ => labels fbm

theorem exec_labels {system system' : FbmSystem} {op : FbmOp}
    (step : exec system op = some system') :
    labels system'.fbm = labelsAfter system.fbm op := by
  cases op with
  | requestBuffer =>
    have call := labels_of_contents (@request_buffer_contents system.fbm)
    unfold exec at step
    generalize fbmRequestBuffer system.fbm = result at call step
    obtain ⟨after, _ | node⟩ := result
    · cases step
      exact call
    · cases step
      exact call
  | shareBuffer picture =>
    obtain ⟨after, call, rfl⟩ := map_eq_some_iff.mp step
    exact labels_of_contents (share_buffer_contents call)
  | returnBuffer picture bValidPicture =>
    obtain ⟨after, call, rfl⟩ := map_eq_some_iff.mp step
    exact labels_of_contents (return_buffer_contents call)
  | requestPicture =>
    have call := @request_picture_labels system.fbm
    unfold exec at step
    generalize fbmRequestPicture system.fbm = result at call step
    obtain ⟨after, _ | node⟩ := result
    · cases step
      exact call
    · cases step
      exact call
  | returnPicture picture =>
    obtain ⟨⟨after, result⟩, call, rfl⟩ := map_eq_some_iff.mp step
    exact labels_of_contents (return_picture_contents call)
  | flush =>
    obtain ⟨after, call, rfl⟩ := map_eq_some_iff.mp step
    exact flush_loop_labels call
  | setNewDispRelease =>
    obtain ⟨after, call, rfl⟩ := map_eq_some_iff.mp step
    exact set_new_disp_release_labels call
  | requestReleasePicture =>
    have call := labels_of_contents (@request_release_picture_contents system.fbm)
    unfold exec at step
    generalize fbmRequestReleasePicture system.fbm = result at call step
    obtain ⟨after, _ | node⟩ := result
    · cases step
      exact call
    · cases step
      exact call
  | returnReleasePicture nBufId bForbidUseFlag =>
    obtain ⟨⟨after, _ | node⟩, call, rfl⟩ := map_eq_some_iff.mp step
    all_goals exact funext (return_release_picture_labels call).2
  | setFbmBufAddress nBufId bForbidUseFlag =>
    obtain ⟨⟨after, node⟩, call, rfl⟩ := map_eq_some_iff.mp step
    exact funext (set_fbm_buf_address_labels call)

end CedarC.FbmReleaseMarks
