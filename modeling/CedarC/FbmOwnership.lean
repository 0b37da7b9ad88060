import CedarC.FbmOperationSteps
import CedarC.GuardedRuns

/-!
# Ownership of the frames of one Fbm

The system is the manager together with what the decoder, the renderer and the
release client hold, as the results of the calls tell them. A legal operation
only shares or returns what its caller holds. A frame is owned when it is in
one list or in the hands of a client, and only a frame that waits for display
may be both, with the decoder.
-/

namespace CedarC.FbmOwnership

open List Option Function

open GuardedRuns LinkedChain FbmFrameModel FbmFramePool FbmRefinement FbmOperationSteps FramePlace

structure FbmSystem where
  fbm : Fbm
  decoderHolds : Nat → Bool
  /-- shared since the decoder got the frame -/
  decoderShared : Nat → Bool
  renderHolds : Nat → Bool
  releaseHolds : Nat → Bool

def FbmSystem.start (nFrameNum : Nat) (bUseGpuBuf : Bool) : Option FbmSystem :=
  (fbmCreateBuffer nFrameNum bUseGpuBuf).map fun fbm =>
    { fbm := fbm
      decoderHolds := fun _ => false
      decoderShared := fun _ => false
      renderHolds := fun _ => false
      releaseHolds := fun _ => false }

/-- A frame is given to the manager by creation or by `FbmSetFbmBufAddress`. -/
def FbmSystem.given (system : FbmSystem) (node : Nat) : Prop :=
  node < if system.fbm.bUseGpuBuf then system.fbm.nValidBufNum else system.fbm.nMaxFrameNum

instance (system : FbmSystem) (node : Nat) : Decidable (system.given node) :=
  inferInstanceAs (Decidable (_ < _))

/-- One call and the change of hands its result stands for. A picture that
`FbmReturnPicture` refuses stays with the renderer; a buffer with the forbid
tag is with the application, which returns it as the renderer does. -/
def exec (system : FbmSystem) : FbmOp → Option FbmSystem
  | .requestBuffer =>
    match fbmRequestBuffer system.fbm with
    | (fbm, none) => some { system with fbm := fbm }
    | (fbm, some node) =>
      some { system with
        fbm := fbm
        decoderHolds := Function.update system.decoderHolds node true
        decoderShared := Function.update system.decoderShared node false }
  | .shareBuffer picture =>
    (fbmShareBuffer system.fbm picture).map fun fbm =>
      { system with
        fbm := fbm
        decoderShared := Function.update system.decoderShared picture true }
  | .returnBuffer picture bValidPicture =>
    (fbmReturnBuffer system.fbm picture bValidPicture).map fun fbm =>
      { system with
        fbm := fbm
        decoderHolds := Function.update system.decoderHolds picture false }
  | .requestPicture =>
    match fbmRequestPicture system.fbm with
    | (fbm, none) => some { system with fbm := fbm }
    | (fbm, some node) =>
      some { system with
        fbm := fbm
        renderHolds := Function.update system.renderHolds node true }
  | .returnPicture picture =>
    (fbmReturnPicture system.fbm picture).map fun (fbm, result) =>
      { system with
        fbm := fbm
        renderHolds :=
          if result = 0 then Function.update system.renderHolds picture false
          else system.renderHolds }
  | .flush => (fbmFlush system.fbm).map fun fbm => { system with fbm := fbm }
  | .setNewDispRelease =>
    (fbmSetNewDispRelease system.fbm).map fun fbm => { system with fbm := fbm }
  | .requestReleasePicture =>
    match fbmRequestReleasePicture system.fbm with
    | (fbm, none) => some { system with fbm := fbm }
    | (fbm, some node) =>
      some { system with
        fbm := fbm
        releaseHolds := Function.update system.releaseHolds node true }
  | .returnReleasePicture nBufId bForbidUseFlag =>
    (fbmReturnReleasePicture system.fbm nBufId bForbidUseFlag).map fun
      | (fbm, none) => { system with fbm := fbm }
      | (fbm, some node) =>
        { system with
          fbm := fbm
          releaseHolds := Function.update system.releaseHolds node false
          renderHolds := Function.update system.renderHolds node bForbidUseFlag }
  | .setFbmBufAddress nBufId bForbidUseFlag =>
    (fbmSetFbmBufAddress system.fbm nBufId bForbidUseFlag).map fun (fbm, node) =>
      { system with
        fbm := fbm
        renderHolds := Function.update system.renderHolds node bForbidUseFlag }

def Legal (system : FbmSystem) : FbmOp → Prop
  | .shareBuffer picture =>
    system.decoderHolds picture = true ∧ system.decoderShared picture = false
  | .returnBuffer picture _ => system.decoderHolds picture = true
  | .returnPicture picture => system.renderHolds picture = true
  | .setFbmBufAddress _ _ =>
    system.fbm.bUseGpuBuf = true ∧ system.fbm.nValidBufNum < system.fbm.nMaxFrameNum
  | _ => True

instance (system : FbmSystem) : ∀ op, Decidable (Legal system op)
  | .shareBuffer _ => inferInstanceAs (Decidable (_ ∧ _))
  | .returnBuffer _ _ | .returnPicture _ => inferInstanceAs (Decidable (_ = _))
  | .setFbmBufAddress _ _ => inferInstanceAs (Decidable (_ ∧ _))
  | .requestBuffer | .requestPicture | .flush | .setNewDispRelease | .requestReleasePicture
  | .returnReleasePicture _ _ => inferInstanceAs (Decidable True)

def LooksReleased (fbm : Fbm) (node : Nat) : Prop :=
  (fbm.flag node).bNeedRelease = true ∧ fbm.nID node = FRM_RELEASE_TAG
deriving Decidable

/-- The decoder does not return a frame that is to be released while the
renderer uses it, and the first frame that looks released is a released one. -/
def ReleaseSafe (system : FbmSystem) : FbmOp → Prop
  | .returnBuffer picture _ =>
    ((system.fbm.flag picture).bNeedRelease && !(system.fbm.flag picture).bInValidPictureQueue &&
      (system.fbm.flag picture).bUsedByRender) = false
  | .returnReleasePicture _ _ =>
    ∀ node < system.fbm.nMaxFrameNum, LooksReleased system.fbm node →
      (∀ earlier < node, ¬ LooksReleased system.fbm earlier) → system.releaseHolds node = true
  | _ => True

instance (system : FbmSystem) : ∀ op, Decidable (ReleaseSafe system op)
  | .returnBuffer _ _ => inferInstanceAs (Decidable (_ = _))
  | .returnReleasePicture _ _ => inferInstanceAs (Decidable (∀ node < _, _ → _ → _))
  | .requestBuffer | .shareBuffer _ | .requestPicture | .returnPicture _ | .flush
  | .setNewDispRelease | .requestReleasePicture | .setFbmBufAddress _ _ =>
    inferInstanceAs (Decidable True)

def FbmSystem.queued (system : FbmSystem) (queue : FbmQueue) : Option (List Nat) :=
  nodesFrom system.fbm.pNext system.fbm.nMaxFrameNum (system.fbm.head queue)

/-- The frame is in one place, given the three lists. -/
def PlacedOnce (system : FbmSystem) (empty valid release : List Nat) (node : Nat) : Prop :=
  (node ∈ empty ++ valid ++ release ∨ system.decoderHolds node = true ∨
      system.renderHolds node = true ∨ system.releaseHolds node = true) ∧
    (node ∈ empty ++ release → system.decoderHolds node = false) ∧
    (node ∈ empty ++ valid ++ release →
      system.renderHolds node = false ∧ system.releaseHolds node = false)
deriving Decidable

/-- The three lists end, no node is in two of them or twice in one, and every
frame that was given is in one place. -/
def FramesOwned (system : FbmSystem) : Prop :=
  ∃ empty ∈ system.queued .pEmptyBufferQueue, ∃ valid ∈ system.queued .pValidPictureQueue,
    ∃ release ∈ system.queued .pReleaseBufferQueue, (empty ++ valid ++ release).Nodup ∧
        ∀ node < system.fbm.nMaxFrameNum,
          system.given node → PlacedOnce system empty valid release node

instance (system : FbmSystem) : Decidable (FramesOwned system) :=
  inferInstanceAs (Decidable (∃ empty ∈ (_ : Option (List Nat)), _))

def poolAfter (fbm : Fbm) (pool : FramePool) : FbmOp → FramePool
  | .requestBuffer => pool.moveHead .pEmptyBufferQueue fun _ => .decoding
  | .shareBuffer picture =>
    if (fbm.flag picture).bNeedRelease then pool else pool.move picture .shared
  | .returnBuffer picture bValidPicture =>
    pool.move picture (FramePool.returnedByDecoder (fbm.flag picture).bNeedRelease bValidPicture
      (pool.place picture))
  | .requestPicture => pool.moveHead .pValidPictureQueue FramePool.takenForDisplay
  | .returnPicture picture =>
    pool.move picture (FramePool.returnedByRender fbm.nMaxFrameNum picture
      (fbm.flag picture).bNeedRelease (pool.place picture))
  | .flush => pool.flush
  | .setNewDispRelease => pool.flush.drainEmpty
  | .requestReleasePicture => pool.moveHead .pReleaseBufferQueue fun _ => .released
  | .returnReleasePicture _ bForbidUseFlag =>
    match fbmReleaseSlot fbm with
    | none => pool
    | some node => pool.move node (if bForbidUseFlag then .forbidden else .empty)
  | .setFbmBufAddress _ bForbidUseFlag =>
    pool.move fbm.nValidBufNum (if bForbidUseFlag then .forbidden else .empty)

def driftOf (fbm : Fbm) (pool : FramePool) : FbmOp → FbmCounter → Int
  | .returnBuffer picture _ => returnDrift fbm picture
  | .flush | .setNewDispRelease =>
    Pi.single .nWaitForDispNum ((pool.queues .pValidPictureQueue).length : Int)
  | _ => 0

def wasShared : FramePlace → Bool
  | .shared | .showing | .shown => true
  | .absent | .empty | .decoding | .ready | .displayed | .releasing | .released
  | .forbidden => false

structure Agrees (system : FbmSystem) (pool : FramePool) : Prop where
  represents : Represents system.fbm pool
  given : ∀ node, pool.place node ≠ .absent ↔ system.given node
  decoder : ∀ node, system.decoderHolds node = (pool.place node).heldByDecoder
  render : ∀ node, system.renderHolds node = (pool.place node).heldByRender
  release : ∀ node, system.releaseHolds node = (pool.place node).heldForRelease
  sharing : ∀ node, wasShared (pool.place node) = true → system.decoderShared node = true

section Holders

variable {pool : FramePool} {held : FramePlace → Bool} {holds : Nat → Bool}

theorem holders_move (agree : ∀ node, holds node = held (pool.place node)) (node : Nat)
    (target : FramePlace) (other : Nat) :
    Function.update holds node (held target) other = held ((pool.move node target).place other) := by
  by_cases here : other = node
  · subst here
    simp
  · rw [update_of_ne here, FramePool.move_place_other pool target here]
    exact agree other

theorem holders_kept (agree : ∀ node, holds node = held (pool.place node)) {node : Nat}
    {target : FramePlace} (same : held target = held (pool.place node)) (other : Nat) :
    holds other = held ((pool.move node target).place other) := by
  by_cases here : other = node
  · subst here
    rw [FramePool.move_place_self, same]
    exact agree other
  · rw [FramePool.move_place_other pool target here]
    exact agree other

end Holders

theorem absent_kept {pool : FramePool} {node : Nat} {target : FramePlace}
    (present : pool.place node ≠ .absent) (kept : target ≠ .absent) (other : Nat) :
    (pool.move node target).place other ≠ .absent ↔ pool.place other ≠ .absent := by
  by_cases here : other = node
  · subst here
    simp [present, kept]
  · rw [FramePool.move_place_other pool target here]

/-- The search of `FbmReturnReleasePicture` stops at the first such frame. -/
theorem release_slot_first {fbm : Fbm} {index : Nat} (slot : fbmReleaseSlot fbm = some index) :
    index < fbm.nMaxFrameNum ∧ LooksReleased fbm index ∧
      ∀ earlier < index, ¬ LooksReleased fbm earlier := by
  unfold fbmReleaseSlot at slot
  rw [List.find?_range_eq_some] at slot
  rcases slot with ⟨found, member, first⟩
  refine ⟨mem_range.mp member, by simpa [LooksReleased] using found, ?_⟩
  intro earlier before looks
  have refused := first earlier before
  simp [looks.1, looks.2] at refused

section Agreement

variable {system : FbmSystem} {pool : FramePool}

theorem given_kept {fbm' : Fbm} {pool' : FramePool} {drift : FbmCounter → Int}
    {decoderHolds decoderShared renderHolds releaseHolds : Nat → Bool}
    (agrees : Agrees system pool) (advances : Advances system.fbm fbm' pool pool' drift)
    (same : ∀ node, pool'.place node ≠ .absent ↔ pool.place node ≠ .absent) (node : Nat) :
    pool'.place node ≠ .absent ↔
      FbmSystem.given ⟨fbm', decoderHolds, decoderShared, renderHolds, releaseHolds⟩ node := by
  rw [same node, agrees.given node]
  unfold FbmSystem.given
  rw [advances.gpu, advances.buffers, advances.size]

theorem sharing_kept (agrees : Agrees system pool) {node : Nat} {target : FramePlace}
    (sound : wasShared target = true → wasShared (pool.place node) = true) (other : Nat)
    (shared : wasShared ((pool.move node target).place other) = true) :
    system.decoderShared other = true := by
  apply agrees.sharing
  by_cases here : other = node
  · subst here
    rw [FramePool.move_place_self] at shared
    exact sound shared
  · rwa [FramePool.move_place_other pool target here] at shared

/-- A request moves the head of its queue, and the system records who has it. -/
theorem agrees_request {op : FbmOp} {queue : FbmQueue} {target : FramePlace → FramePlace}
    {request : Fbm × Option Nat} {granted : Fbm → Nat → FbmSystem} (agrees : Agrees system pool)
    (called : exec system op = match request with
      | (fbm, none) => some { system with fbm := fbm }
      | (fbm, some node) => some (granted fbm node))
    (taken : request.2 = (pool.queues queue).head? ∧
      Advances system.fbm request.1 pool (pool.moveHead queue target) 0)
    (recorded : ∀ fbm node, (pool.place node).queue = some queue →
      Advances system.fbm fbm pool (pool.move node (target (pool.place node))) 0 →
      (granted fbm node).fbm = fbm ∧
        Agrees (granted fbm node) (pool.move node (target (pool.place node)))) :
    ∃ system', exec system op = some system' ∧ Agrees system' (pool.moveHead queue target) ∧
      Advances system.fbm system'.fbm pool (pool.moveHead queue target) 0 := by
  rcases request with ⟨fbm, result⟩
  rcases taken with ⟨taken, advances⟩
  dsimp only at taken advances
  rw [called]
  unfold FramePool.moveHead at advances ⊢
  cases front : pool.queues queue with
  | nil =>
    rw [front] at taken advances
    subst taken
    exact ⟨_, rfl, ⟨advances.represents, given_kept agrees advances fun _ => Iff.rfl,
      agrees.decoder, agrees.render, agrees.release, agrees.sharing⟩, advances⟩
  | cons node rest =>
    rw [front] at taken advances
    subst taken
    obtain ⟨same, agreed⟩ := recorded fbm node
      (FramePool.queue_of_head agrees.represents.linked.wellFormed front) advances
    exact ⟨_, rfl, agreed, same.symm ▸ advances⟩

theorem agrees_request_buffer (agrees : Agrees system pool) :
    ∃ system', exec system .requestBuffer = some system' ∧
      Agrees system' (pool.moveHead .pEmptyBufferQueue fun _ => .decoding) ∧
      Advances system.fbm system'.fbm pool
        (pool.moveHead .pEmptyBufferQueue fun _ => .decoding) 0 := by
  apply agrees_request agrees rfl (request_buffer_advances agrees.represents)
  intro fbm node queued advances
  have here := FramePlace.queue_empty_iff.mp queued
  refine ⟨rfl, advances.represents,
    given_kept agrees advances (absent_kept (place_not_absent queued) (by decide)),
    holders_move agrees.decoder node .decoding, holders_kept agrees.render (by rw [here]; rfl),
    holders_kept agrees.release (by rw [here]; rfl), ?_⟩
  intro other shared
  by_cases same : other = node
  · subst same
    simp [wasShared] at shared
  · rw [FramePool.move_place_other pool _ same] at shared
    simp only [update_of_ne same]
    exact agrees.sharing other shared

variable {picture : Nat} (agrees : Agrees system pool)

include agrees

theorem agrees_share_buffer (legal : Legal system (.shareBuffer picture)) :
    pool.place picture = .decoding ∧
    ∃ system', exec system (.shareBuffer picture) = some system' ∧
      Agrees system' (poolAfter system.fbm pool (.shareBuffer picture)) ∧
      Advances system.fbm system'.fbm pool (poolAfter system.fbm pool (.shareBuffer picture)) 0 := by
  rcases legal with ⟨holding, unshared⟩
  have here : pool.place picture = .decoding := by
    rw [agrees.decoder picture] at holding
    have sharing := agrees.sharing picture
    rw [unshared] at sharing
    cases place : pool.place picture <;> simp_all [FramePlace.heldByDecoder, wasShared]
  refine ⟨here, ?_⟩
  have present : pool.place picture ≠ .absent := by simp [here]
  rcases share_buffer_advances agrees.represents here with ⟨fbm', computed, advances⟩
  refine ⟨_, by simp only [exec, computed, map_some]; rfl, ?_, advances⟩
  simp only [poolAfter]
  cases mark : (system.fbm.flag picture).bNeedRelease with
  | true =>
    simp only [mark, if_true] at advances ⊢
    refine ⟨advances.represents, given_kept agrees advances fun _ => Iff.rfl, agrees.decoder,
      agrees.render, agrees.release, ?_⟩
    intro other shared
    by_cases same : other = picture
    · subst same
      simp
    · simp only [update_of_ne same]
      exact agrees.sharing other shared
  | false =>
    simp only [mark, Bool.false_eq_true, if_false] at advances ⊢
    refine ⟨advances.represents, given_kept agrees advances (absent_kept present (by decide)),
      holders_kept agrees.decoder (by rw [here]; rfl),
      holders_kept agrees.render (by rw [here]; rfl),
      holders_kept agrees.release (by rw [here]; rfl), ?_⟩
    intro other shared
    by_cases same : other = picture
    · subst same
      simp
    · rw [FramePool.move_place_other pool _ same] at shared
      simp only [update_of_ne same]
      exact agrees.sharing other shared

theorem agrees_return_buffer {bValidPicture : Bool}
    (legal : Legal system (.returnBuffer picture bValidPicture))
    (safe : ReleaseSafe system (.returnBuffer picture bValidPicture)) :
    ∃ system', exec system (.returnBuffer picture bValidPicture) = some system' ∧
      Agrees system' (poolAfter system.fbm pool (.returnBuffer picture bValidPicture)) ∧
      Advances system.fbm system'.fbm pool
        (poolAfter system.fbm pool (.returnBuffer picture bValidPicture))
        (returnDrift system.fbm picture) := by
  have held : (pool.place picture).heldByDecoder = true := by
    rw [← agrees.decoder picture]
    exact legal
  have unmarked : pool.place picture = .showing →
      (system.fbm.flag picture).bNeedRelease = false := by
    intro here
    have flags := flag_of_place agrees.represents here rfl
    have inUse : (system.fbm.flag picture).bUsedByRender = true := by rw [flags]; rfl
    have unqueued : (system.fbm.flag picture).bInValidPictureQueue = false := by rw [flags]; rfl
    have safe : ((system.fbm.flag picture).bNeedRelease &&
      !(system.fbm.flag picture).bInValidPictureQueue &&
        (system.fbm.flag picture).bUsedByRender) = false := safe
    simpa [inUse, unqueued] using safe
  rcases return_buffer_advances agrees.represents held unmarked bValidPicture
    with ⟨fbm', computed, advances⟩
  refine ⟨_, by simp only [exec, computed, map_some]; rfl, ?_, advances⟩
  have present : pool.place picture ≠ .absent := by
    intro absent
    simp [absent, FramePlace.heldByDecoder] at held
  simp only [poolAfter]
  generalize (system.fbm.flag picture).bNeedRelease = bNeedRelease at advances unmarked ⊢
  have target : ∀ place : FramePlace, place.heldByDecoder = true →
      let after := FramePool.returnedByDecoder bNeedRelease bValidPicture place
      after ≠ .absent ∧ after.heldByDecoder = false ∧ after.heldByRender = place.heldByRender ∧
        after.heldForRelease = place.heldForRelease ∧ wasShared after = false := by
    intro place
    cases place <;> cases bNeedRelease <;> cases bValidPicture <;> decide
  rcases target _ held with ⟨kept, released, render, release, unshared⟩
  have decoder := holders_move agrees.decoder picture
    (FramePool.returnedByDecoder bNeedRelease bValidPicture (pool.place picture))
  rw [released] at decoder
  exact ⟨advances.represents, given_kept agrees advances (absent_kept present kept), decoder,
    holders_kept agrees.render render, holders_kept agrees.release release,
    sharing_kept agrees fun shared => by simp [unshared] at shared⟩

theorem agrees_request_picture : ∃ system', exec system .requestPicture = some system' ∧
      Agrees system' (pool.moveHead .pValidPictureQueue FramePool.takenForDisplay) ∧
      Advances system.fbm system'.fbm pool
        (pool.moveHead .pValidPictureQueue FramePool.takenForDisplay) 0 := by
  apply agrees_request agrees rfl (request_picture_advances agrees.represents)
  intro fbm node queued advances
  have render := holders_move agrees.render node (FramePool.takenForDisplay (pool.place node))
  rcases queue_valid_iff.mp queued with here | here
  all_goals
    rw [here] at render advances ⊢
    exact ⟨rfl, advances.represents,
      given_kept agrees advances (absent_kept (place_not_absent queued) (by decide)),
      holders_kept agrees.decoder (by rw [here]; rfl), render,
      holders_kept agrees.release (by rw [here]; rfl), sharing_kept agrees (by rw [here]; decide)⟩

theorem agrees_return_picture (legal : Legal system (.returnPicture picture)) :
    ∃ system', exec system (.returnPicture picture) = some system' ∧
      Agrees system' (poolAfter system.fbm pool (.returnPicture picture)) ∧
      Advances system.fbm system'.fbm pool
        (poolAfter system.fbm pool (.returnPicture picture)) 0 := by
  have held : (pool.place picture).heldByRender = true := by
    rw [← agrees.render picture]
    exact legal
  rcases return_picture_advances agrees.represents held
    with ⟨fbm', result, computed, accepted, advances⟩
  refine ⟨_, by simp only [exec, computed, map_some]; rfl, ?_, advances⟩
  have present : pool.place picture ≠ .absent := by
    intro absent
    simp [absent, heldByRender] at held
  simp only [poolAfter]
  have target : ∀ place : FramePlace, place.heldByRender = true →
      let after := FramePool.returnedByRender system.fbm.nMaxFrameNum picture
        (system.fbm.flag picture).bNeedRelease place
      after ≠ .absent ∧ after.heldByDecoder = place.heldByDecoder ∧
        after.heldForRelease = place.heldForRelease ∧
        (wasShared after = true → wasShared place = true) := by
    intro place rendered
    cases place <;> simp only [heldByRender, Bool.false_eq_true] at rendered <;>
      simp only [FramePool.returnedByRender] <;> (try split) <;> decide
  rcases target _ held with ⟨kept, decoder, release, shared⟩
  refine ⟨advances.represents, given_kept agrees advances (absent_kept present kept),
    holders_kept agrees.decoder decoder, ?_, holders_kept agrees.release release,
    sharing_kept agrees shared⟩
  intro other
  generalize FramePool.returnedByRender system.fbm.nMaxFrameNum picture
    (system.fbm.flag picture).bNeedRelease (pool.place picture) = after at accepted
  by_cases zero : result = 0
  · have render := holders_move agrees.render picture after other
    rw [accepted.mp zero] at render
    simpa [zero] using render
  · have stays : after.heldByRender = true := by
      cases stays : after.heldByRender with
      | true => rfl
      | false => exact absurd (accepted.mpr stays) zero
    simpa [zero] using holders_kept agrees.render (stays.trans held.symm) other

theorem agrees_flush : ∃ system', exec system .flush = some system' ∧ Agrees system' pool.flush ∧
      Advances system.fbm system'.fbm pool pool.flush
        (Pi.single .nWaitForDispNum ((pool.queues .pValidPictureQueue).length : Int)) := by
  rcases flush_advances agrees.represents with ⟨fbm', computed, advances⟩
  have place := FramePool.flush_place agrees.represents.linked.wellFormed
  refine ⟨{ system with fbm := fbm' }, by simp only [exec, computed, map_some], ?_, advances⟩
  refine ⟨advances.represents, given_kept agrees advances ?_, ?_, ?_, ?_, ?_⟩
  · intro node
    rw [place node]
    cases pool.place node <;> decide
  · intro node
    rw [place node, agrees.decoder node]
    cases pool.place node <;> rfl
  · intro node
    rw [place node, agrees.render node]
    cases pool.place node <;> rfl
  · intro node
    rw [place node, agrees.release node]
    cases pool.place node <;> rfl
  · intro node shared
    apply agrees.sharing
    rw [place node] at shared
    cases here : pool.place node <;> simp_all [FramePool.flushed, wasShared]

theorem agrees_set_new_disp_release : ∃ system', exec system .setNewDispRelease = some system' ∧
      Agrees system' pool.flush.drainEmpty ∧
      Advances (fbmMarkNeedRelease system.fbm) system'.fbm pool pool.flush.drainEmpty
        (Pi.single .nWaitForDispNum ((pool.queues .pValidPictureQueue).length : Int)) := by
  rcases set_new_disp_release_advances agrees.represents with ⟨fbm', computed, advances⟩
  have place : ∀ node, pool.flush.drainEmpty.place node =
      FramePool.drained (FramePool.flushed (pool.place node)) := by
    intro node
    have wellFormed := agrees.represents.linked.wellFormed
    have flushed : pool.flush.WellFormed := FramePool.move_all_well_formed wellFormed _ _
    rw [FramePool.drain_empty_place flushed, FramePool.flush_place wellFormed]
  refine ⟨{ system with fbm := fbm' }, by simp only [exec, computed, map_some], ?_, advances⟩
  refine ⟨advances.represents, ?_, ?_, ?_, ?_, ?_⟩
  · intro node
    have same : pool.flush.drainEmpty.place node ≠ .absent ↔ pool.place node ≠ .absent := by
      rw [place node]
      cases pool.place node <;> decide
    rw [same, agrees.given node]
    unfold FbmSystem.given
    rw [advances.gpu, advances.buffers, advances.size]
    rfl
  · intro node
    rw [place node, agrees.decoder node]
    cases pool.place node <;> rfl
  · intro node
    rw [place node, agrees.render node]
    cases pool.place node <;> rfl
  · intro node
    rw [place node, agrees.release node]
    cases pool.place node <;> rfl
  · intro node shared
    apply agrees.sharing
    rw [place node] at shared
    cases here : pool.place node <;>
      simp_all [FramePool.flushed, FramePool.drained, wasShared]

theorem agrees_request_release_picture :
    ∃ system', exec system .requestReleasePicture = some system' ∧
      Agrees system' (pool.moveHead .pReleaseBufferQueue fun _ => .released) ∧
      Advances system.fbm system'.fbm pool
        (pool.moveHead .pReleaseBufferQueue fun _ => .released) 0 := by
  apply agrees_request agrees rfl (request_release_picture_advances agrees.represents)
  intro fbm node queued advances
  have here := FramePlace.queue_release_iff.mp queued
  exact ⟨rfl, advances.represents,
    given_kept agrees advances (absent_kept (place_not_absent queued) (by decide)),
    holders_kept agrees.decoder (by rw [here]; rfl), holders_kept agrees.render (by rw [here]; rfl),
    holders_move agrees.release node .released, sharing_kept agrees (by simp [wasShared])⟩

omit agrees

theorem agrees_return_release_picture {nBufId : Nat} {bForbidUseFlag : Bool}
    (agrees : Agrees system pool)
    (safe : ReleaseSafe system (.returnReleasePicture nBufId bForbidUseFlag)) :
    let after := poolAfter system.fbm pool (.returnReleasePicture nBufId bForbidUseFlag)
    ∃ system', exec system (.returnReleasePicture nBufId bForbidUseFlag) = some system' ∧
      Agrees system' after ∧ Advances system.fbm system'.fbm pool after 0 := by
  intro after
  cases slot : fbmReleaseSlot system.fbm with
  | none =>
    have unchanged : exec system (.returnReleasePicture nBufId bForbidUseFlag) = some system := by
      simp only [exec, fbmReturnReleasePicture, slot, map_some]
    have stays : after = pool := by simp only [after, poolAfter, slot]
    rw [stays]
    exact ⟨system, unchanged, agrees, advances_refl agrees.represents⟩
  | some index =>
    have moved : after = pool.move index (if bForbidUseFlag then .forbidden else .empty) := by
      simp only [after, poolAfter, slot]
    have held : system.releaseHolds index = true := by
      rcases release_slot_first slot with ⟨inside, found, first⟩
      exact safe index inside found first
    rw [agrees.release index] at held
    have here : pool.place index = .released := by
      cases place : pool.place index <;> simp_all [FramePlace.heldForRelease]
    rcases return_release_picture_advances agrees.represents slot here nBufId bForbidUseFlag
      with ⟨fbm', computed, advances⟩
    rw [moved]
    have present : pool.place index ≠ .absent := by simp [here]
    have render := holders_move agrees.render index (if bForbidUseFlag then .forbidden else .empty)
    have release := holders_move agrees.release index
      (if bForbidUseFlag then .forbidden else .empty)
    cases bForbidUseFlag with
    | true | false =>
      exact ⟨_, by simp only [exec, computed, map_some]; rfl, ⟨advances.represents,
        given_kept agrees advances (absent_kept present (by decide)),
        holders_kept agrees.decoder (by rw [here]; rfl), render, release,
        sharing_kept agrees (by simp [wasShared])⟩, advances⟩

theorem agrees_set_fbm_buf_address {nBufId : Nat} {bForbidUseFlag : Bool}
    (agrees : Agrees system pool)
    (legal : Legal system (.setFbmBufAddress nBufId bForbidUseFlag)) :
    let after := poolAfter system.fbm pool (.setFbmBufAddress nBufId bForbidUseFlag)
    ∃ system', exec system (.setFbmBufAddress nBufId bForbidUseFlag) = some system' ∧
      Agrees system' after ∧
      Advances { system.fbm with nValidBufNum := system.fbm.nValidBufNum + 1 } system'.fbm pool
        after 0 := by
  intro after
  rcases legal with ⟨gpu, inside⟩
  have here : pool.place system.fbm.nValidBufNum = .absent := by
    by_contra present
    have given := (agrees.given _).mp present
    unfold FbmSystem.given at given
    rw [if_pos gpu] at given
    exact Nat.lt_irrefl _ given
  rcases set_fbm_buf_address_advances agrees.represents here inside nBufId bForbidUseFlag
    with ⟨fbm', computed, advances⟩
  have target : (if bForbidUseFlag then FramePlace.forbidden else .empty) ≠ .absent := by
    cases bForbidUseFlag <;> decide
  have given : ∀ node, after.place node ≠ .absent ↔
      node < if fbm'.bUseGpuBuf then fbm'.nValidBufNum else fbm'.nMaxFrameNum := by
    intro node
    rw [advances.gpu, advances.buffers, if_pos gpu]
    have before := agrees.given node
    unfold FbmSystem.given at before
    rw [if_pos gpu] at before
    by_cases same : node = system.fbm.nValidBufNum
    · subst same
      simp [after, poolAfter, target]
    · simp only [after, poolAfter]
      rw [FramePool.move_place_other pool _ same, before]
      change node < system.fbm.nValidBufNum ↔ node < system.fbm.nValidBufNum + 1
      omega
  have render := holders_move agrees.render system.fbm.nValidBufNum
    (if bForbidUseFlag then .forbidden else .empty)
  refine ⟨{ system with
    fbm := fbm'
    renderHolds := Function.update system.renderHolds system.fbm.nValidBufNum bForbidUseFlag },
    by simp only [exec, computed, map_some], ⟨advances.represents, given,
    holders_kept agrees.decoder ?_, ?_, holders_kept agrees.release ?_, sharing_kept agrees ?_⟩,
    advances⟩
  · rw [here]
    cases bForbidUseFlag <;> rfl
  · cases bForbidUseFlag <;> exact render
  · rw [here]
    cases bForbidUseFlag <;> rfl
  · cases bForbidUseFlag <;> simp [wasShared]

/-- Every legal step that is safe for release ends, keeps the agreement, and
drifts as `driftOf` says. -/
theorem exec_advances {op : FbmOp} (agrees : Agrees system pool) (legal : Legal system op)
    (safe : ReleaseSafe system op) :
    ∃ system', exec system op = some system' ∧ Agrees system' (poolAfter system.fbm pool op) ∧
      excess system'.fbm (poolAfter system.fbm pool op) =
        excess system.fbm pool + driftOf system.fbm pool op := by
  cases op with
  | requestBuffer =>
    rcases agrees_request_buffer agrees with ⟨after, call, agrees', advances⟩
    exact ⟨after, call, agrees', advances.excess⟩
  | shareBuffer picture =>
    rcases agrees_share_buffer agrees legal with ⟨-, after, call, agrees', advances⟩
    exact ⟨after, call, agrees', advances.excess⟩
  | returnBuffer picture bValidPicture =>
    rcases agrees_return_buffer agrees legal safe with ⟨after, call, agrees', advances⟩
    exact ⟨after, call, agrees', advances.excess⟩
  | requestPicture =>
    rcases agrees_request_picture agrees with ⟨after, call, agrees', advances⟩
    exact ⟨after, call, agrees', advances.excess⟩
  | returnPicture picture =>
    rcases agrees_return_picture agrees legal with ⟨after, call, agrees', advances⟩
    exact ⟨after, call, agrees', advances.excess⟩
  | flush =>
    rcases agrees_flush agrees with ⟨after, call, agrees', advances⟩
    exact ⟨after, call, agrees', advances.excess⟩
  | setNewDispRelease =>
    rcases agrees_set_new_disp_release agrees with ⟨after, call, agrees', advances⟩
    refine ⟨after, call, agrees', ?_⟩
    rw [← (mark_represents agrees.represents).2]
    exact advances.excess
  | requestReleasePicture =>
    rcases agrees_request_release_picture agrees with ⟨after, call, agrees', advances⟩
    exact ⟨after, call, agrees', advances.excess⟩
  | returnReleasePicture nBufId bForbidUseFlag =>
    rcases agrees_return_release_picture agrees safe with ⟨after, call, agrees', advances⟩
    exact ⟨after, call, agrees', advances.excess⟩
  | setFbmBufAddress nBufId bForbidUseFlag =>
    rcases agrees_set_fbm_buf_address agrees legal with ⟨after, call, agrees', advances⟩
    exact ⟨after, call, agrees', advances.excess⟩

end Agreement

def noFrames : FramePool where
  place := fun _ => .absent
  queues := fun _ => []

def startPool (nFrameNum : Nat) (bUseGpuBuf : Bool) : FramePool :=
  if bUseGpuBuf then noFrames
  else noFrames.moveAll (List.range nFrameNum) fun _ => .empty

theorem no_frames_well_formed : noFrames.WellFormed where
  queued := by simp [noFrames, FramePlace.queue]
  nodup := by simp [noFrames]

theorem create_loop_linked (fbm : Fbm) {pool : FramePool} {nodes : List Nat}
    (linked : Linked fbm.pNext fbm.head fbm.nMaxFrameNum pool) (distinct : nodes.Nodup)
    (fresh : ∀ node ∈ nodes, pool.place node = .absent ∧ node < fbm.nMaxFrameNum) :
    ∃ next head, nodes.foldlM (fun fbm node => fbmEnqueue fbm .pEmptyBufferQueue node) fbm =
        some { fbm with pNext := next, head := head } ∧
      Linked next head fbm.nMaxFrameNum (pool.moveAll nodes fun _ => .empty) := by
  induction nodes generalizing fbm pool with
  | nil => exact ⟨fbm.pNext, fbm.head, rfl, linked⟩
  | cons node rest ih =>
    rcases nodup_cons.mp distinct with ⟨outside, distinct⟩
    rcases fresh node (by simp) with ⟨absent, inside⟩
    rcases enqueue_free fbm .pEmptyBufferQueue linked (by rw [absent]; rfl) inside
      with ⟨next, head, result, entered⟩
    have later : ∀ other ∈ rest, (pool.move node .empty).place other = .absent ∧
        other < fbm.nMaxFrameNum := by
      intro other member
      have different : other ≠ node := fun same => outside (same ▸ member)
      rw [FramePool.move_place_other pool _ different]
      exact fresh other (by simp [member])
    rcases @ih { fbm with pNext := next, head := head } _ (entered .empty rfl) distinct later
      with ⟨next', head', looped, linked'⟩
    refine ⟨next', head', ?_, linked'⟩
    rw [foldlM_cons, result]
    exact looped

theorem start_place (nFrameNum : Nat) (bUseGpuBuf : Bool) (node : Nat) :
    (startPool nFrameNum bUseGpuBuf).place node =
      if bUseGpuBuf = false ∧ node < nFrameNum then .empty else .absent := by
  cases bUseGpuBuf with
  | true => simp [startPool, noFrames]
  | false => simp [startPool, FramePool.move_all_place nodup_range, noFrames]

/-- A new manager agrees with its pool, all counters are right, and no frame is
marked. -/
theorem start_agrees (nFrameNum : Nat) (bUseGpuBuf : Bool) :
    ∃ system, FbmSystem.start nFrameNum bUseGpuBuf = some system ∧
      Agrees system (startPool nFrameNum bUseGpuBuf) ∧
      excess system.fbm (startPool nFrameNum bUseGpuBuf) = 0 ∧
      ∀ node, (system.fbm.flag node).bNeedRelease = false := by
  have place := start_place nFrameNum bUseGpuBuf
  have created : ∃ next head, fbmCreateBuffer nFrameNum bUseGpuBuf = some
      { nMaxFrameNum := nFrameNum
        nEmptyBufferNum := if bUseGpuBuf then 0 else nFrameNum
        nValidPictureNum := 0
        nReleaseBufferNum := 0
        head := head
        pFrames := fun i =>
          { flag := {}
            vpicture := { nID := i, nBufId := FBM_NEW_DISP_INVALID_TAG, nBufStatus := 0 } }
        pNext := next
        bUseGpuBuf := bUseGpuBuf
        nDecoderHoldingNum := 0
        nRenderHoldingNum := 0
        nWaitForDispNum := 0
        nValidBufNum := 0 } ∧
      Linked next head nFrameNum (startPool nFrameNum bUseGpuBuf) := by
    have start : Linked (fun _ => none) (fun _ => none) nFrameNum noFrames :=
      ⟨no_frames_well_formed, fun _ => .null, by simp [noFrames]⟩
    cases bUseGpuBuf with
    | true => exact ⟨_, _, rfl, start⟩
    | false =>
      have fresh : ∀ node ∈ List.range nFrameNum,
          noFrames.place node = .absent ∧ node < nFrameNum := by simp [noFrames]
      rcases create_loop_linked ⟨nFrameNum, 0, 0, 0, fun _ => none, fun i =>
          ⟨{}, ⟨i, FBM_NEW_DISP_INVALID_TAG, 0⟩⟩, fun _ => none, false, 0, 0, 0, 0⟩
        start nodup_range fresh with ⟨next, head, looped, linked⟩
      refine ⟨next, head, ?_, linked⟩
      simp only [fbmCreateBuffer, Bool.false_eq_true, if_false, looped, map_some]
  rcases created with ⟨next, head, created, linked⟩
  have idle : ∀ node, (startPool nFrameNum bUseGpuBuf).place node = .empty ∨
      (startPool nFrameNum bUseGpuBuf).place node = .absent := by
    intro node
    rw [place node]
    split
    · exact .inl rfl
    · exact .inr rfl
  refine ⟨_, by rw [FbmSystem.start, created, map_some], ?_, ?_, fun _ => rfl⟩
  · refine ⟨⟨linked, ?_, ?_⟩, ?_, ?_, ?_, ?_, ?_⟩
    · intro node
      rcases idle node with here | here <;> rw [here] <;> rfl
    · intro node
      rcases idle node with here | here <;> rw [here] <;> rfl
    · intro node
      rw [place node]
      cases bUseGpuBuf <;> simp [FbmSystem.given]
    · intro node
      rcases idle node with here | here <;> rw [here] <;> rfl
    · intro node
      rcases idle node with here | here <;> rw [here] <;> rfl
    · intro node
      rcases idle node with here | here <;> rw [here] <;> rfl
    · intro node
      rcases idle node with here | here <;> rw [here] <;> simp [wasShared]
  · have summed : (startPool nFrameNum bUseGpuBuf).total nFrameNum =
        ∑ _node ∈ Finset.range nFrameNum,
          (if bUseGpuBuf = false then empty else .absent).weight := by
      unfold FramePool.total
      apply Finset.sum_congr rfl
      intro node member
      rw [place node]
      simp [Finset.mem_range.mp member]
    unfold excess
    simp only
    rw [summed, Finset.sum_const, Finset.card_range]
    funext counter
    cases bUseGpuBuf <;> cases counter <;>
      simp [counters, weight, counts, FramePlace.queue, FramePlace.heldByDecoder, usedByRender]

variable {system : FbmSystem} {pool : FramePool}

theorem queued_of_agrees (agrees : Agrees system pool) (queue : FbmQueue) :
    system.queued queue = some (pool.queues queue) := by
  have linked := agrees.represents.linked
  exact nodes_from_eq_some.mpr ⟨linked.chains queue,
    FramePool.queue_length_le linked.wellFormed linked.bounded queue⟩

/-- A frame whose place names a client is with that client, and in a list
otherwise. -/
theorem placed_once_of_agrees (agrees : Agrees system pool) {node : Nat}
    (given : system.given node) :
    PlacedOnce system (pool.queues .pEmptyBufferQueue) (pool.queues .pValidPictureQueue)
      (pool.queues .pReleaseBufferQueue) node := by
  have queued := fun queue => agrees.represents.linked.wellFormed.queued queue node
  have present := (agrees.given node).mpr given
  unfold PlacedOnce
  rw [mem_append, mem_append, mem_append, queued, queued, queued,
    agrees.decoder, agrees.render, agrees.release]
  cases here : pool.place node <;>
    simp_all [FramePlace.queue, FramePlace.heldByDecoder, heldByRender, FramePlace.heldForRelease]

theorem lists_nodup {pool : FramePool} (wellFormed : pool.WellFormed) :
    (pool.queues .pEmptyBufferQueue ++ pool.queues .pValidPictureQueue ++
      pool.queues .pReleaseBufferQueue).Nodup := by
  have disjoint : ∀ left right, left ≠ right →
      List.Disjoint (pool.queues left) (pool.queues right) := by
    intro left right different node first second
    have one := (wellFormed.queued left node).mp first
    have other := (wellFormed.queued right node).mp second
    exact different (Option.some.inj (one.symm.trans other))
  apply List.Nodup.append
  · exact (wellFormed.nodup _).append (wellFormed.nodup _) (disjoint _ _ (by decide))
  · exact wellFormed.nodup _
  · intro node first second
    rcases mem_append.mp first with first | first
    · exact disjoint .pEmptyBufferQueue .pReleaseBufferQueue (by decide) first second
    · exact disjoint .pValidPictureQueue .pReleaseBufferQueue (by decide) first second

theorem frames_owned_of_agrees (agrees : Agrees system pool) : FramesOwned system :=
  ⟨_, queued_of_agrees agrees _, _, queued_of_agrees agrees _, _, queued_of_agrees agrees _,
    lists_nodup agrees.represents.linked.wellFormed,
    fun _ _ given => placed_once_of_agrees agrees given⟩

/-- In every legal run that is safe for release each call ends, and the frames
are owned wherever the run has come to. -/
theorem frames_owned_in_safe_runs (nFrameNum : Nat) (bUseGpuBuf : Bool) :
    ∃ system, FbmSystem.start nFrameNum bUseGpuBuf = some system ∧
      ∀ ops, StepsMeet Legal exec system ops → StepsMeet ReleaseSafe exec system ops →
        ∃ final, runOps exec system ops = some final ∧ FramesOwned final := by
  rcases start_agrees nFrameNum bUseGpuBuf with ⟨system, started, agrees, -, -⟩
  refine ⟨system, started, fun ops legal safe => ?_⟩
  have ends : ∀ state op, (∃ pool, Agrees state pool) → (Legal state op ∧ ReleaseSafe state op) →
      ∃ next, exec state op = some next ∧ ∃ pool, Agrees next pool := by
    intro state op known meets
    rcases known with ⟨pool, agrees⟩
    rcases exec_advances agrees meets.1 meets.2 with ⟨next, step, agrees', -⟩
    exact ⟨next, step, _, agrees'⟩
  rcases guarded_run_ends ends ⟨_, agrees⟩ (steps_meet_and legal safe)
    with ⟨final, run, pool, reached⟩
  exact ⟨final, run, frames_owned_of_agrees reached⟩

/-- Two buffers are released while the renderer shows the first: the decoder
returns both, then the renderer returns the first. -/
def lostFrameRun : List FbmOp :=
  [.setFbmBufAddress 1 false, .setFbmBufAddress 2 false, .requestBuffer, .requestBuffer,
    .shareBuffer 0, .requestPicture, .setNewDispRelease, .returnBuffer 0 true,
    .returnBuffer 1 false, .returnPicture 0]

/-- The second enqueue of frame 0 cuts the release list before frame 1, which
then is in no list and in nobody's hands. -/
theorem lost_frame_run_breaks_ownership :
    ∃ system, FbmSystem.start 2 true = some system ∧ StepsMeet Legal exec system lostFrameRun ∧
      ∃ final, runOps exec system lostFrameRun = some final ∧
        final.queued .pReleaseBufferQueue = some [0] ∧ ¬ FramesOwned final :=
  ⟨_, rfl, by decide, _, rfl, by decide, by decide⟩

/-- A full turn of a released buffer meets both conditions. -/
def releaseRun : List FbmOp :=
  [.setFbmBufAddress 1 false, .requestBuffer, .returnBuffer 0 true, .requestPicture,
    .returnPicture 0, .setNewDispRelease, .requestReleasePicture, .returnReleasePicture 2 true,
    .returnPicture 0]

theorem release_run_owned : ∃ system, FbmSystem.start 2 true = some system ∧
      ∃ final, runOps exec system releaseRun = some final ∧ FramesOwned final := by
  rcases frames_owned_in_safe_runs 2 true with ⟨system, started, owned⟩
  obtain rfl : _ = system := Option.some.inj started
  exact ⟨_, rfl, owned releaseRun (by decide) (by decide)⟩

end CedarC.FbmOwnership
