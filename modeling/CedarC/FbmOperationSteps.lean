import CedarC.FbmRefinement

/-!
# Calls of the frame buffer manager, one theorem a call

Every call that keeps to the ownership rules ends and advances the pool. The
decoder's return of a frame that is to be released forgets one decrement, and
a flush forgets one for each picture it drops: these are the only drifts.
-/

namespace CedarC.FbmOperationSteps

open FbmFrameModel FbmFramePool FbmRefinement FramePool FramePlace

variable {fbm : Fbm} {pool : FramePool} {node : Nat}

attribute [local simp] counters weight counts queue
  heldByDecoder usedByRender

variable {place : FramePlace} {bNeedRelease : Bool}

theorem flag_of_place (represents : Represents fbm pool) (here : pool.place node = place)
    (mark : (fbm.flag node).bNeedRelease = bNeedRelease) :
    fbm.flag node = place.flag bNeedRelease := by
  rw [← here, ← mark]
  exact represents.flags node

theorem id_of_place (represents : Represents fbm pool)
    (here : pool.place node = place) : fbm.nID node = place.nID node := by
  rw [← here]
  exact represents.ids node

theorem request_buffer_advances (represents : Represents fbm pool) :
    (fbmRequestBuffer fbm).2 = (pool.queues .pEmptyBufferQueue).head? ∧
      Advances fbm (fbmRequestBuffer fbm).1 pool
        (pool.moveHead .pEmptyBufferQueue fun _ => .decoding) 0 := by
  have linked := represents.linked
  cases front : pool.queues .pEmptyBufferQueue with
  | nil =>
    simp only [fbmRequestBuffer, dequeue_empty linked front, moveHead, front]
    exact ⟨rfl, advances_refl represents⟩
  | cons node rest =>
    have queued := queue_of_head linked.wellFormed front
    have here := queue_empty_iff.mp queued
    generalize mark : (fbm.flag node).bNeedRelease = bNeedRelease
    have flags := flag_of_place represents here mark
    have id := id_of_place represents here
    rcases dequeue_front linked front with ⟨next, head, result, relinked⟩
    have computed : fbmRequestBuffer fbm =
        ({ { fbm with pNext := next, head := head }.setFlag node fun flag =>
            { flag with bUsedByDecoder := true } with
          nEmptyBufferNum := fbm.nEmptyBufferNum - 1
          nDecoderHoldingNum := fbm.nDecoderHoldingNum + 1 }, some node) := by
      simp [fbmRequestBuffer, result, flags, flag]
    rw [computed]
    simp only [moveHead, front]
    refine ⟨rfl, advances_move
      { fbm.pFrames node with flag := { fbm.flag node with bUsedByDecoder := true } }
      represents (linked.bounded node (place_not_absent queued)) (relinked .decoding rfl)
      rfl ?_ id (fun marked => marked) rfl rfl rfl ?_⟩
    · rw [flags]
      rfl
    · funext counter
      rw [here]
      cases counter <;> simp [Fbm.setFlag]

/-- The decrement that the release branch of `FbmReturnBuffer` leaves out. -/
def returnDrift (fbm : Fbm) (node : Nat) : FbmCounter → Int :=
  if (fbm.flag node).bNeedRelease && !(fbm.flag node).bInValidPictureQueue then
    Pi.single .nDecoderHoldingNum 1
  else 0

def Fbm.givenUp (fbm : Fbm) (node : Nat) : Fbm :=
  fbm.setFlag node fun flag => { flag with bUsedByDecoder := false }

variable (represents : Represents fbm pool)

include represents

theorem return_to_release (here : pool.place node = .decoding ∨ pool.place node = .shown)
    (mark : (fbm.flag node).bNeedRelease = true) (bValidPicture : Bool) :
    ∃ fbm', fbmReturnNode fbm node bValidPicture = some fbm' ∧
      Advances fbm fbm' pool (pool.move node .releasing) (Pi.single .nDecoderHoldingNum 1) := by
  have free : (pool.place node).queue = none := by
    rcases here with here | here <;> rw [here] <;> rfl
  have inside := represents.linked.bounded node (by rcases here with here | here <;> simp [here])
  have flags := represents.flags node
  have id := represents.ids node
  rw [mark] at flags
  rcases enqueue_free (Fbm.givenUp fbm node) .pReleaseBufferQueue represents.linked free inside
    with ⟨next, head, result, relinked⟩
  have computed : fbmReturnNode fbm node bValidPicture =
      some { { Fbm.givenUp fbm node with pNext := next, head := head }.setFlag node
          fun flag => { flag with bAlreadyDisplayed := false, bInValidPictureQueue := false } with
        nReleaseBufferNum := fbm.nReleaseBufferNum + 1 } := by
    rw [Fbm.givenUp] at result
    rcases here with here | here <;> rw [here] at flags <;>
      simp [fbmReturnNode, result, flags, flag, Fbm.givenUp, -Option.some.injEq] <;>
      rfl
  refine ⟨_, computed, advances_move
    { fbm.pFrames node with flag :=
      { fbm.flag node with
        bUsedByDecoder := false
        bAlreadyDisplayed := false
        bInValidPictureQueue := false } }
    represents inside (relinked .releasing rfl) ?frames ?flag ?id (fun marked => marked)
    rfl rfl rfl ?counted⟩
  case frames => simp [Fbm.givenUp, Fbm.setFlag, Fbm.flag]
  case flag => rcases here with here | here <;> rw [flags, here] <;> rfl
  case id => rcases here with here | here <;> rw [here] at id <;> exact id
  case counted =>
    funext counter
    rcases here with here | here <;> rw [here] <;>
      cases counter <;> simp [Fbm.givenUp, Fbm.setFlag]

theorem return_to_display
    (here : pool.place node = .decoding) (mark : (fbm.flag node).bNeedRelease = false) :
    ∃ fbm', fbmReturnNode fbm node true = some fbm' ∧
      Advances fbm fbm' pool (pool.move node .ready) 0 := by
  have free : (pool.place node).queue = none := by rw [here]; rfl
  have inside := represents.linked.bounded node (by simp [here])
  have flags := flag_of_place represents here mark
  have id := id_of_place represents here
  rcases enqueue_free (Fbm.givenUp fbm node) .pValidPictureQueue represents.linked free inside
    with ⟨next, head, result, relinked⟩
  have computed : fbmReturnNode fbm node true =
      some { { Fbm.givenUp fbm node with pNext := next, head := head }.setFlag node
          fun flag => { flag with bInValidPictureQueue := true } with
        nValidPictureNum := fbm.nValidPictureNum + 1
        nWaitForDispNum := fbm.nWaitForDispNum + 1
        nDecoderHoldingNum := fbm.nDecoderHoldingNum - 1 } := by
    rw [Fbm.givenUp] at result
    simp [fbmReturnNode, result, flags, flag, Fbm.givenUp, -Option.some.injEq]
    rfl
  refine ⟨_, computed, advances_move
    { fbm.pFrames node with flag :=
      { fbm.flag node with bUsedByDecoder := false, bInValidPictureQueue := true } }
    represents inside (relinked .ready rfl) ?frames ?flag id (fun marked => marked)
    rfl rfl rfl ?counted⟩
  case frames => simp [Fbm.givenUp, Fbm.setFlag, Fbm.flag]
  case flag =>
    rw [flags]
    rfl
  case counted =>
    funext counter
    rw [here]
    cases counter <;> simp [Fbm.givenUp, Fbm.setFlag]

theorem return_unused
    (here : pool.place node = .decoding) (mark : (fbm.flag node).bNeedRelease = false) :
    ∃ fbm', fbmReturnNode fbm node false = some fbm' ∧
      Advances fbm fbm' pool (pool.move node .empty) 0 := by
  have free : (pool.place node).queue = none := by rw [here]; rfl
  have inside := represents.linked.bounded node (by simp [here])
  have flags := flag_of_place represents here mark
  have id := id_of_place represents here
  rcases enqueue_free (Fbm.givenUp fbm node) .pEmptyBufferQueue represents.linked free inside
    with ⟨next, head, result, relinked⟩
  have computed : fbmReturnNode fbm node false =
      some { { Fbm.givenUp fbm node with pNext := next, head := head } with
        nEmptyBufferNum := fbm.nEmptyBufferNum + 1
        nDecoderHoldingNum := fbm.nDecoderHoldingNum - 1 } := by
    rw [Fbm.givenUp] at result
    simp [fbmReturnNode, result, flags, flag, Fbm.givenUp, -Option.some.injEq]
    rfl
  refine ⟨_, computed, advances_move
    { fbm.pFrames node with flag := { fbm.flag node with bUsedByDecoder := false } }
    represents inside (relinked .empty rfl) rfl ?flag id (fun marked => marked)
    rfl rfl rfl ?counted⟩
  case flag =>
    rw [flags]
    rfl
  case counted =>
    funext counter
    rw [here]
    cases counter <;> simp [Fbm.givenUp, Fbm.setFlag]

theorem return_after_display
    (here : pool.place node = .shown) (mark : (fbm.flag node).bNeedRelease = false)
    (bValidPicture : Bool) :
    ∃ fbm', fbmReturnNode fbm node bValidPicture = some fbm' ∧
      Advances fbm fbm' pool (pool.move node .empty) 0 := by
  have free : (pool.place node).queue = none := by rw [here]; rfl
  have inside := represents.linked.bounded node (by simp [here])
  have flags := flag_of_place represents here mark
  have id := id_of_place represents here
  rcases enqueue_free ((Fbm.givenUp fbm node).setFlag node fun flag =>
      { flag with bAlreadyDisplayed := false }) .pEmptyBufferQueue represents.linked free inside
    with ⟨next, head, result, relinked⟩
  have computed : fbmReturnNode fbm node bValidPicture =
      some { (Fbm.givenUp fbm node).setFlag node fun flag =>
          { flag with bAlreadyDisplayed := false } with
        pNext := next
        head := head
        nEmptyBufferNum := fbm.nEmptyBufferNum + 1
        nDecoderHoldingNum := fbm.nDecoderHoldingNum - 1 } := by
    rw [Fbm.givenUp] at result
    simp [fbmReturnNode, result, flags, flag, Fbm.givenUp, -Option.some.injEq]
    rfl
  refine ⟨_, computed, advances_move
    { fbm.pFrames node with flag :=
      { fbm.flag node with bUsedByDecoder := false, bAlreadyDisplayed := false } }
    represents inside (relinked .empty rfl) ?frames ?flag id (fun marked => marked)
    rfl rfl rfl ?counted⟩
  case frames => simp [Fbm.givenUp, Fbm.setFlag, Fbm.flag]
  case flag =>
    rw [flags]
    rfl
  case counted =>
    funext counter
    rw [here]
    cases counter <;> simp [Fbm.givenUp, Fbm.setFlag]

theorem return_in_use {source target : FramePlace} (here : pool.place node = source)
    (mark : (fbm.flag node).bNeedRelease = bNeedRelease)
    (lent : source = .shared ∧ target = .ready ∨
      source = .showing ∧ target = .displayed ∧ bNeedRelease = false) (bValidPicture : Bool) :
    ∃ fbm', fbmReturnNode fbm node bValidPicture = some fbm' ∧
      Advances fbm fbm' pool (pool.move node target) 0 := by
  have flags := flag_of_place represents here mark
  have id := id_of_place represents here
  have computed : fbmReturnNode fbm node bValidPicture =
      some { Fbm.givenUp fbm node with nDecoderHoldingNum := fbm.nDecoderHoldingNum - 1 } := by
    rcases lent with ⟨rfl, rfl⟩ | ⟨rfl, rfl, rfl⟩ <;>
      simp [fbmReturnNode, flags, flag, Fbm.givenUp, -Option.some.injEq] <;> rfl
  have kept : (pool.place node).queue = target.queue := by
    rw [here]
    rcases lent with ⟨rfl, rfl⟩ | ⟨rfl, rfl, rfl⟩ <;> rfl
  have inside := represents.linked.bounded node
    (by rcases lent with ⟨rfl, rfl⟩ | ⟨rfl, rfl, rfl⟩ <;> simp [here])
  refine ⟨_, computed, advances_move
    { fbm.pFrames node with flag := { fbm.flag node with bUsedByDecoder := false } }
    represents inside (linked_same_queue represents.linked kept inside) rfl ?flag ?id
    (fun marked => marked) rfl rfl rfl ?counted⟩
  case flag =>
    rw [flags]
    rcases lent with ⟨rfl, rfl⟩ | ⟨rfl, rfl, rfl⟩ <;> rfl
  case id => rcases lent with ⟨rfl, rfl⟩ | ⟨rfl, rfl, rfl⟩ <;> exact id
  case counted =>
    funext counter
    rw [here]
    rcases lent with ⟨rfl, rfl⟩ | ⟨rfl, rfl, rfl⟩ <;>
      cases counter <;> simp [Fbm.givenUp, Fbm.setFlag]

/-- `FbmReturnBuffer` of a frame the decoder holds, unless the frame is marked
and the renderer still uses it. -/
theorem return_buffer_advances (held : (pool.place node).heldByDecoder = true)
    (safe : pool.place node = .showing → (fbm.flag node).bNeedRelease = false)
    (bValidPicture : Bool) :
    ∃ fbm', fbmReturnBuffer fbm node bValidPicture = some fbm' ∧ Advances fbm fbm' pool
        (pool.move node (returnedByDecoder (fbm.flag node).bNeedRelease bValidPicture
          (pool.place node)))
        (returnDrift fbm node) := by
  have inside := represents.linked.bounded node (by rintro absent; simp [absent] at held)
  have reached : fbmReturnBuffer fbm node bValidPicture = fbmReturnNode fbm node bValidPicture := by
    have index : fbm.nID node = node := by
      rw [represents.ids node]
      cases here : pool.place node <;> simp [here] at held <;> rfl
    simp [fbmReturnBuffer, index, Nat.not_le.mpr inside]
  rw [reached]
  unfold returnDrift
  cases mark : (fbm.flag node).bNeedRelease <;> cases here : pool.place node <;>
    simp only [here, heldByDecoder, Bool.false_eq_true] at held <;>
    rw [flag_of_place represents here mark] <;>
    simp only [flag, returnedByDecoder]
  · cases bValidPicture with
    | false => exact return_unused represents here mark
    | true => exact return_to_display represents here mark
  · exact return_in_use represents here mark (.inl ⟨rfl, rfl⟩) bValidPicture
  · exact return_in_use represents here mark (.inr ⟨rfl, rfl, rfl⟩) bValidPicture
  · exact return_after_display represents here mark bValidPicture
  · exact return_to_release represents (.inl here) mark bValidPicture
  · exact return_in_use represents here mark (.inl ⟨rfl, rfl⟩) bValidPicture
  · exact absurd (safe here) (by simp [mark])
  · exact return_to_release represents (.inr here) mark bValidPicture

theorem share_buffer_advances (here : pool.place node = .decoding) :
    ∃ fbm', fbmShareBuffer fbm node = some fbm' ∧ Advances fbm fbm' pool
        (if (fbm.flag node).bNeedRelease then pool else pool.move node .shared) 0 := by
  have free : (pool.place node).queue = none := by rw [here]; rfl
  have inside := represents.linked.bounded node (by simp [here])
  have id := id_of_place represents here
  have index : fbm.nID node = node := id
  cases mark : (fbm.flag node).bNeedRelease with
  | true =>
    have ignored : fbmShareBuffer fbm node = some fbm := by
      simp [fbmShareBuffer, index, mark, Nat.not_le.mpr inside]
    exact ⟨fbm, ignored, by simpa using advances_refl represents⟩
  | false =>
    have flags := flag_of_place represents here mark
    rcases enqueue_free (fbm.setFlag node fun flag => { flag with bInValidPictureQueue := true })
        .pValidPictureQueue represents.linked free inside with ⟨next, head, result, relinked⟩
    have computed : fbmShareBuffer fbm node =
        some { fbm.setFlag node fun flag => { flag with bInValidPictureQueue := true } with
          pNext := next
          head := head
          nValidPictureNum := fbm.nValidPictureNum + 1
          nWaitForDispNum := fbm.nWaitForDispNum + 1 } := by
      simp [fbmShareBuffer, index, flags, result, flag, Nat.not_le.mpr inside, -Option.some.injEq]
      rfl
    rw [if_neg (by decide)]
    refine ⟨_, computed, advances_move
      { fbm.pFrames node with flag := { fbm.flag node with bInValidPictureQueue := true } }
      represents inside (relinked .shared rfl) rfl ?flag id (fun marked => marked)
      rfl rfl rfl ?counted⟩
    case flag =>
      rw [flags]
      rfl
    case counted =>
      funext counter
      rw [here]
      cases counter <;> simp [Fbm.setFlag]

theorem request_picture_advances :
    (fbmRequestPicture fbm).2 = (pool.queues .pValidPictureQueue).head? ∧
      Advances fbm (fbmRequestPicture fbm).1 pool
        (pool.moveHead .pValidPictureQueue takenForDisplay) 0 := by
  have linked := represents.linked
  cases front : pool.queues .pValidPictureQueue with
  | nil =>
    simp only [fbmRequestPicture, dequeue_empty linked front, moveHead, front]
    exact ⟨rfl, advances_refl represents⟩
  | cons node rest =>
    have queued := queue_of_head linked.wellFormed front
    have waiting := queue_valid_iff.mp queued
    generalize mark : (fbm.flag node).bNeedRelease = bNeedRelease
    have flags := represents.flags node
    have id := represents.ids node
    rw [mark] at flags
    rcases dequeue_front linked front with ⟨next, head, result, relinked⟩
    have computed : fbmRequestPicture fbm =
        ({ ({ fbm with pNext := next, head := head }.setFlag node fun flag =>
            { flag with bInValidPictureQueue := false, bUsedByRender := true }).setPicture node
            fun picture =>
              { picture with nBufStatus := picture.nBufStatus ||| MAJOR_DISP_USE_FLAG } with
          nValidPictureNum := fbm.nValidPictureNum - 1
          nWaitForDispNum := fbm.nWaitForDispNum - 1
          nRenderHoldingNum := fbm.nRenderHoldingNum + 1 }, some node) := by
      rcases waiting with here | here <;> rw [here] at flags <;>
        simp [fbmRequestPicture, result, flags, flag, Fbm.setFlag, Fbm.setPicture]
    rw [computed]
    simp only [moveHead, front]
    refine ⟨rfl, advances_move
      { flag := { fbm.flag node with bInValidPictureQueue := false, bUsedByRender := true }
        vpicture := { (fbm.pFrames node).vpicture with
          nBufStatus := (fbm.pFrames node).vpicture.nBufStatus ||| MAJOR_DISP_USE_FLAG } }
      represents (linked.bounded node (place_not_absent queued)) (relinked _ ?free)
      ?frames ?flag ?id (fun marked => marked) rfl rfl rfl ?counted⟩
    case free => rcases waiting with here | here <;> rw [here] <;> rfl
    case frames => simp [Fbm.setFlag, Fbm.setPicture, Fbm.flag]
    case flag => rcases waiting with here | here <;> rw [flags, here] <;> rfl
    case id => rcases waiting with here | here <;> rw [here] at id ⊢ <;> exact id
    case counted =>
      funext counter
      rcases waiting with here | here <;> rw [here] <;>
        cases counter <;> simp [Fbm.setFlag, Fbm.setPicture, takenForDisplay]

omit represents

def Fbm.takenBack (fbm : Fbm) (node : Nat) : Fbm :=
  { fbm.setFlag node fun flag => { flag with bUsedByRender := false } with
    nRenderHoldingNum := fbm.nRenderHoldingNum - 1 }

theorem return_showing (represents : Represents fbm pool) (here : pool.place node = .showing) :
    ∃ fbm', fbmReturnPicture fbm node = some (fbm', 0) ∧
      Advances fbm fbm' pool (pool.move node .shown) 0 := by
  generalize mark : (fbm.flag node).bNeedRelease = bNeedRelease
  have flags := flag_of_place represents here mark
  have id := id_of_place represents here
  have index : fbm.nID node = node := id
  have inside := represents.linked.bounded node (by simp [here])
  have computed : fbmReturnPicture fbm node =
      some (({ fbm.setFlag node fun flag => { flag with bUsedByRender := false } with
        nRenderHoldingNum := fbm.nRenderHoldingNum - 1 } : Fbm).setFlag node
          fun flag => { flag with bAlreadyDisplayed := true }, 0) := by
    simp [fbmReturnPicture, fbmReturnShown, index, flags, flag, Nat.not_le.mpr inside]
  refine ⟨_, computed, advances_move
    { fbm.pFrames node with flag :=
      { fbm.flag node with bUsedByRender := false, bAlreadyDisplayed := true } }
    represents inside (linked_same_queue represents.linked (by rw [here]; rfl) inside)
    ?frames ?flag id (fun marked => marked) rfl rfl rfl ?counted⟩
  case frames => simp [Fbm.setFlag, Fbm.flag]
  case flag =>
    rw [flags]
    rfl
  case counted =>
    funext counter
    rw [here]
    cases counter <;> simp [Fbm.setFlag]

theorem return_displayed (represents : Represents fbm pool) (here : pool.place node = .displayed) :
    ∃ fbm', fbmReturnPicture fbm node = some (fbm', 0) ∧ Advances fbm fbm' pool
        (pool.move node (if (fbm.flag node).bNeedRelease then .releasing else .empty)) 0 := by
  have free : (pool.place node).queue = none := by rw [here]; rfl
  have id := id_of_place represents here
  have index : fbm.nID node = node := id
  have inside := represents.linked.bounded node (by simp [here])
  have queued := fun queue =>
    enqueue_free (Fbm.takenBack fbm node) queue represents.linked free inside
  cases mark : (fbm.flag node).bNeedRelease with
  | true =>
    have flags := flag_of_place represents here mark
    rcases queued .pReleaseBufferQueue with ⟨next, head, result, relinked⟩
    have computed : fbmReturnPicture fbm node =
        some ({ Fbm.takenBack fbm node with
          pNext := next
          head := head
          nReleaseBufferNum := fbm.nReleaseBufferNum + 1 }, 0) := by
      rw [Fbm.takenBack] at result
      simp [fbmReturnPicture, fbmReturnShown, index, flags, result, flag,
        Nat.not_le.mpr inside, Fbm.takenBack, -Option.some.injEq]
      rfl
    rw [if_pos rfl]
    refine ⟨_, computed, advances_move
      { fbm.pFrames node with flag := { fbm.flag node with bUsedByRender := false } }
      represents inside (relinked .releasing rfl) rfl ?_ id (fun marked => marked)
      rfl rfl rfl ?_⟩
    · rw [flags]
      rfl
    · funext counter
      rw [here]
      cases counter <;> simp [Fbm.takenBack, Fbm.setFlag]
  | false =>
    have flags := flag_of_place represents here mark
    rcases queued .pEmptyBufferQueue with ⟨next, head, result, relinked⟩
    have computed : fbmReturnPicture fbm node =
        some ({ Fbm.takenBack fbm node with
          pNext := next
          head := head
          nEmptyBufferNum := fbm.nEmptyBufferNum + 1 }, 0) := by
      rw [Fbm.takenBack] at result
      simp [fbmReturnPicture, fbmReturnShown, index, flags, result, flag,
        Nat.not_le.mpr inside, Fbm.takenBack, -Option.some.injEq]
      rfl
    rw [if_neg (by decide)]
    refine ⟨_, computed, advances_move
      { fbm.pFrames node with flag := { fbm.flag node with bUsedByRender := false } }
      represents inside (relinked .empty rfl) rfl ?_ id (fun marked => marked)
      rfl rfl rfl ?_⟩
    · rw [flags]
      rfl
    · funext counter
      rw [here]
      cases counter <;> simp [Fbm.takenBack, Fbm.setFlag]

theorem return_forbidden (represents : Represents fbm pool) (here : pool.place node = .forbidden)
    (tagged : fbm.nMaxFrameNum ≤ node + FRM_FORBID_USE_TAG) :
    ∃ fbm', fbmReturnPicture fbm node = some (fbm', 0) ∧
      Advances fbm fbm' pool (pool.move node .empty) 0 := by
  generalize mark : (fbm.flag node).bNeedRelease = bNeedRelease
  have free : (pool.place node).queue = none := by rw [here]; rfl
  have flags := flag_of_place represents here mark
  have id := id_of_place represents here
  have index : fbm.nID node = node + FRM_FORBID_USE_TAG := id
  have inside := represents.linked.bounded node (by simp [here])
  rcases enqueue_free fbm .pEmptyBufferQueue represents.linked free inside
    with ⟨next, head, result, relinked⟩
  have computed : fbmReturnPicture fbm node =
      some ({ ({ fbm with pNext := next, head := head } : Fbm).setPicture node fun picture =>
          { picture with nID := picture.nID - FRM_FORBID_USE_TAG } with
        nEmptyBufferNum := fbm.nEmptyBufferNum + 1 }, 0) := by
    simp [fbmReturnPicture, fbmReturnForbidden, index, flags, result, flag, tagged]
  refine ⟨_, computed, advances_move
    { fbm.pFrames node with vpicture := { (fbm.pFrames node).vpicture with
      nID := fbm.nID node - FRM_FORBID_USE_TAG } }
    represents inside (relinked .empty rfl) rfl ?flag ?id (fun marked => marked)
    rfl rfl rfl ?counted⟩
  case flag =>
    change fbm.flag node = empty.flag (fbm.flag node).bNeedRelease
    rw [flags]
    rfl
  case id =>
    change fbm.nID node - FRM_FORBID_USE_TAG = node
    omega
  case counted =>
    funext counter
    rw [here]
    cases counter <;> simp [Fbm.setPicture]

/-- A renderer keeps a picture only when its tag is below the number of frames. -/
theorem return_picture_advances (represents : Represents fbm pool)
    (held : (pool.place node).heldByRender = true) :
    let target := returnedByRender fbm.nMaxFrameNum node
      (fbm.flag node).bNeedRelease (pool.place node)
    ∃ fbm' result, fbmReturnPicture fbm node = some (fbm', result) ∧
      (result = 0 ↔ target.heldByRender = false) ∧
      Advances fbm fbm' pool (pool.move node target) 0 := by
  intro target
  cases here : pool.place node with
  | showing =>
    rcases return_showing represents here with ⟨fbm', computed, advances⟩
    have moved : target = .shown := by simp only [target, here, returnedByRender]
    rw [moved]
    exact ⟨fbm', 0, computed, by decide, advances⟩
  | displayed =>
    rcases return_displayed represents here with ⟨fbm', computed, advances⟩
    have moved : target = if (fbm.flag node).bNeedRelease then .releasing else .empty := by
      simp only [target, here, returnedByRender]
    rw [moved]
    refine ⟨fbm', 0, computed, ?_, advances⟩
    split <;> decide
  | forbidden =>
    by_cases tagged : fbm.nMaxFrameNum ≤ node + FRM_FORBID_USE_TAG
    · rcases return_forbidden represents here tagged with ⟨fbm', computed, advances⟩
      have moved : target = .empty := by
        simp only [target, here, returnedByRender, if_pos tagged]
      rw [moved]
      exact ⟨fbm', 0, computed, by decide, advances⟩
    · have moved : target = .forbidden := by
        simp only [target, here, returnedByRender, if_neg tagged]
      have id := id_of_place represents here
      have refused : fbmReturnPicture fbm node = some (fbm, -1) := by
        have index : fbm.nID node = node + FRM_FORBID_USE_TAG := id
        have other : node ≠ node + FRM_FORBID_USE_TAG := by
          unfold FRM_FORBID_USE_TAG
          omega
        simp only [fbmReturnPicture, index, if_neg tagged, if_pos other]
      have stays : pool.move node .forbidden = pool := by rw [← here, move_here]
      rw [moved, stays]
      exact ⟨fbm, -1, refused, by decide, advances_refl represents⟩
  | _ => simp [here, heldByRender] at held

section Loops

variable {rest : List Nat}

theorem queue_after_front {queue : FbmQueue} {target : FramePlace}
    (wellFormed : pool.WellFormed) (front : pool.queues queue = node :: rest)
    (outside : target.queue ≠ some queue) :
    (pool.move node target).queues queue = rest := by
  rw [move_queue_left (queue_of_head wellFormed front) outside, front, List.erase_cons_head]

/-- The state after one picture was flushed, as the loop of `FbmFlush` leaves it. -/
def flushOne (fbm : Fbm) (node : Nat) : Fbm :=
  { fbm.setPicture node fun picture => { picture with nBufStatus := 0 } with
    nValidPictureNum := fbm.nValidPictureNum - 1 }

/-- One turn of the loop of `FbmFlush`: the head of the valid queue goes where
`flushed` says, and `nWaitForDispNum` keeps counting it. -/
theorem flush_turn (represents : Represents fbm pool)
    (front : pool.queues .pValidPictureQueue = node :: rest) (fuel : Nat) :
    ∃ fbm', fbmFlushLoop (fuel + 1) fbm = fbmFlushLoop fuel fbm' ∧
      (∃ frame : FrameNode, fbm'.pFrames = Function.update fbm.pFrames node frame ∧
        frame.vpicture.nBufStatus = 0) ∧
      Advances fbm fbm' pool (pool.move node (flushed (pool.place node)))
        (Pi.single .nWaitForDispNum 1) := by
  have linked := represents.linked
  have queued := queue_of_head linked.wellFormed front
  have inside := linked.bounded node (place_not_absent queued)
  generalize mark : (fbm.flag node).bNeedRelease = bNeedRelease
  rcases dequeue_front linked front with ⟨next, head, result, relinked⟩
  rcases queue_valid_iff.mp queued with here | here
  · have flags := flag_of_place represents here mark
    have id := id_of_place represents here
    have computed : fbmFlushLoop (fuel + 1) fbm = fbmFlushLoop fuel
        (((flushOne { fbm with pNext := next, head := head } node).setFlag node
          fun flag => { flag with bInValidPictureQueue := false }).setFlag node
          fun flag => { flag with bAlreadyDisplayed := true }) := by
      simp [fbmFlushLoop, result, flags, flag, flushOne]
    rw [here]
    have frames : (((flushOne { fbm with pNext := next, head := head } node).setFlag node
          fun flag => { flag with bInValidPictureQueue := false }).setFlag node
          fun flag => { flag with bAlreadyDisplayed := true }).pFrames =
        Function.update fbm.pFrames node
          { flag := { fbm.flag node with bInValidPictureQueue := false, bAlreadyDisplayed := true }
            vpicture := { (fbm.pFrames node).vpicture with nBufStatus := 0 } } := by
      simp [flushOne, Fbm.setFlag, Fbm.setPicture, Fbm.flag]
    refine ⟨_, computed, ⟨_, frames, rfl⟩, advances_move _
      represents inside (relinked .shown rfl) frames ?_ id (fun marked => marked) rfl rfl rfl ?_⟩
    · rw [flags]
      rfl
    · funext counter
      rw [here]
      cases counter <;> simp [flushOne, Fbm.setFlag, Fbm.setPicture, flushed]
  · have flags := flag_of_place represents here mark
    have id := id_of_place represents here
    let unqueued := (flushOne { fbm with pNext := next, head := head } node).setFlag node
      fun flag => { flag with bInValidPictureQueue := false }
    have between := relinked .decoding rfl
    have free : ((pool.move node .decoding).place node).queue = none := by simp
    rcases enqueue_free unqueued .pEmptyBufferQueue between free inside
      with ⟨next', head', appended, entered⟩
    have linked' := entered .empty rfl
    rw [move_move rfl (by rw [here]; decide)] at linked'
    have computed : fbmFlushLoop (fuel + 1) fbm = fbmFlushLoop fuel
        { unqueued with
          pNext := next'
          head := head'
          nEmptyBufferNum := fbm.nEmptyBufferNum + 1 } := by
      simp [fbmFlushLoop, result, flags, flag]
      exact congrArg (Option.bind · _) appended
    rw [here]
    have frames : unqueued.pFrames = Function.update fbm.pFrames node
        { flag := { fbm.flag node with bInValidPictureQueue := false }
          vpicture := { (fbm.pFrames node).vpicture with nBufStatus := 0 } } := by
      simp [unqueued, flushOne, Fbm.setFlag, Fbm.setPicture, Fbm.flag]
    refine ⟨_, computed, ⟨_, frames, rfl⟩, advances_move _
      represents inside linked' frames ?_ id (fun marked => marked) rfl rfl rfl ?_⟩
    · rw [flags]
      rfl
    · funext counter
      rw [here]
      cases counter <;> simp [unqueued, flushOne, Fbm.setFlag, Fbm.setPicture, flushed]

theorem flushed_behind (represents : Represents fbm pool)
    (front : pool.queues .pValidPictureQueue = node :: rest) :
    (pool.move node (flushed (pool.place node))).queues .pValidPictureQueue = rest := by
  have wellFormed := represents.linked.wellFormed
  apply queue_after_front wellFormed front
  rcases queue_valid_iff.mp (queue_of_head wellFormed front) with here | here
  all_goals
    rw [here]
    decide

theorem flush_loop_advances {waiting : List Nat} {fuel : Nat} (represents : Represents fbm pool)
    (queued : pool.queues .pValidPictureQueue = waiting) (enough : waiting.length < fuel) :
    ∃ fbm', fbmFlushLoop fuel fbm = some fbm' ∧
      Advances fbm fbm' pool (pool.moveAll waiting flushed)
        (Pi.single .nWaitForDispNum (waiting.length : Int)) := by
  induction waiting generalizing fbm pool fuel with
  | nil =>
    cases fuel with
    | zero => simp at enough
    | succ fuel =>
      have stopped : fbmFlushLoop (fuel + 1) fbm = some fbm := by
        simp only [fbmFlushLoop, dequeue_empty represents.linked queued]
      exact ⟨fbm, stopped, by simpa [moveAll] using advances_refl represents⟩
  | cons node rest ih =>
    cases fuel with
    | zero => simp at enough
    | succ fuel =>
      rcases flush_turn represents queued fuel with ⟨between, turned, -, first⟩
      have later := flushed_behind represents queued
      rcases ih first.represents later (by simpa using enough) with ⟨fbm', result, second⟩
      refine ⟨fbm', turned.trans result, ?_⟩
      have both := advances_trans first second
      rw [← Pi.single_add] at both
      have counted : ((node :: rest).length : Int) = 1 + (rest.length : Int) := by simp [add_comm]
      rw [counted]
      exact both

theorem flush_loop_status {waiting : List Nat} {fuel : Nat} {fbm' : Fbm} {other : Nat}
    (represents : Represents fbm pool) (queued : pool.queues .pValidPictureQueue = waiting)
    (call : fbmFlushLoop fuel fbm = some fbm') :
    (fbm'.pFrames other).vpicture.nBufStatus =
      if other ∈ waiting then 0 else (fbm.pFrames other).vpicture.nBufStatus := by
  induction waiting generalizing fbm pool fuel with
  | nil =>
    cases fuel with
    | zero => cases call
    | succ fuel =>
      simp only [fbmFlushLoop, dequeue_empty represents.linked queued] at call
      cases call
      simp
  | cons node rest ih =>
    cases fuel with
    | zero => cases call
    | succ fuel =>
      rcases flush_turn represents queued fuel with
        ⟨between, turned, ⟨frame, frames, cleared⟩, first⟩
      have later := flushed_behind represents queued
      rw [turned] at call
      rw [ih first.represents later call, frames]
      by_cases here : other = node
      · subst here
        simp [cleared]
      · simp [here]

theorem flush_advances (represents : Represents fbm pool) : ∃ fbm', fbmFlush fbm = some fbm' ∧
      Advances fbm fbm' pool pool.flush
        (Pi.single .nWaitForDispNum ((pool.queues .pValidPictureQueue).length : Int)) := by
  have short := queue_length_le represents.linked.wellFormed
    represents.linked.bounded .pValidPictureQueue
  exact flush_loop_advances represents rfl (by omega)

theorem drain_turn (represents : Represents fbm pool)
    (front : pool.queues .pEmptyBufferQueue = node :: rest) (fuel : Nat) :
    ∃ fbm', fbmNewDispReleaseLoop (fuel + 1) fbm = fbmNewDispReleaseLoop fuel fbm' ∧
      Advances fbm fbm' pool (pool.move node .releasing) 0 := by
  have linked := represents.linked
  have queued := queue_of_head linked.wellFormed front
  have here := queue_empty_iff.mp queued
  have inside := linked.bounded node (place_not_absent queued)
  generalize mark : (fbm.flag node).bNeedRelease = bNeedRelease
  have flags := flag_of_place represents here mark
  have id := id_of_place represents here
  rcases dequeue_front linked front with ⟨next, head, result, relinked⟩
  have between := relinked .decoding rfl
  have free : ((pool.move node .decoding).place node).queue = none := by simp
  rcases enqueue_free { fbm with
      pNext := next
      head := head
      nEmptyBufferNum := fbm.nEmptyBufferNum - 1 } .pReleaseBufferQueue between free inside
    with ⟨next', head', appended, entered⟩
  have linked' := entered .releasing rfl
  rw [move_move rfl (by rw [here]; decide)] at linked'
  have computed : fbmNewDispReleaseLoop (fuel + 1) fbm = fbmNewDispReleaseLoop fuel
      { fbm with
        pNext := next'
        head := head'
        nEmptyBufferNum := fbm.nEmptyBufferNum - 1
        nReleaseBufferNum := fbm.nReleaseBufferNum + 1 } := by
    simp [fbmNewDispReleaseLoop, result, flags, flag, appended]
  refine ⟨_, computed, advances_move (fbm.pFrames node) represents inside linked'
    (Function.update_eq_self node fbm.pFrames).symm ?_ id (fun marked => marked)
    rfl rfl rfl ?_⟩
  · change fbm.flag node = releasing.flag (fbm.flag node).bNeedRelease
    rw [flags]
    rfl
  · funext counter
    rw [here]
    cases counter <;> simp

theorem drain_loop_advances {idle : List Nat} {fuel : Nat} (represents : Represents fbm pool)
    (queued : pool.queues .pEmptyBufferQueue = idle) (enough : idle.length < fuel) :
    ∃ fbm', fbmNewDispReleaseLoop fuel fbm = some fbm' ∧
      Advances fbm fbm' pool (pool.moveAll idle drained) 0 := by
  induction idle generalizing fbm pool fuel with
  | nil =>
    cases fuel with
    | zero => simp at enough
    | succ fuel =>
      have stopped : fbmNewDispReleaseLoop (fuel + 1) fbm = some fbm := by
        simp only [fbmNewDispReleaseLoop, dequeue_empty represents.linked queued]
      exact ⟨fbm, stopped, advances_refl represents⟩
  | cons node rest ih =>
    cases fuel with
    | zero => simp at enough
    | succ fuel =>
      rcases drain_turn represents queued fuel with ⟨between, turned, first⟩
      have outside : releasing.queue ≠ some .pEmptyBufferQueue := by decide
      have later := queue_after_front represents.linked.wellFormed queued outside
      rcases ih first.represents later (by simpa using enough) with ⟨fbm', result, second⟩
      have both := advances_trans first second
      have here := queue_empty_iff.mp
        (queue_of_head represents.linked.wellFormed queued)
      have unfolded : pool.moveAll (node :: rest) drained =
          (pool.move node .releasing).moveAll rest drained := by
        simp only [moveAll, List.foldl_cons, here, drained]
      rw [unfolded]
      rw [add_zero] at both
      exact ⟨fbm', turned.trans result, both⟩

theorem new_disp_release_advances (represents : Represents fbm pool) :
    ∃ fbm', fbmNewDispRelease fbm = some fbm' ∧ Advances fbm fbm' pool pool.drainEmpty 0 := by
  have short := queue_length_le represents.linked.wellFormed
    represents.linked.bounded .pEmptyBufferQueue
  exact drain_loop_advances represents rfl (by omega)

end Loops

theorem mark_represents (represents : Represents fbm pool) :
    Represents (fbmMarkNeedRelease fbm) pool ∧
      excess (fbmMarkNeedRelease fbm) pool = excess fbm pool := by
  refine ⟨⟨represents.linked, ?_, ?_⟩, ?_⟩
  · intro node
    have before := represents.flags node
    unfold fbmMarkNeedRelease Fbm.flag
    simp only
    split
    · exact congrArg (fun flag => { flag with bNeedRelease := true }) before
    · exact before
  · intro node
    have before := represents.ids node
    unfold fbmMarkNeedRelease Fbm.nID
    simp only
    split
    · exact before
    · exact before
  · funext counter
    cases counter <;> rfl

theorem set_new_disp_release_advances (represents : Represents fbm pool) :
    ∃ fbm', fbmSetNewDispRelease fbm = some fbm' ∧
      Advances (fbmMarkNeedRelease fbm) fbm' pool pool.flush.drainEmpty
        (Pi.single .nWaitForDispNum ((pool.queues .pValidPictureQueue).length : Int)) := by
  rcases flush_advances (mark_represents represents).1 with ⟨between, flushed, first⟩
  rcases new_disp_release_advances first.represents with ⟨fbm', drained, second⟩
  have both := advances_trans first second
  rw [add_zero] at both
  refine ⟨fbm', ?_, both⟩
  rw [fbmSetNewDispRelease, flushed]
  exact drained

theorem request_release_picture_advances (represents : Represents fbm pool) :
    (fbmRequestReleasePicture fbm).2 = (pool.queues .pReleaseBufferQueue).head? ∧
      Advances fbm (fbmRequestReleasePicture fbm).1 pool
        (pool.moveHead .pReleaseBufferQueue fun _ => .released) 0 := by
  have linked := represents.linked
  cases front : pool.queues .pReleaseBufferQueue with
  | nil =>
    simp only [fbmRequestReleasePicture, dequeue_empty linked front, moveHead, front]
    exact ⟨rfl, advances_refl represents⟩
  | cons node rest =>
    have queued := queue_of_head linked.wellFormed front
    have here := queue_release_iff.mp queued
    generalize mark : (fbm.flag node).bNeedRelease = bNeedRelease
    have flags := flag_of_place represents here mark
    rcases dequeue_front linked front with ⟨next, head, result, relinked⟩
    have computed : fbmRequestReleasePicture fbm =
        ({ ({ fbm with pNext := next, head := head } : Fbm).setPicture node fun picture =>
            { picture with nID := FRM_RELEASE_TAG } with
          nReleaseBufferNum := fbm.nReleaseBufferNum - 1 }, some node) := by
      simp only [fbmRequestReleasePicture, result]
    rw [computed]
    simp only [moveHead, front]
    refine ⟨rfl, advances_move
      { fbm.pFrames node with
        vpicture := { (fbm.pFrames node).vpicture with nID := FRM_RELEASE_TAG } }
      represents (linked.bounded node (place_not_absent queued)) (relinked .released rfl)
      rfl ?_ rfl (fun marked => marked) rfl rfl rfl ?_⟩
    · change fbm.flag node = released.flag (fbm.flag node).bNeedRelease
      rw [flags]
      rfl
    · funext counter
      rw [here]
      cases counter <;> simp [Fbm.setPicture]

/-- The frame that `FbmReturnReleasePicture` picks, when the release client
holds it, goes back to the decoder or to the application. -/
theorem return_release_picture_advances {index : Nat} (represents : Represents fbm pool)
    (slot : fbmReleaseSlot fbm = some index) (here : pool.place index = .released)
    (nBufId : Nat) (bForbidUseFlag : Bool) :
    ∃ fbm', fbmReturnReleasePicture fbm nBufId bForbidUseFlag = some (fbm', some index) ∧
      Advances fbm fbm' pool
        (pool.move index (if bForbidUseFlag then .forbidden else .empty)) 0 := by
  generalize mark : (fbm.flag index).bNeedRelease = bNeedRelease
  have free : (pool.place index).queue = none := by rw [here]; rfl
  have flags := flag_of_place represents here mark
  have inside := represents.linked.bounded index (by simp [here])
  cases bForbidUseFlag with
  | true =>
    have computed : fbmReturnReleasePicture fbm nBufId true = some (((fbm.setFlag index fun flag =>
          { flag with bNeedRelease := false }).setPicture index
          fun picture => { picture with nBufId := nBufId, nID := index }).setPicture index
          fun picture => { picture with nID := picture.nID + FRM_FORBID_USE_TAG },
          some index) := by
      simp [fbmReturnReleasePicture, slot]
    rw [if_pos rfl]
    refine ⟨_, computed, advances_move
      { flag := { fbm.flag index with bNeedRelease := false }
        vpicture := { (fbm.pFrames index).vpicture with
          nBufId := nBufId
          nID := index + FRM_FORBID_USE_TAG } }
      represents inside (linked_same_queue represents.linked (by rw [here]; rfl) inside)
      ?_ ?_ rfl (by simp) rfl rfl rfl ?_⟩
    · simp [Fbm.setFlag, Fbm.setPicture, Fbm.flag]
    · rw [flags]
      rfl
    · funext counter
      rw [here]
      cases counter <;> simp [Fbm.setFlag, Fbm.setPicture]
  | false =>
    let renewed := (fbm.setFlag index fun flag =>
      { flag with bNeedRelease := false }).setPicture index
      fun picture => { picture with nBufId := nBufId, nID := index }
    rcases enqueue_free renewed .pEmptyBufferQueue represents.linked free inside
      with ⟨next, head, result, relinked⟩
    have computed : fbmReturnReleasePicture fbm nBufId false =
        some ({ renewed with
          pNext := next
          head := head
          nEmptyBufferNum := fbm.nEmptyBufferNum + 1 }, some index) := by
      simp only [fbmReturnReleasePicture, slot, if_true]
      exact congrArg (Option.map _) result
    rw [if_neg (by decide)]
    refine ⟨_, computed, advances_move
      { flag := { fbm.flag index with bNeedRelease := false }
        vpicture := { (fbm.pFrames index).vpicture with nBufId := nBufId, nID := index } }
      represents inside (relinked .empty rfl) ?_ ?_ rfl (by simp) rfl rfl rfl ?_⟩
    · simp [renewed, Fbm.setFlag, Fbm.setPicture, Fbm.flag]
    · rw [flags]
      rfl
    · funext counter
      rw [here]
      cases counter <;> simp [renewed, Fbm.setFlag, Fbm.setPicture]

theorem set_fbm_buf_address_advances (represents : Represents fbm pool)
    (here : pool.place fbm.nValidBufNum = .absent) (inside : fbm.nValidBufNum < fbm.nMaxFrameNum)
    (nBufId : Nat) (bForbidUseFlag : Bool) :
    ∃ fbm', fbmSetFbmBufAddress fbm nBufId bForbidUseFlag = some (fbm', fbm.nValidBufNum) ∧
      Advances { fbm with nValidBufNum := fbm.nValidBufNum + 1 } fbm' pool
        (pool.move fbm.nValidBufNum (if bForbidUseFlag then .forbidden else .empty)) 0 := by
  have free : (pool.place fbm.nValidBufNum).queue = none := by rw [here]; rfl
  generalize mark : (fbm.flag fbm.nValidBufNum).bNeedRelease = bNeedRelease
  have flags := flag_of_place represents here mark
  have same : Represents { fbm with nValidBufNum := fbm.nValidBufNum + 1 } pool :=
    ⟨represents.linked, represents.flags, represents.ids⟩
  cases bForbidUseFlag with
  | true =>
    have computed : fbmSetFbmBufAddress fbm nBufId true =
        some ({ ((fbm.setPicture fbm.nValidBufNum fun picture =>
            { picture with nBufId := nBufId, nID := fbm.nValidBufNum }).setPicture
            fbm.nValidBufNum fun picture =>
              { picture with nID := picture.nID + FRM_FORBID_USE_TAG }) with
          nValidBufNum := fbm.nValidBufNum + 1 }, fbm.nValidBufNum) := by
      simp [fbmSetFbmBufAddress, Fbm.setPicture]
    rw [if_pos rfl]
    refine ⟨_, computed, advances_move
      { fbm.pFrames fbm.nValidBufNum with
        vpicture := { (fbm.pFrames fbm.nValidBufNum).vpicture with
          nBufId := nBufId
          nID := fbm.nValidBufNum + FRM_FORBID_USE_TAG } }
      same inside (linked_same_queue represents.linked (by rw [here]; rfl) inside)
      ?_ ?_ rfl (fun marked => marked) rfl rfl rfl ?_⟩
    · simp [Fbm.setPicture]
    · change fbm.flag _ = forbidden.flag (fbm.flag _).bNeedRelease
      rw [flags]
      rfl
    · funext counter
      rw [here]
      cases counter <;> simp [Fbm.setPicture]
  | false =>
    let filled := fbm.setPicture fbm.nValidBufNum fun picture =>
      { picture with nBufId := nBufId, nID := fbm.nValidBufNum }
    rcases enqueue_free filled .pEmptyBufferQueue represents.linked free inside
      with ⟨next, head, result, relinked⟩
    have computed : fbmSetFbmBufAddress fbm nBufId false =
        some ({ filled with
          pNext := next
          head := head
          nEmptyBufferNum := fbm.nEmptyBufferNum + 1
          nValidBufNum := fbm.nValidBufNum + 1 }, fbm.nValidBufNum) := by
      simp only [fbmSetFbmBufAddress, if_true]
      exact congrArg (Option.map _) result
    rw [if_neg (by decide)]
    refine ⟨_, computed, advances_move
      { fbm.pFrames fbm.nValidBufNum with
        vpicture := { (fbm.pFrames fbm.nValidBufNum).vpicture with
          nBufId := nBufId
          nID := fbm.nValidBufNum } }
      same inside (relinked .empty rfl) rfl ?_ rfl (fun marked => marked) rfl rfl rfl ?_⟩
    · change fbm.flag _ = empty.flag (fbm.flag _).bNeedRelease
      rw [flags]
      rfl
    · funext counter
      rw [here]
      cases counter <;> simp [filled, Fbm.setPicture]

end CedarC.FbmOperationSteps
