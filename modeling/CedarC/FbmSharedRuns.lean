import CedarC.FbmReleaseMarks
import CedarC.FbmSharedModel

/-!
# Pictures that both streams of a 3D video use

Seen from the first manager the two decoders are one decoder that keeps a picture
until both have returned it, and the two renderers are one renderer. The use flags
of a picture then say which stream still has it.
-/

namespace CedarC.FbmSharedRuns

open GuardedRuns FbmFrameModel FbmFramePool FbmRefinement FbmOperationSteps FbmReleaseMarks
open FbmSharedModel Option Function FramePool FramePlace
open CedarC.FbmOwnership (FbmSystem Agrees poolAfter wasShared)

def asOne (system : SharedSystem) : FbmSystem where
  fbm := system.first
  decoderHolds := fun picture => (system.first.flag picture).bUsedByDecoder
  decoderShared := fun _ => false
  renderHolds := fun picture =>
    system.renderHolds .major picture || system.renderHolds .minor picture
  releaseHolds := system.releaseHolds

structure Uses (nBufStatus : Nat) (decoder render : Stream → Bool) (pointed : Bool)
    (place : FramePlace) : Prop where
  majorDecoder : inUse nBufStatus .MAJOR_DECODER_USE_FLAG = decoder .major
  minorDecoder : inUse nBufStatus .MINOR_DECODER_USE_FLAG = decoder .minor
  majorDisp : inUse nBufStatus .MAJOR_DISP_USE_FLAG = (render .major && decide (place = .displayed))
  minorDisp : inUse nBufStatus .MINOR_DISP_USE_FLAG = render .minor
  decoded : decoder .major = true ∨ decoder .minor = true → place = .decoding
  displayed : render .minor = true → place = .displayed
  kept : place = .decoding → decoder .major = true ∨ decoder .minor = true ∨
    inUse nBufStatus .MINOR_NEED_USE_FLAG = true
  pointed : place = .decoding → inUse nBufStatus .MINOR_NEED_USE_FLAG = true → pointed = true

def UsesAt (system : SharedSystem) (picture : Nat) (place : FramePlace) : Prop :=
  Uses (status system.first picture) (fun stream => system.decoderHolds stream picture)
    (fun stream => system.renderHolds stream picture)
    (decide (system.shared.pMajorDecoderFrame = some picture)) place

structure SharedAgrees (system : SharedSystem) (pool : FramePool) : Prop where
  one : Agrees (asOne system) pool
  gpu : system.first.bUseGpuBuf = true
  uses : ∀ picture, UsesAt system picture (pool.place picture)

section Status

variable {fbm fbm' : Fbm} {picture other : Nat}

theorem status_of_contents (same : contents fbm' = contents fbm) :
    status fbm' other = status fbm other :=
  congrArg (fun content => content.2.2) (congrFun same other)

variable (change : Nat → Nat)

include change

@[simp] theorem status_set_self :
    status (setStatus fbm picture change) picture = change (status fbm picture) := by
  simp [status, setStatus, Fbm.setPicture]

theorem status_set_other (different : other ≠ picture) :
    status (setStatus fbm picture change) other = status fbm other := by
  simp [status, setStatus, Fbm.setPicture, different]

@[simp] theorem flag_set_status :
    (setStatus fbm picture change).flag other = fbm.flag other := by
  unfold setStatus
  exact Fbm.flag_setPicture _ _ _ _

theorem id_set_status : (setStatus fbm picture change).nID other = fbm.nID other := by
  unfold setStatus Fbm.nID Fbm.setPicture
  dsimp only
  by_cases here : other = picture
  · rw [here, update_self]
  · rw [update_of_ne here]

omit change

theorem status_set_label {change : VideoPicture → VideoPicture}
    (keeps : ∀ vpicture, (change vpicture).nBufStatus = vpicture.nBufStatus) :
    status (fbm.setPicture picture change) other = status fbm other := by
  unfold status Fbm.setPicture
  dsimp only
  by_cases here : other = picture
  · rw [here, update_self]
    exact keeps _
  · rw [update_of_ne here]

theorem status_set_flag {change : FrameNodeFlag → FrameNodeFlag} :
    status (fbm.setFlag picture change) other = status fbm other := by
  unfold status Fbm.setFlag
  dsimp only
  by_cases here : other = picture
  · rw [here, update_self]
  · rw [update_of_ne here]

theorem set_status_represents {pool : FramePool} (represents : Represents fbm pool)
    (change : Nat → Nat) : Represents (setStatus fbm picture change) pool := by
  constructor
  · exact represents.linked
  · intro node
    rw [flag_set_status]
    exact represents.flags node
  · intro node
    rw [id_set_status]
    exact represents.ids node

end Status

section Views

variable {system system' : SharedSystem} {pool : FramePool}

theorem as_one_agrees {one : FbmSystem} (agrees : Agrees one pool)
    (fbm : system'.first = one.fbm) (unshared : ∀ picture, one.decoderShared picture = false)
    (render : ∀ picture, (system'.renderHolds .major picture ||
      system'.renderHolds .minor picture) = one.renderHolds picture)
    (release : system'.releaseHolds = one.releaseHolds) : Agrees (asOne system') pool := by
  have represents := agrees.represents
  rw [← fbm] at represents
  constructor
  · exact represents
  · intro node
    rw [agrees.given node]
    unfold FbmSystem.given asOne
    rw [fbm]
  · intro node
    change (system'.first.flag node).bUsedByDecoder = _
    rw [represents.flags node]
    rfl
  · intro node
    exact (render node).trans (agrees.render node)
  · intro node
    change system'.releaseHolds node = _
    rw [release]
    exact agrees.release node
  · intro node shared
    have impossible := agrees.sharing node shared
    rw [unshared node] at impossible
    cases impossible

theorem as_one_status (agrees : Agrees (asOne system) pool) (picture : Nat)
    (change : Nat → Nat) (fbm : system'.first = setStatus system.first picture change)
    (render : ∀ other, (system'.renderHolds .major other || system'.renderHolds .minor other) =
      (system.renderHolds .major other || system.renderHolds .minor other))
    (release : system'.releaseHolds = system.releaseHolds) : Agrees (asOne system') pool := by
  have represents := @set_status_represents _ picture _ agrees.represents change
  have agrees' : Agrees { asOne system with fbm := setStatus system.first picture change }
      pool := by
    constructor
    · exact represents
    · exact agrees.given
    · exact agrees.decoder
    · exact agrees.render
    · exact agrees.release
    · exact agrees.sharing
  exact as_one_agrees agrees' fbm (fun _ => rfl) render release

theorem not_shared (agrees : Agrees (asOne system) pool) (picture : Nat) :
    wasShared (pool.place picture) = false := by
  cases shared : wasShared (pool.place picture) with
  | false => rfl
  | true =>
    have impossible := agrees.sharing picture shared
    cases impossible

variable {picture : Nat} (agrees : Agrees (asOne system) pool)

include agrees

theorem decoding_of_flag (used : (system.first.flag picture).bUsedByDecoder = true) :
    pool.place picture = .decoding := by
  have apart := not_shared agrees picture
  have held := (agrees.decoder picture).symm.trans used
  cases here : pool.place picture <;> rw [here] at apart held <;>
    simp_all [wasShared, heldByDecoder]

theorem ready_of_queue (queued : (pool.place picture).queue = some .pValidPictureQueue) :
    pool.place picture = .ready := by
  have apart := not_shared agrees picture
  rcases queue_valid_iff.mp queued with here | here
  · rw [here] at apart
    cases apart
  · exact here

theorem displayed_of_render (held : (pool.place picture).heldByRender = true) :
    pool.place picture = .displayed ∨ pool.place picture = .forbidden := by
  have apart := not_shared agrees picture
  cases here : pool.place picture <;> rw [here] at apart held <;>
    simp_all [wasShared, heldByRender]

end Views

section Hands

variable (holds : Stream → Nat → Bool) (stream : Stream) (picture : Nat) (held : Bool)

@[simp] theorem hold_self : hold holds stream picture held stream picture = held := by
  simp [hold]

theorem hold_other_picture {other : Nat} (different : other ≠ picture) (reader : Stream) :
    hold holds stream picture held reader other = holds reader other := by
  unfold hold
  by_cases here : reader = stream
  · rw [here, update_self, update_of_ne different]
  · rw [update_of_ne here]

theorem hold_other_stream {reader : Stream} (different : reader ≠ stream) (other : Nat) :
    hold holds stream picture held reader other = holds reader other := by
  unfold hold
  rw [update_of_ne different]

theorem hold_at_picture : (fun reader => hold holds stream picture held reader picture) =
    update (fun reader => holds reader picture) stream held := by
  funext reader
  by_cases here : reader = stream
  · rw [here, hold_self, update_self]
  · rw [hold_other_stream _ _ _ _ here, update_of_ne here]

theorem hold_together (other : Nat) :
    (hold holds .major picture held .major other || hold holds .major picture held .minor other) =
      update (fun other => holds .major other || holds .minor other) picture
        (held || holds .minor picture) other := by
  rw [@hold_other_stream holds .major picture held .minor (by decide) other]
  by_cases here : other = picture
  · rw [here, hold_self, update_self]
  · rw [hold_other_picture _ _ _ _ here, update_of_ne here]

end Hands

section Calls

variable {system system' : SharedSystem} {pool : FramePool} {picture : Nat}
  {stream : Stream} {place : FramePlace} {nBufStatus other : Nat}
  {decoder render : Stream → Bool} {pointed : Bool}

theorem uses_kept (uses : UsesAt system other place)
    (same : status system'.first other = status system.first other)
    (decoder : ∀ stream, system'.decoderHolds stream other = system.decoderHolds stream other)
    (render : ∀ stream, system'.renderHolds stream other = system.renderHolds stream other)
    (pointer : system'.shared.pMajorDecoderFrame = system.shared.pMajorDecoderFrame) :
    UsesAt system' other place := by
  unfold UsesAt
  rw [same, funext decoder, funext render, pointer]
  exact uses

theorem uses_move {target : FramePlace} (here : UsesAt system' picture target)
    (others : ∀ other, other ≠ picture → UsesAt system' other (pool.place other))
    (other : Nat) :
    UsesAt system' other ((pool.move picture target).place other) := by
  by_cases same : other = picture
  · rw [same, move_place_self]
    exact here
  · rw [move_place_other pool target same]
    exact others other same

theorem not_held_of_place (uses : Uses nBufStatus decoder render pointed place)
    (here : place ≠ .decoding) : decoder .major = false ∧ decoder .minor = false := by
  constructor
  · cases held : decoder .major with
    | false => rfl
    | true => exact absurd (uses.decoded (Or.inl held)) here
  · cases held : decoder .minor with
    | false => rfl
    | true => exact absurd (uses.decoded (Or.inr held)) here

theorem not_minor_of_place (uses : Uses nBufStatus decoder render pointed place)
    (here : place ≠ .displayed) : render .minor = false := by
  cases held : render .minor with
  | false => rfl
  | true => exact absurd (uses.displayed held) here

/-- Where the major stream asks for the next picture, no picture waits for the minor one. -/
theorem not_awaited (agrees : SharedAgrees system pool)
    (safe : PairSafe system (.requestBuffer .major)) (here : pool.place other = .decoding) :
    inUse (status system.first other) .MINOR_NEED_USE_FLAG = false := by
  have uses := agrees.uses other
  cases needed : inUse (status system.first other) .MINOR_NEED_USE_FLAG with
  | false => rfl
  | true =>
    have pointed := of_decide_eq_true (uses.pointed here needed)
    have awaited := safe other pointed
    have used : (system.first.flag other).bUsedByDecoder = true := by
      have flags := agrees.one.decoder other
      rw [here] at flags
      exact flags
    unfold awaitsMinor at awaited
    rw [used, needed, decide_eq_true pointed] at awaited
    cases awaited

theorem major_requests_buffer (agrees : SharedAgrees system pool)
    (safe : PairSafe system (.requestBuffer .major)) :
    ∃ system', exec system (.requestBuffer .major) = some system' ∧
      SharedAgrees system' (pool.moveHead .pEmptyBufferQueue fun _ => .decoding) := by
  obtain ⟨taken, advances⟩ := request_buffer_advances agrees.one.represents
  obtain ⟨one, call, agrees', _⟩ := FbmOwnership.agrees_request_buffer agrees.one
  have same := @request_buffer_contents system.first
  have gpu := advances.gpu.trans agrees.gpu
  unfold FbmOwnership.exec at call
  cases result : fbmRequestBuffer system.first with
  | mk fbm' front =>
    have first : fbmRequestBuffer system.shared.pFbmFirst = (fbm', front) := result
    have viewed : fbmRequestBuffer (asOne system).fbm = (fbm', front) := result
    rw [viewed] at taken call gpu
    rw [result] at same
    have flags : ∀ other, status fbm' other = status system.first other :=
      fun other => status_of_contents same
    cases front with
    | none =>
      have empty : pool.queues .pEmptyBufferQueue = [] := List.head?_eq_none_iff.mp taken.symm
      have stays : (pool.moveHead .pEmptyBufferQueue fun _ => .decoding) = pool := by
        unfold moveHead
        rw [empty]
      rw [stays] at agrees' ⊢
      cases call
      unfold exec sharedRequestBuffer
      rw [first]
      refine ⟨_, rfl, as_one_agrees agrees' rfl (fun _ => rfl) (fun _ => rfl) rfl, gpu, ?_⟩
      intro other
      have uses := agrees.uses other
      unfold UsesAt at uses ⊢
      change Uses (status fbm' other) _ _ (decide (none = some other)) _
      rw [flags other]
      constructor
      · exact uses.majorDecoder
      · exact uses.minorDecoder
      · exact uses.majorDisp
      · exact uses.minorDisp
      · exact uses.decoded
      · exact uses.displayed
      · exact uses.kept
      · intro here needed
        have clear := not_awaited agrees safe here
        exact absurd (needed.symm.trans clear) (by decide)
    | some node =>
      obtain ⟨rest, front⟩ := List.head?_eq_some_iff.mp taken.symm
      have queued := queue_of_head agrees.one.represents.linked.wellFormed front
      have here := queue_empty_iff.mp queued
      have moved : (pool.moveHead .pEmptyBufferQueue fun _ => .decoding) =
          pool.move node .decoding := by
        unfold moveHead
        rw [front]
      rw [moved] at agrees' ⊢
      cases call
      unfold exec sharedRequestBuffer
      rw [first]
      refine ⟨_, rfl, ?_, gpu, ?_⟩
      · have unshared : ∀ picture,
            update (asOne system).decoderShared node false picture = false := by
          intro picture
          by_cases same : picture = node
          · rw [same, update_self]
          · rw [update_of_ne same]
            rfl
        have viewed := @as_one_agrees (withFirst system fbm') _ _ agrees' rfl unshared
          (fun _ => rfl) rfl
        exact as_one_status viewed node (fun nBufStatus =>
          putInUse .MINOR_NEED_USE_FLAG (putInUse .MAJOR_DECODER_USE_FLAG nBufStatus)) rfl
          (fun _ => rfl) rfl
      · apply uses_move
        · have uses := agrees.uses node
          rw [here] at uses
          have free := not_held_of_place uses (by decide)
          have unseen := not_minor_of_place uses (by decide)
          have minor := uses.minorDecoder
          have majorDisp := uses.majorDisp
          have minorDisp := uses.minorDisp
          unfold UsesAt
          rw [status_set_self, flags node]
          constructor
          · simp
          · simp [minor, hold_other_stream]
          · simp [majorDisp]
          · simp [minorDisp]
          · simp
          · simp [unseen]
          · simp
          · simp
        · intro other different
          have uses := agrees.uses other
          unfold UsesAt at uses ⊢
          rw [status_set_other _ different, flags other]
          dsimp only
          simp only [hold_other_picture _ _ _ _ different]
          constructor
          · exact uses.majorDecoder
          · exact uses.minorDecoder
          · exact uses.majorDisp
          · exact uses.minorDisp
          · exact uses.decoded
          · exact uses.displayed
          · exact uses.kept
          · intro decoding needed
            have clear := not_awaited agrees safe decoding
            exact absurd (needed.symm.trans clear) (by decide)

theorem status_step (agrees : SharedAgrees system pool) (change : Nat → Nat)
    (fbm : system'.first = setStatus system.first picture change)
    (pointer : system'.shared.pMajorDecoderFrame = system.shared.pMajorDecoderFrame)
    (decoder : ∀ other, other ≠ picture → ∀ stream,
      system'.decoderHolds stream other = system.decoderHolds stream other)
    (render : ∀ other, other ≠ picture → ∀ stream,
      system'.renderHolds stream other = system.renderHolds stream other)
    (together : (system'.renderHolds .major picture || system'.renderHolds .minor picture) =
      (system.renderHolds .major picture || system.renderHolds .minor picture))
    (release : system'.releaseHolds = system.releaseHolds)
    (here : UsesAt system' picture (pool.place picture)) : SharedAgrees system' pool := by
  constructor
  · apply as_one_status agrees.one picture change fbm _ release
    intro other
    by_cases same : other = picture
    · rw [same]
      exact together
    · rw [render other same, render other same]
  · rw [fbm]
    exact agrees.gpu
  · intro other
    by_cases same : other = picture
    · rw [same]
      exact here
    · apply uses_kept (agrees.uses other) _ (decoder other same) (render other same) pointer
      rw [fbm]
      exact status_set_other change same

theorem minor_requests_buffer (agrees : SharedAgrees system pool)
    (safe : PairSafe system (.requestBuffer .minor)) :
    ∃ system', exec system (.requestBuffer .minor) = some system' ∧ SharedAgrees system' pool := by
  unfold exec sharedRequestBuffer
  cases pointer : system.shared.pMajorDecoderFrame with
  | none => exact ⟨system, rfl, agrees⟩
  | some node =>
    have here := decoding_of_flag agrees.one (safe node pointer)
    refine ⟨_, rfl, ?_⟩
    apply @status_step _ _ _ node agrees (fun nBufStatus =>
      takeOutOfUse .MINOR_NEED_USE_FLAG (putInUse .MINOR_DECODER_USE_FLAG nBufStatus))
    · rfl
    · exact pointer.symm
    · intro other different stream
      exact hold_other_picture _ _ _ _ different stream
    · intro other _ stream
      rfl
    · rfl
    · rfl
    · have uses := agrees.uses node
      rw [here] at uses ⊢
      have majorDecoder := uses.majorDecoder
      have majorDisp := uses.majorDisp
      have minorDisp := uses.minorDisp
      have unseen := not_minor_of_place uses (by decide)
      unfold UsesAt
      rw [status_set_self]
      constructor
      · simp [majorDecoder, hold_other_stream]
      · simp
      · simp [majorDisp]
      · simp [minorDisp]
      · simp
      · simp [unseen]
      · simp
      · simp

@[simp] def decoderFlag : Stream → UseFlag
  | .major => .MAJOR_DECODER_USE_FLAG
  | .minor => .MINOR_DECODER_USE_FLAG

theorem uses_given_up {flag : UseFlag} (uses : Uses nBufStatus decoder render pointed .decoding)
    (own : flag = decoderFlag stream) (other : (∃ reader, reader ≠ stream ∧ decoder reader = true) ∨
      inUse nBufStatus .MINOR_NEED_USE_FLAG = true) :
    Uses (takeOutOfUse flag nBufStatus) (update decoder stream false) render pointed
      .decoding := by
  have pointed := uses.pointed rfl
  have majorDisp := uses.majorDisp
  have minorDisp := uses.minorDisp
  have majorDecoder := uses.majorDecoder
  have minorDecoder := uses.minorDecoder
  have displayed := uses.displayed
  subst own
  cases stream with
  | major =>
    constructor
    · simp
    · simp [minorDecoder]
    · simp [majorDisp]
    · simp [minorDisp]
    · simp
    · exact displayed
    · intro _
      rcases other with ⟨reader, different, held⟩ | needed
      · cases reader with
        | major => exact absurd rfl different
        | minor => simp [held]
      · simp [needed]
    · simpa using pointed
  | minor =>
    constructor
    · simp [majorDecoder]
    · simp
    · simp [majorDisp]
    · simp [minorDisp]
    · simp
    · exact displayed
    · intro _
      rcases other with ⟨reader, different, held⟩ | needed
      · cases reader with
        | major => simp [held]
        | minor => exact absurd rfl different
      · simp [needed]
    · simpa using pointed

theorem uses_gone (uses : Uses nBufStatus decoder render pointed .decoding)
    (last : ∀ reader, reader ≠ stream → decoder reader = false)
    (left : place ≠ .decoding ∧ place ≠ .displayed) :
    Uses (takeOutOfUse (decoderFlag stream) nBufStatus)
      (update decoder stream false) render pointed place := by
  have majorDisp := uses.majorDisp
  have minorDisp := uses.minorDisp
  have majorDecoder := uses.majorDecoder
  have minorDecoder := uses.minorDecoder
  have unseen := not_minor_of_place uses (by decide)
  cases stream with
  | major =>
    have minor := last .minor (by decide)
    constructor
    · simp
    · simp [minorDecoder]
    · simp [majorDisp, left.2]
    · simp [minorDisp]
    · simp [minor]
    · simp [unseen]
    all_goals exact fun here => absurd here left.1
  | minor =>
    have major := last .major (by decide)
    constructor
    · simp [majorDecoder]
    · simp
    · simp [majorDisp, left.2]
    · simp [minorDisp]
    · simp [major]
    · simp [unseen]
    all_goals exact fun here => absurd here left.1

variable (agrees : SharedAgrees system pool)

include agrees

theorem decoding_of_holder
    (held : system.decoderHolds stream picture = true) : pool.place picture = .decoding := by
  apply (agrees.uses picture).decoded
  cases stream with
  | major => exact Or.inl held
  | minor => exact Or.inr held

theorem return_waits (held : system.decoderHolds stream picture = true)
    (other : (∃ reader, reader ≠ stream ∧ system.decoderHolds reader picture = true) ∨
      inUse (status system.first picture) .MINOR_NEED_USE_FLAG = true) :
    SharedAgrees
      { withFirst system (setStatus system.first picture (takeOutOfUse (decoderFlag stream))) with
        decoderHolds := hold system.decoderHolds stream picture false } pool := by
  have here := decoding_of_holder agrees held
  apply @status_step _ _ _ picture agrees (takeOutOfUse (decoderFlag stream))
  · rfl
  · rfl
  · intro other different reader
    exact hold_other_picture _ _ _ _ different reader
  · intro other _ reader
    rfl
  · rfl
  · rfl
  · have uses := agrees.uses picture
    rw [here] at uses ⊢
    unfold UsesAt
    dsimp only
    rw [hold_at_picture, SharedSystem.first, withFirst, status_set_self]
    exact uses_given_up uses rfl other

theorem return_goes_on (held : system.decoderHolds stream picture = true)
    (last : ∀ reader, reader ≠ stream → system.decoderHolds reader picture = false)
    (bValidPicture : Bool) :
    ∃ fbm', fbmReturnBuffer (setStatus system.first picture (takeOutOfUse (decoderFlag stream)))
        picture bValidPicture = some fbm' ∧
      fbm'.nValidBufNum = system.first.nValidBufNum ∧
      ∃ pool', SharedAgrees
        { withFirst system fbm' with
          decoderHolds := hold system.decoderHolds stream picture false } pool' := by
  have here := decoding_of_holder agrees held
  have given : Agrees (asOne (withFirst system
      (setStatus system.first picture (takeOutOfUse (decoderFlag stream))))) pool :=
    as_one_status agrees.one picture (takeOutOfUse (decoderFlag stream)) rfl (fun _ => rfl) rfl
  have flags := given.represents.flags picture
  rw [here] at flags
  have legal : FbmOwnership.Legal (asOne (withFirst system
      (setStatus system.first picture (takeOutOfUse (decoderFlag stream)))))
      (.returnBuffer picture bValidPicture) := congrArg FrameNodeFlag.bUsedByDecoder flags
  have safe : FbmOwnership.ReleaseSafe (asOne (withFirst system
      (setStatus system.first picture (takeOutOfUse (decoderFlag stream)))))
      (.returnBuffer picture bValidPicture) := by
    unfold FbmOwnership.ReleaseSafe
    dsimp only
    rw [flags]
    simp [flag, usedByRender]
  obtain ⟨one, call, agrees', advances⟩ := FbmOwnership.agrees_return_buffer given legal safe
  obtain ⟨fbm', called, rfl⟩ := map_eq_some_iff.mp call
  have same := return_buffer_contents called
  refine ⟨fbm', called, advances.buffers, _,
    as_one_agrees agrees' rfl (fun _ => rfl) (fun _ => rfl) rfl, advances.gpu.trans agrees.gpu, ?_⟩
  apply uses_move
  · have uses := agrees.uses picture
    rw [here] at uses ⊢
    have target : ∀ bNeedRelease, returnedByDecoder bNeedRelease bValidPicture
          .decoding ≠ .decoding ∧
        returnedByDecoder bNeedRelease bValidPicture .decoding ≠ .displayed := by
      intro bNeedRelease
      cases bNeedRelease <;> cases bValidPicture <;> decide
    unfold UsesAt
    dsimp only
    rw [hold_at_picture]
    have left : status fbm' picture =
        takeOutOfUse (decoderFlag stream) (status system.first picture) :=
      (status_of_contents same).trans (status_set_self _)
    rw [SharedSystem.first, withFirst, left]
    exact uses_gone uses last (target _)
  · intro other different
    apply uses_kept (agrees.uses other)
    · exact (status_of_contents same).trans (status_set_other _ different)
    · exact hold_other_picture _ _ _ _ different
    · intro reader
      rfl
    · rfl

theorem returns_buffer
    {bValidPicture : Bool} (legal : Legal system (.returnBuffer stream picture bValidPicture)) :
    ∃ system', exec system (.returnBuffer stream picture bValidPicture) = some system' ∧
      system'.first.nValidBufNum = system.first.nValidBufNum ∧
      ∃ pool', SharedAgrees system' pool' := by
  have held : system.decoderHolds stream picture = true := legal
  have uses := agrees.uses picture
  have majorDecoder := uses.majorDecoder
  have minorDecoder := uses.minorDecoder
  unfold exec sharedReturnBuffer
  cases stream with
  | major =>
    dsimp only
    rw [status_set_self, in_use_take, in_use_take]
    split_ifs with minor needed
    · rw [minorDecoder] at minor
      have other : system.decoderHolds .minor picture = true := by simpa using minor
      exact ⟨_, rfl, rfl, pool, return_waits agrees held (Or.inl ⟨.minor, by decide, other⟩)⟩
    · have waits : inUse (status system.first picture) .MINOR_NEED_USE_FLAG = true := by
        simp only [Bool.and_eq_true] at needed
        exact needed.2.1
      exact ⟨_, rfl, rfl, pool, return_waits agrees held (Or.inr waits)⟩
    · have last : ∀ reader, reader ≠ Stream.major → system.decoderHolds reader picture = false := by
        intro reader different
        cases reader with
        | major => exact absurd rfl different
        | minor => simpa [minorDecoder] using minor
      obtain ⟨fbm', called, buffers, pool', agrees'⟩ :=
        return_goes_on agrees held last bValidPicture
      exact ⟨_, by rw [← decoderFlag, called]; rfl, buffers, pool', agrees'⟩
  | minor =>
    dsimp only
    rw [status_set_self, in_use_take]
    split_ifs with major
    · rw [majorDecoder] at major
      have other : system.decoderHolds .major picture = true := by simpa using major
      exact ⟨_, rfl, rfl, pool, return_waits agrees held (Or.inl ⟨.major, by decide, other⟩)⟩
    · have last : ∀ reader, reader ≠ Stream.minor → system.decoderHolds reader picture = false := by
        intro reader different
        cases reader with
        | major => simpa [majorDecoder] using major
        | minor => exact absurd rfl different
      obtain ⟨fbm', called, buffers, pool', agrees'⟩ :=
        return_goes_on agrees held last bValidPicture
      exact ⟨_, by rw [← decoderFlag, called]; rfl, buffers, pool', agrees'⟩

omit agrees

theorem request_picture_status {fbm fbm' : Fbm} {result : Option Nat}
    (call : fbmRequestPicture fbm = (fbm', result)) (other : Nat) :
    status fbm' other =
      if result = some other then putInUse .MAJOR_DISP_USE_FLAG (status fbm other)
      else status fbm other := by
  have taken := @dequeue_contents fbm .pValidPictureQueue
  unfold fbmRequestPicture at call
  generalize fbmDequeue fbm .pValidPictureQueue = dequeued at taken call
  obtain ⟨after, front⟩ := dequeued
  have flags : status after other = status fbm other := status_of_contents taken
  cases front with
  | none =>
    cases call
    simpa using flags
  | some node =>
    dsimp only at call
    split_ifs at call
    · cases call
      simpa using flags
    · cases call
      rw [← flags]
      by_cases here : other = node
      · subst here
        simp [status, Fbm.setPicture, Fbm.setFlag, putInUse, MAJOR_DISP_USE_FLAG, UseFlag.value]
      · have different : node ≠ other := Ne.symm here
        simp [status, Fbm.setPicture, Fbm.setFlag, here, different]

theorem major_requests_picture (agrees : SharedAgrees system pool) :
    ∃ system', exec system (.requestPicture .major) = some system' ∧
      ∃ pool', SharedAgrees system' pool' := by
  obtain ⟨taken, advances⟩ := request_picture_advances agrees.one.represents
  obtain ⟨one, call, agrees', _⟩ := FbmOwnership.agrees_request_picture agrees.one
  have gpu := advances.gpu.trans agrees.gpu
  unfold FbmOwnership.exec at call
  unfold exec sharedRequestPicture
  cases result : fbmRequestPicture system.first with
  | mk fbm' front =>
    have viewed : fbmRequestPicture (asOne system).fbm = (fbm', front) := result
    rw [viewed] at taken call gpu
    have flags := request_picture_status result
    dsimp only
    cases front with
    | none =>
      have empty : pool.queues .pValidPictureQueue = [] := List.head?_eq_none_iff.mp taken.symm
      have stays : (pool.moveHead .pValidPictureQueue takenForDisplay) = pool := by
        unfold moveHead
        rw [empty]
      rw [stays] at agrees'
      cases call
      refine ⟨_, rfl, pool, as_one_agrees agrees' rfl (fun _ => rfl) (fun _ => rfl) rfl, gpu, ?_⟩
      intro other
      have same : status fbm' other = status system.first other := by simpa using flags other
      apply uses_kept (agrees.uses other) same
      · intro stream
        rfl
      · intro stream
        rfl
      · rfl
    | some node =>
      obtain ⟨rest, front⟩ := List.head?_eq_some_iff.mp taken.symm
      have queued := queue_of_head agrees.one.represents.linked.wellFormed front
      have here := ready_of_queue agrees.one queued
      have moved : (pool.moveHead .pValidPictureQueue takenForDisplay) =
          pool.move node .displayed := by
        unfold moveHead
        rw [front]
        dsimp only
        rw [here]
        rfl
      rw [moved] at agrees'
      cases call
      have uses := agrees.uses node
      rw [here] at uses
      have free := not_held_of_place uses (by decide)
      have unseen := not_minor_of_place uses (by decide)
      have majorDecoder := uses.majorDecoder
      have minorDecoder := uses.minorDecoder
      have minorDisp := uses.minorDisp
      have shown := flags node
      rw [if_pos rfl] at shown
      refine ⟨_, rfl, _, as_one_agrees agrees' rfl (fun _ => rfl) ?_ rfl, gpu, ?_⟩
      · intro other
        rw [hold_together]
        rfl
      · apply uses_move
        · unfold UsesAt
          rw [SharedSystem.first, shown]
          dsimp only
          rw [hold_at_picture]
          constructor
          · simp [majorDecoder]
          · simp [minorDecoder]
          · simp
          · simp [minorDisp]
          · simp [free]
          · simp
          · simp
          · simp
        · intro other different
          have same : status fbm' other = status system.first other := by
            rw [flags other, if_neg]
            intro equal
            exact different (Option.some.inj equal).symm
          apply uses_kept (agrees.uses other) same
          · intro stream
            rfl
          · exact hold_other_picture _ _ _ _ different
          · rfl

theorem minor_requests_picture (agrees : SharedAgrees system pool)
    (safe : PairSafe system (.requestPicture .minor)) :
    ∃ system', exec system (.requestPicture .minor) = some system' ∧ SharedAgrees system' pool := by
  obtain ⟨node, pointer, shown⟩ := safe
  unfold exec sharedRequestPicture
  dsimp only
  rw [mem_def.mp pointer, map_some, map_some]
  dsimp only
  have uses := agrees.uses node
  have majorDisp := uses.majorDisp.symm.trans shown
  rw [Bool.and_eq_true, decide_eq_true_iff] at majorDisp
  obtain ⟨held, here⟩ := majorDisp
  refine ⟨_, rfl, ?_⟩
  apply @status_step _ _ _ node agrees (putInUse .MINOR_DISP_USE_FLAG)
  · rfl
  · rfl
  · intro other _ stream
    rfl
  · intro other different stream
    exact hold_other_picture _ _ _ _ different stream
  · dsimp only
    rw [hold_self, hold_other_stream _ _ _ _ (by decide), held]
    rfl
  · rfl
  · rw [here] at uses ⊢
    have free := not_held_of_place uses (by decide)
    have majorDecoder := uses.majorDecoder
    have minorDecoder := uses.minorDecoder
    unfold UsesAt
    dsimp only
    rw [hold_at_picture, SharedSystem.first, status_set_self]
    constructor
    · simp [majorDecoder]
    · simp [minorDecoder]
    · simp [held, shown]
    · simp
    · simp [free]
    · simp
    · simp
    · simp

@[simp] def dispFlag : Stream → UseFlag
  | .major => .MAJOR_DISP_USE_FLAG
  | .minor => .MINOR_DISP_USE_FLAG

variable (agrees : SharedAgrees system pool)

include agrees

theorem display_waits (here : pool.place picture = .displayed)
    (other : ∃ reader, reader ≠ stream ∧ system.renderHolds reader picture = true) :
    system.renderHolds stream picture = true → SharedAgrees
      { withFirst system (setStatus system.first picture (takeOutOfUse (dispFlag stream))) with
        renderHolds := hold system.renderHolds stream picture false } pool := by
  intro held
  obtain ⟨reader, different, kept⟩ := other
  apply @status_step _ _ _ picture agrees (takeOutOfUse (dispFlag stream))
  · rfl
  · rfl
  · intro other _ reader
    rfl
  · intro other distinct reader
    exact hold_other_picture _ _ _ _ distinct reader
  · dsimp only
    cases stream <;> cases reader <;> simp_all [hold_other_stream]
  · rfl
  · have uses := agrees.uses picture
    rw [here] at uses ⊢
    have free := not_held_of_place uses (by decide)
    have majorDecoder := uses.majorDecoder
    have minorDecoder := uses.minorDecoder
    have majorDisp := uses.majorDisp
    have minorDisp := uses.minorDisp
    unfold UsesAt
    dsimp only
    rw [hold_at_picture, SharedSystem.first, withFirst, status_set_self]
    constructor
    · cases stream <;> simp [majorDecoder]
    · cases stream <;> simp [minorDecoder]
    · cases stream <;> simp [majorDisp]
    · cases stream <;> simp [minorDisp]
    · simp [free]
    · simp
    · simp
    · simp

theorem display_goes_on (held : system.renderHolds .major picture = true)
    (last : system.renderHolds .minor picture = false) :
    ∃ fbm' result, fbmReturnPicture
        (setStatus system.first picture (takeOutOfUse .MAJOR_DISP_USE_FLAG)) picture =
          some (fbm', result) ∧
      fbm'.nValidBufNum = system.first.nValidBufNum ∧
      (pool.place picture = .displayed → result = 0) ∧
      ∃ pool', SharedAgrees
        { withFirst system fbm' with
          renderHolds :=
            if result = 0 then hold system.renderHolds .major picture false
            else system.renderHolds } pool' := by
  have given : Agrees (asOne (withFirst system
      (setStatus system.first picture (takeOutOfUse .MAJOR_DISP_USE_FLAG)))) pool :=
    as_one_status agrees.one picture (takeOutOfUse .MAJOR_DISP_USE_FLAG) rfl (fun _ => rfl) rfl
  have legal : FbmOwnership.Legal (asOne (withFirst system
      (setStatus system.first picture (takeOutOfUse .MAJOR_DISP_USE_FLAG))))
      (.returnPicture picture) := by
    change (system.renderHolds .major picture || system.renderHolds .minor picture) = true
    rw [held]
    rfl
  have rendered := (agrees.one.render picture).symm.trans legal
  have here := displayed_of_render agrees.one rendered
  obtain ⟨one, call, agrees', advances⟩ := FbmOwnership.agrees_return_picture given legal
  obtain ⟨⟨fbm', result⟩, called, rfl⟩ := map_eq_some_iff.mp call
  have same := return_picture_contents called
  refine ⟨fbm', result, called, advances.buffers, ?_, _, as_one_agrees agrees' rfl (fun _ => rfl) ?_ rfl,
    advances.gpu.trans agrees.gpu, ?_⟩
  · intro shown
    have after := agrees'.render picture
    unfold poolAfter at after
    dsimp only at after
    rw [move_place_self, shown] at after
    by_contra refused
    rw [if_neg refused] at after
    have kept := legal.symm.trans after
    unfold returnedByRender at kept
    dsimp only at kept
    split_ifs at kept <;> cases kept
  · intro other
    dsimp only
    split_ifs
    · rw [hold_together, last]
      rfl
    · rfl
  · apply uses_move
    · have uses := agrees.uses picture
      have outside : pool.place picture ≠ .decoding := by
        rcases here with here | here <;> rw [here] <;> decide
      have free := not_held_of_place uses outside
      have target : ∀ nMaxFrameNum bNeedRelease,
          returnedByRender nMaxFrameNum picture bNeedRelease (pool.place picture) ≠ .decoding ∧
          returnedByRender nMaxFrameNum picture bNeedRelease (pool.place picture) ≠
            .displayed := by
        intro nMaxFrameNum bNeedRelease
        rcases here with here | here <;> rw [here] <;> unfold returnedByRender <;>
          dsimp only <;> split_ifs <;> decide
      have left : status fbm' picture =
          takeOutOfUse .MAJOR_DISP_USE_FLAG (status system.first picture) :=
        (status_of_contents same).trans (status_set_self _)
      have unseen : (if result = 0 then hold system.renderHolds .major picture false
          else system.renderHolds) .minor picture = false := by
        split_ifs
        · rw [hold_other_stream _ _ _ _ (by decide), last]
        · exact last
      have majorDecoder := uses.majorDecoder
      have minorDecoder := uses.minorDecoder
      have minorDisp := uses.minorDisp
      unfold UsesAt
      dsimp only
      rw [SharedSystem.first, withFirst, left]
      constructor
      · simp [majorDecoder]
      · simp [minorDecoder]
      · rw [decide_eq_false (target _ _).2]
        simp
      · simp [minorDisp, unseen, last]
      · simp [free]
      · simp [unseen]
      all_goals exact fun decoding => absurd decoding (target _ _).1
    · intro other different
      apply uses_kept (agrees.uses other)
      · exact (status_of_contents same).trans (status_set_other _ different)
      · intro stream
        rfl
      · intro stream
        dsimp only
        split_ifs
        · exact hold_other_picture _ _ _ _ different stream
        · rfl
      · rfl

theorem returns_picture (legal : Legal system (.returnPicture stream picture))
    (safe : PairSafe system (.returnPicture stream picture)) :
    ∃ system', exec system (.returnPicture stream picture) = some system' ∧
      system'.first.nValidBufNum = system.first.nValidBufNum ∧
      (pool.place picture = .displayed → system'.renderHolds stream picture = false) ∧
      ∃ pool', SharedAgrees system' pool' := by
  have held : system.renderHolds stream picture = true := legal
  have uses := agrees.uses picture
  have majorDisp := uses.majorDisp
  have minorDisp := uses.minorDisp
  unfold exec sharedReturnPicture
  cases stream with
  | major =>
    dsimp only
    rw [status_set_self, in_use_take, minorDisp]
    split_ifs with minor
    · have other : system.renderHolds .minor picture = true := by simpa using minor
      have here := uses.displayed other
      refine ⟨_, rfl, rfl, ?_, pool, display_waits agrees here ⟨.minor, by decide, other⟩ held⟩
      intro _
      dsimp only
      rw [if_pos rfl, hold_self]
    · have last : system.renderHolds .minor picture = false := by simpa using minor
      obtain ⟨fbm', result, called, buffers, accepted, pool', agrees'⟩ :=
        display_goes_on agrees held last
      refine ⟨_, ?_, buffers, ?_, pool', agrees'⟩
      · rw [called]
        rfl
      · intro shown
        dsimp only
        rw [if_pos (accepted shown), hold_self]
  | minor =>
    have here := uses.displayed held
    have major : inUse (status system.first picture) .MAJOR_DISP_USE_FLAG = true := safe
    dsimp only
    rw [status_set_self, in_use_take, major, if_pos (by decide)]
    rw [majorDisp, Bool.and_eq_true] at major
    refine ⟨_, rfl, rfl, ?_, pool, display_waits agrees here ⟨.major, by decide, major.1⟩ held⟩
    intro _
    dsimp only
    rw [if_pos rfl, hold_self]

end Calls

def Outside (place : FramePlace) : Prop := place ≠ .decoding ∧ place ≠ .displayed
deriving Decidable

/-- Out there the flags of both decoders and both renderers are clear, and clearing
them all changes nothing. -/
theorem uses_apart {nBufStatus nBufStatus' : Nat} {decoder render render' : Stream → Bool}
    {pointed pointed' : Bool} {place place' : FramePlace}
    (uses : Uses nBufStatus decoder render pointed place) (before : Outside place)
    (after : Outside place') (same : nBufStatus' = nBufStatus ∨ nBufStatus' = 0)
    (minor : render' .minor = render .minor) :
    Uses nBufStatus' decoder render' pointed' place' := by
  have free := not_held_of_place uses before.1
  have unseen := not_minor_of_place uses before.2
  have clear : ∀ flag, flag ≠ UseFlag.MINOR_NEED_USE_FLAG → inUse nBufStatus' flag = false := by
    intro flag different
    rcases same with same | same
    · rw [same]
      cases flag with
      | MAJOR_DECODER_USE_FLAG => exact uses.majorDecoder.trans free.1
      | MINOR_DECODER_USE_FLAG => exact uses.minorDecoder.trans free.2
      | MAJOR_DISP_USE_FLAG =>
        rw [uses.majorDisp, decide_eq_false before.2, Bool.and_false]
      | MINOR_DISP_USE_FLAG => exact uses.minorDisp.trans unseen
      | MINOR_NEED_USE_FLAG => exact absurd rfl different
    · rw [same]
      exact in_use_zero flag
  constructor
  · rw [clear _ (by decide), free.1]
  · rw [clear _ (by decide), free.2]
  · rw [clear _ (by decide), decide_eq_false after.2, Bool.and_false]
  · rw [clear _ (by decide), minor, unseen]
  · simp [free]
  · simp [minor, unseen]
  all_goals exact fun decoding => absurd decoding after.1

variable {system system' : SharedSystem} {pool : FramePool}
  {fbm' fbm : Fbm} {nBufId node : Nat} {bForbidUseFlag : Bool}

/-- A call on the first manager that moves frames between places out there and
clears flags on the way. -/
theorem shared_agrees_of_moves {pool' : FramePool} (agrees : SharedAgrees system pool)
    (one : Agrees (asOne (withFirst system fbm')) pool')
    (gpu : fbm'.bUseGpuBuf = system.first.bUseGpuBuf)
    (moves : ∀ node, status fbm' node = status system.first node ∧
        pool'.place node = pool.place node ∨
      Outside (pool.place node) ∧ Outside (pool'.place node) ∧
        (status fbm' node = status system.first node ∨ status fbm' node = 0)) :
    SharedAgrees (withFirst system fbm') pool' := by
  constructor
  · exact one
  · exact gpu.trans agrees.gpu
  · intro node
    rcases moves node with ⟨same, kept⟩ | ⟨before, after, same⟩
    · rw [kept]
      apply uses_kept (agrees.uses node) same
      · exact fun _ => rfl
      · exact fun _ => rfl
      · rfl
    · exact uses_apart (agrees.uses node) before after same rfl

theorem flush_moves (represents : Represents fbm pool)
    (apart : ∀ node, wasShared (pool.place node) = false) (call : fbmFlush fbm = some fbm')
    (node : Nat) :
    status fbm' node = status fbm node ∧ pool.flush.place node = pool.place node ∨
      Outside (pool.place node) ∧ Outside (pool.flush.place node) ∧ status fbm' node = 0 := by
  have wellFormed := represents.linked.wellFormed
  have cleared := @flush_loop_status _ _ _ _ _ node represents rfl call
  have queued := wellFormed.queued .pValidPictureQueue node
  rw [queue_valid_iff] at queued
  rw [flush_place wellFormed]
  have unshared := apart node
  by_cases waits : node ∈ pool.queues .pValidPictureQueue
  · right
    rw [if_pos waits] at cleared
    rcases queued.mp waits with here | here
    · rw [here] at unshared
      cases unshared
    · rw [here]
      exact ⟨by decide, by decide, cleared⟩
  · left
    rw [if_neg waits] at cleared
    refine ⟨cleared, ?_⟩
    have elsewhere := mt queued.mpr waits
    cases here : pool.place node <;> simp_all [flushed]

variable (agrees : SharedAgrees system pool)

include agrees

theorem flushes :
    ∃ system', exec system .flush = some system' ∧ ∃ pool', SharedAgrees system' pool' := by
  obtain ⟨one, call, agrees', advances⟩ := FbmOwnership.agrees_flush agrees.one
  obtain ⟨fbm', called, rfl⟩ := map_eq_some_iff.mp call
  have first : fbmFlush system.first = some fbm' := called
  refine ⟨withFirst system fbm', by simp [exec, first], _,
    shared_agrees_of_moves agrees (as_one_agrees agrees' rfl (fun _ => rfl) (fun _ => rfl) rfl)
      advances.gpu ?_⟩
  intro node
  rcases flush_moves agrees.one.represents (not_shared agrees.one) called node
    with kept | ⟨before, after, cleared⟩
  · exact Or.inl kept
  · exact Or.inr ⟨before, after, Or.inr cleared⟩

theorem sets_new_disp_release : ∃ system', exec system .setNewDispRelease = some system' ∧
      ∃ pool', SharedAgrees system' pool' := by
  obtain ⟨one, call, agrees', advances⟩ := FbmOwnership.agrees_set_new_disp_release agrees.one
  obtain ⟨fbm', called, rfl⟩ := map_eq_some_iff.mp call
  have first : fbmSetNewDispRelease system.first = some fbm' := called
  refine ⟨withFirst system fbm', by simp [exec, first], _,
    shared_agrees_of_moves agrees (as_one_agrees agrees' rfl (fun _ => rfl) (fun _ => rfl) rfl)
      advances.gpu ?_⟩
  intro node
  unfold fbmSetNewDispRelease at first
  obtain ⟨between, flushed, drained⟩ := bind_eq_some_iff.mp first
  have represents := (mark_represents agrees.one.represents).1
  have unmarked : status (fbmMarkNeedRelease system.first) node = status system.first node := by
    unfold status fbmMarkNeedRelease
    dsimp only
    split_ifs <;> rfl
  have later : status fbm' node = status between node :=
    status_of_contents (drain_loop_contents drained)
  have wellFormed : pool.flush.WellFormed := move_all_well_formed represents.linked.wellFormed _ _
  have moves := flush_moves represents (not_shared agrees.one) flushed node
  change status between node = status (fbmMarkNeedRelease system.first) node ∧ _ ∨ _ at moves
  rw [unmarked] at moves
  rw [drain_empty_place wellFormed, later]
  rcases moves with ⟨same, kept⟩ | ⟨before, after, cleared⟩
  · rw [kept]
    by_cases idle : pool.place node = .empty
    · rw [idle]
      exact Or.inr ⟨by decide, by decide, Or.inl same⟩
    · refine Or.inl ⟨same, ?_⟩
      cases here : pool.place node <;> simp_all [FramePool.drained]
  · refine Or.inr ⟨before, ?_, Or.inr cleared⟩
    cases here : pool.flush.place node <;> rw [here] at after <;> revert after <;> decide

theorem shared_agrees_of_move {target : FramePlace}
    (one : Agrees (asOne system') (pool.move node target))
    (gpu : system'.first.bUseGpuBuf = system.first.bUseGpuBuf)
    (same : ∀ other, status system'.first other = status system.first other)
    (decoder : system'.decoderHolds = system.decoderHolds)
    (render : ∀ stream other, other ≠ node ∨ stream = .minor →
      system'.renderHolds stream other = system.renderHolds stream other)
    (pointer : system'.shared.pMajorDecoderFrame = system.shared.pMajorDecoderFrame)
    (before : Outside (pool.place node)) (after : Outside target) :
    SharedAgrees system' (pool.move node target) := by
  constructor
  · exact one
  · exact gpu.trans agrees.gpu
  · apply uses_move
    · have moved := @uses_apart _ _ _ _ (fun stream => system'.renderHolds stream node) _
        (decide (system'.shared.pMajorDecoderFrame = some node)) _ target (agrees.uses node)
        before after (Or.inl (same node)) (render .minor node (Or.inr rfl))
      unfold UsesAt
      rw [decoder]
      exact moved
    · intro other different
      apply uses_kept (agrees.uses other) (same other)
      · intro stream
        rw [decoder]
      · exact fun stream => render stream other (Or.inl different)
      · exact pointer

theorem requests_release_picture : ∃ system', exec system .requestReleasePicture = some system' ∧
      ∃ pool', SharedAgrees system' pool' := by
  obtain ⟨taken, advances⟩ := request_release_picture_advances agrees.one.represents
  obtain ⟨one, call, agrees', _⟩ := FbmOwnership.agrees_request_release_picture agrees.one
  have same := @request_release_picture_contents system.first
  have gpu := advances.gpu
  unfold FbmOwnership.exec at call
  unfold exec
  cases result : fbmRequestReleasePicture system.first with
  | mk fbm' front =>
    have viewed : fbmRequestReleasePicture (asOne system).fbm = (fbm', front) := result
    rw [viewed] at taken call gpu
    rw [result] at same
    dsimp only
    have flags : ∀ other, status fbm' other = status system.first other :=
      fun other => status_of_contents same
    cases front with
    | none =>
      have empty : pool.queues .pReleaseBufferQueue = [] := List.head?_eq_none_iff.mp taken.symm
      have stays : (pool.moveHead .pReleaseBufferQueue fun _ => .released) = pool := by
        unfold moveHead
        rw [empty]
      rw [stays] at agrees'
      cases call
      exact ⟨_, rfl, pool, shared_agrees_of_moves agrees
        (as_one_agrees agrees' rfl (fun _ => rfl) (fun _ => rfl) rfl) gpu
        fun node => Or.inl ⟨flags node, rfl⟩⟩
    | some node =>
      obtain ⟨rest, front⟩ := List.head?_eq_some_iff.mp taken.symm
      have queued := queue_of_head agrees.one.represents.linked.wellFormed front
      have here := queue_release_iff.mp queued
      have moved : (pool.moveHead .pReleaseBufferQueue fun _ => .released) =
          pool.move node .released := by
        unfold moveHead
        rw [front]
      rw [moved] at agrees'
      cases call
      refine ⟨_, rfl, _, shared_agrees_of_move agrees
        (as_one_agrees agrees' rfl (fun _ => rfl) (fun _ => rfl) rfl) gpu flags rfl
        (fun _ _ _ => rfl) rfl ?_ (by decide)⟩
      rw [here]
      decide

omit agrees

theorem return_release_picture_status {result : Option Nat}
    (call : fbmReturnReleasePicture fbm nBufId bForbidUseFlag = some (fbm', result))
    (other : Nat) : status fbm' other = status fbm other := by
  unfold fbmReturnReleasePicture at call
  cases slot : fbmReleaseSlot fbm with
  | none =>
    rw [slot] at call
    cases call
    rfl
  | some index =>
    rw [slot] at call
    dsimp only at call
    have renewed : status ((fbm.setFlag index fun flag =>
          { flag with bNeedRelease := false }).setPicture index fun picture =>
            { picture with nBufId := nBufId, nID := index }) other = status fbm other := by
      rw [status_set_label, status_set_flag]
      intro _
      rfl
    split_ifs at call
    · obtain ⟨after, entered, returned⟩ := map_eq_some_iff.mp call
      cases returned
      exact (status_of_contents (enqueued_contents entered rfl)).trans renewed
    · cases call
      rw [status_set_label, renewed]
      intro _
      rfl

theorem set_fbm_buf_address_status
    (call : fbmSetFbmBufAddress fbm nBufId bForbidUseFlag = some (fbm', node)) (other : Nat) :
    node = fbm.nValidBufNum ∧ status fbm' other = status fbm other := by
  unfold fbmSetFbmBufAddress at call
  dsimp only at call
  have given : status (fbm.setPicture fbm.nValidBufNum fun picture =>
        { picture with nBufId := nBufId, nID := fbm.nValidBufNum }) other = status fbm other := by
    rw [status_set_label]
    intro _
    rfl
  split_ifs at call
  · obtain ⟨after, entered, returned⟩ := map_eq_some_iff.mp call
    cases returned
    exact ⟨rfl, (status_of_contents (enqueued_contents entered rfl)).trans given⟩
  · cases call
    refine ⟨rfl, Eq.trans ?_ given⟩
    exact @status_set_label _ _ _ (fun picture =>
      { picture with nID := picture.nID + FRM_FORBID_USE_TAG }) fun _ => rfl

variable (agrees : SharedAgrees system pool)

include agrees

theorem returns_release_picture
    (safe : PairSafe system (.returnReleasePicture nBufId bForbidUseFlag)) :
    ∃ system', exec system (.returnReleasePicture nBufId bForbidUseFlag) = some system' ∧
      ∃ pool', SharedAgrees system' pool' := by
  obtain ⟨one, call, agrees', advances⟩ :=
    @FbmOwnership.agrees_return_release_picture _ _ nBufId bForbidUseFlag agrees.one safe
  obtain ⟨⟨fbm', result⟩, called, returned⟩ := map_eq_some_iff.mp call
  have first : fbmReturnReleasePicture system.first nBufId bForbidUseFlag =
    some (fbm', result) := called
  have same := return_release_picture_status first
  have slot := (return_release_picture_labels first).1
  have gpu := advances.gpu
  have viewed : fbmReleaseSlot (asOne system).fbm = result := slot.symm
  unfold poolAfter at agrees'
  dsimp only at agrees'
  rw [viewed] at agrees'
  unfold exec
  dsimp only
  rw [first, map_some]
  cases result with
  | none =>
    cases returned
    exact ⟨_, rfl, pool, shared_agrees_of_moves agrees
      (as_one_agrees agrees' rfl (fun _ => rfl) (fun _ => rfl) rfl) gpu
      fun node => Or.inl ⟨same node, rfl⟩⟩
  | some node =>
    cases returned
    have held : system.releaseHolds node = true := by
      rcases FbmOwnership.release_slot_first viewed with ⟨inside, found, earlier⟩
      exact safe node inside found earlier
    have here : pool.place node = .released := by
      have place := (agrees.one.release node).symm.trans held
      cases here : pool.place node <;> simp_all [heldForRelease]
    have unseen := not_minor_of_place (agrees.uses node) (by rw [here]; decide)
    have apart : Stream.minor ≠ .major := by decide
    refine ⟨_, rfl, _, shared_agrees_of_move agrees
      (as_one_agrees agrees' rfl (fun _ => rfl) ?_ rfl) gpu same rfl ?_ rfl ?_ ?_⟩
    · intro other
      rw [hold_together, unseen, Bool.or_false]
      rfl
    · intro stream other elsewhere
      rcases elsewhere with different | rfl
      · exact hold_other_picture _ _ _ _ different stream
      · exact @hold_other_stream system.renderHolds .major node bForbidUseFlag _ apart other
    · rw [here]
      decide
    · cases bForbidUseFlag <;> decide

theorem sets_fbm_buf_address (legal : Legal system (.setFbmBufAddress nBufId bForbidUseFlag)) :
    ∃ system', exec system (.setFbmBufAddress nBufId bForbidUseFlag) = some system' ∧
      ∃ pool', SharedAgrees system' pool' := by
  have gpuLegal : FbmOwnership.Legal (asOne system)
      (.setFbmBufAddress nBufId bForbidUseFlag) := ⟨agrees.gpu, legal⟩
  obtain ⟨one, call, agrees', advances⟩ :=
    FbmOwnership.agrees_set_fbm_buf_address agrees.one gpuLegal
  obtain ⟨⟨fbm', node⟩, called, returned⟩ := map_eq_some_iff.mp call
  have first : fbmSetFbmBufAddress system.first nBufId bForbidUseFlag = some (fbm', node) := called
  have same := fun other => (set_fbm_buf_address_status first other).2
  have written : node = system.first.nValidBufNum := (set_fbm_buf_address_status first 0).1
  have gpu := advances.gpu
  have here : pool.place node = .absent := by
    by_contra present
    have given := (agrees.one.given node).mp present
    unfold FbmOwnership.FbmSystem.given at given
    have flag : (asOne system).fbm.bUseGpuBuf = true := agrees.gpu
    rw [flag, if_pos rfl, written] at given
    exact Nat.lt_irrefl _ given
  cases returned
  unfold poolAfter at agrees'
  have moved : (asOne system).fbm.nValidBufNum = node := written.symm
  dsimp only at agrees'
  rw [moved] at agrees'
  have unseen := not_minor_of_place (agrees.uses node) (by rw [here]; decide)
  have apart : Stream.minor ≠ .major := by decide
  unfold exec
  dsimp only
  rw [first, map_some]
  refine ⟨_, rfl, _, shared_agrees_of_move agrees
    (as_one_agrees agrees' rfl (fun _ => rfl) ?_ rfl) gpu same rfl ?_ rfl ?_ ?_⟩
  · intro other
    rw [hold_together, unseen, Bool.or_false]
    rfl
  · intro stream other elsewhere
    rcases elsewhere with different | rfl
    · exact hold_other_picture _ _ _ _ different stream
    · exact @hold_other_stream system.renderHolds .major node bForbidUseFlag _ apart other
  · rw [here]
    decide
  · cases bForbidUseFlag <;> decide

theorem shared_advances {op : SharedOp} (legal : Legal system op) (safe : PairSafe system op) :
    ∃ system', exec system op = some system' ∧ ∃ pool', SharedAgrees system' pool' := by
  cases op with
  | requestBuffer stream =>
    cases stream with
    | major =>
      obtain ⟨system', call, agrees'⟩ := major_requests_buffer agrees safe
      exact ⟨system', call, _, agrees'⟩
    | minor =>
      obtain ⟨system', call, agrees'⟩ := minor_requests_buffer agrees safe
      exact ⟨system', call, pool, agrees'⟩
  | returnBuffer stream picture bValidPicture =>
    obtain ⟨system', call, _, agrees'⟩ := returns_buffer agrees legal
    exact ⟨system', call, agrees'⟩
  | requestPicture stream =>
    cases stream with
    | major => exact major_requests_picture agrees
    | minor =>
      obtain ⟨system', call, agrees'⟩ := minor_requests_picture agrees safe
      exact ⟨system', call, pool, agrees'⟩
  | returnPicture stream picture =>
    obtain ⟨system', call, _, _, agrees'⟩ := returns_picture agrees legal safe
    exact ⟨system', call, agrees'⟩
  | flush => exact flushes agrees
  | setNewDispRelease => exact sets_new_disp_release agrees
  | requestReleasePicture => exact requests_release_picture agrees
  | returnReleasePicture nBufId bForbidUseFlag => exact returns_release_picture agrees safe
  | setFbmBufAddress nBufId bForbidUseFlag => exact sets_fbm_buf_address agrees legal

omit agrees

theorem shared_start_agrees (nFrameNum : Nat) :
    ∃ system, SharedSystem.start nFrameNum = some system ∧ ∃ pool, SharedAgrees system pool := by
  obtain ⟨one, started, agrees, _, _⟩ := FbmOwnership.start_agrees nFrameNum true
  unfold FbmOwnership.FbmSystem.start at started
  obtain ⟨fbm, created, rfl⟩ := map_eq_some_iff.mp started
  unfold SharedSystem.start
  rw [created, bind_some, map_some]
  have clear : ∀ node, status fbm node = 0 :=
    fun node => congrArg (fun content => content.2.2) (create_contents created node)
  refine ⟨_, rfl, _, as_one_agrees agrees rfl (fun _ => rfl) (fun _ => rfl) rfl, ?_, ?_⟩
  · unfold fbmCreateBuffer at created
    cases created
    rfl
  · intro node
    have place : (FbmOwnership.startPool nFrameNum true).place node = .absent := by
      rw [FbmOwnership.start_place]
      rfl
    unfold UsesAt
    rw [place, SharedSystem.first, clear node]
    constructor <;> simp

end CedarC.FbmSharedRuns
