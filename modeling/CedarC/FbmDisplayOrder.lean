import CedarC.FbmOwnership

/-!
# Display order of one Fbm without release operations

Every grant of a frame to the decoder gets a number. An observer of the calls
notes the grants in the order in which they were shared or first returned as
valid, those returned as invalid, those given to the renderer, and those that
a flush found queued. What the renderer gets and what waits is then the first
list less the flushed grants.
-/

namespace CedarC.FbmDisplayOrder

open List Function

open GuardedRuns FbmFrameModel FbmFramePool FbmRefinement FbmOperationSteps FbmOwnership

structure DisplayLog where
  grants : Nat
  /-- the number of the frame's last grant -/
  grantOf : Nat → Nat
  entered : List Nat
  dropped : List Nat
  handed : List Nat
  flushed : List Nat

def DisplayLog.start : DisplayLog where
  grants := 0
  grantOf := fun _ => 0
  entered := []
  dropped := []
  handed := []
  flushed := []

def DisplayLog.grant (log : DisplayLog) (node : Nat) : DisplayLog :=
  { log with
    grants := log.grants + 1
    grantOf := Function.update log.grantOf node log.grants }

def DisplayLog.enter (log : DisplayLog) (node : Nat) : DisplayLog :=
  { log with entered := log.entered ++ [log.grantOf node] }

def DisplayLog.drop (log : DisplayLog) (node : Nat) : DisplayLog :=
  { log with dropped := log.dropped ++ [log.grantOf node] }

def DisplayLog.hand (log : DisplayLog) (node : Nat) : DisplayLog :=
  { log with handed := log.handed ++ [log.grantOf node] }

def DisplayLog.flush (log : DisplayLog) (queued : List Nat) : DisplayLog :=
  { log with flushed := log.flushed ++ queued.map log.grantOf }

def observe (system : FbmSystem) (log : DisplayLog) : FbmOp → DisplayLog
  | .requestBuffer =>
    match (fbmRequestBuffer system.fbm).2 with
    | none => log
    | some node => log.grant node
  | .shareBuffer picture => log.enter picture
  | .returnBuffer picture bValidPicture =>
    if system.decoderShared picture then log
    else if bValidPicture then log.enter picture
    else log.drop picture
  | .requestPicture =>
    match (fbmRequestPicture system.fbm).2 with
    | none => log
    | some node => log.hand node
  | .flush => log.flush ((system.queued .pValidPictureQueue).getD [])
  | _ => log

/-- The grants that entered and were not flushed while they waited. -/
def DisplayLog.toDisplay (log : DisplayLog) : List Nat :=
  log.entered.filter fun grant => !decide (grant ∈ log.flushed)

def watchedExec (watched : FbmSystem × DisplayLog) (op : FbmOp) : Option (FbmSystem × DisplayLog) :=
  (exec watched.1 op).map fun system => (system, observe watched.1 watched.2 op)

def NoRelease : FbmOp → Prop
  | .setNewDispRelease | .requestReleasePicture | .returnReleasePicture _ _ => False
  | .requestBuffer | .shareBuffer _ | .returnBuffer _ _ | .requestPicture | .returnPicture _
  | .flush | .setFbmBufAddress _ _ => True

instance : ∀ op, Decidable (NoRelease op)
  | .setNewDispRelease | .requestReleasePicture | .returnReleasePicture _ _ =>
    inferInstanceAs (Decidable False)
  | .requestBuffer | .shareBuffer _ | .returnBuffer _ _ | .requestPicture | .returnPicture _
  | .flush | .setFbmBufAddress _ _ => inferInstanceAs (Decidable True)

def DisplayStep (watched : FbmSystem × DisplayLog) (op : FbmOp) : Prop :=
  Legal watched.1 op ∧ NoRelease op
deriving Decidable

/-- The grants given to the renderer, then those that wait, are the grants
that entered in their order, each once, less the flushed ones; a grant that was
returned as invalid without being shared never entered. -/
structure DisplayedInOrder (system : FbmSystem) (log : DisplayLog) : Prop where
  order : ∃ waiting ∈ system.queued .pValidPictureQueue,
    log.handed ++ waiting.map log.grantOf = log.toDisplay
  once : log.entered.Nodup
  flushedEntered : ∀ grant ∈ log.flushed, grant ∈ log.entered
  droppedOutside : ∀ grant ∈ log.dropped, grant ∉ log.entered

/-- Decoder and renderer returned everything and no picture waits. -/
def Idle (system : FbmSystem) : Prop :=
  (∀ node, system.decoderHolds node = false ∧ system.renderHolds node = false) ∧
    system.queued .pValidPictureQueue = some []

def AllEmpty (system : FbmSystem) : Prop :=
  ∃ empty ∈ system.queued .pEmptyBufferQueue, ∀ node, node ∈ empty ↔ system.given node

section Observer

structure Matches (pool : FramePool) (log : DisplayLog) : Prop where
  order : log.handed ++ (pool.queues .pValidPictureQueue).map log.grantOf = log.toDisplay
  once : log.entered.Nodup
  flushedEntered : ∀ grant ∈ log.flushed, grant ∈ log.entered
  droppedOutside : ∀ grant ∈ log.dropped, grant ∉ log.entered
  old : ∀ grant, grant ∈ log.entered ∨ grant ∈ log.dropped → grant < log.grants
  granted : ∀ node, pool.place node = .decoding →
    log.grantOf node < log.grants ∧ log.grantOf node ∉ log.entered ∧ log.grantOf node ∉ log.dropped
  separate : ∀ left right, pool.place left = .decoding → pool.place right = .decoding →
    log.grantOf left = log.grantOf right → left = right

variable {pool pool' : FramePool} {log : DisplayLog} {node : Nat} (matching : Matches pool log)

include matching

theorem matches_quiet (same : pool'.queues .pValidPictureQueue = pool.queues .pValidPictureQueue)
    (fewer : ∀ node, pool'.place node = .decoding → pool.place node = .decoding) :
    Matches pool' log where
  order := by
    rw [same]
    exact matching.order
  once := matching.once
  flushedEntered := matching.flushedEntered
  droppedOutside := matching.droppedOutside
  old := matching.old
  granted := fun node here => matching.granted node (fewer node here)
  separate := fun left right first second =>
    matching.separate left right (fewer left first) (fewer right second)

theorem matches_grant (wellFormed : pool.WellFormed) (here : pool.place node = .empty) :
    Matches (pool.move node .decoding) (log.grant node) where
  order := by
    have outside : node ∉ pool.queues .pValidPictureQueue :=
      outside_queue wellFormed (by rw [here]; decide)
    rw [FramePool.move_queue_other (by rw [here]; decide) (by decide)]
    have unchanged : (pool.queues .pValidPictureQueue).map (log.grant node).grantOf =
        (pool.queues .pValidPictureQueue).map log.grantOf := by
      apply map_congr_left
      intro other member
      have different : other ≠ node := by
        rintro rfl
        exact outside member
      simp [DisplayLog.grant, different]
    rw [unchanged]
    exact matching.order
  once := matching.once
  flushedEntered := matching.flushedEntered
  droppedOutside := matching.droppedOutside
  old := fun grant known => Nat.lt_succ_of_lt (matching.old grant known)
  granted := by
    intro other decoding
    by_cases same : other = node
    · subst same
      simp only [DisplayLog.grant, update_self]
      refine ⟨Nat.lt_succ_self _, fun known => ?_, fun known => ?_⟩
      · exact Nat.lt_irrefl _ (matching.old _ (.inl known))
      · exact Nat.lt_irrefl _ (matching.old _ (.inr known))
    · rw [FramePool.move_place_other pool _ same] at decoding
      have known := matching.granted other decoding
      simp only [DisplayLog.grant, update_of_ne same]
      exact ⟨Nat.lt_succ_of_lt known.1, known.2⟩
  separate := by
    have newest : ∀ other, other ≠ node → (pool.move node .decoding).place other = .decoding →
        (log.grant node).grantOf other ≠ (log.grant node).grantOf node := by
      intro other different decoding
      rw [FramePool.move_place_other pool _ different] at decoding
      have below := (matching.granted other decoding).1
      simp only [DisplayLog.grant, update_of_ne different, update_self]
      omega
    intro left right first second equal
    by_cases atLeft : left = node
    · by_cases atRight : right = node
      · rw [atLeft, atRight]
      · rw [atLeft] at equal
        exact absurd equal.symm (newest right atRight second)
    · by_cases atRight : right = node
      · rw [atRight] at equal
        exact absurd equal (newest left atLeft first)
      · rw [FramePool.move_place_other pool _ atLeft] at first
        rw [FramePool.move_place_other pool _ atRight] at second
        simp only [DisplayLog.grant, update_of_ne atLeft, update_of_ne atRight] at equal
        exact matching.separate left right first second equal

theorem grant_differs (here : pool.place node = .decoding)
    {other : Nat} (different : other ≠ node) (decoding : pool.place other = .decoding) :
    log.grantOf other ≠ log.grantOf node := fun equal =>
  different (matching.separate other node decoding here equal)

theorem matches_enter (here : pool.place node = .decoding)
    {target : FramePlace} (queued : target.queue = some .pValidPictureQueue) :
    Matches (pool.move node target) (log.enter node) := by
  rcases matching.granted node here with ⟨below, fresh, undropped⟩
  have notDecoding : target ≠ .decoding := by
    rintro rfl
    simp [FramePlace.queue] at queued
  have still : ∀ other, (pool.move node target).place other = .decoding →
      other ≠ node ∧ pool.place other = .decoding := by
    intro other decoding
    have different : other ≠ node := by
      rintro rfl
      rw [FramePool.move_place_self] at decoding
      exact notDecoding decoding
    rw [FramePool.move_place_other pool target different] at decoding
    exact ⟨different, decoding⟩
  constructor
  · have unflushed : log.grantOf node ∉ log.flushed := fun member =>
      fresh (matching.flushedEntered _ member)
    rw [FramePool.move_queue_entered (by rw [here]; decide) queued]
    have before := matching.order
    simp only [DisplayLog.toDisplay] at before
    simp only [DisplayLog.enter, DisplayLog.toDisplay, map_append, filter_append, ← append_assoc]
    rw [before]
    simp [unflushed]
    rfl
  · simp only [DisplayLog.enter]
    exact matching.once.append (nodup_singleton _) (by simpa using fresh)
  · intro grant member
    exact mem_append_left _ (matching.flushedEntered grant member)
  · intro grant member entered
    rcases mem_append.mp entered with entered | entered
    · exact matching.droppedOutside grant member entered
    · rw [mem_singleton.mp entered] at member
      exact undropped member
  · intro grant known
    rcases known with entered | dropped
    · rcases mem_append.mp entered with entered | entered
      · exact matching.old grant (.inl entered)
      · rw [mem_singleton.mp entered]
        exact below
    · exact matching.old grant (.inr dropped)
  · intro other decoding
    rcases still other decoding with ⟨different, decoding⟩
    rcases matching.granted other decoding with ⟨below, fresh, undropped⟩
    refine ⟨below, fun entered => ?_, undropped⟩
    rcases mem_append.mp entered with entered | entered
    · exact fresh entered
    · exact grant_differs matching here different decoding (mem_singleton.mp entered)
  · intro left right first second
    exact matching.separate left right (still left first).2 (still right second).2

theorem matches_drop (here : pool.place node = .decoding) :
    Matches (pool.move node .empty) (log.drop node) := by
  rcases matching.granted node here with ⟨below, fresh, undropped⟩
  have still : ∀ other, (pool.move node .empty).place other = .decoding →
      other ≠ node ∧ pool.place other = .decoding := by
    intro other decoding
    have different : other ≠ node := by
      rintro rfl
      simp at decoding
    rw [FramePool.move_place_other pool _ different] at decoding
    exact ⟨different, decoding⟩
  constructor
  · rw [FramePool.move_queue_other (by rw [here]; decide) (by decide)]
    exact matching.order
  · exact matching.once
  · exact matching.flushedEntered
  · intro grant dropped
    rcases mem_append.mp dropped with dropped | dropped
    · exact matching.droppedOutside grant dropped
    · rw [mem_singleton.mp dropped]
      exact fresh
  · intro grant known
    rcases known with entered | dropped
    · exact matching.old grant (.inl entered)
    · rcases mem_append.mp dropped with dropped | dropped
      · exact matching.old grant (.inr dropped)
      · rw [mem_singleton.mp dropped]
        exact below
  · intro other decoding
    rcases still other decoding with ⟨different, decoding⟩
    rcases matching.granted other decoding with ⟨below, fresh, undropped⟩
    refine ⟨below, fresh, fun dropped => ?_⟩
    rcases mem_append.mp dropped with dropped | dropped
    · exact undropped dropped
    · exact grant_differs matching here different decoding (mem_singleton.mp dropped)
  · intro left right first second
    exact matching.separate left right (still left first).2 (still right second).2

theorem matches_hand {rest : List Nat} (front : pool.queues .pValidPictureQueue = node :: rest)
    (rest_queued : pool'.queues .pValidPictureQueue = rest)
    (fewer : ∀ node, pool'.place node = .decoding → pool.place node = .decoding) :
    Matches pool' (log.hand node) where
  order := by
    have before := matching.order
    rw [front] at before
    rw [rest_queued]
    rw [map_cons] at before
    change log.handed ++ [log.grantOf node] ++ rest.map log.grantOf = log.toDisplay
    rw [append_assoc]
    exact before
  once := matching.once
  flushedEntered := matching.flushedEntered
  droppedOutside := matching.droppedOutside
  old := matching.old
  granted := fun node here => matching.granted node (fewer node here)
  separate := fun left right first second =>
    matching.separate left right (fewer left first) (fewer right second)

theorem matches_flush (drained : pool'.queues .pValidPictureQueue = [])
    (fewer : ∀ node, pool'.place node = .decoding → pool.place node = .decoding) :
    Matches pool' (log.flush (pool.queues .pValidPictureQueue)) := by
  let waiting := (pool.queues .pValidPictureQueue).map log.grantOf
  have order : log.handed ++ waiting =
      log.entered.filter fun grant => !decide (grant ∈ log.flushed) := matching.order
  have distinct : (log.handed ++ waiting).Nodup := by
    rw [order]
    exact matching.once.filter _
  have separate := (nodup_append.mp distinct).2.2
  constructor
  · rw [drained, map_nil, append_nil]
    have twice : (log.flush (pool.queues .pValidPictureQueue)).toDisplay =
        (log.handed ++ waiting).filter fun grant => !decide (grant ∈ waiting) := by
      rw [order, filter_filter]
      apply filter_congr
      intro grant _
      simp [DisplayLog.flush, waiting, Bool.and_comm]
    rw [twice, filter_append]
    change log.handed = _
    have kept : log.handed.filter (fun grant => !decide (grant ∈ waiting)) = log.handed := by
      apply filter_eq_self.mpr
      intro grant member
      have outside : grant ∉ waiting := fun also => separate grant member grant also rfl
      simpa using outside
    have gone : waiting.filter (fun grant => !decide (grant ∈ waiting)) = [] := by
      apply filter_eq_nil_iff.mpr
      intro grant member
      simpa using member
    rw [kept, gone, append_nil]
  · exact matching.once
  · intro grant member
    rcases mem_append.mp member with member | member
    · exact matching.flushedEntered grant member
    · have queued : grant ∈ log.handed ++ waiting := mem_append_right _ member
      rw [order] at queued
      exact mem_of_mem_filter queued
  · exact matching.droppedOutside
  · exact matching.old
  · exact fun node here => matching.granted node (fewer node here)
  · exact fun left right first second =>
      matching.separate left right (fewer left first) (fewer right second)

end Observer

section Steps

/-- No frame is marked or released, and a frame that is only decoded was not
shared. -/
structure Displaying (system : FbmSystem) (log : DisplayLog) (pool : FramePool) : Prop where
  agrees : Agrees system pool
  unmarked : ∀ node, (system.fbm.flag node).bNeedRelease = false
  unshared : ∀ node, pool.place node = .decoding → system.decoderShared node = false
  unreleased : ∀ node, pool.place node ≠ .releasing ∧ pool.place node ≠ .released
  matching : Matches pool log

variable {system : FbmSystem} {log : DisplayLog} {pool pool' : FramePool} {node : Nat}

theorem unmarked_kept {fbm fbm' : Fbm} {drift : FbmCounter → Int}
    (advances : Advances fbm fbm' pool pool' drift)
    (unmarked : ∀ node, (fbm.flag node).bNeedRelease = false) (node : Nat) :
    (fbm'.flag node).bNeedRelease = false := by
  cases mark : (fbm'.flag node).bNeedRelease with
  | false => rfl
  | true =>
    have before := advances.marks node mark
    rw [unmarked node] at before
    exact before.symm

variable {picture : Nat} {target : FramePlace} {op : FbmOp}

theorem unreleased_move (unreleased : ∀ node, pool.place node ≠ .releasing ∧
    pool.place node ≠ .released)
    (outside : target ≠ .releasing ∧ target ≠ .released) (other : Nat) :
    (pool.move node target).place other ≠ .releasing ∧
      (pool.move node target).place other ≠ .released := by
  by_cases here : other = node
  · subst here
    rw [FramePool.move_place_self]
    exact outside
  · rw [FramePool.move_place_other pool target here]
    exact unreleased other

theorem decoding_move (left : target ≠ .decoding) {other : Nat}
    (decoding : (pool.move node target).place other = .decoding) :
    other ≠ node ∧ pool.place other = .decoding := by
  have different : other ≠ node := by
    rintro rfl
    rw [FramePool.move_place_self] at decoding
    exact left decoding
  rw [FramePool.move_place_other pool target different] at decoding
  exact ⟨different, decoding⟩

/-- What a call does to the decoder's record of shared frames. -/
def sharedAfter (system : FbmSystem) : FbmOp → Nat → Bool
  | .requestBuffer =>
    match (fbmRequestBuffer system.fbm).2 with
    | none => system.decoderShared
    | some node => Function.update system.decoderShared node false
  | .shareBuffer picture => Function.update system.decoderShared picture true
  | _ => system.decoderShared

theorem exec_shared {system' : FbmSystem} (call : exec system op = some system') :
    system'.decoderShared = sharedAfter system op := by
  cases op with
  | requestBuffer =>
    simp only [exec, sharedAfter] at call ⊢
    split at call <;> rename_i taken <;> rw [← Option.some.inj call, taken]
  | requestPicture | requestReleasePicture =>
    simp only [exec] at call
    split at call <;> rw [← Option.some.inj call] <;> rfl
  | returnReleasePicture nBufId bForbidUseFlag =>
    rcases Option.map_eq_some_iff.mp call with ⟨⟨fbm', result⟩, -, rfl⟩
    cases result <;> rfl
  | _ =>
    rcases Option.map_eq_some_iff.mp call with ⟨_, -, rfl⟩
    rfl

variable (displaying : Displaying system log pool)

include displaying

theorem displaying_request_buffer : ∃ system' pool', exec system .requestBuffer = some system' ∧
      Displaying system' (observe system log .requestBuffer) pool' := by
  rcases agrees_request_buffer displaying.agrees with ⟨system', call, agrees, advances⟩
  rcases request_buffer_advances displaying.agrees.represents with ⟨taken, -⟩
  have shared := exec_shared call
  simp only [sharedAfter] at shared
  refine ⟨system', _, call, agrees, unmarked_kept advances displaying.unmarked, ?_, ?_, ?_⟩
  all_goals simp only [observe, FramePool.moveHead]
  all_goals cases front : pool.queues .pEmptyBufferQueue
  all_goals simp only [taken, front, List.head?_nil, List.head?_cons] at shared ⊢
  case refine_1.nil =>
    rw [shared]
    exact displaying.unshared
  case refine_2.nil => exact displaying.unreleased
  case refine_3.nil => exact displaying.matching
  case refine_1.cons node rest =>
    intro other decoding
    rw [shared]
    by_cases here : other = node
    · rw [here, update_self]
    · rw [FramePool.move_place_other pool _ here] at decoding
      rw [update_of_ne here]
      exact displaying.unshared other decoding
  case refine_2.cons node rest => exact unreleased_move displaying.unreleased (by decide)
  case refine_3.cons node rest =>
    have wellFormed := displaying.agrees.represents.linked.wellFormed
    exact matches_grant displaying.matching wellFormed
      (FramePlace.queue_empty_iff.mp (FramePool.queue_of_head wellFormed front))

theorem displaying_share_buffer (legal : Legal system (.shareBuffer picture)) :
    ∃ system' pool', exec system (.shareBuffer picture) = some system' ∧
      Displaying system' (observe system log (.shareBuffer picture)) pool' := by
  rcases agrees_share_buffer displaying.agrees legal
    with ⟨here, system', call, agrees, advances⟩
  have moved : poolAfter system.fbm pool (.shareBuffer picture) = pool.move picture .shared := by
    simp [poolAfter, displaying.unmarked picture]
  rw [moved] at agrees advances
  refine ⟨system', _, call, agrees, unmarked_kept advances displaying.unmarked, ?_,
    unreleased_move displaying.unreleased (by decide), matches_enter displaying.matching here rfl⟩
  intro other decoding
  rcases decoding_move (by decide) decoding with ⟨different, before⟩
  rw [exec_shared call]
  simp only [sharedAfter, update_of_ne different]
  exact displaying.unshared other before

theorem displaying_return_buffer {bValidPicture : Bool}
    (legal : Legal system (.returnBuffer picture bValidPicture)) :
    ∃ system' pool', exec system (.returnBuffer picture bValidPicture) = some system' ∧
      Displaying system' (observe system log (.returnBuffer picture bValidPicture)) pool' := by
  have unmarked := displaying.unmarked picture
  have safe : ReleaseSafe system (.returnBuffer picture bValidPicture) := by
    simp [ReleaseSafe, unmarked]
  rcases agrees_return_buffer displaying.agrees legal safe
    with ⟨system', call, agrees, advances⟩
  simp only [poolAfter, unmarked] at agrees advances
  have held : (pool.place picture).heldByDecoder = true := by
    rw [← displaying.agrees.decoder picture]
    exact legal
  have target : ∀ place : FramePlace, place.heldByDecoder = true →
      let after := FramePool.returnedByDecoder false bValidPicture place
      after ≠ .decoding ∧ after ≠ .releasing ∧ after ≠ .released := by
    intro place
    cases place <;> cases bValidPicture <;> decide
  rcases target _ held with ⟨left, outside⟩
  refine ⟨system', _, call, agrees, unmarked_kept advances displaying.unmarked, ?_,
    unreleased_move displaying.unreleased outside, ?_⟩
  · intro other decoding
    rw [exec_shared call]
    exact displaying.unshared other (decoding_move left decoding).2
  · have quiet : ∀ target : FramePlace, target ≠ .decoding →
        ((pool.place picture).queue = some .pValidPictureQueue ↔
          target.queue = some .pValidPictureQueue) →
        Matches (pool.move picture target) log := by
      intro target left same
      apply matches_quiet displaying.matching
      · rcases FramePool.move_queue_cases pool picture target .pValidPictureQueue with
          ⟨_, _, kept⟩ | ⟨source, outside, _⟩ | ⟨source, inside, _⟩ | ⟨_, _, kept⟩
        · exact kept
        · exact absurd (same.mp source) outside
        · exact absurd (same.mpr inside) source
        · exact kept
      · exact fun other decoding => (decoding_move left decoding).2
    have sharing := displaying.agrees.sharing picture
    have unshared := displaying.unshared picture
    simp only [observe]
    cases here : pool.place picture with
    | decoding =>
      rw [unshared here]
      cases bValidPicture with
      | true => exact matches_enter displaying.matching here rfl
      | false => exact matches_drop displaying.matching here
    | shared =>
      rw [sharing (by rw [here]; rfl)]
      exact quiet .ready (by decide) (by rw [here]; decide)
    | showing =>
      rw [sharing (by rw [here]; rfl)]
      exact quiet .displayed (by decide) (by rw [here]; decide)
    | shown =>
      rw [sharing (by rw [here]; rfl)]
      exact quiet .empty (by decide) (by rw [here]; decide)
    | _ => simp [here, FramePlace.heldByDecoder] at held

theorem displaying_request_picture : ∃ system' pool', exec system .requestPicture = some system' ∧
      Displaying system' (observe system log .requestPicture) pool' := by
  rcases agrees_request_picture displaying.agrees with ⟨system', call, agrees, advances⟩
  rcases request_picture_advances displaying.agrees.represents with ⟨taken, -⟩
  have shared : system'.decoderShared = system.decoderShared := exec_shared call
  have unmarked := unmarked_kept advances displaying.unmarked
  refine ⟨system', pool.moveHead .pValidPictureQueue FramePool.takenForDisplay, call, ?_⟩
  simp only [observe, taken]
  cases front : pool.queues .pValidPictureQueue with
  | nil =>
    simp only [FramePool.moveHead, front] at agrees ⊢
    refine ⟨agrees, unmarked, ?_, displaying.unreleased, displaying.matching⟩
    rw [shared]
    exact displaying.unshared
  | cons node rest =>
    simp only [FramePool.moveHead, front] at agrees ⊢
    have wellFormed := displaying.agrees.represents.linked.wellFormed
    have waiting := FramePlace.queue_valid_iff.mp (FramePool.queue_of_head wellFormed front)
    have target : FramePool.takenForDisplay (pool.place node) ≠ .decoding ∧
        (FramePool.takenForDisplay (pool.place node) ≠ .releasing ∧
          FramePool.takenForDisplay (pool.place node) ≠ .released) ∧
        (FramePool.takenForDisplay (pool.place node)).queue ≠ some .pValidPictureQueue := by
      rcases waiting with here | here <;> rw [here] <;> decide
    rcases target with ⟨left, outside, unqueued⟩
    refine ⟨agrees, unmarked, ?_, unreleased_move displaying.unreleased outside,
      matches_hand displaying.matching front (queue_after_front wellFormed front unqueued)
        fun other decoding => (decoding_move left decoding).2⟩
    intro other decoding
    rw [shared]
    exact displaying.unshared other (decoding_move left decoding).2

theorem displaying_return_picture (legal : Legal system (.returnPicture picture)) :
    ∃ system' pool', exec system (.returnPicture picture) = some system' ∧
      Displaying system' (observe system log (.returnPicture picture)) pool' := by
  rcases agrees_return_picture displaying.agrees legal with ⟨system', call, agrees, advances⟩
  have shared : system'.decoderShared = system.decoderShared := exec_shared call
  simp only [poolAfter, displaying.unmarked picture] at agrees advances
  have held : (pool.place picture).heldByRender = true := by
    rw [← displaying.agrees.render picture]
    exact legal
  have target : ∀ place : FramePlace, place.heldByRender = true →
      let after := FramePool.returnedByRender system.fbm.nMaxFrameNum picture false place
      after ≠ .decoding ∧ (after ≠ .releasing ∧ after ≠ .released) ∧
        place.queue ≠ some .pValidPictureQueue ∧ after.queue ≠ some .pValidPictureQueue := by
    intro place rendered
    cases place <;> simp only [FramePlace.heldByRender, Bool.false_eq_true] at rendered <;>
      simp only [FramePool.returnedByRender, Bool.false_eq_true, if_false] <;>
      (try split) <;> decide
  rcases target _ held with ⟨left, outside, source, unqueued⟩
  refine ⟨system', _, call, agrees, unmarked_kept advances displaying.unmarked, ?_,
    unreleased_move displaying.unreleased outside,
    matches_quiet displaying.matching (FramePool.move_queue_other source unqueued)
      fun other decoding => (decoding_move left decoding).2⟩
  intro other decoding
  rw [shared]
  exact displaying.unshared other (decoding_move left decoding).2

theorem displaying_flush : ∃ system' pool', exec system .flush = some system' ∧
      Displaying system' (observe system log .flush) pool' := by
  rcases agrees_flush displaying.agrees with ⟨system', call, agrees, advances⟩
  have shared : system'.decoderShared = system.decoderShared := exec_shared call
  have wellFormed := displaying.agrees.represents.linked.wellFormed
  have place := FramePool.flush_place wellFormed
  have decoding : ∀ node, pool.flush.place node = .decoding → pool.place node = .decoding := by
    intro node decoding
    rw [place node] at decoding
    cases here : pool.place node <;> simp_all [FramePool.flushed]
  have drained : pool.flush.queues .pValidPictureQueue = [] := by
    apply eq_nil_iff_forall_not_mem.mpr
    intro node queued
    have flushed : pool.flush.WellFormed := FramePool.move_all_well_formed wellFormed _ _
    have waiting := FramePlace.queue_valid_iff.mp ((flushed.queued _ node).mp queued)
    rw [place node] at waiting
    cases here : pool.place node <;> simp_all [FramePool.flushed]
  refine ⟨system', _, call, agrees, unmarked_kept advances displaying.unmarked, ?_, ?_, ?_⟩
  · intro node here
    rw [shared]
    exact displaying.unshared node (decoding node here)
  · intro node
    have before := displaying.unreleased node
    rw [place node]
    cases here : pool.place node <;> simp_all [FramePool.flushed]
  · simp only [observe, queued_of_agrees displaying.agrees, Option.getD_some]
    exact matches_flush displaying.matching drained decoding

theorem displaying_set_fbm_buf_address {nBufId : Nat} {bForbidUseFlag : Bool}
    (legal : Legal system (.setFbmBufAddress nBufId bForbidUseFlag)) :
    ∃ system' pool', exec system (.setFbmBufAddress nBufId bForbidUseFlag) = some system' ∧
      Displaying system' (observe system log (.setFbmBufAddress nBufId bForbidUseFlag)) pool' := by
  rcases agrees_set_fbm_buf_address displaying.agrees legal
    with ⟨system', call, agrees, advances⟩
  have shared : system'.decoderShared = system.decoderShared := exec_shared call
  have here : pool.place system.fbm.nValidBufNum = .absent := by
    by_contra present
    have given := (displaying.agrees.given _).mp present
    unfold FbmSystem.given at given
    rw [if_pos legal.1] at given
    exact Nat.lt_irrefl _ given
  have left : (if bForbidUseFlag then FramePlace.forbidden else .empty) ≠ .decoding := by
    cases bForbidUseFlag <;> decide
  simp only [poolAfter] at agrees advances
  refine ⟨system', _, call, agrees, unmarked_kept advances displaying.unmarked, ?_,
    unreleased_move displaying.unreleased (by cases bForbidUseFlag <;> decide),
    matches_quiet displaying.matching (FramePool.move_queue_other (by rw [here]; decide)
      (by cases bForbidUseFlag <;> decide)) fun other decoding => (decoding_move left decoding).2⟩
  intro other decoding
  rw [shared]
  exact displaying.unshared other (decoding_move left decoding).2

theorem display_step_keeps (step : DisplayStep (system, log) op) :
    ∃ next, watchedExec (system, log) op = some next ∧ ∃ pool', Displaying next.1 next.2 pool' := by
  rcases step with ⟨legal, kept⟩
  have done : ∃ system' pool', exec system op = some system' ∧
      Displaying system' (observe system log op) pool' := by
    cases op with
    | requestBuffer => exact displaying_request_buffer displaying
    | shareBuffer picture => exact displaying_share_buffer displaying legal
    | returnBuffer picture bValidPicture => exact displaying_return_buffer displaying legal
    | requestPicture => exact displaying_request_picture displaying
    | returnPicture picture => exact displaying_return_picture displaying legal
    | flush => exact displaying_flush displaying
    | setFbmBufAddress nBufId bForbidUseFlag =>
      exact displaying_set_fbm_buf_address displaying legal
    | _ => exact kept.elim
  rcases done with ⟨system', pool', call, displaying'⟩
  exact ⟨(system', observe system log op), by simp only [watchedExec, call, Option.map_some],
    pool', displaying'⟩

end Steps

variable {system : FbmSystem} {log : DisplayLog} {pool : FramePool}

theorem displayed_of_displaying (displaying : Displaying system log pool) :
    DisplayedInOrder system log where
  order := ⟨_, queued_of_agrees displaying.agrees _, displaying.matching.order⟩
  once := displaying.matching.once
  flushedEntered := displaying.matching.flushedEntered
  droppedOutside := displaying.matching.droppedOutside

/-- A given frame that nobody holds and that does not wait for display can only
be in the empty queue. -/
theorem all_empty_of_idle (displaying : Displaying system log pool) (idle : Idle system) :
    AllEmpty system := by
  have agrees := displaying.agrees
  have wellFormed := agrees.represents.linked.wellFormed
  have drained : pool.queues .pValidPictureQueue = [] := by
    have queued := queued_of_agrees agrees .pValidPictureQueue
    rw [idle.2] at queued
    exact (Option.some.inj queued).symm
  refine ⟨_, queued_of_agrees agrees _, fun node => ?_⟩
  rw [wellFormed.queued, FramePlace.queue_empty_iff, ← agrees.given node]
  have decoder := (idle.1 node).1
  have render := (idle.1 node).2
  have unqueued := wellFormed.queued .pValidPictureQueue node
  rw [drained, FramePlace.queue_valid_iff] at unqueued
  rw [agrees.decoder node] at decoder
  rw [agrees.render node] at render
  have unreleased := displaying.unreleased node
  cases here : pool.place node <;>
    simp_all [FramePlace.heldByDecoder, FramePlace.heldByRender]

/-- In every run of decoder and renderer operations pictures are displayed in
order, and when everything was returned all frames are empty again. -/
theorem displayed_in_order_in_runs (nFrameNum : Nat) (bUseGpuBuf : Bool) :
    ∃ system, FbmSystem.start nFrameNum bUseGpuBuf = some system ∧
      ∀ ops, StepsMeet DisplayStep watchedExec (system, DisplayLog.start) ops →
        ∃ final log, runOps watchedExec (system, DisplayLog.start) ops = some (final, log) ∧
          DisplayedInOrder final log ∧ (Idle final → AllEmpty final) := by
  rcases start_agrees nFrameNum bUseGpuBuf with ⟨system, started, agrees, -, unmarked⟩
  refine ⟨system, started, fun ops meets => ?_⟩
  have idle : ∀ node, (startPool nFrameNum bUseGpuBuf).place node = .empty ∨
      (startPool nFrameNum bUseGpuBuf).place node = .absent := by
    intro node
    rw [start_place]
    split
    · exact .inl rfl
    · exact .inr rfl
  have undecoded : ∀ node, (startPool nFrameNum bUseGpuBuf).place node ≠ .decoding := by
    intro node
    rcases idle node with here | here <;> rw [here] <;> decide
  have drained : (startPool nFrameNum bUseGpuBuf).queues .pValidPictureQueue = [] := by
    apply eq_nil_iff_forall_not_mem.mpr
    intro node queued
    have here := (agrees.represents.linked.wellFormed.queued _ node).mp queued
    rcases idle node with place | place <;> rw [place] at here <;> exact absurd here (by decide)
  have matching : Matches (startPool nFrameNum bUseGpuBuf) DisplayLog.start := by
    constructor
    · rw [drained]
      rfl
    · exact nodup_nil
    · simp [DisplayLog.start]
    · simp [DisplayLog.start]
    · simp [DisplayLog.start]
    · exact fun node here => absurd here (undecoded node)
    · exact fun left _ first _ _ => absurd first (undecoded left)
  have displaying : Displaying system DisplayLog.start (startPool nFrameNum bUseGpuBuf) := by
    refine ⟨agrees, unmarked, fun node here => absurd here (undecoded node), ?_, matching⟩
    intro node
    rcases idle node with here | here <;> rw [here] <;> decide
  have ends : ∀ state op, (∃ pool, Displaying state.1 state.2 pool) → DisplayStep state op →
      ∃ next, watchedExec state op = some next ∧ ∃ pool, Displaying next.1 next.2 pool := by
    intro state op known step
    rcases known with ⟨pool, displaying⟩
    exact display_step_keeps displaying step
  rcases guarded_run_ends ends ⟨_, displaying⟩ meets with ⟨⟨final, log⟩, run, pool, reached⟩
  exact ⟨final, log, run, displayed_of_displaying reached, all_empty_of_idle reached⟩

/-- Two grants of one frame, the second one flushed after it was shared. -/
def displayRun : List FbmOp :=
  [.requestBuffer, .requestBuffer, .shareBuffer 1, .returnBuffer 0 true, .requestPicture,
    .requestPicture, .returnPicture 1, .returnPicture 0, .returnBuffer 1 true, .requestBuffer,
    .shareBuffer 0, .flush, .returnBuffer 0 true]

theorem display_run_in_order : ∃ system, FbmSystem.start 2 false = some system ∧
      (runOps watchedExec (system, DisplayLog.start) displayRun).map
          (fun watched => watched.2.handed) = some [1, 0] ∧
        ∃ final log, runOps watchedExec (system, DisplayLog.start) displayRun = some (final, log) ∧
            DisplayedInOrder final log ∧ (Idle final → AllEmpty final) := by
  rcases displayed_in_order_in_runs 2 false with ⟨system, started, displayed⟩
  obtain rfl : _ = system := Option.some.inj started
  exact ⟨_, rfl, by decide, displayed displayRun (by decide)⟩

end CedarC.FbmDisplayOrder
