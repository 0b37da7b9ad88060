import CedarC.FbmReleaseMarks

/-!
# The release protocol of the new display

After `FbmSetNewDispRelease` the marked frames must leave through
`FbmRequestReleasePicture` and come back through `FbmReturnReleasePicture` before
the decoder can get them. The place of a frame decides what its mark may be; a
marked frame that the application holds with the forbid tag is the one that a
return puts back unreleased.
-/

namespace CedarC.FbmReleaseProtocol

open GuardedRuns FbmFrameModel FbmFramePool FbmRefinement FbmOperationSteps FbmOwnership
open FbmReleaseMarks FramePool FramePlace

def forbidden (system : FbmSystem) (node : Nat) : Bool :=
  system.renderHolds node && !(system.fbm.flag node).bUsedByRender

def IdleHaveBuffers (system : FbmSystem) : Prop :=
  (∀ empty ∈ system.queued .pEmptyBufferQueue, ∀ node ∈ empty,
      (labels system.fbm node).2 ≠ FBM_NEW_DISP_INVALID_TAG) ∧
    ∀ valid ∈ system.queued .pValidPictureQueue, ∀ node ∈ valid,
      (system.fbm.flag node).bUsedByDecoder = false →
        (labels system.fbm node).2 ≠ FBM_NEW_DISP_INVALID_TAG
deriving Decidable

/-- No step returns a marked frame past its other holder or past its release. -/
def ProtocolSafe (system : FbmSystem) : FbmOp → Prop
  | .returnBuffer picture bValidPicture =>
    ReleaseSafe system (.returnBuffer picture bValidPicture)
  | .returnPicture picture =>
    forbidden system picture = true →
      marked system.fbm picture = false ∧ system.fbm.nMaxFrameNum ≤ system.fbm.nID picture
  | .setNewDispRelease => IdleHaveBuffers system
  | .returnReleasePicture nBufId bForbidUseFlag =>
    ReleaseSafe system (.returnReleasePicture nBufId bForbidUseFlag)
  | _ => True

instance (system : FbmSystem) : ∀ op, Decidable (ProtocolSafe system op)
  | .returnBuffer picture bValidPicture =>
    inferInstanceAs (Decidable (ReleaseSafe system (.returnBuffer picture bValidPicture)))
  | .returnPicture _ => inferInstanceAs (Decidable (_ → _ ∧ _))
  | .setNewDispRelease => inferInstanceAs (Decidable (IdleHaveBuffers system))
  | .returnReleasePicture nBufId bForbidUseFlag =>
    inferInstanceAs (Decidable (ReleaseSafe system (.returnReleasePicture nBufId bForbidUseFlag)))
  | .requestBuffer | .shareBuffer _ | .requestPicture | .flush | .requestReleasePicture
  | .setFbmBufAddress _ _ => inferInstanceAs (Decidable True)

theorem protocol_safe_release_safe {system : FbmSystem} {op : FbmOp}
    (safe : ProtocolSafe system op) : ReleaseSafe system op := by
  cases op with
  | returnBuffer _ _ | returnReleasePicture _ _ => exact safe
  | requestBuffer | shareBuffer _ | requestPicture | returnPicture _ | flush | setNewDispRelease
  | requestReleasePicture | setFbmBufAddress _ _ => trivial

def idOf (system : FbmSystem) (node : Nat) : Nat :=
  if system.releaseHolds node then FRM_RELEASE_TAG
  else if forbidden system node then node + FRM_FORBID_USE_TAG
  else node

/-- A frame is in one of the lists or with one of the clients. -/
def Reachable (system : FbmSystem) (node : Nat) : Prop :=
  (∃ queue, ∃ nodes ∈ system.queued queue, node ∈ nodes) ∨
    system.decoderHolds node = true ∨ system.renderHolds node = true ∨
      system.releaseHolds node = true

/-- What holds between any two calls. -/
structure ReleaseProtocol (system : FbmSystem) : Prop where
  owned : FramesOwned system
  conserved : ∀ node, Reachable system node ↔ system.given node
  unreleased : ∀ empty ∈ system.queued .pEmptyBufferQueue, ∀ node ∈ empty,
    marked system.fbm node = false
  ids : ∀ node, system.given node → system.fbm.nID node = idOf system node
  awaited : ∀ node, system.releaseHolds node = true → marked system.fbm node = true

/-- A call that takes a tagged frame back gives it its own index again. -/
def Untags (before : FbmSystem) (op : FbmOp) (after : FbmSystem) : Prop :=
  match op with
  | .returnPicture picture =>
    forbidden before picture = true →
      after.fbm.nID picture = picture ∧ after.renderHolds picture = false
  | .returnReleasePicture _ bForbidUseFlag =>
    ∀ node, before.releaseHolds node = true →
      ∃ slot, before.releaseHolds slot = true ∧ after.releaseHolds slot = false ∧
        marked after.fbm slot = false ∧
        after.fbm.nID slot = if bForbidUseFlag then slot + FRM_FORBID_USE_TAG else slot
  | _ => True

def LabelFits : FramePlace → Bool × Nat → Prop
  | .absent, label => label = (false, FBM_NEW_DISP_INVALID_TAG)
  | .empty, label | .shared, label | .ready, label => label.1 = false
  | .releasing, label | .released, label => label.1 = true
  | .decoding, _ | .showing, _ | .displayed, _ | .shown, _ | .forbidden, _ => True

structure Follows (system : FbmSystem) (pool : FramePool) : Prop where
  agrees : Agrees system pool
  fits : ∀ node, LabelFits (pool.place node) (labels system.fbm node)

section Places

variable {system : FbmSystem} {pool : FramePool} {node : Nat}

theorem forbidden_iff (agrees : Agrees system pool) :
    forbidden system node = true ↔ pool.place node = .forbidden := by
  have flags := agrees.represents.flags node
  unfold forbidden
  rw [agrees.render node, flags]
  cases pool.place node <;> simp [heldByRender, flag, usedByRender]

theorem id_of_agrees (agrees : Agrees system pool) : system.fbm.nID node = idOf system node := by
  have forbids := @forbidden_iff system pool node agrees
  rw [agrees.represents.ids node, idOf, agrees.release node]
  cases here : pool.place node <;> rw [here] at forbids <;>
    simp_all [nID, heldForRelease]

theorem reachable_iff (agrees : Agrees system pool) :
    Reachable system node ↔ system.given node := by
  have queued := fun queue => agrees.represents.linked.wellFormed.queued queue node
  rw [← agrees.given node]
  unfold Reachable
  rw [agrees.decoder, agrees.render, agrees.release]
  simp only [queued_of_agrees agrees, Option.mem_some_iff, exists_eq_left', queued]
  cases pool.place node <;>
    simp [queue, heldByDecoder, heldByRender, heldForRelease]

theorem fits_move {fbm : Fbm} {target : FramePlace}
    (fits : ∀ other, LabelFits (pool.place other) (labels fbm other))
    (here : LabelFits target (labels fbm node)) (other : Nat) :
    LabelFits ((pool.move node target).place other) (labels fbm other) := by
  by_cases same : other = node
  · rw [same, move_place_self]
    exact here
  · rw [move_place_other pool target same]
    exact fits other

theorem fits_move_head {fbm : Fbm} {queue : FbmQueue} {target : FramePlace → FramePlace}
    (wellFormed : pool.WellFormed) (fits : ∀ other, LabelFits (pool.place other) (labels fbm other))
    (taken : ∀ place label, place.queue = some queue → LabelFits place label →
      LabelFits (target place) label) (other : Nat) :
    LabelFits ((pool.moveHead queue target).place other) (labels fbm other) := by
  unfold moveHead
  cases front : pool.queues queue with
  | nil => exact fits other
  | cons node rest =>
    have here := queue_of_head wellFormed front
    exact fits_move fits (taken _ _ here (fits node)) other

theorem label_of_idle {place : FramePlace} {label : Bool × Nat} (fits : LabelFits place label)
    (idle : place = .empty ∨ place = .shared ∨ place = .ready) : label.1 = false := by
  rcases idle with rfl | rfl | rfl
  · exact fits
  · exact fits
  · exact fits

end Places

section Steps

variable {system : FbmSystem} {pool : FramePool}
  {system' : FbmSystem} {place : FramePlace} {label : Bool × Nat} {op : FbmOp}
  (fits : LabelFits place label)

include fits

theorem fits_return_buffer {bValidPicture : Bool} :
    LabelFits (returnedByDecoder label.1 bValidPicture place) label := by
  obtain ⟨mark, nBufId⟩ := label
  cases place <;> cases mark <;> cases bValidPicture <;>
    simp_all [returnedByDecoder, LabelFits]

theorem fits_return_picture {size node : Nat} (unmarked : place = .forbidden → label.1 = false) :
    LabelFits (returnedByRender size node label.1 place) label := by
  obtain ⟨mark, nBufId⟩ := label
  cases here : place with
  | displayed => cases mark <;> simp [returnedByRender, LabelFits]
  | forbidden =>
    have clear : mark = false := unmarked here
    unfold returnedByRender
    dsimp only
    split_ifs
    · exact clear
    · trivial
  | showing => trivial
  | absent | empty | decoding | shared | ready | shown | releasing | released =>
    rw [here] at fits
    exact fits

theorem fits_flush : LabelFits (FramePool.flushed place) label := by
  cases place with
  | shared => trivial
  | ready | absent | empty | decoding | showing | displayed | shown | releasing | released
  | forbidden => exact fits

variable (follows : Follows system pool)

include follows

omit fits

theorem fits_new_disp_release (buffers : IdleHaveBuffers system) (node : Nat) :
    LabelFits (pool.flush.drainEmpty.place node)
      (labels (fbmMarkNeedRelease system.fbm) node) := by
  have wellFormed := follows.agrees.represents.linked.wellFormed
  have flushed : pool.flush.WellFormed := move_all_well_formed wellFormed _ _
  have fits := follows.fits node
  have flags := follows.agrees.represents.flags node
  have inside := follows.agrees.represents.linked.bounded node
  have queued := fun queue => wellFormed.queued queue node
  rw [drain_empty_place flushed, flush_place wellFormed, mark_labels]
  cases here : pool.place node with
  | absent =>
    rw [here] at fits
    have label : labels system.fbm node = (false, FBM_NEW_DISP_INVALID_TAG) := fits
    unfold marked
    rw [label]
    simp [FramePool.flushed, FramePool.drained, LabelFits]
  | empty =>
    have member : node ∈ pool.queues .pEmptyBufferQueue := by
      rw [queued, here]
      rfl
    have buffer := buffers.1 _ (queued_of_agrees follows.agrees _) node member
    have below := inside (by simp [here])
    simp [FramePool.flushed, FramePool.drained, LabelFits, buffer, below]
  | ready =>
    have member : node ∈ pool.queues .pValidPictureQueue := by
      rw [queued, here]
      rfl
    have returned : (system.fbm.flag node).bUsedByDecoder = false := by
      rw [flags, here]
      rfl
    have buffer := buffers.2 _ (queued_of_agrees follows.agrees _) node member returned
    have below := inside (by simp [here])
    simp [FramePool.flushed, FramePool.drained, LabelFits, buffer, below]
  | releasing | released =>
    rw [here] at fits
    have mark : marked system.fbm node = true := fits
    simp [FramePool.flushed, FramePool.drained, LabelFits, mark]
  | decoding | shared | showing | displayed | shown | forbidden => trivial

theorem follows_step (legal : Legal system op) (safe : ProtocolSafe system op)
    (step : exec system op = some system') :
    Follows system' (poolAfter system.fbm pool op) := by
  obtain ⟨next, call, agrees, _⟩ :=
    exec_advances follows.agrees legal (protocol_safe_release_safe safe)
  obtain rfl : next = system' := Option.some.inj (call.symm.trans step)
  apply Follows.mk agrees
  have wellFormed := follows.agrees.represents.linked.wellFormed
  have fits := follows.fits
  rw [exec_labels step]
  cases op with
  | requestBuffer => exact fits_move_head wellFormed fits fun _ _ _ _ => trivial
  | shareBuffer picture =>
    intro node
    unfold poolAfter labelsAfter
    dsimp only
    split_ifs with mark
    · exact fits node
    · have unmarked : LabelFits .shared (labels system.fbm picture) := by
        simpa [labels, LabelFits] using mark
      exact fits_move fits unmarked node
  | returnBuffer picture bValidPicture =>
    exact fits_move fits (fits_return_buffer (fits picture))
  | requestPicture =>
    apply fits_move_head wellFormed fits
    intro place label queue _
    rcases queue_valid_iff.mp queue with rfl | rfl
    · trivial
    · trivial
  | returnPicture picture =>
    apply fits_move fits
    apply fits_return_picture (fits picture)
    intro here
    exact (safe ((forbidden_iff follows.agrees).mpr here)).1
  | flush =>
    intro node
    change LabelFits (pool.flush.place node) _
    rw [flush_place wellFormed]
    exact fits_flush (fits node)
  | setNewDispRelease => exact fits_new_disp_release follows safe
  | requestReleasePicture =>
    apply fits_move_head wellFormed fits
    intro place label queue held
    rw [queue_release_iff.mp queue] at held
    exact held
  | returnReleasePicture nBufId bForbidUseFlag =>
    intro node
    unfold poolAfter labelsAfter
    cases slot : fbmReleaseSlot system.fbm with
    | none =>
      dsimp only
      rw [if_neg (by simp)]
      exact fits node
    | some index =>
      dsimp only
      by_cases same : node = index
      · rw [same, move_place_self, if_pos rfl]
        cases bForbidUseFlag
        · rfl
        · trivial
      · rw [move_place_other pool _ same, if_neg (fun other => same (Option.some.inj other).symm)]
        exact fits node
  | setFbmBufAddress nBufId bForbidUseFlag =>
    intro node
    unfold poolAfter labelsAfter
    dsimp only
    by_cases same : system.fbm.nValidBufNum = node
    · have absent : pool.place system.fbm.nValidBufNum = .absent := by
        by_contra present
        have given := (follows.agrees.given _).mp present
        unfold FbmSystem.given at given
        rw [if_pos legal.1] at given
        exact Nat.lt_irrefl _ given
      have unused := fits system.fbm.nValidBufNum
      rw [absent] at unused
      have label : labels system.fbm system.fbm.nValidBufNum =
          (false, FBM_NEW_DISP_INVALID_TAG) := unused
      rw [if_pos same, ← same, move_place_self, marked, label]
      cases bForbidUseFlag
      · rfl
      · trivial
    · rw [if_neg same, move_place_other pool _ (Ne.symm same)]
      exact fits node

theorem protocol_of_follows : ReleaseProtocol system := by
  constructor
  · exact frames_owned_of_agrees follows.agrees
  · intro node
    exact reachable_iff follows.agrees
  · intro empty listed node inside
    rw [queued_of_agrees follows.agrees] at listed
    cases listed
    have here := (follows.agrees.represents.linked.wellFormed.queued _ node).mp inside
    exact label_of_idle (follows.fits node) (Or.inl (queue_empty_iff.mp here))
  · intro node _
    exact id_of_agrees follows.agrees
  · intro node held
    rw [follows.agrees.release node] at held
    have fits := follows.fits node
    cases here : pool.place node <;> rw [here] at held fits <;>
      simp only [heldForRelease, Bool.false_eq_true] at held
    exact fits

theorem untags_return_picture {picture : Nat} (safe : ProtocolSafe system (.returnPicture picture))
    (follows' : Follows system' (poolAfter system.fbm pool (.returnPicture picture))) :
    Untags system (.returnPicture picture) system' := by
  intro tagged
  have here := (forbidden_iff follows.agrees).mp tagged
  have large := (safe tagged).2
  rw [id_of_place follows.agrees.represents here] at large
  have left : (poolAfter system.fbm pool (.returnPicture picture)).place picture = .empty := by
    unfold poolAfter
    dsimp only
    rw [move_place_self, here]
    exact if_pos large
  constructor
  · exact id_of_place follows'.agrees.represents left
  · rw [follows'.agrees.render, left]
    rfl

/-- The frame that the search finds is one that the release client holds. -/
theorem untags_return_release_picture {nBufId : Nat} {bForbidUseFlag : Bool}
    (safe : ProtocolSafe system (.returnReleasePicture nBufId bForbidUseFlag))
    (follows' : Follows system'
      (poolAfter system.fbm pool (.returnReleasePicture nBufId bForbidUseFlag)))
    (step : exec system (.returnReleasePicture nBufId bForbidUseFlag) = some system') :
    Untags system (.returnReleasePicture nBufId bForbidUseFlag) system' := by
  intro node held
  have mark := (protocol_of_follows follows).awaited node held
  rw [follows.agrees.release node] at held
  have here : pool.place node = .released := by
    cases place : pool.place node <;> simp_all [heldForRelease]
  have id := id_of_place follows.agrees.represents here
  have inside := follows.agrees.represents.linked.bounded node (by simp [here])
  cases slot : fbmReleaseSlot system.fbm with
  | none =>
    unfold fbmReleaseSlot at slot
    have refused := List.find?_eq_none.mp slot node (List.mem_range.mpr inside)
    have found : (system.fbm.flag node).bNeedRelease = true := mark
    rw [found, id] at refused
    exact absurd rfl refused
  | some index =>
    obtain ⟨below, looks, first⟩ := release_slot_first slot
    have moved : (poolAfter system.fbm pool
        (.returnReleasePicture nBufId bForbidUseFlag)).place index =
          if bForbidUseFlag then .forbidden else .empty := by
      unfold poolAfter
      rw [slot]
      exact move_place_self _ _ _
    have cleared : labels system'.fbm index = (false, nBufId) := by
      rw [exec_labels step, labelsAfter]
      exact if_pos slot
    refine ⟨index, safe index below looks first, ?_, ?_, ?_⟩
    · rw [follows'.agrees.release, moved]
      cases bForbidUseFlag
      · rfl
      · rfl
    · rw [marked, cleared]
    · rw [id_of_place follows'.agrees.represents moved]
      cases bForbidUseFlag
      · rfl
      · rfl

theorem untags_step (legal : Legal system op) (safe : ProtocolSafe system op)
    (step : exec system op = some system') : Untags system op system' := by
  have follows' := follows_step follows legal safe step
  cases op with
  | returnPicture picture => exact untags_return_picture follows safe follows'
  | returnReleasePicture nBufId bForbidUseFlag =>
    exact untags_return_release_picture follows safe follows' step
  | requestBuffer | shareBuffer _ | returnBuffer _ _ | requestPicture | flush
  | setNewDispRelease | requestReleasePicture | setFbmBufAddress _ _ => trivial

omit follows

theorem mark_cleared {node : Nat}
    (safe : ProtocolSafe system op) (step : exec system op = some system')
    (before : marked system.fbm node = true) (after : marked system'.fbm node ≠ true) :
    ∃ nBufId bForbidUseFlag, op = .returnReleasePicture nBufId bForbidUseFlag ∧
      fbmReleaseSlot system.fbm = some node ∧ system.releaseHolds node = true := by
  unfold marked at before after
  rw [exec_labels step] at after
  cases op with
  | returnReleasePicture nBufId bForbidUseFlag =>
    unfold labelsAfter at after
    dsimp only at after
    split_ifs at after with slot
    · obtain ⟨below, looks, first⟩ := release_slot_first slot
      exact ⟨nBufId, bForbidUseFlag, rfl, slot, safe node below looks first⟩
    · exact absurd before after
  | setNewDispRelease =>
    have kept := @mark_labels system.fbm node
    unfold labelsAfter at after
    dsimp only at after
    rw [kept, marked, before] at after
    exact absurd rfl after
  | setFbmBufAddress nBufId bForbidUseFlag =>
    unfold labelsAfter at after
    dsimp only at after
    split_ifs at after
    · exact absurd before after
    · exact absurd before after
  | requestBuffer | shareBuffer _ | returnBuffer _ _ | requestPicture | returnPicture _
  | flush | requestReleasePicture => exact absurd before after

end Steps

def ReleasedIn (system : FbmSystem) (node : Nat) (ops : List FbmOp) : Prop :=
  ∃ earlier nBufId bForbidUseFlag later before,
    ops = earlier ++ .returnReleasePicture nBufId bForbidUseFlag :: later ∧
      runOps exec system earlier = some before ∧ before.releaseHolds node = true ∧
      fbmReleaseSlot before.fbm = some node

/-- Between two moments of a run a marked frame gets to the decoder's queue only
through its release. -/
def EmptiedAfterRelease (start : FbmSystem) (ops : List FbmOp) : Prop :=
  ∀ first second third middle after, ops = first ++ second ++ third →
    runOps exec start first = some middle → runOps exec middle second = some after →
      ∀ node, marked middle.fbm node = true →
        ∀ empty ∈ after.queued .pEmptyBufferQueue, node ∈ empty → ReleasedIn middle node second

def StepsUntag (start : FbmSystem) (ops : List FbmOp) : Prop :=
  ∀ earlier op later before after, ops = earlier ++ op :: later →
    runOps exec start earlier = some before → exec before op = some after → Untags before op after

def KeepsProtocol (system : FbmSystem) (op : FbmOp) : Prop :=
  Legal system op ∧ ProtocolSafe system op
deriving Decidable

variable {system : FbmSystem} {ops : List FbmOp}

theorem run_follows (start : ∃ pool, Follows system pool)
    (meets : StepsMeet KeepsProtocol exec system ops) :
    ∃ final, runOps exec system ops = some final ∧ ∃ pool, Follows final pool := by
  have ends : ∀ state op, (∃ pool, Follows state pool) → KeepsProtocol state op →
      ∃ next, exec state op = some next ∧ ∃ pool, Follows next pool := by
    rintro state op ⟨pool, follows⟩ ⟨legal, safe⟩
    obtain ⟨next, step, _⟩ :=
      exec_advances follows.agrees legal (protocol_safe_release_safe safe)
    exact ⟨next, step, _, follows_step follows legal safe step⟩
  exact guarded_run_ends ends start meets

theorem released_in_run {final : FbmSystem} {node : Nat}
    (meets : StepsMeet KeepsProtocol exec system ops)
    (run : runOps exec system ops = some final) (before : marked system.fbm node = true)
    (after : marked final.fbm node = false) : ReleasedIn system node ops := by
  have ended : ¬ marked final.fbm node = true := by
    rw [after]
    exact Bool.false_ne_true
  obtain ⟨earlier, op, later, middle, next, split, reached, step, held, cleared⟩ :=
    @run_step_ending _ _ exec (fun state => marked state.fbm node = true) _ _ _ before ended run
  rw [split] at meets
  have here := (steps_meet_split meets reached).2.1
  obtain ⟨nBufId, bForbidUseFlag, rfl, slot, client⟩ := mark_cleared here.2 step held cleared
  exact ⟨earlier, nBufId, bForbidUseFlag, later, middle, split, reached, client, slot⟩

theorem emptied_after_release (start : ∃ pool, Follows system pool)
    (meets : StepsMeet KeepsProtocol exec system ops) : EmptiedAfterRelease system ops := by
  intro first second third middle after split run run' node mark empty listed inside
  rw [split, List.append_assoc] at meets
  obtain ⟨firstMeets, rest⟩ := steps_meet_split meets run
  have secondMeets := (steps_meet_split rest run').1
  obtain ⟨_, reached, follows⟩ := run_follows start firstMeets
  obtain rfl := Option.some.inj (reached.symm.trans run)
  obtain ⟨_, reached', pool, follows'⟩ := run_follows follows secondMeets
  obtain rfl := Option.some.inj (reached'.symm.trans run')
  have clear := (protocol_of_follows follows').unreleased empty listed node inside
  exact released_in_run secondMeets run' mark clear

theorem steps_untag (start : ∃ pool, Follows system pool)
    (meets : StepsMeet KeepsProtocol exec system ops) : StepsUntag system ops := by
  intro earlier op later before after split run step
  rw [split] at meets
  obtain ⟨earlierMeets, rest⟩ := steps_meet_split meets run
  obtain ⟨_, reached, pool, follows⟩ := run_follows start earlierMeets
  obtain rfl := Option.some.inj (reached.symm.trans run)
  exact untags_step follows rest.1.1 rest.1.2 step

/-- In every run whose steps keep the protocol, every state keeps it, a marked frame
is empty again only after its release, and each tag is taken back as it was added. -/
theorem release_protocol_in_safe_runs (nFrameNum : Nat) (bUseGpuBuf : Bool) :
    ∃ start, FbmSystem.start nFrameNum bUseGpuBuf = some start ∧
      ∀ ops, StepsMeet KeepsProtocol exec start ops →
        (∃ final, runOps exec start ops = some final ∧ ReleaseProtocol final) ∧
          EmptiedAfterRelease start ops ∧ StepsUntag start ops := by
  obtain ⟨start, started, agrees, _, _⟩ := start_agrees nFrameNum bUseGpuBuf
  have unlabelled : ∀ node, labels start.fbm node = (false, FBM_NEW_DISP_INVALID_TAG) := by
    obtain ⟨fbm, created, rfl⟩ := Option.map_eq_some_iff.mp started
    exact create_labels created
  have fits : ∀ node, LabelFits ((startPool nFrameNum bUseGpuBuf).place node)
      (labels start.fbm node) := by
    intro node
    rw [unlabelled node, start_place]
    split_ifs
    · rfl
    · rfl
  have follows : ∃ pool, Follows start pool := ⟨_, agrees, fits⟩
  refine ⟨start, started, fun ops meets => ⟨?_, ?_, ?_⟩⟩
  · obtain ⟨final, run, pool, reached⟩ := run_follows follows meets
    exact ⟨final, run, protocol_of_follows reached⟩
  · exact emptied_after_release follows meets
  · exact steps_untag follows meets

/-- A frame is released twice over, once with the forbid tag. -/
def protocolRun : List FbmOp :=
  [.setFbmBufAddress 1 false, .requestBuffer, .returnBuffer 0 true, .requestPicture,
    .returnPicture 0, .setNewDispRelease, .requestReleasePicture, .returnReleasePicture 2 true,
    .returnPicture 0, .setNewDispRelease, .requestReleasePicture, .returnReleasePicture 3 false]

theorem protocol_run_kept : ∃ start, FbmSystem.start 2 true = some start ∧
      ((∃ final, runOps exec start protocolRun = some final ∧ ReleaseProtocol final) ∧
        EmptiedAfterRelease start protocolRun ∧ StepsUntag start protocolRun) := by
  obtain ⟨start, started, kept⟩ := release_protocol_in_safe_runs 2 true
  obtain rfl : _ = start := Option.some.inj started
  exact ⟨_, rfl, kept protocolRun (by decide)⟩

/-- The application holds a buffer with the forbid tag when the release is asked for,
and returns it with `FbmReturnPicture`. -/
def forbiddenReturnRun : List FbmOp :=
  [.setFbmBufAddress 1 true, .setNewDispRelease, .returnPicture 0]

/-- The marked frame is in the decoder's queue, and was never released. -/
theorem forbidden_return_skips_release :
    ∃ start, FbmSystem.start 1 true = some start ∧ StepsMeet Legal exec start forbiddenReturnRun ∧
      ∃ final, runOps exec start forbiddenReturnRun = some final ∧
        final.queued .pEmptyBufferQueue = some [0] ∧ marked final.fbm 0 = true ∧
        ¬ ReleaseProtocol final := by
  refine ⟨_, rfl, by decide, _, rfl, by decide, by decide, ?_⟩
  intro kept
  have clear := kept.unreleased [0] (by decide) 0 (by decide)
  revert clear
  decide

end CedarC.FbmReleaseProtocol
