import CedarC.FbmFrameModel
import Mathlib.Algebra.BigOperators.Pi
import Mathlib.Tactic.Abel

/-!
# Abstract frame pool

What the manager is for: every frame is in one place, and the frames of a
queue stand in the order in which they entered it. Each operation moves frames
from place to place. Disjointness of the queues needs no proof here, because
the queue of a frame is a function of its place.
-/

namespace CedarC.FbmFramePool

open FbmFrameModel List

inductive FramePlace where
  /-- no buffer was given to the node yet -/
  | absent
  | empty
  /-- the decoder fills it and has not shared it -/
  | decoding
  /-- queued for display, the decoder still holds it -/
  | shared
  /-- queued for display, returned by the decoder -/
  | ready
  /-- held by the renderer and the decoder -/
  | showing
  /-- held by the renderer alone -/
  | displayed
  /-- held by the decoder alone, shown or flushed before -/
  | shown
  | releasing
  /-- held by the release client -/
  | released
  /-- given to the application with the forbid tag -/
  | forbidden
deriving DecidableEq

namespace FramePlace

def queue : FramePlace → Option FbmQueue
  | .empty => some .pEmptyBufferQueue
  | .shared | .ready => some .pValidPictureQueue
  | .releasing => some .pReleaseBufferQueue
  | .absent | .decoding | .showing | .displayed | .shown | .released | .forbidden => none

def heldByDecoder : FramePlace → Bool
  | .decoding | .shared | .showing | .shown => true
  | .absent | .empty | .ready | .displayed | .releasing | .released | .forbidden => false

def usedByRender : FramePlace → Bool
  | .showing | .displayed => true
  | .absent | .empty | .decoding | .shared | .ready | .shown | .releasing | .released
  | .forbidden => false

def heldByRender : FramePlace → Bool
  | .showing | .displayed | .forbidden => true
  | .absent | .empty | .decoding | .shared | .ready | .shown | .releasing | .released => false

def heldForRelease : FramePlace → Bool
  | .released => true
  | .absent | .empty | .decoding | .shared | .ready | .showing | .displayed | .shown
  | .releasing | .forbidden => false

variable {place : FramePlace}

theorem queue_empty_iff : place.queue = some .pEmptyBufferQueue ↔ place = .empty := by
  cases place <;> simp [queue]

theorem queue_valid_iff :
    place.queue = some .pValidPictureQueue ↔ place = .shared ∨ place = .ready := by
  cases place <;> simp [queue]

theorem queue_release_iff : place.queue = some .pReleaseBufferQueue ↔ place = .releasing := by
  cases place <;> simp [queue]

/-- The flags a node carries in a place; only `bNeedRelease` is free. -/
def flag (place : FramePlace) (bNeedRelease : Bool) : FrameNodeFlag where
  bUsedByDecoder := place.heldByDecoder
  bUsedByRender := place.usedByRender
  bInValidPictureQueue := place.queue = some .pValidPictureQueue
  bAlreadyDisplayed := place = .shown
  bNeedRelease := bNeedRelease

def nID (place : FramePlace) (node : Nat) : Nat :=
  match place with
  | .released => FRM_RELEASE_TAG
  | .forbidden => node + FRM_FORBID_USE_TAG
  | .absent | .empty | .decoding | .shared | .ready | .showing | .displayed | .shown
  | .releasing => node

end FramePlace

/-- The counters of the manager that are meant to count frames. -/
inductive FbmCounter where
  | nEmptyBufferNum
  | nValidPictureNum
  | nReleaseBufferNum
  | nDecoderHoldingNum
  | nRenderHoldingNum
  | nWaitForDispNum
deriving DecidableEq

namespace FramePlace

def counts (place : FramePlace) : FbmCounter → Bool
  | .nEmptyBufferNum => place.queue = some .pEmptyBufferQueue
  | .nValidPictureNum => place.queue = some .pValidPictureQueue
  | .nReleaseBufferNum => place.queue = some .pReleaseBufferQueue
  | .nDecoderHoldingNum => place.heldByDecoder
  | .nRenderHoldingNum => place.usedByRender
  | .nWaitForDispNum => place.queue = some .pValidPictureQueue

def weight (place : FramePlace) (counter : FbmCounter) : Int :=
  if place.counts counter then 1 else 0

end FramePlace

structure FramePool where
  place : Nat → FramePlace
  queues : FbmQueue → List Nat

namespace FramePool

/-- Move a frame: it leaves the queue of its old place and enters the queue of
the new place at the end, and keeps its position if the queue is the same. -/
def move (pool : FramePool) (node : Nat) (target : FramePlace) : FramePool where
  place := Function.update pool.place node target
  queues := fun queue =>
    if (pool.place node).queue = target.queue then pool.queues queue
    else
      (if (pool.place node).queue = some queue then (pool.queues queue).erase node
        else pool.queues queue) ++
      (if target.queue = some queue then [node] else [])

/-- Queues hold exactly the frames whose place names them, each once. -/
structure WellFormed (pool : FramePool) : Prop where
  queued : ∀ queue node, node ∈ pool.queues queue ↔ (pool.place node).queue = some queue
  nodup : ∀ queue, (pool.queues queue).Nodup

@[simp] theorem move_place_self (pool : FramePool) (node : Nat) (target : FramePlace) :
    (pool.move node target).place node = target := by
  simp [move]

variable {pool : FramePool} {node bound : Nat} {target : FramePlace} {queue : FbmQueue}

theorem move_place_other (pool : FramePool) {other : Nat} (target : FramePlace)
    (different : other ≠ node) :
    (pool.move node target).place other = pool.place other := by
  simp [move, different]

theorem move_queue_kept (same : (pool.place node).queue = target.queue) (queue : FbmQueue) :
    (pool.move node target).queues queue = pool.queues queue := by
  simp [move, same]

theorem move_queue_left (source : (pool.place node).queue = some queue)
    (outside : target.queue ≠ some queue) :
    (pool.move node target).queues queue = (pool.queues queue).erase node := by
  have changed : (pool.place node).queue ≠ target.queue := fun same =>
    outside (same ▸ source)
  simp only [move, if_neg changed, if_pos source, if_neg outside, append_nil]

theorem move_queue_entered (source : (pool.place node).queue ≠ some queue)
    (inside : target.queue = some queue) :
    (pool.move node target).queues queue = pool.queues queue ++ [node] := by
  have changed : (pool.place node).queue ≠ target.queue := fun same =>
    source (same ▸ inside)
  simp only [move, if_neg changed, if_neg source, if_pos inside]

theorem move_queue_other (source : (pool.place node).queue ≠ some queue)
    (outside : target.queue ≠ some queue) :
    (pool.move node target).queues queue = pool.queues queue := by
  simp only [move, if_neg source, if_neg outside, append_nil, ite_self]

theorem move_queue_cases (pool : FramePool) (node : Nat) (target : FramePlace) (queue : FbmQueue) :
    ((pool.place node).queue = some queue ∧ target.queue = some queue ∧
        (pool.move node target).queues queue = pool.queues queue) ∨
      ((pool.place node).queue = some queue ∧ target.queue ≠ some queue ∧
        (pool.move node target).queues queue = (pool.queues queue).erase node) ∨
      ((pool.place node).queue ≠ some queue ∧ target.queue = some queue ∧
        (pool.move node target).queues queue = pool.queues queue ++ [node]) ∨
      ((pool.place node).queue ≠ some queue ∧ target.queue ≠ some queue ∧
        (pool.move node target).queues queue = pool.queues queue) := by
  by_cases source : (pool.place node).queue = some queue
  · by_cases inside : target.queue = some queue
    · exact .inl ⟨source, inside, move_queue_kept (source.trans inside.symm) queue⟩
    · exact .inr (.inl ⟨source, inside, move_queue_left source inside⟩)
  · by_cases inside : target.queue = some queue
    · exact .inr (.inr (.inl ⟨source, inside, move_queue_entered source inside⟩))
    · exact .inr (.inr (.inr ⟨source, inside, move_queue_other source inside⟩))

theorem move_well_formed (wellFormed : pool.WellFormed) (node : Nat)
    (target : FramePlace) : (pool.move node target).WellFormed := by
  constructor
  · intro queue other
    have before := wellFormed.queued queue other
    by_cases here : other = node
    · subst here
      rw [move_place_self]
      rcases move_queue_cases pool other target queue with
        ⟨source, inside, after⟩ | ⟨source, outside, after⟩ | ⟨source, inside, after⟩ |
          ⟨source, outside, after⟩
      · simp [after, before, source, inside]
      · simp [after, outside, (wellFormed.nodup queue).not_mem_erase]
      · simp [after, inside]
      · simp [after, before, source, outside]
    · rw [move_place_other pool target here, ← before]
      rcases move_queue_cases pool node target queue with
        ⟨_, _, after⟩ | ⟨_, _, after⟩ | ⟨_, _, after⟩ | ⟨_, _, after⟩ <;>
        simp [after, here, mem_erase_of_ne]
  · intro queue
    have distinct := wellFormed.nodup queue
    rcases move_queue_cases pool node target queue with
      ⟨_, _, after⟩ | ⟨_, _, after⟩ | ⟨source, _, after⟩ | ⟨_, _, after⟩
    · simpa [after] using distinct
    · simpa [after] using distinct.erase node
    · have outside : node ∉ pool.queues queue := fun member =>
        source ((wellFormed.queued queue node).mp member)
      rw [after]
      exact distinct.append (nodup_singleton node) (by simpa using outside)
    · simpa [after] using distinct

@[simp] theorem move_here (pool : FramePool) (node : Nat) :
    pool.move node (pool.place node) = pool := by
  simp [move]

/-- A move through a place without a queue is one move, unless it would bring
the frame back to the queue it left. -/
theorem move_move {between : FramePlace}
    (free : between.queue = none) (distinct : (pool.place node).queue ≠ target.queue) :
    (pool.move node between).move node target = pool.move node target := by
  have places : ((pool.move node between).move node target).place =
      (pool.move node target).place := by
    simp [move]
  have queues : ((pool.move node between).move node target).queues =
      (pool.move node target).queues := by
    funext queue
    simp only [move, Function.update_self, free]
    by_cases source : (pool.place node).queue = some queue <;>
      by_cases inside : target.queue = some queue <;>
      grind
  cases moved : (pool.move node between).move node target
  cases direct : pool.move node target
  simp_all

def total (pool : FramePool) (bound : Nat) : FbmCounter → Int :=
  ∑ node ∈ Finset.range bound, (pool.place node).weight

theorem total_move (pool : FramePool) (inside : node < bound) (target : FramePlace) :
    (pool.move node target).total bound =
      pool.total bound - (pool.place node).weight + target.weight := by
  have updated : (fun other => ((pool.move node target).place other).weight) =
      Function.update (fun other => (pool.place other).weight) node target.weight := by
    funext other
    by_cases here : other = node
    · subst here
      simp
    · simp [move_place_other pool target here, here]
  have member : node ∈ Finset.range bound := Finset.mem_range.mpr inside
  unfold total
  rw [updated, Finset.sum_update_of_mem member,
    Finset.sum_eq_add_sum_sdiff_singleton_of_mem member fun other =>
      (pool.place other).weight]
  abel

theorem total_eq_countP (pool : FramePool) (bound : Nat) (counter : FbmCounter) :
    pool.total bound counter =
      (List.range bound).countP fun node => (pool.place node).counts counter := by
  unfold total
  rw [Finset.sum_apply]
  induction bound with
  | zero => simp
  | succ bound ih =>
    rw [Finset.sum_range_succ, ih, range_succ, countP_append]
    simp [FramePlace.weight, countP_cons]

theorem total_nonneg (pool : FramePool) (bound : Nat) (counter : FbmCounter) :
    0 ≤ pool.total bound counter := by
  rw [total_eq_countP]
  exact Int.natCast_nonneg _

variable (wellFormed : pool.WellFormed)

include wellFormed

theorem queue_length_eq_countP
    (bounded : ∀ node, pool.place node ≠ .absent → node < bound) (queue : FbmQueue) :
    (pool.queues queue).length =
      (List.range bound).countP fun node => (pool.place node).queue = some queue := by
  have permuted : (pool.queues queue).Perm
      ((List.range bound).filter fun node => (pool.place node).queue = some queue) := by
    rw [perm_ext_iff_of_nodup (wellFormed.nodup queue) (nodup_range.filter _)]
    intro node
    rw [wellFormed.queued, mem_filter, mem_range, decide_eq_true_iff]
    constructor
    · intro queued
      refine ⟨bounded node fun absent => ?_, queued⟩
      rw [absent] at queued
      simp [FramePlace.queue] at queued
    · exact And.right
  rw [permuted.length_eq, countP_eq_length_filter]

theorem queue_length_le
    (bounded : ∀ node, pool.place node ≠ .absent → node < bound) (queue : FbmQueue) :
    (pool.queues queue).length ≤ bound := by
  rw [queue_length_eq_countP wellFormed bounded]
  simpa using countP_le_length (l := List.range bound)
    (p := fun node => (pool.place node).queue = some queue)

theorem queue_of_head {rest : List Nat} (front : pool.queues queue = node :: rest) :
    (pool.place node).queue = some queue :=
  (wellFormed.queued queue node).mp (by simp [front])

end FramePool

/-- Operations of the decoder, the renderer and the application. -/
inductive FbmOp where
  | requestBuffer
  | shareBuffer (picture : Nat)
  | returnBuffer (picture : Nat) (bValidPicture : Bool)
  | requestPicture
  | returnPicture (picture : Nat)
  | flush
  | setNewDispRelease
  | requestReleasePicture
  | returnReleasePicture (nBufId : Nat) (bForbidUseFlag : Bool)
  | setFbmBufAddress (nBufId : Nat) (bForbidUseFlag : Bool)
deriving DecidableEq

namespace FramePool

def moveHead (pool : FramePool) (queue : FbmQueue) (target : FramePlace → FramePlace) : FramePool :=
  match pool.queues queue with
  | [] => pool
  | node :: _ => pool.move node (target (pool.place node))

def moveAll (pool : FramePool) (nodes : List Nat) (target : FramePlace → FramePlace) : FramePool :=
  nodes.foldl (fun pool node => pool.move node (target (pool.place node))) pool

def takenForDisplay : FramePlace → FramePlace
  | .shared => .showing
  | .ready => .displayed
  | other => other

def flushed : FramePlace → FramePlace
  | .shared => .shown
  | .ready => .empty
  | other => other

def drained : FramePlace → FramePlace
  | .empty => .releasing
  | other => other

def returnedByDecoder (bNeedRelease bValidPicture : Bool) : FramePlace → FramePlace
  | .shared => .ready
  | .decoding => if bNeedRelease then .releasing else if bValidPicture then .ready else .empty
  | .showing => .displayed
  | .shown => if bNeedRelease then .releasing else .empty
  | other => other

/-- Where a frame goes when the renderer returns it. A tagged id that is below
the number of frames is refused. -/
def returnedByRender (nMaxFrameNum node : Nat) (bNeedRelease : Bool) : FramePlace → FramePlace
  | .showing => .shown
  | .displayed => if bNeedRelease then .releasing else .empty
  | .forbidden => if nMaxFrameNum ≤ node + FRM_FORBID_USE_TAG then .empty else .forbidden
  | other => other

def flush (pool : FramePool) : FramePool := pool.moveAll (pool.queues .pValidPictureQueue) flushed

def drainEmpty (pool : FramePool) : FramePool :=
  pool.moveAll (pool.queues .pEmptyBufferQueue) drained

variable {pool : FramePool}

theorem move_all_well_formed (wellFormed : pool.WellFormed)
    (nodes : List Nat) (target : FramePlace → FramePlace) :
    (pool.moveAll nodes target).WellFormed := by
  induction nodes generalizing pool with
  | nil => exact wellFormed
  | cons node rest ih => exact ih (move_well_formed wellFormed node _)

theorem move_all_place {nodes : List Nat} (distinct : nodes.Nodup)
    (target : FramePlace → FramePlace) (node : Nat) :
    (pool.moveAll nodes target).place node =
      if node ∈ nodes then target (pool.place node) else pool.place node := by
  induction nodes generalizing pool with
  | nil => simp [moveAll]
  | cons first rest ih =>
    rcases nodup_cons.mp distinct with ⟨fresh, later⟩
    have unfolded : pool.moveAll (first :: rest) target =
        (pool.move first (target (pool.place first))).moveAll rest target := rfl
    rw [unfolded, ih later]
    by_cases here : node = first
    · subst here
      simp [fresh]
    · simp [here, move_place_other pool _ here]

theorem flush_place (wellFormed : pool.WellFormed) (node : Nat) :
    pool.flush.place node = flushed (pool.place node) := by
  unfold flush
  rw [move_all_place (wellFormed.nodup _)]
  simp only [wellFormed.queued, FramePlace.queue_valid_iff]
  cases pool.place node <;> simp [flushed]

theorem drain_empty_place (wellFormed : pool.WellFormed) (node : Nat) :
    pool.drainEmpty.place node = drained (pool.place node) := by
  unfold drainEmpty
  rw [move_all_place (wellFormed.nodup _)]
  simp only [wellFormed.queued, FramePlace.queue_empty_iff]
  cases pool.place node <;> simp [drained]

end FramePool

end CedarC.FbmFramePool
