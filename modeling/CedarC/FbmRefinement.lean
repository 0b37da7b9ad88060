import CedarC.FbmFramePool

/-!
# The frame buffer manager refines the frame pool

`Represents` relates the linked lists, flags and ids of an `Fbm` to a pool.
Each operation is one `Advances` theorem: the call ends, moves the frames as
the pool says, and leaves the counters off by a stated drift.
-/

namespace CedarC.FbmRefinement

open LinkedChain FbmFrameModel FbmFramePool Function FramePool

/-- The lists anchored by `head` are the queues of the pool. -/
structure Linked (pNext : Nat → Option Nat) (head : FbmQueue → Option Nat)
    (nMaxFrameNum : Nat) (pool : FramePool) : Prop where
  wellFormed : pool.WellFormed
  chains : ∀ queue, Chain pNext (head queue) (pool.queues queue)
  bounded : ∀ node, pool.place node ≠ .absent → node < nMaxFrameNum

structure Represents (fbm : Fbm) (pool : FramePool) : Prop where
  linked : Linked fbm.pNext fbm.head fbm.nMaxFrameNum pool
  flags : ∀ node, fbm.flag node = (pool.place node).flag (fbm.flag node).bNeedRelease
  ids : ∀ node, fbm.nID node = (pool.place node).nID node

def counters (fbm : Fbm) : FbmCounter → Int
  | .nEmptyBufferNum => fbm.nEmptyBufferNum
  | .nValidPictureNum => fbm.nValidPictureNum
  | .nReleaseBufferNum => fbm.nReleaseBufferNum
  | .nDecoderHoldingNum => fbm.nDecoderHoldingNum
  | .nRenderHoldingNum => fbm.nRenderHoldingNum
  | .nWaitForDispNum => fbm.nWaitForDispNum

/-- How far the counters are off what they are meant to count. -/
def excess (fbm : Fbm) (pool : FramePool) : FbmCounter → Int :=
  counters fbm - pool.total fbm.nMaxFrameNum

section Queues

variable {fbm : Fbm} {pool : FramePool} {node : Nat} {queue : FbmQueue}

theorem place_not_absent (queued : (pool.place node).queue = some queue) :
    pool.place node ≠ .absent := by
  intro absent
  rw [absent] at queued
  simp [FramePlace.queue] at queued

theorem outside_queue (wellFormed : pool.WellFormed)
    (other : (pool.place node).queue ≠ some queue) : node ∉ pool.queues queue :=
  fun member => other ((wellFormed.queued queue node).mp member)

theorem dequeue_empty (linked : Linked fbm.pNext fbm.head fbm.nMaxFrameNum pool)
    (drained : pool.queues queue = []) : fbmDequeue fbm queue = (fbm, none) := by
  have ended : fbm.head queue = none := by
    have chain := linked.chains queue
    rw [drained] at chain
    cases head : fbm.head queue with
    | none => rfl
    | some first =>
      rw [head] at chain
      obtain ⟨_, impossible, _⟩ := chain_some_iff.mp chain
      simp at impossible
  have unchanged : update fbm.head queue none = fbm.head := by
    rw [← ended, update_eq_self]
  simp only [fbmDequeue, dequeue, ended, unchanged]

theorem dequeue_front {rest : List Nat} (linked : Linked fbm.pNext fbm.head fbm.nMaxFrameNum pool)
    (front : pool.queues queue = node :: rest) :
    ∃ next head, fbmDequeue fbm queue = ({ fbm with pNext := next, head := head }, some node) ∧
      ∀ target : FramePlace, target.queue = none →
        Linked next head fbm.nMaxFrameNum (pool.move node target) := by
  have source := queue_of_head linked.wellFormed front
  have chain := linked.chains queue
  rw [front] at chain
  rcases dequeue_spec chain with ⟨impossible, _⟩ |
    ⟨first, later, next, head, split, result, shorter, frame⟩
  · simp at impossible
  obtain ⟨rfl, rfl⟩ := List.cons.inj split
  refine ⟨next, update fbm.head queue head, by simp only [fbmDequeue, result], ?_⟩
  intro target free
  constructor
  · exact move_well_formed linked.wellFormed node target
  · intro other
    by_cases here : other = queue
    · subst here
      rw [move_queue_left source (by simp [free]), front, List.erase_cons_head]
      simpa using shorter
    · have elsewhere : (pool.place node).queue ≠ some other := fun same =>
        here (Option.some.inj (same.symm.trans source))
      rw [move_queue_other elsewhere (by simp [free])]
      simp only [update_of_ne here]
      refine chain_congr (linked.chains other) fun later member => frame later ?_
      rintro rfl
      exact outside_queue linked.wellFormed elsewhere member
  · intro other present
    by_cases here : other = node
    · subst here
      exact linked.bounded other (place_not_absent source)
    · rw [move_place_other pool target here] at present
      exact linked.bounded other present

theorem enqueue_free (fbm : Fbm) (queue : FbmQueue)
    (linked : Linked fbm.pNext fbm.head fbm.nMaxFrameNum pool)
    (free : (pool.place node).queue = none) (inside : node < fbm.nMaxFrameNum) :
    ∃ next head, fbmEnqueue fbm queue node = some { fbm with pNext := next, head := head } ∧
      ∀ target : FramePlace, target.queue = some queue →
        Linked next head fbm.nMaxFrameNum (pool.move node target) := by
  have elsewhere : ∀ other, (pool.place node).queue ≠ some other := by simp [free]
  have short := queue_length_le linked.wellFormed linked.bounded queue
  obtain ⟨next, head, result, longer, frame⟩ := enqueue_spec (linked.chains queue) short
    (outside_queue linked.wellFormed (elsewhere queue))
  refine ⟨next, update fbm.head queue head, by simp only [fbmEnqueue, result, Option.map_some], ?_⟩
  intro target entered
  constructor
  · exact move_well_formed linked.wellFormed node target
  · intro other
    by_cases here : other = queue
    · subst here
      rw [move_queue_entered (elsewhere other) entered]
      simpa using longer
    · have distinct : target.queue ≠ some other := fun same =>
        here (Option.some.inj (same.symm.trans entered))
      rw [move_queue_other (elsewhere other) distinct]
      simp only [update_of_ne here]
      refine chain_congr (linked.chains other) fun later member => frame later ?_ ?_
      · intro both
        have first := (linked.wellFormed.queued queue later).mp both
        have second := (linked.wellFormed.queued other later).mp member
        exact here (Option.some.inj (second.symm.trans first))
      · rintro rfl
        exact outside_queue linked.wellFormed (elsewhere other) member
  · intro other present
    by_cases here : other = node
    · subst here
      exact inside
    · rw [move_place_other pool target here] at present
      exact linked.bounded other present

theorem linked_same_queue (linked : Linked fbm.pNext fbm.head fbm.nMaxFrameNum pool)
    {target : FramePlace} (same : (pool.place node).queue = target.queue) (inside : node < fbm.nMaxFrameNum) :
    Linked fbm.pNext fbm.head fbm.nMaxFrameNum (pool.move node target) := by
  constructor
  · exact move_well_formed linked.wellFormed node target
  · intro queue
    rw [move_queue_kept same]
    exact linked.chains queue
  · intro other present
    by_cases here : other = node
    · subst here
      exact inside
    · rw [move_place_other pool target here] at present
      exact linked.bounded other present

end Queues

/-- A call took `fbm` to `fbm'` as the pool moved to `pool'`, with the counters
`drift` further off than before. -/
structure Advances (fbm fbm' : Fbm) (pool pool' : FramePool) (drift : FbmCounter → Int) : Prop where
  represents : Represents fbm' pool'
  size : fbm'.nMaxFrameNum = fbm.nMaxFrameNum
  gpu : fbm'.bUseGpuBuf = fbm.bUseGpuBuf
  buffers : fbm'.nValidBufNum = fbm.nValidBufNum
  marks : ∀ node, (fbm'.flag node).bNeedRelease = true → (fbm.flag node).bNeedRelease = true
  excess : excess fbm' pool' = excess fbm pool + drift

variable {fbm fbm' fbm'' : Fbm} {pool pool' pool'' : FramePool} {node : Nat}
  {drift drift' : FbmCounter → Int}

theorem advances_refl (represents : Represents fbm pool) : Advances fbm fbm pool pool 0 where
  represents := represents
  size := rfl
  gpu := rfl
  buffers := rfl
  marks := fun _ marked => marked
  excess := (add_zero _).symm

theorem advances_trans (first : Advances fbm fbm' pool pool' drift)
    (second : Advances fbm' fbm'' pool' pool'' drift') :
    Advances fbm fbm'' pool pool'' (drift + drift') where
  represents := second.represents
  size := second.size.trans first.size
  gpu := second.gpu.trans first.gpu
  buffers := second.buffers.trans first.buffers
  marks := fun node marked => first.marks node (second.marks node marked)
  excess := by rw [second.excess, first.excess, add_assoc]

theorem advances_move {target : FramePlace} (frame : FrameNode)
    (represents : Represents fbm pool) (inside : node < fbm.nMaxFrameNum)
    (linked : Linked fbm'.pNext fbm'.head fbm'.nMaxFrameNum (pool.move node target))
    (frames : fbm'.pFrames = update fbm.pFrames node frame)
    (flag : frame.flag = target.flag frame.flag.bNeedRelease)
    (id : frame.vpicture.nID = target.nID node)
    (mark : frame.flag.bNeedRelease = true → (fbm.flag node).bNeedRelease = true)
    (size : fbm'.nMaxFrameNum = fbm.nMaxFrameNum) (gpu : fbm'.bUseGpuBuf = fbm.bUseGpuBuf)
    (buffers : fbm'.nValidBufNum = fbm.nValidBufNum)
    (counted : counters fbm' = counters fbm - (pool.place node).weight + target.weight + drift) :
    Advances fbm fbm' pool (pool.move node target) drift := by
  have here : fbm'.pFrames node = frame := by rw [frames, update_self]
  have others : ∀ other, other ≠ node → fbm'.pFrames other = fbm.pFrames other := by
    intro other different
    rw [frames, update_of_ne different]
  refine ⟨⟨linked, ?_, ?_⟩, size, gpu, buffers, ?_, ?_⟩
  · intro other
    by_cases same : other = node
    · subst same
      rw [move_place_self, Fbm.flag, here]
      exact flag
    · rw [move_place_other pool target same, Fbm.flag, others other same]
      exact represents.flags other
  · intro other
    by_cases same : other = node
    · subst same
      rw [move_place_self, Fbm.nID, here, id]
    · rw [move_place_other pool target same, Fbm.nID, others other same]
      exact represents.ids other
  · intro other marked
    by_cases same : other = node
    · subst same
      rw [Fbm.flag, here] at marked
      exact mark marked
    · rwa [Fbm.flag, others other same] at marked
  · unfold excess
    rw [size, counted, total_move pool inside]
    abel

end CedarC.FbmRefinement
