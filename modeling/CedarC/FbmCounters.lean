import CedarC.FbmOwnership

/-!
# Counters of the frame buffer manager

Four of the six counters count what they are meant to in every run that is
safe for release. The two others never count too little, and a run keeps all
six exact as long as it flushes no waiting picture and the decoder returns no
marked frame outside the valid queue.
-/

namespace CedarC.FbmCounters

open GuardedRuns LinkedChain FbmFrameModel FbmFramePool FbmRefinement FbmOperationSteps FbmOwnership

def flagged (fbm : Fbm) (flag : FrameNodeFlag → Bool) : Nat :=
  (List.range fbm.nMaxFrameNum).countP fun node => flag (fbm.flag node)

def ListCountersExact (system : FbmSystem) : Prop :=
  ∃ empty ∈ system.queued .pEmptyBufferQueue, ∃ valid ∈ system.queued .pValidPictureQueue,
    ∃ release ∈ system.queued .pReleaseBufferQueue,
      system.fbm.nEmptyBufferNum = empty.length ∧ system.fbm.nValidPictureNum = valid.length ∧
        system.fbm.nReleaseBufferNum = release.length
deriving Decidable

structure CountersExact (system : FbmSystem) : Prop where
  lists : ListCountersExact system
  decoder : system.fbm.nDecoderHoldingNum = flagged system.fbm FrameNodeFlag.bUsedByDecoder
  render : system.fbm.nRenderHoldingNum = flagged system.fbm FrameNodeFlag.bUsedByRender
  waiting : system.fbm.nWaitForDispNum = system.fbm.nValidPictureNum
  nonneg : ∀ counter, 0 ≤ counters system.fbm counter

/-- No picture waits when the display is flushed, and the decoder returns no
marked frame that is not queued. -/
def CounterSafe (system : FbmSystem) : FbmOp → Prop
  | .returnBuffer picture _ =>
    ((system.fbm.flag picture).bNeedRelease &&
      !(system.fbm.flag picture).bInValidPictureQueue) = false
  | .flush | .setNewDispRelease => system.fbm.head .pValidPictureQueue = none
  | .returnReleasePicture nBufId bForbidUseFlag =>
    ReleaseSafe system (.returnReleasePicture nBufId bForbidUseFlag)
  | _ => True

instance (system : FbmSystem) : ∀ op, Decidable (CounterSafe system op)
  | .returnBuffer _ _ | .flush | .setNewDispRelease => inferInstanceAs (Decidable (_ = _))
  | .returnReleasePicture nBufId bForbidUseFlag =>
    inferInstanceAs (Decidable (ReleaseSafe system (.returnReleasePicture nBufId bForbidUseFlag)))
  | .requestBuffer | .shareBuffer _ | .requestPicture | .returnPicture _
  | .requestReleasePicture | .setFbmBufAddress _ _ => inferInstanceAs (Decidable True)

theorem counter_safe_release_safe {system : FbmSystem} {op : FbmOp}
    (safe : CounterSafe system op) : ReleaseSafe system op := by
  cases op with
  | returnBuffer picture bValidPicture =>
    have unmarked : ((system.fbm.flag picture).bNeedRelease &&
      !(system.fbm.flag picture).bInValidPictureQueue) = false := safe
    simp [ReleaseSafe, unmarked]
  | returnReleasePicture nBufId bForbidUseFlag => exact safe
  | _ => trivial

variable {system : FbmSystem} {pool : FramePool}

theorem flagged_eq_total (agrees : Agrees system pool) :
    (flagged system.fbm FrameNodeFlag.bUsedByDecoder : Int) =
        pool.total system.fbm.nMaxFrameNum .nDecoderHoldingNum ∧
      (flagged system.fbm FrameNodeFlag.bUsedByRender : Int) =
        pool.total system.fbm.nMaxFrameNum .nRenderHoldingNum := by
  constructor
  all_goals
    rw [FramePool.total_eq_countP]
    unfold flagged
    congr 2
    funext node
    rw [agrees.represents.flags node]
    rfl

theorem queue_length_eq_total (agrees : Agrees system pool) :
    ((pool.queues .pEmptyBufferQueue).length : Int) =
        pool.total system.fbm.nMaxFrameNum .nEmptyBufferNum ∧
      ((pool.queues .pValidPictureQueue).length : Int) =
        pool.total system.fbm.nMaxFrameNum .nValidPictureNum ∧
      ((pool.queues .pReleaseBufferQueue).length : Int) =
        pool.total system.fbm.nMaxFrameNum .nReleaseBufferNum := by
  have linked := agrees.represents.linked
  have length := FramePool.queue_length_eq_countP linked.wellFormed linked.bounded
  refine ⟨?_, ?_, ?_⟩
  all_goals
    rw [FramePool.total_eq_countP, length]
    rfl

theorem counter_eq_total {counter : FbmCounter} (exact : excess system.fbm pool counter = 0) :
    counters system.fbm counter = pool.total system.fbm.nMaxFrameNum counter := by
  have unfolded : excess system.fbm pool counter = counters system.fbm counter -
    pool.total system.fbm.nMaxFrameNum counter := rfl
  omega

theorem counters_exact_of_agrees (agrees : Agrees system pool)
    (exact : excess system.fbm pool = 0) : CountersExact system := by
  have total := fun counter => counter_eq_total (congrFun exact counter)
  rcases queue_length_eq_total agrees with ⟨empty, valid, release⟩
  rcases flagged_eq_total agrees with ⟨decoder, render⟩
  constructor
  · exact ⟨_, queued_of_agrees agrees _, _, queued_of_agrees agrees _, _,
      queued_of_agrees agrees _, (total .nEmptyBufferNum).trans empty.symm,
      (total .nValidPictureNum).trans valid.symm, (total .nReleaseBufferNum).trans release.symm⟩
  · exact (total .nDecoderHoldingNum).trans decoder.symm
  · exact (total .nRenderHoldingNum).trans render.symm
  · have waiting : pool.total system.fbm.nMaxFrameNum .nWaitForDispNum =
        pool.total system.fbm.nMaxFrameNum .nValidPictureNum := by
      rw [FramePool.total_eq_countP, FramePool.total_eq_countP]
      rfl
    exact (total .nWaitForDispNum).trans (waiting.trans (total .nValidPictureNum).symm)
  · intro counter
    rw [total counter]
    exact FramePool.total_nonneg _ _ _

theorem drift_zero {op : FbmOp} (agrees : Agrees system pool) (safe : CounterSafe system op) :
    driftOf system.fbm pool op = 0 := by
  have drained : system.fbm.head .pValidPictureQueue = none →
      Pi.single FbmCounter.nWaitForDispNum ((pool.queues .pValidPictureQueue).length : Int) =
        (0 : FbmCounter → Int) := by
    intro ended
    have chain := agrees.represents.linked.chains .pValidPictureQueue
    rw [ended] at chain
    rw [chain_null_iff.mp chain]
    simp
  cases op with
  | returnBuffer picture bValidPicture =>
    have unmarked : ((system.fbm.flag picture).bNeedRelease &&
      !(system.fbm.flag picture).bInValidPictureQueue) = false := safe
    simp [driftOf, returnDrift, unmarked]
  | flush | setNewDispRelease => exact drained safe
  | _ => rfl

/-- In every legal run of counter-safe steps all six counters stay exact. -/
theorem counters_exact_in_safe_runs (nFrameNum : Nat) (bUseGpuBuf : Bool) :
    ∃ system, FbmSystem.start nFrameNum bUseGpuBuf = some system ∧
      ∀ ops, StepsMeet Legal exec system ops → StepsMeet CounterSafe exec system ops →
        ∃ final, runOps exec system ops = some final ∧ CountersExact final := by
  rcases start_agrees nFrameNum bUseGpuBuf with ⟨system, started, agrees, exact, -⟩
  refine ⟨system, started, fun ops legal safe => ?_⟩
  have ends : ∀ state op, (∃ pool, Agrees state pool ∧ excess state.fbm pool = 0) →
      (Legal state op ∧ CounterSafe state op) →
      ∃ next, exec state op = some next ∧ ∃ pool, Agrees next pool ∧ excess next.fbm pool = 0 := by
    intro state op known meets
    rcases known with ⟨pool, agrees, exact⟩
    rcases exec_advances agrees meets.1 (counter_safe_release_safe meets.2)
      with ⟨next, step, agrees', drifted⟩
    rw [exact, drift_zero agrees meets.2, add_zero] at drifted
    exact ⟨next, step, _, agrees', drifted⟩
  rcases guarded_run_ends ends ⟨_, agrees, exact⟩ (steps_meet_and legal safe)
    with ⟨final, run, pool, reached, exact⟩
  exact ⟨final, run, counters_exact_of_agrees reached exact⟩

def flushedPictureRun : List FbmOp := [.requestBuffer, .returnBuffer 0 true, .flush]

theorem flushed_picture_keeps_waiting : ∃ system, FbmSystem.start 1 false = some system ∧
      StepsMeet Legal exec system flushedPictureRun ∧
      ∃ final, runOps exec system flushedPictureRun = some final ∧
        final.fbm.nValidPictureNum = 0 ∧ final.fbm.nWaitForDispNum = 1 ∧ ¬ CountersExact final :=
  ⟨_, rfl, by decide, _, rfl, rfl, rfl, fun exact => absurd exact.waiting (by decide)⟩

theorem release_run_counters_exact : ∃ system, FbmSystem.start 2 true = some system ∧
      ∃ final, runOps exec system
          [.setFbmBufAddress 1 false, .requestBuffer, .returnBuffer 0 true, .requestPicture,
            .returnPicture 0, .setNewDispRelease, .requestReleasePicture,
            .returnReleasePicture 2 true, .returnPicture 0, .flush] = some final ∧
        CountersExact final := by
  rcases counters_exact_in_safe_runs 2 true with ⟨system, started, exact⟩
  obtain rfl : _ = system := Option.some.inj started
  exact ⟨_, rfl, exact _ (by decide) (by decide)⟩

end CedarC.FbmCounters
