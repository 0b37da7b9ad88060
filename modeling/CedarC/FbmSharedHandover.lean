import CedarC.FbmSharedRuns

/-!
# How often a picture of a 3D video is enqueued

A picture that both streams were given belongs to one of the three lists of the
first manager once the second of them has returned it, and to none before. The
result is about every run in which the minor stream follows the major one; where
the minor renderer is the second to return, the picture is lost.
-/

namespace CedarC.FbmSharedHandover

open GuardedRuns LinkedChain FbmFrameModel FbmFramePool FbmSharedModel FbmSharedRuns
open CedarC.FbmOwnership (lists_nodup)

def queued (system : SharedSystem) (queue : FbmQueue) : Option (List Nat) :=
  nodesFrom system.first.pNext system.first.nMaxFrameNum (system.first.head queue)

/-- How often the lists of the first manager have the picture. -/
def timesQueued (system : SharedSystem) (picture : Nat) : Option Nat :=
  (queued system .pEmptyBufferQueue).bind fun empty =>
    (queued system .pValidPictureQueue).bind fun valid =>
      (queued system .pReleaseBufferQueue).map fun release =>
        (empty ++ valid ++ release).count picture

def Unused (system : SharedSystem) (picture : Nat) : Prop :=
  (system.decoderHolds .major picture = false ∧ system.decoderHolds .minor picture = false) ∧
    (system.renderHolds .major picture = false ∧ system.renderHolds .minor picture = false) ∧
    system.releaseHolds picture = false ∧ awaitsMinor system picture = false
deriving Decidable

/-- A picture with a buffer is in one list, once, or in use. -/
def HandedOver (system : SharedSystem) : Prop :=
  ∀ picture < system.first.nValidBufNum,
    timesQueued system picture = some (if Unused system picture then 1 else 0)

/-- The call takes a picture back from a stream that requested it: it was in no list,
the stream has it no more, and it is enqueued if nobody else has it either. -/
def TakesBack (before after : SharedSystem) : SharedOp → Prop
  | .returnBuffer stream picture _ =>
    timesQueued before picture = some 0 ∧ after.decoderHolds stream picture = false ∧
      timesQueued after picture = some (if Unused after picture then 1 else 0)
  | .returnPicture stream picture =>
    (before.first.flag picture).bUsedByRender = true →
      timesQueued before picture = some 0 ∧ after.renderHolds stream picture = false ∧
        timesQueued after picture = some (if Unused after picture then 1 else 0)
  | _ => True

section States

variable {system system' : SharedSystem} {pool : FramePool} {picture : Nat}

theorem queued_of_agrees (agrees : SharedAgrees system pool) (queue : FbmQueue) :
    queued system queue = some (pool.queues queue) :=
  FbmOwnership.queued_of_agrees agrees.one queue

theorem times_of_agrees (agrees : SharedAgrees system pool) :
    timesQueued system picture = some (if (pool.place picture).queue = none then 0 else 1) := by
  have wellFormed := agrees.one.represents.linked.wellFormed
  unfold timesQueued
  rw [queued_of_agrees agrees, queued_of_agrees agrees, queued_of_agrees agrees, Option.bind_some,
    Option.bind_some, Option.map_some, List.Nodup.count (lists_nodup wellFormed)]
  simp only [List.mem_append, wellFormed.queued]
  cases here : pool.place picture <;> simp [FramePlace.queue]

variable {place : FramePlace}

theorem decoding_of_unlisted (present : place ≠ .absent)
    (unlisted : place.queue = none) (render : place.heldByRender = false)
    (release : place.heldForRelease = false) (unshared : FbmOwnership.wasShared place = false) :
    place = .decoding := by
  revert present unlisted render release unshared
  cases place <;> decide

theorem idle_of_listed (listed : place.queue ≠ none)
    (unshared : FbmOwnership.wasShared place = false) :
    place.heldByDecoder = false ∧ place.heldByRender = false ∧ place.heldForRelease = false := by
  revert listed unshared
  cases place <;> decide

variable (agrees : SharedAgrees system pool)

include agrees

theorem unused_iff (present : pool.place picture ≠ .absent) :
    Unused system picture ↔ (pool.place picture).queue ≠ none := by
  have uses := agrees.uses picture
  have decoder : (system.first.flag picture).bUsedByDecoder = _ := agrees.one.decoder picture
  have render : (system.renderHolds .major picture || system.renderHolds .minor picture) = _ :=
    agrees.one.render picture
  have release : system.releaseHolds picture = _ := agrees.one.release picture
  have unshared := not_shared agrees.one picture
  unfold Unused
  constructor
  · rintro ⟨⟨major, minor⟩, ⟨first, second⟩, held, waits⟩ idle
    rw [first, second] at render
    rw [held] at release
    have here := decoding_of_unlisted present idle render.symm release.symm unshared
    rw [here] at decoder uses
    rcases uses.kept rfl with has | has | needed
    · exact absurd (has.symm.trans major) (by decide)
    · exact absurd (has.symm.trans minor) (by decide)
    · have pointed := uses.pointed rfl needed
      unfold awaitsMinor at waits
      rw [decoder, needed, pointed] at waits
      cases waits
  · intro listed
    have away : pool.place picture ≠ .decoding := by
      intro here
      apply listed
      rw [here]
      rfl
    have free := not_held_of_place uses away
    obtain ⟨undecoded, unrendered, unreleased⟩ := idle_of_listed listed unshared
    rw [unrendered, Bool.or_eq_false_iff] at render
    rw [unreleased] at release
    rw [undecoded] at decoder
    refine ⟨free, render, release, ?_⟩
    unfold awaitsMinor
    rw [decoder, Bool.and_false, Bool.false_and]

theorem times_of_present (present : pool.place picture ≠ .absent) :
    timesQueued system picture = some (if Unused system picture then 1 else 0) := by
  rw [times_of_agrees agrees]
  by_cases unused : Unused system picture
  · rw [if_pos unused, if_neg ((unused_iff agrees present).mp unused)]
  · rw [if_neg unused, if_pos (not_not.mp (mt (unused_iff agrees present).mpr unused))]

theorem given_iff : pool.place picture ≠ .absent ↔ picture < system.first.nValidBufNum := by
  rw [agrees.one.given picture]
  have gpu : (asOne system).fbm.bUseGpuBuf = true := agrees.gpu
  unfold FbmOwnership.FbmSystem.given
  rw [gpu, if_pos rfl]
  exact Iff.rfl

theorem handed_over_of_agrees : HandedOver system := by
  intro picture inside
  exact times_of_present agrees ((given_iff agrees).mpr inside)

theorem held_in_no_list (here : pool.place picture = place) (unlisted : place.queue = none) :
    timesQueued system picture = some 0 := by
  rw [times_of_agrees agrees, here, unlisted, if_pos rfl]

theorem takes_back_of_agrees {op : SharedOp}
    (legal : Legal system op) (safe : PairSafe system op) (step : exec system op = some system') :
    TakesBack system system' op := by
  cases op with
  | returnBuffer stream picture bValidPicture =>
    obtain ⟨_, call, buffers, pool', agrees'⟩ := returns_buffer agrees legal
    obtain rfl := Option.some.inj (call.symm.trans step)
    have here := decoding_of_holder agrees legal
    have present : pool.place picture ≠ .absent := by
      rw [here]
      decide
    rw [given_iff agrees, ← buffers, ← given_iff agrees'] at present
    refine ⟨held_in_no_list agrees here rfl, ?_, times_of_present agrees' present⟩
    obtain ⟨shared, _, rfl⟩ := Option.map_eq_some_iff.mp step
    exact hold_self _ _ _ _
  | returnPicture stream picture =>
    intro rendered
    obtain ⟨_, call, buffers, given, pool', agrees'⟩ := returns_picture agrees legal safe
    obtain rfl := Option.some.inj (call.symm.trans step)
    have here : pool.place picture = .displayed := by
      have together : (system.renderHolds .major picture ||
          system.renderHolds .minor picture) = true := by
        have held : system.renderHolds stream picture = true := legal
        cases stream <;> rw [held] <;> simp
      have held := (agrees.one.render picture).symm.trans together
      have flags : (system.first.flag picture).bUsedByRender = _ :=
        congrArg FrameNodeFlag.bUsedByRender (agrees.one.represents.flags picture)
      rcases displayed_of_render agrees.one held with here | here
      · exact here
      · rw [here, rendered] at flags
        cases flags
    have present : pool.place picture ≠ .absent := by
      rw [here]
      decide
    rw [given_iff agrees, ← buffers, ← given_iff agrees'] at present
    exact ⟨held_in_no_list agrees here rfl, given here, times_of_present agrees' present⟩
  | requestBuffer stream | requestPicture stream | flush | setNewDispRelease
  | requestReleasePicture | returnReleasePicture nBufId bForbidUseFlag
  | setFbmBufAddress nBufId bForbidUseFlag => trivial

end States

/-- The minor stream follows the major one in a call that is made as it should be. -/
def Follows (system : SharedSystem) (op : SharedOp) : Prop := Legal system op ∧ PairSafe system op
deriving Decidable

variable {system : SharedSystem} {ops : List SharedOp}

theorem paired_run (start : ∃ pool, SharedAgrees system pool)
    (meets : StepsMeet Follows exec system ops) :
    ∃ final, runOps exec system ops = some final ∧ ∃ pool, SharedAgrees final pool := by
  have ends : ∀ state op, (∃ pool, SharedAgrees state pool) → Follows state op →
      ∃ next, exec state op = some next ∧ ∃ pool, SharedAgrees next pool := by
    rintro state op ⟨pool, agrees⟩ ⟨legal, safe⟩
    exact shared_advances agrees legal safe
  exact guarded_run_ends ends start meets

/-- The decoders return in one order for the first picture and in the other for the
second, and both renderers show the first. -/
def pairedRun : List SharedOp :=
  [.setFbmBufAddress 1 false, .setFbmBufAddress 2 false, .requestBuffer .major,
    .requestBuffer .minor, .returnBuffer .major 0 true, .returnBuffer .minor 0 true,
    .requestBuffer .major, .requestBuffer .minor, .returnBuffer .minor 1 true,
    .returnBuffer .major 1 false, .requestPicture .major, .requestPicture .minor,
    .returnPicture .minor 0, .returnPicture .major 0]

def minorReturnsLastRun : List SharedOp :=
  [.setFbmBufAddress 1 false, .requestBuffer .major, .requestBuffer .minor,
    .returnBuffer .major 0 true, .returnBuffer .minor 0 true, .requestPicture .major,
    .requestPicture .minor, .returnPicture .major 0]

end CedarC.FbmSharedHandover
