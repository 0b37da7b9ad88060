import CedarC.FbmAllocation

/-!
# When every block of a frame buffer manager is freed once

The release of a picture is decided by its pixel format, its allocation by the
layout of that format. The two agree except for the layouts whose chroma address
lies inside the luma block, and for a planar picture whose metadata is refused.
-/

namespace CedarC.FbmAllocationBalance

open AllocationLedger FbmAllocation List

def dataRelease : Pointer → List (Release Allocator)
  | none => []
  | some address => [⟨.picture, address⟩]

def metaDataRelease : Pointer → List (Release Allocator)
  | none => []
  | some address => [⟨.heap, address⟩]

/-- What `FbmFreePictureBuffer` hands to the free routines for a picture. -/
def pictureReleases (picture : VideoPicture) : List (Release Allocator) :=
  dataRelease picture.pData0 ++ metaDataRelease picture.pMetaData ++
    if picture.ePixelFormat < PIXEL_FORMAT_YUV_MB32_420 then []
    else dataRelease picture.pData1 ++ dataRelease picture.pData2 ++ dataRelease picture.pData3

/-- The releases among them that name no block of their own. -/
def strayReleases (picture : VideoPicture) : List (Release Allocator) :=
  if pictureLayout picture.ePixelFormat = .p010 then dataRelease picture.pData1 else []

theorem free_data (memory : Memory Allocator) (pointer : Pointer) :
    freeData memory pointer = { memory with freed := memory.freed ++ dataRelease pointer } := by
  cases pointer with
  | none => simp only [freeData, dataRelease, append_nil]
  | some address => rfl

theorem free_picture (memory : Memory Allocator) (picture : VideoPicture) :
    (FbmFreePictureBuffer memory 0 picture).1 =
      { memory with freed := memory.freed ++ pictureReleases picture } := by
  unfold FbmFreePictureBuffer pictureReleases
  cases given : picture.pMetaData with
  | none =>
    by_cases low : picture.ePixelFormat < PIXEL_FORMAT_YUV_MB32_420
    all_goals simp [free_data, low, metaDataRelease]
  | some address =>
    by_cases low : picture.ePixelFormat < PIXEL_FORMAT_YUV_MB32_420
    all_goals simp [free_data, low, metaDataRelease, Memory.free]

theorem free_pictures (pictures : List VideoPicture) (memory : Memory Allocator) :
    freePictures 0 memory pictures =
      { memory with freed := memory.freed ++ pictures.flatMap pictureReleases } := by
  induction pictures generalizing memory with
  | nil => simp [freePictures]
  | cons picture rest induction =>
    rw [freePictures, induction, free_picture]
    simp only [flatMap_cons, append_assoc]

section Layouts

variable {ePixelFormat : Int} {result : AllocatedPicture} {pool : Allocator}
  {layout : PictureLayout}

theorem pixel_format_of_planer (planer : pictureLayout ePixelFormat = .planer) :
    ePixelFormat < PIXEL_FORMAT_YUV_MB32_420 := by
  unfold pictureLayout at planer
  split_ifs at planer with p010 named
  unfold PIXEL_FORMAT_YUV_MB32_420
  rcases named with rfl | rfl | rfl | rfl | rfl | rfl
  all_goals decide

theorem pixel_format_of_others {ePixelFormat : Int} (other : pictureLayout ePixelFormat ≠ .planer)
    (accepted : pictureLayout ePixelFormat ≠ .incorrect) :
    ¬ ePixelFormat < PIXEL_FORMAT_YUV_MB32_420 := by
  unfold pictureLayout at other accepted
  split_ifs at other accepted with p010 planer mb32 rgba
  · rcases p010 with rfl | rfl
    all_goals decide
  · exact absurd rfl other
  · rcases mb32 with rfl | rfl | rfl
    all_goals decide
  · rcases rgba with rfl | rfl | rfl | rfl
    all_goals decide
  · exact absurd rfl accepted

def requestsPerPicture : PictureLayout → Nat
  | .p010 => 1
  | .planer | .mb32 => 2
  | .rgba => 1
  | .incorrect => 0

variable (grants : Nat → Bool)

def lostReleases (request : Nat) (layout : PictureLayout) : List (Release Allocator) :=
  if layout = .planer ∧ grants request = true ∧ grants (request + 1) = false then
    [Block.release ⟨.picture, request⟩]
  else []

structure PictureMade (memory : Memory Allocator) (ePixelFormat : Int)
    (result : AllocatedPicture) : Prop where
  accepted : pictureLayout ePixelFormat ≠ .incorrect
  granted : ∀ turn < requestsPerPicture (pictureLayout ePixelFormat),
    grants (memory.requests + turn) = true
  requests : result.memory.requests =
    memory.requests + requestsPerPicture (pictureLayout ePixelFormat)
  ledger : ∀ {owed lost stray : List (Release Allocator)}, Ledger memory owed lost stray →
    Ledger result.memory (owed ++ pictureReleases result.picture) lost
      (stray ++ strayReleases result.picture)
  strays : (strayReleases result.picture).length =
    if pictureLayout ePixelFormat = .p010 then 1 else 0

structure PictureRefused (memory : Memory Allocator) (ePixelFormat : Int)
    (result : AllocatedPicture) : Prop where
  refused : pictureLayout ePixelFormat = .incorrect ∨
    ∃ turn < requestsPerPicture (pictureLayout ePixelFormat),
      grants (memory.requests + turn) = false
  ledger : ∀ {owed lost stray : List (Release Allocator)}, Ledger memory owed lost stray →
    Ledger result.memory owed
      (lost ++ lostReleases grants memory.requests (pictureLayout ePixelFormat)) stray

def PictureOutcome (memory : Memory Allocator) (ePixelFormat : Int)
    (result : AllocatedPicture) : Prop :=
  if result.complete then PictureMade grants memory ePixelFormat result
  else PictureRefused grants memory ePixelFormat result

variable {grants}

theorem align_picture_data (picture : VideoPicture) (nAlignValue nWidth nHeight : Word) :
    ((alignPicture picture nAlignValue nWidth nHeight).1.ePixelFormat = picture.ePixelFormat ∧
      (alignPicture picture nAlignValue nWidth nHeight).1.pData2 = picture.pData2) ∧
    (alignPicture picture nAlignValue nWidth nHeight).1.pData3 = picture.pData3 ∧
      (alignPicture picture nAlignValue nWidth nHeight).1.pMetaData = picture.pMetaData := by
  unfold alignPicture
  split_ifs
  all_goals exact ⟨⟨rfl, rfl⟩, rfl, rfl⟩

theorem allocate_granted {memory : Memory Allocator} (granted : grants memory.requests = true) :
    memory.allocate grants pool =
      ({ memory with
          requests := memory.requests + 1
          allocated := memory.allocated ++ [⟨pool, memory.requests⟩] },
        some (Block.start ⟨pool, memory.requests⟩)) := by
  rw [Memory.allocate, if_pos granted]

theorem allocate_refused {memory : Memory Allocator} (refused : grants memory.requests = false) :
    memory.allocate grants pool = ({ memory with requests := memory.requests + 1 }, none) := by
  rw [Memory.allocate, if_neg (by simp [refused])]

variable {memory : Memory Allocator} {picture : VideoPicture} {nAlignValue nWidth nHeight : Word}

theorem outcome_of_made (complete : result.complete = true)
    (made : PictureMade grants memory ePixelFormat result) :
    PictureOutcome grants memory ePixelFormat result := by
  rw [PictureOutcome, if_pos complete]
  exact made

theorem outcome_of_refused (incomplete : result.complete = false)
    (refused : PictureRefused grants memory ePixelFormat result) :
    PictureOutcome grants memory ePixelFormat result := by
  rw [PictureOutcome, if_neg (by simp [incomplete])]
  exact refused

theorem first_refused (incomplete : result.complete = false)
    (same : result.memory = { memory with requests := memory.requests + 1 })
    (asks : 0 < requestsPerPicture (pictureLayout ePixelFormat))
    (answer : grants memory.requests = false) :
    PictureOutcome grants memory ePixelFormat result := by
  apply outcome_of_refused incomplete
  constructor
  · exact Or.inr ⟨0, asks, answer⟩
  · intro owed lost stray ledger
    rw [lostReleases, if_neg (by simp [answer]), append_nil, same]
    exact ledger.refuse

theorem one_granted (one : requestsPerPicture layout = 1) (answer : grants memory.requests = true) :
    ∀ turn < requestsPerPicture layout, grants (memory.requests + turn) = true := by
  intro turn below
  rw [one] at below
  rw [Nat.lt_one_iff.mp below]
  exact answer

theorem two_granted (two : requestsPerPicture layout = 2)
    (answer : grants memory.requests = true) (second : grants (memory.requests + 1) = true) :
    ∀ turn < requestsPerPicture layout, grants (memory.requests + turn) = true := by
  intro turn below
  rw [two] at below
  rcases Nat.lt_succ_iff_lt_or_eq.mp below with first | rfl
  · rw [Nat.lt_one_iff.mp first]
    exact answer
  · exact second

theorem p010_outcome (layout : pictureLayout picture.ePixelFormat = .p010)
    (bare : picture.pMetaData = none) (clear : picture.pData3 = none) :
    PictureOutcome grants memory picture.ePixelFormat
      (allocateP010 grants memory picture nAlignValue nWidth nHeight) := by
  have sizes := align_picture_data picture nAlignValue nWidth nHeight
  unfold allocateP010
  generalize alignPicture picture nAlignValue nWidth nHeight = aligned at sizes ⊢
  obtain ⟨sized, align⟩ := aligned
  dsimp only at sizes ⊢
  have high := @pixel_format_of_others picture.ePixelFormat
    (by rw [layout]; decide) (by rw [layout]; decide)
  cases answer : grants memory.requests with
  | false =>
    rw [allocate_refused answer]
    exact first_refused rfl rfl (by rw [layout]; decide) answer
  | true =>
    rw [allocate_granted answer]
    dsimp only
    apply outcome_of_made rfl
    constructor
    · rw [layout]
      decide
    · exact one_granted (by rw [layout]; rfl) answer
    · rw [layout]
      rfl
    · intro owed lost stray ledger
      simp only [pictureReleases, strayReleases, sizes.1.1, sizes.2.1, sizes.2.2, bare, clear,
        layout, if_neg high, if_pos, dataRelease, metaDataRelease, append_nil]
      rw [← append_assoc]
      exact (ledger.grant .picture).promise _
    · simp only [strayReleases, sizes.1.1, layout, if_pos, dataRelease, length_singleton]

theorem rgba_outcome (layout : pictureLayout picture.ePixelFormat = .rgba)
    (bare : picture.pMetaData = none) :
    PictureOutcome grants memory picture.ePixelFormat
      (allocateRgba grants memory picture nAlignValue) := by
  have high := @pixel_format_of_others picture.ePixelFormat
    (by rw [layout]; decide) (by rw [layout]; decide)
  unfold allocateRgba
  dsimp only
  cases answer : grants memory.requests with
  | false =>
    rw [allocate_refused answer]
    exact first_refused rfl rfl (by rw [layout]; decide) answer
  | true =>
    rw [allocate_granted answer]
    dsimp only
    apply outcome_of_made rfl
    constructor
    · rw [layout]
      decide
    · exact one_granted (by rw [layout]; rfl) answer
    · rw [layout]
      rfl
    · intro owed lost stray ledger
      have ordinary : PictureLayout.rgba ≠ .p010 := by decide
      simp only [pictureReleases, strayReleases, bare, layout, if_neg high, if_neg ordinary,
        dataRelease, metaDataRelease, append_nil]
      exact ledger.grant .picture
    · simp [strayReleases, layout]

theorem mb32_outcome (layout : pictureLayout picture.ePixelFormat = .mb32)
    (bare : picture.pMetaData = none) :
    PictureOutcome grants memory picture.ePixelFormat
      (allocateMb32 grants memory picture nWidth nHeight) := by
  have high := @pixel_format_of_others picture.ePixelFormat
    (by rw [layout]; decide) (by rw [layout]; decide)
  unfold allocateMb32
  dsimp only
  cases answer : grants memory.requests with
  | false =>
    rw [allocate_refused answer]
    exact first_refused rfl rfl (by rw [layout]; decide) answer
  | true =>
    rw [allocate_granted answer]
    dsimp only
    cases second : grants (memory.requests + 1) with
    | false =>
      rw [allocate_refused second]
      dsimp only
      apply outcome_of_refused rfl
      constructor
      · right
        rw [layout]
        exact ⟨1, Nat.one_lt_two, second⟩
      · intro owed lost stray ledger
        rw [layout, lostReleases, if_neg (by simp), append_nil]
        apply ((ledger.grant .picture).refuse).settle [Block.release ⟨.picture, memory.requests⟩]
        exact perm_append_comm
    | true =>
      rw [allocate_granted second]
      dsimp only
      apply outcome_of_made rfl
      constructor
      · rw [layout]
        decide
      · exact two_granted (by rw [layout]; rfl) answer second
      · rw [layout]
        rfl
      · intro owed lost stray ledger
        have ordinary : PictureLayout.mb32 ≠ .p010 := by decide
        simp only [pictureReleases, strayReleases, bare, layout, if_neg high, if_neg ordinary,
          dataRelease, metaDataRelease, append_nil]
        rw [← append_assoc]
        exact (ledger.grant .picture).grant .picture
      · simp [strayReleases, layout]

theorem planer_filled_data (nWidth nHeight : Word) (sized : VideoPicture)
    (pMem : Address Allocator) :
    (fillPlaner nWidth nHeight sized pMem).ePixelFormat = sized.ePixelFormat ∧
      (fillPlaner nWidth nHeight sized pMem).pData0 = some pMem := by
  unfold fillPlaner
  dsimp only
  split_ifs
  all_goals exact ⟨rfl, rfl⟩

theorem planer_outcome (layout : pictureLayout picture.ePixelFormat = .planer) :
    PictureOutcome grants memory picture.ePixelFormat
      (allocatePlaner grants memory picture nAlignValue nWidth nHeight) := by
  have low := pixel_format_of_planer layout
  have sizes := align_picture_data picture nAlignValue nWidth nHeight
  unfold allocatePlaner
  generalize alignPicture picture nAlignValue nWidth nHeight = aligned at sizes ⊢
  obtain ⟨sized, align⟩ := aligned
  dsimp only at sizes ⊢
  cases answer : grants memory.requests with
  | false =>
    rw [allocate_refused answer]
    exact first_refused rfl rfl (by rw [layout]; decide) answer
  | true =>
    rw [allocate_granted answer]
    dsimp only
    have filled := planer_filled_data nWidth nHeight sized
      (Block.start ⟨.picture, memory.requests⟩)
    generalize fillPlaner nWidth nHeight sized _ = complete at filled ⊢
    cases second : grants (memory.requests + 1) with
    | false =>
      rw [allocate_refused second]
      dsimp only
      apply outcome_of_refused rfl
      constructor
      · right
        rw [layout]
        exact ⟨1, Nat.one_lt_two, second⟩
      · intro owed lost stray ledger
        rw [layout, lostReleases, if_pos ⟨rfl, answer, second⟩]
        exact ((ledger.grant .picture).refuse).lose
    | true =>
      rw [allocate_granted second]
      dsimp only
      apply outcome_of_made rfl
      constructor
      · rw [layout]
        decide
      · exact two_granted (by rw [layout]; rfl) answer second
      · rw [layout]
        rfl
      · intro owed lost stray ledger
        have ordinary : PictureLayout.planer ≠ .p010 := by decide
        simp only [pictureReleases, strayReleases, filled.1, filled.2, sizes.1.1, layout,
          if_pos low, if_neg ordinary, dataRelease, metaDataRelease, append_nil]
        rw [← append_assoc]
        exact (ledger.grant .picture).grant .heap
      · simp [strayReleases, filled.1, sizes.1.1, layout]

/-- Every layout either owes exactly the blocks it was granted or says that it failed. -/
theorem picture_outcome (bare : picture.pMetaData = none) :
    PictureOutcome grants memory picture.ePixelFormat
      (FbmAllocatePictureBuffer grants memory picture nAlignValue nWidth nHeight) := by
  unfold FbmAllocatePictureBuffer
  dsimp only
  cases layout : pictureLayout picture.ePixelFormat with
  | p010 => exact p010_outcome layout bare rfl
  | planer => exact planer_outcome layout
  | mb32 => exact mb32_outcome layout bare
  | rgba => exact rgba_outcome layout bare
  | incorrect =>
    dsimp only
    apply outcome_of_refused rfl
    constructor
    · exact Or.inl layout
    · intro owed lost stray ledger
      rw [layout, lostReleases, if_neg (by simp), append_nil]
      exact ledger

end Layouts

section Frames

/-- The requests before number `count` are all granted. -/
def Granted (grants : Nat → Bool) (count : Nat) : Prop := ∀ request < count, grants request = true

def ownFrames (info : FbmCreateInfo) (frames : List VideoPicture) : List VideoPicture :=
  if info.bThumbnailMode = 0 then frames else frames.take 1

/-- The pictures that are allocated for the first `i` frames. -/
def picturesBefore (info : FbmCreateInfo) (i : Nat) : Nat :=
  if picturesAllocated info then
    if info.bThumbnailMode = 0 then i else min 1 i
  else 0

theorem own_frames_append (info : FbmCreateInfo) (frames : List VideoPicture)
    (picture : VideoPicture) :
    ownFrames info (frames ++ [picture]) =
      if info.bThumbnailMode = 0 ∨ frames.length = 0 then ownFrames info frames ++ [picture]
      else ownFrames info frames := by
  unfold ownFrames
  by_cases whole : info.bThumbnailMode = 0
  · rw [if_pos whole, if_pos whole, if_pos (Or.inl whole)]
  · rw [if_neg whole, if_neg whole]
    cases frames with
    | nil => simp
    | cons first rest =>
      rw [if_neg (by simp [whole])]
      rfl

theorem pictures_before_succ (info : FbmCreateInfo) (i : Nat) :
    picturesBefore info (i + 1) = picturesBefore info i +
      if picturesAllocated info ∧ (info.bThumbnailMode = 0 ∨ i = 0) then 1 else 0 := by
  unfold picturesBefore
  by_cases owned : picturesAllocated info
  · by_cases whole : info.bThumbnailMode = 0
    · simp [owned, whole]
    · simp only [owned, whole, if_true, if_false, true_and, false_or]
      split_ifs
      · omega
      · omega
  · simp [owned]

theorem describe_releases (info : FbmCreateInfo) (picture : VideoPicture) :
    pictureReleases (describeGpuPicture info picture) = pictureReleases picture ∧
      strayReleases (describeGpuPicture info picture) = strayReleases picture := by
  unfold describeGpuPicture
  split_ifs
  all_goals simp only [pictureReleases, strayReleases, and_self]

theorem new_picture_releases (info : FbmCreateInfo) (bufInfo : FbmBufInfo) (nID : Int)
    (nAlignStride : Word) :
    pictureReleases (newPicture info bufInfo nID nAlignStride) = [] ∧
      strayReleases (newPicture info bufInfo nID nAlignStride) = [] := by
  simp [pictureReleases, strayReleases, newPicture, dataRelease, metaDataRelease]

variable (grants : Nat → Bool) (info : FbmCreateInfo) (bufInfo : FbmBufInfo)
  (heap : List (Release Allocator))

/-- The loop invariant: the finished frames owe the blocks granted for them. -/
structure Along (loop : FrameLoop) : Prop where
  ledger : Ledger loop.memory
    (heap ++ (ownFrames info loop.pFrames).flatMap pictureReleases) []
    ((ownFrames info loop.pFrames).flatMap strayReleases)
  requests : loop.memory.requests = 2 + requestsPerPicture (pictureLayout info.ePixelFormat) *
      picturesBefore info loop.pFrames.length
  granted : Granted grants loop.memory.requests
  strays : ((ownFrames info loop.pFrames).flatMap strayReleases).length =
    if pictureLayout info.ePixelFormat = .p010 then picturesBefore info loop.pFrames.length else 0
  foreign : ¬ picturesAllocated info → (ownFrames info loop.pFrames).flatMap pictureReleases = []

structure BrokenAt (before after : FrameLoop) : Prop where
  frames : after.pFrames = before.pFrames
  owned : picturesAllocated info
  own : info.bThumbnailMode = 0 ∨ before.pFrames.length = 0
  refused : pictureLayout info.ePixelFormat = .incorrect ∨
    ∃ turn < requestsPerPicture (pictureLayout info.ePixelFormat),
      grants (before.memory.requests + turn) = false
  ledger : Ledger after.memory
    (heap ++ (ownFrames info before.pFrames).flatMap pictureReleases)
    (lostReleases grants before.memory.requests (pictureLayout info.ePixelFormat))
    ((ownFrames info before.pFrames).flatMap strayReleases)

variable {grants info bufInfo heap}

theorem Along.made {loop : FrameLoop} (along : Along grants info heap loop)
    (owned : picturesAllocated info) (own : info.bThumbnailMode = 0 ∨ loop.pFrames.length = 0)
    {result : AllocatedPicture}
    (made : PictureMade grants loop.memory info.ePixelFormat result) :
    Along grants info heap
      ⟨result.memory, result.nAlignValue,
        loop.pFrames ++ [describeGpuPicture info result.picture]⟩ := by
  have described := describe_releases info result.picture
  have longer := pictures_before_succ info loop.pFrames.length
  rw [if_pos ⟨owned, own⟩] at longer
  constructor
  · dsimp only
    rw [own_frames_append, if_pos own]
    simp only [flatMap_append, flatMap_cons, flatMap_nil, append_nil, described.1, described.2]
    rw [← append_assoc]
    exact made.ledger along.ledger
  · dsimp only
    rw [length_append, length_singleton, longer, made.requests, along.requests,
      Nat.mul_add, Nat.mul_one, Nat.add_assoc]
  · intro request below
    dsimp only at below
    rw [made.requests] at below
    by_cases earlier : request < loop.memory.requests
    · exact along.granted request earlier
    · have turn := made.granted (request - loop.memory.requests) (by omega)
      rwa [Nat.add_sub_cancel' (Nat.le_of_not_lt earlier)] at turn
  · dsimp only
    rw [own_frames_append, if_pos own]
    simp only [flatMap_append, flatMap_cons, flatMap_nil, append_nil,
      described.2, length_append, length_singleton]
    rw [along.strays, made.strays, longer]
    split_ifs
    · rfl
    · rfl
  · intro foreign
    exact absurd owned foreign

theorem Along.bare {loop : FrameLoop} (along : Along grants info heap loop) {picture : VideoPicture}
    (without : ¬ (picturesAllocated info ∧ (info.bThumbnailMode = 0 ∨ loop.pFrames.length = 0)))
    (nothing : (info.bThumbnailMode = 0 ∨ loop.pFrames.length = 0) →
      pictureReleases picture = [] ∧ strayReleases picture = []) :
    Along grants info heap
      ⟨loop.memory, loop.nAlignStride, loop.pFrames ++ [describeGpuPicture info picture]⟩ := by
  have described := describe_releases info picture
  have longer := pictures_before_succ info loop.pFrames.length
  rw [if_neg without, Nat.add_zero] at longer
  have own : (ownFrames info (loop.pFrames ++ [describeGpuPicture info picture])).flatMap
        pictureReleases = (ownFrames info loop.pFrames).flatMap pictureReleases ∧
      (ownFrames info (loop.pFrames ++ [describeGpuPicture info picture])).flatMap
        strayReleases = (ownFrames info loop.pFrames).flatMap strayReleases := by
    rw [own_frames_append]
    split_ifs with first
    · simp [described.1, described.2, nothing first]
    · exact ⟨rfl, rfl⟩
  constructor
  · dsimp only
    rw [own.1, own.2]
    exact along.ledger
  · dsimp only
    rw [length_append, length_singleton, longer]
    exact along.requests
  · exact along.granted
  · dsimp only
    rw [own.2, length_append, length_singleton, longer]
    exact along.strays
  · intro foreign
    rw [own.1]
    exact along.foreign foreign

theorem frame_turn {loop : FrameLoop} (along : Along grants info heap loop) :
    if (createFrame grants info bufInfo loop).2 then
      Along grants info heap (createFrame grants info bufInfo loop).1 ∧
        (createFrame grants info bufInfo loop).1.pFrames.length = loop.pFrames.length + 1
    else BrokenAt grants info heap loop (createFrame grants info bufInfo loop).1 := by
  have outcome := @picture_outcome grants loop.memory
    (newPicture info bufInfo loop.pFrames.length loop.nAlignStride) loop.nAlignStride
    info.nWidth info.nHeight rfl
  unfold createFrame
  dsimp only
  by_cases owned : picturesAllocated info
  · rw [if_pos owned]
    by_cases own : info.bThumbnailMode = 0 ∨ loop.pFrames.length = 0
    · rw [if_pos own]
      generalize FbmAllocatePictureBuffer grants loop.memory _ loop.nAlignStride
        info.nWidth info.nHeight = result at outcome ⊢
      unfold PictureOutcome at outcome
      by_cases complete : result.complete = true
      · rw [if_pos complete] at outcome ⊢
        dsimp only
        constructor
        · exact along.made owned own outcome
        · simp only [length_append, length_singleton]
      · rw [if_neg complete] at outcome ⊢
        dsimp only
        rw [if_neg Bool.false_ne_true]
        constructor
        · rfl
        · exact owned
        · exact own
        · exact outcome.refused
        · have ledger := outcome.ledger along.ledger
          rwa [nil_append] at ledger
    · rw [if_neg own]
      constructor
      · exact along.bare (fun both => own both.2) (fun other => absurd other own)
      · simp only [length_append, length_singleton]
  · rw [if_neg owned]
    constructor
    · apply along.bare (fun both => owned both.1)
      intro _
      exact new_picture_releases info bufInfo _ _
    · simp only [length_append, length_singleton]

/-- The whole loop keeps the invariant up to its end or up to the frame it breaks in. -/
theorem frames_run (remaining : Nat) {loop : FrameLoop} (along : Along grants info heap loop) :
    if (createFrames grants info bufInfo remaining loop).2 then
      Along grants info heap (createFrames grants info bufInfo remaining loop).1 ∧
        (createFrames grants info bufInfo remaining loop).1.pFrames.length =
          loop.pFrames.length + remaining
    else ∃ before, Along grants info heap before ∧
      before.pFrames.length < loop.pFrames.length + remaining ∧
      BrokenAt grants info heap before (createFrames grants info bufInfo remaining loop).1 := by
  induction remaining generalizing loop with
  | zero => exact ⟨along, rfl⟩
  | succ remaining induction =>
    have turn := @frame_turn grants info bufInfo heap loop along
    unfold createFrames
    generalize createFrame grants info bufInfo loop = result at turn ⊢
    obtain ⟨after, complete⟩ := result
    cases complete with
    | true =>
      obtain ⟨kept, length⟩ := turn
      have rest := @induction after kept
      dsimp only
      dsimp only at length
      have total : after.pFrames.length + remaining = loop.pFrames.length + (remaining + 1) := by
        omega
      rwa [total] at rest
    | false =>
      dsimp only
      rw [if_neg Bool.false_ne_true]
      exact ⟨loop, along, by omega, turn⟩

end Frames

variable (grants : Nat → Bool) (info : FbmCreateInfo) (bufInfo : FbmBufInfo)

def usesGpuBuf : Prop := info.bGpuBufValid = 1 ∧ info.nBufferType ≠ BUF_TYPE_ONLY_REFERENCE
deriving Decidable

/-- In thumbnail mode `FbmDestroy` has a first frame to look at. -/
def FirstFrameExists : Prop :=
  info.bThumbnailMode ≠ 0 → info.nFrameNum = 0 → ¬ usesGpuBuf info → ¬ Granted grants 2

def NoChromaInside : Prop :=
  picturesAllocated info → pictureLayout info.ePixelFormat = .p010 → 0 < info.nFrameNum →
    ¬ Granted grants 3

def MetaDataFollows : Prop :=
  picturesAllocated info → pictureLayout info.ePixelFormat = .planer →
    ∀ i < picturesBefore info info.nFrameNum.toNat,
      Granted grants (3 + 2 * i) → grants (3 + 2 * i) = true

def ReleasesMatch : Prop :=
  FirstFrameExists grants info ∧ NoChromaInside grants info ∧ MetaDataFollows grants info

/-- The sequence ends, and every block it was granted went back exactly once. -/
def FreesWhatItAllocated : Prop :=
  ∃ memory, createThenDestroy grants info bufInfo = some memory ∧ FreedOnce memory

variable {grants info bufInfo} {count request : Nat} {before after loop : FrameLoop}

theorem not_granted (below : request < count)
    (refused : grants request = false) : ¬ Granted grants count := by
  intro granted
  have answer := granted request below
  rw [refused] at answer
  exact Bool.false_ne_true answer

theorem Granted.fewer {less : Nat} (granted : Granted grants count)
    (fewer : less ≤ count) : Granted grants less :=
  fun request below => granted request (Nat.lt_of_lt_of_le below fewer)

theorem releases_match_of_refused (early : request < 2)
    (refused : grants request = false) : ReleasesMatch grants info := by
  refine ⟨fun _ _ _ => not_granted early refused, fun _ _ _ => ?_, fun _ _ i _ granted => ?_⟩
  · exact not_granted (by omega) refused
  · exact absurd granted (not_granted (by omega) refused)

theorem releases_match_of_negative (negative : info.nFrameNum < 0) : ReleasesMatch grants info := by
  refine ⟨fun _ none => ?_, fun _ _ positive => ?_, fun _ _ i below => ?_⟩
  · omega
  · omega
  · have zero : info.nFrameNum.toNat = 0 := Int.toNat_of_nonpos (by omega)
    rw [zero] at below
    unfold picturesBefore at below
    split_ifs at below
    · omega
    · omega

variable {heap : List (Release Allocator)}

/-- Where the loop breaks, the condition says whether its ledger is clean. -/
theorem broken_releases (along : Along grants info heap before)
    (broken : BrokenAt grants info heap before after)
    (inside : before.pFrames.length < info.nFrameNum.toNat) :
    ReleasesMatch grants info ↔
      lostReleases grants before.memory.requests (pictureLayout info.ePixelFormat) = [] ∧
        (ownFrames info before.pFrames).flatMap strayReleases = [] := by
  have positive : 0 < info.nFrameNum := by omega
  have count : picturesBefore info before.pFrames.length = before.pFrames.length := by
    rw [picturesBefore, if_pos broken.owned]
    rcases broken.own with whole | first
    · rw [if_pos whole]
    · rw [first]
      split_ifs
      · rfl
      · rfl
  have total : before.pFrames.length < picturesBefore info info.nFrameNum.toNat := by
    rw [picturesBefore, if_pos broken.owned]
    rcases broken.own with whole | first
    · rwa [if_pos whole]
    · rw [first]
      split_ifs
      · omega
      · omega
  have first : FirstFrameExists grants info := by
    intro _ zero
    omega
  have requests := along.requests
  have granted := along.granted
  have strays := along.strays
  rw [count] at requests strays
  generalize before.pFrames.length = i at requests strays total
  cases layout : pictureLayout info.ePixelFormat with
  | p010 =>
    rw [layout] at requests strays
    change before.memory.requests = 2 + 1 * i at requests
    rw [if_pos rfl] at strays
    have refused : grants (2 + i) = false := by
      rcases broken.refused with incorrect | ⟨turn, below, refused⟩
      · rw [layout] at incorrect
        cases incorrect
      · rw [layout] at below
        rw [Nat.lt_one_iff.mp below, requests, Nat.one_mul] at refused
        exact refused
    have lost : lostReleases grants before.memory.requests .p010 = [] := by
      rw [lostReleases, if_neg (by simp)]
    have metadata : MetaDataFollows grants info := by
      intro _ planer
      rw [layout] at planer
      cases planer
    constructor
    · intro holds
      refine ⟨lost, eq_nil_of_length_eq_zero ?_⟩
      rw [strays]
      by_contra some_made
      apply holds.2.1 broken.owned layout positive
      exact granted.fewer (by omega)
    · rintro ⟨_, clean⟩
      rw [clean, length_nil] at strays
      subst strays
      exact ⟨first, fun _ _ _ => not_granted (by omega) refused, metadata⟩
  | planer =>
    rw [layout] at requests strays
    change before.memory.requests = 2 + 2 * i at requests
    rw [if_neg (by decide)] at strays
    have clean := eq_nil_of_length_eq_zero strays
    have chroma : NoChromaInside grants info := by
      intro _ p010
      rw [layout] at p010
      cases p010
    have refused : grants (2 + 2 * i) = false ∨ grants (3 + 2 * i) = false := by
      rcases broken.refused with incorrect | ⟨turn, below, refused⟩
      · rw [layout] at incorrect
        cases incorrect
      · rw [layout] at below
        change turn < 2 at below
        rw [requests] at refused
        rcases Nat.lt_succ_iff_lt_or_eq.mp below with zero | rfl
        · left
          rw [Nat.lt_one_iff.mp zero] at refused
          exact refused
        · right
          rwa [Nat.add_right_comm] at refused
    have second : 2 + 2 * i + 1 = 3 + 2 * i := by omega
    rw [lostReleases, requests, second]
    constructor
    · intro holds
      refine ⟨?_, clean⟩
      rw [if_neg]
      rintro ⟨_, picture, metadata⟩
      have answer := holds.2.2 broken.owned layout i total (by
        intro request below
        by_cases last : request = 2 + 2 * i
        · rw [last]
          exact picture
        · exact granted request (by omega))
      rw [metadata] at answer
      exact Bool.false_ne_true answer
    · rintro ⟨kept, _⟩
      have unpaired : ¬ (grants (2 + 2 * i) = true ∧ grants (3 + 2 * i) = false) := by
        intro pair
        rw [if_pos ⟨rfl, pair⟩] at kept
        exact absurd kept (cons_ne_nil _ _)
      refine ⟨first, chroma, fun _ _ later _ asked => ?_⟩
      by_contra answer
      have answer := Bool.eq_false_iff.mpr answer
      rcases Nat.lt_trichotomy later i with earlier | same | further
      · have given := granted (3 + 2 * later) (by omega)
        rw [answer] at given
        exact Bool.false_ne_true given
      · rw [same] at answer asked
        exact unpaired ⟨asked (2 + 2 * i) (by omega), answer⟩
      · rcases refused with picture | metadata
        · exact not_granted (by omega) picture asked
        · exact not_granted (by omega) metadata asked
  | mb32 | rgba | incorrect =>
    rw [layout, if_neg (by decide)] at strays
    have clean := eq_nil_of_length_eq_zero strays
    simp [ReleasesMatch, first, NoChromaInside, MetaDataFollows, layout, lostReleases, clean]

/-- Where the loop is finished, the condition says whether any picture was a stray. -/
theorem complete_releases (along : Along grants info heap loop)
    (length : loop.pFrames.length = info.nFrameNum.toNat) (first : FirstFrameExists grants info) :
    ReleasesMatch grants info ↔ (ownFrames info loop.pFrames).flatMap strayReleases = [] := by
  have requests := along.requests
  have granted := along.granted
  have strays := along.strays
  rw [length] at requests strays
  have none_made : picturesBefore info info.nFrameNum.toNat = 0 ↔
      ¬ (picturesAllocated info ∧ 0 < info.nFrameNum) := by
    unfold picturesBefore
    split_ifs with owned whole
    · simp [owned]
    · simp only [owned, true_and]
      omega
    · simp [owned]
  by_cases p010 : pictureLayout info.ePixelFormat = .p010
  · rw [p010] at requests
    change loop.memory.requests = 2 + 1 * _ at requests
    rw [if_pos p010] at strays
    constructor
    · intro holds
      apply eq_nil_of_length_eq_zero
      rw [strays, none_made]
      rintro ⟨owned, positive⟩
      apply holds.2.1 owned p010 positive
      have count : picturesBefore info info.nFrameNum.toNat ≠ 0 :=
        fun zero => none_made.mp zero ⟨owned, positive⟩
      exact granted.fewer (by omega)
    · intro clean
      rw [clean, length_nil] at strays
      refine ⟨first, fun owned _ positive => ?_, fun _ planer => ?_⟩
      · exact absurd ⟨owned, positive⟩ (none_made.mp strays.symm)
      · rw [p010] at planer
        cases planer
  · rw [if_neg p010] at strays
    refine iff_of_true ⟨first, fun _ same => absurd same p010, fun _ planer i below _ => ?_⟩
      (eq_nil_of_length_eq_zero strays)
    rw [planer] at requests
    change loop.memory.requests = 2 + 2 * _ at requests
    exact granted (3 + 2 * i) (by omega)

/-- The first two requests are for the manager and for its frame nodes. -/
abbrev managerBlock : Block Allocator := ⟨.heap, 0⟩

abbrev nodesBlock : Block Allocator := ⟨.heap, 1⟩

abbrev heapReleases : List (Release Allocator) := [managerBlock.release, nodesBlock.release]

/-- After the pictures the nodes and the manager go back, and the ledger is closed. -/
theorem closed_ledger {memory : Memory Allocator} {releases lost stray : List (Release Allocator)}
    (ledger : Ledger memory
      (heapReleases ++ releases) lost stray) :
    Ledger
      ((({ memory with freed := memory.freed ++ releases } : Memory Allocator).free .heap
        nodesBlock.start).free .heap managerBlock.start) [] lost stray := by
  have order : (heapReleases ++ releases).Perm
      (releases ++ [nodesBlock.release, managerBlock.release] ++ []) := by
    rw [append_nil]
    apply perm_append_comm.trans
    exact (List.Perm.swap _ _ _).append_left releases
  have settled := ledger.settle _ order
  unfold Memory.free
  simp only [append_assoc, cons_append, nil_append]
  exact settled

/-- Every turn of a finished or broken creation, from the two heap blocks on. -/
theorem start_along (asked : Granted grants 2) (nAlignStride : Word) :
    Along grants info heapReleases
      ⟨⟨1 + 1, [managerBlock] ++ [nodesBlock], []⟩, nAlignStride, []⟩ := by
  have nothing : ownFrames info [] = [] := by
    unfold ownFrames
    split_ifs
    · rfl
    · rfl
  have none_before : picturesBefore info 0 = 0 := by
    unfold picturesBefore
    split_ifs
    · rfl
    · rfl
    · rfl
  constructor
  · have self := unused_ledger.grant Allocator.heap
    have nodes := self.grant Allocator.heap
    simp only [nothing, flatMap_nil, append_nil]
    exact nodes
  · simp [none_before]
  · exact asked
  · simp [nothing, none_before]
  · intro _
    rw [nothing]
    rfl

theorem broken_freed_iff (along : Along grants info heapReleases before)
    (broken : BrokenAt grants info heapReleases
      before after) (inside : before.pFrames.length < info.nFrameNum.toNat) :
    FreedOnce (((freePictures 0 after.memory after.pFrames).free .heap
        nodesBlock.start).free .heap managerBlock.start) ↔
      ReleasesMatch grants info := by
  have all : ownFrames info before.pFrames = before.pFrames := by
    unfold ownFrames
    rcases broken.own with whole | first
    · rw [if_pos whole]
    · rw [eq_nil_of_length_eq_zero first]
      split_ifs
      · rfl
      · rfl
  have closed := closed_ledger broken.ledger
  rw [all] at closed
  have matched := broken_releases along broken inside
  rw [all] at matched
  rw [free_pictures, broken.frames, matched]
  apply closed.balanced_iff
  -- a lost block belongs to a planar picture, a stray release to the other layout
  by_cases planer : pictureLayout info.ePixelFormat = .planer
  · right
    have strays := along.strays
    rw [planer, if_neg (by decide), all] at strays
    exact eq_nil_of_length_eq_zero strays
  · left
    rw [lostReleases, if_neg (fun lost => planer lost.1)]

/-- A finished manager gives back what its frames own, if it has the frame it looks at. -/
theorem complete_freed_iff (along : Along grants info heapReleases loop)
    (length : loop.pFrames.length = info.nFrameNum.toNat) (counted : 0 ≤ info.nFrameNum)
    (asked : Granted grants 2) (nEmptyBufferNum : Int) :
    (∃ memory, FbmDestroy loop.memory
        { self := managerBlock.start
          nMaxFrameNum := info.nFrameNum
          nEmptyBufferNum := nEmptyBufferNum
          bThumbnailMode := info.bThumbnailMode
          pFrameNodes := nodesBlock.start
          pFrames := loop.pFrames
          bUseGpuBuf := if usesGpuBuf info then 1 else 0
          nAlignValue := loop.nAlignStride } = some memory ∧ FreedOnce memory) ↔
      ReleasesMatch grants info := by
  have closed := closed_ledger along.ledger
  have balance := closed.balanced_iff (Or.inl rfl)
  simp only [true_and] at balance
  unfold FbmDestroy
  dsimp only
  by_cases gpu : usesGpuBuf info
  · have foreign : ¬ picturesAllocated info := by
      rintro (without | reference)
      · have valid := gpu.1
        omega
      · exact gpu.2 reference
    have first : FirstFrameExists grants info := fun _ _ other => absurd gpu other
    rw [complete_releases along length first, ← balance, along.foreign foreign]
    simp [gpu]
  · rw [if_neg gpu, if_pos rfl]
    by_cases whole : info.bThumbnailMode = 0
    · have first : FirstFrameExists grants info := fun thumbnail => absurd whole thumbnail
      have all : ownFrames info loop.pFrames = loop.pFrames := by rw [ownFrames, if_pos whole]
      rw [complete_releases along length first, ← balance, all]
      simp [whole, free_pictures]
    · rw [if_pos whole]
      cases frames : loop.pFrames with
      | nil =>
        apply iff_of_false
        · rintro ⟨memory, ended, _⟩
          cases ended
        · intro holds
          rw [frames, length_nil] at length
          exact holds.1 whole (by omega) gpu asked
      | cons picture rest =>
        have first : FirstFrameExists grants info := by
          intro _ zero
          rw [frames, zero] at length
          cases length
        have own : ownFrames info loop.pFrames = [picture] := by
          rw [ownFrames, if_neg whole, frames]
          rfl
        rw [complete_releases along length first, ← balance, own]
        simp [free_pictures]

/-- Creating and destroying a manager frees every block once exactly when the
releases match the layout: no thumbnail manager without frames, no picture whose
chroma address is inside its luma block, no planar picture that lost its metadata. -/
theorem frees_what_it_allocated_iff (grants : Nat → Bool) (info : FbmCreateInfo)
    (bufInfo : FbmBufInfo) :
    FreesWhatItAllocated grants info bufInfo ↔ ReleasesMatch grants info := by
  unfold FreesWhatItAllocated createThenDestroy FbmCreateBuffer
  cases first : grants 0 with
  | false =>
    have answer : (Memory.unused.allocate grants Allocator.heap) = (⟨1, [], []⟩, none) :=
      allocate_refused first
    rw [answer]
    refine iff_of_true ⟨⟨1, [], []⟩, rfl, ?_⟩ (releases_match_of_refused Nat.two_pos first)
    decide
  | true =>
    have answer : (Memory.unused.allocate grants Allocator.heap) =
        (⟨1, [managerBlock], []⟩, some managerBlock.start) := allocate_granted first
    rw [answer]
    dsimp only
    unfold allocateFrameNodes
    by_cases negative : info.nFrameNum < 0
    · rw [if_pos negative]
      refine iff_of_true ⟨_, rfl, ?_⟩ (releases_match_of_negative negative)
      decide
    · rw [if_neg negative]
      cases second : grants 1 with
      | false =>
        rw [allocate_refused second]
        refine iff_of_true ⟨_, rfl, ?_⟩ (releases_match_of_refused Nat.one_lt_two second)
        decide
      | true =>
        rw [allocate_granted second]
        dsimp only
        have asked : Granted grants 2 := by
          intro request below
          rcases Nat.lt_succ_iff_lt_or_eq.mp below with zero | rfl
          · rw [Nat.lt_one_iff.mp zero]
            exact first
          · exact second
        have along := @start_along grants info asked info.nAlignStride
        have ended := @frames_run grants info bufInfo _ info.nFrameNum.toNat _ along
        generalize createFrames grants info bufInfo info.nFrameNum.toNat _ = result at ended ⊢
        obtain ⟨loop, complete⟩ := result
        cases complete with
        | true =>
          obtain ⟨finished, length⟩ := ended
          rw [length_nil, Nat.zero_add] at length
          exact complete_freed_iff finished length (by omega) asked _
        | false =>
          rw [if_neg Bool.false_ne_true] at ended
          obtain ⟨before, kept, inside, broken⟩ := ended
          rw [length_nil, Nat.zero_add] at inside
          rw [← broken_freed_iff kept broken inside]
          simp

/-- One P010 frame whose chroma address is freed, one NV12 frame whose metadata is
refused, and a thumbnail manager without frames. -/
theorem releases_differ : ¬ FreesWhatItAllocated (fun _ => true)
        ⟨1, 64, 64, PIXEL_FORMAT_P010_UV, 0, 0, 16, 0, 1⟩ ⟨0⟩ ∧
      ¬ FreesWhatItAllocated (fun request => decide (request < 3))
        ⟨1, 64, 64, PIXEL_FORMAT_NV12, 0, 0, 16, 0, 0⟩ ⟨0⟩ ∧
      ¬ FreesWhatItAllocated (fun _ => true)
        ⟨0, 64, 64, PIXEL_FORMAT_NV12, 1, 0, 16, 0, 0⟩ ⟨0⟩ := by
  unfold FreesWhatItAllocated
  refine ⟨?_, ?_, ?_⟩
  · rintro ⟨memory, ended, once⟩
    have observed : (createThenDestroy (fun _ => true)
        ⟨1, 64, 64, PIXEL_FORMAT_P010_UV, 0, 0, 16, 0, 1⟩ ⟨0⟩).all
          (fun memory => decide (FreedOnce memory)) = false := by decide
    rw [ended, Option.all_some, decide_eq_true once] at observed
    cases observed
  · rintro ⟨memory, ended, once⟩
    have observed : (createThenDestroy (fun request => decide (request < 3))
        ⟨1, 64, 64, PIXEL_FORMAT_NV12, 0, 0, 16, 0, 0⟩ ⟨0⟩).all
          (fun memory => decide (FreedOnce memory)) = false := by decide
    rw [ended, Option.all_some, decide_eq_true once] at observed
    cases observed
  · rintro ⟨memory, ended, once⟩
    have observed : createThenDestroy (fun _ => true)
        ⟨0, 64, 64, PIXEL_FORMAT_NV12, 1, 0, 16, 0, 0⟩ ⟨0⟩ = none := by decide
    rw [observed] at ended
    cases ended

end CedarC.FbmAllocationBalance
