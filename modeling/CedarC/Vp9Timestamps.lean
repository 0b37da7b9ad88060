import Mathlib.Algebra.Order.Ring.Int
import Mathlib.Data.List.Chain

/-!
# The time stamps of VP9 pictures

A chunk hands its time stamp over when it is requested. Each of its pictures, hidden or shown,
gets one when the hardware has decoded it, and the next picture is compared with that.
-/

namespace CedarC.Vp9Timestamps

open List

section Model

def u64 (value : Int) : Int := value % 2 ^ 64

def s64 (value : Int) : Int := (value + 2 ^ 63) % 2 ^ 64 - 2 ^ 63

structure Vp9HwDecode where
  CurFramePts : Int
  PreFramePts : Int

/-- After `Vp9HwInitDecode` or `Vp9HwResetDecodeParams`. -/
def Vp9HwDecode.init : Vp9HwDecode := ⟨0, 0⟩

def Vp9RequestBitstreamData (dec : Vp9HwDecode) (nPts : Int) : Vp9HwDecode :=
  { dec with CurFramePts := u64 nPts }

variable (nFrameRate : Int)

/-- What is added to the time stamp before; the quotient of integers is that of C. -/
def duration : Int := if nFrameRate ≠ 0 then Int.tdiv 1000 nFrameRate * 1000 else 33333

/-- The time stamp of the picture is `s64` of `CurFramePts`. -/
def VP9CongigureDisplayParameters (dec : Vp9HwDecode) : Vp9HwDecode :=
  let CurFramePts :=
    if dec.CurFramePts ≤ 0 ∨ dec.CurFramePts ≤ dec.PreFramePts then
      u64 (dec.PreFramePts + duration nFrameRate)
    else dec.CurFramePts
  ⟨CurFramePts, u64 (s64 CurFramePts)⟩

def nPts (dec : Vp9HwDecode) : Int := s64 (VP9CongigureDisplayParameters nFrameRate dec).CurFramePts

inductive Op
  | chunk (nPts : Int)
  | picture (shown : Bool)

/-- The decoder in front of each picture of a run, and whether the picture is shown. -/
def pictures : Vp9HwDecode → List Op → List (Vp9HwDecode × Bool)
  | _, [] => []
  | dec, .chunk nPts :: ops => pictures (Vp9RequestBitstreamData dec nPts) ops
  | dec, .picture shown :: ops =>
    (dec, shown) :: pictures (VP9CongigureDisplayParameters nFrameRate dec) ops

/-- A chunk with the hidden frames in front of the shown one. -/
structure Chunk where
  nPts : Int
  hidden : Nat

def Chunk.ops (chunk : Chunk) : List Op :=
  .chunk chunk.nPts :: (.replicate chunk.hidden (.picture false) ++ [.picture true])

def picturePts (dec : Vp9HwDecode) (ops : List Op) : List Int :=
  (pictures nFrameRate dec ops).map fun picture => nPts nFrameRate picture.1

def shownPts (dec : Vp9HwDecode) (ops : List Op) : List Int :=
  ((pictures nFrameRate dec ops).filter (·.2)).map fun picture => nPts nFrameRate picture.1

/-- The time stamp that the picture gets is above the one before: where it is made from that, the
duration is positive and the sum is no overflow (or a negative one wraps), and where it is that
of the chunk it is not negative behind one that is not. -/
def Advances (dec : Vp9HwDecode) : Prop :=
  if dec.CurFramePts ≤ 0 ∨ dec.CurFramePts ≤ dec.PreFramePts then
    0 < duration nFrameRate ∧ s64 dec.PreFramePts + duration nFrameRate < 2 ^ 63 ∨
      s64 dec.PreFramePts + duration nFrameRate < -2 ^ 63
  else 0 ≤ s64 dec.CurFramePts ∨ s64 dec.PreFramePts < 0
deriving Decidable

end Model

section Durations

variable {nFrameRate : Int}

theorem duration_small (nFrameRate : Int) :
    -1000000 ≤ duration nFrameRate ∧ duration nFrameRate ≤ 1000000 := by
  unfold duration
  have bound := Int.natAbs_tdiv_le_natAbs 1000 nFrameRate
  split_ifs <;> omega

structure InRange (dec : Vp9HwDecode) : Prop where
  cur : 0 ≤ dec.CurFramePts ∧ dec.CurFramePts < 2 ^ 64
  pre : 0 ≤ dec.PreFramePts ∧ dec.PreFramePts < 2 ^ 64

theorem u64_range (value : Int) : 0 ≤ u64 value ∧ u64 value < 2 ^ 64 := by
  unfold u64
  omega

theorem u64_s64 (value : Int) : u64 (s64 value) = u64 value := by
  unfold u64 s64
  omega

theorem configured_range {dec : Vp9HwDecode} (range : InRange dec) :
    InRange (VP9CongigureDisplayParameters nFrameRate dec) := by
  refine ⟨?_, u64_range _⟩
  unfold VP9CongigureDisplayParameters
  dsimp only
  split_ifs
  · exact u64_range _
  · exact range.cur

theorem configured_pre (dec : Vp9HwDecode) :
    s64 (VP9CongigureDisplayParameters nFrameRate dec).PreFramePts = nPts nFrameRate dec := by
  unfold nPts VP9CongigureDisplayParameters
  dsimp only
  rw [u64_s64]
  unfold s64 u64
  omega

theorem advances_iff {dec : Vp9HwDecode} (range : InRange dec) :
    s64 dec.PreFramePts < nPts nFrameRate dec ↔ Advances nFrameRate dec := by
  have small := duration_small nFrameRate
  have cur := range.cur
  have pre := range.pre
  unfold nPts Advances VP9CongigureDisplayParameters
  dsimp only
  split_ifs with behind
  · unfold s64 u64
    omega
  · unfold s64
    omega

/-- A picture advances where its time stamp is above that of the picture before. -/
theorem advances_after (ops : List Op) {dec : Vp9HwDecode} (range : InRange dec) :
    (s64 dec.PreFramePts :: picturePts nFrameRate dec ops).IsChain (· < ·) ↔
      ∀ picture ∈ pictures nFrameRate dec ops, Advances nFrameRate picture.1 := by
  induction ops generalizing dec with
  | nil => simp [picturePts, pictures]
  | cons op rest later =>
    cases op with
    | chunk pts => exact @later (Vp9RequestBitstreamData dec pts) ⟨u64_range pts, range.pre⟩
    | picture shown =>
      have next := later (@configured_range nFrameRate _ range)
      rw [configured_pre] at next
      unfold picturePts at next ⊢
      rw [pictures, map_cons, isChain_cons_cons, forall_mem_cons, advances_iff range]
      exact and_congr_right fun _ => next

theorem increase_iff (ops : List Op) {dec : Vp9HwDecode} (range : InRange dec) :
    (picturePts nFrameRate dec ops).IsChain (· < ·) ↔
      ∀ picture ∈ (pictures nFrameRate dec ops).tail, Advances nFrameRate picture.1 := by
  induction ops generalizing dec with
  | nil => simp [picturePts, pictures]
  | cons op rest later =>
    cases op with
    | chunk pts => exact @later (Vp9RequestBitstreamData dec pts) ⟨u64_range pts, range.pre⟩
    | picture shown =>
      have next := @advances_after nFrameRate rest _ (@configured_range nFrameRate _ range)
      rw [configured_pre] at next
      exact next

theorem repeated_picture (value : Int) :
    VP9CongigureDisplayParameters nFrameRate ⟨u64 value, u64 value⟩ =
      ⟨u64 (value + duration nFrameRate), u64 (value + duration nFrameRate)⟩ := by
  have sum : u64 (u64 value + duration nFrameRate) = u64 (value + duration nFrameRate) :=
    Int.emod_add_emod _ _ _
  unfold VP9CongigureDisplayParameters
  dsimp only
  rw [if_pos (.inr (Int.le_refl _)), u64_s64, sum]
  congr 1
  exact Int.emod_emod_of_dvd _ (Int.dvd_refl _)

theorem hidden_pictures (value : Int) (hidden : Nat) (ops : List Op) :
    shownPts nFrameRate ⟨u64 value, u64 value⟩ (.replicate hidden (.picture false) ++ ops) =
      shownPts nFrameRate ⟨u64 (value + hidden * duration nFrameRate),
        u64 (value + hidden * duration nFrameRate)⟩ ops := by
  induction hidden generalizing value with
  | zero => simp
  | succ hidden later =>
    have next := later (value + duration nFrameRate)
    have sum : value + duration nFrameRate + hidden * duration nFrameRate =
        value + (hidden + 1 : Nat) * duration nFrameRate := by
      rw [Int.natCast_succ, Int.add_mul, Int.one_mul]
      omega
    rw [sum, ← repeated_picture] at next
    rw [replicate_succ, cons_append, ← next]
    rfl

theorem shown_chunk {dec : Vp9HwDecode} (chunk : Chunk) (ops : List Op)
    (positive : 0 < chunk.nPts) (representable : chunk.nPts < 2 ^ 63)
    (above : dec.PreFramePts < chunk.nPts) :
    let last := u64 (chunk.nPts + chunk.hidden * duration nFrameRate)
    shownPts nFrameRate dec (chunk.ops ++ ops) =
      s64 last :: shownPts nFrameRate ⟨last, last⟩ ops := by
  intro last
  have own : u64 chunk.nPts = chunk.nPts := Int.emod_eq_of_lt (by omega) (by omega)
  -- the first picture takes the time stamp of the chunk
  have first : VP9CongigureDisplayParameters nFrameRate (Vp9RequestBitstreamData dec chunk.nPts) =
      ⟨u64 chunk.nPts, u64 chunk.nPts⟩ := by
    unfold VP9CongigureDisplayParameters Vp9RequestBitstreamData
    dsimp only
    rw [own, if_neg (by omega), u64_s64, own]
  have shown : ∀ dec next, VP9CongigureDisplayParameters nFrameRate dec = next →
      shownPts nFrameRate dec (.picture true :: ops) =
        s64 next.CurFramePts :: shownPts nFrameRate next ops := by
    rintro dec _ rfl
    rfl
  unfold Chunk.ops
  rw [cons_append, append_assoc, singleton_append]
  change shownPts nFrameRate (Vp9RequestBitstreamData dec chunk.nPts) _ = _
  cases count : chunk.hidden with
  | zero =>
    have same : last = u64 chunk.nPts := by simp [last, count]
    rw [replicate_zero, nil_append, shown _ _ first, same]
  | succ hidden =>
    have rest := @hidden_pictures nFrameRate chunk.nPts hidden (.picture true :: ops)
    have sum : chunk.nPts + hidden * duration nFrameRate + duration nFrameRate =
        chunk.nPts + (hidden + 1 : Nat) * duration nFrameRate := by
      rw [Int.natCast_succ, Int.add_mul, Int.one_mul]
      omega
    rw [shown _ _ (repeated_picture _), sum, ← first, ← count] at rest
    rw [replicate_succ, cons_append]
    exact rest

/-- Chunks whose time stamps are positive and rise. -/
structure Rising (chunks : List Chunk) : Prop where
  positive : ∀ chunk ∈ chunks, 0 < chunk.nPts ∧ chunk.nPts < 2 ^ 63
  above : chunks.Pairwise fun earlier later => earlier.nPts < later.nPts

theorem shown_right_iff (chunks : List Chunk) {dec : Vp9HwDecode} (rising : Rising chunks)
    (above : ∀ chunk ∈ chunks, dec.PreFramePts < chunk.nPts) :
    shownPts nFrameRate dec (chunks.flatMap Chunk.ops) = chunks.map (·.nPts) ↔
      ∀ chunk ∈ chunks, u64 (chunk.hidden * duration nFrameRate) = 0 := by
  induction chunks generalizing dec with
  | nil => simp [shownPts, pictures]
  | cons chunk rest later =>
    obtain ⟨positive, representable⟩ := rising.positive chunk mem_cons_self
    obtain ⟨before, ordered⟩ := pairwise_cons.mp rising.above
    rw [flatMap_cons, map_cons, forall_mem_cons,
      shown_chunk chunk _ positive representable (above chunk mem_cons_self), List.cons.injEq]
    have own : s64 (u64 (chunk.nPts + chunk.hidden * duration nFrameRate)) = chunk.nPts ↔
        u64 (chunk.hidden * duration nFrameRate) = 0 := by
      unfold s64 u64
      omega
    rw [own]
    refine and_congr_right fun right => ?_
    have kept : u64 (chunk.nPts + chunk.hidden * duration nFrameRate) = chunk.nPts := by
      unfold u64 at right ⊢
      omega
    rw [kept]
    exact later ⟨fun chunk member => rising.positive chunk (mem_cons_of_mem _ member),
      ordered⟩ before

end Durations

/-- The shown picture of each chunk of a rising sequence has the time stamp of its chunk, and
the time stamps of the pictures rise for any sequence of chunks and pictures. -/
structure TimestampsRight (nFrameRate : Int) (chunks : List Chunk) (ops : List Op) : Prop where
  shown : Rising chunks → shownPts nFrameRate .init (chunks.flatMap Chunk.ops) = chunks.map (·.nPts)
  rise : (picturePts nFrameRate .init ops).IsChain (· < ·)

theorem timestamps_right_iff (nFrameRate : Int) (chunks : List Chunk) (ops : List Op) :
    TimestampsRight nFrameRate chunks ops ↔
      (Rising chunks → ∀ chunk ∈ chunks, u64 (chunk.hidden * duration nFrameRate) = 0) ∧
        ∀ picture ∈ (pictures nFrameRate .init ops).tail, Advances nFrameRate picture.1 := by
  have start : InRange .init := ⟨by decide, by decide⟩
  have shown := fun rising : Rising chunks => @shown_right_iff nFrameRate chunks .init rising
    fun chunk member => (rising.positive chunk member).1
  constructor
  · rintro ⟨right, rise⟩
    exact ⟨fun rising => (shown rising).mp (right rising), (increase_iff ops start).mp rise⟩
  · rintro ⟨right, rise⟩
    exact ⟨fun rising => (shown rising).mpr (right rising), (increase_iff ops start).mpr rise⟩

/-- A hidden picture takes the time stamp of its chunk, a chunk without one comes first as
-1, and from a thousand frames a second on nothing is added. -/
theorem time_stamps_wrong : shownPts 25 .init (Chunk.ops ⟨40000, 1⟩) = [80000] ∧
      picturePts 25 .init [.chunk 40000, .picture true, .chunk (-1), .picture true] = [40000, -1] ∧
      picturePts 29970 .init [.chunk 40000, .picture true, .chunk 40000, .picture true] =
        [40000, 40000] := by
  decide

end CedarC.Vp9Timestamps
