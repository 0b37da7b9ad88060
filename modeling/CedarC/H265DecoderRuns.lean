import CedarC.GuardedRuns
import CedarC.H265DecodeFrame

/-!
# Runs of the H265 decoder

The steps from which `H265DecoderDecode` and `HevcResetDecoder` are made. Frames are
taken NAL by NAL, and a result that ends a frame leaves the others of its NALs out;
between frames the order is left open, so that every sequence of frames, repeated
frames, outputs and resets is a run.
-/

namespace CedarC.H265DecoderRuns

open GuardedRuns
open CedarC.H265PicOrder (HEVC_IS_IDR)
open H265Dpb H265DecodeFrame

inductive DecoderOp
  | outputFrame (bFlush : Bool)
  | requestFrame (nFrameDuration nPts : Int)
  | startFrame
  | skipNalu
  | nalu (nalu : Nalu) (env : NaluEnv)
  | finishFrame (bCtuMissing : Bool)
  | setDropFrame (bDropFrameAdaptiveEnable : Bool)
  | reset

/-- The decoder and whether `HevcDecDecodeOneFrame` runs. -/
structure DecoderRun where
  dec : Decoder
  inFrame : Bool

def DecoderRun.start (secOutputEnabled bDisplayErrorFrameFlag : Bool) : DecoderRun :=
  ⟨Decoder.start secOutputEnabled bDisplayErrorFrameFlag, false⟩

/-- The steps inside `HevcDecDecodeOneFrame`. -/
def DecoderOp.insideFrame : DecoderOp → Bool
  | .skipNalu | .nalu _ _ | .finishFrame _ => true
  | _ => false

def decoderStep (dec : Decoder) : DecoderOp → Decoder
  | .outputFrame bFlush => { dec with dpb := (HevcOutputFrame dec.dpb bFlush).1 }
  | .requestFrame nFrameDuration nPts => requestFrame nFrameDuration nPts dec
  | .startFrame => startFrame dec
  | .skipNalu => HevcDecoderDeleteOnePtsFromList dec
  | .nalu nalu env => (decodeNalu dec nalu env).1
  | .finishFrame bCtuMissing => finishFrame dec bCtuMissing
  | .setDropFrame bDropFrameAdaptiveEnable =>
    { dec with
      dpb := { dec.dpb with bDropFrameAdaptiveEnable := bDropFrameAdaptiveEnable } }
  | .reset => HevcResetDecoder dec

/-- The loop over the NALs goes on after errors of single NALs only. -/
def goesOn : HevcDecodeFrameResult → Bool
  | .HEVC_RESULT_OK | .HEVC_RESULT_NULA_DATA_ERROR => true
  | _ => false

def inFrameAfter (dec : Decoder) : DecoderOp → Bool
  | .startFrame | .skipNalu => true
  | .nalu nalu env => goesOn (decodeNalu dec nalu env).2
  | _ => false

def decoderExec (run : DecoderRun) (op : DecoderOp) : Option DecoderRun :=
  if op.insideFrame = run.inFrame then
    some ⟨decoderStep run.dec op, inFrameAfter run.dec op⟩
  else none

theorem step_of_exec {run next : DecoderRun} {op : DecoderOp}
    (step : decoderExec run op = some next) :
    op.insideFrame = run.inFrame ∧ next = ⟨decoderStep run.dec op, inFrameAfter run.dec op⟩ := by
  unfold decoderExec at step
  by_cases allowed : op.insideFrame = run.inFrame
  · rw [if_pos allowed] at step
    exact ⟨allowed, (Option.some.inj step).symm⟩
  · rw [if_neg allowed] at step
    cases step

/-- The state in which a slice is decoded: an IDR picture has started its list of counts,
and the search for a key frame may have ended. -/
def sliceDecoder (dec : Decoder) (slice : SliceSegment) : Decoder :=
  let dec :=
    if (Nalu.slice slice).keyFrame = some true then { dec with bFindKeyFrameOnly := false }
    else dec
  if HEVC_IS_IDR slice.eNaluType then { dec with dpb := clearPocList dec.dpb } else dec

theorem decode_nalu_slice (dec : Decoder) (slice : SliceSegment) (env : NaluEnv) :
    decodeNalu dec (.slice slice) env = decodeSlice (sliceDecoder dec slice) slice env := rfl

/-- The state in which `HevcSetNewRef` runs for a slice, if it does. -/
def newRefState (dec : Decoder) (slice : SliceSegment) : Option HevcContex :=
  match prepareHeader (sliceDecoder dec slice) slice with
  | (_, some _) => none
  | (dec, none) =>
    if slice.bFirstSliceInPicFlag then
      match HevcConstuctFrameRps (checkSqueuePoc dec.dpb) with
      | (dpb, .HEVC_RESULT_OK) => some dpb
      | _ => none
    else none

theorem nalus_are_a_run (bSkipNonKeyFrame : Bool) (dec : Decoder) (nalus : List (Nalu × NaluEnv)) :
    ∃ ops, (∀ op ∈ ops, op.insideFrame) ∧ runOps decoderExec ⟨dec, true⟩ ops =
      some ⟨(decodeNalus bSkipNonKeyFrame dec nalus).1,
        (decodeNalus bSkipNonKeyFrame dec nalus).2.isNone⟩ := by
  induction nalus generalizing dec with
  | nil => exact ⟨[], List.forall_mem_nil _, rfl⟩
  | cons entry rest ih =>
    obtain ⟨nalu, env⟩ := entry
    rw [decodeNalus]
    by_cases skipped : nalu.keyFrame = some false ∧ bSkipNonKeyFrame
    · rw [if_pos skipped]
      obtain ⟨ops, inside, run⟩ := ih (HevcDecoderDeleteOnePtsFromList dec)
      exact ⟨.skipNalu :: ops, List.forall_mem_cons.mpr ⟨rfl, inside⟩, run⟩
    · have step : decoderExec ⟨dec, true⟩ (.nalu nalu env) =
          some ⟨(decodeNalu dec nalu env).1, goesOn (decodeNalu dec nalu env).2⟩ := rfl
      obtain ⟨ops, inside, run⟩ := ih (decodeNalu dec nalu env).1
      rw [if_neg skipped]
      generalize decodeNalu dec nalu env = decoded at step run ⊢
      obtain ⟨next, result⟩ := decoded
      cases result with
      | HEVC_RESULT_OK | HEVC_RESULT_NULA_DATA_ERROR =>
        exact ⟨_ :: ops, List.forall_mem_cons.mpr ⟨rfl, inside⟩,
          (run_cons decoderExec _ _ _ ops).mpr ⟨_, step, run⟩⟩
      | HEVC_RESULT_NO_FRAME_BUFFER | HEVC_RESULT_PICTURES_SIZE_CHANGE
      | HEVC_RESULT_RESET_INTRA_DECODER | HEVC_RESULT_DROP_THE_FRAME
      | HEVC_RESULT_INIT_FBM_FAILED =>
        exact ⟨[_], List.forall_mem_singleton.mpr rfl,
          (run_cons decoderExec _ _ _ []).mpr ⟨_, step, rfl⟩⟩

end CedarC.H265DecoderRuns
