import CedarC.H264Stream

/-!
# Ownership of the stream frames

A frame of the H.264 detector has one NAL at most. Where every valid frame that
the decoder gets has its NAL, the frame goes back once, in whichever of the ten
places it does, before the next request and before the end of `Destroy`, no part
of a call looks through the null pointer or behind the last NAL, and a decoded
picture is always found at the last NAL. A valid frame without a NAL, which the
detector makes after it gave up a begun frame, is read behind its end.
-/

namespace CedarC.H264Stream

open GuardedRuns LoanRecord SbmFrameModel Option
open CedarC.SbmFrameDetect (Outcome)
open SbmFrameNalus
open CedarC.SbmFrameRuns (SbmOp SbmSystem Legal)

/-- Every frame but the one in hand went back once, before the next request, and
only the newest goes back; the current NAL is one of the frame's. -/
structure FrameOwned (hCtx : H264Context) : Prop where
  accounted : Accounted hCtx.vbv (hCtx.pCurStreamFrame.map StreamFrame.number)
  ahead : ∀ frame ∈ hCtx.pCurStreamFrame, hCtx.nCurNaluIdx < frame.pFramePic.nCurNaluIdx

def BothContexts (holds : H264Context → Prop) (h264Dec : H264Dec) : Prop :=
  holds h264Dec.pHContext ∧ ∀ hCtx ∈ h264Dec.pMinorHContext, holds hCtx

/-- The frames are owned between calls and within one, `Destroy` leaves none in
hand, and nothing happens that must not. -/
def StreamOwned : System → Prop
  | .alive h264Dec => BothContexts FrameOwned h264Dec
  | .pending h264Dec => BothContexts FrameOwned h264Dec
  | .destroyed h264Dec =>
    BothContexts FrameOwned h264Dec ∧ BothContexts (fun hCtx => hCtx.pCurStreamFrame = none) h264Dec
  | .failed _ => False

def Answer.Filled : Answer → Prop
  | .pStream frame => frame.pFramePic.bValidFlag = true → frame.pFramePic.pNaluInfoList ≠ []
  | .nothing _ => True

instance : ∀ answer : Answer, Decidable answer.Filled
  | .pStream frame => inferInstanceAs (Decidable (frame.pFramePic.bValidFlag = true →
      frame.pFramePic.pNaluInfoList ≠ []))
  | .nothing _ => isTrue trivial

def FramesFilled : System → DecoderCall → Prop
  | _, .decode input => ∀ answer ∈ input.answers, answer.Filled
  | _, .reset | _, .destroy => True

instance (system : System) : ∀ call : DecoderCall, Decidable (FramesFilled system call)
  | .decode input => inferInstanceAs (Decidable (∀ answer ∈ input.answers, answer.Filled))
  | .reset | .destroy => isTrue trivial

section Context

variable {hCtx : H264Context}

/-- The record is in order, and the frame in hand has its one NAL ahead. -/
structure ContextKept (hCtx : H264Context) : Prop where
  record : OneAtATime hCtx.vbv (hCtx.pCurStreamFrame.map StreamFrame.number)
  single : ∀ frame ∈ hCtx.pCurStreamFrame, frame.pFramePic.nCurNaluIdx = 1 ∧ hCtx.nCurNaluIdx = 0

theorem ContextKept.owned (kept : ContextKept hCtx) : FrameOwned hCtx := by
  constructor
  · exact kept.record.accounted
  · intro frame held
    have single := kept.single frame held
    omega

theorem ContextKept.of_same {next : H264Context} (kept : ContextKept hCtx)
    (vbv : next.vbv = hCtx.vbv) (frame : next.pCurStreamFrame = hCtx.pCurStreamFrame)
    (index : next.nCurNaluIdx = hCtx.nCurNaluIdx) : ContextKept next := by
  constructor
  · rw [vbv, frame]
    exact kept.record
  · rw [frame, index]
    exact kept.single

theorem kept_of_settled (record : OneAtATime hCtx.vbv none)
    (nothing : hCtx.pCurStreamFrame = none) : ContextKept hCtx := by
  constructor
  · rw [nothing]
    exact record
  · intro frame held
    rw [nothing] at held
    cases held

@[simp] theorem give_back_frame_none (how : GiveBack) :
    (hCtx.giveBackFrame how).pCurStreamFrame = none := by
  unfold H264Context.giveBackFrame
  split
  · assumption
  · rfl

theorem give_back_settled (how : GiveBack)
    (record : OneAtATime hCtx.vbv (hCtx.pCurStreamFrame.map StreamFrame.number)) :
    OneAtATime (hCtx.giveBackFrame how).vbv none := by
  unfold H264Context.giveBackFrame
  split
  · rename_i nothing
    rw [nothing] at record
    exact record
  · rename_i frame held
    rw [held] at record
    exact record.give_back how

theorem give_back_kept (how : GiveBack)
    (record : OneAtATime hCtx.vbv (hCtx.pCurStreamFrame.map StreamFrame.number)) :
    ContextKept (hCtx.giveBackFrame how) :=
  kept_of_settled (give_back_settled how record) (give_back_frame_none how)

theorem reset_params_kept (how : GiveBack) (kept : ContextKept hCtx) :
    ContextKept (h264ResetDecoderParams (hCtx.giveBackFrame how)) :=
  kept_of_settled (give_back_settled how kept.record) rfl

theorem start_kept (bDecExtraDataFlag bIsAvc : Bool) :
    ContextKept (.start bDecExtraDataFlag bIsAvc) :=
  kept_of_settled one_at_a_time_nil rfl

theorem handed_over_single {frame : AvcFramePic} (filled : (Answer.pStream frame).Filled)
    (valid : frame.pFramePic.bValidFlag = true) : frame.pFramePic.nCurNaluIdx = 1 := by
  obtain ⟨system, ⟨avc⟩, slot, -, same⟩ := frame.handedOver
  have atMost := avc_frame_nalus avc slot
  rw [same] at atMost
  have some_nalu := List.length_pos_iff.mpr (filled valid)
  unfold FramePicInfo.nCurNaluIdx at atMost ⊢
  omega

/-- What a request leaves; with `VDECODE_RESULT_OK` there is a frame. -/
def RequestedKept : Requested → Prop
  | .waits hCtx => ContextKept hCtx
  | .done hCtx ret answers => ContextKept hCtx ∧ (∀ answer ∈ answers, answer.Filled) ∧
      (ret = .VDECODE_RESULT_OK → hCtx.pCurStreamFrame ≠ none)

theorem request_kept (bEndOfStream : Bool) {answers : List Answer} (kept : ContextKept hCtx)
    (filled : ∀ answer ∈ answers, answer.Filled) :
    RequestedKept (h264RequestOneFrameStream bEndOfStream answers hCtx) := by
  induction answers generalizing hCtx with
  | nil => exact give_back_kept _ kept.record
  | cons answer answers ih =>
    have settled := give_back_settled .SbmFlushStream kept.record
    have nothing : (hCtx.giveBackFrame .SbmFlushStream).pCurStreamFrame = none :=
      give_back_frame_none _
    have others : ∀ answer ∈ answers, answer.Filled := fun other member =>
      filled other (List.mem_cons_of_mem _ member)
    cases answer with
    | nothing nValidSize =>
      refine ⟨kept_of_settled settled nothing, others, ?_⟩
      intro never
      split at never <;> cases never
    | pStream frame =>
      have lent := settled.lend
      unfold h264RequestOneFrameStream
      split
      · exact ih (kept_of_settled (lent.give_back _) nothing) others
      · rename_i notInvalid
        split
        · refine ⟨kept_of_settled (lent.give_back _) nothing, others, ?_⟩
          intro never
          cases never
        · refine ⟨⟨lent, ?_⟩, others, fun _ => some_ne_none _⟩
          intro held isFrame
          obtain rfl := mem_some_iff.mp isFrame
          have valid : frame.pFramePic.bValidFlag = true := by simpa using notInvalid
          exact ⟨handed_over_single (filled _ List.mem_cons_self) valid, rfl⟩

theorem stream_frame_kept (bEndOfStream : Bool) {answers : List Answer} (kept : ContextKept hCtx)
    (filled : ∀ answer ∈ answers, answer.Filled) :
    RequestedKept (streamFrame hCtx bEndOfStream answers) := by
  unfold streamFrame
  split
  · exact request_kept bEndOfStream kept filled
  · rename_i held
    refine ⟨kept, filled, ?_⟩
    intro _ nothing
    simp [nothing] at held

end Context

section Flows

def FlowKept : Flow → Prop
  | .again hCtx answers => ContextKept hCtx ∧ ∀ answer ∈ answers, answer.Filled
  | .returns hCtx _ => ContextKept hCtx
  | .breaks hCtx _ => ContextKept hCtx
  | .pending hCtx => ContextKept hCtx
  | .failed _ => False

variable {hCtx : H264Context} {answers : List Answer} {next : H264Context → List Answer → Flow}

theorem and_then_kept {flow : Flow} (kept : FlowKept flow)
    (goesOn : ∀ hCtx answers, ContextKept hCtx → (∀ answer ∈ answers, answer.Filled) →
      FlowKept (next hCtx answers)) : FlowKept (flow.andThen next) := by
  cases flow with
  | again hCtx answers => exact goesOn hCtx answers kept.1 kept.2
  | returns hCtx ret | breaks hCtx ret | pending hCtx | failed failure => exact kept

theorem request_then_kept (bEndOfStream : Bool)
    (kept : ContextKept hCtx) (filled : ∀ answer ∈ answers, answer.Filled)
    (goesOn : ∀ hCtx answers, ContextKept hCtx → (∀ answer ∈ answers, answer.Filled) →
      hCtx.pCurStreamFrame ≠ none → FlowKept (next hCtx answers)) :
    FlowKept (requestThen answers bEndOfStream hCtx next) := by
  have requested := stream_frame_kept bEndOfStream kept filled
  unfold requestThen
  generalize streamFrame hCtx bEndOfStream answers = request at requested
  cases request with
  | waits hCtx => exact requested
  | done hCtx ret answers =>
    dsimp only
    split
    · exact requested.1
    · rename_i ok
      exact goesOn hCtx answers requested.1 requested.2.1 (requested.2.2 (not_not.mp ok))

/-- The results that a NAL gives back without its frame. -/
def ReturnsAtOnce (ret : VResult) : Prop :=
  ret = .VDECODE_RESULT_UNSUPPORTED ∨ ret = .VDECODE_RESULT_RESOLUTION_CHANGE ∨
    ret = .VDECODE_RESULT_CONTINUE

theorem process_nalu_kept (kept : ContextKept hCtx) (outcome : NaluOutcome) :
    ContextKept (h264ProcessNaluUnit hCtx outcome).1 ∧
      ((h264ProcessNaluUnit hCtx outcome).1 = hCtx ∨
        ReturnsAtOnce (h264ProcessNaluUnit hCtx outcome).2) := by
  cases outcome with
  | other ret => exact ⟨kept, .inl rfl⟩
  | sps outcome =>
    cases outcome with
    | result ret => exact ⟨kept, .inl rfl⟩
    | otherSize =>
      refine ⟨give_back_kept _ kept.record, .inr ?_⟩
      change ReturnsAtOnce (if hCtx.bIsAvc then _ else _)
      split
      · exact .inl rfl
      · exact .inr (.inl rfl)
  | slice outcome =>
    cases outcome with
    | result ret => exact ⟨kept, .inl rfl⟩
    | framesMissing => exact ⟨reset_params_kept _ kept, .inr (.inr (.inr rfl))⟩

theorem returns_at_once (ret : VResult) (atOnce : ReturnsAtOnce ret) :
    afterNalu answers hCtx ret = .returns hCtx ret := by
  rcases atOnce with rfl | rfl | rfl <;> rfl

/-- With the frame in hand every result is handled, and a picture is complete at
the only NAL of the frame. -/
theorem after_nalu_kept (kept : ContextKept hCtx) (filled : ∀ answer ∈ answers, answer.Filled)
    (held : hCtx.pCurStreamFrame ≠ none) (ret : VResult) :
    FlowKept (afterNalu answers hCtx ret) := by
  obtain ⟨frame, isFrame⟩ := ne_none_iff_exists'.mp held
  have single := kept.single frame isFrame
  have givenBack : ∀ (how : GiveBack) (nDecStep : DecStep),
      ContextKept { hCtx.giveBackFrame how with nDecStep := nDecStep } := fun how nDecStep =>
    (give_back_kept how kept.record).of_same rfl rfl rfl
  unfold afterNalu
  split
  · rw [isFrame]
    dsimp only
    split
    · rename_i elsewhere
      rw [single.1, single.2] at elsewhere
      exact absurd rfl elsewhere
    · exact givenBack _ _
  split
  · split
    · exact givenBack _ _
    split
    · exact kept.of_same rfl rfl rfl
    split
    · exact kept.of_same rfl rfl rfl
    · exact kept
  split
  · exact givenBack _ _
  · rw [isFrame]
    dsimp only
    split
    · refine ⟨give_back_kept _ ?_, filled⟩
      rw [← isFrame]
      exact kept.record
    · rename_i more
      rw [single.1, single.2] at more
      exact absurd rfl more

theorem decode_nalu_kept (kept : ContextKept hCtx) (filled : ∀ answer ∈ answers, answer.Filled)
    (held : hCtx.pCurStreamFrame ≠ none) (outcome : NaluOutcome) :
    FlowKept (decodeNalu answers hCtx outcome) := by
  obtain ⟨frame, isFrame⟩ := ne_none_iff_exists'.mp held
  have single := kept.single frame isFrame
  have inside : ¬ frame.pFramePic.nCurNaluIdx ≤ hCtx.nCurNaluIdx := by omega
  unfold decodeNalu
  rw [isFrame]
  dsimp only
  rw [if_neg inside]
  obtain ⟨processed, same | atOnce⟩ := process_nalu_kept kept outcome
  · rw [same]
    exact after_nalu_kept kept filled held _
  · rw [returns_at_once _ atOnce]
    exact processed

theorem decode_one_frame_kept (bEndOfStream : Bool) (outcomes : List NaluOutcome)
    (kept : ContextKept hCtx) (filled : ∀ answer ∈ answers, answer.Filled) :
    FlowKept (decodeOneFrame bEndOfStream outcomes hCtx answers) := by
  induction outcomes generalizing hCtx answers with
  | nil =>
    apply request_then_kept bEndOfStream kept filled
    intro hCtx answers kept _ _
    exact kept
  | cons outcome outcomes ih =>
    apply request_then_kept bEndOfStream kept filled
    intro hCtx answers kept filled held
    apply and_then_kept (decode_nalu_kept kept filled held outcome)
    intro hCtx answers kept filled
    exact ih kept filled

end Flows

section Calls

variable {hCtx : H264Context} {h264Dec : H264Dec}

theorem extra_data_kept (outcomes : List SpsOutcome) (kept : ContextKept hCtx) :
    ContextKept (h264ProcessExtraData2 outcomes hCtx).1 := by
  induction outcomes generalizing hCtx with
  | nil => exact kept
  | cons outcome outcomes ih =>
    have parsed := (process_nalu_kept kept (.sps outcome)).1
    unfold h264ProcessExtraData2
    dsimp only
    split
    · exact parsed
    · exact ih parsed

variable {input : DecodeInput}

theorem config_vbv_kept (kept : ContextKept hCtx)
    (filled : ∀ answer ∈ input.answers, answer.Filled) : FlowKept (configVbv input hCtx) := by
  have extra := @extra_data_kept { hCtx with bIsAvc := input.bExtraIsAvc } input.extraData
    (kept.of_same rfl rfl rfl)
  unfold configVbv
  split
  · split
    rename_i hCtx ret parsed
    have parsedKept : ContextKept hCtx := by
      split at parsed
      · rw [parsed] at extra
        exact extra
      · obtain ⟨rfl, -⟩ := Prod.mk.inj parsed
        exact kept
    split
    · exact parsedKept
    · exact ⟨parsedKept.of_same rfl rfl rfl, filled⟩
  · exact ⟨kept, filled⟩

theorem update_data_kept (input : DecodeInput) {answers : List Answer} (kept : ContextKept hCtx)
    (filled : ∀ answer ∈ answers, answer.Filled) : FlowKept (updateData input hCtx answers) := by
  unfold updateData
  split
  · split
    · exact kept
    · have cleared : ContextKept { hCtx with bNeedCheckFbmNum := false } :=
        kept.of_same rfl rfl rfl
      apply request_then_kept _ cleared filled
      intro hCtx answers kept filled _
      exact ⟨kept.of_same rfl rfl rfl, filled⟩
  · exact ⟨kept, filled⟩

theorem decode_steps_kept (kept : ContextKept hCtx)
    (filled : ∀ answer ∈ input.answers, answer.Filled) : FlowKept (decodeSteps input hCtx) := by
  have before := and_then_kept (config_vbv_kept kept filled) fun hCtx answers kept filled =>
    update_data_kept input kept filled
  apply and_then_kept before
  intro hCtx answers kept filled
  split
  · exact decode_one_frame_kept _ _ kept filled
  · exact kept

theorem context_kept (kept : BothContexts ContextKept h264Dec)
    (current : h264Dec.context = some hCtx) : ContextKept hCtx := by
  unfold H264Dec.context at current
  split at current
  · obtain rfl := Option.some.inj current
    exact kept.1
  · exact kept.2 hCtx current

theorem set_context_kept (kept : BothContexts ContextKept h264Dec) (context : ContextKept hCtx) :
    BothContexts ContextKept (h264Dec.setContext hCtx) := by
  unfold H264Dec.setContext
  split
  · exact ⟨context, kept.2⟩
  · refine ⟨kept.1, ?_⟩
    intro other isOther
    obtain rfl := mem_some_iff.mp isOther
    exact context

theorem error_frame_kept (bIs3DStream : Bool) (picture : DecodedPicture) (kept : ContextKept hCtx) :
    ContextKept (h264ProcessErrorFrame bIs3DStream picture hCtx).1 := by
  unfold h264ProcessErrorFrame
  split
  · split
    · exact kept
    split
    · exact reset_params_kept _ kept
    · exact kept
  · exact kept

theorem process_result_kept (kept : BothContexts ContextKept h264Dec) (context : ContextKept hCtx)
    (picture : DecodedPicture) (ret : VResult) :
    BothContexts ContextKept (processDecodeResult h264Dec picture hCtx ret).1 := by
  have damaged := error_frame_kept h264Dec.bIs3DStream picture context
  unfold processDecodeResult
  split
  · dsimp only
    split
    · exact set_context_kept kept (context.of_same rfl rfl rfl)
    split
    · exact set_context_kept kept (context.of_same rfl rfl rfl)
    · split
      · exact set_context_kept kept damaged
      · exact set_context_kept kept (damaged.of_same rfl rfl rfl)
  · exact set_context_kept kept context

def CallEndKept : CallEnd → Prop
  | .returned h264Dec _ => BothContexts ContextKept h264Dec
  | .pending h264Dec => BothContexts ContextKept h264Dec
  | .failed _ => False

theorem decode_call_kept (kept : BothContexts ContextKept h264Dec)
    (filled : ∀ answer ∈ input.answers, answer.Filled) :
    CallEndKept (h264DecoderDecodeSbmFrame input h264Dec) := by
  unfold h264DecoderDecodeSbmFrame
  split
  · exact kept
  · rename_i hCtx current
    have steps := decode_steps_kept (context_kept kept current) filled
    generalize decodeSteps input hCtx = flow at steps
    cases flow with
    | again hCtx answers => exact set_context_kept kept steps.1
    | returns hCtx ret | pending hCtx => exact set_context_kept kept steps
    | breaks hCtx ret => exact process_result_kept kept steps input.picture ret
    | failed failure => exact steps

end Calls

def SystemKept : System → Prop
  | .alive h264Dec => BothContexts ContextKept h264Dec
  | .pending h264Dec => BothContexts ContextKept h264Dec
  | .destroyed h264Dec =>
    BothContexts ContextKept h264Dec ∧
      BothContexts (fun hCtx => hCtx.pCurStreamFrame = none) h264Dec
  | .failed _ => False

theorem both_owned {h264Dec : H264Dec} (kept : BothContexts ContextKept h264Dec) :
    BothContexts FrameOwned h264Dec :=
  ⟨kept.1.owned, fun hCtx isMinor => (kept.2 hCtx isMinor).owned⟩

theorem system_owned {system : System} (kept : SystemKept system) : StreamOwned system := by
  cases system with
  | alive h264Dec | pending h264Dec => exact both_owned kept
  | destroyed h264Dec => exact ⟨both_owned kept.1, kept.2⟩
  | failed failure => exact kept

theorem start_decoder_kept (bIs3DStream bDispErrorFrame bThumbnailMode bDecExtraDataFlag
    bIsAvc : Bool) : SystemKept (.alive (.start bIs3DStream bDispErrorFrame bThumbnailMode
      bDecExtraDataFlag bIsAvc)) := by
  refine ⟨start_kept _ _, ?_⟩
  intro hCtx isMinor
  change hCtx ∈ (if bIs3DStream then _ else _) at isMinor
  split at isMinor
  · obtain rfl := mem_some_iff.mp isMinor
    exact start_kept _ _
  · cases isMinor

theorem both_map {holds : H264Context → Prop} {h264Dec : H264Dec}
    {change : H264Context → H264Context} (kept : BothContexts ContextKept h264Dec)
    (changed : ∀ hCtx, ContextKept hCtx → holds (change hCtx)) :
    holds (change h264Dec.pHContext) ∧ ∀ hCtx ∈ h264Dec.pMinorHContext.map change, holds hCtx := by
  refine ⟨changed _ kept.1, ?_⟩
  intro hCtx isMinor
  obtain ⟨minor, here, rfl⟩ := map_eq_some_iff.mp isMinor
  exact changed minor (kept.2 minor here)

theorem exec_kept (system : System) (call : DecoderCall) (next : System) (kept : SystemKept system)
    (filled : FramesFilled system call) (step : exec system call = some next) :
    SystemKept next := by
  cases system with
  | alive h264Dec =>
    cases call with
    | decode input =>
      have ended := decode_call_kept kept filled
      obtain rfl := Option.some.inj step
      generalize h264DecoderDecodeSbmFrame input h264Dec = callEnd at ended
      cases callEnd with
      | returned h264Dec ret | pending h264Dec | failed failure => exact ended
    | reset =>
      obtain rfl := Option.some.inj step
      exact both_map kept fun hCtx context => reset_params_kept _ context
    | destroy =>
      obtain rfl := Option.some.inj step
      constructor
      · exact both_map kept fun hCtx context => give_back_kept _ context.record
      · exact @both_map (fun hCtx => hCtx.pCurStreamFrame = none) h264Dec
          (fun hCtx => hCtx.giveBackFrame .SbmFlushStream) kept fun _ _ =>
            give_back_frame_none _
  | pending h264Dec | destroyed h264Dec | failed failure => cases step

/-- In every run in which no valid frame is without a NAL, the frames are owned
in every state reached, and no call fails. -/
theorem stream_frames_owned (bIs3DStream bDispErrorFrame bThumbnailMode bDecExtraDataFlag
    bIsAvc : Bool) (calls : List DecoderCall) (final : System)
    (filled : StepsMeet FramesFilled exec (.alive (.start bIs3DStream bDispErrorFrame
      bThumbnailMode bDecExtraDataFlag bIsAvc)) calls)
    (run : runOps exec (.alive (.start bIs3DStream bDispErrorFrame bThumbnailMode
      bDecExtraDataFlag bIsAvc)) calls = some final) :
    StreamOwned final :=
  system_owned (guarded_run_invariant exec_kept (start_decoder_kept _ _ _ _ _) filled run)

theorem handed_over_of_run {pSbm : SbmFrame} {nSbmBufferTotalSize pSbmBuf : Int}
    {nNaluLength : Nat} {bytes : Int → UInt8} {pFramePic : FramePicInfo}
    (limit : nSbmBufferTotalSize ≤ SbmFrameRuns.RING_LIMIT) (prefixBytes : nNaluLength ≤ 4)
    (init : sbmFrameInit nSbmBufferTotalSize nNaluLength pSbmBuf bytes = some pSbm)
    (ops : List SbmOp) (legal : StepsMeet Legal (SbmFrameRuns.exec .avc) (.start pSbm) ops)
    (ready : ((runOps (SbmFrameRuns.exec .avc) (.start pSbm) ops).bind fun system =>
      (sbmFrameRequestFramePic system.pSbm).2.map system.pSbm.curFrame) = some pFramePic) :
    HandedOver pFramePic := by
  obtain ⟨system, run, frame⟩ := bind_eq_some_iff.mp ready
  obtain ⟨slot, requested, here⟩ := map_eq_some_iff.mp frame
  exact ⟨system, ⟨_, pSbmBuf, _, bytes, limit, prefixBytes, pSbm, init, ops, legal, run⟩, slot,
    requested, here⟩

/-- Two chunks with one NAL each; the second ends the frame of the first. -/
def plainOps : List SbmOp :=
  let content : Int → UInt8 := fun address =>
    [0, 0, 0, 1, 0x65, 0, 0, 0, 1, 0x65][address.toNat - 1]!
  [.write content, .addStream ⟨1, 5, 7, 0, 0, 0⟩, .addStream ⟨6, 5, 8, 0, 0, 0⟩, .detect, .detect,
   .detect]

def plainFrame : AvcFramePic :=
  { pFramePic := ⟨[⟨5, 1, 5, 1⟩], 5, some 1, 7, -1, true, 5, 0, 0⟩
    handedOver :=
      @handed_over_of_run _ 64 1 4 (fun _ => 0) _ (by decide) (by decide) rfl plainOps
        (by decide) (by decide +kernel) }

/-- A frame is decoded, the next one is kept for want of a buffer, `Reset` and
`Destroy` follow. -/
def plainCalls : List DecoderCall :=
  let input : DecodeInput :=
    { bEndOfStream := false
      noEmptyBuffer := false
      bExtraIsAvc := false
      extraData := []
      answers := [.pStream plainFrame]
      outcomes := [.slice (.result .VDECODE_RESULT_FRAME_DECODED)]
      picture := ⟨false, false, true, true⟩ }
  [.decode input,
   .decode { input with outcomes := [.slice (.result .VDECODE_RESULT_NO_FRAME_BUFFER)] },
   .reset, .decode input, .destroy]

theorem plain_calls_owned :
    ∃ final, runOps exec (.alive (.start false false false false false)) plainCalls = some final ∧
      StreamOwned final := by
  have ends : (runOps exec (.alive (.start false false false false false)) plainCalls).isSome =
      true := by
    decide
  obtain ⟨final, run⟩ := isSome_iff_exists.mp ends
  exact ⟨final, run, stream_frames_owned false false false false false plainCalls final
    (by decide) run⟩

/-- A chunk with one NAL, a chunk of more than 1 MB with a wrong prefix, and a
chunk with one NAL. -/
def givenUpOps : List SbmOp :=
  let content : Int → UInt8 := fun address =>
    if address < 10 then [0, 0, 0, 1, 0x65, 0x7f, 0, 0, 0][address.toNat - 1]!
    else [0, 0, 0, 1, 0x65][address.toNat - 1048583]!
  [.write content, .addStream ⟨1, 5, 7, 0, 0, 0⟩, .addStream ⟨6, 1048577, 8, 0, 0, 0⟩,
   .addStream ⟨1048583, 5, 9, 0, 0, 0⟩, .detect, .detect, .detect, .detect]

def givenUpFrame : AvcFramePic :=
  { pFramePic := ⟨[⟨5, 1, 5, 1⟩], 1048582, some 1, -1, -1, false, 5, 0, 0⟩
    handedOver :=
      @handed_over_of_run _ 2097152 1 4 (fun _ => 0) _ (by decide) (by decide) rfl givenUpOps
        (by decide) (by decide +kernel) }

/-- The frame behind the one given up is valid and has no NAL. -/
def emptyFrame : AvcFramePic :=
  { pFramePic := ⟨[], 0, some 1048583, -1, -1, true, 0, 0, 0⟩
    handedOver :=
      @handed_over_of_run _ 2097152 1 4 (fun _ => 0) _ (by decide) (by decide) rfl
        (givenUpOps ++ [.requestFramePic, .flushFramePic 0]) (by decide)
        (by decide) }

def emptyFrameInput : DecodeInput :=
  { bEndOfStream := false
    noEmptyBuffer := false
    bExtraIsAvc := false
    extraData := []
    answers := [.pStream givenUpFrame, .pStream emptyFrame]
    outcomes := [.other .VDECODE_RESULT_OK]
    picture := ⟨false, false, true, true⟩ }

/-- The decoder reads the first NAL of a frame that has none. -/
theorem empty_frame_read_past_its_end :
    ∃ final, runOps exec (.alive (.start false false false false false))
        [.decode emptyFrameInput] = some final ∧
      ¬ StreamOwned final := by
  have read : runOps exec (.alive (.start false false false false false))
      [.decode emptyFrameInput] = some (.failed .naluPastList) := rfl
  exact ⟨_, read, fun owned => owned⟩

end CedarC.H264Stream
