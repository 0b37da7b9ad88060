import CedarC.LoanRecord
import CedarC.SbmFrameNalus

/-!
# Stream frames of the H.264 decoder

A transcription of what `h264.c`, `h264_dec.c` and `h264_nalu.c` do with the
frame pictures of the stream manager: `H264DecoderDecodeSbmFrame` with the
request, the NAL loop and the work on a decoded picture, `H264DecoderRest` and
`Destroy`, for a decoder with one stream or two. What a NAL turns out to be,
what the picture buffers have and what the other threads have ready are inputs
of a call. A call whose inputs end before it returns is pending. The manager is
of the type `SBM_TYPE_FRAME_AVC`, as `vdecoder.c` sets it up for H.264; its
frames are those that its detector can deliver.
-/

namespace CedarC.H264Stream

open LoanRecord SbmFrameModel SbmFrameNalus SbmFrameRuns

inductive VResult
  | VDECODE_RESULT_UNSUPPORTED
  | VDECODE_RESULT_OK
  | VDECODE_RESULT_FRAME_DECODED
  | VDECODE_RESULT_CONTINUE
  | VDECODE_RESULT_KEYFRAME_DECODED
  | VDECODE_RESULT_NO_FRAME_BUFFER
  | VDECODE_RESULT_NO_BITSTREAM
  | VDECODE_RESULT_RESOLUTION_CHANGE
  | VRESULT_DEC_FRAME_ERROR
  | VRESULT_ERR_FAIL
  | VRESULT_DROP_B_FRAME
  | VRESULT_REDECODE_STREAM_DATA
deriving DecidableEq

inductive DecStep
  | H264_STEP_CONFIG_VBV
  | H264_STEP_UPDATE_DATA
  | H264_STEP_DECODE_ONE_FRAME
  | H264_STEP_PROCESS_DECODE_RESULT
deriving DecidableEq

/-- The manager can answer a request with this frame picture. -/
def HandedOver (pFramePic : FramePicInfo) : Prop :=
  ∃ system : SbmSystem, Nonempty (AvcRun system) ∧
    ∃ slot, (sbmFrameRequestFramePic system.pSbm).2 = some slot ∧
      system.pSbm.curFrame slot = pFramePic

structure AvcFramePic where
  pFramePic : FramePicInfo
  handedOver : HandedOver pFramePic

/-- What `SbmRequestStream` answers; without a frame, what `SbmStreamDataSize` says. -/
inductive Answer
  | pStream (frame : AvcFramePic)
  | nothing (nValidSize : Int)

inductive GiveBack
  | SbmFlushStream
  | SbmReturnStream
deriving DecidableEq

/-- A frame picture that the decoder holds, with the number of its request. -/
structure StreamFrame where
  number : Nat
  pFramePic : FramePicInfo

/-- The fields around the stream; `vbv` is the record of the calls to the manager. -/
structure H264Context where
  vbv : List (Entry Nat GiveBack)
  pCurStreamFrame : Option StreamFrame
  nCurNaluIdx : Nat
  nDecStep : DecStep
  bDecExtraDataFlag : Bool
  bNeedCheckFbmNum : Bool
  bIsAvc : Bool

structure H264Dec where
  pHContext : H264Context
  pMinorHContext : Option H264Context
  nDecStreamIndex : Nat
  bIs3DStream : Bool
  bDispErrorFrame : Bool
  bThumbnailMode : Bool

/-- What must not happen: an access through the null frame, an access to a NAL
behind the last one, and `abort()`. -/
inductive Failure
  | nullFrame
  | naluPastList
  | abort
deriving DecidableEq

section Frames

variable (hCtx : H264Context)

/-- The frame, if there is one, goes back and the pointer becomes null. -/
def H264Context.giveBackFrame (how : GiveBack) : H264Context :=
  match hCtx.pCurStreamFrame with
  | none => hCtx
  | some frame =>
    { hCtx with
      vbv := hCtx.vbv ++ [.givenBack how frame.number]
      pCurStreamFrame := none }

def h264ResetDecoderParams : H264Context :=
  { hCtx with nDecStep := .H264_STEP_CONFIG_VBV, pCurStreamFrame := none }

inductive Requested
  | waits (hCtx : H264Context)
  | done (hCtx : H264Context) (ret : VResult) (answers : List Answer)

/-- `H264RequestOneFrameStream`; the answers behind those it took are handed on. -/
def h264RequestOneFrameStream (bEndOfStream : Bool) : List Answer → H264Context → Requested
  | [], hCtx => .waits (hCtx.giveBackFrame .SbmFlushStream)
  | .nothing nValidSize :: answers, hCtx =>
    .done (hCtx.giveBackFrame .SbmFlushStream)
      (if bEndOfStream ∧ nValidSize ≠ 0 then .VDECODE_RESULT_CONTINUE
        else .VDECODE_RESULT_NO_BITSTREAM)
      answers
  | .pStream frame :: answers, hCtx =>
    let hCtx := hCtx.giveBackFrame .SbmFlushStream
    let number := nextNumber hCtx.vbv
    let lent := hCtx.vbv ++ [.lent number]
    if frame.pFramePic.bValidFlag = false then
      h264RequestOneFrameStream bEndOfStream answers
        { hCtx with vbv := lent ++ [.givenBack .SbmFlushStream number] }
    else if frame.pFramePic.bVideoInfoFlag = 1 then
      .done { hCtx with vbv := lent ++ [.givenBack .SbmReturnStream number] }
        .VDECODE_RESULT_RESOLUTION_CHANGE answers
    else
      .done
        { hCtx with
          vbv := lent
          pCurStreamFrame := some ⟨number, frame.pFramePic⟩
          nCurNaluIdx := 0 }
        .VDECODE_RESULT_OK answers

def streamFrame (bEndOfStream : Bool) (answers : List Answer) : Requested :=
  if hCtx.pCurStreamFrame.isNone then h264RequestOneFrameStream bEndOfStream answers hCtx
  else .done hCtx .VDECODE_RESULT_OK answers

end Frames

section Nalus

variable (hCtx : H264Context)

/-- An SPS with another picture size stops the parser; otherwise it ends with a result. -/
inductive SpsOutcome
  | result (ret : VResult)
  | otherSize
deriving DecidableEq

def h264DecodeSps : SpsOutcome → H264Context × VResult
  | .result ret => (hCtx, ret)
  | .otherSize =>
    (hCtx.giveBackFrame .SbmReturnStream,
      if hCtx.bIsAvc then .VDECODE_RESULT_UNSUPPORTED
      else .VDECODE_RESULT_RESOLUTION_CHANGE)

inductive SliceOutcome
  | result (ret : VResult)
  | framesMissing
deriving DecidableEq

def h264DecodeSliceHeader : SliceOutcome → H264Context × VResult
  | .result ret => (hCtx, ret)
  | .framesMissing =>
    (h264ResetDecoderParams (hCtx.giveBackFrame .SbmFlushStream), .VDECODE_RESULT_CONTINUE)

inductive NaluOutcome
  | sps (outcome : SpsOutcome)
  | slice (outcome : SliceOutcome)
  | other (ret : VResult)
deriving DecidableEq

def h264ProcessNaluUnit : NaluOutcome → H264Context × VResult
  | .sps outcome => h264DecodeSps hCtx outcome
  | .slice outcome => h264DecodeSliceHeader hCtx outcome
  | .other ret => (hCtx, ret)

/-- `H264ProcessExtraData2`: the parameter sets up to the first that fails. -/
def h264ProcessExtraData2 : List SpsOutcome → H264Context → H264Context × VResult
  | [], hCtx => (hCtx, .VDECODE_RESULT_OK)
  | outcome :: rest, hCtx =>
    let (hCtx, ret) := h264DecodeSps hCtx outcome
    if ret ≠ .VDECODE_RESULT_OK then (hCtx, ret) else h264ProcessExtraData2 rest hCtx

end Nalus

/-- How a part of a call ends: the next part follows, the call returns, the loop
is left, the inputs end, or something happens that must not. -/
inductive Flow
  | again (hCtx : H264Context) (answers : List Answer)
  | returns (hCtx : H264Context) (ret : VResult)
  | breaks (hCtx : H264Context) (ret : VResult)
  | pending (hCtx : H264Context)
  | failed (failure : Failure)

def Flow.andThen (next : H264Context → List Answer → Flow) : Flow → Flow
  | .again hCtx answers => next hCtx answers
  | .returns hCtx ret => .returns hCtx ret
  | .breaks hCtx ret => .breaks hCtx ret
  | .pending hCtx => .pending hCtx
  | .failed failure => .failed failure

section Loop

variable (answers : List Answer)

/-- What the loop makes of the result of a NAL. The source has the errors twice,
for the two forms of stream, with the same effect on the frame. -/
def afterNalu (hCtx : H264Context) (ret : VResult) : Flow :=
  if ret = .VDECODE_RESULT_KEYFRAME_DECODED ∨ ret = .VDECODE_RESULT_FRAME_DECODED then
    match hCtx.pCurStreamFrame with
    | none => .failed .nullFrame
    | some frame =>
      if (hCtx.nCurNaluIdx : Int) ≠ frame.pFramePic.nCurNaluIdx - 1 then .failed .abort
      else
        .breaks { hCtx.giveBackFrame .SbmFlushStream with
          nDecStep := .H264_STEP_PROCESS_DECODE_RESULT } ret
  else if ret ≠ .VDECODE_RESULT_OK ∧ ret ≠ .VRESULT_ERR_FAIL ∧ ret ≠ .VRESULT_DROP_B_FRAME then
    if ret = .VRESULT_DEC_FRAME_ERROR then
      .breaks { hCtx.giveBackFrame .SbmReturnStream with
        nDecStep := .H264_STEP_PROCESS_DECODE_RESULT } .VDECODE_RESULT_FRAME_DECODED
    else if ret = .VDECODE_RESULT_NO_FRAME_BUFFER then
      .returns { hCtx with nDecStep := .H264_STEP_UPDATE_DATA } ret
    else if ret = .VRESULT_REDECODE_STREAM_DATA then
      .returns { hCtx with nDecStep := .H264_STEP_UPDATE_DATA } .VDECODE_RESULT_OK
    else .returns hCtx ret
  else if ret = .VRESULT_DROP_B_FRAME then
    .returns { hCtx.giveBackFrame .SbmFlushStream with
      nDecStep := .H264_STEP_UPDATE_DATA } .VDECODE_RESULT_OK
  else
    match hCtx.pCurStreamFrame with
    | none => .failed .nullFrame
    | some frame =>
      let hCtx := { hCtx with nCurNaluIdx := hCtx.nCurNaluIdx + 1 }
      if hCtx.nCurNaluIdx = frame.pFramePic.nCurNaluIdx then
        .again (hCtx.giveBackFrame .SbmFlushStream) answers
      else .again hCtx answers

def decodeNalu (hCtx : H264Context) (outcome : NaluOutcome) : Flow :=
  match hCtx.pCurStreamFrame with
  | none => .failed .nullFrame
  | some frame =>
    if frame.pFramePic.nCurNaluIdx ≤ hCtx.nCurNaluIdx then .failed .naluPastList
    else
      let (hCtx, ret) := h264ProcessNaluUnit hCtx outcome
      afterNalu answers hCtx ret

def requestThen (bEndOfStream : Bool) (hCtx : H264Context)
    (next : H264Context → List Answer → Flow) : Flow :=
  match streamFrame hCtx bEndOfStream answers with
  | .waits hCtx => .pending hCtx
  | .done hCtx ret answers =>
    if ret ≠ .VDECODE_RESULT_OK then .returns hCtx ret else next hCtx answers

end Loop

/-- The loop of `H264_STEP_DECODE_ONE_FRAME`; a turn that goes on leaves the step alone. -/
def decodeOneFrame (bEndOfStream : Bool) : List NaluOutcome → H264Context → List Answer → Flow
  | [], hCtx, answers => requestThen answers bEndOfStream hCtx fun hCtx _ => .pending hCtx
  | outcome :: outcomes, hCtx, answers =>
    requestThen answers bEndOfStream hCtx fun hCtx answers =>
      (decodeNalu answers hCtx outcome).andThen (decodeOneFrame bEndOfStream outcomes)

/-- What stands behind the picture when the loop is left: the pair of fields is
not complete, the picture is damaged, it is for reference, and it has a buffer. -/
structure DecodedPicture where
  bFstField : Bool
  bDecErrorFlag : Bool
  bReference : Bool
  bHasBuffer : Bool

structure DecodeInput where
  bEndOfStream : Bool
  noEmptyBuffer : Bool
  bExtraIsAvc : Bool
  extraData : List SpsOutcome
  answers : List Answer
  outcomes : List NaluOutcome
  picture : DecodedPicture

section Call

variable (input : DecodeInput)

/-- Step 1 of `H264DecoderDecodeSbmFrame`. -/
def configVbv (hCtx : H264Context) : Flow :=
  if hCtx.nDecStep = .H264_STEP_CONFIG_VBV then
    let (hCtx, ret) :=
      if hCtx.bDecExtraDataFlag then
        h264ProcessExtraData2 input.extraData { hCtx with bIsAvc := input.bExtraIsAvc }
      else (hCtx, .VDECODE_RESULT_OK)
    if ret = .VDECODE_RESULT_UNSUPPORTED then .returns hCtx ret
    else
      .again { hCtx with
        bDecExtraDataFlag := false
        bNeedCheckFbmNum := true
        nDecStep := .H264_STEP_UPDATE_DATA } input.answers
  else .again hCtx input.answers

def updateData (hCtx : H264Context) (answers : List Answer) : Flow :=
  if hCtx.nDecStep = .H264_STEP_UPDATE_DATA then
    if hCtx.bNeedCheckFbmNum ∧ input.noEmptyBuffer then
      .returns hCtx .VDECODE_RESULT_NO_FRAME_BUFFER
    else
      requestThen answers input.bEndOfStream { hCtx with bNeedCheckFbmNum := false }
        fun hCtx answers =>
          .again { hCtx with nDecStep := .H264_STEP_DECODE_ONE_FRAME } answers
  else .again hCtx answers

def decodeSteps (hCtx : H264Context) : Flow :=
  ((configVbv input hCtx).andThen (updateData input)).andThen fun hCtx answers =>
    if hCtx.nDecStep = .H264_STEP_DECODE_ONE_FRAME then
      decodeOneFrame input.bEndOfStream input.outcomes hCtx answers
    else .breaks hCtx .VDECODE_RESULT_OK

/-- A damaged reference picture ends the decoding up to the next start. -/
def h264ProcessErrorFrame (bIs3DStream : Bool) (picture : DecodedPicture) (hCtx : H264Context) :
    H264Context × VResult :=
  if picture.bDecErrorFlag then
    if bIs3DStream then (hCtx, .VDECODE_RESULT_OK)
    else if picture.bReference then
      (h264ResetDecoderParams (hCtx.giveBackFrame .SbmFlushStream), .VDECODE_RESULT_CONTINUE)
    else (hCtx, .VDECODE_RESULT_OK)
  else (hCtx, .VDECODE_RESULT_OK)

variable (h264Dec : H264Dec)

def H264Dec.context : Option H264Context :=
  if h264Dec.nDecStreamIndex = 0 then some h264Dec.pHContext else h264Dec.pMinorHContext

def H264Dec.setContext (hCtx : H264Context) : H264Dec :=
  if h264Dec.nDecStreamIndex = 0 then { h264Dec with pHContext := hCtx }
  else { h264Dec with pMinorHContext := some hCtx }

/-- Step 4 of `H264DecoderDecodeSbmFrame`. -/
def processDecodeResult (picture : DecodedPicture) (hCtx : H264Context) (ret : VResult) :
    H264Dec × VResult :=
  if hCtx.nDecStep = .H264_STEP_PROCESS_DECODE_RESULT ∧
      (ret = .VDECODE_RESULT_KEYFRAME_DECODED ∨ ret = .VDECODE_RESULT_FRAME_DECODED) then
    let ret :=
      if picture.bDecErrorFlag ∧ h264Dec.bThumbnailMode ∧ !h264Dec.bDispErrorFrame then
        .VDECODE_RESULT_OK
      else ret
    if picture.bFstField then
      (h264Dec.setContext { hCtx with
        bNeedCheckFbmNum := false, nDecStep := .H264_STEP_UPDATE_DATA }, .VDECODE_RESULT_OK)
    else
      let (hCtx, result) :=
        if h264Dec.bDispErrorFrame then (hCtx, .VDECODE_RESULT_OK)
        else h264ProcessErrorFrame h264Dec.bIs3DStream picture hCtx
      if result ≠ .VDECODE_RESULT_OK then (h264Dec.setContext hCtx, .VDECODE_RESULT_CONTINUE)
      else
        ({ h264Dec.setContext { hCtx with
              bNeedCheckFbmNum := true, nDecStep := .H264_STEP_UPDATE_DATA } with
            nDecStreamIndex :=
              if picture.bHasBuffer ∧ h264Dec.bIs3DStream then 1 - h264Dec.nDecStreamIndex
              else h264Dec.nDecStreamIndex }, ret)
  else (h264Dec.setContext hCtx, ret)

inductive CallEnd
  | returned (h264Dec : H264Dec) (ret : VResult)
  | pending (h264Dec : H264Dec)
  | failed (failure : Failure)

def h264DecoderDecodeSbmFrame : CallEnd :=
  match h264Dec.context with
  | none => .returned h264Dec .VDECODE_RESULT_OK
  | some hCtx =>
    match decodeSteps input hCtx with
    | .again hCtx _ => .pending (h264Dec.setContext hCtx)
    | .returns hCtx ret => .returned (h264Dec.setContext hCtx) ret
    | .breaks hCtx ret =>
      let (h264Dec, ret) := processDecodeResult h264Dec input.picture hCtx ret
      .returned h264Dec ret
    | .pending hCtx => .pending (h264Dec.setContext hCtx)
    | .failed failure => .failed failure

def h264DecoderRest : H264Dec :=
  let rest := fun hCtx : H264Context =>
    h264ResetDecoderParams (hCtx.giveBackFrame .SbmFlushStream)
  { h264Dec with
    nDecStreamIndex := 0
    pHContext := rest h264Dec.pHContext
    pMinorHContext := h264Dec.pMinorHContext.map rest }

/-- `Destroy`, up to the memory that it frees. -/
def destroy : H264Dec :=
  { h264Dec with
    pHContext := h264Dec.pHContext.giveBackFrame .SbmFlushStream
    pMinorHContext :=
      h264Dec.pMinorHContext.map fun hCtx => hCtx.giveBackFrame .SbmFlushStream }

end Call

inductive System
  | alive (h264Dec : H264Dec)
  | pending (h264Dec : H264Dec)
  | destroyed (h264Dec : H264Dec)
  | failed (failure : Failure)

inductive DecoderCall
  | decode (input : DecodeInput)
  | reset
  | destroy

/-- Calls come one after another and none behind `Destroy`. -/
def exec : System → DecoderCall → Option System
  | .alive h264Dec, .decode input =>
    some (match h264DecoderDecodeSbmFrame input h264Dec with
      | .returned h264Dec _ => .alive h264Dec
      | .pending h264Dec => .pending h264Dec
      | .failed failure => .failed failure)
  | .alive h264Dec, .reset => some (.alive (h264DecoderRest h264Dec))
  | .alive h264Dec, .destroy => some (.destroyed (destroy h264Dec))
  | _, _ => none

def H264Context.start (bDecExtraDataFlag bIsAvc : Bool) : H264Context :=
  { vbv := []
    pCurStreamFrame := none
    nCurNaluIdx := 0
    nDecStep := .H264_STEP_CONFIG_VBV
    bDecExtraDataFlag := bDecExtraDataFlag
    bNeedCheckFbmNum := false
    bIsAvc := bIsAvc }

/-- A decoder as `H264DecoderInit` leaves it; the second stream is for 3D only. -/
def H264Dec.start (bIs3DStream bDispErrorFrame bThumbnailMode bDecExtraDataFlag bIsAvc : Bool) :
    H264Dec :=
  { pHContext := .start bDecExtraDataFlag bIsAvc
    pMinorHContext := if bIs3DStream then some (.start false bIsAvc) else none
    nDecStreamIndex := 0
    bIs3DStream := bIs3DStream
    bDispErrorFrame := bDispErrorFrame
    bThumbnailMode := bThumbnailMode }

end CedarC.H264Stream
