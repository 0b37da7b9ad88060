import CedarC.Vp9Superframe

/-! # The VP9 decode step machine

`Vp9HwDecoderDecode` resumes at `nDecStep` and runs the remaining steps in their order, each of
which may return to the caller. The stream buffer hands out chunks and the frame buffer manager
pictures, both numbered in the order of the requests. What the decoder calls answers as it likes;
`VP9SyncAndOutput` takes over the picture it is given. -/

namespace CedarC.Vp9

inductive DecStep where
  | VP9_DEC_PREPARE_DATA
  | VP9_DEC_PICTURE_HERDER
  | VP9_DEC_PREPARE_FRAME_BUFFER
  | VP9_DEC_GET_FBM_BUFFER
  | VP9_DEC_PREPARE_ASIC
  | VP9_DEC_PROCESS_DEC_RESULT
  deriving DecidableEq, Repr

/-- The values of `dec_cont->dec_stat` that the decoder takes. -/
inductive DecStat where
  | VP9DEC_INITIALIZED
  | VP9DEC_NEW_HEADERS
  | VP9DEC_DECODING
  deriving DecidableEq, Repr

/-- `VideoStreamDataInfo`: where the chunk starts in the ring, and its bytes. -/
structure StreamData where
  pData : Nat
  data : List Byte
  deriving DecidableEq

def StreamData.nLength (chunk : StreamData) : Nat := chunk.data.length

/-- What one call of `Decode` is given and what the code it calls answers. -/
structure CallAnswers where
  bEndOfStream : Bool
  /-- The chunks `SbmRequestStream` has ready, before it answers `NULL`. -/
  stream : List StreamData
  /-- `CdcMemPalloc` for the copy buffer. -/
  tempBuffer : Bool
  /-- `Vp9DecodeFrameTag` and `Vp9DecodeFrameHeader` take the header over. -/
  tag : Bool
  show_existing_frame : Bool
  frameHeader : Bool
  /-- No key frame so far: the dimensions are still zero. -/
  noSize : Bool
  /-- The output is broken and this is no key frame. -/
  frozen : Bool
  /-- `Vp9AsicAllocatePictures`. -/
  pictures : Bool
  /-- `FbmCreate` and `FbmRequestBuffer`. -/
  fbm : Bool
  buffer : Bool
  /-- The results of `Vp9GetRefFrm`, `Vp9AsicAllocateFilterBlockMem`, `VP9SyncAndOutput`. -/
  refFrm : Int
  filterMem : Int
  sync : Int
  key_frame : Bool

/-- A step that needs the current picture, the picture it ran with, and whether the header held
is that of the current frame. -/
structure StepUse where
  step : DecStep
  picture : Option Nat
  fresh : Bool
  deriving DecidableEq, Repr

structure Vp9HwDecode where
  nDecStep : DecStep
  /-- `pSbmBufEnd - pSbmBuf + 1`. -/
  nSbmBufSize : Nat
  curStreamData : Option Nat
  nFrameNums : Nat
  real_data_len : RealDataLen
  tempSize : Nat
  tempBuf : Bool
  dec_stat : DecStat
  pFbm : Bool
  pCurFrm : Option Nat
  /-- Chunks requested so far, and those flushed. -/
  requested : Nat
  flushed : List Nat
  /-- Pictures requested so far, and those given to `VP9SyncAndOutput` or returned. -/
  buffers : Nat
  handedOver : List Nat
  /-- Frames begun so far, and the frame whose header the decoder holds. -/
  frame : Nat
  header : Option Nat
  uses : List StepUse
  /-- The step in which the last call failed. -/
  failedIn : Option DecStep
  /-- The process aborted or dereferenced `NULL`. -/
  stopped : Bool
  deriving DecidableEq

def VDECODE_RESULT_UNSUPPORTED : Int := -1
def VDECODE_RESULT_FRAME_DECODED : Int := 1
def VDECODE_RESULT_KEYFRAME_DECODED : Int := 3
def VDECODE_RESULT_NO_FRAME_BUFFER : Int := 4
def VDECODE_RESULT_NO_BITSTREAM : Int := 5

def DEC_OK : Int := 0
def DEC_STRM_PROCESSED : Int := 1
def DEC_PIC_DECODED : Int := 3
def DEC_HDRS_RDY : Int := 4
def DEC_MEMFAIL : Int := -4

inductive Flow where
  | goes (decoder : Vp9HwDecode)
  | returns (decoder : Vp9HwDecode) (result : Int)
  deriving DecidableEq

def Flow.andThen (flow : Flow) (step : Vp9HwDecode → Flow) : Flow :=
  match flow with
  | .goes decoder => step decoder
  | .returns decoder result => .returns decoder result

def Flow.decoder : Flow → Vp9HwDecode
  | .goes decoder => decoder
  | .returns decoder _ => decoder

def Vp9HwDecode.stop (decoder : Vp9HwDecode) : Flow := .returns { decoder with stopped := true } 0

def Vp9HwDecode.fail (decoder : Vp9HwDecode) (result : Int) : Flow :=
  .returns { decoder with failedIn := some decoder.nDecStep } result

def Vp9HwDecode.use (decoder : Vp9HwDecode) : Vp9HwDecode :=
  { decoder with
    uses := decoder.uses ++
      [⟨decoder.nDecStep, decoder.pCurFrm, decide (decoder.header = some decoder.frame)⟩] }

/-! ## Step one -/

/-- Somebody else owns the current picture from here on, and the pointer is cleared. -/
def Vp9HwDecode.handOver (decoder : Vp9HwDecode) : Vp9HwDecode :=
  { decoder with
    handedOver := decoder.handedOver ++ decoder.pCurFrm.toList, pCurFrm := none }

/-- `Vp9HwFlushPictures`: the current picture goes back to the frame buffer manager. -/
def vp9HwFlushPictures (decoder : Vp9HwDecode) : Vp9HwDecode := decoder.handOver

/-- `SbmFlushStream (curStreamData)`, and the pointer is cleared. -/
def flushCurrent (decoder : Vp9HwDecode) : Vp9HwDecode :=
  { decoder with
    flushed := decoder.flushed ++ decoder.curStreamData.toList, curStreamData := none }

/-- `Vp9RequestBitstreamData`: empty chunks are flushed at once. -/
def vp9RequestBitstreamData (bEndOfStream : Bool) :
    List StreamData → Vp9HwDecode → Vp9HwDecode × Option StreamData
  | [], decoder => (if bEndOfStream then vp9HwFlushPictures decoder else decoder, none)
  | chunk :: rest, decoder =>
    if chunk.nLength = 0 then
      vp9RequestBitstreamData bEndOfStream rest
        { decoder with
          requested := decoder.requested + 1, flushed := decoder.flushed ++ [decoder.requested] }
    else
      ({ decoder with
          requested := decoder.requested + 1, curStreamData := some decoder.requested },
        some chunk)

/-- `Vp9ProcessDataLength`, which may abort. -/
def measureChunk (chunk : StreamData) (decoder : Vp9HwDecode) : Flow :=
  match vp9ProcessDataLength chunk.data chunk.nLength decoder.real_data_len with
  | .error _ => decoder.stop
  | .ok (nFrameNums, lens) =>
    .goes { decoder with
      nFrameNums := nFrameNums, real_data_len := lens, nDecStep := .VP9_DEC_PICTURE_HERDER }

def wraps (decoder : Vp9HwDecode) (chunk : StreamData) : Prop :=
  chunk.pData + chunk.nLength > decoder.nSbmBufSize - 1
deriving Decidable

def prepareDataStep (answers : CallAnswers) (decoder : Vp9HwDecode) : Flow :=
  if decoder.nDecStep = .VP9_DEC_PREPARE_DATA then
    match vp9RequestBitstreamData answers.bEndOfStream answers.stream decoder with
    | (decoder, none) => .returns decoder VDECODE_RESULT_NO_BITSTREAM
    | (decoder, some chunk) =>
      if wraps decoder chunk then
        if decoder.tempSize < chunk.nLength then
          -- the size is recorded before it is known whether there is a buffer
          let decoder := { decoder with
            tempSize := chunk.nLength + 1024, tempBuf := answers.tempBuffer }
          if !answers.tempBuffer then decoder.fail VDECODE_RESULT_UNSUPPORTED
          else measureChunk chunk decoder
        else if !decoder.tempBuf then decoder.stop
        else measureChunk chunk decoder
      else measureChunk chunk decoder
  else .goes decoder

/-! ## Step two -/

/-- `Vp9DecodeHeaders`: what goes wrong with the tag or the header is logged, and the result says
nothing about it. A frame that shows an existing one has no header besides its tag. -/
def vp9DecodeHeaders (answers : CallAnswers) (decoder : Vp9HwDecode) : Vp9HwDecode × Int :=
  if answers.tag ∧ answers.show_existing_frame then (decoder, DEC_PIC_DECODED)
  else
    let decoder :=
      if answers.tag ∧ answers.frameHeader then { decoder with header := some decoder.frame }
      else decoder
    if decoder.dec_stat = .VP9DEC_INITIALIZED then
      ({ decoder with dec_stat := .VP9DEC_NEW_HEADERS }, DEC_HDRS_RDY)
    else if answers.noSize then (decoder, DEC_STRM_PROCESSED)
    else if answers.frozen then (decoder, DEC_PIC_DECODED)
    else (decoder, DEC_OK)

def vp9ProcessHeaders (answers : CallAnswers) (nDataLen : Nat) (decoder : Vp9HwDecode) :
    Vp9HwDecode × Int :=
  let first :=
    if decoder.dec_stat = .VP9DEC_INITIALIZED then vp9DecodeHeaders answers decoder
    else (decoder, 0)
  if decoder.dec_stat = .VP9DEC_INITIALIZED ∧ first.2 < 0 then first
  else if first.1.dec_stat = .VP9DEC_NEW_HEADERS then
    if !answers.pictures then (first.1, DEC_MEMFAIL)
    else ({ first.1 with dec_stat := .VP9DEC_DECODING }, first.2)
  else if nDataLen > 0 then vp9DecodeHeaders answers first.1
  else first

def vp9CreateFbmBuffer (answers : CallAnswers) (decoder : Vp9HwDecode) : Vp9HwDecode :=
  if decoder.pFbm then decoder else { decoder with pFbm := answers.fbm }

def pictureHeaderStep (answers : CallAnswers) (decoder : Vp9HwDecode) : Flow :=
  if decoder.nDecStep = .VP9_DEC_PICTURE_HERDER then
    -- for no frame at all the index is -1, outside the array as 255 is
    match lenAt decoder.real_data_len ((decoder.nFrameNums + 255) % 256) with
    | .error _ => decoder.stop
    | .ok nDataLen =>
      -- a negative result is only logged
      let parsed := (vp9ProcessHeaders answers nDataLen
        { decoder with frame := decoder.frame + 1 }).1
      .goes { vp9CreateFbmBuffer answers parsed with nDecStep := .VP9_DEC_PREPARE_FRAME_BUFFER }
  else .goes decoder

/-! ## Steps three to six -/

def frameBufferStep (answers : CallAnswers) (decoder : Vp9HwDecode) : Flow :=
  if decoder.nDecStep = .VP9_DEC_PREPARE_FRAME_BUFFER then
    if decoder.pFbm ∧ decoder.pCurFrm = none then
      if !answers.buffer then .returns decoder VDECODE_RESULT_NO_FRAME_BUFFER
      else .goes { decoder with
        pCurFrm := some decoder.buffers, buffers := decoder.buffers + 1,
        nDecStep := .VP9_DEC_GET_FBM_BUFFER }
    else .goes { decoder with nDecStep := .VP9_DEC_GET_FBM_BUFFER }
  else .goes decoder

def refFrameStep (answers : CallAnswers) (decoder : Vp9HwDecode) : Flow :=
  if decoder.nDecStep = .VP9_DEC_GET_FBM_BUFFER then
    let decoder := decoder.use
    if answers.refFrm ≠ 0 then decoder.fail answers.refFrm
    else if answers.filterMem ≠ 0 then decoder.fail answers.filterMem
    else .goes { decoder with nDecStep := .VP9_DEC_PREPARE_ASIC }
  else .goes decoder

def asicStep (decoder : Vp9HwDecode) : Flow :=
  if decoder.nDecStep = .VP9_DEC_PREPARE_ASIC then
    let decoder := { decoder.use with nFrameNums := (decoder.nFrameNums + 255) % 256 }
    match lenAt decoder.real_data_len decoder.nFrameNums with
    | .error _ => decoder.stop
    | .ok _ =>
      -- the interrupt's result is only logged; `VP9CongigureDisplayParameters` writes the picture
      if decoder.pCurFrm = none then decoder.stop
      else .goes { decoder with nDecStep := .VP9_DEC_PROCESS_DEC_RESULT }
  else .goes decoder

def resultStep (answers : CallAnswers) (decoder : Vp9HwDecode) : Flow :=
  if decoder.nDecStep = .VP9_DEC_PROCESS_DEC_RESULT then
    let decoder := decoder.use.handOver
    if answers.sync ≠ 0 then decoder.fail answers.sync
    else if decoder.nFrameNums ≠ 0 then
      .goes { decoder with nDecStep := .VP9_DEC_PICTURE_HERDER }
    else .goes { flushCurrent decoder with nDecStep := .VP9_DEC_PREPARE_DATA }
  else .goes decoder

/-! ## Calls -/

inductive DecoderOp where
  | decode (answers : CallAnswers)
  | reset

def untilData (answers : CallAnswers) (decoder : Vp9HwDecode) : Flow :=
  prepareDataStep answers { decoder with failedIn := none }

def untilHeader (answers : CallAnswers) (decoder : Vp9HwDecode) : Flow :=
  (untilData answers decoder).andThen (pictureHeaderStep answers)

def untilBuffer (answers : CallAnswers) (decoder : Vp9HwDecode) : Flow :=
  (untilHeader answers decoder).andThen (frameBufferStep answers)

def untilRefFrame (answers : CallAnswers) (decoder : Vp9HwDecode) : Flow :=
  (untilBuffer answers decoder).andThen (refFrameStep answers)

def untilAsic (answers : CallAnswers) (decoder : Vp9HwDecode) : Flow :=
  (untilRefFrame answers decoder).andThen asicStep

def vp9HwDecoderDecode (answers : CallAnswers) (decoder : Vp9HwDecode) : Vp9HwDecode × Int :=
  match (untilAsic answers decoder).andThen (resultStep answers) with
  | .returns decoder result => (decoder, result)
  | .goes decoder =>
    (decoder, if answers.key_frame then VDECODE_RESULT_KEYFRAME_DECODED
      else VDECODE_RESULT_FRAME_DECODED)

def vp9HwDecoderReset (decoder : Vp9HwDecode) : Vp9HwDecode :=
  { vp9HwFlushPictures (flushCurrent decoder) with
    curStreamData := none, nDecStep := .VP9_DEC_PREPARE_DATA }

def decoderExec (decoder : Vp9HwDecode) : DecoderOp → Option Vp9HwDecode
  | .decode answers =>
    some (if decoder.stopped then decoder else (vp9HwDecoderDecode answers decoder).1)
  | .reset => some (if decoder.stopped then decoder else vp9HwDecoderReset decoder)

/-- After `Vp9HwDecoderInit` and `SetSbm`; the copy buffer may be missing. -/
def freshDecoder (nSbmBufSize : Nat) (tempBuf : Bool) : Vp9HwDecode where
  nDecStep := .VP9_DEC_PREPARE_DATA
  nSbmBufSize := nSbmBufSize
  curStreamData := none
  nFrameNums := 0
  real_data_len := .replicate 4 0
  tempSize := 1024 * 1024 * 3 / 2
  tempBuf := tempBuf
  dec_stat := .VP9DEC_INITIALIZED
  pFbm := false
  pCurFrm := none
  requested := 0
  flushed := []
  buffers := 0
  handedOver := []
  frame := 0
  header := none
  uses := []
  failedIn := none
  stopped := false

end CedarC.Vp9
