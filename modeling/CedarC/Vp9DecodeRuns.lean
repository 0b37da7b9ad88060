import CedarC.Vp9DecodeSteps
import CedarC.Vp9SuperframeFrames
import CedarC.GuardedRuns

/-! # Runs of the VP9 decode step machine

As long as what the steps call succeeds, every step leaves the machine in a phase in which it may
be resumed: who owns the chunk, the picture and the header is a function of `nDecStep`. Each of
the answers excluded here breaks one of the promises. -/

namespace CedarC.Vp9

open GuardedRuns Option List

/-! ## Promises -/

/-- Every chunk is flushed once or still held, every picture handed over once or still held, no
step ran without picture or with another frame's header, and a failed call left its step. -/
structure MachineSound (decoder : Vp9HwDecode) : Prop where
  chunks : (decoder.flushed ++ decoder.curStreamData.toList).Perm (List.range decoder.requested)
  pictures : (decoder.handedOver ++ decoder.pCurFrm.toList).Perm (List.range decoder.buffers)
  uses : ∀ use ∈ decoder.uses, use.picture ≠ none ∧ use.fresh = true
  leaves : ∀ step, decoder.failedIn = some step → decoder.nDecStep ≠ step
  runs : decoder.stopped = false

/-! ## Conditions on the steps -/

def firstChunk (stream : List StreamData) : Option StreamData :=
  stream.find? fun chunk => decide (chunk.nLength ≠ 0)

/-- A chunk that wraps finds a copy buffer, and its last byte announces no superframe of another
number of frames than two. -/
def DataSucceeds (answers : CallAnswers) (decoder : Vp9HwDecode) : Prop :=
  decoder.nDecStep = .VP9_DEC_PREPARE_DATA → ∀ chunk ∈ firstChunk answers.stream,
      (wraps decoder chunk →
        (if decoder.tempSize < chunk.nLength then answers.tempBuffer else decoder.tempBuf) = true) ∧
      ∀ marker ∈ chunk.data.getLast?, isMarker marker → framesInSuperframe marker = 2
deriving Decidable

/-- The frame brings a header, which is taken over, and the first of all finds its pictures. -/
def HeaderSucceeds (answers : CallAnswers) (decoder : Vp9HwDecode) : Prop :=
  decoder.nDecStep = .VP9_DEC_PICTURE_HERDER →
    (answers.tag = true ∧ answers.show_existing_frame = false ∧ answers.frameHeader = true) ∧
    (decoder.dec_stat = .VP9DEC_INITIALIZED → answers.pictures = true) ∧
    (decoder.dec_stat ≠ .VP9DEC_INITIALIZED →
      lenAt decoder.real_data_len ((decoder.nFrameNums + 255) % 256) ≠ .ok 0) ∧
    (decoder.pFbm = false → answers.fbm = true)
deriving Decidable

def MemorySucceeds (answers : CallAnswers) (decoder : Vp9HwDecode) : Prop :=
  decoder.nDecStep = .VP9_DEC_GET_FBM_BUFFER → answers.refFrm = 0 ∧ answers.filterMem = 0
deriving Decidable

def SyncSucceeds (answers : CallAnswers) (decoder : Vp9HwDecode) : Prop :=
  decoder.nDecStep = .VP9_DEC_PROCESS_DEC_RESULT → answers.sync = 0
deriving Decidable

def Flow.Meets (flow : Flow) (condition : Vp9HwDecode → Prop) : Prop :=
  match flow with
  | .goes decoder => condition decoder
  | .returns _ _ => True

instance (flow : Flow) (condition : Vp9HwDecode → Prop) [DecidablePred condition] :
    Decidable (flow.Meets condition) :=
  match flow with
  | .goes decoder => inferInstanceAs (Decidable (condition decoder))
  | .returns _ _ => isTrue trivial

/-- Each step of the call that is reached meets its condition in the state before it. -/
def StepsSucceed (decoder : Vp9HwDecode) : DecoderOp → Prop
  | .decode answers =>
    DataSucceeds answers decoder ∧
    (untilData answers decoder).Meets (HeaderSucceeds answers) ∧
    (untilBuffer answers decoder).Meets (MemorySucceeds answers) ∧
    (untilAsic answers decoder).Meets (SyncSucceeds answers)
  | .reset => True

instance (decoder : Vp9HwDecode) : ∀ op, Decidable (StepsSucceed decoder op)
  | .decode _ => inferInstanceAs (Decidable (_ ∧ _ ∧ _ ∧ _))
  | .reset => isTrue trivial

/-! ## Phases -/

/-- What the decoder holds while it stands before a step. -/
def PhaseKept (decoder : Vp9HwDecode) : Prop :=
  let held := decoder.curStreamData ≠ none
  let framed := 1 ≤ decoder.nFrameNums ∧ decoder.nFrameNums ≤ 4
  let current := decoder.header = some decoder.frame
  match decoder.nDecStep with
  | .VP9_DEC_PREPARE_DATA => decoder.curStreamData = none ∧ decoder.pCurFrm = none
  | .VP9_DEC_PICTURE_HERDER => held ∧ framed ∧ decoder.pCurFrm = none
  | .VP9_DEC_PREPARE_FRAME_BUFFER =>
    held ∧ framed ∧ current ∧ decoder.pCurFrm = none ∧ decoder.pFbm = true
  | .VP9_DEC_GET_FBM_BUFFER | .VP9_DEC_PREPARE_ASIC =>
    held ∧ framed ∧ current ∧ decoder.pCurFrm ≠ none
  | .VP9_DEC_PROCESS_DEC_RESULT =>
    held ∧ decoder.nFrameNums ≤ 4 ∧ current ∧ decoder.pCurFrm ≠ none

structure MachineKept (decoder : Vp9HwDecode) : Prop where
  sound : MachineSound decoder
  phase : PhaseKept decoder
  allocated : decoder.dec_stat ≠ .VP9DEC_NEW_HEADERS
  fine : decoder.failedIn = none

def Flow.Keeps (flow : Flow) : Prop := MachineKept flow.decoder

theorem keeps_andThen {flow : Flow} {step : Vp9HwDecode → Flow} (keeps : flow.Keeps)
    (goesOn : ∀ decoder, flow = .goes decoder → MachineKept decoder → (step decoder).Keeps) :
    (flow.andThen step).Keeps := by
  cases flow with
  | goes decoder => exact goesOn decoder rfl keeps
  | returns decoder result => exact keeps

/-! ## The chunk -/

theorem ledger_grows {ids : List Nat} {count : Nat} (matched : ids.Perm (List.range count)) :
    (ids ++ [count]).Perm (List.range (count + 1)) := by
  rw [range_succ]
  exact matched.append_right [count]

variable {decoder : Vp9HwDecode}

theorem phase_prepare (kept : MachineKept decoder)
    (step : decoder.nDecStep = .VP9_DEC_PREPARE_DATA) :
    decoder.curStreamData = none ∧ decoder.pCurFrm = none := by
  have phase := kept.phase
  unfold PhaseKept at phase
  rw [step] at phase
  exact phase

theorem flushed_all (kept : MachineKept decoder) (none_held : decoder.curStreamData = none) :
    decoder.flushed.Perm (List.range decoder.requested) := by
  have chunks := kept.sound.chunks
  rw [none_held] at chunks
  simpa using chunks

theorem empty_chunk_keeps (kept : MachineKept decoder)
    (step : decoder.nDecStep = .VP9_DEC_PREPARE_DATA) :
    MachineKept { decoder with
      requested := decoder.requested + 1, flushed := decoder.flushed ++ [decoder.requested] } := by
  obtain ⟨none_held, _⟩ := phase_prepare kept step
  constructor
  · constructor
    · change (decoder.flushed ++ [decoder.requested] ++ decoder.curStreamData.toList).Perm
        (List.range (decoder.requested + 1))
      rw [none_held, toList_none, append_nil]
      exact ledger_grows (flushed_all kept none_held)
    · exact kept.sound.pictures
    · exact kept.sound.uses
    · exact kept.sound.leaves
    · exact kept.sound.runs
  · exact kept.phase
  · exact kept.allocated
  · exact kept.fine

/-- The request ends without a chunk, or with the first that is not empty; all before it are
flushed. -/
theorem request_outcome (bEndOfStream : Bool) (stream : List StreamData) (decoder : Vp9HwDecode)
    (kept : MachineKept decoder) (step : decoder.nDecStep = .VP9_DEC_PREPARE_DATA) :
    (∃ after, vp9RequestBitstreamData bEndOfStream stream decoder = (after, none) ∧
      MachineKept after) ∨
    ∃ chunk requested flushed, firstChunk stream = some chunk ∧ chunk.nLength ≠ 0 ∧
      (flushed ++ [requested]).Perm (List.range (requested + 1)) ∧
      vp9RequestBitstreamData bEndOfStream stream decoder =
        ({ decoder with
            requested := requested + 1, flushed := flushed, curStreamData := some requested },
          some chunk) := by
  induction stream generalizing decoder with
  | nil =>
    left
    refine ⟨_, rfl, ?_⟩
    obtain ⟨_, none_current⟩ := phase_prepare kept step
    cases bEndOfStream with
    | false => exact kept
    | true =>
      have same : vp9HwFlushPictures decoder = decoder := by
        unfold vp9HwFlushPictures Vp9HwDecode.handOver
        rw [none_current, toList_none, append_nil, ← none_current]
      simpa only [if_true, same] using kept
  | cons chunk rest onwards =>
    by_cases empty : chunk.nLength = 0
    · have skipped : firstChunk (chunk :: rest) = firstChunk rest := by simp [firstChunk, empty]
      rw [vp9RequestBitstreamData, if_pos empty, skipped]
      exact onwards _ (empty_chunk_keeps kept step) step
    · right
      refine ⟨chunk, decoder.requested, decoder.flushed, ?_, empty, ?_, ?_⟩
      · simp [firstChunk, empty]
      · exact ledger_grows (flushed_all kept (phase_prepare kept step).1)
      · rw [vp9RequestBitstreamData, if_neg empty]

theorem measured (chunk : StreamData) (lens : RealDataLen) (some_bytes : chunk.nLength ≠ 0)
    (counts : ∀ marker ∈ chunk.data.getLast?, isMarker marker → framesInSuperframe marker = 2) :
    ∃ nFrameNums lens', vp9ProcessDataLength chunk.data chunk.nLength lens =
      .ok (nFrameNums, lens') ∧ 1 ≤ nFrameNums ∧ nFrameNums ≤ 4 := by
  have nonempty : chunk.data ≠ [] := by
    intro empty
    apply some_bytes
    simp [StreamData.nLength, empty]
  have last := List.getLast?_eq_some_getLast nonempty
  have held : chunk.data.take chunk.data.length = chunk.data := take_length
  unfold StreamData.nLength
  by_cases marked : isMarker (chunk.data.getLast nonempty)
  · obtain ⟨lens', lengths⟩ := lengths_two held _ last lens marked (counts _ last marked)
    exact ⟨2, lens', lengths, by omega, by omega⟩
  · obtain ⟨lens', lengths, _⟩ := lengths_unmarked held _ last lens marked
    exact ⟨1, lens', lengths, by omega, by omega⟩

theorem prepare_data_keeps (answers : CallAnswers) (decoder : Vp9HwDecode)
    (kept : MachineKept decoder) (guard : DataSucceeds answers decoder) :
    (prepareDataStep answers decoder).Keeps := by
  unfold prepareDataStep
  by_cases step : decoder.nDecStep = .VP9_DEC_PREPARE_DATA
  · rw [if_pos step]
    rcases request_outcome answers.bEndOfStream answers.stream decoder kept step with
      ⟨after, request, keptAfter⟩ | ⟨chunk, requested, flushed, first, some_bytes, ledger, request⟩
    · rw [request]
      exact keptAfter
    · rw [request]
      obtain ⟨room, counts⟩ := guard step chunk first
      have begins : ∀ tempSize tempBuf, (measureChunk chunk { decoder with
          requested := requested + 1, flushed := flushed, curStreamData := some requested,
          tempSize := tempSize, tempBuf := tempBuf }).Keeps := by
        intro tempSize tempBuf
        obtain ⟨nFrameNums, lens, lengths, low, high⟩ :=
          measured chunk decoder.real_data_len some_bytes counts
        unfold measureChunk
        simp only [lengths]
        refine ⟨⟨ledger, kept.sound.pictures, kept.sound.uses, ?_, kept.sound.runs⟩, ?_,
          kept.allocated, kept.fine⟩
        · intro failed fails
          exact absurd (kept.fine.symm.trans fails) (by simp)
        · exact ⟨some_ne_none requested, ⟨low, high⟩, (phase_prepare kept step).2⟩
      by_cases around : wraps decoder chunk
      · have buffer := room around
        have aroundAfter : wraps { decoder with
            requested := requested + 1, flushed := flushed, curStreamData := some requested }
            chunk := around
        simp only [if_pos aroundAfter]
        split_ifs at buffer with small
        · simp only [if_pos small, buffer]
          exact begins _ _
        · simp only [if_neg small, buffer]
          exact begins _ _
      · have aroundAfter : ¬ wraps { decoder with
            requested := requested + 1, flushed := flushed, curStreamData := some requested }
            chunk := around
        simp only [if_neg aroundAfter]
        exact begins _ _
  · rw [if_neg step]
    exact kept

/-! ## The header -/

theorem headers_taken (answers : CallAnswers) (nDataLen : Nat) (decoder : Vp9HwDecode)
    (brings : answers.tag = true ∧ answers.show_existing_frame = false ∧ answers.frameHeader = true)
    (pictures : decoder.dec_stat = .VP9DEC_INITIALIZED → answers.pictures = true)
    (long : decoder.dec_stat ≠ .VP9DEC_INITIALIZED → 0 < nDataLen)
    (allocated : decoder.dec_stat ≠ .VP9DEC_NEW_HEADERS) :
    ∃ dec_stat, dec_stat ≠ .VP9DEC_NEW_HEADERS ∧ (vp9ProcessHeaders answers nDataLen decoder).1 =
        { decoder with header := some decoder.frame, dec_stat := dec_stat } := by
  obtain ⟨tag, notShown, frameHeader⟩ := brings
  cases stat : decoder.dec_stat with
  | VP9DEC_INITIALIZED =>
    refine ⟨.VP9DEC_DECODING, by decide, ?_⟩
    simp [vp9ProcessHeaders, vp9DecodeHeaders, stat, tag, notShown, frameHeader,
      pictures stat, DEC_HDRS_RDY]
  | VP9DEC_NEW_HEADERS => exact absurd stat allocated
  | VP9DEC_DECODING =>
    refine ⟨.VP9DEC_DECODING, by decide, ?_⟩
    have parsed : ∀ result, (vp9DecodeHeaders answers decoder).1 = result →
        (vp9ProcessHeaders answers nDataLen decoder).1 = result := by
      intro result same
      simp [vp9ProcessHeaders, stat, long (by simp [stat]), same]
    apply parsed
    rw [← stat]
    simp only [vp9DecodeHeaders, tag, notShown, frameHeader, stat]
    simp only [Bool.false_eq_true, and_false, and_self, if_false, if_true, reduceCtorEq]
    split_ifs
    · rfl
    · rfl
    · rfl

theorem fbm_created (answers : CallAnswers) (decoder : Vp9HwDecode)
    (created : decoder.pFbm = false → answers.fbm = true) :
    vp9CreateFbmBuffer answers decoder = { decoder with pFbm := true } := by
  unfold vp9CreateFbmBuffer
  cases existing : decoder.pFbm with
  | true => rw [if_pos rfl, ← existing]
  | false => rw [if_neg (by decide), created existing]

theorem lenAt_ok (lens : RealDataLen) (k : Nat) (bound : k < 4) : ∃ len, lenAt lens k = .ok len := by
  unfold lenAt
  rw [dif_pos bound]
  exact ⟨_, rfl⟩

theorem picture_header_keeps (answers : CallAnswers) (decoder : Vp9HwDecode)
    (kept : MachineKept decoder) (guard : HeaderSucceeds answers decoder) :
    (pictureHeaderStep answers decoder).Keeps := by
  unfold pictureHeaderStep
  by_cases step : decoder.nDecStep = .VP9_DEC_PICTURE_HERDER
  · rw [if_pos step]
    obtain ⟨brings, pictures, long, created⟩ := guard step
    have phase := kept.phase
    unfold PhaseKept at phase
    rw [step] at phase
    obtain ⟨held, ⟨low, high⟩, none_current⟩ := phase
    obtain ⟨nDataLen, lengthRead⟩ :=
      lenAt_ok decoder.real_data_len ((decoder.nFrameNums + 255) % 256) (by omega)
    have longer : decoder.dec_stat ≠ .VP9DEC_INITIALIZED → 0 < nDataLen := by
      intro decoding
      have notZero := long decoding
      rw [lengthRead] at notZero
      apply Nat.pos_of_ne_zero
      intro zero
      exact notZero (by rw [zero])
    obtain ⟨dec_stat, allocated, parsed⟩ := headers_taken answers nDataLen
      { decoder with frame := decoder.frame + 1 } brings pictures longer kept.allocated
    have withFbm := fbm_created answers { decoder with
      frame := decoder.frame + 1, header := some (decoder.frame + 1), dec_stat := dec_stat } created
    simp only [lengthRead, parsed, withFbm]
    refine ⟨⟨kept.sound.chunks, kept.sound.pictures, kept.sound.uses, ?_, kept.sound.runs⟩,
      ⟨held, ⟨low, high⟩, rfl, none_current, rfl⟩, allocated, kept.fine⟩
    intro failed fails
    exact absurd (kept.fine.symm.trans fails) (some_ne_none failed).symm
  · rw [if_neg step]
    exact kept

/-! ## The picture -/

theorem frame_buffer_keeps (answers : CallAnswers) (decoder : Vp9HwDecode)
    (kept : MachineKept decoder) : (frameBufferStep answers decoder).Keeps := by
  unfold frameBufferStep
  by_cases step : decoder.nDecStep = .VP9_DEC_PREPARE_FRAME_BUFFER
  · have phase := kept.phase
    unfold PhaseKept at phase
    rw [step] at phase
    obtain ⟨held, framed, current, none_current, created⟩ := phase
    rw [if_pos step, if_pos ⟨created, none_current⟩]
    cases available : answers.buffer with
    | false => exact kept
    | true =>
      have pictures := kept.sound.pictures
      rw [none_current, toList_none, append_nil] at pictures
      refine ⟨⟨kept.sound.chunks, ledger_grows pictures, kept.sound.uses, ?_,
        kept.sound.runs⟩, ⟨held, framed, current, some_ne_none _⟩, kept.allocated, kept.fine⟩
      intro failed fails
      exact absurd (kept.fine.symm.trans fails) (some_ne_none failed).symm
  · rw [if_neg step]
    exact kept

theorem use_sound (kept : MachineKept decoder)
    (current : decoder.header = some decoder.frame) (picture : decoder.pCurFrm ≠ none) :
    ∀ use ∈ decoder.use.uses, use.picture ≠ none ∧ use.fresh = true := by
  intro use member
  rcases mem_append.mp member with earlier | now
  · exact kept.sound.uses use earlier
  · obtain rfl := mem_singleton.mp now
    exact ⟨picture, decide_eq_true current⟩

theorem ref_frame_keeps (answers : CallAnswers) (decoder : Vp9HwDecode)
    (kept : MachineKept decoder) (guard : MemorySucceeds answers decoder) :
    (refFrameStep answers decoder).Keeps := by
  unfold refFrameStep
  by_cases step : decoder.nDecStep = .VP9_DEC_GET_FBM_BUFFER
  · have phase := kept.phase
    unfold PhaseKept at phase
    rw [step] at phase
    obtain ⟨held, framed, current, picture⟩ := phase
    obtain ⟨refFrm, filterMem⟩ := guard step
    simp only [if_pos step, refFrm, filterMem, ne_eq, not_true, if_false]
    refine ⟨⟨kept.sound.chunks, kept.sound.pictures, use_sound kept current picture, ?_,
      kept.sound.runs⟩, ⟨held, framed, current, picture⟩, kept.allocated, kept.fine⟩
    intro failed fails
    exact absurd (kept.fine.symm.trans fails) (some_ne_none failed).symm
  · rw [if_neg step]
    exact kept

theorem asic_keeps (decoder : Vp9HwDecode) (kept : MachineKept decoder) :
    (asicStep decoder).Keeps := by
  unfold asicStep
  by_cases step : decoder.nDecStep = .VP9_DEC_PREPARE_ASIC
  · have phase := kept.phase
    unfold PhaseKept at phase
    rw [step] at phase
    obtain ⟨held, ⟨low, high⟩, current, picture⟩ := phase
    obtain ⟨nDataLen, lengthRead⟩ :=
      lenAt_ok decoder.real_data_len ((decoder.nFrameNums + 255) % 256) (by omega)
    rw [if_pos step]
    dsimp only [Vp9HwDecode.use]
    rw [lengthRead]
    have picked : ¬ decoder.use.pCurFrm = none := picture
    change Flow.Keeps (if decoder.use.pCurFrm = none then _ else _)
    rw [if_neg picked]
    refine ⟨⟨kept.sound.chunks, kept.sound.pictures, use_sound kept current picture, ?_,
      kept.sound.runs⟩, ⟨held, ?_, current, picture⟩, kept.allocated, kept.fine⟩
    · intro failed fails
      exact absurd (kept.fine.symm.trans fails) (some_ne_none failed).symm
    · change (decoder.nFrameNums + 255) % 256 ≤ 4
      omega
  · rw [if_neg step]
    exact kept

theorem hand_over_pictures (pictures : (decoder.handedOver ++ decoder.pCurFrm.toList).Perm
      (List.range decoder.buffers)) :
    (decoder.handOver.handedOver ++ decoder.handOver.pCurFrm.toList).Perm
      (List.range decoder.buffers) := by
  change (decoder.handedOver ++ decoder.pCurFrm.toList ++ []).Perm _
  rw [append_nil]
  exact pictures

theorem flush_chunks (chunks : (decoder.flushed ++ decoder.curStreamData.toList).Perm
      (List.range decoder.requested)) :
    ((flushCurrent decoder).flushed ++ (flushCurrent decoder).curStreamData.toList).Perm
      (List.range decoder.requested) := by
  change (decoder.flushed ++ decoder.curStreamData.toList ++ []).Perm _
  rw [append_nil]
  exact chunks

theorem result_keeps (answers : CallAnswers) (decoder : Vp9HwDecode)
    (kept : MachineKept decoder) (guard : SyncSucceeds answers decoder) :
    (resultStep answers decoder).Keeps := by
  unfold resultStep
  by_cases step : decoder.nDecStep = .VP9_DEC_PROCESS_DEC_RESULT
  · have phase := kept.phase
    unfold PhaseKept at phase
    rw [step] at phase
    obtain ⟨held, high, current, picture⟩ := phase
    have unfailed : ∀ next failed, decoder.failedIn = some failed → next ≠ failed := by
      intro next failed fails
      exact absurd (kept.fine.symm.trans fails) (some_ne_none failed).symm
    have pictures := hand_over_pictures kept.sound.pictures
    have uses := use_sound kept current picture
    simp only [if_pos step, guard step, ne_eq, not_true, if_false]
    by_cases more : decoder.nFrameNums = 0
    · have last : ¬ decoder.use.handOver.nFrameNums ≠ 0 := fun some_left => some_left more
      rw [if_neg last]
      exact ⟨⟨flush_chunks kept.sound.chunks, pictures, uses, unfailed _, kept.sound.runs⟩,
        ⟨rfl, rfl⟩, kept.allocated, kept.fine⟩
    · have left_over : decoder.use.handOver.nFrameNums ≠ 0 := more
      rw [if_pos left_over]
      exact ⟨⟨kept.sound.chunks, pictures, uses, unfailed _, kept.sound.runs⟩,
        ⟨held, ⟨Nat.pos_of_ne_zero more, high⟩, rfl⟩, kept.allocated, kept.fine⟩
  · rw [if_neg step]
    exact kept

/-! ## Calls and runs -/

theorem decode_keeps (answers : CallAnswers) (decoder : Vp9HwDecode) (kept : MachineKept decoder)
    (guard : StepsSucceed decoder (.decode answers)) :
    MachineKept (vp9HwDecoderDecode answers decoder).1 := by
  obtain ⟨data, header, memory, sync⟩ := guard
  have restarted : MachineKept { decoder with failedIn := none } :=
    ⟨⟨kept.sound.chunks, kept.sound.pictures, kept.sound.uses,
      fun _ fails => absurd fails (some_ne_none _).symm, kept.sound.runs⟩,
      kept.phase, kept.allocated, rfl⟩
  have one : (untilData answers decoder).Keeps := prepare_data_keeps answers _ restarted data
  have two : (untilHeader answers decoder).Keeps := by
    apply keeps_andThen one
    intro next goes keptNext
    rw [goes] at header
    exact picture_header_keeps answers next keptNext header
  have three : (untilBuffer answers decoder).Keeps :=
    keeps_andThen two fun next _ keptNext => frame_buffer_keeps answers next keptNext
  have four : (untilRefFrame answers decoder).Keeps := by
    apply keeps_andThen three
    intro next goes keptNext
    rw [goes] at memory
    exact ref_frame_keeps answers next keptNext memory
  have five : (untilAsic answers decoder).Keeps :=
    keeps_andThen four fun next _ keptNext => asic_keeps next keptNext
  have six : ((untilAsic answers decoder).andThen (resultStep answers)).Keeps := by
    apply keeps_andThen five
    intro next goes keptNext
    rw [goes] at sync
    exact result_keeps answers next keptNext sync
  unfold vp9HwDecoderDecode
  generalize (untilAsic answers decoder).andThen (resultStep answers) = flow at six ⊢
  cases flow with
  | goes next | returns next result => exact six

theorem reset_keeps (decoder : Vp9HwDecode) (kept : MachineKept decoder) :
    MachineKept (vp9HwDecoderReset decoder) :=
  ⟨⟨flush_chunks kept.sound.chunks, hand_over_pictures kept.sound.pictures, kept.sound.uses,
    fun _ fails => absurd (kept.fine.symm.trans fails) (some_ne_none _).symm,
    kept.sound.runs⟩, ⟨rfl, rfl⟩, kept.allocated, kept.fine⟩

theorem machine_step_keeps {next : Vp9HwDecode} {op : DecoderOp}
    (kept : MachineKept decoder) (guard : StepsSucceed decoder op)
    (step : decoderExec decoder op = some next) : MachineKept next := by
  have alive : ¬ decoder.stopped = true := by simp [kept.sound.runs]
  cases op with
  | decode answers =>
    obtain rfl := Option.some.inj step
    rw [if_neg alive]
    exact decode_keeps answers decoder kept guard
  | reset =>
    obtain rfl := Option.some.inj step
    rw [if_neg alive]
    exact reset_keeps decoder kept

theorem fresh_keeps (nSbmBufSize : Nat) (tempBuf : Bool) :
    MachineKept (freshDecoder nSbmBufSize tempBuf) :=
  ⟨⟨List.Perm.refl _, List.Perm.refl _, fun _ member => absurd member not_mem_nil,
    fun _ fails => absurd fails (some_ne_none _).symm, rfl⟩, ⟨rfl, rfl⟩,
    fun same => DecStat.noConfusion same, rfl⟩

/-- In a run of `Decode` and `Reset` whose steps all succeed, the promises are kept in every
state reached. -/
theorem machine_sound_in_guarded_runs (nSbmBufSize : Nat) (tempBuf : Bool)
    {ops : List DecoderOp} {final : Vp9HwDecode}
    (guarded : StepsMeet StepsSucceed decoderExec (freshDecoder nSbmBufSize tempBuf) ops)
    (run : runOps decoderExec (freshDecoder nSbmBufSize tempBuf) ops = some final) :
    MachineSound final := by
  have kept : MachineKept final :=
    guarded_run_invariant (fun _ _ _ kept guard step => machine_step_keeps kept guard step)
      (fresh_keeps nSbmBufSize tempBuf) guarded run
  exact kept.sound

def allSucceeds (stream : List StreamData) : CallAnswers where
  bEndOfStream := false
  stream := stream
  tempBuffer := true
  tag := true
  show_existing_frame := false
  frameHeader := true
  noSize := false
  frozen := false
  pictures := true
  fbm := true
  buffer := true
  refFrm := 0
  filterMem := 0
  sync := 0
  key_frame := true

/-- An empty chunk, a superframe of two frames, and a chunk that has to wait for a picture. -/
def plainRun : List DecoderOp :=
  [.decode (allSucceeds [⟨0, []⟩, ⟨0, [0x82, 0x82, 0x49, 0xC1, 1, 2, 0xC1]⟩]),
    .decode (allSucceeds []),
    .decode { allSucceeds [⟨12, [0x82, 1, 2, 3, 4, 5]⟩] with buffer := false },
    .decode (allSucceeds []), .decode { allSucceeds [⟨2, [0x82]⟩] with buffer := false }, .reset,
    .decode { allSucceeds [] with bEndOfStream := true }]

theorem plain_run_sound : ∃ final,
    runOps decoderExec (freshDecoder 16 true) plainRun = some final ∧ MachineSound final ∧
      final.flushed = [0, 1, 2, 3] ∧ final.handedOver = [0, 1, 2] := by
  have observed : (runOps decoderExec (freshDecoder 16 true) plainRun).map
      (fun final => (final.flushed, final.handedOver)) = some ([0, 1, 2, 3], [0, 1, 2]) := by decide
  obtain ⟨final, run, data⟩ := map_eq_some_iff.mp observed
  refine ⟨final, run, ?_, congrArg Prod.fst data, congrArg Prod.snd data⟩
  exact machine_sound_in_guarded_runs 16 true (by decide +kernel) run

/-- A failed synchronisation leaves the step, which then runs without a picture; no picture
buffers at all end in a `NULL` dereference. -/
theorem failed_steps_break_promises : (∃ final, runOps decoderExec (freshDecoder 16 true)
        [.decode { allSucceeds [⟨0, [0x82]⟩] with sync := -1 }, .decode (allSucceeds [])] =
          some final ∧ ¬ MachineSound final) ∧
      ∃ final, runOps decoderExec (freshDecoder 16 true)
        [.decode { allSucceeds [⟨0, [0x82]⟩] with fbm := false }] = some final ∧
          ¬ MachineSound final := by
  constructor
  · have observed : (runOps decoderExec (freshDecoder 16 true)
        [.decode { allSucceeds [⟨0, [0x82]⟩] with sync := -1 }, .decode (allSucceeds [])]).map
          (fun final => final.uses.any fun use => use.picture.isNone) = some true := by
      decide
    obtain ⟨final, run, data⟩ := map_eq_some_iff.mp observed
    refine ⟨final, run, fun sound => ?_⟩
    obtain ⟨use, member, missing⟩ := any_eq_true.mp data
    exact (sound.uses use member).1 (isNone_iff_eq_none.mp missing)
  · have observed : (runOps decoderExec (freshDecoder 16 true)
        [.decode { allSucceeds [⟨0, [0x82]⟩] with fbm := false }]).map
          (fun final => final.stopped) = some true := by
      decide
    obtain ⟨final, run, data⟩ := map_eq_some_iff.mp observed
    refine ⟨final, run, fun sound => ?_⟩
    exact Bool.noConfusion (data.symm.trans sound.runs)

end CedarC.Vp9
