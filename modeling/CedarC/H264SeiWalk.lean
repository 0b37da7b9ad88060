import CedarC.ByteReader
import CedarC.EmulationPrevention
import CedarC.TaggedMessages

/-!
# The walk over the messages of an SEI unit

`H264DecodeSei` counts the bits it has read in `nDataBitIndex` and tests them against the
length of the unit, that has the header and the emulation prevention bytes in it. The bit
reader brings the payload and then what lies behind the unit.
-/

namespace CedarC.H264SeiWalk

open ByteReader EmulationPrevention FixedWidth H264SpsReader List Option TaggedMessages

section Source

inductive CodedFrameRatio
  | none
  | ratio4_3
  | ratio14_9
  | ratio16_9
  | other
  deriving DecidableEq

/-- What the walk uses of a sequence parameter set. The lengths come from five bits. -/
structure H264SpsInfo where
  bCodedFrameRatio : CodedFrameRatio
  bPicStructPresentFlag : Bool
  bNalHrdParametersPresentFlag : Bool
  bVclHrdParametersPresentFlag : Bool
  nCpbRemovalDelayLength : Nat
  nDpbOutputDelayLength : Nat
  nTimeOffsetLength : Nat
  removal_le : nCpbRemovalDelayLength ≤ 32
  output_le : nDpbOutputDelayLength ≤ 32

/-- What the walk writes in `hCtx`. -/
structure H264Context where
  bProgressice : UInt8
  nSeiRecoveryFrameCnt : UInt32

variable (reader : BitReader)

def readPartialTime : StateM reader.State Unit := do
  if ← GetFlag reader then
    let _ ← GetBits reader 6
    if ← GetFlag reader then
      let _ ← GetBits reader 6
      if ← GetFlag reader then
        let _ ← GetBits reader 5

def readTimeOffset (nTimeOffsetLength : Nat) : StateM reader.State Unit := do
  if 0 < nTimeOffsetLength then
    let _ ← GetBits reader nTimeOffsetLength

/-- One turn of the loop of `H264GetSeiCntType`. -/
def readStamp (nTimeOffsetLength : Nat) : StateM reader.State UInt32 := do
  if ← GetFlag reader then
    let countType ← GetBits reader 2
    let _ ← GetBits reader 6
    let nFullTimestampFlag ← GetFlag reader
    let _ ← GetBits reader 10
    if nFullTimestampFlag then
      let _ ← GetBits reader 17
    else readPartialTime reader
    readTimeOffset reader nTimeOffsetLength
    return 1 <<< countType
  else return 0

def readStamps (nTimeOffsetLength : Nat) : Nat → UInt32 → StateM reader.State UInt32
  | 0, nSeiCntType => return nSeiCntType
  | count + 1, nSeiCntType => do
      let kind ← readStamp reader nTimeOffsetLength
      readStamps nTimeOffsetLength count (nSeiCntType ||| kind)

def H264_SEI_NUM_CLOCK_TS_TABLE : List Nat := [1, 1, 1, 2, 2, 3, 3, 2, 3]

def H264GetSeiCntType (seiPicStruct nTimeOffsetLength : Nat) : StateM reader.State UInt32 :=
  readStamps reader nTimeOffsetLength (H264_SEI_NUM_CLOCK_TS_TABLE.getD seiPicStruct 0) 0

/-- The picture structure of a timing message, and whether the picture is progressive. -/
def readPicStruct (pCurSps : H264SpsInfo) (nSliceDataLen nDataBitIndex : Int) :
    StateM reader.State (Option UInt8) := do
  if pCurSps.bPicStructPresentFlag then
    if nSliceDataLen < nDataBitIndex + 4 then return none
    else
      let seiPicStruct ← GetBits reader 4
      if seiPicStruct ≤ 8 then
        let nSeiCntType ←
          H264GetSeiCntType reader seiPicStruct.toNat pCurSps.nTimeOffsetLength
        if nSeiCntType &&& 3 ≠ 0 ∧ seiPicStruct ≤ 4 then
          return some (if nSeiCntType &&& 2 = 0 then 1 else 0)
        else return none
      else return none
  else return none

/-- `SEI_TYPE_PIC_TIMING`. -/
def readPicTiming (pCurSps : H264SpsInfo) (nSliceDataLen nDataBitIndex : Int) :
    StateM reader.State (Option UInt8) := do
  if pCurSps.bNalHrdParametersPresentFlag || pCurSps.bVclHrdParametersPresentFlag then
    if nSliceDataLen < nDataBitIndex + pCurSps.nCpbRemovalDelayLength then return none
    else
      let _ ← GetBits reader pCurSps.nCpbRemovalDelayLength
      let nDataBitIndex := nDataBitIndex + pCurSps.nCpbRemovalDelayLength
      if nSliceDataLen < nDataBitIndex + pCurSps.nDpbOutputDelayLength then return none
      else
        let _ ← GetBits reader pCurSps.nDpbOutputDelayLength
        readPicStruct reader pCurSps nSliceDataLen
          (nDataBitIndex + pCurSps.nDpbOutputDelayLength)
  else readPicStruct reader pCurSps nSliceDataLen nDataBitIndex

/-- The loop over `code`, with the sum so far: the sum and the index behind it, or nothing
where the data ends before. -/
def readCodes (nSliceDataLen : Int) : Nat → Int → Int → StateM reader.State (Option (Int × Int))
  | 0, _, _ => return none
  | turns + 1, sum, nDataBitIndex => do
      if nSliceDataLen < nDataBitIndex + 8 then return none
      else
        let code ← GetBits reader 8
        let sum := s32 (sum + code.toNat)
        if code = 255 then readCodes nSliceDataLen turns sum (nDataBitIndex + 8)
        else return some (sum, nDataBitIndex + 8)

def turnsFrom (nSliceDataLen nDataBitIndex : Int) : Nat :=
  (nSliceDataLen - nDataBitIndex).toNat / 8 + 1

def skipChunks (chunk : Nat) : Nat → StateM reader.State Unit
  | 0 => return ()
  | count + 1 => do
      let _ ← GetBits reader chunk
      skipChunks chunk count

/-- `num` chunks and the `remainBits` behind them. There is no reading a negative number of
bits. -/
def skipBits (chunk bits : Int) (state : reader.State) : Option reader.State :=
  let num := bits.tdiv chunk
  let remainBits := bits - num * chunk
  if remainBits < 0 then none
  else some (GetBits reader remainBits.toNat (skipChunks reader chunk.toNat num.toNat state).2).2

/-- A turn of the walk: the message it has gone into with the state of the reader in front of
the message's bytes, what it leaves behind, and the index that the next turn starts from. -/
structure Turn where
  entered : Option (Int × Int × reader.State)
  state : reader.State
  hCtx : H264Context
  nDataBitIndex : Option Int

def alignBits (nSliceDataLen nDataBitIndex : Int) (state : reader.State) :
    Option (reader.State × Option Int) :=
  let n := (-nDataBitIndex) % 8
  if n ≠ 0 then
    if nSliceDataLen < nDataBitIndex + n then some (state, none)
    else (skipBits reader 24 n state).map fun state => (state, some (nDataBitIndex + n))
  else some (state, some nDataBitIndex)

def readBody (pCurSps : H264SpsInfo) (nSliceDataLen nDataBitIndex : Int) (hCtx : H264Context)
    (type size : Int) (state : reader.State) : Option (Turn reader) :=
  if type = 1 then
    let read := readPicTiming reader pCurSps nSliceDataLen nDataBitIndex state
    some ⟨some (type, size, state), read.2,
      { hCtx with bProgressice := read.1.getD hCtx.bProgressice }, none⟩
  else if type = 6 then
    let count := GetUeGolomb reader state
    let behind := (GetBits reader 4 count.2).2
    let hCtx := { hCtx with nSeiRecoveryFrameCnt := count.1 }
    if nSliceDataLen < nDataBitIndex + 36 then
      some ⟨some (type, size, state), behind, hCtx, none⟩
    else
      (alignBits reader nSliceDataLen (nDataBitIndex + 36) behind).map fun aligned =>
        ⟨some (type, size, state), aligned.1, hCtx, aligned.2⟩
  else if nSliceDataLen < s32 (nDataBitIndex + s32 (8 * size)) then
    some ⟨none, state, hCtx, none⟩
  else
    (skipBits reader 32 (s32 (8 * size)) state).bind fun behind =>
      (alignBits reader nSliceDataLen (s32 (nDataBitIndex + s32 (8 * size))) behind).map
        fun aligned => ⟨some (type, size, state), aligned.1, hCtx, aligned.2⟩

def readMessage (pCurSps : H264SpsInfo) (nSliceDataLen nDataBitIndex : Int)
    (hCtx : H264Context) (state : reader.State) : Option (Turn reader) :=
  let type := readCodes reader nSliceDataLen (turnsFrom nSliceDataLen nDataBitIndex) 0
    nDataBitIndex state
  type.1.elim (some ⟨none, type.2, hCtx, none⟩) fun first =>
    let size := readCodes reader nSliceDataLen (turnsFrom nSliceDataLen first.2) 0 first.2 type.2
    size.1.elim (some ⟨none, size.2, hCtx, none⟩) fun second =>
      readBody reader pCurSps nSliceDataLen second.2 hCtx first.1 second.1 size.2

/-- A message that the walk has gone into, and the states of the reader on its two sides. -/
structure Entered where
  type : Int
  size : Int
  before : reader.State
  after : reader.State

structure Walked where
  entered : List (Entered reader)
  state : reader.State
  hCtx : H264Context

def Turn.enteredList {reader : BitReader} (turn : Turn reader) : List (Entered reader) :=
  (turn.entered.map fun entered =>
    ⟨entered.1, entered.2.1, entered.2.2, turn.state⟩).toList

/-- The loop over the messages. That it stops is part of what there is to show. -/
def walk (pCurSps : H264SpsInfo) (nSliceDataLen : Int) :
    Nat → Int → H264Context → reader.State → Option (Walked reader)
  | 0, _, _, _ => none
  | turns + 1, nDataBitIndex, hCtx, state =>
    if nDataBitIndex + 16 < nSliceDataLen then
      (readMessage reader pCurSps nSliceDataLen nDataBitIndex hCtx state).bind fun turn =>
        turn.nDataBitIndex.elim (some ⟨turn.enteredList, turn.state, turn.hCtx⟩)
          fun nDataBitIndex =>
            (walk pCurSps nSliceDataLen turns nDataBitIndex turn.hCtx turn.state).map
              fun walked => { walked with entered := turn.enteredList ++ walked.entered }
    else some ⟨[], state, hCtx⟩

/-- The scan of `H264ProcessActiveFormat` for `DTG1`, from the index on. -/
def findFormat : Nat → Nat → List UInt8 → Option Nat
  | _, _, [] => none
  | nextCode, i, byte :: rest =>
    if (nextCode * 256 % 2 ^ 32 ||| byte.toNat) = 0x44544731 then some i
    else findFormat (nextCode * 256 % 2 ^ 32 ||| byte.toNat) (i + 1) rest

/-- How far `H264ProcessActiveFormat` reads in the buffer that it has copied the unit to. -/
def activeFormatReads (pCurSps : H264SpsInfo) (buffer : List UInt8) (nSliceDataLen : Nat) : Nat :=
  if pCurSps.bCodedFrameRatio ≠ .ratio4_3 ∧ pCurSps.bCodedFrameRatio ≠ .ratio16_9 then 0
  else
    (findFormat 0xffffffff 0 (buffer.take nSliceDataLen)).elim nSliceDataLen fun i =>
      if (buffer.getD (i + 1) 0).toNat.testBit 6 then i + 3 else i + 2

/-- `H264DecodeSei`, the bits behind the header. -/
def H264DecodeSei (pCurSps : H264SpsInfo) (nSliceDataLen : Int) (turns : Nat)
    (hCtx : H264Context) (state : reader.State) : Option (Walked reader) :=
  walk reader pCurSps (nSliceDataLen - 8) turns 0 hCtx state

end Source

section Property

/-- An SEI unit with its header. Its length in bits, and that of one more field, is an `s32`.
`behind` is what the bit reader brings behind the payload, `stale` what there is in the buffer
of `H264ProcessActiveFormat` behind the copy. -/
structure SeiUnit where
  header : UInt8
  body : List UInt8
  behind : List UInt8
  stale : List UInt8
  fits : body.length + 9 < 2 ^ 28

variable (unit : SeiUnit)

def SeiUnit.bytes : List UInt8 := unit.header :: unit.body

def SeiUnit.payload : List UInt8 := (rbsp unit.bytes).tail

def SeiUnit.stream : List UInt8 := unit.payload ++ unit.behind

/-- The bytes that the walk may read: as many as the unit has behind the header. -/
def SeiUnit.told : List UInt8 :=
  (List.range unit.body.length).map fun place => unit.stream.getD place 0

variable (pCurSps : H264SpsInfo) (hCtx : H264Context)

def readFor {stream : List UInt8} (entered : Entered (byteReader stream)) : Int × Int × Nat :=
  (entered.type, entered.size, Nat.sub entered.after entered.before)

def dueFor (message : TaggedMessages.Message) : Int × Int × Nat :=
  (s32 message.type, message.size, 8 * message.size)

/-- From a position on, the walk ends, has read for each message that follows as many bits as
its size says, and no bit behind the payload. -/
def ConsumesFrom (nDataBitIndex : Int) (hCtx : H264Context) (place : Nat)
    (rest : List UInt8) : Prop :=
  ∃ turns walked,
    walk (byteReader unit.stream) pCurSps (8 * unit.body.length : Nat) turns nDataBitIndex hCtx
      place = some walked ∧
    walked.entered.map readFor = (TaggedMessages.messages rest).map dueFor ∧
    Nat.le walked.state (8 * unit.payload.length)

/-- The walk over a unit ends, reads exactly the messages that the unit holds and nothing
behind the unit. -/
def ConsumesMessages : Prop :=
  (∃ turns walked,
    H264DecodeSei (byteReader unit.stream) pCurSps (8 * unit.bytes.length : Nat) turns hCtx
      (0 : Nat) = some walked ∧
    walked.entered.map readFor = (TaggedMessages.messages unit.told).map dueFor ∧
    Nat.le walked.state (8 * unit.payload.length)) ∧
  activeFormatReads pCurSps (unit.bytes ++ unit.stale) unit.bytes.length ≤ unit.bytes.length

end Property

section Syntax

variable (stream : List UInt8)

/-- The bits of the seconds, minutes and hours of a stamp. -/
def partialBits (place : Nat) : Nat :=
  if bitAt stream place then
    if bitAt stream (place + 7) then if bitAt stream (place + 14) then 20 else 15
    else 8
  else 1

def stampBits (offset place : Nat) : Nat :=
  if bitAt stream place then
    20 + (if bitAt stream (place + 9) then 17 else partialBits stream (place + 20)) + offset
  else 1

def stampsBits (offset : Nat) : Nat → Nat → Nat
  | 0, _ => 0
  | count + 1, place =>
    stampBits stream offset place + stampsBits offset count (place + stampBits stream offset place)

def fieldsWithin : Nat → List Nat → Nat
  | _, [] => 0
  | room, field :: fields =>
    if field ≤ room then field + fieldsWithin (room - field) fields else 0

def timingFields (pCurSps : H264SpsInfo) : List Nat :=
  (if pCurSps.bNalHrdParametersPresentFlag || pCurSps.bVclHrdParametersPresentFlag then
    [pCurSps.nCpbRemovalDelayLength, pCurSps.nDpbOutputDelayLength] else []) ++
  (if pCurSps.bPicStructPresentFlag then [4] else [])

def structBits (offset place : Nat) : Nat :=
  let picture := bitsAt stream place 4
  if picture ≤ 8 then
    stampsBits stream offset (H264_SEI_NUM_CLOCK_TS_TABLE.getD picture 0) (place + 4)
  else 0

/-- The fields of a timing message of which the unit has room for the ones before the stamps,
and the stamps when it has room for them all. -/
def timingBits (pCurSps : H264SpsInfo) (place room : Nat) : Nat :=
  fieldsWithin room (timingFields pCurSps) +
    if pCurSps.bPicStructPresentFlag ∧ (timingFields pCurSps).sum ≤ room then
      structBits stream pCurSps.nTimeOffsetLength (place + (timingFields pCurSps).sum - 4)
    else 0

/-- What follows the first `DTG1`. -/
def behindFormat : List UInt8 → Option (List UInt8)
  | first :: second :: third :: fourth :: rest =>
    if first = 0x44 ∧ second = 0x54 ∧ third = 0x47 ∧ fourth = 0x31 then some rest
    else behindFormat (second :: third :: fourth :: rest)
  | _ => none

def isTiming (type : Nat) : Bool := s32 type = 1

def reached (told : List UInt8) : List TaggedMessages.Message :=
  (TaggedMessages.laidUntil isTiming told).1

/-- What must hold of the messages in the rest of what may be read. -/
structure OrderlyFrom (unit : SeiUnit) (pCurSps : H264SpsInfo) (rest : List UInt8) : Prop where
  recovery : ∀ message ∈ reached rest, s32 message.type ≠ 6
  timing : ∀ message ∈ reached rest, s32 message.type = 1 → message.size ≤ message.left ∧
    timingBits unit.stream pCurSps (8 * (unit.body.length - message.left)) (8 * message.left) =
      8 * message.size ∧
    TaggedMessages.messages
      (unit.told.drop (unit.body.length - message.left + message.size)) = []
  cut : ∀ message ∈ reached rest, message.left < message.size →
    8 * unit.body.length < s32 (8 * (unit.body.length - message.left : Nat) + 8 * message.size)
  inside : unit.body.length - (TaggedMessages.laidUntil isTiming rest).2 ≤ unit.payload.length

/-- No recovery point; a picture timing message is the last one and has no more bits than
those of its fields; the end of a message that is cut off counts as behind the unit in 32 bits
too; what the syntax goes over, in a unit as long as this one, is payload; and the bytes that
an active format is looked for in are in the unit. -/
structure Orderly (unit : SeiUnit) (pCurSps : H264SpsInfo) : Prop where
  messages : OrderlyFrom unit pCurSps unit.told
  format : pCurSps.bCodedFrameRatio = .ratio4_3 ∨ pCurSps.bCodedFrameRatio = .ratio16_9 →
    ∀ rest, behindFormat unit.bytes = some rest →
      1 ≤ rest.length ∧ ((rest.getD 0 0).toNat.testBit 6 → 2 ≤ rest.length)

theorem partial_time_place (place : Nat) :
    (readPartialTime (byteReader stream) place).2 = (place + partialBits stream place : Nat) := by
  unfold readPartialTime partialBits
  rw [bind_read, get_flag_read]
  cases seconds : bitAt stream place with
  | false => rfl
  | true =>
    rw [if_pos rfl, if_pos rfl, bind_read, get_bits_read, bind_read, get_flag_read]
    dsimp only
    rw [Nat.add_assoc place 1 6]
    cases minutes : bitAt stream (place + 7) with
    | false => rfl
    | true =>
      rw [if_pos rfl, if_pos rfl, bind_read, get_bits_read, bind_read, get_flag_read]
      dsimp only
      rw [Nat.add_assoc place 7 1, Nat.add_assoc place 8 6]
      cases hours : bitAt stream (place + 14) with
      | false | true => rfl

theorem time_offset_place (offset place : Nat) :
    (readTimeOffset (byteReader stream) offset place).2 = (place + offset : Nat) := by
  unfold readTimeOffset
  cases offset with
  | zero | succ offset => rfl

theorem stamp_place (offset place : Nat) : (readStamp (byteReader stream) offset place).2 =
      (place + stampBits stream offset place : Nat) := by
  unfold readStamp stampBits
  rw [bind_read, get_flag_read]
  cases present : bitAt stream place with
  | false => rfl
  | true =>
    rw [if_pos rfl, if_pos rfl, bind_read, get_bits_read, bind_read, get_bits_read, bind_read,
      get_flag_read, bind_read, get_bits_read]
    dsimp only
    have flag : place + 1 + 2 + 6 = place + 9 := by omega
    have time : place + 9 + 1 + 10 = place + 20 := by omega
    rw [flag, time]
    cases full : bitAt stream (place + 9) with
    | true =>
      rw [if_pos rfl, if_pos rfl, bind_read, bind_read, get_bits_read]
      dsimp only
      rw [pure_read, time_offset_place]
      omega
    | false =>
      rw [if_neg Bool.false_ne_true, if_neg Bool.false_ne_true, bind_read, bind_read,
        pure_read, time_offset_place, partial_time_place]
      omega

theorem stamps_place (offset count place : Nat) (kinds : UInt32) :
    (readStamps (byteReader stream) offset count kinds place).2 =
      (place + stampsBits stream offset count place : Nat) := by
  induction count generalizing place kinds with
  | zero => rfl
  | succ count later =>
    unfold readStamps stampsBits
    rw [bind_read, stamp_place, later]
    exact Nat.add_assoc _ _ _

end Syntax

section Timing

variable (stream : List UInt8) (pCurSps : H264SpsInfo) (length : Nat)

/-- The table has an entry for each of the picture structures that it is asked for. -/
theorem pic_struct_place (index place : Nat) (inside : index ≤ length) :
    (readPicStruct (byteReader stream) pCurSps length index place).2 = (place +
        if pCurSps.bPicStructPresentFlag then
          if 4 ≤ length - index then
            4 + structBits stream pCurSps.nTimeOffsetLength place
          else 0
        else 0 : Nat) := by
  unfold readPicStruct
  cases present : pCurSps.bPicStructPresentFlag with
  | false => rfl
  | true =>
    rw [if_pos rfl, if_pos rfl]
    by_cases room : 4 ≤ length - index
    · rw [if_neg (by omega), if_pos room, bind_read, get_bits_read]
      dsimp only
      have small := bits_at_lt stream place 4
      have value : (UInt32.ofNat (bitsAt stream place 4)).toNat = bitsAt stream place 4 :=
        UInt32.toNat_ofNat_of_lt' (Nat.lt_trans small (by decide))
      have same : UInt32.ofNat (bitsAt stream place 4) ≤ 8 ↔ bitsAt stream place 4 ≤ 8 := by
        rw [UInt32.le_iff_toNat_le, value]
        rfl
      unfold structBits
      dsimp only
      by_cases known : bitsAt stream place 4 ≤ 8
      · rw [if_pos (same.mpr known), if_pos known, bind_read, value]
        unfold H264GetSeiCntType
        split
        all_goals
          rw [pure_read, stamps_place]
          exact Nat.add_assoc _ _ _
      · rw [if_neg (fun known' => known (same.mp known')), if_neg known]
        rfl
    · rw [if_pos (by omega), if_neg room]
      rfl

theorem pic_timing_place (index place : Nat) (inside : index ≤ length) :
    (readPicTiming (byteReader stream) pCurSps length index place).2 =
      (place + timingBits stream pCurSps place (length - index) : Nat) := by
  unfold readPicTiming timingBits timingFields
  cases hrd : (pCurSps.bNalHrdParametersPresentFlag ||
    pCurSps.bVclHrdParametersPresentFlag) with
  | false =>
    rw [if_neg Bool.false_ne_true, if_neg Bool.false_ne_true, nil_append,
      pic_struct_place stream pCurSps length index place inside]
    cases present : pCurSps.bPicStructPresentFlag with
    | false => rfl
    | true =>
      dsimp only [if_true]
      by_cases room : 4 ≤ length - index
      · simp [fieldsWithin, room]
      · simp [fieldsWithin, room]
  | true =>
    rw [if_pos rfl, if_pos rfl]
    by_cases removal : pCurSps.nCpbRemovalDelayLength ≤ length - index
    · rw [if_neg (by omega), bind_read, get_bits_read]
      dsimp only
      by_cases output : pCurSps.nDpbOutputDelayLength ≤
          length - index - pCurSps.nCpbRemovalDelayLength
      · rw [if_neg (by omega), bind_read, get_bits_read]
        dsimp only
        have behind : (index : Int) + pCurSps.nCpbRemovalDelayLength +
            pCurSps.nDpbOutputDelayLength =
            (index + pCurSps.nCpbRemovalDelayLength + pCurSps.nDpbOutputDelayLength : Nat) := by
          omega
        rw [behind, pic_struct_place stream pCurSps length _ _ (by omega)]
        cases present : pCurSps.bPicStructPresentFlag with
        | false => simp [fieldsWithin, removal, output, Nat.add_assoc]
        | true =>
          by_cases room : 4 ≤ length -
              (index + pCurSps.nCpbRemovalDelayLength + pCurSps.nDpbOutputDelayLength)
          · have all : pCurSps.nCpbRemovalDelayLength + (pCurSps.nDpbOutputDelayLength + 4) ≤
                length - index := by omega
            have four : 4 ≤ length - index - pCurSps.nCpbRemovalDelayLength -
                pCurSps.nDpbOutputDelayLength := by omega
            have start : place + (pCurSps.nCpbRemovalDelayLength +
                (pCurSps.nDpbOutputDelayLength + 4)) - 4 =
                place + pCurSps.nCpbRemovalDelayLength + pCurSps.nDpbOutputDelayLength := by omega
            simp [fieldsWithin, removal, output, room, all, four, start]
            omega
          · have lacking : ¬ pCurSps.nCpbRemovalDelayLength +
                (pCurSps.nDpbOutputDelayLength + 4) ≤ length - index := by omega
            have four : ¬ 4 ≤ length - index - pCurSps.nCpbRemovalDelayLength -
                pCurSps.nDpbOutputDelayLength := by omega
            simp [fieldsWithin, removal, output, lacking, four, Nat.add_assoc]
            omega
      · rw [if_pos (by omega)]
        have lacking : ¬ pCurSps.nCpbRemovalDelayLength + (pCurSps.nDpbOutputDelayLength +
            4) ≤ length - index := by omega
        cases present : pCurSps.bPicStructPresentFlag with
        | false => simp [fieldsWithin, removal, output, pure_read]
        | true => simp [fieldsWithin, removal, output, pure_read, lacking]
    · rw [if_pos (by omega)]
      have lacking : ¬ pCurSps.nCpbRemovalDelayLength + (pCurSps.nDpbOutputDelayLength +
          4) ≤ length - index := by omega
      cases present : pCurSps.bPicStructPresentFlag with
      | false => simp [fieldsWithin, removal, pure_read]
      | true => simp [fieldsWithin, removal, pure_read, lacking]

end Timing

section Codes

variable {unit : SeiUnit}

theorem told_byte {front rest : List UInt8} {byte : UInt8}
    (parts : unit.told = front ++ byte :: rest) :
    unit.stream.getD front.length 0 = byte := by
  have found : unit.told[front.length]? = some byte := by
    rw [parts, List.getElem?_append_right (Nat.le_refl _), Nat.sub_self]
    rfl
  have inside : front.length < unit.body.length := by
    have total := congrArg List.length parts
    unfold SeiUnit.told at total
    rw [length_map, length_range, length_append, length_cons] at total
    omega
  unfold SeiUnit.told at found
  rw [List.getElem?_map, List.getElem?_range inside] at found
  exact Option.some.inj found

theorem told_length : unit.told.length = unit.body.length := by
  unfold SeiUnit.told
  rw [length_map, length_range]

theorem s32_add (sum : Nat) (more : Nat) : s32 (s32 sum + more) = s32 (sum + more : Nat) := by
  unfold s32
  omega

theorem read_codes_exact {turns sum : Nat} {front rest : List UInt8}
    (parts : unit.told = front ++ rest) (enough : rest.length < turns) :
    readCodes (byteReader unit.stream) (8 * unit.body.length : Nat) turns (s32 sum)
      (8 * front.length : Nat) (8 * front.length : Nat) =
      (TaggedMessages.extended rest).elim (none, (8 * unit.body.length : Nat)) fun read =>
        (some (s32 (sum + read.1 : Nat), ((8 * (unit.body.length - read.2.length) : Nat) : Int)),
         (8 * (unit.body.length - read.2.length) : Nat)) := by
  induction rest generalizing turns sum front with
  | nil =>
    have total := congrArg List.length parts
    rw [told_length, append_nil] at total
    cases turns with
    | zero => exact absurd enough (Nat.not_lt_zero _)
    | succ turns =>
      unfold readCodes TaggedMessages.extended
      rw [if_pos (by omega), pure_read, total]
      rfl
  | cons byte rest later =>
    have total := congrArg List.length parts
    rw [told_length, length_append, length_cons] at total
    cases turns with
    | zero => exact absurd enough (Nat.not_lt_zero _)
    | succ turns =>
      unfold readCodes TaggedMessages.extended
      have code : UInt32.ofNat (bitsAt unit.stream (8 * front.length) 8) =
          UInt32.ofNat byte.toNat := by
        rw [bits_at_byte, told_byte parts]
      have small := byte.toNat_lt
      have value : (UInt32.ofNat byte.toNat).toNat = byte.toNat :=
        UInt32.toNat_ofNat_of_lt' (Nat.lt_trans small (by decide))
      have last : UInt32.ofNat byte.toNat = 255 ↔ byte = 255 := by
        rw [← UInt32.toNat_inj, value, ← UInt8.toNat_inj]
        rfl
      rw [if_neg (by omega), bind_read, get_bits_read, code]
      dsimp only
      rw [value, s32_add]
      by_cases more : byte = 255
      · rw [if_pos (last.mpr more), if_pos more]
        have next : (8 * front.length : Nat) + 8 = 8 * (front ++ [byte]).length := by
          rw [length_append, length_singleton]
          omega
        have index : ((8 * front.length : Nat) : Int) + 8 =
            (8 * (front ++ [byte]).length : Nat) := by
          rw [← next]
          rfl
        rw [index, next, @later turns (sum + byte.toNat) (front ++ [byte])
          (by rw [parts, append_assoc]; rfl) (by
            rw [length_cons] at enough
            omega)]
        cases TaggedMessages.extended rest with
        | none => rw [map_none, elim_none, elim_none]
        | some read =>
          have byteValue : byte.toNat = 255 := by
            rw [more]
            rfl
          dsimp only [elim_some, map_some]
          rw [byteValue, Nat.add_assoc]
      · rw [if_neg (fun other => more (last.mp other)), if_neg more, pure_read]
        dsimp only [elim_some]
        have behind : unit.body.length - rest.length = front.length + 1 := by omega
        rw [behind]
        rfl

theorem turns_enough {front rest : List UInt8} (parts : unit.told = front ++ rest) :
    rest.length < turnsFrom (8 * unit.body.length : Nat) (8 * front.length : Nat) := by
  have total := congrArg List.length parts
  rw [told_length, length_append] at total
  unfold turnsFrom
  omega

theorem rest_position {front rest : List UInt8} (parts : unit.told = front ++ rest) :
    front.length = unit.body.length - rest.length := by
  have total := congrArg List.length parts
  rw [told_length, length_append] at total
  omega

theorem read_codes_all {front rest : List UInt8} (parts : unit.told = front ++ rest) :
    readCodes (byteReader unit.stream) (8 * unit.body.length : Nat)
      (turnsFrom (8 * unit.body.length : Nat) (8 * front.length : Nat)) 0
      (8 * front.length : Nat) (8 * front.length : Nat) =
      (TaggedMessages.extended rest).elim (none, (8 * unit.body.length : Nat)) fun read =>
        (some (s32 read.1, ((8 * (unit.body.length - read.2.length) : Nat) : Int)),
         (8 * (unit.body.length - read.2.length) : Nat)) := by
  have nothing : s32 ((0 : Nat) : Int) = 0 := by
    unfold s32
    decide
  have exactly := @read_codes_exact unit _ 0 front rest parts (turns_enough parts)
  rw [nothing] at exactly
  rw [exactly]
  cases TaggedMessages.extended rest with
  | none => rw [elim_none, elim_none]
  | some read =>
    dsimp only [elim_some]
    rw [Nat.zero_add]

variable {pCurSps : H264SpsInfo} {hCtx : H264Context} {front rest : List UInt8}
    (parts : unit.told = front ++ rest)

include parts

theorem read_message_none (read : TaggedMessages.header rest = none) :
    readMessage (byteReader unit.stream) pCurSps (8 * unit.body.length : Nat)
      (8 * front.length : Nat) hCtx (8 * front.length : Nat) =
      some ⟨none, (8 * unit.body.length : Nat), hCtx, none⟩ := by
  unfold readMessage
  dsimp only
  rw [read_codes_all parts]
  unfold TaggedMessages.header at read
  cases first : TaggedMessages.extended rest with
  | none => rw [elim_none, elim_none]
  | some found =>
    rcases found with ⟨type, middle⟩
    rcases extended_parts first with ⟨used, behind, _⟩
    have next : unit.told = (front ++ used) ++ middle := by rw [parts, behind, append_assoc]
    rw [first, bind_some, map_eq_none_iff] at read
    rw [elim_some, elim_some]
    dsimp only
    rw [← rest_position next, read_codes_all next, read, elim_none, elim_none]

theorem read_message_some {type size : Nat} {behind : List UInt8}
    (read : TaggedMessages.header rest = some (type, size, behind)) :
    readMessage (byteReader unit.stream) pCurSps (8 * unit.body.length : Nat)
      (8 * front.length : Nat) hCtx (8 * front.length : Nat) =
      readBody (byteReader unit.stream) pCurSps (8 * unit.body.length : Nat)
        (8 * (unit.body.length - behind.length) : Nat) hCtx (s32 type) (s32 size)
        (8 * (unit.body.length - behind.length) : Nat) := by
  rcases header_some read with ⟨middle, first, second⟩
  rcases extended_parts first with ⟨used, reached, _⟩
  have next : unit.told = (front ++ used) ++ middle := by rw [parts, reached, append_assoc]
  unfold readMessage
  dsimp only
  rw [read_codes_all parts, first, elim_some, elim_some]
  dsimp only
  rw [← rest_position next, read_codes_all next, second, elim_some, elim_some]

end Codes

section Skips

variable (stream : List UInt8)

theorem skip_chunks_place (chunk count place : Nat) :
    (skipChunks (byteReader stream) chunk count place).2 = (place + chunk * count : Nat) := by
  induction count generalizing place with
  | zero => rfl
  | succ count later =>
    unfold skipChunks
    rw [bind_read, get_bits_read, later, Nat.mul_succ]
    exact (Nat.add_assoc _ _ _).trans (congrArg (place + ·) (Nat.add_comm _ _))

theorem skip_bits_place (chunk bits place : Nat) :
    skipBits (byteReader stream) chunk bits place = some (place + bits : Nat) := by
  have quotient : (bits : Int).tdiv chunk = (bits / chunk : Nat) := rfl
  have whole := Nat.div_add_mod bits chunk
  have remaining : (bits : Int) - (bits / chunk : Nat) * (chunk : Int) = (bits % chunk : Nat) := by
    have cast : ((bits / chunk : Nat) : Int) * (chunk : Int) = (chunk * (bits / chunk) : Nat) := by
      rw [Nat.mul_comm]
      rfl
    rw [cast]
    generalize chunk * (bits / chunk) = most at whole ⊢
    omega
  unfold skipBits
  dsimp only
  rw [quotient, remaining, if_neg (by omega), Int.toNat_natCast, Int.toNat_natCast,
    Int.toNat_natCast, skip_chunks_place, get_bits_read]
  apply congrArg some
  exact (Nat.add_assoc _ _ _).trans (congrArg (place + ·) whole)

end Skips

section Bodies

variable {stream : List UInt8} {pCurSps : H264SpsInfo} {length index : Nat}
    {hCtx : H264Context} {type size : Int}

theorem entered_read {before after bits : Nat} (context : H264Context) (next : Option Int)
    (read : after = before + bits) :
    (@Turn.enteredList (byteReader stream)
      ⟨some (type, size, before), after, context, next⟩).map readFor = [(type, size, bits)] := by
  have counted : Nat.sub after before = bits := by
    change after - before = bits
    omega
  unfold Turn.enteredList readFor
  rw [map_some, toList_some, map_singleton]
  dsimp only
  rw [counted]

theorem read_body_timing (inside : index ≤ length) (timing : type = 1) :
    ∃ turn, readBody (byteReader stream) pCurSps length index hCtx type size index = some turn ∧
      turn.nDataBitIndex = none ∧
      turn.enteredList.map readFor =
        [(type, size, timingBits stream pCurSps index (length - index))] ∧
      turn.state = (index + timingBits stream pCurSps index (length - index) : Nat) := by
  have place := pic_timing_place stream pCurSps length index index inside
  unfold readBody
  rw [if_pos timing]
  apply Exists.intro
  constructor
  · rfl
  constructor
  · rfl
  constructor
  · exact entered_read _ _ place
  · exact place

variable {turn : Turn (byteReader stream)}

theorem read_body_recovery {position : Nat} (byte : index = 8 * position) (recovery : type = 6)
    (read : readBody (byteReader stream) pCurSps length index hCtx type size index = some turn) :
    ∃ half, turn.enteredList.map readFor = [(type, size, 2 * half + 1)] := by
  unfold readBody at read
  rw [if_neg (by omega), if_pos recovery] at read
  dsimp only at read
  have count : (GetUeGolomb (byteReader stream) index).2 =
      (index + (2 * zerosAt stream index + 1) : Nat) := rfl
  rw [count, get_bits_read] at read
  dsimp only at read
  by_cases short : (length : Int) < (index : Int) + 36
  · rw [if_pos short] at read
    cases read
    apply Exists.intro (zerosAt stream index + 2)
    exact entered_read _ _ (by omega)
  · rw [if_neg short] at read
    have four : (-((index : Int) + 36)) % 8 = (4 : Nat) := by omega
    unfold alignBits at read
    dsimp only at read
    rw [four, if_pos (by decide)] at read
    by_cases last : (length : Int) < (index : Int) + 36 + (4 : Nat)
    · rw [if_pos last, map_some] at read
      cases read
      apply Exists.intro (zerosAt stream index + 2)
      exact entered_read _ _ (by omega)
    · have chunk : (24 : Int) = (24 : Nat) := rfl
      rw [if_neg last, chunk, skip_bits_place, map_some, map_some] at read
      cases read
      apply Exists.intro (zerosAt stream index + 4)
      exact entered_read _ _ (by omega)

variable (notTiming : type ≠ 1) (notRecovery : type ≠ 6)

include notTiming notRecovery

theorem read_body_cut (cut : (length : Int) < s32 (index + s32 (8 * size))) :
    readBody (byteReader stream) pCurSps length index hCtx type size index =
      some ⟨none, index, hCtx, none⟩ := by
  unfold readBody
  rw [if_neg notTiming, if_neg notRecovery, if_pos cut]

theorem read_body_entered (room : ¬ (length : Int) < s32 (index + s32 (8 * size)))
    (read : readBody (byteReader stream) pCurSps length index hCtx type size index = some turn) :
    turn.enteredList ≠ [] := by
  unfold readBody at read
  rw [if_neg notTiming, if_neg notRecovery, if_neg room, bind_eq_some_iff] at read
  rcases read with ⟨behind, _, aligned⟩
  rw [map_eq_some_iff] at aligned
  rcases aligned with ⟨pair, _, same⟩
  rw [← same]
  exact cons_ne_nil _ _

theorem read_body_whole {position bytes : Nat} (byte : index = 8 * position)
    (sized : size = bytes) (inside : index + 8 * bytes ≤ length) (fits : length < 2 ^ 31) :
    readBody (byteReader stream) pCurSps length index hCtx type size index =
      some ⟨some (type, size, index), (index + 8 * bytes : Nat), hCtx,
        some (index + 8 * bytes : Nat)⟩ := by
  have bits : s32 (8 * size) = (8 * bytes : Nat) := by
    rw [sized]
    apply s32_of_range
    unfold InS32
    omega
  have behind : s32 (index + (8 * bytes : Nat)) = (index + 8 * bytes : Nat) := by
    apply s32_of_range
    unfold InS32
    omega
  have aligned : (-((index + 8 * bytes : Nat) : Int)) % 8 = 0 := by omega
  have chunk : (32 : Int) = (32 : Nat) := rfl
  unfold readBody
  rw [if_neg notTiming, if_neg notRecovery, bits, behind, if_neg (by omega), chunk,
    skip_bits_place, bind_some]
  unfold alignBits
  dsimp only
  rw [aligned, if_neg (fun other => other rfl), map_some]

end Bodies

section Walk

variable {unit : SeiUnit} {pCurSps : H264SpsInfo} {hCtx : H264Context} {index : Int}
    {place : Nat} {rest : List UInt8}

theorem consumes_end (last : ¬ index + 16 < (8 * unit.body.length : Nat)) :
    ConsumesFrom unit pCurSps index hCtx place rest ↔
      TaggedMessages.messages rest = [] ∧ place ≤ 8 * unit.payload.length := by
  constructor
  · rintro ⟨turns, walked, ended, exactly, inside⟩
    cases turns with
    | zero => cases ended
    | succ turns =>
      unfold walk at ended
      rw [if_neg last] at ended
      cases ended
      exact ⟨map_eq_nil_iff.mp exactly.symm, inside⟩
  · rintro ⟨none, inside⟩
    apply Exists.intro 1
    apply Exists.intro ⟨[], place, hCtx⟩
    constructor
    · unfold walk
      rw [if_neg last]
    constructor
    · rw [none]
      rfl
    · exact inside

variable (more : index + 16 < (8 * unit.body.length : Nat)) {turn : Turn (byteReader unit.stream)}

include more

theorem walk_starts {turns : Nat} {walked : Walked (byteReader unit.stream)}
    (ended : walk (byteReader unit.stream) pCurSps (8 * unit.body.length : Nat) turns index hCtx
      place = some walked) :
    ∃ turn, readMessage (byteReader unit.stream) pCurSps (8 * unit.body.length : Nat) index hCtx
        place = some turn ∧
      ∃ later, walked.entered = turn.enteredList ++ later := by
  cases turns with
  | zero => cases ended
  | succ turns =>
    unfold walk at ended
    rw [if_pos more, bind_eq_some_iff] at ended
    rcases ended with ⟨turn, read, later⟩
    apply Exists.intro turn
    apply And.intro read
    cases next : turn.nDataBitIndex with
    | none =>
      rw [next, elim_none] at later
      cases later
      exact ⟨[], (append_nil _).symm⟩
    | some index =>
      rw [next, elim_some, map_eq_some_iff] at later
      rcases later with ⟨walked, _, same⟩
      rw [← same]
      exact ⟨walked.entered, rfl⟩

theorem consumes_stop
    (read : readMessage (byteReader unit.stream) pCurSps (8 * unit.body.length : Nat) index hCtx
      place = some turn) (stop : turn.nDataBitIndex = none) :
    ConsumesFrom unit pCurSps index hCtx place rest ↔
      turn.enteredList.map readFor = (TaggedMessages.messages rest).map dueFor ∧
      Nat.le turn.state (8 * unit.payload.length) := by
  constructor
  · rintro ⟨turns, walked, ended, exactly, inside⟩
    cases turns with
    | zero => cases ended
    | succ turns =>
      unfold walk at ended
      rw [if_pos more, read, bind_some, stop, elim_none] at ended
      cases ended
      exact ⟨exactly, inside⟩
  · rintro ⟨exactly, inside⟩
    apply Exists.intro 1
    apply Exists.intro ⟨turn.enteredList, turn.state, turn.hCtx⟩
    constructor
    · unfold walk
      rw [if_pos more, read, bind_some, stop, elim_none]
    · exact ⟨exactly, inside⟩

theorem consumes_go {next : Int} {message : TaggedMessages.Message} {behind : List UInt8}
    (read : readMessage (byteReader unit.stream) pCurSps (8 * unit.body.length : Nat) index hCtx
      place = some turn) (goes : turn.nDataBitIndex = some next)
    (exact_one : turn.enteredList.map readFor = [dueFor message])
    (first : TaggedMessages.messages rest = message :: TaggedMessages.messages behind) :
    ConsumesFrom unit pCurSps index hCtx place rest ↔
      ConsumesFrom unit pCurSps next turn.hCtx turn.state behind := by
  constructor
  · rintro ⟨turns, walked, ended, exactly, inside⟩
    cases turns with
    | zero => cases ended
    | succ turns =>
      unfold walk at ended
      rw [if_pos more, read, bind_some, goes, elim_some, map_eq_some_iff] at ended
      rcases ended with ⟨later, ended, same⟩
      rw [← same] at exactly inside
      dsimp only at exactly inside
      rw [map_append, exact_one, first, map_cons] at exactly
      exact ⟨turns, later, ended, (List.cons.inj exactly).2, inside⟩
  · rintro ⟨turns, later, ended, exactly, inside⟩
    apply Exists.intro (turns + 1)
    apply Exists.intro { later with entered := turn.enteredList ++ later.entered }
    constructor
    · unfold walk
      rw [if_pos more, read, bind_some, goes, elim_some, ended, map_some]
    constructor
    · dsimp only
      rw [map_append, exact_one, first, map_cons, exactly]
      rfl
    · exact inside

end Walk

section Exact

variable {unit : SeiUnit} {pCurSps : H264SpsInfo}

theorem orderly_of_none {rest : List UInt8} (none : reached rest = []) :
    OrderlyFrom unit pCurSps rest ↔
      unit.body.length - (TaggedMessages.laidUntil isTiming rest).2 ≤ unit.payload.length := by
  constructor
  · intro orderly
    exact orderly.inside
  · intro inside
    constructor
    · intro message found
      rw [none] at found
      cases found
    · intro message found
      rw [none] at found
      cases found
    · intro message found
      rw [none] at found
      cases found
    · exact inside

theorem orderly_of_one {rest : List UInt8} {message : TaggedMessages.Message}
    (only : reached rest = [message]) :
    OrderlyFrom unit pCurSps rest ↔ s32 message.type ≠ 6 ∧ (s32 message.type = 1 →
        message.size ≤ message.left ∧
        timingBits unit.stream pCurSps (8 * (unit.body.length - message.left))
          (8 * message.left) = 8 * message.size ∧
        TaggedMessages.messages
          (unit.told.drop (unit.body.length - message.left + message.size)) = []) ∧
      (message.left < message.size → 8 * unit.body.length <
        s32 (8 * (unit.body.length - message.left : Nat) + 8 * message.size)) ∧
      unit.body.length - (TaggedMessages.laidUntil isTiming rest).2 ≤ unit.payload.length := by
  have one : message ∈ reached rest := by
    rw [only]
    exact mem_singleton_self message
  constructor
  · intro orderly
    exact ⟨orderly.recovery message one, orderly.timing message one, orderly.cut message one,
      orderly.inside⟩
  · rintro ⟨recovery, timing, cut, inside⟩
    constructor
    · intro other found
      rw [only, mem_singleton] at found
      rw [found]
      exact recovery
    · intro other found
      rw [only, mem_singleton] at found
      rw [found]
      exact timing
    · intro other found
      rw [only, mem_singleton] at found
      rw [found]
      exact cut
    · exact inside

end Exact

section Cases

variable {unit : SeiUnit} {pCurSps : H264SpsInfo} {hCtx : H264Context} {front rest : List UInt8}
    (parts : unit.told = front ++ rest)

include parts

theorem short_iff (short : rest.length < 3) :
    ConsumesFrom unit pCurSps (8 * front.length : Nat) hCtx (8 * front.length) rest ↔
      OrderlyFrom unit pCurSps rest := by
  have position := rest_position parts
  have total := congrArg List.length parts
  rw [told_length, length_append] at total
  have none : reached rest = [] := by
    unfold reached
    rw [laid_until_short short]
  rw [consumes_end (by omega), orderly_of_none none, laid_until_short short,
    messages_short short, ← position]
  constructor
  · rintro ⟨_, inside⟩
    omega
  · intro inside
    exact ⟨rfl, by omega⟩

variable (long : 3 ≤ rest.length)

include long

theorem turn_follows : ((8 * front.length : Nat) : Int) + 16 < (8 * unit.body.length : Nat) := by
  have total := congrArg List.length parts
  rw [told_length, length_append] at total
  omega

theorem header_none_iff (read : TaggedMessages.header rest = none) :
    ConsumesFrom unit pCurSps (8 * front.length : Nat) hCtx (8 * front.length) rest ↔
      OrderlyFrom unit pCurSps rest := by
  have none : reached rest = [] := by
    unfold reached
    rw [laid_until_none long read]
  rw [consumes_stop (turn_follows parts long) (read_message_none parts read) rfl,
    orderly_of_none none, laid_until_none long read, messages_none long read]
  constructor
  · rintro ⟨_, inside⟩
    have inside' : 8 * unit.body.length ≤ 8 * unit.payload.length := inside
    omega
  · intro inside
    constructor
    · rfl
    · change 8 * unit.body.length ≤ 8 * unit.payload.length
      omega

variable {type size : Nat} {behind : List UInt8}
    (read : TaggedMessages.header rest = some (type, size, behind))

include read

omit long in
theorem behind_position : ∃ used, unit.told = (front ++ used) ++ behind ∧
    (front ++ used).length = unit.body.length - behind.length ∧
    behind.length ≤ unit.body.length ∧ behind.length + 2 ≤ rest.length := by
  rcases header_parts read with ⟨used, follows, two⟩
  apply Exists.intro used
  have next : unit.told = (front ++ used) ++ behind := by rw [parts, follows, append_assoc]
  have total := congrArg List.length parts
  rw [told_length, length_append] at total
  have shorter := congrArg List.length follows
  rw [length_append] at shorter
  exact ⟨next, rest_position next, by omega, by omega⟩

omit long in
theorem messages_behind :
    unit.told.drop (unit.body.length - behind.length + size) = behind.drop size := by
  rcases behind_position parts read with ⟨used, next, position, _, _⟩
  rw [next, ← position, ← drop_drop, drop_left]

theorem timing_iff (timing : s32 type = 1) :
    ConsumesFrom unit pCurSps (8 * front.length : Nat) hCtx (8 * front.length) rest ↔
      OrderlyFrom unit pCurSps rest := by
  have stops : isTiming type = true := decide_eq_true timing
  rcases behind_position parts read with ⟨used, next, position, within, _⟩
  have room : 8 * unit.body.length - 8 * (unit.body.length - behind.length) =
      8 * behind.length := by omega
  rcases @read_body_timing unit.stream pCurSps (8 * unit.body.length)
    (8 * (unit.body.length - behind.length)) hCtx (s32 type) (s32 size) (by omega) timing with
    ⟨turn, body, stop, entered, state⟩
  rw [room] at entered state
  rw [consumes_stop (turn_follows parts long) ((read_message_some parts read).trans body) stop,
    entered, state]
  by_cases whole : size ≤ behind.length
  · have fits := unit.fits
    have sized : s32 size = size := by
      apply s32_of_range
      unfold InS32
      omega
    have laid := laid_until_stop long read whole stops
    have only : reached rest = [⟨type, size, behind.length⟩] := by
      unfold reached
      rw [laid]
    rw [orderly_of_one only, messages_whole long read whole, map_cons, laid, sized]
    dsimp only
    rw [messages_behind parts read]
    unfold dueFor
    constructor
    · rintro ⟨exactly, inside⟩
      have inside' : 8 * (unit.body.length - behind.length) + timingBits unit.stream pCurSps
          (8 * (unit.body.length - behind.length)) (8 * behind.length) ≤
          8 * unit.payload.length := inside
      rcases List.cons.inj exactly with ⟨same, last⟩
      have bits := congrArg (fun triple : Int × Int × Nat => triple.2.2) same
      dsimp only at bits
      constructor
      · omega
      constructor
      · intro _
        exact ⟨whole, bits, map_eq_nil_iff.mp last.symm⟩
      constructor
      · intro cut
        omega
      · omega
    · rintro ⟨_, exactly, _, inside⟩
      rcases exactly timing with ⟨_, bits, last⟩
      constructor
      · rw [bits, last, map_nil]
      · change 8 * (unit.body.length - behind.length) + timingBits unit.stream pCurSps
          (8 * (unit.body.length - behind.length)) (8 * behind.length) ≤
          8 * unit.payload.length
        omega
  · have cut := Nat.not_le.mp whole
    have only : reached rest = [⟨type, size, behind.length⟩] := by
      unfold reached
      rw [laid_until_cut long read cut]
    rw [messages_cut long read cut, orderly_of_one only]
    constructor
    · rintro ⟨exactly, _⟩
      cases exactly
    · rintro ⟨_, exactly, _⟩
      exact absurd (exactly timing).1 whole

omit parts in
theorem reached_head : ∃ later, reached rest = ⟨type, size, behind.length⟩ :: later := by
  unfold reached
  by_cases whole : size ≤ behind.length
  · cases stops : isTiming type with
    | true => exact ⟨[], by rw [laid_until_stop long read whole stops]⟩
    | false => exact ⟨_, by rw [laid_until_whole long read whole stops]⟩
  · exact ⟨[], by rw [laid_until_cut long read (Nat.not_le.mp whole)]⟩

theorem entered_first {turns : Nat} {walked : Walked (byteReader unit.stream)}
    (ended : walk (byteReader unit.stream) pCurSps (8 * unit.body.length : Nat) turns
      (8 * front.length : Nat) hCtx (8 * front.length : Nat) = some walked)
    (exactly : walked.entered.map readFor = (TaggedMessages.messages rest).map dueFor)
    (only : ∀ turn, readBody (byteReader unit.stream) pCurSps (8 * unit.body.length : Nat)
      (8 * (unit.body.length - behind.length) : Nat) hCtx (s32 type) (s32 size)
      (8 * (unit.body.length - behind.length) : Nat) = some turn → turn.enteredList ≠ []) :
    size ≤ behind.length := by
  rcases walk_starts (turn_follows parts long) ended with ⟨turn, turned, later, entered⟩
  rw [read_message_some parts read] at turned
  by_contra cut
  rw [messages_cut long read (Nat.not_le.mp cut), entered, map_nil,
    map_eq_nil_iff, append_eq_nil_iff] at exactly
  exact only turn turned exactly.1

theorem recovery_iff (recovery : s32 type = 6) :
    ConsumesFrom unit pCurSps (8 * front.length : Nat) hCtx (8 * front.length) rest ↔
      OrderlyFrom unit pCurSps rest := by
  rcases reached_head long read with ⟨others, head⟩
  constructor
  · rintro ⟨turns, walked, ended, exactly, _⟩
    rcases walk_starts (turn_follows parts long) ended with ⟨turn, turned, later, entered⟩
    rw [read_message_some parts read] at turned
    rcases read_body_recovery rfl recovery turned with ⟨half, odd⟩
    rw [entered, map_append, odd] at exactly
    by_cases whole : size ≤ behind.length
    · rw [messages_whole long read whole, map_cons] at exactly
      have bits := congrArg (fun triple : Int × Int × Nat => triple.2.2)
        (List.cons.inj exactly).1
      unfold dueFor at bits
      dsimp only at bits
      omega
    · rw [messages_cut long read (Nat.not_le.mp whole)] at exactly
      cases exactly
  · intro orderly
    have first := orderly.recovery ⟨type, size, behind.length⟩
      (by rw [head]; exact mem_cons_self)
    exact absurd recovery first

variable (notTiming : s32 type ≠ 1) (notRecovery : s32 type ≠ 6)

include notTiming notRecovery

theorem cut_iff (cut : behind.length < size) :
    ConsumesFrom unit pCurSps (8 * front.length : Nat) hCtx (8 * front.length) rest ↔
      OrderlyFrom unit pCurSps rest := by
  rcases behind_position parts read with ⟨used, next, position, within, _⟩
  have laid := @laid_until_cut isTiming rest long type size behind read cut
  have only : reached rest = [⟨type, size, behind.length⟩] := by
    unfold reached
    rw [laid]
  have wrapped : s32 ((8 * (unit.body.length - behind.length) : Nat) + s32 (8 * s32 size)) =
      s32 (8 * (unit.body.length - behind.length : Nat) + 8 * size) := by
    unfold s32
    omega
  rw [orderly_of_one only, laid]
  by_cases past : ((8 * unit.body.length : Nat) : Int) <
      s32 ((8 * (unit.body.length - behind.length) : Nat) + s32 (8 * s32 size))
  · rw [consumes_stop (turn_follows parts long) ((read_message_some parts read).trans
      (read_body_cut notTiming notRecovery past)) rfl, messages_cut long read cut]
    rw [wrapped] at past
    constructor
    · rintro ⟨_, inside⟩
      have inside' : 8 * (unit.body.length - behind.length) ≤ 8 * unit.payload.length := inside
      constructor
      · exact notRecovery
      constructor
      · intro timing
        exact absurd timing notTiming
      constructor
      · intro _
        dsimp only
        omega
      · dsimp only
        omega
    · rintro ⟨_, _, _, inside⟩
      constructor
      · rfl
      · change 8 * (unit.body.length - behind.length) ≤ 8 * unit.payload.length
        dsimp only at inside
        omega
  · constructor
    · rintro ⟨turns, walked, ended, exactly, _⟩
      have whole := entered_first parts long read ended exactly
        fun turn turned => read_body_entered notTiming notRecovery past turned
      omega
    · rintro ⟨_, _, ends, _⟩
      have after := ends cut
      rw [wrapped] at past
      dsimp only at after
      omega

theorem whole_iff (whole : size ≤ behind.length)
    (later : ∀ {front' : List UInt8}, unit.told = front' ++ behind.drop size →
      (ConsumesFrom unit pCurSps (8 * front'.length : Nat) hCtx (8 * front'.length)
        (behind.drop size) ↔ OrderlyFrom unit pCurSps (behind.drop size))) :
    ConsumesFrom unit pCurSps (8 * front.length : Nat) hCtx (8 * front.length) rest ↔
      OrderlyFrom unit pCurSps rest := by
  rcases behind_position parts read with ⟨used, next, position, within, _⟩
  have fits := unit.fits
  have sized : s32 size = size := by
    apply s32_of_range
    unfold InS32
    omega
  have goes : isTiming type = false := decide_eq_false notTiming
  have laid := laid_until_whole long read whole goes
  have head : reached rest = ⟨type, size, behind.length⟩ :: reached (behind.drop size) := by
    unfold reached
    rw [laid]
  have reached_next : unit.told = (front ++ used ++ behind.take size) ++ behind.drop size := by
    rw [next, append_assoc _ (behind.take size), take_append_drop]
  have place : 8 * (unit.body.length - behind.length) + 8 * size =
      8 * (front ++ used ++ behind.take size).length := by
    rw [length_append, position, length_take, Nat.min_eq_left whole]
    omega
  have body := @read_body_whole unit.stream pCurSps (8 * unit.body.length)
    (8 * (unit.body.length - behind.length)) hCtx (s32 type) (s32 size) notTiming notRecovery
    (unit.body.length - behind.length) size rfl sized (by omega) (by omega)
  have due : dueFor ⟨type, size, behind.length⟩ = (s32 type, s32 size, 8 * size) := by
    unfold dueFor
    rw [sized]
  rw [consumes_go (turn_follows parts long) ((read_message_some parts read).trans body) rfl
    (by rw [due]; exact entered_read hCtx _ rfl)
    (messages_whole long read whole)]
  dsimp only
  rw [place, later reached_next]
  constructor
  · intro orderly
    constructor
    · intro message found
      rw [head, mem_cons] at found
      rcases found with same | found
      · rw [same]
        exact notRecovery
      · exact orderly.recovery message found
    · intro message found timing
      rw [head, mem_cons] at found
      rcases found with same | found
      · rw [same] at timing
        exact absurd timing notTiming
      · exact orderly.timing message found timing
    · intro message found cut
      rw [head, mem_cons] at found
      rcases found with same | found
      · rw [same] at cut
        exact absurd whole (Nat.not_le.mpr cut)
      · exact orderly.cut message found cut
    · rw [laid]
      exact orderly.inside
  · intro orderly
    have behindHead : ∀ message ∈ reached (behind.drop size), message ∈ reached rest := by
      intro message found
      rw [head]
      exact mem_cons_of_mem _ found
    constructor
    · intro message found
      exact orderly.recovery message (behindHead message found)
    · intro message found
      exact orderly.timing message (behindHead message found)
    · intro message found
      exact orderly.cut message (behindHead message found)
    · have inside := orderly.inside
      rw [laid] at inside
      exact inside

end Cases

section Exactly

variable {unit : SeiUnit} {pCurSps : H264SpsInfo}

/-- The walk from a position is exact when, and only when, what follows is orderly. -/
theorem consumes_from_iff {count : Nat} {front rest : List UInt8} (hCtx : H264Context)
    (bound : rest.length ≤ count) (parts : unit.told = front ++ rest) :
    ConsumesFrom unit pCurSps (8 * front.length : Nat) hCtx (8 * front.length) rest ↔
      OrderlyFrom unit pCurSps rest := by
  induction count generalizing front rest with
  | zero => exact short_iff parts (by omega)
  | succ count later =>
    by_cases short : rest.length < 3
    · exact short_iff parts short
    · have long := Nat.not_lt.mp short
      cases read : TaggedMessages.header rest with
      | none => exact header_none_iff parts long read
      | some found =>
        rcases found with ⟨type, size, behind⟩
        rcases behind_position parts read with ⟨used, _, _, _, shorter⟩
        by_cases timing : s32 type = 1
        · exact timing_iff parts long read timing
        by_cases recovery : s32 type = 6
        · exact recovery_iff parts long read recovery
        by_cases whole : size ≤ behind.length
        · apply whole_iff parts long read timing recovery whole
          intro front' parts'
          apply later _ parts'
          rw [length_drop]
          omega
        · exact cut_iff parts long read timing recovery (Nat.not_le.mp whole)

end Exactly

section Format

theorem next_code (code : Nat) (byte : UInt8) :
    (code * 256 % 2 ^ 32 ||| byte.toNat) = code * 256 % 2 ^ 32 + byte.toNat := by
  have value : code * 256 % 2 ^ 32 = 2 ^ 8 * (code % 2 ^ 24) := by omega
  rw [value]
  exact (Nat.two_pow_add_eq_or_of_lt byte.toNat_lt _).symm

theorem find_format_behind {code i : Nat} {first second third : UInt8} (bytes : List UInt8)
    (last : code % 2 ^ 24 = first.toNat * 65536 + second.toNat * 256 + third.toNat) :
    (findFormat code i bytes).map (fun found => i + bytes.length - (found + 1)) =
      (behindFormat (first :: second :: third :: bytes)).map List.length := by
  induction bytes generalizing code i first second third with
  | nil =>
    unfold findFormat behindFormat
    rfl
  | cons byte rest later =>
    have small := byte.toNat_lt
    have smallFirst := first.toNat_lt
    have smallSecond := second.toNat_lt
    have smallThird := third.toNat_lt
    have found : code * 256 % 2 ^ 32 + byte.toNat = 0x44544731 ↔
        first = 0x44 ∧ second = 0x54 ∧ third = 0x47 ∧ byte = 0x31 := by
      rw [← UInt8.toNat_inj, ← UInt8.toNat_inj, ← UInt8.toNat_inj, ← UInt8.toNat_inj]
      have numbers : (0x44 : UInt8).toNat = 0x44 ∧ (0x54 : UInt8).toNat = 0x54 ∧
          (0x47 : UInt8).toNat = 0x47 ∧ (0x31 : UInt8).toNat = 0x31 := by decide
      rw [numbers.1, numbers.2.1, numbers.2.2.1, numbers.2.2.2]
      omega
    unfold findFormat behindFormat
    rw [next_code]
    by_cases here : code * 256 % 2 ^ 32 + byte.toNat = 0x44544731
    · rw [if_pos here, if_pos (found.mp here), map_some, map_some, length_cons]
      apply congrArg some
      omega
    · rw [if_neg here, if_neg (fun other => here (found.mpr other))]
      rw [← @later (code * 256 % 2 ^ 32 + byte.toNat) (i + 1) second third byte (by omega),
        length_cons]
      have same : i + (rest.length + 1) = i + 1 + rest.length := by omega
      rw [same]

theorem find_format_lt {code i found : Nat} {bytes : List UInt8}
    (read : findFormat code i bytes = some found) : found < i + bytes.length := by
  induction bytes generalizing code i with
  | nil => cases read
  | cons byte rest later =>
    unfold findFormat at read
    rw [length_cons]
    split at read
    · cases read
      omega
    · have bound := later read
      omega

theorem behind_format_parts {bytes rest : List UInt8} (read : behindFormat bytes = some rest) :
    ∃ front, bytes = front ++ rest := by
  induction bytes with
  | nil => cases read
  | cons first bytes later =>
    rcases bytes with _ | ⟨second, _ | ⟨third, _ | ⟨fourth, bytes⟩⟩⟩
    · cases read
    · cases read
    · cases read
    · unfold behindFormat at read
      split at read
      · cases read
        exact ⟨[first, second, third, fourth], rfl⟩
      · rcases later read with ⟨front, parts⟩
        exact ⟨first :: front, by rw [parts, cons_append]⟩

theorem behind_format_other {byte : UInt8} (other : byte ≠ 0x44) (bytes : List UInt8) :
    behindFormat (byte :: bytes) = behindFormat bytes := by
  rcases bytes with _ | ⟨second, _ | ⟨third, _ | ⟨fourth, bytes⟩⟩⟩
  · rfl
  · rfl
  · rfl
  · conv_lhs => unfold behindFormat
    rw [if_neg (fun all => other all.1)]

variable (pCurSps : H264SpsInfo) (bytes stale : List UInt8)

theorem active_format_iff : activeFormatReads pCurSps (bytes ++ stale) bytes.length ≤ bytes.length ↔
      (pCurSps.bCodedFrameRatio = .ratio4_3 ∨ pCurSps.bCodedFrameRatio = .ratio16_9 →
        ∀ rest, behindFormat bytes = some rest →
          1 ≤ rest.length ∧ ((rest.getD 0 0).toNat.testBit 6 → 2 ≤ rest.length)) := by
  have start := @find_format_behind 0xffffffff 0 0xff 0xff 0xff bytes (by decide)
  rw [behind_format_other (by decide), behind_format_other (by decide),
    behind_format_other (by decide), Nat.zero_add] at start
  unfold activeFormatReads
  rw [take_left]
  by_cases ratio : pCurSps.bCodedFrameRatio = .ratio4_3 ∨ pCurSps.bCodedFrameRatio = .ratio16_9
  · rw [if_neg (fun neither => ratio.elim neither.1 neither.2)]
    cases read : findFormat 0xffffffff 0 bytes with
    | none =>
      rw [read, map_none, eq_comm, map_eq_none_iff] at start
      constructor
      · intro _ _ rest found
        rw [start] at found
        cases found
      · intro _
        exact Nat.le_refl _
    | some i =>
      rw [read, map_some, eq_comm, map_eq_some_iff] at start
      rcases start with ⟨rest, found, length⟩
      have inside := find_format_lt read
      rcases behind_format_parts found with ⟨front, parts⟩
      have total := congrArg List.length parts
      rw [length_append] at total
      have shared : (bytes ++ stale).getD (i + 1) 0 = (rest ++ stale).getD 0 0 := by
        have place : i + 1 = front.length := by omega
        rw [parts, append_assoc, place, getD_append_right _ _ _ _ (Nat.le_refl _), Nat.sub_self]
      rw [elim_some, shared]
      have reading : (∀ rest', behindFormat bytes = some rest' →
          1 ≤ rest'.length ∧ ((rest'.getD 0 0).toNat.testBit 6 → 2 ≤ rest'.length)) ↔
          1 ≤ rest.length ∧ ((rest.getD 0 0).toNat.testBit 6 → 2 ≤ rest.length) := by
        constructor
        · intro all
          exact all rest found
        · intro one rest' found'
          rw [found] at found'
          cases found'
          exact one
      rw [← reading.symm.trans ⟨fun all _ => all, fun all => all ratio⟩]
      cases rest with
      | nil =>
        rw [length_nil] at length ⊢
        split <;> omega
      | cons head rest =>
        rw [length_cons] at length ⊢
        have same : (head :: rest ++ stale).getD 0 0 = head := rfl
        have one : (head :: rest).getD 0 0 = head := rfl
        rw [same, one]
        by_cases flag : head.toNat.testBit 6
        · rw [if_pos flag]
          constructor
          · intro bound
            exact ⟨by omega, fun _ => by omega⟩
          · rintro ⟨_, two⟩
            have two' := two flag
            omega
        · rw [if_neg flag]
          constructor
          · intro _
            exact ⟨by omega, fun set => absurd set flag⟩
          · intro _
            omega
  · rw [if_pos ⟨fun first => ratio (Or.inl first), fun second => ratio (Or.inr second)⟩]
    constructor
    · intro _ one
      exact absurd one ratio
    · intro _
      exact Nat.zero_le _

end Format

/-- An SEI unit is walked exactly when, and only when, it is orderly. -/
theorem sei_messages_consumed_iff (unit : SeiUnit) (pCurSps : H264SpsInfo) (hCtx : H264Context) :
    ConsumesMessages unit pCurSps hCtx ↔ Orderly unit pCurSps := by
  have length : ((8 * unit.bytes.length : Nat) : Int) - 8 = (8 * unit.body.length : Nat) := by
    unfold SeiUnit.bytes
    rw [length_cons]
    omega
  have walked := @consumes_from_iff unit pCurSps unit.told.length [] unit.told hCtx
    (Nat.le_refl _) (nil_append _).symm
  have format := active_format_iff pCurSps unit.bytes unit.stale
  unfold ConsumesMessages H264DecodeSei
  rw [length]
  constructor
  · rintro ⟨messages, reads⟩
    constructor
    · exact walked.mp messages
    · exact format.mp reads
  · rintro ⟨messages, reads⟩
    constructor
    · exact walked.mpr messages
    · exact format.mpr reads

def recoveryThenData : SeiUnit where
  header := 6
  body := [6, 1, 0xC4, 5, 2, 0xAA, 0xBB, 0x80]
  behind := []
  stale := []
  fits := by decide

def plainSps : H264SpsInfo where
  bCodedFrameRatio := .other
  bPicStructPresentFlag := false
  bNalHrdParametersPresentFlag := false
  bVclHrdParametersPresentFlag := false
  nCpbRemovalDelayLength := 0
  nDpbOutputDelayLength := 0
  nTimeOffsetLength := 24
  removal_le := by decide
  output_le := by decide

/-- Nine bits are read for the one byte of the recovery point, and the index is forty bits on:
the user data is never come to. -/
theorem data_behind_recovery_lost :
    (H264DecodeSei (byteReader recoveryThenData.stream) plainSps 72 3 ⟨0xFF, 0⟩ (0 : Nat)).map
      (fun walked => walked.entered.map readFor) = some [(6, 1, 9)] ∧
    (TaggedMessages.messages recoveryThenData.told).map dueFor = [(6, 1, 8), (5, 2, 16)] ∧
    ¬ ConsumesMessages recoveryThenData plainSps ⟨0xFF, 0⟩ := by
  constructor
  · decide
  constructor
  · decide
  · rintro ⟨walked, _⟩
    have orderly := (@consumes_from_iff recoveryThenData plainSps
      recoveryThenData.told.length [] recoveryThenData.told ⟨0xFF, 0⟩ (Nat.le_refl _)
      (nil_append _).symm).mp walked
    have first : ∃ others, reached recoveryThenData.told = ⟨6, 1, 6⟩ :: others := ⟨_, rfl⟩
    rcases first with ⟨others, head⟩
    have other := orderly.recovery ⟨6, 1, 6⟩ (by rw [head]; exact mem_cons_self)
    exact other (by decide)

end CedarC.H264SeiWalk
