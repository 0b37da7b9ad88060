import CedarC.FixedWidth
import CedarC.H264ParameterSets

/-!
# Reading a sequence parameter set

The reads of `H264DecodeSps`, `H264DecVuiParameters` and `H264DecodeHrdParameters` in their
order, over any bit reader: `GetBits`, `GetUeGolomb` and `GetSeGolomb` of the context are
either those of the hardware or those of the software parser.
-/

namespace CedarC.H264SpsReader

open FixedWidth H264

section Reader

/-- The functions of `h264DecCtx` that read bits. -/
structure BitReader where
  State : Type
  getBits : Nat → State → UInt32 × State
  getUeGolomb : State → UInt32 × State
  getSeGolomb : State → Int32 × State
  bits_lt : ∀ n state, (getBits n state).1.toNat < 2 ^ n

variable (reader : BitReader)

def GetBits (n : Nat) : StateM reader.State UInt32 := fun state => reader.getBits n state

def GetUeGolomb : StateM reader.State UInt32 := fun state => reader.getUeGolomb state

def GetSeGolomb : StateM reader.State Int32 := fun state => reader.getSeGolomb state

def GetFlag : StateM reader.State Bool := do
  return (← GetBits reader 1) != 0

end Reader

structure HrdElements where
  cpb_removal_delay_length_minus1 : UInt32
  dpb_output_delay_length_minus1 : UInt32
  time_offset_length : UInt32

structure TimingElements where
  num_units_in_tick : UInt32
  time_scale : UInt32

structure SignalElements where
  video_full_range_flag : Bool
  matrix_coefficients : Option UInt32

structure VuiElements where
  sar : Option (UInt32 × UInt32)
  signal : Option SignalElements
  timing : Option TimingElements
  nal_hrd : Option HrdElements
  vcl_hrd : Option HrdElements
  low_delay_hrd_flag : Bool
  pic_struct_present_flag : Bool
  num_reorder_frames : Option UInt32

/-- The elements of a sequence parameter set, with those that the size does not need. -/
structure SpsElements extends SpsSyntax where
  log2_max_frame_num_minus4 : UInt32
  log2_max_pic_order_cnt_lsb_minus4 : UInt32
  delta_pic_order_always_zero_flag : Bool
  offset_for_non_ref_pic : Int32
  offset_for_top_to_bottom_field : Int32
  offset_for_ref_frame : List Int32
  gaps_in_frame_num_value_allowed_flag : Bool
  direct_8x8_inference_flag : Bool
  vui : Option VuiElements

def noElements : SpsElements where
  profile_idc := 0
  constraint_set_flags := 0
  seq_parameter_set_id := 0
  chroma_format_idc := 1
  scaling_matrix := none
  pic_order_cnt_type := 0
  num_ref_frames_in_pic_order_cnt_cycle := 0
  num_ref_frames := 0
  pic_width_in_mbs_minus1 := 0
  pic_height_in_map_units_minus1 := 0
  frame_mbs_only_flag := false
  mb_adaptive_frame_field_flag := false
  frame_cropping := none
  log2_max_frame_num_minus4 := 0
  log2_max_pic_order_cnt_lsb_minus4 := 0
  delta_pic_order_always_zero_flag := false
  offset_for_non_ref_pic := 0
  offset_for_top_to_bottom_field := 0
  offset_for_ref_frame := []
  gaps_in_frame_num_value_allowed_flag := false
  direct_8x8_inference_flag := false
  vui := none

section Reads

variable (reader : BitReader)

/-- The turns of `H264DecodeScalingList` that are left, with `last` and `next`. -/
def readDeltas : Nat → Bool → Int → Int → StateM reader.State (List Int)
  | 0, _, _, _ => return []
  | turns + 1, first, last, next => do
      if next = 0 then
        return 0 :: (← readDeltas turns false last next)
      else
        let delta ← GetSeGolomb reader
        let next := (last + delta.toInt) % 256
        if first && next = 0 then return [delta.toInt]
        else
          let last := if next ≠ 0 then next else last
          return delta.toInt :: (← readDeltas turns false last next)

def readScalingList (size : Nat) : StateM reader.State ScalingListSyntax := do
  if ← GetFlag reader then
    let deltas ← readDeltas reader size true 8 8
    return some fun place => deltas.getD place 0
  else return none

def readScalingMatrix : StateM reader.State (Option ScalingMatrixSyntax) := do
  if ← GetFlag reader then
    let intraY ← readScalingList reader 16
    let intraCr ← readScalingList reader 16
    let intraCb ← readScalingList reader 16
    let interY ← readScalingList reader 16
    let interCr ← readScalingList reader 16
    let interCb ← readScalingList reader 16
    let intra8 ← readScalingList reader 64
    let inter8 ← readScalingList reader 64
    return some ![intraY, intraCr, intraCb, interY, interCr, interCb, intra8, inter8]
  else return none

/-- The loop over the `cpbCount` schedules. -/
def skipSchedules : Nat → StateM reader.State Unit
  | 0 => return ()
  | count + 1 => do
      let _ ← GetUeGolomb reader
      let _ ← GetUeGolomb reader
      let _ ← GetBits reader 1
      skipSchedules count

/-- `H264DecodeHrdParameters`; the count is an `s32`. -/
def readHrd : StateM reader.State HrdElements := do
  let cpbCount := s32 (Int.ofNat ((← GetUeGolomb reader) + 1).toNat)
  let _ ← GetBits reader 4
  let _ ← GetBits reader 4
  skipSchedules reader cpbCount.toNat
  let _ ← GetBits reader 5
  let removal ← GetBits reader 5
  let output ← GetBits reader 5
  let offset ← GetBits reader 5
  return ⟨removal, output, offset⟩

def readSar : StateM reader.State (Option (UInt32 × UInt32)) := do
  if ← GetFlag reader then
    if (← GetBits reader 8) = 255 then
      let width ← GetBits reader 16
      let height ← GetBits reader 16
      return some (width, height)
    else return none
  else return none

def readSignal : StateM reader.State (Option SignalElements) := do
  if ← GetFlag reader then
    let _ ← GetBits reader 3
    let fullRange ← GetFlag reader
    if ← GetFlag reader then
      let _ ← GetBits reader 8
      let _ ← GetBits reader 8
      let matrix ← GetBits reader 8
      return some ⟨fullRange, some matrix⟩
    else return some ⟨fullRange, none⟩
  else return none

def readTiming : StateM reader.State (Option TimingElements) := do
  if ← GetFlag reader then
    let units ← GetBits reader 32
    let scale ← GetBits reader 32
    let _ ← GetBits reader 1
    return some ⟨units, scale⟩
  else return none

def readOptionalHrd : StateM reader.State (Option HrdElements) := do
  if ← GetFlag reader then return some (← readHrd reader) else return none

def readRestriction : StateM reader.State (Option UInt32) := do
  if ← GetFlag reader then
    let _ ← GetBits reader 1
    let _ ← GetUeGolomb reader
    let _ ← GetUeGolomb reader
    let _ ← GetUeGolomb reader
    let _ ← GetUeGolomb reader
    let reorder ← GetUeGolomb reader
    let _ ← GetUeGolomb reader
    return some reorder
  else return none

/-- The reads of `H264DecVuiParameters`. -/
def readVui : StateM reader.State VuiElements := do
  let sar ← readSar reader
  if ← GetFlag reader then
    let _ ← GetBits reader 1
  let signal ← readSignal reader
  if ← GetFlag reader then
    let _ ← GetUeGolomb reader
    let _ ← GetUeGolomb reader
  let timing ← readTiming reader
  let nal ← readOptionalHrd reader
  let vcl ← readOptionalHrd reader
  let lowDelay ← if nal.isSome || vcl.isSome then GetFlag reader else pure false
  let picStruct ← GetFlag reader
  let restriction ← readRestriction reader
  return ⟨sar, signal, timing, nal, vcl, lowDelay, picStruct, restriction⟩

def readHead : StateM reader.State SpsElements := do
  let profile ← GetBits reader 8
  let set0 ← GetBits reader 1
  let set1 ← GetBits reader 1
  let set2 ← GetBits reader 1
  let set3 ← GetBits reader 1
  let set4 ← GetBits reader 1
  let set5 ← GetBits reader 1
  let _ ← GetBits reader 2
  let _ ← GetBits reader 8
  let nSpsId ← GetUeGolomb reader
  let flags := set0 ||| set1 <<< 1 ||| set2 <<< 2 ||| set3 <<< 3 ||| set4 <<< 4 ||| set5 <<< 5
  return { noElements with
    profile_idc := profile.toNat
    constraint_set_flags := flags.toUInt8
    seq_parameter_set_id := nSpsId.toNat }

def readHigh (sps : SpsElements) : StateM reader.State SpsElements := do
  let chroma ← GetUeGolomb reader
  let sps := { sps with chroma_format_idc := chroma.toNat }
  if chroma != 1 then return sps
  else
    let _ ← GetUeGolomb reader
    let _ ← GetUeGolomb reader
    let _ ← GetBits reader 1
    let matrix ← readScalingMatrix reader
    return { sps with scaling_matrix := matrix }

def readOffsets : Nat → StateM reader.State (List Int32)
  | 0 => return []
  | count + 1 => do
      let offset ← GetSeGolomb reader
      return offset :: (← readOffsets count)

def readPoc (sps : SpsElements) : StateM reader.State SpsElements := do
  let frameNum ← GetUeGolomb reader
  let pocType ← GetUeGolomb reader
  let sps := { sps with
    log2_max_frame_num_minus4 := frameNum
    pic_order_cnt_type := pocType.toNat }
  if pocType = 0 then
    let lsb ← GetUeGolomb reader
    return { sps with log2_max_pic_order_cnt_lsb_minus4 := lsb }
  else if pocType = 1 then
    let alwaysZero ← GetFlag reader
    let nonRef ← GetSeGolomb reader
    let topToBottom ← GetSeGolomb reader
    let cycle ← GetUeGolomb reader
    let sps := { sps with
      delta_pic_order_always_zero_flag := alwaysZero
      offset_for_non_ref_pic := nonRef
      offset_for_top_to_bottom_field := topToBottom
      num_ref_frames_in_pic_order_cnt_cycle := cycle.toNat }
    if cycle > 256 then return sps
    else
      let offsets ← readOffsets reader cycle.toNat
      return { sps with offset_for_ref_frame := offsets }
  else return sps

def readCrop : StateM reader.State (Option CropSyntax) := do
  if ← GetFlag reader then
    let left ← GetUeGolomb reader
    let right ← GetUeGolomb reader
    let top ← GetUeGolomb reader
    let bottom ← GetUeGolomb reader
    return some ⟨left, right, top, bottom⟩
  else return none

def readSize (sps : SpsElements) : StateM reader.State SpsElements := do
  let refFrames ← GetUeGolomb reader
  let gaps ← GetFlag reader
  let width ← GetUeGolomb reader
  let height ← GetUeGolomb reader
  let mbsOnly ← GetFlag reader
  let mbAff ← if mbsOnly then pure false else GetFlag reader
  let direct ← GetFlag reader
  let crop ← readCrop reader
  let vui ← if ← GetFlag reader then some <$> readVui reader else pure none
  return { sps with
    num_ref_frames := refFrames
    gaps_in_frame_num_value_allowed_flag := gaps
    pic_width_in_mbs_minus1 := width
    pic_height_in_map_units_minus1 := height
    frame_mbs_only_flag := mbsOnly
    mb_adaptive_frame_field_flag := mbAff
    direct_8x8_inference_flag := direct
    frame_cropping := crop
    vui := vui }

/-- The elements of the set, up to the one that it is refused for. That the size has changed
is not tested until all has been read; what comes behind the size has no part in it. -/
def readSps : StateM reader.State SpsElements := do
  let sps ← readHead reader
  if MAX_SPS_COUNT ≤ sps.seq_parameter_set_id then return sps
  else
    let sps ← if 100 ≤ sps.profile_idc then readHigh reader sps else pure sps
    if 100 ≤ sps.profile_idc ∧ sps.chroma_format_idc ≠ 1 then return sps
    else
      let sps ← readPoc reader sps
      if sps.refused.isSome then return sps
      else readSize reader sps

end Reads

/-- Bits of a payload, the first one the highest; behind its end there are zeros. -/
def takeBits : Nat → List Bool → Nat × List Bool
  | 0, bits => (0, bits)
  | count + 1, bits =>
    let later := takeBits count bits.tail
    ((if bits.head? = some true then 2 ^ count else 0) + later.1, later.2)

theorem take_bits_lt (count : Nat) (bits : List Bool) : (takeBits count bits).1 < 2 ^ count := by
  induction count generalizing bits with
  | zero => exact Nat.one_pos
  | succ count later =>
    have behind := later bits.tail
    have double : 2 ^ (count + 1) = 2 ^ count + 2 ^ count := by
      rw [Nat.pow_succ]
      omega
    unfold takeBits
    dsimp only
    split <;> omega

def takeUe (bits : List Bool) : Nat × List Bool :=
  let zeros := (bits.takeWhile not).length
  let suffix := takeBits zeros (bits.drop (zeros + 1))
  (2 ^ zeros - 1 + suffix.1, suffix.2)

def takeSe (bits : List Bool) : Int × List Bool :=
  let code := takeUe bits
  (if code.1 % 2 = 0 then -(code.1 / 2 : Nat) else ((code.1 + 1) / 2 : Nat), code.2)

def bitList : BitReader where
  State := List Bool
  getBits count bits := (UInt32.ofNat (takeBits count bits).1, (takeBits count bits).2)
  getUeGolomb bits := (UInt32.ofNat (takeUe bits).1, (takeUe bits).2)
  getSeGolomb bits := (Int32.ofInt (takeSe bits).1, (takeSe bits).2)
  bits_lt count bits :=
    Nat.lt_of_le_of_lt (Nat.mod_le _ _) (take_bits_lt count bits)

def bitsOf (text : String) : List Bool := text.toList.map (· == '1')

end CedarC.H264SpsReader
