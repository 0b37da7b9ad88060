import CedarC.H264SpsReader

/-!
# The bounds of an accepted sequence parameter set

`H264DecodeSps` with its divisions, of which one by zero ends the process, and what the
rest of the decoder needs of a set that it accepts.
-/

namespace CedarC.H264SpsBounds

open H264 H264SpsReader

def MAX_PICTURE_COUNT : Nat := 32

/-- A division by zero ends the process. -/
inductive Trap
  | divideByZero
deriving DecidableEq

def divide (dividend divisor : UInt32) : Except Trap UInt32 :=
  if divisor = 0 then .error .divideByZero else .ok (dividend / divisor)

/-- The fields of `vbvInfo` and of the context that the VUI sets. -/
structure VuiContext where
  nFrameRate : UInt32
  nPicDuration : UInt32
  nColorPrimary : UInt32
deriving DecidableEq

/-- The fields of `H264SpsInfo` that the VUI sets. -/
structure VuiInfo where
  nAspectRatio : UInt32
  nCpbRemovalDelayLength : UInt32
  nDpbOutputDelayLength : UInt32
  nTimeOffsetLength : UInt32
  bNalHrdParametersPresentFlag : Bool
  bVclHrdParametersPresentFlag : Bool
  bLowDelayFlag : Bool
  bPicStructPresentFlag : Bool
  bBitstreamRestrictionFlag : Bool
  nNumReorderFrames : UInt32
deriving DecidableEq

/-- `memset` and the defaults of `H264DecodeSps`. -/
def noVui : VuiInfo where
  nAspectRatio := 1000
  nCpbRemovalDelayLength := 0
  nDpbOutputDelayLength := 0
  nTimeOffsetLength := 24
  bNalHrdParametersPresentFlag := false
  bVclHrdParametersPresentFlag := false
  bLowDelayFlag := false
  bPicStructPresentFlag := false
  bBitstreamRestrictionFlag := false
  nNumReorderFrames := 0

def H264DecodeHrdParameters (hrd : HrdElements) (info : VuiInfo) : VuiInfo :=
  { info with
    nCpbRemovalDelayLength := hrd.cpb_removal_delay_length_minus1 + 1
    nDpbOutputDelayLength := hrd.dpb_output_delay_length_minus1 + 1
    nTimeOffsetLength := hrd.time_offset_length }

def frameRate (timing : TimingElements) (hCtx : VuiContext) : Except Trap VuiContext :=
  if hCtx.nFrameRate = 0 then do
    let nFrameRate ← divide timing.time_scale (timing.num_units_in_tick * 2)
    let nPicDuration ←
      if nFrameRate ≠ 0 then divide (1000 * 1000) nFrameRate else .ok hCtx.nPicDuration
    return { hCtx with nFrameRate := nFrameRate, nPicDuration := nPicDuration }
  else .ok hCtx

def aspectRatio (sar : Option (UInt32 × UInt32)) (nAspectRatio : UInt32) : Except Trap UInt32 :=
  match sar with
  | some (vuiSarWidth, vuiSarHeight) =>
    if vuiSarHeight ≠ 0 then divide (vuiSarWidth * 1000) vuiSarHeight else .ok nAspectRatio
  | none => .ok nAspectRatio

def colorPrimary (signal : Option SignalElements) (nColorPrimary : UInt32) : UInt32 :=
  match signal with
  | some signal =>
    ((if signal.video_full_range_flag then 1 else 0 : UInt32) <<< 8) |||
      signal.matrix_coefficients.getD 0
  | none => nColorPrimary

/-- With more than 16 frames to reorder the function returns an error, which
`H264DecodeSps` does not look at. -/
def restricted (reorder : Option UInt32) (info : VuiInfo) : VuiInfo :=
  match reorder with
  | some nNumReorderFrames =>
    { info with
      bBitstreamRestrictionFlag := true
      nNumReorderFrames :=
        if 16 < nNumReorderFrames then info.nNumReorderFrames else nNumReorderFrames }
  | none => info

def H264DecVuiParameters (vui : VuiElements) (hCtx : VuiContext) (info : VuiInfo) :
    Except Trap (VuiContext × VuiInfo) := do
  let nAspectRatio ← aspectRatio vui.sar info.nAspectRatio
  let hCtx := { hCtx with nColorPrimary := colorPrimary vui.signal hCtx.nColorPrimary }
  let hCtx ← match vui.timing with
    | some timing => frameRate timing hCtx
    | none => .ok hCtx
  let info := { info with
    nAspectRatio := nAspectRatio
    bNalHrdParametersPresentFlag := vui.nal_hrd.isSome
    bVclHrdParametersPresentFlag := vui.vcl_hrd.isSome
    bLowDelayFlag := vui.low_delay_hrd_flag
    bPicStructPresentFlag := vui.pic_struct_present_flag }
  let info := vui.nal_hrd.elim info fun hrd => H264DecodeHrdParameters hrd info
  let info := vui.vcl_hrd.elim info fun hrd => H264DecodeHrdParameters hrd info
  return (hCtx, restricted vui.num_reorder_frames info)

inductive CodedFrameRatio
  | H264_CODED_FRAME_RATIO_4_3
  | H264_CODED_FRAME_RATIO_14_9
  | H264_CODED_FRAME_RATIO_16_9
  | H264_CODED_FRAME_RATIO_OTHER
deriving DecidableEq

def codedFrameRatio (nCodedFrameRatio : UInt32) : CodedFrameRatio :=
  if nCodedFrameRatio ≤ 1460 then .H264_CODED_FRAME_RATIO_4_3
  else if nCodedFrameRatio ≤ 1660 then .H264_CODED_FRAME_RATIO_14_9
  else if nCodedFrameRatio ≤ 1900 then .H264_CODED_FRAME_RATIO_16_9
  else .H264_CODED_FRAME_RATIO_OTHER

/-- The set that is copied into `pSpsBuffers`. -/
structure StoredSps where
  geometry : Geometry
  nFrmRealWidth : UInt32
  nFrmRealHeight : UInt32
  bCodedFrameRatio : CodedFrameRatio
  nPocCycleLength : Nat
  vui : VuiInfo

/-- How `H264DecodeSps` ends: the context, and the set if it is accepted. -/
structure SpsEnd where
  ret : Ret
  hCtx : Context
  vuiContext : VuiContext
  stored : Option StoredSps

def H264DecodeSps (hCtx : Context) (vuiContext : VuiContext) (sps : SpsElements) :
    Except Trap SpsEnd :=
  match decodeSps hCtx sps.toSpsSyntax with
  | (.ok, hCtx) => do
      let geometry := sps.geometry
      let nFrmRealWidth := geometry.nFrmMbWidth - geometry.nCropLeft - geometry.nCropRight
      let nFrmRealHeight := geometry.nFrmMbHeight - geometry.nCropTop - geometry.nCropBottom
      let nCodedFrameRatio ← divide (nFrmRealWidth * 1000) nFrmRealHeight
      let (vuiContext, vui) ← match sps.vui with
        | some vui => H264DecVuiParameters vui vuiContext noVui
        | none => .ok (vuiContext, noVui)
      return ⟨.ok, hCtx, vuiContext, some
        { geometry := geometry
          nFrmRealWidth := nFrmRealWidth
          nFrmRealHeight := nFrmRealHeight
          bCodedFrameRatio := codedFrameRatio nCodedFrameRatio
          nPocCycleLength :=
            if sps.pic_order_cnt_type = 1 then sps.num_ref_frames_in_pic_order_cnt_cycle else 0
          vui := vui }⟩
  | (ret, hCtx) => .ok ⟨ret, hCtx, vuiContext, none⟩

/-- What the decoder indexes and divides with. -/
structure StoredSps.Bounded (sps : StoredSps) : Prop where
  refFrames : 0 ≤ sps.geometry.nRefFrmCount.toInt ∧
    sps.geometry.nRefFrmCount.toInt ≤ MAX_PICTURE_COUNT
  pocCycle : sps.nPocCycleLength ≤ 256
  width : 0 < sps.geometry.nMbWidth
  height : 0 < sps.geometry.nMbHeight
  visibleWidth : sps.geometry.nCropLeft.toNat + sps.geometry.nCropRight.toNat <
    sps.geometry.nFrmMbWidth.toNat
  visibleHeight : sps.geometry.nCropTop.toNat + sps.geometry.nCropBottom.toNat <
    sps.geometry.nFrmMbHeight.toNat

/-- Nothing is divided by zero, and a set that is accepted is within its bounds. -/
def Robust (hCtx : Context) (vuiContext : VuiContext) (sps : SpsElements) : Prop :=
  ∃ ending, H264DecodeSps hCtx vuiContext sps = .ok ending ∧
    ∀ stored ∈ ending.stored, stored.Bounded

def Reaches (hCtx : Context) (sps : SpsElements) : Prop :=
  sps.refused = none ∧ resolutionChanged hCtx sps.toSpsSyntax = false

/-- Cropping leaves some of a size in units of `scale` samples, all in 32 bits. -/
def LeavesSome (minus1 scale crop cropScale : Nat) : Prop :=
  crop * cropScale % 2 ^ 32 < (minus1 + 1) * scale % 2 ^ 32

def fieldScale (sps : SpsElements) : Nat := if sps.frame_mbs_only_flag then 1 else 2

/-- What the elements of a set have to be like, since they are not checked. -/
structure WithinBounds (vuiContext : VuiContext) (sps : SpsElements) : Prop where
  refFrames : sps.num_ref_frames.toNat ≤ MAX_PICTURE_COUNT
  width : sps.pic_width_in_mbs_minus1.toNat ≠ 2 ^ 32 - 1
  height : sps.pic_height_in_map_units_minus1.toNat ≠ 2 ^ 32 - 1
  cropWidth : LeavesSome sps.pic_width_in_mbs_minus1.toNat 16
    (sps.frame_cropping.elim 0 fun crop => crop.frame_crop_right_offset.toNat) 2
  cropHeight : LeavesSome sps.pic_height_in_map_units_minus1.toNat (fieldScale sps * 16)
    (sps.frame_cropping.elim 0 fun crop => crop.frame_crop_bottom_offset.toNat)
    (2 * fieldScale sps)
  timing : vuiContext.nFrameRate = 0 → ∀ vui ∈ sps.vui, ∀ timing ∈ vui.timing,
    timing.num_units_in_tick.toNat % 2 ^ 31 ≠ 0

section Divisions

variable {dividend divisor : UInt32}

theorem divide_ok (other : divisor ≠ 0) : divide dividend divisor = .ok (dividend / divisor) := by
  unfold divide
  rw [if_neg other]

theorem divide_zero (zero : divisor = 0) : divide dividend divisor = .error .divideByZero := by
  unfold divide
  rw [if_pos zero]

theorem aspect_ratio_ok (sar : Option (UInt32 × UInt32)) (nAspectRatio : UInt32) :
    ∃ ratio, aspectRatio sar nAspectRatio = .ok ratio := by
  cases sar with
  | none => exact ⟨_, rfl⟩
  | some sizes =>
    by_cases zero : sizes.2 = 0
    · exact ⟨_, if_neg (not_not.mpr zero)⟩
    · exact ⟨_, (if_pos zero).trans (divide_ok zero)⟩

theorem ticks_zero_iff (units : UInt32) : units * 2 = 0 ↔ units.toNat % 2 ^ 31 = 0 := by
  rw [← UInt32.toNat_inj, UInt32.toNat_mul]
  have two : (2 : UInt32).toNat = 2 := rfl
  have zero : (0 : UInt32).toNat = 0 := rfl
  rw [two, zero]
  omega

theorem frame_rate_ok_iff (timing : TimingElements) (hCtx : VuiContext) :
    (∃ after, frameRate timing hCtx = .ok after) ↔
      (hCtx.nFrameRate = 0 → timing.num_units_in_tick.toNat % 2 ^ 31 ≠ 0) := by
  unfold frameRate
  by_cases unknown : hCtx.nFrameRate = 0
  · rw [if_pos unknown]
    by_cases zero : timing.num_units_in_tick * 2 = 0
    · rw [divide_zero zero]
      apply iff_of_false
      · rintro ⟨after, failed⟩
        cases failed
      · intro other
        exact other unknown ((ticks_zero_iff _).mp zero)
    · rw [divide_ok zero]
      apply iff_of_true
      · by_cases rate : timing.time_scale / (timing.num_units_in_tick * 2) = 0
        · exact ⟨_, by simp only [bind, Except.bind, rate, ne_eq, not_true_eq_false, if_false]; rfl⟩
        · exact ⟨_, by simp only [bind, Except.bind, ne_eq, rate, not_false_eq_true, if_true,
            divide_ok rate]; rfl⟩
      · exact fun _ other => zero ((ticks_zero_iff _).mpr other)
  · rw [if_neg unknown]
    exact iff_of_true ⟨_, rfl⟩ fun known => absurd known unknown

theorem vui_ok_iff (vui : VuiElements) (hCtx : VuiContext) (info : VuiInfo) :
    (∃ after, H264DecVuiParameters vui hCtx info = .ok after) ↔
      (hCtx.nFrameRate = 0 → ∀ timing ∈ vui.timing,
        timing.num_units_in_tick.toNat % 2 ^ 31 ≠ 0) := by
  rcases aspect_ratio_ok vui.sar info.nAspectRatio with ⟨ratio, found⟩
  unfold H264DecVuiParameters
  rw [found]
  simp only [bind, Except.bind]
  cases timed : vui.timing with
  | none =>
    apply iff_of_true
    · exact ⟨_, rfl⟩
    · exact fun _ timing member => (nomatch member)
  | some timing =>
    have step := frame_rate_ok_iff timing
      { hCtx with nColorPrimary := colorPrimary vui.signal hCtx.nColorPrimary }
    dsimp only at step ⊢
    constructor
    · rintro ⟨after, ended⟩ unknown other member
      cases rated : frameRate timing
        { hCtx with nColorPrimary := colorPrimary vui.signal hCtx.nColorPrimary } with
      | error trap =>
        rw [rated] at ended
        cases ended
      | ok next =>
        rw [← Option.some_inj.mp member]
        exact step.mp ⟨next, rated⟩ unknown
    · intro ticks
      rcases step.mpr fun unknown => ticks unknown timing rfl with ⟨next, rated⟩
      rw [rated]
      exact ⟨_, rfl⟩

end Divisions

section Sizes

variable (sps : SpsElements)

theorem mb_width_positive_iff :
    0 < sps.geometry.nMbWidth ↔ sps.pic_width_in_mbs_minus1.toNat ≠ 2 ^ 32 - 1 := by
  have bound := sps.pic_width_in_mbs_minus1.toNat_lt
  have value : sps.geometry.nMbWidth.toNat = (sps.pic_width_in_mbs_minus1.toNat + 1) % 2 ^ 32 :=
    UInt32.toNat_add _ _
  rw [UInt32.lt_iff_toNat_lt, value]
  have zero : (0 : UInt32).toNat = 0 := rfl
  rw [zero]
  omega

theorem mb_height_positive_iff :
    0 < sps.geometry.nMbHeight ↔ sps.pic_height_in_map_units_minus1.toNat ≠ 2 ^ 32 - 1 := by
  have bound := sps.pic_height_in_map_units_minus1.toNat_lt
  have value : sps.geometry.nMbHeight.toNat =
      (sps.pic_height_in_map_units_minus1.toNat + 1) % 2 ^ 32 := UInt32.toNat_add _ _
  rw [UInt32.lt_iff_toNat_lt, value]
  have zero : (0 : UInt32).toNat = 0 := rfl
  rw [zero]
  omega

theorem frm_mb_width :
    sps.geometry.nFrmMbWidth.toNat = (sps.pic_width_in_mbs_minus1.toNat + 1) * 16 % 2 ^ 32 := by
  have value : sps.geometry.nFrmMbWidth = (sps.pic_width_in_mbs_minus1 + 1) * 16 := rfl
  have one : (1 : UInt32).toNat = 1 := rfl
  have sixteen : (16 : UInt32).toNat = 16 := rfl
  rw [value, UInt32.toNat_mul, UInt32.toNat_add, one, sixteen]
  omega

theorem field_scale :
    ((2 : UInt32) - if sps.frame_mbs_only_flag then 1 else 0).toNat = fieldScale sps := by
  unfold fieldScale
  cases sps.frame_mbs_only_flag with
  | true | false => rfl

theorem frm_mb_height : sps.geometry.nFrmMbHeight.toNat =
      (sps.pic_height_in_map_units_minus1.toNat + 1) * (fieldScale sps * 16) % 2 ^ 32 := by
  have value : sps.geometry.nFrmMbHeight = (sps.pic_height_in_map_units_minus1 + 1) *
      (2 - if sps.frame_mbs_only_flag then 1 else 0) * 16 := rfl
  have one : (1 : UInt32).toNat = 1 := rfl
  have sixteen : (16 : UInt32).toNat = 16 := rfl
  rw [value, UInt32.toNat_mul, UInt32.toNat_mul, UInt32.toNat_add, field_scale, one, sixteen]
  unfold fieldScale
  split
  · omega
  · omega

theorem crop_right : sps.geometry.nCropRight.toNat =
      (sps.frame_cropping.elim 0 fun crop => crop.frame_crop_right_offset.toNat) * 2 %
        2 ^ 32 := by
  have value : sps.geometry.nCropRight =
      sps.frame_cropping.elim 0 fun crop => crop.frame_crop_right_offset * 2 := rfl
  rw [value]
  cases sps.frame_cropping with
  | none => rfl
  | some crop => exact UInt32.toNat_mul _ _

theorem crop_bottom : sps.geometry.nCropBottom.toNat =
      (sps.frame_cropping.elim 0 fun crop => crop.frame_crop_bottom_offset.toNat) *
        (2 * fieldScale sps) % 2 ^ 32 := by
  have value : sps.geometry.nCropBottom = sps.frame_cropping.elim 0 fun crop =>
      crop.frame_crop_bottom_offset * (2 * (2 - if sps.frame_mbs_only_flag then 1 else 0)) := rfl
  have two : (2 : UInt32).toNat = 2 := rfl
  have small : 2 * fieldScale sps < 2 ^ 32 := by
    unfold fieldScale
    split
    · decide
    · decide
  rw [value]
  cases sps.frame_cropping with
  | none =>
    dsimp only [Option.elim_none]
    rw [Nat.zero_mul]
    rfl
  | some crop =>
    dsimp only [Option.elim_some]
    rw [UInt32.toNat_mul, UInt32.toNat_mul, field_scale, two, Nat.mod_eq_of_lt small]

theorem ref_frames_iff :
    (0 ≤ sps.geometry.nRefFrmCount.toInt ∧ sps.geometry.nRefFrmCount.toInt ≤ MAX_PICTURE_COUNT) ↔
      sps.num_ref_frames.toNat ≤ MAX_PICTURE_COUNT := by
  have bound := sps.num_ref_frames.toNat_lt
  have value : sps.geometry.nRefFrmCount = sps.num_ref_frames.toInt32 := rfl
  have signed : sps.num_ref_frames.toInt32.toInt =
      (sps.num_ref_frames.toNat : Int).bmod (2 ^ 32) := BitVec.toInt_eq_toNat_bmod _
  rw [value, signed, Int.bmod_def]
  unfold MAX_PICTURE_COUNT
  split
  · omega
  · omega

theorem visible_width_iff : sps.geometry.nCropLeft.toNat + sps.geometry.nCropRight.toNat <
        sps.geometry.nFrmMbWidth.toNat ↔
      LeavesSome sps.pic_width_in_mbs_minus1.toNat 16
        (sps.frame_cropping.elim 0 fun crop => crop.frame_crop_right_offset.toNat) 2 := by
  have left : sps.geometry.nCropLeft.toNat = 0 := rfl
  unfold LeavesSome
  rw [left, Nat.zero_add, crop_right, frm_mb_width]

theorem visible_height_iff : sps.geometry.nCropTop.toNat + sps.geometry.nCropBottom.toNat <
        sps.geometry.nFrmMbHeight.toNat ↔
      LeavesSome sps.pic_height_in_map_units_minus1.toNat (fieldScale sps * 16)
        (sps.frame_cropping.elim 0 fun crop => crop.frame_crop_bottom_offset.toNat)
        (2 * fieldScale sps) := by
  have top : sps.geometry.nCropTop.toNat = 0 := rfl
  unfold LeavesSome
  rw [top, Nat.zero_add, crop_bottom, frm_mb_height]

theorem real_height_ne_zero
    (visible : sps.geometry.nCropTop.toNat + sps.geometry.nCropBottom.toNat <
      sps.geometry.nFrmMbHeight.toNat) :
    sps.geometry.nFrmMbHeight - sps.geometry.nCropTop - sps.geometry.nCropBottom ≠ 0 := by
  have top : sps.geometry.nCropTop = 0 := rfl
  rw [top, UInt32.sub_zero]
  intro zero
  have total := sps.geometry.nFrmMbHeight.toNat_lt
  have difference := congrArg UInt32.toNat zero
  have none : (0 : UInt32).toNat = 0 := rfl
  rw [UInt32.toNat_sub, none] at difference
  omega

end Sizes

variable {hCtx : Context} {vuiContext : VuiContext} {sps : SpsElements}

theorem decode_reaches (reaches : Reaches hCtx sps) : decodeSps hCtx sps.toSpsSyntax =
      (.ok, storeSps (markMatrices hCtx sps.toSpsSyntax) sps.toSpsSyntax) := by
  have same : resolutionChanged (markMatrices hCtx sps.toSpsSyntax) sps.toSpsSyntax =
      resolutionChanged hCtx sps.toSpsSyntax := rfl
  unfold decodeSps
  dsimp only
  rw [reaches.1, same, reaches.2]
  rfl

theorem decode_stops (stops : ¬ Reaches hCtx sps) : (decodeSps hCtx sps.toSpsSyntax).1 ≠ .ok := by
  have same : resolutionChanged (markMatrices hCtx sps.toSpsSyntax) sps.toSpsSyntax =
      resolutionChanged hCtx sps.toSpsSyntax := rfl
  unfold decodeSps
  dsimp only
  cases refused : sps.refused with
  | some ret =>
    dsimp only
    rintro rfl
    unfold SpsSyntax.refused at refused
    split_ifs at refused <;> cases refused
  | none =>
    dsimp only
    rw [same]
    cases changed : resolutionChanged hCtx sps.toSpsSyntax with
    | false => exact absurd ⟨refused, changed⟩ stops
    | true =>
      rw [if_pos rfl]
      dsimp only
      split_ifs <;> decide

theorem cycle_bounded (accepted : sps.refused = none) :
    (if sps.pic_order_cnt_type = 1 then sps.num_ref_frames_in_pic_order_cnt_cycle else 0) ≤
      256 := by
  split_ifs with one
  · unfold SpsSyntax.refused at accepted
    split_ifs at accepted with _ _ long
    exact Nat.not_lt.mp fun past => long ⟨one, past⟩
  · exact Nat.zero_le _

theorem bounded_iff {stored : StoredSps} (geometry : stored.geometry = sps.geometry)
    (cycle : stored.nPocCycleLength ≤ 256) :
    stored.Bounded ↔ sps.num_ref_frames.toNat ≤ MAX_PICTURE_COUNT ∧
        sps.pic_width_in_mbs_minus1.toNat ≠ 2 ^ 32 - 1 ∧
        sps.pic_height_in_map_units_minus1.toNat ≠ 2 ^ 32 - 1 ∧
        LeavesSome sps.pic_width_in_mbs_minus1.toNat 16
          (sps.frame_cropping.elim 0 fun crop => crop.frame_crop_right_offset.toNat) 2 ∧
        LeavesSome sps.pic_height_in_map_units_minus1.toNat (fieldScale sps * 16)
          (sps.frame_cropping.elim 0 fun crop => crop.frame_crop_bottom_offset.toNat)
          (2 * fieldScale sps) := by
  rw [← ref_frames_iff, ← mb_width_positive_iff, ← mb_height_positive_iff, ← visible_width_iff,
    ← visible_height_iff, ← geometry]
  constructor
  · intro bounded
    exact ⟨bounded.refFrames, bounded.width, bounded.height, bounded.visibleWidth,
      bounded.visibleHeight⟩
  · rintro ⟨refFrames, width, height, visibleWidth, visibleHeight⟩
    exact ⟨refFrames, cycle, width, height, visibleWidth, visibleHeight⟩

theorem robust_iff_elements :
    Robust hCtx vuiContext sps ↔ (Reaches hCtx sps → WithinBounds vuiContext sps) := by
  by_cases reaches : Reaches hCtx sps
  · have cycle := cycle_bounded reaches.1
    rw [forall_prop_of_true reaches]
    constructor
    · rintro ⟨ending, ended, bounds⟩
      unfold H264DecodeSps at ended
      rw [decode_reaches reaches] at ended
      have limits : ∀ stored : StoredSps, ending.stored = some stored →
          stored.geometry = sps.geometry → stored.nPocCycleLength ≤ 256 →
          (∀ unknown : vuiContext.nFrameRate = 0, ∀ vui ∈ sps.vui, ∀ timing ∈ vui.timing,
            timing.num_units_in_tick.toNat % 2 ^ 31 ≠ 0) → WithinBounds vuiContext sps := by
        intro stored kept geometry cycle timing
        rcases (bounded_iff geometry cycle).mp (bounds stored kept) with
          ⟨refFrames, width, height, cropWidth, cropHeight⟩
        exact ⟨refFrames, width, height, cropWidth, cropHeight, timing⟩
      by_cases zero : sps.geometry.nFrmMbHeight - sps.geometry.nCropTop -
          sps.geometry.nCropBottom = 0
      · simp only [bind, Except.bind, divide_zero zero] at ended
        cases ended
      · simp only [bind, Except.bind, divide_ok zero] at ended
        cases vui : sps.vui with
        | none =>
          rw [vui] at ended
          cases ended
          apply limits _ rfl rfl cycle
          intro _ other member
          rw [vui] at member
          cases member
        | some elements =>
          rw [vui] at ended
          dsimp only at ended
          cases decoded : H264DecVuiParameters elements vuiContext noVui with
          | error trap =>
            rw [decoded] at ended
            cases ended
          | ok after =>
            rw [decoded] at ended
            cases ended
            apply limits _ rfl rfl cycle
            intro unknown other member
            rw [vui] at member
            rw [← Option.some_inj.mp member]
            exact (vui_ok_iff elements vuiContext noVui).mp ⟨after, decoded⟩ unknown
    · intro within
      have bounds : ∀ stored : StoredSps, stored.geometry = sps.geometry →
          stored.nPocCycleLength ≤ 256 → stored.Bounded := by
        intro stored geometry cycle
        exact (bounded_iff geometry cycle).mpr ⟨within.refFrames, within.width, within.height,
          within.cropWidth, within.cropHeight⟩
      have height := real_height_ne_zero sps
        ((visible_height_iff sps).mpr within.cropHeight)
      unfold Robust H264DecodeSps
      rw [decode_reaches reaches]
      simp only [bind, Except.bind, divide_ok height]
      cases vui : sps.vui with
      | none =>
        refine ⟨_, rfl, ?_⟩
        intro stored member
        cases member
        exact bounds _ rfl cycle
      | some elements =>
        rcases (vui_ok_iff elements vuiContext noVui).mpr fun unknown =>
          within.timing unknown elements vui with ⟨after, ended⟩
        dsimp only
        rw [ended]
        refine ⟨_, rfl, ?_⟩
        intro stored member
        cases member
        exact bounds _ rfl cycle
  · apply iff_of_true _ fun other => absurd other reaches
    have stops := decode_stops reaches
    unfold Robust H264DecodeSps
    cases ended : decodeSps hCtx sps.toSpsSyntax with
    | mk ret after =>
      rw [ended] at stops
      cases ret with
      | ok => exact absurd rfl stops
      | _ => exact ⟨_, rfl, fun stored member => (nomatch member)⟩

/-- A picture of one macroblock whose cropping takes all of its 16 lines. -/
def croppedAway : List Bool := bitsOf "0100001000000000000111101101101001111111100010010"

end CedarC.H264SpsBounds
