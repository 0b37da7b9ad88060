import CedarC.H264ScalingLists

/-!
# H.264 parameter sets

`H264DecodeSps`, `H264DecodePps`, the activation of a PPS and its SPS by a slice, and
`H264ProcessNaluUnit` around them: the two tables of parameter sets, the copy of an SPS in
the context and the quantisation words. The words of a parameter set are given as its
syntax elements; what a slice needs of pictures and buffers is given as its outcome.
-/

namespace CedarC.H264

structure CropSyntax where
  frame_crop_left_offset : UInt32
  frame_crop_right_offset : UInt32
  frame_crop_top_offset : UInt32
  frame_crop_bottom_offset : UInt32
deriving DecidableEq

structure SpsSyntax where
  profile_idc : Nat
  constraint_set_flags : UInt8
  seq_parameter_set_id : Nat
  chroma_format_idc : Nat
  scaling_matrix : Option ScalingMatrixSyntax
  pic_order_cnt_type : Nat
  num_ref_frames_in_pic_order_cnt_cycle : Nat
  num_ref_frames : UInt32
  pic_width_in_mbs_minus1 : UInt32
  pic_height_in_map_units_minus1 : UInt32
  frame_mbs_only_flag : Bool
  mb_adaptive_frame_field_flag : Bool
  frame_cropping : Option CropSyntax

structure PpsExtension where
  transform_8x8_mode_flag : Bool
  scaling_matrix : Option ScalingMatrixSyntax

/-- `extension` is there where the two tests on the bits left find more of them. -/
structure PpsSyntax where
  pic_parameter_set_id : Nat
  seq_parameter_set_id : Nat
  num_slice_groups_minus1 : UInt32
  num_ref_idx_l0_active_minus1 : UInt32
  num_ref_idx_l1_active_minus1 : UInt32
  extension : Option PpsExtension

inductive Ret
  | ok
  | errFail
  | unsupported
  | resolutionChange
  | noFrameBuffer
  | decFrameError
  | dropBFrame
  | continue_
  | redecodeStreamData
deriving DecidableEq

/-- A slice: the PPS it names, an exit of its header before that is read, whether it codes a
field, and how the rest of its header ends. An exit before the PPS is an error, and no slice
header reports a resolution change. -/
structure SliceSyntax where
  nPpsId : Nat
  refused : Option Ret
  fieldPic : Bool
  ret : Ret
  exits : refused ≠ some .ok ∧ refused ≠ some .resolutionChange ∧ ret ≠ .resolutionChange := by
    decide
deriving DecidableEq

/-- How far `H264MallocFrmBuffer` gets. -/
structure Buffers where
  computesOffset : Bool
  setsFrameNum : Bool
  ok : Bool
deriving DecidableEq

inductive Nalu
  | sps (read : SpsSyntax) (buffers : Buffers)
  | spsExt (read : SpsSyntax)
  | pps (read : PpsSyntax)
  | slice (slice : SliceSyntax) (buffers : Buffers)
  | headerExt (slice : SliceSyntax) (buffers : Buffers)

/-- What an SPS says of pictures and references, kept in the SPS and in the context. -/
structure Geometry where
  nMbWidth : UInt32
  nMbHeight : UInt32
  nFrmMbWidth : UInt32
  nFrmMbHeight : UInt32
  bFrameMbsOnlyFlag : Bool
  nRefFrmCount : Int32
  nCropLeft : UInt32
  nCropRight : UInt32
  nCropTop : UInt32
  nCropBottom : UInt32
deriving DecidableEq

/-- `H264SpsInfo`, with the syntax it was read from. -/
structure SpsInfo where
  geometry : Geometry
  bMbAff : Bool
  nProfileIdc : Nat
  bConstraintSetFlags : UInt8
  bScalingMatrixPresent : Bool
  matrices : ScalingMatrices
  read : SpsSyntax

/-- `H264PpsInfo`, with the syntax it was read from. -/
structure PpsInfo where
  nSpsId : Nat
  bTransform8x8Mode : Bool
  bScalingMatrixPresent : Bool
  matrices : ScalingMatrices
  read : PpsSyntax

/-- The scaling and rotation of `vconfig` and `H264ExtraScaleInf`. -/
structure ScaleConfig where
  nRotateDegree : Nat
  nHorizonScaleDownRatio : UInt32
  nVerticalScaleDownRatio : UInt32
  nHorizonScaleRatio : UInt32
  nVerticalScaleRatio : UInt32
  nWidthTh : UInt32
  nHeightTh : UInt32
deriving DecidableEq

structure QuantWords where
  nScalingMatrix4 : Fin 6 → Fin 4 → UInt32
  nScalingMatrix8 : Fin 2 → Fin 16 → UInt32

/-- `pCurSps` and `pCurPps` point into the tables, whose entries are never moved. -/
structure Context where
  geometry : Geometry
  pSpsBuffers : Nat → Option SpsInfo
  pPpsBuffers : Nat → Option PpsInfo
  nNewSpsId : Nat
  pCurSps : Option Nat
  pCurPps : Option Nat
  bScalingMatrixPresent : Bool
  words : QuantWords
  bNeedFindSPS : Bool
  bNeedFindPPS : Bool
  bIsAvc : Bool
  /-- `none` is `0xFF`. -/
  bProgressice : Option Bool
  /-- `nMaxValidFrmBufNum` is not zero. -/
  bValidFrmBuf : Bool
  bCalledByOmxFlag : Bool
  scale : ScaleConfig

def Context.curSps (hCtx : Context) : Option SpsInfo := hCtx.pCurSps.bind hCtx.pSpsBuffers

def Context.curPps (hCtx : Context) : Option PpsInfo := hCtx.pCurPps.bind hCtx.pPpsBuffers

def MAX_SPS_COUNT : Nat := 32
def MAX_PPS_COUNT : Nat := 256

/-- The fields `H264DecodeSps` takes for pictures; the left and top crops are read over. -/
def SpsSyntax.geometry (read : SpsSyntax) : Geometry :=
  let nMbWidth := read.pic_width_in_mbs_minus1 + 1
  let nMbHeight := read.pic_height_in_map_units_minus1 + 1
  let frmMbsOnlyFlag : UInt32 := if read.frame_mbs_only_flag then 1 else 0
  let crop := read.frame_cropping
  { nMbWidth := nMbWidth
    nMbHeight := nMbHeight
    nFrmMbWidth := nMbWidth * 16
    nFrmMbHeight := nMbHeight * (2 - frmMbsOnlyFlag) * 16
    bFrameMbsOnlyFlag := read.frame_mbs_only_flag
    nRefFrmCount := read.num_ref_frames.toInt32
    nCropLeft := 0
    nCropRight := crop.elim 0 fun c => c.frame_crop_right_offset * 2
    nCropTop := 0
    nCropBottom := crop.elim 0 fun c => c.frame_crop_bottom_offset * (2 * (2 - frmMbsOnlyFlag)) }

def zeroMatrices : ScalingMatrices := ⟨fun _ _ => 0, fun _ _ => 0⟩

def SpsSyntax.matrices (read : SpsSyntax) : Bool × ScalingMatrices :=
  if read.profile_idc ≥ 100 then
    decodeScalingMatrices read.scaling_matrix true false false zeroMatrices zeroMatrices
  else (false, zeroMatrices)

/-- `pSpsInf` once `H264DecodeSps` has read the whole set. -/
def SpsSyntax.info (read : SpsSyntax) : SpsInfo where
  geometry := read.geometry
  bMbAff := !read.frame_mbs_only_flag && read.mb_adaptive_frame_field_flag
  nProfileIdc := read.profile_idc
  bConstraintSetFlags := read.constraint_set_flags
  bScalingMatrixPresent := read.matrices.1
  matrices := read.matrices.2
  read := read

/-- The test of `H264DecodeSps` on the size in the context. -/
def resolutionChanged (hCtx : Context) (read : SpsSyntax) : Bool :=
  let nMbWidth := read.pic_width_in_mbs_minus1 + 1
  let nMbHeight := read.pic_height_in_map_units_minus1 + 1
  nMbWidth > 5 && nMbHeight > 4 && hCtx.geometry.nMbWidth != 0 && hCtx.geometry.nMbHeight != 0 &&
    (nMbWidth != hCtx.geometry.nMbWidth || nMbHeight != hCtx.geometry.nMbHeight)

/-- What `H264DecodeSps` answers before it has come to the size. -/
def SpsSyntax.refused (read : SpsSyntax) : Option Ret :=
  if read.seq_parameter_set_id ≥ MAX_SPS_COUNT then some .errFail
  else if read.profile_idc ≥ 100 ∧ read.chroma_format_idc ≠ 1 then some .unsupported
  else if read.pic_order_cnt_type = 1 ∧ read.num_ref_frames_in_pic_order_cnt_cycle > 256 then
    some .errFail
  else if read.pic_order_cnt_type > 2 then some .errFail
  else none

/-- `hCtx->bScalingMatrixPresent` is set as soon as the matrices have been read. -/
def SpsSyntax.reachesMatrices (read : SpsSyntax) : Bool :=
  read.seq_parameter_set_id < MAX_SPS_COUNT && read.profile_idc ≥ 100 && read.chroma_format_idc = 1

def storeSps (hCtx : Context) (read : SpsSyntax) : Context :=
  { hCtx with
    geometry := read.geometry
    bProgressice :=
      if hCtx.bProgressice = none then (if read.info.bMbAff then some false else none)
      else hCtx.bProgressice
    pSpsBuffers :=
      Function.update hCtx.pSpsBuffers read.seq_parameter_set_id (some read.info)
    nNewSpsId := read.seq_parameter_set_id }

def markMatrices (hCtx : Context) (read : SpsSyntax) : Context :=
  { hCtx with bScalingMatrixPresent := hCtx.bScalingMatrixPresent || read.reachesMatrices }

def decodeSps (hCtx : Context) (read : SpsSyntax) : Ret × Context :=
  let hCtx := markMatrices hCtx read
  match read.refused with
  | some ret => (ret, hCtx)
  | none =>
    if resolutionChanged hCtx read then
      (if hCtx.bIsAvc then .unsupported else .resolutionChange, hCtx)
    else (.ok, storeSps hCtx read)

/-- `H264JudgeMoreRbspData`. -/
def judgeMoreRbspData (pSpsInf : SpsInfo) : Bool :=
  !((pSpsInf.nProfileIdc = 66 || pSpsInf.nProfileIdc = 77 || pSpsInf.nProfileIdc = 88) &&
    pSpsInf.bConstraintSetFlags &&& 7 != 0)

def flatMatrices : ScalingMatrices := ⟨fun _ _ => 16, fun _ _ => 16⟩

def PpsSyntax.extensionRead (read : PpsSyntax) (pSps : SpsInfo) : Option PpsExtension :=
  if judgeMoreRbspData pSps then read.extension else none

/-- `pPpsInf` of a PPS of this SPS, as `H264DecodePps` copies it into the table. -/
def PpsSyntax.info (read : PpsSyntax) (pSps : SpsInfo) : PpsInfo :=
  match read.extensionRead pSps with
  | none =>
    { nSpsId := read.seq_parameter_set_id
      bTransform8x8Mode := false
      bScalingMatrixPresent := false
      matrices := flatMatrices
      read := read }
  | some extension =>
    let decoded := decodeScalingMatrices extension.scaling_matrix false
      extension.transform_8x8_mode_flag pSps.bScalingMatrixPresent pSps.matrices flatMatrices
    { nSpsId := read.seq_parameter_set_id
      bTransform8x8Mode := extension.transform_8x8_mode_flag
      bScalingMatrixPresent := decoded.1
      matrices := decoded.2
      read := read }

def storePps (hCtx : Context) (read : PpsSyntax) (pSps : SpsInfo) : Context :=
  { hCtx with
    pPpsBuffers :=
      Function.update hCtx.pPpsBuffers read.pic_parameter_set_id (some (read.info pSps))
    bScalingMatrixPresent := hCtx.bScalingMatrixPresent || (read.extensionRead pSps).isSome }

/-- The SPS a PPS is read with, where `H264DecodePps` accepts the PPS. -/
def acceptsPps (hCtx : Context) (read : PpsSyntax) : Option SpsInfo :=
  if read.pic_parameter_set_id ≥ MAX_PPS_COUNT ∨ read.seq_parameter_set_id ≥ MAX_SPS_COUNT then none
  else if read.num_slice_groups_minus1 + 1 > 1 then none
  else if read.num_ref_idx_l0_active_minus1 + 1 > 32 ∨ read.num_ref_idx_l1_active_minus1 + 1 > 32
    then none
  else hCtx.pSpsBuffers read.seq_parameter_set_id

def decodePps (hCtx : Context) (read : PpsSyntax) : Ret × Context :=
  match acceptsPps hCtx read with
  | none => (.errFail, hCtx)
  | some pSps => (.ok, storePps hCtx read pSps)

/-- `H264ComputeOffset`, as far as it changes the crops of the context. -/
def computeOffset (scale : ScaleConfig) (geometry : Geometry) : Geometry :=
  let turned := match scale.nRotateDegree with
    | 2 => { geometry with
        nCropTop := geometry.nCropBottom, nCropRight := geometry.nCropLeft
        nCropBottom := geometry.nCropTop, nCropLeft := geometry.nCropRight }
    | 1 => { geometry with
        nCropTop := geometry.nCropLeft, nCropRight := geometry.nCropTop
        nCropBottom := geometry.nCropRight, nCropLeft := geometry.nCropBottom }
    | 3 => { geometry with
        nCropTop := geometry.nCropRight, nCropRight := geometry.nCropBottom
        nCropBottom := geometry.nCropLeft, nCropLeft := geometry.nCropTop }
    | _ => geometry
  { turned with
    nCropLeft := turned.nCropLeft >>> scale.nHorizonScaleDownRatio
    nCropRight := turned.nCropRight >>> scale.nHorizonScaleDownRatio
    nCropTop := turned.nCropTop >>> scale.nVerticalScaleDownRatio
    nCropBottom := turned.nCropBottom >>> scale.nVerticalScaleDownRatio }

/-- The scale-down `H264MallocBuffer` takes from `H264ExtraScaleInf` for large pictures. -/
def extraScale (scale : ScaleConfig) (geometry : Geometry) : ScaleConfig :=
  let flag1 := 0 < scale.nHorizonScaleRatio && scale.nHorizonScaleRatio ≤ 3
  let flag2 := 0 < scale.nVerticalScaleRatio && scale.nVerticalScaleRatio ≤ 3
  let width := (scale.nWidthTh + 63) &&& ~~~63
  let height := (scale.nHeightTh + 63) &&& ~~~63
  if (flag1 || flag2) && scale.nHorizonScaleDownRatio = 0 && scale.nVerticalScaleDownRatio = 0 &&
      (geometry.nFrmMbWidth ≥ width || geometry.nFrmMbHeight ≥ height) then
    { scale with
      nHorizonScaleDownRatio := scale.nHorizonScaleRatio
      nVerticalScaleDownRatio := scale.nVerticalScaleRatio }
  else scale

/-- `H264MallocFrmBuffer`. -/
def mallocFrmBuffer (hCtx : Context) (buffers : Buffers) : Ret × Context :=
  let scale := extraScale hCtx.scale hCtx.geometry
  let geometry :=
    if buffers.computesOffset then computeOffset scale hCtx.geometry else hCtx.geometry
  let hCtx := { hCtx with
    scale := scale
    geometry := geometry
    bValidFrmBuf := hCtx.bValidFrmBuf || buffers.setsFrameNum }
  (if buffers.ok then .ok else .unsupported, hCtx)

def activate (hCtx : Context) (nPpsId : Nat) (pPps : PpsInfo) : Context :=
  { hCtx with pCurPps := some nPpsId, pCurSps := some pPps.nSpsId }

def namedPps (hCtx : Context) (slice : SliceSyntax) : Option PpsInfo :=
  if slice.refused.isSome || slice.nPpsId ≥ MAX_PPS_COUNT then none
  else hCtx.pPpsBuffers slice.nPpsId

/-- `H264DecodeSliceHeader`, as far as it concerns the parameter sets. -/
def decodeSliceHeader (hCtx : Context) (slice : SliceSyntax) : Ret × Context :=
  match namedPps hCtx slice with
  | none => (slice.refused.getD .errFail, hCtx)
  | some pPps =>
    let current := activate hCtx slice.nPpsId pPps
    let changed := hCtx.pCurPps.isSome && hCtx.pCurSps.isSome &&
      (hCtx.pCurPps != current.pCurPps || hCtx.pCurSps != current.pCurSps)
    (slice.ret, { current with
      bScalingMatrixPresent := hCtx.bScalingMatrixPresent || changed })

/-- `H264DecodePictureScanType`. -/
def decodePictureScanType (hCtx : Context) (slice : SliceSyntax) : Ret × Context :=
  match namedPps hCtx slice with
  | none => (slice.refused.getD .errFail, hCtx)
  | some pPps =>
    let current := activate hCtx slice.nPpsId pPps
    let fieldPic := match current.curSps with
      | some sps => !sps.geometry.bFrameMbsOnlyFlag && slice.fieldPic
      | none => slice.fieldPic
    let bMbAff := (current.curSps.map SpsInfo.bMbAff).getD false
    (.redecodeStreamData, { current with
      bProgressice :=
        if hCtx.bProgressice = none then some (!bMbAff && !fieldPic) else hCtx.bProgressice })

def word (b0 b1 b2 b3 : UInt8) : UInt32 :=
  b3.toUInt32 <<< 24 ||| b2.toUInt32 <<< 16 ||| b1.toUInt32 <<< 8 ||| b0.toUInt32

/-- `H264ConvertScalingMatrices`. -/
def convertScalingMatrices (matrices : ScalingMatrices) : QuantWords where
  nScalingMatrix4 i j :=
    let factor (k : Fin 4) := matrices.nScalingMatrix4 i ⟨4 * j.val + k.val, by omega⟩
    word (factor 0) (factor 1) (factor 2) (factor 3)
  nScalingMatrix8 i j :=
    let factor (k : Fin 4) := matrices.nScalingMatrix8 i ⟨4 * j.val + k.val, by omega⟩
    word (factor 0) (factor 1) (factor 2) (factor 3)

/-- `scaling_matix_flat_flag`, or the words written. -/
inductive QuantRegisters
  | flat
  | written (words : QuantWords)

/-- The matrices `H264ConfigureQuantMatrixRegister` converts. -/
def matricesInUse (pps : PpsInfo) (sps : SpsInfo) : Option ScalingMatrices :=
  if pps.bScalingMatrixPresent then some pps.matrices
  else if sps.bScalingMatrixPresent then some sps.matrices
  else none

/-- `H264ConfigureQuantMatrixRegister`. -/
def configureQuantMatrixRegister (hCtx : Context) (pps : PpsInfo) (sps : SpsInfo) : Context :=
  if hCtx.bScalingMatrixPresent then
    { hCtx with
      words := ((matricesInUse pps sps).map convertScalingMatrices).getD hCtx.words
      bScalingMatrixPresent := false }
  else hCtx

/-- `H264ConfigureSliceRegister`, as far as it concerns the matrices. -/
def configureSliceRegister (hCtx : Context) (pps : PpsInfo) (sps : SpsInfo) :
    QuantRegisters × Context :=
  if (sps.nProfileIdc = 100 ∨ sps.nProfileIdc = 118 ∨ sps.nProfileIdc = 128) ∧
      (sps.bScalingMatrixPresent = true ∨ pps.bScalingMatrixPresent = true) then
    let hCtx := configureQuantMatrixRegister hCtx pps sps
    (.written hCtx.words, hCtx)
  else (.flat, hCtx)

/-- What a NAL unit leads to; `registers` is there where a slice is given to the engine. -/
structure Outcome where
  ret : Ret
  hCtx : Context
  registers : Option QuantRegisters

/-- No buffers yet, and not known whether the pictures are progressive. -/
def scansFirst (hCtx : Context) : Bool := !hCtx.bValidFrmBuf && hCtx.bProgressice = none

def haveBuffers (hCtx : Context) (buffers : Buffers) : Ret × Context :=
  if hCtx.bValidFrmBuf then (.ok, hCtx) else mallocFrmBuffer hCtx buffers

def decodeSlice (hCtx : Context) (slice : SliceSyntax) : Outcome :=
  let (ret, hCtx) := decodeSliceHeader hCtx slice
  match ret, hCtx.curPps, hCtx.curSps with
  | .ok, some pps, some sps =>
    let (registers, hCtx) := configureSliceRegister hCtx pps sps
    ⟨.ok, hCtx, some registers⟩
  | ret, _, _ => ⟨ret, hCtx, none⟩

def processSlice (hCtx : Context) (slice : SliceSyntax) (buffers : Buffers) : Outcome :=
  if scansFirst hCtx then
    let (ret, hCtx) := decodePictureScanType hCtx slice
    ⟨ret, hCtx, none⟩
  else
    let (ret, hCtx) := haveBuffers hCtx buffers
    if ret ≠ .ok then ⟨ret, hCtx, none⟩ else decodeSlice hCtx slice

def Nalu.isSps : Nalu → Bool
  | .sps _ _ => true
  | _ => false

def Nalu.isPps : Nalu → Bool
  | .pps _ => true
  | _ => false

def Nalu.isSpsExt : Nalu → Bool
  | .spsExt _ => true
  | _ => false

def Nalu.isExt : Nalu → Bool
  | .spsExt _ | .headerExt _ _ => true
  | _ => false

/-- The NAL units `H264ProcessNaluUnit` does not pass over. -/
def admits (nDecStreamIndex : Nat) (hCtx : Context) (nalu : Nalu) : Bool :=
  if nDecStreamIndex = 0 then
    !(!nalu.isSps && hCtx.bNeedFindSPS) && !(!nalu.isPps && !nalu.isSps && hCtx.bNeedFindPPS) &&
      !nalu.isExt
  else if nDecStreamIndex = 1 then !(!nalu.isSpsExt && hCtx.bNeedFindSPS)
  else true

def endSearch (nDecStreamIndex : Nat) (hCtx : Context) : Context :=
  if nDecStreamIndex = 1 ∧ hCtx.bNeedFindSPS = true then
    { hCtx with bNeedFindSPS := false, bNeedFindPPS := false }
  else hCtx

def processAdmitted (hCtx : Context) (nalu : Nalu) : Outcome :=
  match nalu with
  | .sps read buffers =>
    let (ret, hCtx) := decodeSps hCtx read
    if ret ≠ .ok then ⟨ret, hCtx, none⟩
    else
      let hCtx := { hCtx with bNeedFindSPS := false }
      if hCtx.bCalledByOmxFlag && !hCtx.bValidFrmBuf then
        let (ret, hCtx) := mallocFrmBuffer { hCtx with bProgressice := some true } buffers
        ⟨ret, hCtx, none⟩
      else ⟨.ok, hCtx, none⟩
  | .spsExt read =>
    let (ret, hCtx) := decodeSps { hCtx with bNeedFindSPS := false } read
    ⟨ret, hCtx, none⟩
  | .pps read =>
    let (ret, hCtx) := decodePps hCtx read
    if ret ≠ .ok then ⟨ret, hCtx, none⟩ else ⟨.ok, { hCtx with bNeedFindPPS := false }, none⟩
  | .slice slice buffers => processSlice hCtx slice buffers
  | .headerExt slice buffers => processSlice hCtx slice buffers

/-- `H264ProcessNaluUnit`. -/
def processNaluUnit (nDecStreamIndex : Nat) (hCtx : Context) (nalu : Nalu) : Outcome :=
  if admits nDecStreamIndex hCtx nalu then
    processAdmitted (endSearch nDecStreamIndex hCtx) nalu
  else ⟨.ok, hCtx, none⟩

/-- The size of the container, where buffers are taken before the stream is read. -/
structure Prealloc where
  nWidth : UInt32
  nHeight : UInt32
  buffers : Buffers
deriving DecidableEq

def zeroGeometry : Geometry := ⟨0, 0, 0, 0, false, 0, 0, 0, 0, 0⟩

/-- `H264InitDecode`. -/
def initDecode (bIsAvc bCalledByOmxFlag : Bool) (scale : ScaleConfig) : Context where
  geometry := zeroGeometry
  pSpsBuffers := fun _ => none
  pPpsBuffers := fun _ => none
  nNewSpsId := 0
  pCurSps := none
  pCurPps := none
  bScalingMatrixPresent := false
  words := ⟨fun _ _ => 0, fun _ _ => 0⟩
  bNeedFindSPS := true
  bNeedFindPPS := true
  bIsAvc := bIsAvc
  bProgressice := none
  bValidFrmBuf := false
  bCalledByOmxFlag := bCalledByOmxFlag
  scale := scale

/-- `H264PallocBufferBeforeDecode`. -/
def pallocBufferBeforeDecode (hCtx : Context) (info : Prealloc) : Ret × Context :=
  let nFrmMbWidth := (info.nWidth + 15) &&& ~~~15
  let nFrmMbHeight := (info.nHeight + 15) &&& ~~~15
  mallocFrmBuffer
    { hCtx with
      geometry := { hCtx.geometry with
        nFrmMbHeight := nFrmMbHeight
        nFrmMbWidth := nFrmMbWidth
        bFrameMbsOnlyFlag := true
        nMbHeight := nFrmMbHeight / 16
        nMbWidth := nFrmMbWidth / 16 }
      bProgressice := some true }
    info.buffers

/-- The contexts `H264DecoderInit` leaves. -/
inductive Started : Context → Prop
  | plain (bIsAvc omx : Bool) (scale : ScaleConfig) : Started (initDecode bIsAvc omx scale)
  | prealloc (bIsAvc omx : Bool) (scale : ScaleConfig) (info : Prealloc) :
      Started (pallocBufferBeforeDecode (initDecode bIsAvc omx scale) info).2

end CedarC.H264
