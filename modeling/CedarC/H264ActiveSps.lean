import CedarC.GuardedRuns
import CedarC.H264ParameterSets

/-!
# The active SPS

The decoder copies an SPS into its context when it reads it, and a slice chooses its SPS
through the PPS it names. A run keeps the copy and the active SPS together where every set
read beside the active one is alike in size and every slice names a set like the last one
read; the size is compared when an SPS is read, so a change of the active size is reported
where the active SPS itself is sent again.
-/

namespace CedarC.H264

open GuardedRuns Function Option

def Geometry.frameSize (geometry : Geometry) : Nat × Nat :=
  (geometry.nMbWidth.toNat, geometry.nMbHeight.toNat * if geometry.bFrameMbsOnlyFlag then 1 else 2)

def Geometry.mapUnits (geometry : Geometry) : UInt32 × UInt32 :=
  (geometry.nMbWidth, geometry.nMbHeight)

def reachesHeader (hCtx : Context) (buffers : Buffers) : Bool :=
  scansFirst hCtx || hCtx.bValidFrmBuf || buffers.ok

def namedSps (hCtx : Context) (slice : SliceSyntax) : Option SpsInfo :=
  (namedPps hCtx slice).bind fun pps => hCtx.pSpsBuffers pps.nSpsId

/-- What becomes active: the SPS a slice names, or the active SPS when it is sent again. -/
def activated (nDecStreamIndex : Nat) (hCtx : Context) (nalu : Nalu) : Option Geometry :=
  if admits nDecStreamIndex hCtx nalu then
    match nalu with
    | .sps read _ | .spsExt read =>
      if read.refused = none ∧ hCtx.pCurSps = some read.seq_parameter_set_id then
        some read.geometry
      else none
    | .pps _ => none
    | .slice slice buffers | .headerExt slice buffers =>
      if reachesHeader hCtx buffers then (namedSps hCtx slice).map SpsInfo.geometry else none
  else none

/-- A step of the decoder with the copy and the reports right. -/
structure ActiveSpsKept (nDecStreamIndex : Nat) (hCtx : Context) (nalu : Nalu) : Prop where
  copied : (processNaluUnit nDecStreamIndex hCtx nalu).registers.isSome →
    ∃ sps, (processNaluUnit nDecStreamIndex hCtx nalu).hCtx.curSps = some sps ∧
      (processNaluUnit nDecStreamIndex hCtx nalu).hCtx.geometry = sps.geometry
  reported : (processNaluUnit nDecStreamIndex hCtx nalu).ret = .resolutionChange ↔
    ∃ new ∈ activated nDecStreamIndex hCtx nalu, ∃ old ∈ hCtx.curSps,
      new.frameSize ≠ old.geometry.frameSize

/-- Rotation and scale-down, where buffers are taken now, leave the crops alone. -/
def OffsetKept (scale : ScaleConfig) (geometry : Geometry) (buffers : Buffers) : Prop :=
  buffers.computesOffset = true → computeOffset (extraScale scale geometry) geometry = geometry
deriving Decidable

/-- The active SPS sent again: the size kept is its own, the map units change just when the
frame size does, and then neither size is too small to be compared. -/
structure SentAgain (kept : Geometry) (bIsAvc : Bool) (old : SpsInfo) (read : SpsSyntax) :
    Prop where
  compared : kept.mapUnits = old.geometry.mapUnits
  sizes : read.geometry.mapUnits = old.geometry.mapUnits ↔
    read.geometry.frameSize = old.geometry.frameSize
  comparable : read.geometry.mapUnits ≠ old.geometry.mapUnits →
    5 < read.geometry.nMbWidth ∧ 4 < read.geometry.nMbHeight ∧ kept.nMbWidth ≠ 0 ∧
      kept.nMbHeight ≠ 0 ∧ bIsAvc = false

def SpsAgrees (hCtx : Context) (read : SpsSyntax) : Prop :=
  read.refused = none → (hCtx.pCurSps = some read.seq_parameter_set_id → ∀ old ∈ hCtx.curSps,
      SentAgain hCtx.geometry hCtx.bIsAvc old read) ∧
      (hCtx.pCurSps ≠ some read.seq_parameter_set_id → resolutionChanged hCtx read = false)

/-- The SPS a slice names is like the one read last, and of the active size. -/
def SliceAgrees (hCtx : Context) (slice : SliceSyntax) (buffers : Buffers) : Prop :=
  (hCtx.bValidFrmBuf = false → scansFirst hCtx = false →
    OffsetKept hCtx.scale hCtx.geometry buffers) ∧
    (reachesHeader hCtx buffers = true → ∀ sps ∈ namedSps hCtx slice,
      (∀ last ∈ hCtx.pSpsBuffers hCtx.nNewSpsId, sps.geometry = last.geometry) ∧
        ∀ old ∈ hCtx.curSps, sps.geometry.frameSize = old.geometry.frameSize)
deriving Decidable

def NaluAgrees (nDecStreamIndex : Nat) (hCtx : Context) (nalu : Nalu) : Prop :=
  admits nDecStreamIndex hCtx nalu = true →
    match nalu with
    | .sps read buffers => SpsAgrees hCtx read ∧
        (hCtx.bCalledByOmxFlag = true → hCtx.bValidFrmBuf = false →
          OffsetKept hCtx.scale read.geometry buffers)
    | .spsExt read => SpsAgrees hCtx read
    | .pps _ => True
    | .slice slice buffers | .headerExt slice buffers => SliceAgrees hCtx slice buffers

instance (kept : Geometry) (bIsAvc : Bool) (old : SpsInfo) (read : SpsSyntax) :
    Decidable (SentAgain kept bIsAvc old read) :=
  decidable_of_iff
    (kept.mapUnits = old.geometry.mapUnits ∧ (read.geometry.mapUnits = old.geometry.mapUnits ↔
        read.geometry.frameSize = old.geometry.frameSize) ∧
      (read.geometry.mapUnits ≠ old.geometry.mapUnits →
        5 < read.geometry.nMbWidth ∧ 4 < read.geometry.nMbHeight ∧ kept.nMbWidth ≠ 0 ∧
          kept.nMbHeight ≠ 0 ∧ bIsAvc = false))
    ⟨fun ⟨compared, sizes, comparable⟩ => ⟨compared, sizes, comparable⟩,
      fun again => ⟨again.compared, again.sizes, again.comparable⟩⟩

instance (hCtx : Context) (read : SpsSyntax) : Decidable (SpsAgrees hCtx read) :=
  inferInstanceAs (Decidable (_ → _ ∧ _))

instance (nDecStreamIndex : Nat) (hCtx : Context) (nalu : Nalu) :
    Decidable (NaluAgrees nDecStreamIndex hCtx nalu) :=
  match nalu with
  | .sps _ _ => inferInstanceAs (Decidable (_ → _ ∧ _))
  | .spsExt read => inferInstanceAs (Decidable (_ → SpsAgrees hCtx read))
  | .pps _ => inferInstanceAs (Decidable (_ → True))
  | .slice slice buffers => inferInstanceAs (Decidable (_ → SliceAgrees hCtx slice buffers))
  | .headerExt slice buffers => inferInstanceAs (Decidable (_ → SliceAgrees hCtx slice buffers))

def naluExec (nDecStreamIndex : Nat) (hCtx : Context) (nalu : Nalu) : Option Context :=
  some (processNaluUnit nDecStreamIndex hCtx nalu).hCtx

section Stored

variable {hCtx : Context}

/-- Every PPS kept, and the current one, name an SPS kept; so does the last SPS read. -/
structure SetsStored (hCtx : Context) : Prop where
  ppsStored : ∀ id pps, hCtx.pPpsBuffers id = some pps → (hCtx.pSpsBuffers pps.nSpsId).isSome
  curStored : ∀ id, hCtx.pCurSps = some id → (hCtx.pSpsBuffers id).isSome
  lastStored : ∀ id, (hCtx.pSpsBuffers id).isSome → (hCtx.pSpsBuffers hCtx.nNewSpsId).isSome

theorem update_stored {Entry : Type*} (table : Nat → Option Entry) (id other : Nat)
    (entry : Entry) (stored : (table other).isSome) :
    (update table id (some entry) other).isSome := by
  by_cases same : other = id
  · rw [same, update_self]
    rfl
  · rw [update_of_ne same]
    exact stored

theorem store_sps_stored (stored : SetsStored hCtx) (read : SpsSyntax) :
    SetsStored (storeSps hCtx read) where
  ppsStored id pps kept := update_stored _ _ _ _ (stored.ppsStored id pps kept)
  curStored id current := update_stored _ _ _ _ (stored.curStored id current)
  lastStored _ _ := by
    change (update hCtx.pSpsBuffers read.seq_parameter_set_id _
      read.seq_parameter_set_id).isSome
    rw [update_self]
    rfl

theorem decode_sps_cases (hCtx : Context) (read : SpsSyntax) :
    ((decodeSps hCtx read).1 ≠ .ok ∧ (decodeSps hCtx read).2 = markMatrices hCtx read) ∨
      (read.refused = none ∧ resolutionChanged hCtx read = false ∧
        decodeSps hCtx read = (.ok, storeSps (markMatrices hCtx read) read)) := by
  have marked : resolutionChanged (markMatrices hCtx read) read = resolutionChanged hCtx read := rfl
  unfold decodeSps
  cases refused : read.refused with
  | some ret =>
    refine Or.inl ⟨?_, rfl⟩
    unfold SpsSyntax.refused at refused
    split_ifs at refused <;> cases refused <;> simp
  | none =>
    dsimp only
    rw [marked]
    cases resolutionChanged hCtx read with
    | true =>
      refine Or.inl ⟨?_, rfl⟩
      cases (markMatrices hCtx read).bIsAvc <;> simp
    | false => exact Or.inr ⟨rfl, rfl, rfl⟩

theorem accepted_pps_stored {read : PpsSyntax} {pSps : SpsInfo}
    (accepted : acceptsPps hCtx read = some pSps) :
    hCtx.pSpsBuffers read.seq_parameter_set_id = some pSps := by
  unfold acceptsPps at accepted
  split at accepted
  · cases accepted
  · split at accepted
    · cases accepted
    · split at accepted
      · cases accepted
      · exact accepted

theorem info_names_read (read : PpsSyntax) (pSps : SpsInfo) :
    (read.info pSps).nSpsId = read.seq_parameter_set_id := by
  unfold PpsSyntax.info
  split <;> rfl

theorem decode_pps_stored (stored : SetsStored hCtx) (read : PpsSyntax) :
    SetsStored (decodePps hCtx read).2 := by
  unfold decodePps
  split
  · exact stored
  · rename_i pSps accepted
    refine ⟨?_, stored.curStored, stored.lastStored⟩
    intro id pps kept
    change update hCtx.pPpsBuffers read.pic_parameter_set_id _ id = some pps at kept
    by_cases same : id = read.pic_parameter_set_id
    · rw [same, update_self] at kept
      obtain rfl := Option.some.inj kept
      change (hCtx.pSpsBuffers (read.info pSps).nSpsId).isSome
      rw [info_names_read, accepted_pps_stored accepted]
      rfl
    · rw [update_of_ne same] at kept
      exact stored.ppsStored id pps kept

theorem malloc_stored (stored : SetsStored hCtx) (buffers : Buffers) :
    SetsStored (mallocFrmBuffer hCtx buffers).2 :=
  ⟨stored.ppsStored, stored.curStored, stored.lastStored⟩

theorem have_buffers_stored (stored : SetsStored hCtx) (buffers : Buffers) :
    SetsStored (haveBuffers hCtx buffers).2 := by
  unfold haveBuffers
  split
  · exact stored
  · exact malloc_stored stored buffers

variable {slice : SliceSyntax} {pps : PpsInfo}

theorem named_pps_kept
    (named : namedPps hCtx slice = some pps) : hCtx.pPpsBuffers slice.nPpsId = some pps := by
  unfold namedPps at named
  split at named
  · cases named
  · exact named

variable (stored : SetsStored hCtx)

include stored

theorem activate_stored
    (named : namedPps hCtx slice = some pps) : SetsStored (activate hCtx slice.nPpsId pps) := by
  refine ⟨stored.ppsStored, ?_, stored.lastStored⟩
  rintro id ⟨⟩
  exact stored.ppsStored _ _ (named_pps_kept named)

theorem scan_stored (slice : SliceSyntax) : SetsStored (decodePictureScanType hCtx slice).2 := by
  unfold decodePictureScanType
  split
  · exact stored
  · rename_i pps named
    have current := activate_stored stored named
    exact ⟨current.ppsStored, current.curStored, current.lastStored⟩

theorem header_stored (slice : SliceSyntax) : SetsStored (decodeSliceHeader hCtx slice).2 := by
  unfold decodeSliceHeader
  split
  · exact stored
  · rename_i pps named
    have current := activate_stored stored named
    exact ⟨current.ppsStored, current.curStored, current.lastStored⟩

theorem configure_stored (pps : PpsInfo) (sps : SpsInfo) :
    SetsStored (configureSliceRegister hCtx pps sps).2 := by
  unfold configureSliceRegister configureQuantMatrixRegister
  split
  · dsimp only
    split
    · exact ⟨stored.ppsStored, stored.curStored, stored.lastStored⟩
    · exact stored
  · exact stored

theorem decode_slice_stored (slice : SliceSyntax) : SetsStored (decodeSlice hCtx slice).hCtx := by
  have header := header_stored stored slice
  unfold decodeSlice
  generalize decodeSliceHeader hCtx slice = read at header ⊢
  dsimp only
  split
  · exact configure_stored header _ _
  · exact header

theorem process_slice_stored (slice : SliceSyntax)
    (buffers : Buffers) : SetsStored (processSlice hCtx slice buffers).hCtx := by
  unfold processSlice
  split
  · exact scan_stored stored slice
  · dsimp only
    split
    · exact have_buffers_stored stored buffers
    · exact decode_slice_stored (have_buffers_stored stored buffers) slice

omit stored

theorem started_stored (started : Started hCtx) : SetsStored hCtx := by
  cases started with
  | plain bIsAvc omx scale | prealloc bIsAvc omx scale info =>
    exact ⟨(fun _ _ kept => nomatch kept), (fun _ kept => nomatch kept),
      (fun _ kept => nomatch kept)⟩

end Stored

section Slices

variable {hCtx : Context}

structure SameSets (hCtx next : Context) : Prop where
  sps : next.pSpsBuffers = hCtx.pSpsBuffers
  pps : next.pPpsBuffers = hCtx.pPpsBuffers
  last : next.nNewSpsId = hCtx.nNewSpsId

theorem have_buffers_sets (buffers : Buffers) : SameSets hCtx (haveBuffers hCtx buffers).2 := by
  unfold haveBuffers
  split <;> exact ⟨rfl, rfl, rfl⟩

theorem have_buffers_geometry (buffers : Buffers)
    (kept : hCtx.bValidFrmBuf = false → OffsetKept hCtx.scale hCtx.geometry buffers) :
    (haveBuffers hCtx buffers).2.geometry = hCtx.geometry := by
  unfold haveBuffers
  split
  · rfl
  · rename_i none
    unfold mallocFrmBuffer
    dsimp only
    split
    · exact kept (Bool.eq_false_of_not_eq_true none) ‹_›
    · rfl

theorem configure_keeps (pps : PpsInfo) (sps : SpsInfo) :
    SameSets hCtx (configureSliceRegister hCtx pps sps).2 ∧
      (configureSliceRegister hCtx pps sps).2.geometry = hCtx.geometry ∧
      (configureSliceRegister hCtx pps sps).2.pCurSps = hCtx.pCurSps := by
  unfold configureSliceRegister configureQuantMatrixRegister
  split
  · dsimp only
    split <;> exact ⟨⟨rfl, rfl, rfl⟩, rfl, rfl⟩
  · exact ⟨⟨rfl, rfl, rfl⟩, rfl, rfl⟩

theorem header_keeps (slice : SliceSyntax) : SameSets hCtx (decodeSliceHeader hCtx slice).2 ∧
      (decodeSliceHeader hCtx slice).2.geometry = hCtx.geometry := by
  unfold decodeSliceHeader
  split <;> exact ⟨⟨rfl, rfl, rfl⟩, rfl⟩

theorem scan_keeps (slice : SliceSyntax) : SameSets hCtx (decodePictureScanType hCtx slice).2 ∧
      (decodePictureScanType hCtx slice).2.geometry = hCtx.geometry := by
  unfold decodePictureScanType
  split <;> exact ⟨⟨rfl, rfl, rfl⟩, rfl⟩

theorem header_ok_names {slice : SliceSyntax} (ok : (decodeSliceHeader hCtx slice).1 = .ok) :
    ∃ pps, namedPps hCtx slice = some pps ∧
      (decodeSliceHeader hCtx slice).2.pCurSps = some pps.nSpsId := by
  cases named : namedPps hCtx slice with
  | none =>
    simp only [decodeSliceHeader, named] at ok
    have refused := slice.exits.1
    cases exit : slice.refused with
    | none => simp [exit] at ok
    | some ret =>
      rw [exit, getD_some] at ok
      exact absurd (exit.trans (congrArg some ok)) refused
  | some pps =>
    refine ⟨pps, rfl, ?_⟩
    simp only [decodeSliceHeader, named]
    rfl

theorem header_reports_nothing (slice : SliceSyntax) :
    (decodeSliceHeader hCtx slice).1 ≠ .resolutionChange := by
  unfold decodeSliceHeader
  split
  · cases exit : slice.refused with
    | none => simp
    | some ret =>
      intro same
      rw [getD_some] at same
      exact slice.exits.2.1 (exit.trans (congrArg some same))
  · exact slice.exits.2.2

theorem scan_reports_nothing (slice : SliceSyntax) :
    (decodePictureScanType hCtx slice).1 ≠ .resolutionChange := by
  unfold decodePictureScanType
  split
  · cases exit : slice.refused with
    | none => simp
    | some ret =>
      intro same
      rw [getD_some] at same
      exact slice.exits.2.1 (exit.trans (congrArg some same))
  · simp

theorem decode_slice_reports_nothing (slice : SliceSyntax) :
    (decodeSlice hCtx slice).ret ≠ .resolutionChange := by
  have header := @header_reports_nothing hCtx slice
  unfold decodeSlice
  generalize decodeSliceHeader hCtx slice = read at header ⊢
  dsimp only
  split
  · simp
  · exact header

theorem process_slice_reports_nothing (slice : SliceSyntax) (buffers : Buffers) :
    (processSlice hCtx slice buffers).ret ≠ .resolutionChange := by
  unfold processSlice
  split
  · exact scan_reports_nothing slice
  · dsimp only
    split
    · unfold haveBuffers mallocFrmBuffer
      split <;> dsimp only
      · simp
      · split <;> simp
    · exact decode_slice_reports_nothing slice

theorem decode_slice_decoded {slice : SliceSyntax}
    (decoded : (decodeSlice hCtx slice).registers.isSome) :
    ∃ sps, namedSps hCtx slice = some sps ∧ (decodeSlice hCtx slice).hCtx.curSps = some sps ∧
      (decodeSlice hCtx slice).hCtx.geometry = hCtx.geometry := by
  have keeps := @header_keeps hCtx slice
  have names := @header_ok_names hCtx slice
  unfold decodeSlice at decoded ⊢
  generalize decodeSliceHeader hCtx slice = read at keeps names decoded ⊢
  obtain ⟨ret, after⟩ := read
  dsimp only at keeps names decoded ⊢
  split at decoded
  · rename_i pps sps current active
    obtain ⟨named, found, points⟩ := names rfl
    obtain ⟨same, geometry, unmoved⟩ := @configure_keeps after pps sps
    have activeSps : hCtx.pSpsBuffers named.nSpsId = some sps := by
      rw [Context.curSps, points, keeps.1.sps] at active
      exact active
    refine ⟨sps, ?_, ?_, geometry.trans keeps.2⟩
    · rw [namedSps, found]
      exact activeSps
    · rw [Context.curSps] at active ⊢
      rw [unmoved, same.sps]
      exact active
  · cases decoded

end Slices

section Reports

variable {hCtx : Context} {read : SpsSyntax}

theorem refusal_is_no_report : read.refused ≠ some .resolutionChange := by
  unfold SpsSyntax.refused
  split_ifs <;> simp

theorem sps_reported_iff : (decodeSps hCtx read).1 = .resolutionChange ↔
    read.refused = none ∧ resolutionChanged hCtx read = true ∧ hCtx.bIsAvc = false := by
  have noReport := @refusal_is_no_report read
  have marked : resolutionChanged (markMatrices hCtx read) read = resolutionChanged hCtx read := rfl
  have avc : (markMatrices hCtx read).bIsAvc = hCtx.bIsAvc := rfl
  unfold decodeSps
  cases refused : read.refused with
  | some ret =>
    rw [refused] at noReport
    simpa using noReport
  | none =>
    dsimp only
    rw [marked, avc]
    cases resolutionChanged hCtx read <;> cases hCtx.bIsAvc <;> simp

theorem sps_nalu_reported_iff (buffers : Buffers) :
    (processAdmitted hCtx (.sps read buffers)).ret = .resolutionChange ↔
      (decodeSps hCtx read).1 = .resolutionChange := by
  dsimp only [processAdmitted]
  generalize decodeSps hCtx read = decoded
  split
  · rfl
  · rename_i ok
    have accepted : decoded.1 = .ok := Classical.not_not.mp ok
    rw [accepted]
    split
    · unfold mallocFrmBuffer
      dsimp only
      split <;> simp
    · simp

/-- The size test compares map units, where the sizes can be compared at all. -/
theorem resolution_changed_iff
    (comparable : read.geometry.mapUnits ≠ hCtx.geometry.mapUnits →
      5 < read.geometry.nMbWidth ∧ 4 < read.geometry.nMbHeight ∧ hCtx.geometry.nMbWidth ≠ 0 ∧
        hCtx.geometry.nMbHeight ≠ 0) :
    resolutionChanged hCtx read = true ↔ read.geometry.mapUnits ≠ hCtx.geometry.mapUnits := by
  have units : read.geometry.mapUnits = hCtx.geometry.mapUnits ↔
      read.pic_width_in_mbs_minus1 + 1 = hCtx.geometry.nMbWidth ∧
        read.pic_height_in_map_units_minus1 + 1 = hCtx.geometry.nMbHeight := Prod.mk_inj
  by_cases same : read.geometry.mapUnits = hCtx.geometry.mapUnits
  · obtain ⟨width, height⟩ := units.mp same
    simp [resolutionChanged, same, width, height]
  · have large : 5 < read.pic_width_in_mbs_minus1 + 1 ∧
        4 < read.pic_height_in_map_units_minus1 + 1 ∧ hCtx.geometry.nMbWidth ≠ 0 ∧
          hCtx.geometry.nMbHeight ≠ 0 := comparable same
    have differs := mt units.mpr same
    rw [not_and_or] at differs
    simp [resolutionChanged, same, large, differs]

end Reports

section GuardedSteps

variable {hCtx : Context} {nalu : Nalu} {nDecStreamIndex : Nat}

structure CopyKept (hCtx : Context) : Prop extends SetsStored hCtx where
  copied : ∀ last, hCtx.pSpsBuffers hCtx.nNewSpsId = some last → hCtx.geometry = last.geometry

theorem end_search_eq (nDecStreamIndex : Nat) (hCtx : Context) : ∃ sps pps,
    endSearch nDecStreamIndex hCtx = { hCtx with bNeedFindSPS := sps, bNeedFindPPS := pps } := by
  unfold endSearch
  split
  · exact ⟨false, false, rfl⟩
  · exact ⟨hCtx.bNeedFindSPS, hCtx.bNeedFindPPS, rfl⟩

theorem searched_copied (kept : CopyKept hCtx) (sps pps : Bool) :
    CopyKept { hCtx with bNeedFindSPS := sps, bNeedFindPPS := pps } :=
  ⟨⟨kept.ppsStored, kept.curStored, kept.lastStored⟩, kept.copied⟩

theorem CopyKept.of_same {next : Context} (kept : CopyKept hCtx) (stored : SetsStored next)
    (same : SameSets hCtx next) (geometry : next.geometry = hCtx.geometry) : CopyKept next where
  toSetsStored := stored
  copied last found := by
    rw [same.sps, same.last] at found
    rw [geometry]
    exact kept.copied last found

theorem decode_slice_copied (kept : CopyKept hCtx) (slice : SliceSyntax) :
    CopyKept (decodeSlice hCtx slice).hCtx := by
  have stored := decode_slice_stored kept.toSetsStored slice
  have header := @header_keeps hCtx slice
  unfold decodeSlice at stored ⊢
  generalize decodeSliceHeader hCtx slice = read at stored header ⊢
  obtain ⟨same, geometry⟩ := header
  dsimp only at stored ⊢
  split at stored
  · rename_i pps sps active current
    obtain ⟨later, unscaled, _⟩ := @configure_keeps read.2 _ _
    apply kept.of_same stored
    · exact ⟨later.sps.trans same.sps, later.pps.trans same.pps, later.last.trans same.last⟩
    · exact unscaled.trans geometry
  · exact kept.of_same stored same geometry

variable {buffers : Buffers} {slice : SliceSyntax} {read : SpsSyntax} (kept : CopyKept hCtx)

include kept

theorem have_buffers_copied
    (offset : hCtx.bValidFrmBuf = false → OffsetKept hCtx.scale hCtx.geometry buffers) :
    CopyKept (haveBuffers hCtx buffers).2 :=
  kept.of_same (have_buffers_stored kept.toSetsStored buffers) (have_buffers_sets buffers)
    (have_buffers_geometry buffers offset)

theorem process_slice_copied (agrees : SliceAgrees hCtx slice buffers) :
    CopyKept (processSlice hCtx slice buffers).hCtx := by
  unfold processSlice
  split
  · obtain ⟨same, geometry⟩ := @scan_keeps hCtx slice
    exact kept.of_same (scan_stored kept.toSetsStored slice) same geometry
  · rename_i scans
    have buffered : CopyKept (haveBuffers hCtx buffers).2 :=
      have_buffers_copied kept fun none => agrees.1 none (Bool.eq_false_of_not_eq_true scans)
    dsimp only
    split
    · exact buffered
    · exact decode_slice_copied buffered slice

theorem store_sps_copied (read : SpsSyntax) : CopyKept (storeSps hCtx read) where
  toSetsStored := store_sps_stored kept.toSetsStored read
  copied last found := by
    change update hCtx.pSpsBuffers read.seq_parameter_set_id _
      read.seq_parameter_set_id = some last at found
    rw [update_self] at found
    obtain rfl := Option.some.inj found
    rfl

theorem decode_sps_copied (read : SpsSyntax) : CopyKept (decodeSps hCtx read).2 := by
  have marked : CopyKept (markMatrices hCtx read) :=
    ⟨⟨kept.ppsStored, kept.curStored, kept.lastStored⟩, kept.copied⟩
  rcases decode_sps_cases hCtx read with ⟨_, turnedAway⟩ | ⟨_, _, accepted⟩
  · rw [turnedAway]
    exact marked
  · rw [accepted]
    exact store_sps_copied marked read

theorem decode_pps_copied (read : PpsSyntax) : CopyKept (decodePps hCtx read).2 where
  toSetsStored := decode_pps_stored kept.toSetsStored read
  copied := by
    unfold decodePps
    split <;> exact kept.copied

theorem sps_nalu_copied (offset : hCtx.bCalledByOmxFlag = true → hCtx.bValidFrmBuf = false →
      OffsetKept hCtx.scale read.geometry buffers) :
    CopyKept (processAdmitted hCtx (.sps read buffers)).hCtx := by
  have decoded := decode_sps_copied kept read
  dsimp only [processAdmitted]
  rcases decode_sps_cases hCtx read with ⟨refused, _⟩ | ⟨_, _, accepted⟩
  · rw [if_pos refused]
    exact decoded
  · rw [accepted] at decoded ⊢
    rw [if_neg (by simp)]
    split
    · rename_i early
      have early : hCtx.bCalledByOmxFlag = true ∧ hCtx.bValidFrmBuf = false := by
        simpa [storeSps, markMatrices] using early
      refine ⟨⟨decoded.ppsStored, decoded.curStored, decoded.lastStored⟩, ?_⟩
      intro last found
      rw [← decoded.copied last found]
      unfold mallocFrmBuffer
      dsimp only
      split
      · exact offset early.1 early.2 ‹_›
      · rfl
    · exact ⟨⟨decoded.ppsStored, decoded.curStored, decoded.lastStored⟩, decoded.copied⟩

theorem process_copied (agrees : NaluAgrees nDecStreamIndex hCtx nalu) :
    CopyKept (processNaluUnit nDecStreamIndex hCtx nalu).hCtx := by
  unfold processNaluUnit
  split
  · rename_i admitted
    have agrees := agrees admitted
    obtain ⟨sps, pps, ended⟩ := end_search_eq nDecStreamIndex hCtx
    have found := fun sps => searched_copied kept sps pps
    rw [ended]
    cases nalu with
    | sps read buffers => exact sps_nalu_copied (found sps) agrees.2
    | spsExt read => exact decode_sps_copied (found false) read
    | pps read =>
      have decoded := decode_pps_copied (found sps) read
      dsimp only [processAdmitted]
      split
      · exact decoded
      · exact ⟨⟨decoded.ppsStored, decoded.curStored, decoded.lastStored⟩, decoded.copied⟩
    | slice slice buffers | headerExt slice buffers => exact process_slice_copied (found sps) agrees
  · exact kept

theorem slice_copy_agrees (agrees : SliceAgrees hCtx slice buffers)
    (decoded : (processSlice hCtx slice buffers).registers.isSome) :
    ∃ sps, (processSlice hCtx slice buffers).hCtx.curSps = some sps ∧
      (processSlice hCtx slice buffers).hCtx.geometry = sps.geometry := by
  unfold processSlice at decoded ⊢
  split at decoded
  · cases decoded
  · rename_i scans
    rw [if_neg scans]
    dsimp only at decoded ⊢
    split at decoded
    · cases decoded
    · rename_i ok
      rw [if_neg ok]
      have offset := fun none => agrees.1 none (Bool.eq_false_of_not_eq_true scans)
      have buffered := have_buffers_copied kept offset
      have sets := @have_buffers_sets hCtx buffers
      obtain ⟨sps, named, current, geometry⟩ := decode_slice_decoded decoded
      have reaches : reachesHeader hCtx buffers = true := by
        unfold reachesHeader
        cases valid : hCtx.bValidFrmBuf with
        | true => simp
        | false =>
          have granted : (haveBuffers hCtx buffers).1 = .ok := Classical.not_not.mp ok
          have granted : buffers.ok = true := by
            simpa [haveBuffers, valid, mallocFrmBuffer] using granted
          simp [granted]
      have namedHere : namedSps hCtx slice = some sps := by
        rw [← named]
        unfold namedSps namedPps
        rw [sets.pps, sets.sps]
      have storedHere : (hCtx.pSpsBuffers hCtx.nNewSpsId).isSome := by
        obtain ⟨pps, _, stored⟩ := bind_eq_some_iff.mp namedHere
        exact kept.lastStored _ (isSome_of_eq_some stored)
      obtain ⟨last, found⟩ := isSome_iff_exists.mp storedHere
      refine ⟨sps, current, ?_⟩
      rw [geometry, have_buffers_geometry buffers offset, kept.copied last found]
      exact ((agrees.2 reaches sps namedHere).1 last found).symm

theorem copied_of_agrees (agrees : NaluAgrees nDecStreamIndex hCtx nalu)
    (decoded : (processNaluUnit nDecStreamIndex hCtx nalu).registers.isSome) :
    ∃ sps, (processNaluUnit nDecStreamIndex hCtx nalu).hCtx.curSps = some sps ∧
      (processNaluUnit nDecStreamIndex hCtx nalu).hCtx.geometry = sps.geometry := by
  unfold processNaluUnit at decoded ⊢
  split at decoded
  · rename_i admitted
    have agrees := agrees admitted
    rw [if_pos admitted]
    obtain ⟨sps, pps, ended⟩ := end_search_eq nDecStreamIndex hCtx
    have found := fun sps => searched_copied kept sps pps
    rw [ended] at decoded ⊢
    cases nalu with
    | sps read buffers =>
      exfalso
      dsimp only [processAdmitted] at decoded
      split at decoded
      · cases decoded
      · split at decoded <;> cases decoded
    | spsExt read => cases decoded
    | pps read =>
      exfalso
      dsimp only [processAdmitted] at decoded
      split at decoded <;> cases decoded
    | slice slice buffers | headerExt slice buffers =>
      exact slice_copy_agrees (found sps) agrees decoded
  · cases decoded

/-- The active SPS sent again is reported just when its size is another. -/
theorem sps_report_agrees (agrees : SpsAgrees hCtx read) :
    (decodeSps hCtx read).1 = .resolutionChange ↔
      ∃ new ∈ (if read.refused = none ∧ hCtx.pCurSps = some read.seq_parameter_set_id then
          some read.geometry else none),
        ∃ old ∈ hCtx.curSps, new.frameSize ≠ old.geometry.frameSize := by
  rw [sps_reported_iff]
  by_cases accepted : read.refused = none
  · obtain ⟨again, beside⟩ := agrees accepted
    by_cases active : hCtx.pCurSps = some read.seq_parameter_set_id
    · rw [if_pos ⟨accepted, active⟩]
      obtain ⟨old, found⟩ := isSome_iff_exists.mp (kept.curStored _ active)
      have current : hCtx.curSps = some old := by
        rw [Context.curSps, active]
        exact found
      obtain ⟨compared, sizes, comparable⟩ := again active old current
      have changed := @resolution_changed_iff hCtx read fun differs => by
        rw [compared] at differs
        obtain ⟨width, height, some_width, some_height, _⟩ := comparable differs
        exact ⟨width, height, some_width, some_height⟩
      rw [changed, compared]
      constructor
      · rintro ⟨_, differs, _⟩
        exact ⟨_, rfl, old, current, mt sizes.mpr differs⟩
      · rintro ⟨new, same, other, isActive, differs⟩
        obtain rfl := Option.some.inj same
        obtain rfl := Option.some.inj (current.symm.trans isActive)
        have units := mt sizes.mp differs
        exact ⟨accepted, units, (comparable units).2.2.2.2⟩
    · rw [if_neg fun both => active both.2, beside active]
      simp
  · rw [if_neg fun both => accepted both.1]
    simp [accepted]

theorem reported_of_agrees (agrees : NaluAgrees nDecStreamIndex hCtx nalu) :
    (processNaluUnit nDecStreamIndex hCtx nalu).ret = .resolutionChange ↔
      ∃ new ∈ activated nDecStreamIndex hCtx nalu, ∃ old ∈ hCtx.curSps,
        new.frameSize ≠ old.geometry.frameSize := by
  -- A slice is never reported, and the SPS it activates is of the active size.
  have sliceSilent : ∀ slice buffers, SliceAgrees hCtx slice buffers →
      ¬ ∃ new ∈ (if reachesHeader hCtx buffers then (namedSps hCtx slice).map SpsInfo.geometry
          else none), ∃ old ∈ hCtx.curSps, new.frameSize ≠ old.geometry.frameSize := by
    rintro slice buffers alike ⟨new, activates, old, current, differs⟩
    split at activates
    · rename_i reaches
      obtain ⟨sps, named, rfl⟩ := map_eq_some_iff.mp activates
      exact differs ((alike.2 reaches sps named).2 old current)
    · cases activates
  unfold processNaluUnit activated
  split
  · rename_i admitted
    have agrees := agrees admitted
    obtain ⟨sps, pps, ended⟩ := end_search_eq nDecStreamIndex hCtx
    have found := fun sps => searched_copied kept sps pps
    rw [ended]
    cases nalu with
    | sps read buffers =>
      rw [sps_nalu_reported_iff]
      exact sps_report_agrees (found sps) agrees.1
    | spsExt read => exact sps_report_agrees (found false) agrees
    | pps read =>
      have silent : (processAdmitted
          { hCtx with bNeedFindSPS := sps, bNeedFindPPS := pps } (.pps read)).ret ≠
            .resolutionChange := by
        dsimp only [processAdmitted]
        unfold decodePps
        split <;> simp
      simp [silent]
    | slice slice buffers | headerExt slice buffers =>
      exact iff_of_false (process_slice_reports_nothing slice buffers)
        (sliceSilent slice buffers agrees)
  · simp

end GuardedSteps

theorem started_copied {start : Context} (started : Started start) : CopyKept start where
  toSetsStored := started_stored started
  copied := by
    cases started with
    | plain | prealloc => exact fun _ kept => nomatch kept

/-- Where every SPS read and every slice agree with what is active, the copy in the context is
the active SPS in every slice, and the changes of size reported are those of the active SPS. -/
theorem active_sps_kept_in_guarded_runs (nDecStreamIndex : Nat) {start : Context}
    {nalus : List Nalu} (started : Started start)
    (agrees : StepsMeet (NaluAgrees nDecStreamIndex) (naluExec nDecStreamIndex) start nalus) :
    StepsMeet (ActiveSpsKept nDecStreamIndex) (naluExec nDecStreamIndex) start nalus := by
  apply steps_meet_of_invariant _ _ (started_copied started) agrees
  · rintro hCtx nalu next kept agrees ⟨⟩
    exact process_copied kept agrees
  · intro hCtx nalu kept agrees
    exact ⟨copied_of_agrees kept agrees, reported_of_agrees kept agrees⟩

def plainSps (id : Nat) (width height refs : UInt32) : SpsSyntax where
  profile_idc := 77
  constraint_set_flags := 0
  seq_parameter_set_id := id
  chroma_format_idc := 1
  scaling_matrix := none
  pic_order_cnt_type := 0
  num_ref_frames_in_pic_order_cnt_cycle := 0
  num_ref_frames := refs
  pic_width_in_mbs_minus1 := width - 1
  pic_height_in_map_units_minus1 := height - 1
  frame_mbs_only_flag := true
  mb_adaptive_frame_field_flag := false
  frame_cropping := none

def plainPps (id sps : Nat) : PpsSyntax where
  pic_parameter_set_id := id
  seq_parameter_set_id := sps
  num_slice_groups_minus1 := 0
  num_ref_idx_l0_active_minus1 := 0
  num_ref_idx_l1_active_minus1 := 0
  extension := none

def granted : Buffers := ⟨true, true, true⟩

def plainSlice (pps : Nat) : Nalu := .slice ⟨pps, none, false, .ok, by decide⟩ granted

def plainStart : Context := initDecode false false ⟨0, 0, 0, 0, 0, 0, 0⟩

/-- Two sets alike in all but their number of references, each used when it was read last, and
the active one sent again for larger pictures. -/
def plainNalus : List Nalu :=
  [.sps (plainSps 0 120 68 4) granted, .pps (plainPps 0 0), plainSlice 0, plainSlice 0,
    .sps (plainSps 1 120 68 2) granted, .pps (plainPps 1 1), plainSlice 1,
    .sps (plainSps 1 240 135 2) granted]

theorem plain_nalus_kept : StepsMeet (ActiveSpsKept 0) (naluExec 0) plainStart plainNalus ∧
      (runOps (naluExec 0) plainStart (plainNalus.take 7)).map
        (fun hCtx => (processNaluUnit 0 hCtx (.sps (plainSps 1 240 135 2) granted)).ret) =
          some .resolutionChange :=
  ⟨active_sps_kept_in_guarded_runs 0 (.plain _ _ _) (by decide), by decide⟩

/-- The copy is that of an SPS no slice uses; and a size no slice uses is reported. -/
theorem sets_beside_the_active_one_break_it : (¬ StepsMeet (ActiveSpsKept 0) (naluExec 0) plainStart
        [.sps (plainSps 0 120 68 4) granted, .pps (plainPps 0 0), plainSlice 0,
          .sps (plainSps 1 120 68 1) granted, plainSlice 0]) ∧
      ¬ StepsMeet (ActiveSpsKept 0) (naluExec 0) plainStart
        [.sps (plainSps 0 120 68 4) granted, .pps (plainPps 0 0), plainSlice 0,
          .sps (plainSps 1 45 36 4) granted] := by
  constructor
  · intro kept
    have slice := ((((kept.2 _ rfl).2 _ rfl).2 _ rfl).2 _ rfl).1
    obtain ⟨sps, current, copied⟩ := slice.copied (by decide)
    have same := (congrArg (Option.map SpsInfo.geometry) current).trans
      (congrArg some copied.symm)
    exact absurd same (by decide)
  · intro kept
    have second := (((kept.2 _ rfl).2 _ rfl).2 _ rfl).1
    obtain ⟨new, active, _⟩ := second.reported.mp (by decide)
    have nothing : none = some new := (by decide : none = _).trans active
    cases nothing

end CedarC.H264
