import CedarC.H264QuantMatrices
import Mathlib.Data.Fintype.Pi

/-!
# The quantisation matrices over runs

The words in the context are converted when a flag says that they may be old. Guarded runs
keep them converted from the current PPS and SPS, and the PPS kept as they would be read
again, so that every slice has the matrices of the clauses.
-/

namespace CedarC.H264

open GuardedRuns

/-- An SPS stored in the place of another leaves every PPS that names it as it was read. -/
def SpsAlike (hCtx : Context) (read : SpsSyntax) : Prop :=
  read.refused = none → resolutionChanged hCtx read = false →
    ∀ id ∈ List.range MAX_PPS_COUNT, ∀ pps ∈ hCtx.pPpsBuffers id,
      pps.nSpsId = read.seq_parameter_set_id → Resolves pps read.info

/-- A PPS without the extension, stored in the place of the current one, needs no matrices,
or the words are converted anyway, or are already those of the SPS. -/
def PpsAlike (hCtx : Context) (read : PpsSyntax) : Prop :=
  ∀ pSps ∈ acceptsPps hCtx read, hCtx.pCurPps = some read.pic_parameter_set_id →
    hCtx.pCurSps = some read.seq_parameter_set_id → (read.extensionRead pSps).isNone = true →
      pSps.bScalingMatrixPresent = true → hCtx.bScalingMatrixPresent = true ∨
        ∃ old ∈ hCtx.curPps, old.nSpsId = read.seq_parameter_set_id ∧
          old.bScalingMatrixPresent = false
deriving Decidable

def SliceFits (hCtx : Context) (slice : SliceSyntax) : Prop :=
  ∀ pps ∈ namedPps hCtx slice, ∀ sps ∈ hCtx.pSpsBuffers pps.nSpsId,
    writesMatrices sps.nProfileIdc = true ∨
      sps.read.carries.isNone = true ∧ pps.read.carries.isNone = true
deriving Decidable

def NaluFits (nDecStreamIndex : Nat) (hCtx : Context) (nalu : Nalu) : Prop :=
  admits nDecStreamIndex hCtx nalu = true →
    match nalu with
    | .sps read _ | .spsExt read => SpsAlike hCtx read
    | .pps read => PpsAlike hCtx read
    | .slice slice _ | .headerExt slice _ => SliceFits hCtx slice

instance (pps : PpsInfo) (sps : SpsInfo) : Decidable (Resolves pps sps) :=
  decidable_of_iff
    ((pps.read.info sps).bScalingMatrixPresent = pps.bScalingMatrixPresent ∧
      (pps.bScalingMatrixPresent = true →
        (pps.read.info sps).matrices.nScalingMatrix4 = pps.matrices.nScalingMatrix4) ∧
      (pps.bScalingMatrixPresent = true → pps.read.transform8x8 = true →
        (pps.read.info sps).matrices.nScalingMatrix8 = pps.matrices.nScalingMatrix8))
    ⟨fun ⟨present, four, eight⟩ => ⟨present, four, eight⟩,
      fun resolves => ⟨resolves.present, resolves.matrices4, resolves.matrices8⟩⟩

instance (hCtx : Context) (read : SpsSyntax) : Decidable (SpsAlike hCtx read) :=
  inferInstanceAs (Decidable (_ → _ → _))

instance (nDecStreamIndex : Nat) (hCtx : Context) (nalu : Nalu) :
    Decidable (NaluFits nDecStreamIndex hCtx nalu) :=
  match nalu with
  | .sps read _ | .spsExt read => inferInstanceAs (Decidable (_ → SpsAlike hCtx read))
  | .pps read => inferInstanceAs (Decidable (_ → PpsAlike hCtx read))
  | .slice slice _ | .headerExt slice _ => inferInstanceAs (Decidable (_ → SliceFits hCtx slice))

section Tables

variable {hCtx : Context}

structure TablesKept (hCtx : Context) : Prop extends SetsStored hCtx where
  spsRead : ∀ id sps, hCtx.pSpsBuffers id = some sps → sps = sps.read.info
  ppsId : ∀ id pps, hCtx.pPpsBuffers id = some pps → id < MAX_PPS_COUNT
  resolved : ∀ id pps sps, hCtx.pPpsBuffers id = some pps →
    hCtx.pSpsBuffers pps.nSpsId = some sps → Resolves pps sps

theorem TablesKept.of_same {next : Context} (kept : TablesKept hCtx) (stored : SetsStored next)
    (same : SameSets hCtx next) : TablesKept next where
  toSetsStored := stored
  spsRead := by
    rw [same.sps]
    exact kept.spsRead
  ppsId := by
    rw [same.pps]
    exact kept.ppsId
  resolved := by
    rw [same.sps, same.pps]
    exact kept.resolved

variable {read : SpsSyntax} {pSps : SpsInfo}

theorem store_sps_tables (kept : TablesKept hCtx)
    (alike : ∀ id ∈ List.range MAX_PPS_COUNT, ∀ pps ∈ hCtx.pPpsBuffers id,
      pps.nSpsId = read.seq_parameter_set_id → Resolves pps read.info) :
    TablesKept (storeSps hCtx read) where
  toSetsStored := store_sps_stored kept.toSetsStored read
  spsRead id sps found := by
    change Function.update hCtx.pSpsBuffers read.seq_parameter_set_id _ id = some sps at found
    by_cases here : id = read.seq_parameter_set_id
    · rw [here, Function.update_self] at found
      obtain rfl := Option.some.inj found
      rfl
    · rw [Function.update_of_ne here] at found
      exact kept.spsRead id sps found
  ppsId := kept.ppsId
  resolved id pps sps found named := by
    change Function.update hCtx.pSpsBuffers read.seq_parameter_set_id _ pps.nSpsId = some sps
      at named
    by_cases here : pps.nSpsId = read.seq_parameter_set_id
    · rw [here, Function.update_self] at named
      obtain rfl := Option.some.inj named
      exact alike id (List.mem_range.mpr (kept.ppsId id pps found)) pps found here
    · rw [Function.update_of_ne here] at named
      exact kept.resolved id pps sps found named

theorem decode_sps_tables (kept : TablesKept hCtx)
    (alike : SpsAlike hCtx read) : TablesKept (decodeSps hCtx read).2 := by
  have marked : TablesKept (markMatrices hCtx read) :=
    kept.of_same ⟨kept.ppsStored, kept.curStored, kept.lastStored⟩ ⟨rfl, rfl, rfl⟩
  rcases decode_sps_cases hCtx read with ⟨_, turnedAway⟩ | ⟨unrefused, unchanged, accepted⟩
  · rw [turnedAway]
    exact marked
  · rw [accepted]
    exact store_sps_tables marked (alike unrefused unchanged)

theorem info_reads (read : PpsSyntax) (pSps : SpsInfo) : (read.info pSps).read = read := by
  unfold PpsSyntax.info
  split <;> rfl

theorem info_resolves (read : PpsSyntax) (pSps : SpsInfo) : Resolves (read.info pSps) pSps := by
  constructor
  · rw [info_reads]
  · intro _
    rw [info_reads]
  · intro _ _
    rw [info_reads]

theorem accepted_pps_id {read : PpsSyntax} (accepted : acceptsPps hCtx read = some pSps) :
    read.pic_parameter_set_id < MAX_PPS_COUNT := by
  unfold acceptsPps at accepted
  split at accepted
  · cases accepted
  · omega

theorem store_pps_tables (kept : TablesKept hCtx) {read : PpsSyntax}
    (accepted : acceptsPps hCtx read = some pSps) (stored : SetsStored (storePps hCtx read pSps)) :
    TablesKept (storePps hCtx read pSps) where
  toSetsStored := stored
  spsRead := kept.spsRead
  ppsId id pps found := by
    change Function.update hCtx.pPpsBuffers read.pic_parameter_set_id _ id = some pps at found
    by_cases here : id = read.pic_parameter_set_id
    · rw [here]
      exact accepted_pps_id accepted
    · rw [Function.update_of_ne here] at found
      exact kept.ppsId id pps found
  resolved id pps sps found named := by
    change Function.update hCtx.pPpsBuffers read.pic_parameter_set_id _ id = some pps at found
    by_cases here : id = read.pic_parameter_set_id
    · rw [here, Function.update_self] at found
      obtain rfl := Option.some.inj found
      change hCtx.pSpsBuffers (read.info pSps).nSpsId = some sps at named
      rw [info_names_read, accepted_pps_stored accepted] at named
      obtain rfl := Option.some.inj named
      exact info_resolves read pSps
    · rw [Function.update_of_ne here] at found
      exact kept.resolved id pps sps found named

theorem decode_pps_tables (kept : TablesKept hCtx) (read : PpsSyntax) :
    TablesKept (decodePps hCtx read).2 := by
  have stored := decode_pps_stored kept.toSetsStored read
  unfold decodePps at stored ⊢
  cases accepted : acceptsPps hCtx read with
  | none => exact kept
  | some pSps =>
    rw [accepted] at stored
    exact store_pps_tables kept accepted stored

theorem decode_slice_sets (slice : SliceSyntax) : SameSets hCtx (decodeSlice hCtx slice).hCtx := by
  obtain ⟨header, _⟩ := @header_keeps hCtx slice
  unfold decodeSlice
  generalize decodeSliceHeader hCtx slice = read at header ⊢
  dsimp only
  split
  · obtain ⟨later, _⟩ := @configure_keeps read.2 _ _
    exact ⟨later.sps.trans header.sps, later.pps.trans header.pps, later.last.trans header.last⟩
  · exact header

theorem process_slice_sets (slice : SliceSyntax) (buffers : Buffers) :
    SameSets hCtx (processSlice hCtx slice buffers).hCtx := by
  unfold processSlice
  split
  · exact (@scan_keeps hCtx slice).1
  · have buffered := @have_buffers_sets hCtx buffers
    dsimp only
    split
    · exact buffered
    · have decoded := @decode_slice_sets (haveBuffers hCtx buffers).2 slice
      exact ⟨decoded.sps.trans buffered.sps, decoded.pps.trans buffered.pps,
        decoded.last.trans buffered.last⟩

end Tables

section Conversion

variable {hCtx : Context}

/-- No set kept carries matrices. -/
structure NothingPresent (hCtx : Context) : Prop where
  sps : ∀ id sps, hCtx.pSpsBuffers id = some sps → sps.bScalingMatrixPresent = false
  pps : ∀ id pps, hCtx.pPpsBuffers id = some pps → pps.bScalingMatrixPresent = false

variable {pps : PpsInfo} {sps pSps : SpsInfo} {read : SpsSyntax} {next : Context}

theorem NothingPresent.none_in_use (nothing : NothingPresent hCtx) {id : Nat}
    (stored : hCtx.pPpsBuffers id = some pps)
    (named : hCtx.pSpsBuffers pps.nSpsId = some sps) : matricesInUse pps sps = none := by
  rw [matricesInUse, if_neg (by simp [nothing.pps id pps stored]),
    if_neg (by simp [nothing.sps _ sps named])]

/-- Before the first conversion the flag is set as soon as there is anything to convert;
afterwards the words are those of the current sets unless it is set. -/
structure ConversionKept (hCtx : Context) : Prop where
  early : scansFirst hCtx = true ∨ hCtx.pCurPps = none ∨ hCtx.pCurSps = none →
    hCtx.bScalingMatrixPresent = true ∨ NothingPresent hCtx
  fresh : hCtx.bScalingMatrixPresent = true ∨ ∀ pps sps matrices, hCtx.curPps = some pps →
    hCtx.pCurSps = some pps.nSpsId → hCtx.pSpsBuffers pps.nSpsId = some sps →
      matricesInUse pps sps = some matrices → hCtx.words = convertScalingMatrices matrices

theorem ConversionKept.of_nothing (nothing : NothingPresent hCtx) : ConversionKept hCtx where
  early _ := .inr nothing
  fresh := by
    right
    intro pps sps matrices current _ named inUse
    obtain ⟨id, _, stored⟩ := Option.bind_eq_some_iff.mp current
    rw [nothing.none_in_use stored named] at inUse
    cases inUse

theorem ConversionKept.of_flag (flag : next.bScalingMatrixPresent = true) : ConversionKept next :=
  ⟨fun _ => .inl flag, .inl flag⟩

theorem scans_iff : scansFirst hCtx = true ↔
    hCtx.bValidFrmBuf = false ∧ hCtx.bProgressice = none := by
  simp [scansFirst]

/-- What the conversion does not look at may change. -/
structure SameConversion (hCtx next : Context) : Prop where
  sets : SameSets hCtx next
  pps : next.pCurPps = hCtx.pCurPps
  sps : next.pCurSps = hCtx.pCurSps
  flag : next.bScalingMatrixPresent = hCtx.bScalingMatrixPresent
  words : next.words = hCtx.words
  scans : scansFirst next = true → scansFirst hCtx = true

theorem ConversionKept.of_same (kept : ConversionKept hCtx)
    (same : SameConversion hCtx next) : ConversionKept next where
  early premise := by
    rw [same.pps, same.sps] at premise
    rw [same.flag]
    rcases kept.early (premise.imp_left same.scans) with flag | nothing
    · exact .inl flag
    · right
      constructor
      · rw [same.sets.sps]
        exact nothing.sps
      · rw [same.sets.pps]
        exact nothing.pps
  fresh := by
    rw [same.flag, same.words, same.sps, same.sets.sps, Context.curPps, same.pps, same.sets.pps]
    exact kept.fresh

theorem accepted_present (accepted : read.refused = none) :
    read.reachesMatrices = decide (read.profile_idc ≥ 100) := by
  unfold SpsSyntax.refused at accepted
  unfold SpsSyntax.reachesMatrices
  split_ifs at accepted with tooLarge chroma
  have small : read.seq_parameter_set_id < MAX_SPS_COUNT := Nat.lt_of_not_le tooLarge
  by_cases high : read.profile_idc ≥ 100
  · have one : read.chroma_format_idc = 1 := by
      by_contra other
      exact chroma ⟨high, other⟩
    simp [small, high, one]
  · simp [high]

theorem low_profile_plain (low : ¬ read.profile_idc ≥ 100) :
    read.info.bScalingMatrixPresent = false := by
  change read.matrices.1 = false
  rw [SpsSyntax.matrices, if_neg low]

/-- An SPS without matrices changes no words in use and brings no matrices. -/
theorem store_plain_sps_conversion (kept : ConversionKept hCtx) (stored : SetsStored hCtx)
    (plain : read.info.bScalingMatrixPresent = false) :
    ConversionKept (storeSps hCtx read) where
  early premise := by
    have before : scansFirst hCtx = true ∨ hCtx.pCurPps = none ∨ hCtx.pCurSps = none := by
      rcases premise with scans | noSets
      · obtain ⟨noBuffers, unknown⟩ := scans_iff.mp scans
        left
        apply scans_iff.mpr
        refine ⟨noBuffers, ?_⟩
        by_contra known
        rw [storeSps, if_neg known] at unknown
        exact known unknown
      · exact .inr noSets
    rcases kept.early before with flag | nothing
    · exact .inl flag
    · right
      refine ⟨?_, nothing.pps⟩
      intro id sps found
      change Function.update hCtx.pSpsBuffers read.seq_parameter_set_id _ id = some sps at found
      by_cases here : id = read.seq_parameter_set_id
      · rw [here, Function.update_self] at found
        obtain rfl := Option.some.inj found
        exact plain
      · rw [Function.update_of_ne here] at found
        exact nothing.sps id sps found
  fresh := by
    rcases kept.fresh with flag | fresh
    · exact .inl flag
    · right
      intro pps sps matrices current points named inUse
      change Function.update hCtx.pSpsBuffers read.seq_parameter_set_id _ pps.nSpsId = some sps
        at named
      by_cases here : pps.nSpsId = read.seq_parameter_set_id
      · rw [here, Function.update_self] at named
        obtain rfl := Option.some.inj named
        -- Only matrices of the PPS itself are in use, whatever the SPS was before.
        unfold matricesInUse at inUse
        rw [if_neg (by simp [plain] : ¬ read.info.bScalingMatrixPresent = true)] at inUse
        split at inUse
        · rename_i own
          obtain ⟨before, found⟩ := Option.isSome_iff_exists.mp (stored.curStored _ points)
          apply fresh pps before matrices current points found
          rw [matricesInUse, if_pos own]
          exact inUse
        · cases inUse
      · rw [Function.update_of_ne here] at named
        exact fresh pps sps matrices current points named inUse

theorem decode_sps_conversion (kept : ConversionKept hCtx) (stored : SetsStored hCtx)
    (read : SpsSyntax) : ConversionKept (decodeSps hCtx read).2 := by
  have marked : ConversionKept (markMatrices hCtx read) := by
    by_cases reaches : hCtx.bScalingMatrixPresent || read.reachesMatrices
    · exact .of_flag reaches
    · rw [Bool.or_eq_true, not_or, Bool.not_eq_true] at reaches
      have flag : (markMatrices hCtx read).bScalingMatrixPresent = hCtx.bScalingMatrixPresent := by
        rw [markMatrices, Bool.eq_false_of_not_eq_true reaches.2, Bool.or_false]
      exact kept.of_same ⟨⟨rfl, rfl, rfl⟩, rfl, rfl, flag, rfl, id⟩
  rcases decode_sps_cases hCtx read with ⟨_, turnedAway⟩ | ⟨unrefused, _, accepted⟩
  · rw [turnedAway]
    exact marked
  · rw [accepted]
    by_cases high : read.profile_idc ≥ 100
    · apply ConversionKept.of_flag
      change (hCtx.bScalingMatrixPresent || read.reachesMatrices) = true
      rw [accepted_present unrefused, decide_eq_true high, Bool.or_true]
    · exact store_plain_sps_conversion marked
        ⟨stored.ppsStored, stored.curStored, stored.lastStored⟩ (low_profile_plain high)

theorem plain_pps_info {read : PpsSyntax} (plain : (read.extensionRead pSps).isSome = false) :
    (read.info pSps).bScalingMatrixPresent = false := by
  rw [Option.isSome_eq_false_iff, Option.isNone_iff_eq_none] at plain
  rw [PpsSyntax.info, plain]

theorem store_plain_pps_conversion (kept : ConversionKept hCtx) {read : PpsSyntax}
    (alike : PpsAlike hCtx read) (accepted : acceptsPps hCtx read = some pSps)
    (unflagged : hCtx.bScalingMatrixPresent = false)
    (plain : (read.extensionRead pSps).isSome = false) :
    ConversionKept (storePps hCtx read pSps) where
  early premise := by
    rcases kept.early premise with flag | nothing
    · exact absurd (unflagged.symm.trans flag) Bool.false_ne_true
    · right
      refine ⟨nothing.sps, ?_⟩
      intro id pps found
      change Function.update hCtx.pPpsBuffers read.pic_parameter_set_id _ id = some pps at found
      by_cases here : id = read.pic_parameter_set_id
      · rw [here, Function.update_self] at found
        obtain rfl := Option.some.inj found
        exact plain_pps_info plain
      · rw [Function.update_of_ne here] at found
        exact nothing.pps id pps found
  fresh := by
    right
    rcases kept.fresh with flag | fresh
    · exact absurd (unflagged.symm.trans flag) Bool.false_ne_true
    intro pps sps matrices current points named inUse
    obtain ⟨id, chosen, stored⟩ := Option.bind_eq_some_iff.mp current
    change Function.update hCtx.pPpsBuffers read.pic_parameter_set_id _ id = some pps at stored
    by_cases here : id = read.pic_parameter_set_id
    · rw [here, Function.update_self] at stored
      obtain rfl := Option.some.inj stored
      change hCtx.pCurSps = some (read.info pSps).nSpsId at points
      change hCtx.pSpsBuffers (read.info pSps).nSpsId = some sps at named
      rw [info_names_read] at points named
      obtain rfl := Option.some.inj ((accepted_pps_stored accepted).symm.trans named)
      -- The words are those of the SPS, since the PPS replaced had none of its own either.
      rw [matricesInUse, if_neg (by simp [plain_pps_info plain])] at inUse
      split at inUse
      · rename_i seq
        have none : (read.extensionRead pSps).isNone = true := by
          rw [← Option.not_isSome, plain]
          rfl
        have own : hCtx.pCurPps = some read.pic_parameter_set_id := here ▸ chosen
        rcases alike pSps accepted own points none seq with flag | ⟨old, was, same, bare⟩
        · exact absurd (unflagged.symm.trans flag) Bool.false_ne_true
        · rw [← same] at points named
          apply fresh old pSps matrices was points named
          rw [matricesInUse, if_neg (by simp [bare]), if_pos seq]
          exact inUse
      · cases inUse
    · rw [Function.update_of_ne here] at stored
      have was : hCtx.curPps = some pps := Option.bind_eq_some_iff.mpr ⟨id, chosen, stored⟩
      exact fresh pps sps matrices was points named inUse

theorem decode_pps_conversion (kept : ConversionKept hCtx) {read : PpsSyntax}
    (alike : PpsAlike hCtx read) : ConversionKept (decodePps hCtx read).2 := by
  unfold decodePps
  split
  · exact kept
  · rename_i pSps accepted
    by_cases flag : (hCtx.bScalingMatrixPresent || (read.extensionRead pSps).isSome) = true
    · exact .of_flag flag
    · rw [Bool.or_eq_true, not_or, Bool.not_eq_true, Bool.not_eq_true] at flag
      exact store_plain_pps_conversion kept alike accepted flag.1 flag.2

theorem have_buffers_conversion (kept : ConversionKept hCtx) (buffers : Buffers) :
    ConversionKept (haveBuffers hCtx buffers).2 := by
  unfold haveBuffers
  split
  · exact kept
  · apply kept.of_same
    refine ⟨⟨rfl, rfl, rfl⟩, rfl, rfl, rfl, rfl, ?_⟩
    intro scans
    obtain ⟨noBuffers, unknown⟩ := scans_iff.mp scans
    exact scans_iff.mpr ⟨(Bool.or_eq_false_iff.mp noBuffers).1, unknown⟩

theorem have_buffers_scans (buffers : Buffers) (scans : scansFirst hCtx = false) :
    scansFirst (haveBuffers hCtx buffers).2 = false := by
  apply Bool.eq_false_of_not_eq_true
  intro later
  obtain ⟨noBuffers, unknown⟩ := scans_iff.mp later
  have before : scansFirst hCtx = true := by
    apply scans_iff.mpr
    unfold haveBuffers at noBuffers unknown
    split at noBuffers
    · rename_i valid
      exact absurd (valid.symm.trans noBuffers) (by simp)
    · rename_i noneYet
      rw [if_neg noneYet] at unknown
      exact ⟨(Bool.or_eq_false_iff.mp noBuffers).1, unknown⟩
  exact absurd (scans.symm.trans before) Bool.false_ne_true

theorem scan_conversion (kept : ConversionKept hCtx) (scans : scansFirst hCtx = true)
    (slice : SliceSyntax) : ConversionKept (decodePictureScanType hCtx slice).2 := by
  unfold decodePictureScanType
  split
  · exact kept
  · rename_i pps named
    rcases kept.early (.inl scans) with flag | nothing
    · exact .of_flag flag
    · exact .of_nothing ⟨nothing.sps, nothing.pps⟩

theorem header_names {slice : SliceSyntax} {pps : PpsInfo}
    (named : namedPps hCtx slice = some pps) :
    (decodeSliceHeader hCtx slice).2.pCurPps = some slice.nPpsId ∧
      (decodeSliceHeader hCtx slice).2.curPps = some pps ∧
      (decodeSliceHeader hCtx slice).2.pCurSps = some pps.nSpsId := by
  unfold decodeSliceHeader
  rw [named]
  exact ⟨rfl, named_pps_kept named, rfl⟩

variable (kept : ConversionKept hCtx)

include kept

theorem header_conversion (slice : SliceSyntax) :
    ConversionKept (decodeSliceHeader hCtx slice).2 := by
  unfold decodeSliceHeader
  split
  · exact kept
  · rename_i pps named
    dsimp only
    generalize switched : (hCtx.pCurPps.isSome && hCtx.pCurSps.isSome &&
      (hCtx.pCurPps != (activate hCtx slice.nPpsId pps).pCurPps ||
        hCtx.pCurSps != (activate hCtx slice.nPpsId pps).pCurSps)) = changed
    by_cases flag : (hCtx.bScalingMatrixPresent || changed) = true
    · exact .of_flag flag
    · rw [Bool.or_eq_true, not_or, Bool.not_eq_true, Bool.not_eq_true] at flag
      obtain ⟨unflagged, unchanged⟩ := flag
      rw [unchanged] at switched ⊢
      by_cases unset : hCtx.pCurPps = none ∨ hCtx.pCurSps = none
      · rcases kept.early (.inr unset) with flag | nothing
        · exact absurd (unflagged.symm.trans flag) Bool.false_ne_true
        · exact .of_nothing ⟨nothing.sps, nothing.pps⟩
      · -- The sets are the current ones already.
        have same : hCtx.pCurPps = some slice.nPpsId ∧ hCtx.pCurSps = some pps.nSpsId := by
          rw [not_or, ← ne_eq, ← ne_eq, Option.ne_none_iff_isSome, Option.ne_none_iff_isSome]
            at unset
          simpa [unset.1, unset.2, activate] using switched
        apply kept.of_same
        exact ⟨⟨rfl, rfl, rfl⟩, same.1.symm, same.2.symm, Bool.or_false _, rfl, id⟩

theorem quant_register_words {matrices : ScalingMatrices} (current : hCtx.curPps = some pps)
    (points : hCtx.pCurSps = some pps.nSpsId) (named : hCtx.pSpsBuffers pps.nSpsId = some sps)
    (inUse : matricesInUse pps sps = some matrices) :
    (configureQuantMatrixRegister hCtx pps sps).words = convertScalingMatrices matrices := by
  unfold configureQuantMatrixRegister
  rw [inUse]
  split
  · rfl
  · rename_i unflagged
    exact kept.fresh.resolve_left unflagged pps sps matrices current points named inUse

theorem configure_conversion (scans : scansFirst hCtx = false) (chosen : hCtx.pCurPps ≠ none)
    (current : hCtx.curPps = some pps) (points : hCtx.pCurSps = some pps.nSpsId)
    (named : hCtx.pSpsBuffers pps.nSpsId = some sps) :
    ConversionKept (configureSliceRegister hCtx pps sps).2 := by
  unfold configureSliceRegister
  split
  · rename_i written
    dsimp only
    by_cases flag : hCtx.bScalingMatrixPresent = true
    · constructor
      · intro premise
        exfalso
        unfold configureQuantMatrixRegister at premise
        rw [if_pos flag] at premise
        rcases premise with first | unset | unset
        · exact absurd (scans.symm.trans first) Bool.false_ne_true
        · exact chosen unset
        · exact absurd (points.symm.trans unset) (by simp)
      · right
        intro pps' sps' matrices current' points' named' inUse
        have sets : SameSets hCtx (configureQuantMatrixRegister hCtx pps sps) ∧
            (configureQuantMatrixRegister hCtx pps sps).curPps = hCtx.curPps := by
          unfold configureQuantMatrixRegister
          split <;> exact ⟨⟨rfl, rfl, rfl⟩, rfl⟩
        rw [sets.2] at current'
        obtain rfl := Option.some.inj (current.symm.trans current')
        rw [sets.1.sps] at named'
        obtain rfl := Option.some.inj (named.symm.trans named')
        exact quant_register_words kept current points named inUse
    · rw [configureQuantMatrixRegister, if_neg flag]
      exact kept
  · exact kept

end Conversion

section Slices

variable {hCtx : Context}

structure QuantKept (hCtx : Context) : Prop extends TablesKept hCtx, ConversionKept hCtx

theorem writes_iff (profile_idc : Nat) : writesMatrices profile_idc = true ↔
    profile_idc = 100 ∨ profile_idc = 118 ∨ profile_idc = 128 := by
  simp [writesMatrices, or_assoc]

variable {pps : PpsInfo} {sps : SpsInfo} {slice : SliceSyntax}

theorem present_in_use
    (present : sps.bScalingMatrixPresent = true ∨ pps.bScalingMatrixPresent = true) :
    ∃ matrices, matricesInUse pps sps = some matrices := by
  unfold matricesInUse
  split
  · exact ⟨_, rfl⟩
  · rename_i bare
    rw [if_pos (present.resolve_right bare)]
    exact ⟨_, rfl⟩

theorem registers_right (kept : QuantKept hCtx) {id : Nat} (chosen : hCtx.pCurPps = some id)
    (stored : hCtx.pPpsBuffers id = some pps) (points : hCtx.pCurSps = some pps.nSpsId)
    (named : hCtx.pSpsBuffers pps.nSpsId = some sps) (fits : writesMatrices sps.nProfileIdc = true ∨
      sps.read.carries.isNone = true ∧ pps.read.carries.isNone = true) :
    QuantRight (configureSliceRegister hCtx pps sps).1 sps.read pps.read := by
  have current : hCtx.curPps = some pps := by
    rw [Context.curPps, chosen]
    exact stored
  have resolves := kept.resolved id pps sps stored named
  have asRead := kept.spsRead _ sps named
  generalize sps.read = read at asRead fits ⊢
  subst asRead
  unfold configureSliceRegister
  split
  · rename_i written
    have writes : writesMatrices read.profile_idc = true := (writes_iff _).mpr written.1
    obtain ⟨matrices, inUse⟩ := present_in_use written.2
    have words := quant_register_words kept.toConversionKept current points named inUse
    dsimp only
    rw [words]
    exact words_in_use_right writes resolves inUse
  · rename_i unwritten
    rcases fits with writes | ⟨seq, pic⟩
    · have absent := not_and.mp unwritten ((writes_iff _).mp writes)
      rw [not_or, Bool.not_eq_true, Bool.not_eq_true, sps_present writes] at absent
      obtain ⟨seq, pic⟩ := absent
      rw [← resolves.present, pps_present writes] at pic
      exact flat_right (Option.isNone_iff_eq_none.mp (Option.isSome_eq_false_iff.mp seq))
        (Option.isNone_iff_eq_none.mp (Option.isSome_eq_false_iff.mp pic))
    · exact flat_right (Option.isNone_iff_eq_none.mp seq) (Option.isNone_iff_eq_none.mp pic)

theorem header_quant (kept : QuantKept hCtx) (slice : SliceSyntax) :
    QuantKept (decodeSliceHeader hCtx slice).2 where
  toTablesKept :=
    kept.toTablesKept.of_same (header_stored kept.toSetsStored slice) (header_keeps slice).1
  toConversionKept := header_conversion kept.toConversionKept slice

theorem configure_pps (pps : PpsInfo) (sps : SpsInfo) :
    (configureSliceRegister hCtx pps sps).2.pCurPps = hCtx.pCurPps := by
  unfold configureSliceRegister configureQuantMatrixRegister
  split
  · dsimp only
    split <;> rfl
  · rfl

/-- A decoded slice keeps the words converted and has the matrices of the clauses. -/
theorem decode_slice_quant (kept : QuantKept hCtx) (scans : scansFirst hCtx = false)
    (fits : SliceFits hCtx slice) :
    ConversionKept (decodeSlice hCtx slice).hCtx ∧
      ∀ registers, (decodeSlice hCtx slice).registers = some registers →
        ∃ sps pps, (decodeSlice hCtx slice).hCtx.curSps = some sps ∧
          (decodeSlice hCtx slice).hCtx.curPps = some pps ∧
            QuantRight registers sps.read pps.read := by
  have after := header_quant kept slice
  have sets := (@header_keeps hCtx slice).1
  have names := @header_ok_names hCtx slice
  have whole := fun pps => @header_names hCtx slice pps
  have still : scansFirst (decodeSliceHeader hCtx slice).2 = false := by
    unfold decodeSliceHeader
    split <;> exact scans
  unfold decodeSlice
  generalize decodeSliceHeader hCtx slice = header at after sets names whole still ⊢
  obtain ⟨ret, next⟩ := header
  dsimp only at after sets names whole still ⊢
  split
  · rename_i pps sps current active
    obtain ⟨named, found, points⟩ := names rfl
    obtain ⟨chosen, again, _⟩ := whole named found
    obtain rfl := Option.some.inj (current.symm.trans again)
    have stored : next.pPpsBuffers slice.nPpsId = some pps := by
      rw [Context.curPps, chosen] at current
      exact current
    have namedSps : next.pSpsBuffers pps.nSpsId = some sps := by
      rw [Context.curSps, points] at active
      exact active
    have fits := fits pps found sps (by rw [← sets.sps]; exact namedSps)
    constructor
    · exact configure_conversion after.toConversionKept still (by simp [chosen]) current points
        namedSps
    · rintro registers ⟨⟩
      obtain ⟨later, _, unmoved⟩ := @configure_keeps next pps sps
      refine ⟨sps, pps, ?_, ?_, registers_right after chosen stored points namedSps fits⟩
      · rw [Context.curSps, unmoved, later.sps]
        exact active
      · rw [Context.curPps, configure_pps, later.pps]
        exact current
  · exact ⟨after.toConversionKept, fun _ never => absurd never.symm (Option.some_ne_none _)⟩

theorem process_slice_quant (kept : QuantKept hCtx) (buffers : Buffers)
    (fits : SliceFits hCtx slice) :
    QuantKept (processSlice hCtx slice buffers).hCtx ∧
      ∀ registers, (processSlice hCtx slice buffers).registers = some registers →
        ∃ sps pps, (processSlice hCtx slice buffers).hCtx.curSps = some sps ∧
          (processSlice hCtx slice buffers).hCtx.curPps = some pps ∧
            QuantRight registers sps.read pps.read := by
  have tables : TablesKept (processSlice hCtx slice buffers).hCtx :=
    kept.toTablesKept.of_same (process_slice_stored kept.toSetsStored slice buffers)
      (process_slice_sets slice buffers)
  unfold processSlice at tables ⊢
  split
  · rename_i scans
    rw [if_pos scans] at tables
    exact ⟨⟨tables, scan_conversion kept.toConversionKept scans slice⟩,
      (fun _ never => nomatch never)⟩
  · rename_i scans
    rw [if_neg scans] at tables
    have sets := @have_buffers_sets hCtx buffers
    have buffered : QuantKept (haveBuffers hCtx buffers).2 :=
      ⟨kept.toTablesKept.of_same (have_buffers_stored kept.toSetsStored buffers) sets,
        have_buffers_conversion kept.toConversionKept buffers⟩
    have fits : SliceFits (haveBuffers hCtx buffers).2 slice := by
      unfold SliceFits namedPps at fits ⊢
      rw [sets.pps, sets.sps]
      exact fits
    dsimp only at tables ⊢
    split
    · exact ⟨buffered, (fun _ never => nomatch never)⟩
    · rename_i ok
      rw [if_neg ok] at tables
      obtain ⟨conversion, right⟩ := decode_slice_quant buffered
        (have_buffers_scans buffers (Bool.eq_false_of_not_eq_true scans)) fits
      exact ⟨⟨tables, conversion⟩, right⟩

end Slices

variable {hCtx : Context} {nalu : Nalu} {nDecStreamIndex : Nat} (kept : QuantKept hCtx)

include kept

theorem QuantKept.of_same {next : Context} (same : SameConversion hCtx next) : QuantKept next where
  toTablesKept := by
    apply kept.toTablesKept.of_same _ same.sets
    constructor
    · rw [same.sets.pps, same.sets.sps]
      exact kept.ppsStored
    · rw [same.sps, same.sets.sps]
      exact kept.curStored
    · rw [same.sets.sps, same.sets.last]
      exact kept.lastStored
  toConversionKept := kept.toConversionKept.of_same same

theorem decode_sps_quant {read : SpsSyntax} (alike : SpsAlike hCtx read) :
    QuantKept (decodeSps hCtx read).2 :=
  ⟨decode_sps_tables kept.toTablesKept alike,
    decode_sps_conversion kept.toConversionKept kept.toSetsStored read⟩

theorem decode_pps_quant {read : PpsSyntax} (alike : PpsAlike hCtx read) :
    QuantKept (decodePps hCtx read).2 :=
  ⟨decode_pps_tables kept.toTablesKept read, decode_pps_conversion kept.toConversionKept alike⟩

theorem sps_nalu_quant {read : SpsSyntax} (buffers : Buffers)
    (alike : SpsAlike hCtx read) : QuantKept (processAdmitted hCtx (.sps read buffers)).hCtx := by
  have decoded := decode_sps_quant kept alike
  dsimp only [processAdmitted]
  generalize decodeSps hCtx read = read at decoded ⊢
  split
  · exact decoded
  · split
    · apply decoded.of_same
      refine ⟨⟨rfl, rfl, rfl⟩, rfl, rfl, rfl, rfl, ?_⟩
      intro scans
      exact absurd (scans_iff.mp scans).2 (by simp [mallocFrmBuffer])
    · apply decoded.of_same
      exact ⟨⟨rfl, rfl, rfl⟩, rfl, rfl, rfl, rfl, id⟩

theorem pps_nalu_quant {read : PpsSyntax} (alike : PpsAlike hCtx read) :
    QuantKept (processAdmitted hCtx (.pps read)).hCtx := by
  have decoded := decode_pps_quant kept alike
  dsimp only [processAdmitted]
  generalize decodePps hCtx read = read at decoded ⊢
  split
  · exact decoded
  · apply decoded.of_same
    exact ⟨⟨rfl, rfl, rfl⟩, rfl, rfl, rfl, rfl, id⟩

theorem process_quant (fits : NaluFits nDecStreamIndex hCtx nalu) :
    QuantKept (processNaluUnit nDecStreamIndex hCtx nalu).hCtx ∧
      MatricesRight nDecStreamIndex hCtx nalu := by
  unfold MatricesRight processNaluUnit
  split
  · rename_i admitted
    have fits := fits admitted
    obtain ⟨sps, pps, ended⟩ := end_search_eq nDecStreamIndex hCtx
    rw [ended]
    have found : ∀ sps, QuantKept { hCtx with bNeedFindSPS := sps, bNeedFindPPS := pps } := by
      intro sps
      apply kept.of_same
      exact ⟨⟨rfl, rfl, rfl⟩, rfl, rfl, rfl, rfl, id⟩
    cases nalu with
    | sps read buffers =>
      refine ⟨sps_nalu_quant (found sps) buffers fits, ?_⟩
      intro registers given
      exfalso
      dsimp only [processAdmitted] at given
      split at given
      · cases given
      · split at given <;> cases given
    | spsExt read =>
      exact ⟨decode_sps_quant (found false) fits, (fun _ never => nomatch never)⟩
    | pps read =>
      refine ⟨pps_nalu_quant (found sps) fits, ?_⟩
      intro registers given
      exfalso
      dsimp only [processAdmitted] at given
      split at given <;> cases given
    | slice slice buffers | headerExt slice buffers =>
      exact process_slice_quant (found sps) buffers fits
  · exact ⟨kept, (fun _ never => nomatch never)⟩

omit kept

theorem started_quant {start : Context} (started : Started start) : QuantKept start := by
  have plain : ∀ avc omx scale, QuantKept (initDecode avc omx scale) := by
    intro avc omx scale
    have nothing : NothingPresent (initDecode avc omx scale) :=
      ⟨(fun _ _ never => nomatch never), (fun _ _ never => nomatch never)⟩
    refine ⟨⟨started_stored (.plain avc omx scale), ?_, ?_, ?_⟩, .of_nothing nothing⟩
    · exact fun _ _ never => nomatch never
    · exact fun _ _ never => nomatch never
    · exact fun _ _ _ never => nomatch never
  cases started with
  | plain avc omx scale => exact plain avc omx scale
  | prealloc avc omx scale info =>
    apply (plain avc omx scale).of_same
    refine ⟨⟨rfl, rfl, rfl⟩, rfl, rfl, rfl, rfl, ?_⟩
    intro scans
    exact absurd (scans_iff.mp scans).2 (by simp [pallocBufferBeforeDecode, mallocFrmBuffer])

/-- In a run whose sets are replaced only by sets alike and whose slices have a profile that
matrices are written for, or no matrices, the engine gets the matrices of the clauses. -/
theorem matrices_right_in_guarded_runs (nDecStreamIndex : Nat) {start : Context}
    {nalus : List Nalu} (started : Started start)
    (fits : StepsMeet (NaluFits nDecStreamIndex) (naluExec nDecStreamIndex) start nalus) :
    StepsMeet (MatricesRight nDecStreamIndex) (naluExec nDecStreamIndex) start nalus := by
  apply steps_meet_of_invariant _ _ (started_quant started) fits
  · rintro hCtx nalu next kept fits ⟨⟩
    exact (process_quant kept fits).1
  · intro hCtx nalu kept fits
    exact (process_quant kept fits).2

def eights : ScalingListSyntax := some fun i => if i = 1 then -8 else 0

/-- An SPS of this profile with this first list, the others to be taken from the defaults. -/
def highSps (profile_idc : Nat) (list : ScalingListSyntax) : SpsSyntax :=
  { plainSps 0 120 68 4 with
    profile_idc := profile_idc, scaling_matrix := some fun i => if i = 0 then list else none }

def listPps (id : Nat) (list : ScalingListSyntax) : PpsSyntax :=
  { plainPps id 0 with extension := some ⟨true, some fun i => if i = 0 then list else none⟩ }

def listNalus : List Nalu :=
  [.sps (highSps 100 none) granted, .pps (listPps 0 eights), .pps (plainPps 1 0), plainSlice 0,
    plainSlice 0, plainSlice 1, .pps (plainPps 1 0), plainSlice 1, plainSlice 0]

theorem list_nalus_right : StepsMeet (MatricesRight 0) (naluExec 0) plainStart listNalus :=
  matrices_right_in_guarded_runs 0 (.plain _ _ _) (by decide +kernel)

theorem first_word_right (right : MatricesRight nDecStreamIndex hCtx nalu)
    (decoded : (processNaluUnit nDecStreamIndex hCtx nalu).registers.isSome) :
    (processNaluUnit nDecStreamIndex hCtx nalu).registers.map
        (fun registers => registers.words.nScalingMatrix4 0 0) =
      (processNaluUnit nDecStreamIndex hCtx nalu).hCtx.curSps.bind fun sps =>
        (processNaluUnit nDecStreamIndex hCtx nalu).hCtx.curPps.map fun pps =>
          (clauseWords sps.read pps.read).nScalingMatrix4 0 0 := by
  obtain ⟨registers, given⟩ := Option.isSome_iff_exists.mp decoded
  obtain ⟨sps, pps, active, current, same⟩ := right registers given
  rw [given, active, current, Option.map_some, same.words4]
  rfl

/-- The words of a list no set has any more; a fall-back on an SPS no longer there; a profile
matrices are not written for. -/
theorem replaced_sets_break_matrices : (¬ StepsMeet (MatricesRight 0) (naluExec 0) plainStart
        [.sps (highSps 100 none) granted, .pps (listPps 0 eights), plainSlice 0, plainSlice 0,
          .pps (plainPps 0 0), plainSlice 0]) ∧
      (¬ StepsMeet (MatricesRight 0) (naluExec 0) plainStart
        [.sps (highSps 100 none) granted, .pps (listPps 0 none), .sps (highSps 100 eights) granted,
          plainSlice 0, plainSlice 0]) ∧
      ¬ StepsMeet (MatricesRight 0) (naluExec 0) plainStart
        [.sps (highSps 110 none) granted, .pps (plainPps 0 0), plainSlice 0, plainSlice 0] := by
  refine ⟨?_, ?_, ?_⟩
  · intro right
    have last := (((((right.2 _ rfl).2 _ rfl).2 _ rfl).2 _ rfl).2 _ rfl).1
    exact absurd (first_word_right last (by decide)) (by decide)
  · intro right
    have last := ((((right.2 _ rfl).2 _ rfl).2 _ rfl).2 _ rfl).1
    exact absurd (first_word_right last (by decide)) (by decide)
  · intro right
    have last := (((right.2 _ rfl).2 _ rfl).2 _ rfl).1
    exact absurd (first_word_right last (by decide)) (by decide)

end CedarC.H264
