import CedarC.GuardedRuns
import CedarC.H265ParamSets

/-!
# Runs of parameter set and slice NAL units

The decoder with a record of every slice and a log of the parameter sets it
stored, newest first. A slice whose PPS has tiles is only safe when the SPS
that was in force when the PPS came has the sizes of the one in force now, and
a slice that activates no PPS is only safe when the PPS of the slice before is
still in the list.
-/

namespace CedarC.H265ParamSetRuns

open FixedWidth GuardedRuns H265TileTables H265ParamSets Option Function

variable {Rest : Type}

/-- What a slice finds after its header was parsed. -/
structure SliceRecord (Rest : Type) where
  accepted : Bool
  used : Bool
  pPps : Option Nat
  pps : Option HevcPPS
  pSps : Option (HevcSPS Rest)

inductive ParamEvent
  | sps (nSpsId : Nat) (sizes : CtbSizes)
  | pps (nPpsId : Nat)

structure ParamSystem (Rest : Type) where
  dec : ParamSets Rest
  events : List ParamEvent
  slices : List (SliceRecord Rest)

/-- A NAL unit. `decodes` says that the checks between the slice header and
`HevcDecodeOneSlice` let the slice through, which go on after a refused header. -/
inductive ParamNal (Rest : Type)
  | vps (nVpsId : Fin 16) (refused : Bool)
  | sps (nal : SpsNal Rest)
  | pps (nal : PpsNal) (address : Nat)
  | sei (bHdrFlag : Int)
  | slice (slicePicParameterSetId : UInt32) (decodes : Bool)

def ParamSystem.start : ParamSystem Rest := ⟨ParamSets.init, [], []⟩

def recordSlice (dec : ParamSets Rest) (result : SliceResult) (decodes : Bool) : SliceRecord Rest :=
  { accepted := result = .accepted
    used := decodes && decide (result ≠ .sizeChange)
    pPps := dec.pPps
    pps := dec.pPps.bind dec.memory
    pSps := dec.pSps }

def exec [DecidableEq Rest] (system : ParamSystem Rest) : ParamNal Rest → Option (ParamSystem Rest)
  | .vps nVpsId refused =>
    if refused then some system
    else
      some { system with
        dec := { system.dec with VpsList := update system.dec.VpsList nVpsId true } }
  | .sps nal =>
    (hevcDecodeNalSps system.dec nal).map fun (dec, result) =>
      if result = 0 then
        { system with
          dec := dec
          events := .sps nal.spsSeqParameterSetId.toNat nal.toSps.sizes :: system.events }
      else { system with dec := dec }
  | .pps nal address =>
    (hevcDecodeNalPps system.dec nal address).map fun (dec, result) =>
      if result = 0 then
        { system with
          dec := dec, events := .pps nal.ppsPicParameterSetId.toNat :: system.events }
      else { system with dec := dec }
  | .sei bHdrFlag => some { system with dec := { system.dec with bHdrFlag := bHdrFlag } }
  | .slice slicePicParameterSetId decodes =>
    if system.dec.bHadFindSpsFlag && system.dec.bHadFindPpsFlag then
      (hevcDecodeSliceHeader system.dec slicePicParameterSetId).map fun (dec, result) =>
        { system with dec := dec, slices := recordSlice dec result decodes :: system.slices }
    else some system

/-- An allocation returns memory that is not in use. -/
def Legal (system : ParamSystem Rest) : ParamNal Rest → Prop
  | .pps _ address => (system.dec.memory address).isNone
  | _ => True

instance (system : ParamSystem Rest) : ∀ nal, Decidable (Legal system nal)
  | .pps _ _ => inferInstanceAs (Decidable (_ = true))
  | .vps _ _ | .sps _ | .sei _ | .slice _ _ => inferInstanceAs (Decidable True)

/-- An accepted slice activates a PPS whose tables come from the SPS that it
activates, and no slice is decoded with a freed PPS. -/
structure SliceConsistent (record : SliceRecord Rest) : Prop where
  fresh : record.accepted = true → ∃ pPps pSps, record.pps = some pPps ∧
    record.pSps = some pSps ∧ derived pSps.sizes pPps.tiles = some pPps.tables
  live : record.used = true → record.pPps.isSome → record.pps.isSome

def ParamSetsConsistent (system : ParamSystem Rest) : Prop :=
  ∀ record ∈ system.slices, SliceConsistent record

def sizesAt : List ParamEvent → Nat → Option CtbSizes
  | [], _ => none
  | .sps i sizes :: rest, nSpsId => if i = nSpsId then some sizes else sizesAt rest nSpsId
  | .pps _ :: rest, nSpsId => sizesAt rest nSpsId

def beforePps : List ParamEvent → Nat → List ParamEvent
  | [], _ => []
  | .pps i :: rest, nPpsId => if i = nPpsId then rest else beforePps rest nPpsId
  | .sps _ _ :: rest, nPpsId => beforePps rest nPpsId

def goesOn [DecidableEq Rest] (dec : ParamSets Rest) (pCurSps : HevcSPS Rest) : Bool :=
  dec.pSps.all fun old => decide (old = pCurSps) || !reportsChange dec old pCurSps

/-- An SPS that the parser would store has an id inside the table. -/
def SpsSafe (dec : ParamSets Rest) (nal : SpsNal Rest) : Prop :=
  dec.VpsList nal.nVpsId = true → nal.refused = false →
    nal.spsSeqParameterSetId.toNat ≠ HEVC_MAX_SPS_NUM ∧ nal.spsSeqParameterSetId.toNat < 2 ^ 31

/-- A PPS looks up an SPS inside the table, and has an id inside its own one
when the parser would store it. -/
def PpsSafe (dec : ParamSets Rest) (nal : PpsNal) : Prop :=
  s32 nal.ppsPicParameterSetId.toNat ≤ HEVC_MAX_PPS_NUM →
    nal.ppsSeqParameterSetId.toNat ≠ HEVC_MAX_SPS_NUM ∧
      (nal.ppsSeqParameterSetId.toNat < HEVC_MAX_SPS_NUM →
        ∀ pSps ∈ dec.SpsList nal.ppsSeqParameterSetId.toNat, nal.refused = false →
          (derived pSps.sizes nal.tiles).isSome →
            nal.ppsPicParameterSetId.toNat ≠ HEVC_MAX_PPS_NUM ∧
              nal.ppsPicParameterSetId.toNat < 2 ^ 31)

def namedPps (dec : ParamSets Rest) (slicePicParameterSetId : UInt32) : Option Nat :=
  if slicePicParameterSetId.toNat < HEVC_MAX_PPS_NUM then
    dec.PpsList slicePicParameterSetId.toNat
  else none

def SliceSafe [DecidableEq Rest] (system : ParamSystem Rest) (slicePicParameterSetId : UInt32)
    (decodes : Bool) : Prop :=
  slicePicParameterSetId.toNat < 2 ^ 31 ∧
    (namedPps system.dec slicePicParameterSetId = none → decodes = true →
      ∀ address ∈ system.dec.pPps,
        ∃ nPpsId < HEVC_MAX_PPS_NUM, system.dec.PpsList nPpsId = some address) ∧
    ∀ address ∈ namedPps system.dec slicePicParameterSetId,
      ∀ pPps ∈ system.dec.memory address, pPps.tiles.isSome →
        (system.dec.SpsList pPps.nSpsId).any (goesOn system.dec) →
          sizesAt (beforePps system.events slicePicParameterSetId.toNat) pPps.nSpsId =
            sizesAt system.events pPps.nSpsId

def ParamSafe [DecidableEq Rest] (system : ParamSystem Rest) : ParamNal Rest → Prop
  | .sps nal => SpsSafe system.dec nal
  | .pps nal _ => PpsSafe system.dec nal
  | .slice slicePicParameterSetId decodes =>
    system.dec.bHadFindSpsFlag = true → system.dec.bHadFindPpsFlag = true →
      SliceSafe system slicePicParameterSetId decodes
  | _ => True

instance [DecidableEq Rest] (system : ParamSystem Rest) :
    ∀ nal, Decidable (ParamSafe system nal)
  | .sps _ | .pps _ _ => inferInstanceAs (Decidable (_ → _))
  | .slice _ _ => inferInstanceAs (Decidable (_ → _ → _ ∧ _ ∧ _))
  | .vps _ _ | .sei _ => inferInstanceAs (Decidable True)

section Steps

variable {dec : ParamSets Rest} {id : UInt32}

theorem s32_small (small : id.toNat < 2 ^ 31) : s32 id.toNat = id.toNat :=
  s32_of_range ⟨by omega, by omega⟩

theorem decode_sps_spec {nal : SpsNal Rest} (safe : SpsSafe dec nal) :
    hevcDecodeNalSps dec nal = some (dec, -1) ∨ nal.spsSeqParameterSetId.toNat < HEVC_MAX_SPS_NUM ∧
        hevcDecodeNalSps dec nal = some ({ dec with
          SpsList := update dec.SpsList nal.spsSeqParameterSetId.toNat (some nal.toSps)
          bHadFindSpsFlag :=
            !(decide (nal.toSps.nWidth < 64) && decide (nal.toSps.nHeight < 64)) }, 0) := by
  by_cases noVps : dec.VpsList nal.nVpsId = false
  · left
    simp [hevcDecodeNalSps, noVps]
  by_cases tooLarge : s32 nal.spsSeqParameterSetId.toNat > HEVC_MAX_SPS_NUM
  · left
    simp [hevcDecodeNalSps, tooLarge]
  by_cases refused : nal.refused = true
  · left
    simp [hevcDecodeNalSps, refused]
  right
  obtain ⟨notLast, small⟩ := safe (by simpa using noVps) (by simpa using refused)
  rw [s32_small small] at tooLarge
  have inside : ¬ ((nal.spsSeqParameterSetId.toNat : Int) < 0 ∨
      (HEVC_MAX_SPS_NUM : Int) ≤ nal.spsSeqParameterSetId.toNat) := by omega
  refine ⟨by omega, ?_⟩
  simp only [hevcDecodeNalSps, if_neg noVps, s32_small small, if_neg tooLarge, refused,
    Bool.false_eq_true, if_false, if_neg inside, Int.toNat_natCast]

theorem decode_pps_spec {nal : PpsNal} {address : Nat} (safe : PpsSafe dec nal) :
    hevcDecodeNalPps dec nal address = some (dec, -1) ∨
      ∃ pSps tables, nal.ppsPicParameterSetId.toNat < HEVC_MAX_PPS_NUM ∧
        nal.ppsSeqParameterSetId.toNat < HEVC_MAX_SPS_NUM ∧
        dec.SpsList nal.ppsSeqParameterSetId.toNat = some pSps ∧
        derived pSps.sizes nal.tiles = some tables ∧
        hevcDecodeNalPps dec nal address = some ({ dec with
          PpsList := update dec.PpsList nal.ppsPicParameterSetId.toNat (some address)
          memory := update
            (freePps dec.memory (dec.PpsList nal.ppsPicParameterSetId.toNat))
            address (some ⟨nal.ppsSeqParameterSetId.toNat, nal.tiles, tables⟩)
          bHadFindPpsFlag := true }, 0) := by
  by_cases tooLarge : s32 nal.ppsPicParameterSetId.toNat > HEVC_MAX_PPS_NUM
  · left
    simp [hevcDecodeNalPps, tooLarge]
  obtain ⟨notLast, stored⟩ := safe (by omega)
  by_cases noSps : nal.ppsSeqParameterSetId.toNat > HEVC_MAX_SPS_NUM
  · left
    simp [hevcDecodeNalPps, noSps]
  have inside : ¬ HEVC_MAX_SPS_NUM ≤ nal.ppsSeqParameterSetId.toNat := by omega
  cases found : dec.SpsList nal.ppsSeqParameterSetId.toNat with
  | none =>
    left
    simp only [hevcDecodeNalPps, if_neg tooLarge, if_neg noSps, if_neg inside, found]
  | some pSps =>
    by_cases refused : nal.refused = true
    · left
      simp only [hevcDecodeNalPps, if_neg tooLarge, if_neg noSps, if_neg inside, found,
        if_pos refused]
    cases built : derived pSps.sizes nal.tiles with
    | none =>
      left
      simp only [hevcDecodeNalPps, if_neg tooLarge, if_neg noSps, if_neg inside, found,
        if_neg refused, built]
    | some tables =>
      right
      obtain ⟨notLastPps, small⟩ := stored (by omega) pSps found (by simpa using refused)
        (by rw [built]; rfl)
      rw [s32_small small] at tooLarge
      have insidePps : ¬ ((nal.ppsPicParameterSetId.toNat : Int) < 0 ∨
          (HEVC_MAX_PPS_NUM : Int) ≤ nal.ppsPicParameterSetId.toNat) := by omega
      refine ⟨pSps, tables, by omega, by omega, rfl, built, ?_⟩
      simp only [hevcDecodeNalPps, s32_small small, if_neg tooLarge, if_neg noSps,
        if_neg inside, found, if_neg refused, built, if_neg insidePps, Int.toNat_natCast]

theorem decode_slice_named [DecidableEq Rest] {address : Nat} {pPps : HevcPPS}
    {pCurSps : HevcSPS Rest} (named : namedPps dec id = some address) (live : dec.memory address = some pPps)
    (inside : pPps.nSpsId < HEVC_MAX_SPS_NUM) (found : dec.SpsList pPps.nSpsId = some pCurSps) :
    ∃ bPreHdrFlag result, hevcDecodeSliceHeader dec id = some ({ dec with
        pPps := some address, pSps := some pCurSps, bPreHdrFlag := bPreHdrFlag }, result) ∧
      (result = .accepted → goesOn dec pCurSps = true) := by
  unfold namedPps at named
  split_ifs at named with small
  have same : s32 id.toNat = id.toNat := by
    unfold HEVC_MAX_PPS_NUM at small
    exact s32_small (by omega)
  have notLarge : ¬ (HEVC_MAX_PPS_NUM : Int) ≤ id.toNat := by omega
  have notNegative : ¬ (id.toNat : Int) < 0 := by omega
  have insideTable : ¬ HEVC_MAX_SPS_NUM ≤ pPps.nSpsId := by omega
  simp only [hevcDecodeSliceHeader, same, if_neg notLarge, if_neg notNegative, Int.toNat_natCast,
    named, live, bind_some, if_neg insideTable, found]
  cases active : dec.pSps with
  | none =>
    refine ⟨_, _, rfl, ?_⟩
    simp [goesOn, active]
  | some old =>
    by_cases equal : old = pCurSps
    · subst equal
      refine ⟨dec.bPreHdrFlag, .accepted, ?_, ?_⟩
      · simp
      · simp [goesOn, active]
    · refine ⟨dec.bHdrFlag, if reportsChange dec old pCurSps then .sizeChange else .accepted,
        if_neg equal, ?_⟩
      cases changes : reportsChange dec old pCurSps with
      | true => simp
      | false => simp [goesOn, active, changes]

theorem decode_slice_unnamed [DecidableEq Rest] (small : id.toNat < 2 ^ 31)
    (unnamed : namedPps dec id = none) : hevcDecodeSliceHeader dec id = some (dec, .refused) := by
  unfold namedPps at unnamed
  have notNegative : ¬ (id.toNat : Int) < 0 := by omega
  split_ifs at unnamed with inside
  · have notLarge : ¬ (HEVC_MAX_PPS_NUM : Int) ≤ id.toNat := by omega
    simp only [hevcDecodeSliceHeader, s32_small small, if_neg notLarge, if_neg notNegative,
      Int.toNat_natCast, unnamed]
  · have large : (HEVC_MAX_PPS_NUM : Int) ≤ id.toNat := by omega
    simp only [hevcDecodeSliceHeader, s32_small small, if_pos large]

end Steps

variable {system : ParamSystem Rest}

/-- The PPS at `nPpsId` is live and has the tables of the SPS that was in force
when it came. -/
structure PpsListed (dec : ParamSets Rest) (events : List ParamEvent) (nPpsId : Nat)
    (pPps : HevcPPS) : Prop where
  inside : nPpsId < HEVC_MAX_PPS_NUM
  spsInside : pPps.nSpsId < HEVC_MAX_SPS_NUM
  sps : (dec.SpsList pPps.nSpsId).isSome
  built : ∃ sizes, sizesAt (beforePps events nPpsId) pPps.nSpsId = some sizes ∧
    derived sizes pPps.tiles = some pPps.tables

structure InStore (system : ParamSystem Rest) : Prop where
  listed : ∀ nPpsId address, system.dec.PpsList nPpsId = some address →
    ∃ pPps, system.dec.memory address = some pPps ∧ PpsListed system.dec system.events nPpsId pPps
  distinct : ∀ first second address, system.dec.PpsList first = some address →
    system.dec.PpsList second = some address → first = second
  inForce : ∀ nSpsId, sizesAt system.events nSpsId = (system.dec.SpsList nSpsId).map HevcSPS.sizes
  consistent : ParamSetsConsistent system

theorem start_in_store : InStore (ParamSystem.start : ParamSystem Rest) := by
  constructor
  · intro nPpsId address none
    cases none
  · intro first second address none
    cases none
  · intro nSpsId
    rfl
  · intro record member
    cases member

variable {dec : ParamSets Rest} {address : Nat} {nal : SpsNal Rest} {pSps : HevcSPS Rest}
  {id : UInt32} {decodes : Bool} (kept : InStore system)

include kept

theorem in_store_of_same
    (sameSps : dec.SpsList = system.dec.SpsList) (samePps : dec.PpsList = system.dec.PpsList)
    (sameMemory : dec.memory = system.dec.memory) : InStore { system with dec := dec } := by
  constructor
  · intro nPpsId address here
    rw [samePps] at here
    obtain ⟨pPps, live, listed⟩ := kept.listed nPpsId address here
    refine ⟨pPps, by rw [sameMemory]; exact live, ?_⟩
    exact { listed with sps := by rw [sameSps]; exact listed.sps }
  · intro first second address
    rw [samePps]
    exact kept.distinct first second address
  · intro nSpsId
    rw [sameSps]
    exact kept.inForce nSpsId
  · exact kept.consistent

theorem slice_in_store {record : SliceRecord Rest}
    (sameSps : dec.SpsList = system.dec.SpsList) (samePps : dec.PpsList = system.dec.PpsList)
    (sameMemory : dec.memory = system.dec.memory) (consistent : SliceConsistent record) :
    InStore { system with dec := dec, slices := record :: system.slices } := by
  have same := in_store_of_same kept sameSps samePps sameMemory
  constructor
  · exact same.listed
  · exact same.distinct
  · exact same.inForce
  · intro other member
    rcases List.mem_cons.mp member with rfl | earlier
    · exact consistent
    · exact kept.consistent other earlier

theorem sps_in_store {found : Bool} :
    InStore { system with
      dec := { system.dec with
        SpsList := update system.dec.SpsList nal.spsSeqParameterSetId.toNat
          (some nal.toSps)
        bHadFindSpsFlag := found }
      events := .sps nal.spsSeqParameterSetId.toNat nal.toSps.sizes :: system.events } := by
  constructor
  · intro nPpsId address here
    obtain ⟨pPps, live, listed⟩ := kept.listed nPpsId address here
    refine ⟨pPps, live, { listed with sps := ?_ }⟩
    by_cases same : pPps.nSpsId = nal.spsSeqParameterSetId.toNat
    · simp [same]
    · simpa [update_of_ne same] using listed.sps
  · exact kept.distinct
  · intro nSpsId
    by_cases same : nSpsId = nal.spsSeqParameterSetId.toNat
    · subst same
      simp [sizesAt]
    · simpa [sizesAt, update_of_ne same, Ne.symm same] using kept.inForce nSpsId
  · exact kept.consistent

theorem pps_in_store {nal : PpsNal}
    {tables : Option TileTables} (fresh : system.dec.memory address = none)
    (inside : nal.ppsPicParameterSetId.toNat < HEVC_MAX_PPS_NUM)
    (spsInside : nal.ppsSeqParameterSetId.toNat < HEVC_MAX_SPS_NUM)
    (found : system.dec.SpsList nal.ppsSeqParameterSetId.toNat = some pSps)
    (built : derived pSps.sizes nal.tiles = some tables) :
    InStore { system with
      dec := { system.dec with
        PpsList := update system.dec.PpsList nal.ppsPicParameterSetId.toNat (some address)
        memory := update
          (freePps system.dec.memory (system.dec.PpsList nal.ppsPicParameterSetId.toNat))
          address (some ⟨nal.ppsSeqParameterSetId.toNat, nal.tiles, tables⟩)
        bHadFindPpsFlag := true }
      events := .pps nal.ppsPicParameterSetId.toNat :: system.events } := by
  have unlisted : ∀ nPpsId, system.dec.PpsList nPpsId ≠ some address := by
    intro nPpsId here
    obtain ⟨pPps, live, -⟩ := kept.listed nPpsId address here
    rw [fresh] at live
    cases live
  constructor
  · intro nPpsId other here
    by_cases same : nPpsId = nal.ppsPicParameterSetId.toNat
    · subst same
      obtain rfl : address = other := by simpa using here
      refine ⟨_, update_self _ _ _, inside, spsInside, by simp [found], pSps.sizes, ?_, built⟩
      simp [beforePps, kept.inForce, found]
    · simp only [update_of_ne same] at here
      obtain ⟨pPps, live, listed⟩ := kept.listed nPpsId other here
      have apart : other ≠ address := by
        rintro rfl
        exact unlisted nPpsId here
      have unfreed : freePps system.dec.memory
          (system.dec.PpsList nal.ppsPicParameterSetId.toNat) other = some pPps := by
        cases slot : system.dec.PpsList nal.ppsPicParameterSetId.toNat with
        | none => exact live
        | some old =>
          have different : other ≠ old := by
            rintro rfl
            exact same (kept.distinct _ _ _ here slot)
          rw [freePps, update_of_ne different]
          exact live
      refine ⟨pPps, by simpa only [update_of_ne apart] using unfreed, ?_⟩
      exact { listed with
        built := by simpa [beforePps, Ne.symm same] using listed.built }
  · intro first second other firstHere secondHere
    by_cases firstSame : first = nal.ppsPicParameterSetId.toNat
    · by_cases secondSame : second = nal.ppsPicParameterSetId.toNat
      · rw [firstSame, secondSame]
      · simp only [firstSame, update_self, Option.some.injEq,
          update_of_ne secondSame] at firstHere secondHere
        subst firstHere
        exact absurd secondHere (unlisted second)
    · by_cases secondSame : second = nal.ppsPicParameterSetId.toNat
      · simp only [secondSame, update_self, Option.some.injEq,
          update_of_ne firstSame] at firstHere secondHere
        subst secondHere
        exact absurd firstHere (unlisted first)
      · simp only [update_of_ne firstSame, update_of_ne secondSame]
          at firstHere secondHere
        exact kept.distinct first second other firstHere secondHere
  · intro nSpsId
    exact kept.inForce nSpsId
  · exact kept.consistent

/-- The tables of a listed PPS are those of the SPS in force when its sizes are
the ones of the time the PPS came. -/
theorem listed_tables_fresh {nPpsId : Nat} {pPps : HevcPPS}
    (listed : PpsListed system.dec system.events nPpsId pPps)
    (found : system.dec.SpsList pPps.nSpsId = some pSps)
    (same : pPps.tiles.isSome → sizesAt (beforePps system.events nPpsId) pPps.nSpsId =
      sizesAt system.events pPps.nSpsId) :
    derived pSps.sizes pPps.tiles = some pPps.tables := by
  obtain ⟨sizes, atPps, built⟩ := listed.built
  cases syntaxOf : pPps.tiles with
  | none =>
    rw [syntaxOf] at built
    exact built
  | some tiles =>
    have inForce := kept.inForce pPps.nSpsId
    rw [← same (by rw [syntaxOf]; rfl), atPps, found] at inForce
    have equal : sizes = pSps.sizes := Option.some.inj inForce
    rw [← syntaxOf, ← equal]
    exact built

theorem named_slice_in_store [DecidableEq Rest] (safe : SliceSafe system id decodes)
    (named : namedPps system.dec id = some address) :
    ∃ dec result, hevcDecodeSliceHeader system.dec id = some (dec, result) ∧
      InStore { system with
        dec := dec, slices := recordSlice dec result decodes :: system.slices } := by
  have here : system.dec.PpsList id.toNat = some address := by
    unfold namedPps at named
    split_ifs at named
    exact named
  obtain ⟨pPps, live, listed⟩ := kept.listed id.toNat address here
  obtain ⟨pCurSps, found⟩ := isSome_iff_exists.mp listed.sps
  obtain ⟨bPreHdrFlag, result, decoded, accepted⟩ :=
    decode_slice_named named live listed.spsInside found
  refine ⟨_, result, decoded, slice_in_store kept rfl rfl rfl ?_⟩
  constructor
  · intro wasAccepted
    have resultAccepted : result = .accepted := by simpa [recordSlice] using wasAccepted
    have goes : (system.dec.SpsList pPps.nSpsId).any (goesOn system.dec) = true := by
      rw [found]
      exact accepted resultAccepted
    have fresh := listed_tables_fresh kept listed found fun tiled =>
      safe.2.2 address named pPps live tiled goes
    exact ⟨pPps, pCurSps, live, rfl, fresh⟩
  · intro _ _
    exact isSome_iff_exists.mpr ⟨pPps, live⟩

theorem unnamed_slice_in_store [DecidableEq Rest] (safe : SliceSafe system id decodes)
    (unnamed : namedPps system.dec id = none) :
    ∃ dec result, hevcDecodeSliceHeader system.dec id = some (dec, result) ∧
      InStore { system with
        dec := dec, slices := recordSlice dec result decodes :: system.slices } := by
  refine ⟨system.dec, .refused, decode_slice_unnamed safe.1 unnamed,
    slice_in_store kept rfl rfl rfl ?_⟩
  constructor
  · intro wasAccepted
    simp [recordSlice] at wasAccepted
  · intro used active
    have wasDecoded : decodes = true := by simpa [recordSlice] using used
    obtain ⟨address, current⟩ := isSome_iff_exists.mp active
    obtain ⟨nPpsId, _, here⟩ := safe.2.1 unnamed wasDecoded address current
    obtain ⟨pPps, live, _⟩ := kept.listed nPpsId address here
    have found : system.dec.pPps.bind system.dec.memory = some pPps := by
      rw [show system.dec.pPps = some address from current]
      exact live
    exact isSome_iff_exists.mpr ⟨pPps, found⟩

omit kept

theorem exec_sps_stored [DecidableEq Rest]
    (stored : hevcDecodeNalSps system.dec nal = some (dec, 0)) :
    exec system (.sps nal) = some { system with
      dec := dec
      events := .sps nal.spsSeqParameterSetId.toNat nal.toSps.sizes :: system.events } := by
  simp only [exec, stored, map_some, if_true]

theorem exec_pps_stored [DecidableEq Rest] {nal : PpsNal}
    (stored : hevcDecodeNalPps system.dec nal address = some (dec, 0)) :
    exec system (.pps nal address) = some { system with
      dec := dec, events := .pps nal.ppsPicParameterSetId.toNat :: system.events } := by
  simp only [exec, stored, map_some, if_true]

theorem exec_in_store [DecidableEq Rest] {nal : ParamNal Rest} (kept : InStore system)
    (legal : Legal system nal) (safe : ParamSafe system nal) :
    ∃ next, exec system nal = some next ∧ InStore next := by
  cases nal with
  | vps nVpsId refused =>
    cases refused with
    | true => exact ⟨system, rfl, kept⟩
    | false => exact ⟨_, rfl, in_store_of_same kept rfl rfl rfl⟩
  | sps nal =>
    rcases decode_sps_spec safe with refused | ⟨inside, stored⟩
    · exact ⟨system, by simp [exec, refused], kept⟩
    · exact ⟨_, exec_sps_stored stored, sps_in_store kept⟩
  | pps nal address =>
    have fresh : system.dec.memory address = none := isNone_iff_eq_none.mp legal
    rcases @decode_pps_spec _ _ nal address safe with refused | ⟨pSps, tables, inside, spsInside, found, built,
      stored⟩
    · exact ⟨system, by simp [exec, refused], kept⟩
    · exact ⟨_, exec_pps_stored stored, pps_in_store kept fresh inside spsInside found built⟩
  | sei bHdrFlag => exact ⟨_, rfl, in_store_of_same kept rfl rfl rfl⟩
  | slice id decodes =>
    by_cases ready : system.dec.bHadFindSpsFlag = true ∧ system.dec.bHadFindPpsFlag = true
    · have sliceSafe : SliceSafe system id decodes := safe ready.1 ready.2
      have decoded : ∃ dec result, hevcDecodeSliceHeader system.dec id = some (dec, result) ∧
          InStore { system with
            dec := dec, slices := recordSlice dec result decodes :: system.slices } := by
        cases named : namedPps system.dec id with
        | none => exact unnamed_slice_in_store kept sliceSafe named
        | some address => exact named_slice_in_store kept sliceSafe named
      obtain ⟨dec, result, header, stored⟩ := decoded
      exact ⟨_, by simp only [exec, ready.1, ready.2, Bool.and_self, if_true, header,
        map_some], stored⟩
    · exact ⟨system, by simp only [exec, Bool.and_eq_true, if_neg ready], kept⟩

/-- Safe NAL units from the start: the decoder never leaves a table or touches
freed memory, and every slice is consistent. -/
theorem param_sets_consistent_in_safe_runs [DecidableEq Rest] (nals : List (ParamNal Rest))
    (legal : StepsMeet Legal exec (ParamSystem.start : ParamSystem Rest) nals)
    (safe : StepsMeet ParamSafe exec ParamSystem.start nals) :
    ∃ final, runOps exec ParamSystem.start nals = some final ∧ ParamSetsConsistent final := by
  obtain ⟨final, run, kept⟩ := @guarded_run_ends _ _
    (fun system nal => Legal system nal ∧ ParamSafe system nal) exec InStore
    (fun _ _ kept guards => exec_in_store kept guards.1 guards.2)
    _ _ start_in_store (steps_meet_and legal safe)
  exact ⟨final, run, kept.consistent⟩

def plainSps (nWidth : Int) : ParamNal Unit :=
  .sps
    { nVpsId := 0
      spsSeqParameterSetId := 0
      nMaxSubLayers := 1
      TemporalLayer := [⟨1, 0⟩]
      nWidth := nWidth
      nHeight := 64
      nLog2CtbSize := 6
      rest := ()
      refused := false }

def twoColumns (address : Nat) : ParamNal Unit :=
  .pps ⟨0, 0, some ⟨1, 0, true, fun _ => 0, fun _ => 0⟩, false⟩ address

/-- Every SPS is followed by a PPS, and the last slice sees new sizes. -/
def resentSets : List (ParamNal Unit) :=
  [.vps 0 false, plainSps 128, twoColumns 1, .slice 0 true, plainSps 256, twoColumns 2,
    .slice 0 true, .slice 0 true]

theorem resent_sets_consistent : ∃ final, runOps exec ParamSystem.start resentSets = some final ∧
      ParamSetsConsistent final :=
  param_sets_consistent_in_safe_runs resentSets (by decide +kernel) (by decide +kernel)

def staleTables : List (ParamNal Unit) :=
  [.vps 0 false, plainSps 128, twoColumns 1, plainSps 256, .slice 0 true]

/-- The width of the first tile column that a slice decodes with, and the width
that its SPS gives. -/
def firstColumn (record : SliceRecord Unit) : Option Int × Option Int :=
  let columnOf := fun tables : Option TileTables => tables.map fun tables => tables.ColumnWidth 0
  (record.pps.bind fun pPps => columnOf pPps.tables,
    record.pps.bind fun pPps => record.pSps.bind fun pSps =>
      (derived pSps.sizes pPps.tiles).bind columnOf)

theorem consistent_first_column {record : SliceRecord Unit} (consistent : SliceConsistent record)
    (accepted : record.accepted = true) : (firstColumn record).1 = (firstColumn record).2 := by
  obtain ⟨pPps, pSps, pps, sps, built⟩ := consistent.fresh accepted
  simp only [firstColumn, pps, sps, built, bind_some]

theorem replaced_sps_leaves_stale_tables :
    StepsMeet Legal exec (ParamSystem.start : ParamSystem Unit) staleTables ∧
      ∃ final, runOps exec ParamSystem.start staleTables = some final ∧
        ¬ ParamSetsConsistent final := by
  refine ⟨by decide +kernel, ?_⟩
  have observed : (runOps exec ParamSystem.start staleTables).map
      (fun final => final.slices.map fun record => (record.accepted, firstColumn record)) =
        some [(true, some 1, some 2)] := by decide +kernel
  obtain ⟨final, run, slices⟩ := map_eq_some_iff.mp observed
  refine ⟨final, run, ?_⟩
  intro consistent
  obtain ⟨record, rest, first, seen, -⟩ := List.map_eq_cons_iff.mp slices
  have accepted : record.accepted = true := congrArg Prod.fst seen
  have columns := consistent_first_column (consistent record (by simp [first])) accepted
  have firstSeen : firstColumn record = (some 1, some 2) := congrArg Prod.snd seen
  rw [firstSeen] at columns
  exact absurd columns (by decide)

end CedarC.H265ParamSetRuns
