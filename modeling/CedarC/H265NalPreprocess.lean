import CedarC.EmulationPrevention
import CedarC.FixedWidth

/-!
# Preprocessing of an H265 NAL unit

`HevcGetPreprocessData` of `h265.c` copies a NAL unit out of the stream ring, in up to two pieces,
and moves its bytes over the emulation prevention bytes. The ring starts at address 0; behind its
end is memory that is not part of it.
-/

namespace CedarC.H265NalPreprocess

open EmulationPrevention FixedWidth List

def HEVC_LOCAL_SBM_BUF_SIZE : Nat := 512 * 1024
def HEVC_SLICE_HEADER_BYTES : Nat := 1024
def HEVC_EMULATION_CODE : Nat := 0x03
def HEVC_NAL_CRA_NUT : Nat := 21

inductive SbmType
  | SBM_TYPE_STREAM
  | SBM_TYPE_FRAME
deriving DecidableEq

/-- A NAL unit in the ring; the two fields of data trunks are those of the streams. -/
structure HevcStreamInfo where
  nType : SbmType
  pSbmBuf : Nat → UInt8
  nSbmBufSize : Nat
  pDataBuf : Nat
  nDataSize : Nat
  eNaluType : Nat
  bHasTwoDataTrunk : Bool
  FirstDataTrunkSize : Nat
  nLocalBufSize : Nat

def HevcStreamInfo.pSbmBufEnd (info : HevcStreamInfo) : Nat := info.nSbmBufSize - 1

def bTwoTrunk (info : HevcStreamInfo) : Bool :=
  match info.nType with
  | .SBM_TYPE_FRAME => decide (info.pDataBuf + info.nDataSize > info.pSbmBufEnd)
  | .SBM_TYPE_STREAM => info.bHasTwoDataTrunk

def copySize (info : HevcStreamInfo) : Nat :=
  let nSize :=
    if info.eNaluType ≤ HEVC_NAL_CRA_NUT then min info.nDataSize HEVC_SLICE_HEADER_BYTES
    else info.nDataSize
  if nSize > info.nLocalBufSize then info.nLocalBufSize else nSize

def firstPieceSize (info : HevcStreamInfo) : Nat :=
  match info.nType with
  | .SBM_TYPE_FRAME => info.pSbmBufEnd - info.pDataBuf
  | .SBM_TYPE_STREAM => info.FirstDataTrunkSize

/-- The address that a byte of the local buffer is copied from. -/
def copyAddress (info : HevcStreamInfo) (k : Nat) : Nat :=
  if bTwoTrunk info = true ∧ firstPieceSize info ≤ k then k - firstPieceSize info
  else info.pDataBuf + k

def copied (info : HevcStreamInfo) : List UInt8 :=
  (List.range (copySize info)).map fun k => info.pSbmBuf (copyAddress info k)

/-- `(nTemp << 8) | pData[i]`, where a `char` may have a sign. -/
def shiftIn (charSigned : Bool) (nTemp : Nat) (byte : UInt8) : Nat :=
  if charSigned = true ∧ 128 ≤ byte.toNat then 0xffffff00 + byte.toNat
  else nTemp * 256 % 2 ^ 32 + byte.toNat

/-- The variables of the scan; `EmulationCodeIdx` is the list of what is stored in it. -/
structure Scan where
  pData : Nat → UInt8
  nTemp : Nat
  nSkipped : Nat
  EmulationCodeIdx : List Int

def scanStep (charSigned : Bool) (scan : Scan) (i : Nat) : Scan :=
  let nTemp := shiftIn charSigned scan.nTemp (scan.pData i)
  if nTemp % 2 ^ 24 = HEVC_EMULATION_CODE then
    { scan with
      nTemp := nTemp
      nSkipped := scan.nSkipped + 1
      EmulationCodeIdx := scan.EmulationCodeIdx ++ [s16 i] }
  else
    { scan with
      nTemp := nTemp
      pData :=
        if scan.nSkipped > 0 then Function.update scan.pData (i - scan.nSkipped) (scan.pData i)
        else scan.pData }

/-- What is handed to the bit reader. -/
structure Preprocessed where
  ShByte : Nat → UInt8
  nShByteSize : Int
  EmulationCodeIdx : List Int

/-- `pLocalBuf` is what the local buffer had before. -/
def HevcGetPreprocessData (charSigned : Bool) (info : HevcStreamInfo) (pLocalBuf : Nat → UInt8) :
    Preprocessed :=
  let nSize := copySize info
  let pData := fun k => (copied info).getD k (pLocalBuf k)
  let scan := (List.range nSize).foldl (scanStep charSigned) ⟨pData, 0xffffffff, 0, []⟩
  ⟨scan.pData, s16 nSize, scan.EmulationCodeIdx⟩

def nalBytes (info : HevcStreamInfo) : List UInt8 :=
  (List.range info.nDataSize).map fun k =>
    info.pSbmBuf ((info.pDataBuf + k) % info.nSbmBufSize)

structure Placed (info : HevcStreamInfo) : Prop where
  starts : info.pDataBuf < info.nSbmBufSize
  fits : info.nDataSize ≤ info.nSbmBufSize

/-- The bit reader gets the payload of the NAL unit, and the bytes left out are on record. -/
structure PreprocessRight (info : HevcStreamInfo) (handed : Preprocessed) : Prop where
  bytes : ∀ k byte, (rbsp (nalBytes info))[k]? = some byte → handed.ShByte k = byte
  size : handed.nShByteSize = (rbsp (nalBytes info)).length
  record : handed.EmulationCodeIdx =
    (preventing 255 255 0 (nalBytes info)).map fun place : Nat => (place : Int)
  inside : handed.EmulationCodeIdx.length ≤ HEVC_SLICE_HEADER_BYTES

/-- The bytes that are not copied from their places are the same. With frames the piece at the
start of the ring stands one place too early, so that each of its bytes must repeat the one before
it, the first one the last byte of the ring. -/
def PiecesAgree (info : HevcStreamInfo) : Prop :=
  match info.nType with
  | .SBM_TYPE_FRAME =>
    ∀ k, info.pSbmBufEnd - info.pDataBuf + k < info.nDataSize →
      info.pSbmBuf k = info.pSbmBuf ((info.pSbmBufEnd + k) % info.nSbmBufSize)
  | .SBM_TYPE_STREAM =>
    if info.bHasTwoDataTrunk = true then
      (∀ k < info.nDataSize, k < info.FirstDataTrunkSize →
        info.pSbmBuf (info.pDataBuf + k) = info.pSbmBuf ((info.pDataBuf + k) % info.nSbmBufSize)) ∧
      ∀ k, info.FirstDataTrunkSize + k < info.nDataSize → info.pSbmBuf k = info.pSbmBuf
          ((info.pDataBuf + info.FirstDataTrunkSize + k) % info.nSbmBufSize)
    else ∀ k < info.nDataSize, info.pSbmBuf (info.pDataBuf + k) =
      info.pSbmBuf ((info.pDataBuf + k) % info.nSbmBufSize)

/-- What a NAL unit must be for its preprocessing to be right. -/
structure Preprocessable (info : HevcStreamInfo) : Prop where
  short : info.nDataSize < 2 ^ 15
  plain : ¬ [0, 0, 3] <:+: nalBytes info
  agree : PiecesAgree info

section Pieces

variable {info : HevcStreamInfo}

theorem two_pieces_iff (ring : Nat → UInt8) (start first length size : Nat) :
    (∀ k < length, ring (if first ≤ k then k - first else start + k) = ring ((start + k) % size)) ↔
      (∀ k < length, k < first → ring (start + k) = ring ((start + k) % size)) ∧
        ∀ k, first + k < length → ring k = ring ((start + first + k) % size) := by
  constructor
  · intro same
    constructor
    · intro k within before
      have here := same k within
      rw [if_neg (Nat.not_le_of_lt before)] at here
      exact here
    · intro k within
      have here := same (first + k) within
      rw [if_pos (Nat.le_add_right first k), Nat.add_sub_cancel_left, ← Nat.add_assoc] at here
      exact here
  · rintro ⟨front, behind⟩ k within
    by_cases past : first ≤ k
    · have here := behind (k - first) (by omega)
      rw [Nat.add_assoc, Nat.add_sub_cancel' past] at here
      rw [if_pos past]
      exact here
    · rw [if_neg past]
      exact front k within (by omega)

theorem pieces_agree_iff (placed : Placed info) :
    PiecesAgree info ↔ ∀ k < info.nDataSize, info.pSbmBuf (copyAddress info k) =
      info.pSbmBuf ((info.pDataBuf + k) % info.nSbmBufSize) := by
  have starts := placed.starts
  unfold PiecesAgree copyAddress bTwoTrunk firstPieceSize
  cases mode : info.nType with
  | SBM_TYPE_STREAM =>
    dsimp only
    by_cases two : info.bHasTwoDataTrunk = true
    · simp only [two, if_true, true_and]
      rw [two_pieces_iff]
    · simp only [Bool.eq_false_iff.mpr two, Bool.false_eq_true, false_and, if_false]
  | SBM_TYPE_FRAME =>
    unfold HevcStreamInfo.pSbmBufEnd
    simp only [decide_eq_true_iff]
    by_cases two : info.pDataBuf + info.nDataSize > info.nSbmBufSize - 1
    · have border : info.pDataBuf + (info.nSbmBufSize - 1 - info.pDataBuf) =
          info.nSbmBufSize - 1 := by omega
      simp only [two, true_and]
      rw [two_pieces_iff, border]
      apply (and_iff_right _).symm
      intro k _ before
      rw [Nat.mod_eq_of_lt (by omega)]
    · simp only [two, false_and, if_false]
      apply iff_of_true
      · intro k within
        omega
      · intro k within
        rw [Nat.mod_eq_of_lt (by omega)]

end Pieces

section Loop

variable {charSigned : Bool}

/-- The last two bytes that were shifted in, as far as the pattern looks at them. -/
def Window (nTemp : Nat) (before last : UInt8) : Prop :=
  nTemp % 256 = last.toNat ∧ (nTemp % 65536 = 0 ↔ before.toNat = 0 ∧ last.toNat = 0)

theorem prevents_iff (before last byte : UInt8) : prevents before last byte ↔
    before.toNat = 0 ∧ last.toNat = 0 ∧ byte.toNat = 3 := by
  unfold prevents
  rw [← UInt8.toNat_inj, ← UInt8.toNat_inj, ← UInt8.toNat_inj]
  rfl

theorem shift_window {nTemp : Nat} {before last : UInt8} (window : Window nTemp before last)
    (byte : UInt8) :
    Window (shiftIn charSigned nTemp byte) last byte ∧
      (shiftIn charSigned nTemp byte % 2 ^ 24 = HEVC_EMULATION_CODE ↔
        prevents before last byte) := by
  have small := byte.toNat_lt
  rcases window with ⟨low, both⟩
  rw [prevents_iff]
  unfold Window shiftIn HEVC_EMULATION_CODE
  split_ifs with negative
  · omega
  · omega

/-- The scan moves the bytes that it keeps together and records the others. -/
theorem scan_loop (rest : List UInt8) {place : Nat} {scan : Scan} {before last : UInt8}
    (window : Window scan.nTemp before last) (few : scan.nSkipped ≤ place)
    (ahead : ∀ k byte, rest[k]? = some byte → scan.pData (place + k) = byte) :
    (∀ j < place - scan.nSkipped, ((List.range' place rest.length).foldl
        (scanStep charSigned) scan).pData j = scan.pData j) ∧
      (∀ k byte, (kept before last rest)[k]? = some byte →
        ((List.range' place rest.length).foldl (scanStep charSigned) scan).pData
          (place - scan.nSkipped + k) = byte) ∧
      ((List.range' place rest.length).foldl (scanStep charSigned) scan).EmulationCodeIdx =
        scan.EmulationCodeIdx ++ (preventing before last place rest).map fun found : Nat => s16 found := by
  induction rest generalizing place scan before last with
  | nil =>
    refine ⟨fun j _ => rfl, ?_, ?_⟩
    · intro k byte entry
      simp [kept] at entry
    · simp [preventing]
  | cons byte rest ih =>
    have here : scan.pData place = byte := ahead 0 byte rfl
    have behind : ∀ k next, rest[k]? = some next → scan.pData (place + 1 + k) = next := by
      intro k next entry
      have later := ahead (k + 1) next entry
      rw [Nat.add_assoc, Nat.add_comm 1 k]
      exact later
    rcases @shift_window charSigned _ _ _ window byte with ⟨window', pattern⟩
    rw [length_cons, range'_succ, foldl_cons]
    unfold kept preventing
    by_cases found : prevents before last byte
    · have step : scanStep charSigned scan place =
          { scan with
            nTemp := shiftIn charSigned scan.nTemp byte
            nSkipped := scan.nSkipped + 1
            EmulationCodeIdx := scan.EmulationCodeIdx ++ [s16 place] } := by
        unfold scanStep
        dsimp only
        rw [here, if_pos (pattern.mpr found)]
      rw [if_pos found, if_pos found, step]
      rcases @ih (place + 1) { scan with
          nTemp := shiftIn charSigned scan.nTemp byte
          nSkipped := scan.nSkipped + 1
          EmulationCodeIdx := scan.EmulationCodeIdx ++ [s16 place] }
        last byte window' (Nat.succ_le_succ few) behind with ⟨front, moved, record⟩
      dsimp only at front moved record
      rw [Nat.add_sub_add_right] at front moved
      refine ⟨front, moved, ?_⟩
      rw [record, map_cons, append_assoc]
      rfl
    · have step : scanStep charSigned scan place =
          { scan with
            nTemp := shiftIn charSigned scan.nTemp byte
            pData := if scan.nSkipped > 0 then
              Function.update scan.pData (place - scan.nSkipped) byte else scan.pData } := by
        unfold scanStep
        dsimp only
        rw [here, if_neg fun all => found (pattern.mp all)]
      have written : (if scan.nSkipped > 0 then
          Function.update scan.pData (place - scan.nSkipped) byte else scan.pData)
          (place - scan.nSkipped) = byte := by
        split_ifs with moves
        · exact Function.update_self ..
        · have same : place - scan.nSkipped = place := by omega
          rw [same]
          exact here
      have others : ∀ j, j ≠ place - scan.nSkipped → (if scan.nSkipped > 0 then
          Function.update scan.pData (place - scan.nSkipped) byte else scan.pData) j =
            scan.pData j := by
        intro j apart
        split_ifs
        · exact Function.update_of_ne apart ..
        · rfl
      rw [if_neg found, if_neg found, step]
      rcases @ih (place + 1) { scan with
          nTemp := shiftIn charSigned scan.nTemp byte
          pData := if scan.nSkipped > 0 then
            Function.update scan.pData (place - scan.nSkipped) byte else scan.pData }
        last byte window' (Nat.le_succ_of_le few) (by
          intro k next entry
          dsimp only
          rw [others _ (by omega)]
          exact behind k next entry) with ⟨front, moved, record⟩
      dsimp only at front moved record
      have next : place + 1 - scan.nSkipped = place - scan.nSkipped + 1 := by omega
      rw [next] at front moved
      refine ⟨?_, ?_, record⟩
      · intro j below
        rw [front j (by omega), others j (by omega)]
      · intro k value entry
        cases k with
        | zero =>
          have first := front (place - scan.nSkipped) (Nat.lt_succ_self _)
          rw [written] at first
          rw [Nat.add_zero]
          exact first.trans (Option.some.inj entry)
        | succ k =>
          have later := moved k value entry
          rw [Nat.add_assoc, Nat.add_comm 1 k] at later
          exact later

end Loop

section Handing

variable {info : HevcStreamInfo} {charSigned : Bool} {pLocalBuf : Nat → UInt8}

theorem copied_length : (copied info).length = copySize info := by simp [copied]

theorem handed_copied (charSigned : Bool) (info : HevcStreamInfo) (pLocalBuf : Nat → UInt8) :
    (∀ k byte, (rbsp (copied info))[k]? = some byte →
      (HevcGetPreprocessData charSigned info pLocalBuf).ShByte k = byte) ∧
      (HevcGetPreprocessData charSigned info pLocalBuf).EmulationCodeIdx =
        (preventing 255 255 0 (copied info)).map fun place : Nat => s16 place := by
  have window : Window 0xffffffff 255 255 := by
    unfold Window
    decide
  rcases @scan_loop charSigned (copied info) 0
    ⟨fun k => (copied info).getD k (pLocalBuf k), 0xffffffff, 0, []⟩ 255 255 window
    (Nat.le_refl _) (by
      intro k byte entry
      dsimp only
      rw [Nat.zero_add, getD_eq_getElem?_getD, entry]
      rfl) with ⟨_, moved, record⟩
  rw [copied_length, ← range_eq_range'] at moved record
  rw [kept_rbsp] at moved
  simp only [Nat.sub_zero, Nat.zero_add, nil_append] at moved record
  exact ⟨moved, record⟩

theorem copy_size (other : HEVC_NAL_CRA_NUT < info.eNaluType) :
    copySize info = min info.nDataSize info.nLocalBufSize := by
  unfold copySize
  rw [if_neg (Nat.not_le_of_lt other)]
  dsimp only
  split_ifs <;> omega

theorem handed_size (other : HEVC_NAL_CRA_NUT < info.eNaluType) :
    (HevcGetPreprocessData charSigned info pLocalBuf).nShByteSize =
      s16 (min info.nDataSize info.nLocalBufSize : Nat) := by
  unfold HevcGetPreprocessData
  dsimp only
  rw [copy_size other]

theorem copied_agree (placed : Placed info) (other : HEVC_NAL_CRA_NUT < info.eNaluType)
    (room : info.nDataSize ≤ info.nLocalBufSize) :
    copied info = nalBytes info ↔ PiecesAgree info := by
  rw [pieces_agree_iff placed]
  unfold copied nalBytes
  rw [copy_size other, Nat.min_eq_left room, map_inj_left]
  simp only [mem_range]

theorem rbsp_plain {bytes : List UInt8} (plain : preventing 255 255 0 bytes = []) :
    rbsp bytes = bytes := by
  rw [← kept_rbsp]
  exact kept_all plain

theorem rbsp_half (bytes : List UInt8) : bytes.length ≤ 2 * (rbsp bytes).length := by
  induction bytes using rbsp.induct with
  | case1 first second third rest pattern ih =>
    unfold rbsp
    rw [if_pos pattern]
    simp only [length_cons]
    omega
  | case2 first second third rest plain ih =>
    unfold rbsp
    rw [if_neg plain]
    simp only [length_cons] at ih ⊢
    omega
  | case3 short other =>
    unfold rbsp
    split
    · rename_i first second third rest
      exact absurd rfl (other first second third rest)
    · omega

end Handing

variable {info : HevcStreamInfo} {charSigned : Bool} {pLocalBuf : Nat → UInt8}

theorem nal_length (info : HevcStreamInfo) : (nalBytes info).length = info.nDataSize := by
  simp [nalBytes]

theorem short_inside (room : info.nLocalBufSize = HEVC_LOCAL_SBM_BUF_SIZE)
    (short : info.nDataSize < 2 ^ 15) : info.nDataSize ≤ info.nLocalBufSize := by
  rw [room]
  unfold HEVC_LOCAL_SBM_BUF_SIZE
  omega

/-- With its emulation bytes a NAL unit is handed too, but not with the length of its payload. -/
theorem payload_in_front (placed : Placed info) (other : HEVC_NAL_CRA_NUT < info.eNaluType)
    (room : info.nDataSize ≤ info.nLocalBufSize) (agree : PiecesAgree info) :
    ∀ k byte, (rbsp (nalBytes info))[k]? = some byte →
      (HevcGetPreprocessData charSigned info pLocalBuf).ShByte k = byte := by
  rw [← (copied_agree placed other room).mpr agree]
  exact (handed_copied charSigned info pLocalBuf).1

/-- The length is that of the payload only for a short NAL unit without the pattern. -/
theorem size_right_iff (other : HEVC_NAL_CRA_NUT < info.eNaluType)
    (room : info.nLocalBufSize = HEVC_LOCAL_SBM_BUF_SIZE) :
    (HevcGetPreprocessData charSigned info pLocalBuf).nShByteSize = (rbsp (nalBytes info)).length ↔
      info.nDataSize < 2 ^ 15 ∧ ¬ [0, 0, 3] <:+: nalBytes info := by
  have half := rbsp_half (nalBytes info)
  have parts := rbsp_length (nalBytes info)
  rw [nal_length] at half parts
  rw [handed_size other, room, ← no_pattern_iff, ← length_eq_zero_iff]
  unfold s16 HEVC_LOCAL_SBM_BUF_SIZE
  constructor
  · intro same
    omega
  · rintro ⟨short, none⟩
    omega

/-- A NAL unit other than a slice is handed as its payload exactly where it is shorter than
`2 ^ 15` bytes, needs no emulation prevention, and its pieces agree. -/
theorem preprocess_right_iff (placed : Placed info) (other : HEVC_NAL_CRA_NUT < info.eNaluType)
    (room : info.nLocalBufSize = HEVC_LOCAL_SBM_BUF_SIZE) :
    PreprocessRight info (HevcGetPreprocessData charSigned info pLocalBuf) ↔
      Preprocessable info := by
  have parts := handed_copied charSigned info pLocalBuf
  constructor
  · intro right
    rcases (size_right_iff other room).mp right.size with ⟨short, plain⟩
    have inside := short_inside room short
    apply Preprocessable.mk short plain
    rw [← copied_agree placed other inside]
    have nothing := (no_pattern_iff _).mpr plain
    have record := right.record
    rw [parts.2, nothing, map_nil, map_eq_nil_iff] at record
    have handed := parts.1
    have wanted := right.bytes
    rw [rbsp_plain record] at handed
    rw [rbsp_plain nothing] at wanted
    apply ext_getElem
    · rw [copied_length, copy_size other, Nat.min_eq_left inside, nal_length]
    · intro k low high
      rw [← handed k _ (List.getElem?_eq_getElem low), ← wanted k _ (List.getElem?_eq_getElem high)]
  · intro able
    have nothing := (no_pattern_iff _).mpr able.plain
    have inside := short_inside room able.short
    have record := parts.2
    rw [(copied_agree placed other inside).mpr able.agree, nothing] at record
    constructor
    · exact payload_in_front placed other inside able.agree
    · exact (size_right_iff other room).mpr ⟨able.short, able.plain⟩
    · rw [record, nothing]
      simp
    · rw [record, map_nil, length_nil]
      apply Nat.zero_le

def paramSetInfo : HevcStreamInfo where
  nType := .SBM_TYPE_FRAME
  pSbmBuf := fun address => UInt8.ofNat (address + 1)
  nSbmBufSize := 8
  pDataBuf := 2
  nDataSize := 4
  eNaluType := 32
  bHasTwoDataTrunk := false
  FirstDataTrunkSize := 0
  nLocalBufSize := HEVC_LOCAL_SBM_BUF_SIZE

theorem param_set_right :
    PreprocessRight paramSetInfo (HevcGetPreprocessData false paramSetInfo fun _ => 0) ↔
      Preprocessable paramSetInfo :=
  preprocess_right_iff ⟨by decide, by decide⟩ (by decide) rfl

/-- The last byte of a NAL unit that ends with the ring is taken from the start of the ring, and
the length of one with an emulation byte counts that byte. -/
theorem ring_end_wrong : ¬ PreprocessRight { paramSetInfo with nDataSize := 6 }
        (HevcGetPreprocessData false { paramSetInfo with nDataSize := 6 } fun _ => 0) ∧
      ¬ PreprocessRight { paramSetInfo with pSbmBuf := fun address => if address = 4 then 3 else 0 }
        (HevcGetPreprocessData false
          { paramSetInfo with pSbmBuf := fun address => if address = 4 then 3 else 0 }
          fun _ => 0) := by
  constructor
  · intro right
    have last := right.bytes 5 8 (by decide)
    revert last
    decide
  · intro right
    have size := right.size
    revert size
    decide

end CedarC.H265NalPreprocess
