import CedarC.ByteReader
import CedarC.EmulationPrevention

/-!
# The extension of a picture parameter set

`H264DecodePps` reads the set with the bit reader. Beside it `H264GetVLCSymbol` finds the
length of each code again in a copy of the unit's bytes, for the position that
`H264CheckMoreRbspData` starts from.
-/

namespace CedarC.H264PpsExtension

open ByteReader EmulationPrevention H264 H264SpsReader List Option

section Source

/-- The bytes of a unit in `pBuffer`, with those behind it; the number that it is told to have;
whether a start code is looked for, as in a byte stream and in the codec specific data; and
what the bit reader brings behind the payload. -/
structure PpsUnit where
  pBuffer : Nat → UInt8
  sliceBytes : Nat
  searches : Bool
  behind : List UInt8

variable (unit : PpsUnit)

/-- The bytes up to a start code, or to the zero in front of it. -/
def PpsUnit.nByteCount : Nat :=
  if unit.searches then
    ((List.range (unit.sliceBytes + 1)).find? fun i =>
      unit.pBuffer i = 0 ∧ unit.pBuffer (i + 1) = 0 ∧ unit.pBuffer (i + 2) = 1).elim
      unit.sliceBytes fun i => if 0 < i ∧ unit.pBuffer (i - 1) = 0 then i - 1 else i
  else unit.sliceBytes

/-- The bytes behind the header, as in `pBuf`. -/
def PpsUnit.body : List UInt8 :=
  (List.range (unit.nByteCount - 1)).map fun place => unit.pBuffer (place + 1)

def PpsUnit.payload : List UInt8 := rbsp unit.body

def PpsUnit.stream : List UInt8 := unit.payload ++ unit.behind

/-- The loop of `H264DecodeRbspTraiLing`. -/
def trailingLoop : Nat → Nat → Nat → Nat
  | 0, _, _ => 8
  | turns + 1, r, v => if v % 2 = 1 then r else trailingLoop turns (r + 1) (v / 2)

def H264DecodeRbspTraiLing (byte : UInt8) : Nat := trailingLoop 8 1 byte.toNat

/-- A bit of `pBuf`, the highest of a byte with the number 7. -/
def ctrBit (byteoffset : Int) (bitoffset : Nat) : Bool :=
  (unit.pBuffer (byteoffset + 1).toNat).toNat.testBit bitoffset

/-- The loop that looks for the leading 1: its byte and the zeros before it. -/
def leadingOne : Nat → Int → Nat → Nat → Option (Int × Nat)
  | 0, _, _, _ => none
  | turns + 1, byteoffset, bitoffset, len =>
    if ctrBit unit byteoffset bitoffset then some (byteoffset, len)
    else if bitoffset = 0 then leadingOne turns (byteoffset + 1) 7 (len + 1)
    else leadingOne turns byteoffset (bitoffset - 1) (len + 1)

/-- The length of a code, or -1, with the number of bytes of `pBuf` up to the last one looked
at. -/
def H264GetVLCSymbol (turns : Nat) (nBitOffset nBytecount : Int) : Option (Int × Int) :=
  (leadingOne unit turns (nBitOffset / 8) (7 - (nBitOffset % 8).toNat) 0).map fun found =>
    if nBytecount < found.1 + (found.2 + 7) / 8 then (-1, found.1 + 1)
    else (1 + 2 * found.2, (nBitOffset + 2 * found.2) / 8 + 1)

/-- The loop over `cnt`, from the bit below the given one on. -/
def laterOne (curByte : Nat) : Nat → Bool
  | 0 => false
  | bitoffset + 1 => curByte.testBit bitoffset || laterOne curByte bitoffset

def H264CheckMoreRbspData (totbitoffset : Int) (nTrialBits : Nat) (bytecount : Int) : Bool :=
  let byteoffset := totbitoffset / 8
  let bitoffset := 7 - (totbitoffset % 8).toNat
  let bytecount := bytecount - (nTrialBits / 8 : Nat)
  if bytecount ≤ byteoffset then false
  else if byteoffset < bytecount - 1 then true
  else if ctrBit unit byteoffset bitoffset = false then true
  else laterOne (unit.pBuffer (byteoffset + 1).toNat).toNat bitoffset

structure PpsElements extends PpsSyntax where
  entropy_coding_mode_flag : Bool
  pic_order_present_flag : Bool
  weighted_pred_flag : Bool
  weighted_bipred_idc : UInt32
  pic_init_qp_minus26 : Int32
  chroma_qp_index_offset : Int32
  deblocking_filter_control_present_flag : Bool
  constrained_intra_pred_flag : Bool
  redundant_pic_cnt_present_flag : Bool
  second_chroma_qp_index_offset : Option Int32

/-- The place of the bit reader, `nBitOffset`, and how far `pBuf` has been looked at. -/
structure Position where
  place : Nat
  nBitOffset : Int
  looked : Int

def reading {Value : Type} (read : StateM Nat Value) : StateT Position Option Value :=
  fun position => some ((read position.place).1, { position with place := (read position.place).2 })

/-- `H264GetVLCSymbol` with what is added to `nBitOffset`. -/
def follow (turns : Nat) : StateT Position Option Unit :=
  fun position =>
    (H264GetVLCSymbol unit turns position.nBitOffset ((unit.nByteCount : Int) - 1)).map
      fun used => ((), { position with
        nBitOffset := position.nBitOffset + used.1
        looked := max position.looked used.2 })

def looking (looked : Int) : StateT Position Option Unit :=
  fun position => some ((), { position with looked := max position.looked looked })

def followBits (count : Nat) : StateT Position Option Unit :=
  fun position => some ((), { position with nBitOffset := position.nBitOffset + count })

/-- The lists of `H264DecodeScalingMatrices` for a picture parameter set. -/
def readPicMatrix (bTransform8x8Mode : Bool) :
    StateM Nat (Option ScalingMatrixSyntax) := do
  if ← GetFlag (byteReader unit.stream) then
    let intraY ← readScalingList (byteReader unit.stream) 16
    let intraCr ← readScalingList (byteReader unit.stream) 16
    let intraCb ← readScalingList (byteReader unit.stream) 16
    let interY ← readScalingList (byteReader unit.stream) 16
    let interCr ← readScalingList (byteReader unit.stream) 16
    let interCb ← readScalingList (byteReader unit.stream) 16
    let intra8 ← if bTransform8x8Mode then readScalingList (byteReader unit.stream) 64
      else pure none
    let inter8 ← if bTransform8x8Mode then readScalingList (byteReader unit.stream) 64
      else pure none
    return some ![intraY, intraCr, intraCb, interY, interCr, interCb, intra8, inter8]
  else return none

def readExtension : StateM Nat (PpsExtension × Int32) := do
  let bTransform8x8Mode ← GetFlag (byteReader unit.stream)
  let matrix ← readPicMatrix unit bTransform8x8Mode
  let offset ← GetSeGolomb (byteReader unit.stream)
  return (⟨bTransform8x8Mode, matrix⟩, offset)

def extensionFollows (pSps : SpsInfo) (nBitOffset : Int) : Bool :=
  let nTriLingBits := H264DecodeRbspTraiLing (unit.pBuffer (unit.nByteCount - 1))
  let nByteCount := (unit.nByteCount : Int) - 1
  if nByteCount * 8 ≤ nBitOffset + nTriLingBits then false
  else if judgeMoreRbspData pSps then
    H264CheckMoreRbspData unit nBitOffset nTriLingBits nByteCount
  else false

/-- The number of bytes of `pBuf` up to the last one that the three tests look at. -/
def extensionLooks (pSps : SpsInfo) (nBitOffset : Int) : Int :=
  let nTriLingBits := H264DecodeRbspTraiLing (unit.pBuffer (unit.nByteCount - 1))
  let nByteCount := (unit.nByteCount : Int) - 1
  if nByteCount * 8 ≤ nBitOffset + nTriLingBits then nByteCount
  else if judgeMoreRbspData pSps then max nByteCount (nBitOffset / 8 + 1)
  else nByteCount

/-- The elements from the reference counts on, with the extension where it follows. -/
def readRest (turns : Nat) (pSps : SpsInfo) (head : PpsElements) :
    StateT Position Option PpsElements := do
  let weighted ← reading (GetFlag (byteReader unit.stream))
  let bipred ← reading (GetBits (byteReader unit.stream) 2)
  followBits 3
  let qp ← reading (GetSeGolomb (byteReader unit.stream))
  follow unit turns
  let _ ← reading (GetSeGolomb (byteReader unit.stream))
  follow unit turns
  let chroma ← reading (GetSeGolomb (byteReader unit.stream))
  follow unit turns
  let deblocking ← reading (GetFlag (byteReader unit.stream))
  let constrained ← reading (GetFlag (byteReader unit.stream))
  let redundant ← reading (GetFlag (byteReader unit.stream))
  followBits 3
  let head := { head with
    weighted_pred_flag := weighted
    weighted_bipred_idc := bipred
    pic_init_qp_minus26 := qp
    chroma_qp_index_offset := chroma
    deblocking_filter_control_present_flag := deblocking
    constrained_intra_pred_flag := constrained
    redundant_pic_cnt_present_flag := redundant }
  let nBitOffset := (← get).nBitOffset
  looking (extensionLooks unit pSps nBitOffset)
  if extensionFollows unit pSps nBitOffset then
    let extension ← reading (readExtension unit)
    return { head with
      extension := some extension.1
      second_chroma_qp_index_offset := some extension.2 }
  else return head

/-- What is known of a set when its two identities have been read. -/
def headElements (nPpsId nSpsId : Nat) : PpsElements where
  pic_parameter_set_id := nPpsId
  seq_parameter_set_id := nSpsId
  num_slice_groups_minus1 := 0
  num_ref_idx_l0_active_minus1 := 0
  num_ref_idx_l1_active_minus1 := 0
  extension := none
  entropy_coding_mode_flag := false
  pic_order_present_flag := false
  weighted_pred_flag := false
  weighted_bipred_idc := 0
  pic_init_qp_minus26 := 0
  chroma_qp_index_offset := 0
  deblocking_filter_control_present_flag := false
  constrained_intra_pred_flag := false
  redundant_pic_cnt_present_flag := false
  second_chroma_qp_index_offset := none

/-- The elements from the second code on, for the sequence parameter set of the identity. -/
def readCounts (turns : Nat) (pSps : SpsInfo) (head : PpsElements) :
    StateT Position Option (Option PpsElements) := do
  follow unit turns
  let cabac ← reading (GetFlag (byteReader unit.stream))
  let order ← reading (GetFlag (byteReader unit.stream))
  followBits 2
  let groups ← reading (GetUeGolomb (byteReader unit.stream))
  follow unit turns
  if groups + 1 > 1 then return none
  else
    let count0 ← reading (GetUeGolomb (byteReader unit.stream))
    follow unit turns
    let count1 ← reading (GetUeGolomb (byteReader unit.stream))
    follow unit turns
    if count0 + 1 > 32 ∨ count1 + 1 > 32 then return none
    else
      let elements ← readRest unit turns pSps { head with
        num_slice_groups_minus1 := groups
        num_ref_idx_l0_active_minus1 := count0
        num_ref_idx_l1_active_minus1 := count1
        entropy_coding_mode_flag := cabac
        pic_order_present_flag := order }
      return some elements

/-- `H264DecodePps`: the elements where it does not refuse the set. -/
def H264DecodePps (turns : Nat) (pSpsBuffers : Nat → Option SpsInfo) :
    StateT Position Option (Option PpsElements) := do
  let nPpsId ← reading (GetUeGolomb (byteReader unit.stream))
  follow unit turns
  let nSpsId ← reading (GetUeGolomb (byteReader unit.stream))
  if MAX_PPS_COUNT ≤ nPpsId.toNat ∨ MAX_SPS_COUNT ≤ nSpsId.toNat then return none
  else
    (pSpsBuffers nSpsId.toNat).elim (pure none) fun pSps =>
      readCounts unit turns pSps (headElements nPpsId.toNat nSpsId.toNat)

def startPosition : Position := ⟨0, 0, 0⟩

end Source

/-- The elements in front of the extension. -/
inductive Field
  | code
  | bits (count : Nat)

def ppsFields : List Field :=
  [.code, .code, .bits 2, .code, .code, .code, .bits 3, .code, .code, .code, .bits 3]

def fieldsEnd (bytes : List UInt8) : Nat → List Field → Nat
  | place, [] => place
  | place, .code :: fields => fieldsEnd bytes (place + (2 * zerosAt bytes place + 1)) fields
  | place, .bits count :: fields => fieldsEnd bytes (place + count) fields

/-- `more_rbsp_data()`: there is something in front of the last bit that is 1. -/
def moreRbspData (bytes : List UInt8) (place : Nat) : Prop :=
  ∃ stop < 8 * bytes.length, place < stop ∧ bitAt bytes stop = true

def laterInByte (bytes : List UInt8) (place : Nat) : Prop :=
  ∃ stop < 8 * (place / 8 + 1), place < stop ∧ bitAt bytes stop = true

def lastInByte (bytes : List UInt8) (place : Nat) : Prop :=
  place / 8 + 2 = bytes.length ∧ bitAt bytes place = true ∧ ¬ laterInByte bytes place

def endByte (bytes : List UInt8) : UInt8 := bytes.getD (bytes.length - 1) 0

/-- A stop bit that is a byte of its own does not come behind a single 1 of the byte before; a
zero byte comes behind something more, or behind a stop bit in the byte before, or is all that is
left. -/
structure TailRegular (unit : PpsUnit) (place : Nat) : Prop where
  full : endByte unit.body = 128 → ¬ lastInByte unit.body place
  zero : endByte unit.body = 0 → moreRbspData unit.payload place ∨
    8 * (unit.body.length - 1) ≤ place ∨ lastInByte unit.body place

/-- The fields end inside the payload; the bytes left out of it come behind the byte of the place
where they end, and the last byte is none of them; the tail is regular. -/
structure SetRegular (unit : PpsUnit) : Prop where
  fits : fieldsEnd unit.payload 0 ppsFields ≤ 8 * unit.payload.length
  apart : ∀ left ∈ preventing 255 255 0 unit.body,
    fieldsEnd unit.payload 0 ppsFields < 8 * left ∧ left + 1 < unit.body.length
  tail : TailRegular unit (fieldsEnd unit.payload 0 ppsFields)

section Runs

variable {State First Second : Type}

/-- A run that comes to its end, with what holds of its result and its state. -/
def Runs (action : StateT State Option First) (state : State) (post : First → State → Prop) :
    Prop :=
  ∃ value next, action state = some (value, next) ∧ post value next

variable {state : State} {post : Second → State → Prop}

theorem runs_pure {value : First} {post : First → State → Prop}
    (holds : post value state) : Runs (pure value) state post :=
  ⟨value, state, rfl, holds⟩

theorem runs_bind {first : StateT State Option First} {second : First → StateT State Option Second}
    {middle : First → State → Prop} (start : Runs first state middle)
    (rest : ∀ value next, middle value next → Runs (second value) next post) :
    Runs (first >>= second) state post := by
  rcases start with ⟨value, next, step, between⟩
  rcases rest value next between with ⟨result, last, further, holds⟩
  have whole : (first >>= second) state = (first state).bind fun pair => second pair.1 pair.2 := rfl
  apply Exists.intro result
  apply Exists.intro last
  rw [whole, step]
  exact ⟨further, holds⟩

theorem runs_get {second : State → StateT State Option Second}
    (rest : Runs (second state) state post) :
    Runs (get >>= second) state post := rest

end Runs

section Scan

variable (unit : PpsUnit)

theorem body_length : unit.body.length = unit.nByteCount - 1 := by
  rw [PpsUnit.body, length_map, length_range]

theorem body_byte {place : Nat} (inside : place < unit.body.length) :
    unit.body.getD place 0 = unit.pBuffer (place + 1) := by
  rw [body_length] at inside
  have found : unit.body[place]? = some (unit.pBuffer (place + 1)) := by
    rw [PpsUnit.body, List.getElem?_map, List.getElem?_range inside, map_some]
  rw [getD_eq_getElem?_getD, found, getD_some]

theorem ctr_bit_body {place : Nat} (inside : place < 8 * unit.body.length) :
    ctrBit unit (place / 8 : Nat) (7 - place % 8) = bitAt unit.body place := by
  have byte : place / 8 < unit.body.length := by omega
  have next : (((place / 8 : Nat) : Int) + 1).toNat = place / 8 + 1 := by omega
  unfold ctrBit bitAt
  rw [next, body_byte unit byte]

theorem leading_one_found {zeros place turns len : Nat}
    (found : zerosAt unit.body place = zeros) (inside : place + zeros < 8 * unit.body.length)
    (enough : zeros < turns) :
    leadingOne unit turns (place / 8 : Nat) (7 - place % 8) len =
      some ((((place + zeros) / 8 : Nat) : Int), len + zeros) := by
  induction zeros generalizing place turns len with
  | zero =>
    cases turns with
    | zero => omega
    | succ turns =>
      rw [Nat.add_zero] at inside
      have bit : bitAt unit.body place = true := by
        by_contra other
        rw [zeros_at_step, if_pos ⟨inside, eq_false_of_ne_true other⟩] at found
        omega
      unfold leadingOne
      rw [ctr_bit_body unit inside, if_pos bit]
      rfl
  | succ zeros later =>
    cases turns with
    | zero => omega
    | succ turns =>
      have here : place < 8 * unit.body.length ∧ bitAt unit.body place = false := by
        by_contra other
        rw [zeros_at_step, if_neg other] at found
        omega
      rw [zeros_at_step, if_pos here] at found
      have further := @later (place + 1) turns (len + 1) (Nat.succ.inj found) (by omega)
        (by omega)
      have total : place + 1 + zeros = place + (zeros + 1) := by omega
      have count : len + 1 + zeros = len + (zeros + 1) := by omega
      rw [total, count] at further
      have dark : ¬ bitAt unit.body place = true := by
        rw [here.2]
        exact Bool.false_ne_true
      unfold leadingOne
      rw [ctr_bit_body unit here.1, if_neg dark]
      by_cases last : 7 - place % 8 = 0
      · have byte : (place + 1) / 8 = place / 8 + 1 := by omega
        have high : 7 - (place + 1) % 8 = 7 := by omega
        rw [byte, high] at further
        rw [if_pos last]
        exact further
      · have byte : (place + 1) / 8 = place / 8 := by omega
        have lower : 7 - (place + 1) % 8 = 7 - place % 8 - 1 := by omega
        rw [byte, lower] at further
        rw [if_neg last]
        exact further

theorem vlc_symbol_found {place turns : Nat}
    (inside : place + (2 * zerosAt unit.body place + 1) ≤ 8 * unit.body.length)
    (enough : 8 * unit.body.length ≤ turns) :
    H264GetVLCSymbol unit turns place ((unit.nByteCount : Int) - 1) =
      some (((2 * zerosAt unit.body place + 1 : Nat) : Int),
        (((place + 2 * zerosAt unit.body place) / 8 + 1 : Nat) : Int)) := by
  have size := body_length unit
  have byte : ((place : Int) / 8) = (place / 8 : Nat) := by omega
  have bit : ((place : Int) % 8).toNat = place % 8 := by omega
  have found := @leading_one_found unit _ place turns 0 rfl (by omega) (by omega)
  have fits : ¬ (unit.nByteCount : Int) - 1 < ((place + zerosAt unit.body place) / 8 : Nat) +
        ((0 + zerosAt unit.body place + 7) / 8 : Nat) := by
    omega
  unfold H264GetVLCSymbol
  rw [byte, bit, found, map_some]
  dsimp only
  rw [if_neg (by exact_mod_cast fits)]
  apply congrArg some
  apply Prod.ext
  · dsimp only
    omega
  · dsimp only
    omega

theorem rbsp_trailing_spec (byte : UInt8) :
    (H264DecodeRbspTraiLing byte < 8 ∧ 0 < H264DecodeRbspTraiLing byte ∧
      byte.toNat.testBit (H264DecodeRbspTraiLing byte - 1) = true ∧
      ∀ bit < H264DecodeRbspTraiLing byte - 1, byte.toNat.testBit bit = false) ∨
    (H264DecodeRbspTraiLing byte = 8 ∧ (byte = 128 ∨ byte = 0)) := by
  have all : ∀ value : Fin 256, (trailingLoop 8 1 value < 8 ∧ 0 < trailingLoop 8 1 value ∧
        value.val.testBit (trailingLoop 8 1 value - 1) = true ∧
        ∀ bit < trailingLoop 8 1 value - 1, value.val.testBit bit = false) ∨
      (trailingLoop 8 1 value = 8 ∧ (value = 128 ∨ value = 0)) := by
    decide +kernel
  rcases all ⟨byte.toNat, byte.toNat_lt⟩ with short | whole
  · exact Or.inl short
  · apply Or.inr
    apply And.intro whole.1
    rcases whole.2 with high | zero
    · exact Or.inl (UInt8.toNat_inj.mp (congrArg Fin.val high))
    · exact Or.inr (UInt8.toNat_inj.mp (congrArg Fin.val zero))

theorem later_one_iff (curByte bitoffset : Nat) :
    laterOne curByte bitoffset = true ↔ ∃ bit < bitoffset, curByte.testBit bit = true := by
  induction bitoffset with
  | zero =>
    apply iff_of_false Bool.false_ne_true
    rintro ⟨bit, bound, _⟩
    exact absurd bound (Nat.not_lt_zero bit)
  | succ bitoffset before =>
    unfold laterOne
    rw [Bool.or_eq_true, before]
    constructor
    · rintro (here | ⟨bit, bound, found⟩)
      · exact ⟨bitoffset, Nat.lt_succ_self _, here⟩
      · exact ⟨bit, Nat.lt_succ_of_lt bound, found⟩
    · rintro ⟨bit, bound, found⟩
      rcases Nat.lt_succ_iff_lt_or_eq.mp bound with lower | rfl
      · exact Or.inr ⟨bit, lower, found⟩
      · exact Or.inl found

variable {place : Nat} {bytes : List UInt8}

theorem later_one_in_byte (inside : place < 8 * unit.body.length) :
    laterOne (unit.pBuffer (place / 8 + 1)).toNat (7 - place % 8) = true ↔
      laterInByte unit.body place := by
  have byte : place / 8 < unit.body.length := by omega
  rw [later_one_iff, ← body_byte unit byte]
  constructor
  · rintro ⟨bit, bound, found⟩
    have same : (8 * (place / 8) + (7 - bit)) / 8 = place / 8 := by omega
    have back : 7 - (8 * (place / 8) + (7 - bit)) % 8 = bit := by omega
    refine ⟨8 * (place / 8) + (7 - bit), by omega, by omega, ?_⟩
    unfold bitAt
    rw [same, back]
    exact found
  · rintro ⟨stop, bound, later, found⟩
    have same : stop / 8 = place / 8 := by omega
    unfold bitAt at found
    rw [same] at found
    exact ⟨7 - stop % 8, by omega, found⟩

theorem check_more_iff {count nTrialBits : Nat} (told : count + nTrialBits / 8 = unit.body.length) :
    H264CheckMoreRbspData unit place nTrialBits unit.body.length = true ↔ place < 8 * count ∧
        (place / 8 + 1 = count → bitAt unit.body place = true → laterInByte unit.body place) := by
  have byte : ((place : Int) / 8) = (place / 8 : Nat) := by omega
  have bit : ((place : Int) % 8).toNat = place % 8 := by omega
  have left : (unit.body.length : Int) - (nTrialBits / 8 : Nat) = count := by omega
  have next : (((place / 8 : Nat) : Int) + 1).toNat = place / 8 + 1 := by omega
  unfold H264CheckMoreRbspData
  dsimp only
  rw [byte, bit, left, next]
  by_cases behind : (count : Int) ≤ (place / 8 : Nat)
  · rw [if_pos behind]
    apply iff_of_false Bool.false_ne_true
    intro both
    omega
  · have here : place < 8 * unit.body.length := by omega
    rw [if_neg behind, ctr_bit_body unit here]
    by_cases before : ((place / 8 : Nat) : Int) < (count : Int) - 1
    · rw [if_pos before]
      apply iff_of_true rfl
      apply And.intro (by omega)
      intro last
      omega
    · rw [if_neg before]
      have last : place / 8 + 1 = count := by omega
      by_cases zero : bitAt unit.body place = false
      · rw [if_pos zero]
        apply iff_of_true rfl
        apply And.intro (by omega)
        intro _ one
        rw [zero] at one
        exact absurd one Bool.false_ne_true
      · rw [if_neg zero, later_one_in_byte unit here]
        constructor
        · intro later
          exact ⟨by omega, fun _ _ => later⟩
        · intro both
          exact both.2 last (eq_true_of_ne_false zero)

theorem more_rbsp_data_iff {last : Nat} (bit : bitAt bytes last = true)
    (inside : last < 8 * bytes.length)
    (zeros : ∀ stop < 8 * bytes.length, last < stop → bitAt bytes stop = false) (place : Nat) :
    moreRbspData bytes place ↔ place < last := by
  constructor
  · rintro ⟨stop, bound, later, one⟩
    by_contra behind
    rw [zeros stop bound (by omega)] at one
    exact Bool.false_ne_true one
  · intro before
    exact ⟨last, inside, before, bit⟩

theorem extension_follows_iff_check (pSps : SpsInfo) (place : Nat) (filled : unit.body ≠ []) :
    extensionFollows unit pSps place = true ↔
      place + H264DecodeRbspTraiLing (endByte unit.body) < 8 * unit.body.length ∧
        judgeMoreRbspData pSps = true ∧
        H264CheckMoreRbspData unit place (H264DecodeRbspTraiLing (endByte unit.body))
          unit.body.length = true := by
  have some := length_pos_of_ne_nil filled
  have size := body_length unit
  have count : (unit.nByteCount : Int) - 1 = unit.body.length := by omega
  have place_last : unit.body.length - 1 + 1 = unit.nByteCount - 1 := by omega
  have last : unit.pBuffer (unit.nByteCount - 1) = endByte unit.body := by
    rw [endByte, body_byte unit (by omega), place_last]
  unfold extensionFollows
  dsimp only
  rw [last, count]
  by_cases behind : (unit.body.length : Int) * 8 ≤
      place + (H264DecodeRbspTraiLing (endByte unit.body) : Nat)
  · rw [if_pos behind]
    apply iff_of_false Bool.false_ne_true
    intro all
    omega
  · rw [if_neg behind]
    have before : place + H264DecodeRbspTraiLing (endByte unit.body) < 8 * unit.body.length := by
      omega
    rw [and_iff_right before]
    cases judgeMoreRbspData pSps with
    | false =>
      apply iff_of_false Bool.false_ne_true
      exact fun both => Bool.false_ne_true both.1
    | true =>
      rw [if_pos rfl, and_iff_right rfl]

theorem end_bit {stop : Nat} (low : 8 * (bytes.length - 1) ≤ stop)
    (high : stop < 8 * bytes.length) :
    bitAt bytes stop = (endByte bytes).toNat.testBit (7 - stop % 8) := by
  have byte : stop / 8 = bytes.length - 1 := by omega
  rw [bitAt, byte, endByte]

variable {unit}

theorem check_more_short {place : Nat} (filled : unit.body ≠ [])
    (short : H264DecodeRbspTraiLing (endByte unit.body) < 8)
    (long : 0 < H264DecodeRbspTraiLing (endByte unit.body)) (one : (endByte unit.body).toNat.testBit
      (H264DecodeRbspTraiLing (endByte unit.body) - 1) = true)
    (zeros : ∀ bit < H264DecodeRbspTraiLing (endByte unit.body) - 1,
      (endByte unit.body).toNat.testBit bit = false) :
    (moreRbspData unit.body place ↔
      place + H264DecodeRbspTraiLing (endByte unit.body) < 8 * unit.body.length) ∧
    (moreRbspData unit.body place →
      H264CheckMoreRbspData unit place (H264DecodeRbspTraiLing (endByte unit.body))
        unit.body.length = true) := by
  generalize H264DecodeRbspTraiLing (endByte unit.body) = bits at short long one zeros ⊢
  have some := length_pos_of_ne_nil filled
  have place_bit : 7 - (8 * unit.body.length - bits) % 8 = bits - 1 := by omega
  have bit : bitAt unit.body (8 * unit.body.length - bits) = true := by
    rw [end_bit (by omega) (by omega), place_bit]
    exact one
  have tail : ∀ stop < 8 * unit.body.length, 8 * unit.body.length - bits < stop →
      bitAt unit.body stop = false := by
    intro stop bound later
    rw [end_bit (by omega) bound]
    exact zeros _ (by omega)
  have more := more_rbsp_data_iff bit (by omega) tail place
  have told : unit.body.length + bits / 8 = unit.body.length := by omega
  rw [check_more_iff unit told, more]
  constructor
  · omega
  · intro before
    apply And.intro (by omega)
    intro last _
    exact ⟨8 * unit.body.length - bits, by omega, before, bit⟩

theorem check_more_full (filled : unit.body ≠ []) (high : endByte unit.body = 128)
    (regular : ¬ lastInByte unit.body place) :
    (moreRbspData unit.body place ↔ place + 8 < 8 * unit.body.length) ∧
    (moreRbspData unit.body place →
      H264CheckMoreRbspData unit place 8 unit.body.length = true) := by
  have some := length_pos_of_ne_nil filled
  have low : 7 - 8 * (unit.body.length - 1) % 8 = 7 := by omega
  have bit : bitAt unit.body (8 * (unit.body.length - 1)) = true := by
    rw [end_bit (Nat.le_refl _) (by omega), high, low]
    decide
  have lower : ∀ bit < 7, (128 : UInt8).toNat.testBit bit = false := by decide
  have tail : ∀ stop < 8 * unit.body.length, 8 * (unit.body.length - 1) < stop →
      bitAt unit.body stop = false := by
    intro stop bound later
    rw [end_bit (by omega) bound, high]
    exact lower _ (by omega)
  have more := more_rbsp_data_iff bit (by omega) tail place
  have told : unit.body.length - 1 + 8 / 8 = unit.body.length := by omega
  rw [check_more_iff unit told, more]
  constructor
  · omega
  · intro before
    apply And.intro before
    intro last one
    by_contra none
    exact regular ⟨by omega, one, none⟩

theorem check_more_zero (filled : unit.body ≠ []) (zero : endByte unit.body = 0)
    (regular : moreRbspData unit.body place ∨ 8 * (unit.body.length - 1) ≤ place ∨
      lastInByte unit.body place) :
    moreRbspData unit.body place ↔ place + 8 < 8 * unit.body.length ∧
      H264CheckMoreRbspData unit place 8 unit.body.length = true := by
  have some := length_pos_of_ne_nil filled
  have told : unit.body.length - 1 + 8 / 8 = unit.body.length := by omega
  rw [check_more_iff unit told]
  constructor
  · rintro ⟨stop, bound, later, bit⟩
    have inside : stop < 8 * (unit.body.length - 1) := by
      by_contra tail
      rw [end_bit (by omega) bound, zero] at bit
      exact Bool.false_ne_true ((Nat.zero_testBit _).symm.trans bit)
    refine ⟨by omega, by omega, ?_⟩
    intro last _
    exact ⟨stop, by omega, later, bit⟩
  · rintro ⟨before, _, check⟩
    rcases regular with more | behind | last
    · exact more
    · omega
    · have byte : place / 8 + 1 = unit.body.length - 1 := by
        have count := last.1
        omega
      exact absurd (check byte last.2.1) last.2.2

theorem extension_follows_plain (pSps : SpsInfo) (filled : unit.body ≠ [])
    (plain : unit.payload = unit.body) (regular : TailRegular unit place) :
    extensionFollows unit pSps place = true ↔
      moreRbspData unit.payload place ∧ judgeMoreRbspData pSps = true := by
  have zeroed := regular.zero
  rw [plain] at zeroed ⊢
  rw [extension_follows_iff_check unit pSps place filled]
  rcases rbsp_trailing_spec (endByte unit.body) with ⟨short, long, one, zeros⟩ | ⟨whole, kinds⟩
  · rcases @check_more_short unit place filled short long one zeros with ⟨more, check⟩
    rw [← more]
    exact ⟨fun all => ⟨all.1, all.2.1⟩, fun both => ⟨both.1, both.2, check both.1⟩⟩
  · rw [whole]
    rcases kinds with high | zero
    · rcases check_more_full filled high (regular.full high) with ⟨more, check⟩
      rw [← more]
      exact ⟨fun all => ⟨all.1, all.2.1⟩, fun both => ⟨both.1, both.2, check both.1⟩⟩
    · rw [check_more_zero filled zero (zeroed zero), and_assoc]
      exact and_congr_right fun _ => and_comm

theorem end_byte_last (bytes : List UInt8) : endByte bytes = bytes.getLast?.getD 0 := by
  rw [endByte, getD_eq_getElem?_getD, List.getLast?_eq_getElem?]

theorem more_of_end (behind : place < 8 * (bytes.length - 1))
    (other : endByte bytes ≠ 0) : moreRbspData bytes place := by
  have one : ∃ bit < 8, (endByte bytes).toNat.testBit bit = true := by
    rcases rbsp_trailing_spec (endByte bytes) with short | ⟨_, high | zero⟩
    · exact ⟨_, by omega, short.2.2.1⟩
    · rw [high]
      exact ⟨7, by decide, by decide⟩
    · exact absurd zero other
  rcases one with ⟨bit, bound, one⟩
  have low : 7 - (8 * (bytes.length - 1) + (7 - bit)) % 8 = bit := by omega
  refine ⟨8 * (bytes.length - 1) + (7 - bit), by omega, by omega, ?_⟩
  rw [end_bit (by omega) (by omega), low]
  exact one

variable (unit) in
theorem payload_le : unit.payload.length ≤ unit.body.length := by
  have parts := rbsp_length unit.body
  rw [PpsUnit.payload]
  omega

theorem payload_plain (none : preventing 255 255 0 unit.body = []) : unit.payload = unit.body := by
  rw [PpsUnit.payload, ← kept_rbsp]
  exact kept_all none

/-- Bytes left out behind a place change no bit up to the end of its byte, nor the last byte. -/
theorem payload_parts (apart : ∀ left ∈ preventing 255 255 0 unit.body,
      place < 8 * left ∧ left + 1 < unit.body.length) :
    ∃ rest, unit.payload = unit.body.take (place / 8 + 1) ++ rest ∧
      rest.getLast? = (unit.body.drop (place / 8 + 1)).getLast? := by
  rw [PpsUnit.payload, ← kept_rbsp]
  apply kept_parts
  intro left member
  have bounds := apart left member
  omega

theorem extension_follows_left {pSps : SpsInfo} {left : Nat}
    (apart : ∀ left ∈ preventing 255 255 0 unit.body,
      place < 8 * left ∧ left + 1 < unit.body.length)
    (member : left ∈ preventing 255 255 0 unit.body) (regular : TailRegular unit place) :
    extensionFollows unit pSps place = true ↔
      moreRbspData unit.payload place ∧ judgeMoreRbspData pSps = true := by
  have bounds := apart left member
  have filled : unit.body ≠ [] := by
    intro none
    rw [none, length_nil] at bounds
    omega
  have behind : H264DecodeRbspTraiLing (endByte unit.body) ≤ 8 := by
    rcases rbsp_trailing_spec (endByte unit.body) with short | whole
    · exact Nat.le_of_lt short.1
    · exact Nat.le_of_eq whole.1
  have told : unit.body.length - H264DecodeRbspTraiLing (endByte unit.body) / 8 +
      H264DecodeRbspTraiLing (endByte unit.body) / 8 = unit.body.length := by
    omega
  have more : moreRbspData unit.payload place := by
    by_cases zero : endByte unit.body = 0
    · rcases regular.zero zero with more | behind | last
      · exact more
      · omega
      · have byte := last.1
        omega
    · rcases payload_parts apart with ⟨rest, parts, ends⟩
      have behind : ¬ unit.body.length ≤ place / 8 + 1 := by omega
      have size : (unit.body.take (place / 8 + 1)).length = place / 8 + 1 := by
        rw [length_take]
        omega
      rw [List.getLast?_drop, if_neg behind] at ends
      have last : unit.payload.getLast? = unit.body.getLast? := by
        rw [parts, List.getLast?_append, ends, List.getLast?_eq_some_getLast filled]
        rfl
      have some : rest ≠ [] := by
        intro none
        rw [none, List.getLast?_nil] at ends
        exact filled (List.getLast?_eq_none_iff.mp ends.symm)
      have count := length_pos_of_ne_nil some
      apply more_of_end
      · rw [parts, length_append, size]
        omega
      · rw [end_byte_last, last, ← end_byte_last]
        exact zero
  rw [extension_follows_iff_check unit pSps place filled, check_more_iff unit told]
  constructor
  · rintro ⟨_, judged, _⟩
    exact ⟨more, judged⟩
  · rintro ⟨_, judged⟩
    refine ⟨by omega, judged, by omega, ?_⟩
    intro last
    omega

/-- The three tests find what the standard asks for, but for the profile. -/
theorem extension_follows_iff (pSps : SpsInfo) (filled : unit.body ≠ [])
    (apart : ∀ left ∈ preventing 255 255 0 unit.body,
      place < 8 * left ∧ left + 1 < unit.body.length) (regular : TailRegular unit place) :
    extensionFollows unit pSps place = true ↔
      moreRbspData unit.payload place ∧ judgeMoreRbspData pSps = true := by
  by_cases none : preventing 255 255 0 unit.body = []
  · exact extension_follows_plain pSps filled (payload_plain none) regular
  · rcases exists_mem_of_ne_nil _ none with ⟨left, member⟩
    exact extension_follows_left apart member regular

theorem payload_agrees (apart : ∀ left ∈ preventing 255 255 0 unit.body,
      place < 8 * left ∧ left + 1 < unit.body.length) :
    ∀ before < place, bitAt unit.body before = bitAt unit.payload before := by
  intro before bound
  by_cases none : preventing 255 255 0 unit.body = []
  · rw [payload_plain none]
  · rcases exists_mem_of_ne_nil _ none with ⟨left, member⟩
    rcases payload_parts apart with ⟨rest, parts, _⟩
    have bounds := apart left member
    have size : (unit.body.take (place / 8 + 1)).length = place / 8 + 1 := by
      rw [length_take]
      omega
    have whole : unit.body = unit.body.take (place / 8 + 1) ++ unit.body.drop (place / 8 + 1) :=
      (take_append_drop _ _).symm
    rw [parts, bit_at_append _ _ (by omega)]
    conv_lhs => rw [whole]
    rw [bit_at_append _ _ (by omega)]

end Scan

section Walk

variable {unit : PpsUnit}

def ReadsCode {Value : Type} (unit : PpsUnit) (read : StateM Nat Value) : Prop :=
  ∀ place, (read place).2 = place + (2 * zerosAt unit.stream place + 1)

def ReadsBits {Value : Type} (count : Nat) (read : StateM Nat Value) : Prop :=
  ∀ place, (read place).2 = place + count

/-- `nBitOffset` is at a place of the body, the bit reader some bits ahead of it, and the fields
left end at a stop. -/
structure Stands (unit : PpsUnit) (stop ahead : Nat) (fields : List Field) (start : Nat)
    (position : Position) : Prop where
  place : position.place = start + ahead
  followed : position.nBitOffset = start
  inside : position.looked ≤ unit.body.length
  ending : fieldsEnd unit.payload (start + ahead) fields = stop

theorem le_fields_end (bytes : List UInt8) (place : Nat) (fields : List Field) :
    place ≤ fieldsEnd bytes place fields := by
  induction fields generalizing place with
  | nil => exact Nat.le_refl _
  | cons field fields later =>
    cases field with
    | code | bits count => exact Nat.le_trans (Nat.le_add_right _ _) (later _)

variable {position : Position} {stop start count : Nat} {fields : List Field} {Value : Type}

theorem code_le (stands : Stands unit stop 0 (.code :: fields) start position) :
    start + (2 * zerosAt unit.payload start + 1) ≤ stop := by
  rw [← stands.ending]
  exact le_fields_end _ _ _

theorem runs_code
    {read : StateM Nat Value} (fits : stop ≤ 8 * unit.payload.length) (code : ReadsCode unit read)
    (stands : Stands unit stop 0 (.code :: fields) start position) :
    Runs (reading read) position fun _ next =>
      Stands unit stop (2 * zerosAt unit.payload start + 1) fields start next := by
  have place : position.place = start := stands.place
  have bound := code_le stands
  have whole : 8 * unit.payload.length ≤ 8 * unit.stream.length := by
    rw [PpsUnit.stream, length_append]
    omega
  have zeros : zerosAt unit.stream start = zerosAt unit.payload start :=
    zeros_at_agree unit.payload (fun place inside => bit_at_append _ _ inside) (Nat.le_refl _)
      whole rfl (by omega)
  apply Exists.intro (read position.place).1
  apply Exists.intro { position with place := (read position.place).2 }
  apply And.intro rfl
  constructor
  · change (read position.place).2 = _
    rw [code, place, zeros]
  · exact stands.followed
  · exact stands.inside
  · exact stands.ending

theorem runs_follow {turns : Nat}
    (fits : stop ≤ 8 * unit.payload.length) (enough : 8 * unit.body.length ≤ turns)
    (agree : ∀ place < stop, bitAt unit.body place = bitAt unit.payload place)
    (stands : Stands unit stop (2 * zerosAt unit.payload start + 1) fields start position) :
    Runs (follow unit turns) position fun _ next =>
      Stands unit stop 0 fields (start + (2 * zerosAt unit.payload start + 1)) next := by
  have bound : start + (2 * zerosAt unit.payload start + 1) ≤ stop := by
    rw [← stands.ending]
    exact le_fields_end _ _ _
  have size := payload_le unit
  have zeros : zerosAt unit.body start = zerosAt unit.payload start :=
    zeros_at_agree unit.payload agree fits (by omega) rfl (by omega)
  have found := @vlc_symbol_found unit start turns (by omega) enough
  have step : follow unit turns position = (H264GetVLCSymbol unit turns position.nBitOffset
      ((unit.nByteCount : Int) - 1)).map fun used => ((), { position with
        nBitOffset := position.nBitOffset + used.1
        looked := max position.looked used.2 }) := rfl
  rw [stands.followed, found, map_some, zeros] at step
  apply Exists.intro ()
  apply Exists.intro
  apply And.intro step
  constructor
  · exact stands.place
  · exact (Int.natCast_add _ _).symm
  · have inside := stands.inside
    dsimp only
    omega
  · exact stands.ending

theorem runs_bits {ahead left : Nat} {read : StateM Nat Value} (bits : ReadsBits count read)
    (stands : Stands unit stop ahead (.bits (left + count) :: fields) start position) :
    Runs (reading read) position fun _ next =>
      Stands unit stop (ahead + count) (.bits left :: fields) start next := by
  have total : start + ahead + (left + count) = start + (ahead + count) + left := by omega
  apply Exists.intro (read position.place).1
  apply Exists.intro { position with place := (read position.place).2 }
  apply And.intro rfl
  constructor
  · change (read position.place).2 = _
    rw [bits, stands.place, Nat.add_assoc]
  · exact stands.followed
  · exact stands.inside
  · rw [← stands.ending]
    unfold fieldsEnd
    rw [total]

theorem runs_follow_bits (stands : Stands unit stop count (.bits 0 :: fields) start position) :
    Runs (followBits count) position fun _ next =>
      Stands unit stop 0 fields (start + count) next := by
  apply Exists.intro ()
  apply Exists.intro { position with nBitOffset := position.nBitOffset + count }
  apply And.intro rfl
  constructor
  · exact stands.place
  · dsimp only
    rw [stands.followed, Int.natCast_add]
  · exact stands.inside
  · exact stands.ending

theorem runs_looking {looked bound : Int} (before : position.looked ≤ bound)
    (here : looked ≤ bound) :
    Runs (looking looked) position fun _ next => next.looked ≤ bound :=
  ⟨(), _, rfl, max_le before here⟩

end Walk

variable {unit : PpsUnit}

theorem flag_bits : ReadsBits 1 (GetFlag (byteReader unit.stream)) := fun _ => rfl

theorem two_bits : ReadsBits 2 (GetBits (byteReader unit.stream) 2) := fun _ => rfl

theorem ue_code : ReadsCode unit (GetUeGolomb (byteReader unit.stream)) := fun _ => rfl

theorem se_code : ReadsCode unit (GetSeGolomb (byteReader unit.stream)) := fun _ => rfl

variable (unit) in
theorem extension_looks_le (pSps : SpsInfo) (nBitOffset : Int) :
    extensionLooks unit pSps nBitOffset ≤ (unit.nByteCount : Int) - 1 := by
  have some : 0 < H264DecodeRbspTraiLing (unit.pBuffer (unit.nByteCount - 1)) := by
    rcases rbsp_trailing_spec (unit.pBuffer (unit.nByteCount - 1)) with short | whole
    · exact short.2.1
    · rw [whole.1]
      decide
  unfold extensionLooks
  dsimp only
  split_ifs with behind judged
  · exact Int.le_refl _
  · apply max_le (Int.le_refl _)
    omega
  · exact Int.le_refl _

variable {stop turns start : Nat} {pSps : SpsInfo} {head : PpsElements} {position : Position}

theorem rest_runs (filled : unit.body ≠ []) (fits : stop ≤ 8 * unit.payload.length)
    (enough : 8 * unit.body.length ≤ turns) (apart : ∀ left ∈ preventing 255 255 0 unit.body,
      stop < 8 * left ∧ left + 1 < unit.body.length) (regular : TailRegular unit stop)
    (bare : head.extension = none)
    (stands : Stands unit stop 0 [.bits 3, .code, .code, .code, .bits 3] start position) :
    Runs (readRest unit turns pSps head) position fun elements next =>
      next.looked ≤ unit.body.length ∧ elements.seq_parameter_set_id = head.seq_parameter_set_id ∧
        (elements.extension.isSome = true ↔
          moreRbspData unit.payload stop ∧ judgeMoreRbspData pSps = true) := by
  have agree := payload_agrees apart
  unfold readRest
  apply runs_bind (runs_bits flag_bits stands)
  intro weighted position stands
  apply runs_bind (runs_bits two_bits stands)
  intro bipred position stands
  apply runs_bind (runs_follow_bits stands)
  intro _ position stands
  apply runs_bind (runs_code fits se_code stands)
  intro qp position stands
  apply runs_bind (runs_follow fits enough agree stands)
  intro _ position stands
  apply runs_bind (runs_code fits se_code stands)
  intro _ position stands
  apply runs_bind (runs_follow fits enough agree stands)
  intro _ position stands
  apply runs_bind (runs_code fits se_code stands)
  intro chroma position stands
  apply runs_bind (runs_follow fits enough agree stands)
  intro _ position stands
  apply runs_bind (runs_bits flag_bits stands)
  intro deblocking position stands
  apply runs_bind (runs_bits flag_bits stands)
  intro constrained position stands
  apply runs_bind (runs_bits flag_bits stands)
  intro redundant position stands
  apply runs_bind (runs_follow_bits stands)
  intro _ position stands
  have place : position.nBitOffset = stop := by
    rw [stands.followed]
    exact congrArg Int.ofNat stands.ending
  apply runs_get
  have looks := extension_looks_le unit pSps position.nBitOffset
  have tests := extension_follows_iff pSps filled apart regular
  rw [← place] at tests
  have size := length_pos_of_ne_nil filled
  have count := body_length unit
  apply runs_bind (runs_looking stands.inside (by omega))
  intro _ position inside
  rw [← tests]
  cases extensionFollows unit pSps _ with
  | false =>
    apply runs_pure
    refine ⟨inside, rfl, ?_⟩
    dsimp only
    rw [bare]
    exact iff_of_false Bool.false_ne_true Bool.false_ne_true
  | true =>
    refine ⟨_, _, rfl, inside, rfl, iff_of_true rfl rfl⟩

theorem counts_runs (filled : unit.body ≠ []) (fits : stop ≤ 8 * unit.payload.length)
    (enough : 8 * unit.body.length ≤ turns) (apart : ∀ left ∈ preventing 255 255 0 unit.body,
      stop < 8 * left ∧ left + 1 < unit.body.length) (regular : TailRegular unit stop)
    (bare : head.extension = none)
    (stands : Stands unit stop (2 * zerosAt unit.payload start + 1) (ppsFields.drop 2) start
      position) :
    Runs (readCounts unit turns pSps head) position fun result next =>
      next.looked ≤ unit.body.length ∧ ∀ elements, result = some elements →
        elements.seq_parameter_set_id = head.seq_parameter_set_id ∧
        (elements.extension.isSome = true ↔
          moreRbspData unit.payload stop ∧ judgeMoreRbspData pSps = true) := by
  have agree := payload_agrees apart
  unfold readCounts
  apply runs_bind (runs_follow fits enough agree stands)
  intro _ position stands
  apply runs_bind (runs_bits flag_bits stands)
  intro cabac position stands
  apply runs_bind (runs_bits flag_bits stands)
  intro order position stands
  apply runs_bind (runs_follow_bits stands)
  intro _ position stands
  apply runs_bind (runs_code fits ue_code stands)
  intro groups position stands
  apply runs_bind (runs_follow fits enough agree stands)
  intro _ position stands
  by_cases several : groups + 1 > 1
  · rw [if_pos several]
    apply runs_pure
    exact ⟨stands.inside, fun _ none => (nomatch none)⟩
  · rw [if_neg several]
    apply runs_bind (runs_code fits ue_code stands)
    intro count0 position stands
    apply runs_bind (runs_follow fits enough agree stands)
    intro _ position stands
    apply runs_bind (runs_code fits ue_code stands)
    intro count1 position stands
    apply runs_bind (runs_follow fits enough agree stands)
    intro _ position stands
    by_cases many : count0 + 1 > 32 ∨ count1 + 1 > 32
    · rw [if_pos many]
      apply runs_pure
      exact ⟨stands.inside, fun _ none => (nomatch none)⟩
    · rw [if_neg many]
      refine runs_bind (rest_runs filled fits enough apart regular ?_ stands) ?_
      · exact bare
      · intro elements position done
        apply runs_pure
        apply And.intro done.1
        intro other same
        rw [← Option.some.inj same]
        exact done.2

theorem decode_runs (pSpsBuffers : Nat → Option SpsInfo)
    (ends : fieldsEnd unit.payload 0 ppsFields = stop) (fits : stop ≤ 8 * unit.payload.length)
    (enough : 8 * unit.body.length ≤ turns) (apart : ∀ left ∈ preventing 255 255 0 unit.body,
      stop < 8 * left ∧ left + 1 < unit.body.length) (regular : TailRegular unit stop) :
    Runs (H264DecodePps unit turns pSpsBuffers) startPosition fun result next =>
      next.looked ≤ unit.body.length ∧ ∀ elements, result = some elements →
        ∃ pSps, pSpsBuffers elements.seq_parameter_set_id = some pSps ∧
          (elements.extension.isSome = true ↔
            moreRbspData unit.payload stop ∧ judgeMoreRbspData pSps = true) := by
  have stands : Stands unit stop 0 ppsFields 0 startPosition :=
    ⟨rfl, rfl, Int.natCast_nonneg _, ends⟩
  have filled : unit.body ≠ [] := by
    intro none
    have code := code_le stands
    have size := payload_le unit
    rw [none, length_nil] at size
    omega
  have agree := payload_agrees apart
  unfold H264DecodePps
  apply runs_bind (runs_code fits ue_code stands)
  intro nPpsId position stands
  apply runs_bind (runs_follow fits enough agree stands)
  intro _ position stands
  apply runs_bind (runs_code fits ue_code stands)
  intro nSpsId position stands
  by_cases wrong : MAX_PPS_COUNT ≤ nPpsId.toNat ∨ MAX_SPS_COUNT ≤ nSpsId.toNat
  · rw [if_pos wrong]
    apply runs_pure
    exact ⟨stands.inside, fun _ none => (nomatch none)⟩
  · rw [if_neg wrong]
    cases found : pSpsBuffers nSpsId.toNat with
    | none =>
      apply runs_pure
      exact ⟨stands.inside, fun _ none => (nomatch none)⟩
    | some pSps =>
      rw [elim_some]
      have bare : (headElements nPpsId.toNat nSpsId.toNat).extension = none := rfl
      rcases counts_runs filled fits enough apart regular bare stands with
        ⟨result, next, run, inside, read⟩
      refine ⟨result, next, run, inside, ?_⟩
      intro elements same
      rcases read elements same with ⟨name, follows⟩
      rw [name]
      exact ⟨pSps, found, follows⟩

/-- The tests look at no byte behind a unit. Where a set is regular, nothing does, and the
extension is read where there is more and the profile allows it. -/
theorem extension_read_iff (unit : PpsUnit) (pSpsBuffers : Nat → Option SpsInfo) (turns : Nat) :
    (∀ pSps nBitOffset, extensionLooks unit pSps nBitOffset ≤ (unit.nByteCount : Int) - 1) ∧
    (SetRegular unit → 8 * unit.body.length ≤ turns → ∃ result position,
        H264DecodePps unit turns pSpsBuffers startPosition = some (result, position) ∧
        position.looked ≤ unit.body.length ∧
        ∀ elements, result = some elements →
          ∃ pSps, pSpsBuffers elements.seq_parameter_set_id = some pSps ∧
            (elements.extension.isSome = true ↔
              moreRbspData unit.payload (fieldsEnd unit.payload 0 ppsFields) ∧
                judgeMoreRbspData pSps = true)) := by
  constructor
  · exact extension_looks_le unit
  · intro regular enough
    exact decode_runs pSpsBuffers rfl regular.fits enough regular.apart regular.tail

def plainUnit (bytes : List UInt8) : PpsUnit where
  pBuffer place := bytes.getD place 0
  sliceBytes := bytes.length
  searches := false
  behind := []

def flagUnit : PpsUnit := plainUnit [0x68, 0xEE, 0x3C, 0xB0]

def profileSps (profile_idc : Nat) (constraint_set_flags : UInt8) : SpsInfo :=
  SpsSyntax.info
    { profile_idc := profile_idc
      constraint_set_flags := constraint_set_flags
      seq_parameter_set_id := 0
      chroma_format_idc := 1
      scaling_matrix := none
      pic_order_cnt_type := 0
      num_ref_frames_in_pic_order_cnt_cycle := 0
      num_ref_frames := 1
      pic_width_in_mbs_minus1 := 10
      pic_height_in_map_units_minus1 := 8
      frame_mbs_only_flag := true
      mb_adaptive_frame_field_flag := false
      frame_cropping := none }

theorem flag_unit_regular : SetRegular flagUnit where
  fits := by decide
  apart := by decide
  tail := by
    have ends : endByte flagUnit.body = 0xB0 := by decide
    constructor
    · intro full
      rw [ends] at full
      exact absurd full (by decide)
    · intro zero
      rw [ends] at zero
      exact absurd zero (by decide)

theorem flag_unit_read : ∃ result position,
      H264DecodePps flagUnit 24 (fun _ => some (profileSps 100 0)) startPosition =
        some (result, position) ∧
      position.looked ≤ flagUnit.body.length ∧
      ∀ elements, result = some elements → ∃ pSps, some (profileSps 100 0) = some pSps ∧
          (elements.extension.isSome = true ↔
            moreRbspData flagUnit.payload (fieldsEnd flagUnit.payload 0 ppsFields) ∧
              judgeMoreRbspData pSps = true) :=
  (extension_read_iff flagUnit (fun _ => some (profileSps 100 0)) 24).2 flag_unit_regular
    (by decide)

/-- Whether a set that is not refused has got an extension, and how far its bytes have been
looked at. -/
def outcome (unit : PpsUnit) (turns : Nat) (pSps : SpsInfo) : Option (Option Bool × Int) :=
  (H264DecodePps unit turns (fun _ => some pSps) startPosition).map fun done =>
    (done.1.map fun elements => elements.extension.isSome, done.2.looked)

example : outcome flagUnit 24 (profileSps 100 0) = some (some true, 3) := by decide

def zeroUnit : PpsUnit where
  pBuffer place := [0x68, 0xEE, 0x20, 0, 0, 0, 0, 0x80].getD place 0
  sliceBytes := 5
  searches := false
  behind := []

/-- An extension that a Baseline profile with a constraint flag leaves out; one that is found in
two trailing zero bytes; a code that is looked for behind the unit. -/
theorem extension_left_out :
    (moreRbspData flagUnit.payload (fieldsEnd flagUnit.payload 0 ppsFields) ∧
      outcome flagUnit 24 (profileSps 66 1) = some (some false, 3)) ∧
    (¬ moreRbspData (plainUnit [0x68, 0xEE, 0x3C, 0x80, 0, 0]).payload
        (fieldsEnd (plainUnit [0x68, 0xEE, 0x3C, 0x80, 0, 0]).payload 0 ppsFields) ∧
      outcome (plainUnit [0x68, 0xEE, 0x3C, 0x80, 0, 0]) 40 (profileSps 100 0) =
        some (some true, 5)) ∧
    (outcome zeroUnit 100 (profileSps 100 0)).map (fun done => decide (done.2 ≤ 4)) =
      some false := by
  have flag : fieldsEnd flagUnit.payload 0 ppsFields = 16 := by decide
  have tail : fieldsEnd (plainUnit [0x68, 0xEE, 0x3C, 0x80, 0, 0]).payload 0 ppsFields = 16 := by
    decide
  rw [flag, tail]
  refine ⟨⟨⟨19, ?_, ?_, ?_⟩, ?_⟩, ⟨?_, ?_⟩, ?_⟩
  · decide
  · decide
  · decide
  · decide
  · have zeros : ∀ stop < 8 * (plainUnit [0x68, 0xEE, 0x3C, 0x80, 0, 0]).payload.length,
        16 < stop → bitAt (plainUnit [0x68, 0xEE, 0x3C, 0x80, 0, 0]).payload stop = false := by
      decide
    rintro ⟨stop, bound, later, one⟩
    rw [zeros stop bound later] at one
    exact Bool.false_ne_true one
  · decide
  · decide

end CedarC.H264PpsExtension
