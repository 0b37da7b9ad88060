import CedarC.FixedWidth
import CedarC.StartCodes

/-!
# The codec specific data

`H264ProcessExtraData2` copies the codec specific data to a buffer of
`H264VDEC_MAX_EXTRA_DATA_LEN` bytes, finds the units in the original and hands the parsers the
copy of each.
-/

namespace CedarC.H264ExtraData

open FixedWidth StartCodes List Option

section Source

def H264VDEC_MAX_EXTRA_DATA_LEN : Nat := 1024

/-- The data with the memory behind it, and what lies behind the copy. -/
structure CodecSpecificData where
  pCodecSpecificData : Nat → UInt8
  nCodecSpecificDataLen : Nat
  behindBuffer : Nat → UInt8

variable (data : CodecSpecificData)

def pExtraDataBuf (place : Nat) : UInt8 :=
  if place < data.nCodecSpecificDataLen then data.pCodecSpecificData place
  else if place < H264VDEC_MAX_EXTRA_DATA_LEN then 0
  else data.behindBuffer place

/-- How far `CdcMemSet` and `CdcMemWrite` write to the buffer. -/
def bytesWritten : Nat := max H264VDEC_MAX_EXTRA_DATA_LEN data.nCodecSpecificDataLen

section Units

variable {State : Type} (parse : State → UInt8 → List UInt8 → Int × State)

/-- The units handed to the parsers so far, how far the data has been read, the place of the
next byte, the state of the decoder and the last result. -/
structure Run (State : Type) where
  handed : List (List UInt8)
  reads : Nat
  place : Nat
  state : State
  nRet : Int

def Run.look {State : Type} (run : Run State) (place : Nat) : Run State :=
  { run with reads := max run.reads (place + 1) }

def Run.onward {State : Type} (run : Run State) : Run State :=
  { run.look run.place with place := run.place + 1 }

def NAL_SPS : UInt8 := 7

def NAL_PPS : UInt8 := 8

/-- `H264DecodeExtraDataNalu`: the two parsers, and nothing for other units. -/
def H264DecodeExtraDataNalu (run : Run State) (nal_unit_type : UInt8) (unit : List UInt8) :
    Run State :=
  if nal_unit_type = NAL_SPS ∨ nal_unit_type = NAL_PPS then
    { run with
      handed := run.handed ++ [unit]
      state := (parse run.state nal_unit_type unit).2
      nRet := (parse run.state nal_unit_type unit).1 }
  else { run with nRet := 0 }

def handUnit (run : Run State) (start nalSize : Nat) : Run State :=
  let run := run.look start
  { H264DecodeExtraDataNalu parse run (data.pCodecSpecificData start % 32)
      ((List.range nalSize).map fun place => pExtraDataBuf data (start + place)) with
    place := start + nalSize }

/-- `AV_RB16` and the unit behind it. -/
def sizedTurn (run : Run State) : Run State :=
  let nalSize := (data.pCodecSpecificData run.place).toNat * 256 +
    (data.pCodecSpecificData (run.place + 1)).toNat
  handUnit data parse ((run.look run.place).look (run.place + 1)) (run.place + 2) nalSize

/-- The loop over `cnt`. -/
def sizedLoop : Nat → Run State → Run State
  | 0, run => run
  | cnt + 1, run =>
    let next := sizedTurn data parse run
    if next.nRet ≠ 0 then next else sizedLoop cnt next

/-- A byte taken as an `s8`; no turn is made for a negative one. -/
def turnsOf (byte : UInt8) : Nat := if byte.toNat < 128 then byte.toNat else 0

def sizedPasses : Nat → Nat → Run State → Run State
  | 0, _, run => run
  | passes + 1, cnt, run =>
    let next := sizedLoop data parse cnt run
    if next.nRet ≠ 0 then next
    else
      sizedPasses passes (turnsOf (data.pCodecSpecificData next.place)) next.onward

/-- The loop of `H264ParseExtraDataSearchNaluSize`: the index that it stops at. Of `nTemp` only
the last three bytes are looked at. -/
def searchCode : Int → Nat → List UInt8 → Option Nat
  | _, _, [] => none
  | nTemp, i, byte :: rest =>
    if (nTemp * 256 + byte.toNat) % 2 ^ 24 = 0x000001 then some i
    else searchCode (nTemp * 256 + byte.toNat) (i + 1) rest

/-- The length of the unit that the bytes start with, or -1. -/
def H264ParseExtraDataSearchNaluSize (bytes : List UInt8) : Int :=
  (searchCode (-1) 0 bytes).elim (-1) fun i => (i : Int) - 3

def searchReads (bytes : List UInt8) : Nat :=
  (searchCode (-1) 0 bytes).elim bytes.length fun i => i + 1

def bytesFrom (place : Nat) : List UInt8 :=
  (List.range' place (data.nCodecSpecificDataLen - place)).map data.pCodecSpecificData

def codedTurn (run : Run State) : Run State :=
  let nNaluLen := H264ParseExtraDataSearchNaluSize (bytesFrom data run.place)
  let nalSize :=
    if nNaluLen < 0 then data.nCodecSpecificDataLen - run.place else nNaluLen.toNat
  handUnit data parse
    { run with
      reads := max run.reads (run.place + searchReads (bytesFrom data run.place)) }
    run.place nalSize

/-- The loop over `i`; `nTemp` holds the last bytes. -/
def codedLoop : Nat → Int → Run State → Run State
  | 0, _, run => run
  | turns + 1, nTemp, run =>
    if run.place < data.nCodecSpecificDataLen then
      let nTemp := nTemp * 256 + (data.pCodecSpecificData run.place).toNat
      let run := run.onward
      if nTemp % 2 ^ 24 = 0x000001 then
        let next := codedTurn data parse run
        if next.nRet ≠ 0 then next else codedLoop turns nTemp next
      else codedLoop turns nTemp run
    else run

/-- `H264ProcessExtraData2` where there is a buffer. -/
def H264ProcessExtraData2 (state : State) : Run State :=
  let run : Run State := ⟨[], 1, 0, state, 0⟩
  if data.pCodecSpecificData 0 = 1 then
    sizedPasses data parse 2 (data.pCodecSpecificData 5 % 32).toNat
      { run.look 5 with place := 6 }
  else codedLoop data parse data.nCodecSpecificDataLen (-1) run

end Units

end Source

section Property

def isParameterSet (unit : List UInt8) : Bool :=
  unit.head?.any fun byte => byte % 32 = NAL_SPS ∨ byte % 32 = NAL_PPS

def sizedUnit : List UInt8 → Option (List UInt8 × List UInt8)
  | high :: low :: rest =>
    if high.toNat * 256 + low.toNat ≤ rest.length then
      some (rest.take (high.toNat * 256 + low.toNat), rest.drop (high.toNat * 256 + low.toNat))
    else none
  | _ => none

def sizedUnits (others : List UInt8 → List (List UInt8)) : Nat → List UInt8 → List (List UInt8)
  | 0, bytes => others bytes
  | count + 1, bytes =>
    (sizedUnit bytes).elim [] fun first => first.1 :: sizedUnits others count first.2

def secondList : List UInt8 → List (List UInt8)
  | [] => []
  | count :: rest => sizedUnits (fun _ => []) count.toNat rest

def recordUnits (bytes : List UInt8) : List (List UInt8) :=
  if 6 ≤ bytes.length then
    sizedUnits secondList (bytes.getD 5 0 % 32).toNat (bytes.drop 6)
  else []

/-- The parameter sets that the data holds: those of a record, which starts with 1, or those
of a byte stream. -/
def parameterSets (bytes : List UInt8) : List (List UInt8) :=
  if bytes.head? = some 1 then (recordUnits bytes).filter isParameterSet
  else ((cut bytes).2.map trimmed).filter isParameterSet

variable {State : Type} (parse : State → UInt8 → List UInt8 → Int × State)

def parsed (state : State) (unit : List UInt8) : Int × State := parse state (unit.headD 0 % 32) unit

def untilRefused : State → List (List UInt8) → List (List UInt8)
  | _, [] => []
  | state, unit :: units =>
    unit ::
      if (parsed parse state unit).1 ≠ 0 then []
      else untilRefused (parsed parse state unit).2 units

/-- The parsers get the parameter sets in their order, up to the first one refused; no byte
outside the data is read, and none outside the buffer written. -/
structure HandsParameterSets (data : CodecSpecificData) (state : State) : Prop where
  handed : (H264ProcessExtraData2 data parse state).handed =
    untilRefused parse state (parameterSets (bytesFrom data 0))
  inside : (H264ProcessExtraData2 data parse state).reads ≤ data.nCodecSpecificDataLen
  written : bytesWritten data ≤ H264VDEC_MAX_EXTRA_DATA_LEN

/-- Units of a byte stream that are handed right: a parameter set that another unit follows has
one zero behind it, the last one none; no unit is empty, except that an empty one may be
followed by units that are no parameter sets. -/
def CodedWell : State → List (List UInt8) → Prop
  | _, [] => True
  | state, unit :: units =>
    if unit = [] then units ≠ [] ∧ ∀ later ∈ units, isParameterSet later = false
    else if isParameterSet unit then
      unit = trimmed unit ++ (if units = [] then [] else [0]) ∧
      ((parsed parse state (trimmed unit)).1 = 0 →
        CodedWell (parsed parse state (trimmed unit)).2 units)
    else CodedWell state units

/-- Units of a record that are handed right: each is all there; behind an empty one there is a
byte, and not one of a parameter set's type. -/
def SizedWell (others : State → List UInt8 → Prop) : Nat → State → List UInt8 → Prop
  | 0, state, bytes => others state bytes
  | count + 1, state, bytes =>
    ∃ unit rest, sizedUnit bytes = some (unit, rest) ∧
      (unit = [] → rest ≠ [] ∧ isParameterSet rest = false) ∧
      if isParameterSet unit then
        (parsed parse state unit).1 = 0 → SizedWell others count (parsed parse state unit).2 rest
      else SizedWell others count state rest

/-- The second list has no more than 127 units, or none of parameter sets, and a byte behind
it. -/
def SecondWell (state : State) (bytes : List UInt8) : Prop :=
  ∃ count rest, bytes = count :: rest ∧
    if count.toNat < 128 then
      SizedWell parse (fun _ behind => behind ≠ []) count.toNat state rest
    else rest ≠ [] ∧ ∀ unit ∈ secondList bytes, isParameterSet unit = false

/-- The data for which the parameter sets are handed right. -/
structure WellFormed (bytes : List UInt8) (state : State) : Prop where
  fits : bytes.length ≤ H264VDEC_MAX_EXTRA_DATA_LEN
  filled : bytes ≠ []
  record : bytes.head? = some 1 → 6 ≤ bytes.length ∧
    SizedWell parse (SecondWell parse) (bytes.getD 5 0 % 32).toNat state (bytes.drop 6)
  stream : bytes.head? ≠ some 1 → CodedWell parse state (cut bytes).2

end Property

section Bytes

variable (data : CodecSpecificData) {place : Nat}

theorem bytes_from_end (done : data.nCodecSpecificDataLen ≤ place) : bytesFrom data place = [] := by
  unfold bytesFrom
  rw [Nat.sub_eq_zero_of_le done]
  rfl

theorem bytes_from_cons (more : place < data.nCodecSpecificDataLen) :
    bytesFrom data place = data.pCodecSpecificData place :: bytesFrom data (place + 1) := by
  have count : data.nCodecSpecificDataLen - place =
      (data.nCodecSpecificDataLen - (place + 1)) + 1 := by omega
  unfold bytesFrom
  rw [count, range'_succ]
  rfl

theorem bytes_from_length (place : Nat) :
    (bytesFrom data place).length = data.nCodecSpecificDataLen - place := by
  unfold bytesFrom
  rw [length_map, length_range']

theorem bytes_from_drop (place count : Nat) :
    (bytesFrom data place).drop count = bytesFrom data (place + count) := by
  induction count generalizing place with
  | zero => rfl
  | succ count later =>
    by_cases more : place < data.nCodecSpecificDataLen
    · rw [bytes_from_cons data more, drop_succ_cons, later]
      have same : place + 1 + count = place + (count + 1) := by omega
      rw [same]
    · rw [bytes_from_end data (by omega), bytes_from_end data (by omega), drop_nil]

theorem bytes_from_behind {front rest : List UInt8} (parts : bytesFrom data place = front ++ rest) :
    bytesFrom data (place + front.length) = rest := by
  rw [← bytes_from_drop, parts, drop_left]

theorem copied {size : Nat} (inside : place + size ≤ data.nCodecSpecificDataLen) :
    (List.range size).map (fun later => pExtraDataBuf data (place + later)) =
      (bytesFrom data place).take size := by
  induction size generalizing place with
  | zero => rfl
  | succ size later =>
    have more : place < data.nCodecSpecificDataLen := by omega
    rw [bytes_from_cons data more, take_succ_cons, ← later (by omega),
      List.range_succ_eq_map, List.map_cons, List.map_map]
    have first : pExtraDataBuf data (place + 0) = data.pCodecSpecificData place := if_pos more
    have others : (fun count => pExtraDataBuf data (place + count)) ∘ Nat.succ =
        fun count => pExtraDataBuf data (place + 1 + count) := by
      funext count
      have same : place + Nat.succ count = place + 1 + count := by omega
      dsimp only [Function.comp]
      rw [same]
    rw [first, others]

variable (more : place < data.nCodecSpecificDataLen)

include more

theorem parameter_set_here : isParameterSet (bytesFrom data place) = true ↔
      data.pCodecSpecificData place % 32 = NAL_SPS ∨
      data.pCodecSpecificData place % 32 = NAL_PPS := by
  rw [bytes_from_cons data more]
  unfold isParameterSet
  rw [List.head?_cons, any_some, decide_eq_true_iff]

theorem parameter_set_take (size : Nat) : isParameterSet ((bytesFrom data place).take (size + 1)) =
      isParameterSet (bytesFrom data place) := by
  rw [bytes_from_cons data more]
  rfl

theorem take_head (size : Nat) :
    ((bytesFrom data place).take (size + 1)).headD 0 = data.pCodecSpecificData place := by
  rw [bytes_from_cons data more]
  rfl

end Bytes

theorem parameter_set_head {byte : UInt8} {rest : List UInt8}
    (typed : isParameterSet (byte :: rest) = true) : byte ≠ 0 := by
  unfold isParameterSet at typed
  rw [List.head?_cons, any_some, decide_eq_true_iff] at typed
  rintro zero
  subst zero
  revert typed
  decide

theorem parameter_set_cons (byte : UInt8) (first second : List UInt8) :
    isParameterSet (byte :: first) = isParameterSet (byte :: second) := rfl

theorem parameter_set_trimmed (unit : List UInt8) :
    isParameterSet (trimmed unit) = isParameterSet unit := by
  cases unit with
  | nil => rfl
  | cons byte rest =>
    by_cases zero : byte = 0
    · have none : isParameterSet (byte :: rest) = false := by
        by_contra typed
        exact parameter_set_head (eq_true_of_ne_false typed) zero
      rw [none]
      cases same : trimmed (byte :: rest) with
      | nil => rfl
      | cons head behind =>
        have first := (trimmed_front (byte :: rest))
        rw [same] at first
        rw [(cons_prefix_cons.mp first).1, parameter_set_cons byte behind rest]
        exact none
    · rcases trimmed_cons zero rest with ⟨later, same⟩
      rw [same, parameter_set_cons byte later rest]

theorem parameter_set_type {unit : List UInt8} (typed : isParameterSet unit = true) :
    (trimmed unit).headD 0 = unit.headD 0 := by
  cases unit with
  | nil => rfl
  | cons byte rest =>
    rcases trimmed_cons (parameter_set_head typed) rest with ⟨later, same⟩
    rw [same]
    rfl

theorem nothing_to_hand {State : Type} (parse : State → UInt8 → List UInt8 → Int × State)
    (state : State) (units : List (List UInt8)) :
    untilRefused parse state units = [] ↔ units = [] := by
  cases units with
  | nil => exact ⟨fun _ => rfl, fun _ => rfl⟩
  | cons unit units =>
    constructor
    · intro none
      cases none
    · intro none
      cases none

theorem no_parameter_sets (units : List (List UInt8)) :
    (units.map trimmed).filter isParameterSet = [] ↔
      ∀ unit ∈ units, isParameterSet unit = false := by
  rw [List.filter_eq_nil_iff, List.forall_mem_map]
  constructor
  · intro none unit found
    have typed := none unit found
    rw [parameter_set_trimmed] at typed
    exact eq_false_of_ne_true typed
  · intro none unit found typed
    rw [parameter_set_trimmed, none unit found] at typed
    cases typed

section Turns

variable {State : Type} (data : CodecSpecificData)
    (parse : State → UInt8 → List UInt8 → Int × State) (run : Run State) {start size : Nat}

theorem hand_unit_other
    (other : ¬ (data.pCodecSpecificData start % 32 = NAL_SPS ∨
      data.pCodecSpecificData start % 32 = NAL_PPS)) :
    handUnit data parse run start size =
      ⟨run.handed, max run.reads (start + 1), start + size, run.state, 0⟩ := by
  unfold handUnit H264DecodeExtraDataNalu
  dsimp only
  rw [if_neg other]
  rfl

theorem hand_unit_set
    (typed : data.pCodecSpecificData start % 32 = NAL_SPS ∨
      data.pCodecSpecificData start % 32 = NAL_PPS) :
    handUnit data parse run start size =
      ⟨run.handed ++ [(List.range size).map fun place => pExtraDataBuf data (start + place)],
        max run.reads (start + 1), start + size,
        (parse run.state (data.pCodecSpecificData start % 32)
          ((List.range size).map fun place => pExtraDataBuf data (start + place))).2,
        (parse run.state (data.pCodecSpecificData start % 32)
          ((List.range size).map fun place => pExtraDataBuf data (start + place))).1⟩ := by
  unfold handUnit H264DecodeExtraDataNalu
  dsimp only
  rw [if_pos typed]
  rfl

theorem hand_unit_kept : run.handed <+: (handUnit data parse run start size).handed ∧
      max run.reads (start + 1) ≤ (handUnit data parse run start size).reads := by
  by_cases typed : data.pCodecSpecificData start % 32 = NAL_SPS ∨
      data.pCodecSpecificData start % 32 = NAL_PPS
  · rw [hand_unit_set data parse run typed]
    exact ⟨prefix_append _ _, Nat.le_refl _⟩
  · rw [hand_unit_other data parse run typed]
    exact ⟨prefix_rfl, Nat.le_refl _⟩

end Turns

section Coded

variable {State : Type} {data : CodecSpecificData}
    {parse : State → UInt8 → List UInt8 → Int × State} {unit : List UInt8} {first second : UInt8}

theorem code_found {nTemp : Int} (third : UInt8)
    (last : nTemp % 2 ^ 16 = first.toNat * 256 + second.toNat) :
    (nTemp * 256 + third.toNat) % 2 ^ 24 = 0x000001 ↔ begins first second third := by
  have smallFirst := first.toNat_lt
  have smallSecond := second.toNat_lt
  have smallThird := third.toNat_lt
  unfold begins
  rw [← UInt8.toNat_inj, ← UInt8.toNat_inj, ← UInt8.toNat_inj]
  have zero : (0 : UInt8).toNat = 0 := rfl
  have one : (1 : UInt8).toNat = 1 := rfl
  rw [zero, one]
  omega

theorem code_shifted {nTemp : Int} (third : UInt8)
    (last : nTemp % 2 ^ 16 = first.toNat * 256 + second.toNat) :
    (nTemp * 256 + third.toNat) % 2 ^ 16 = second.toNat * 256 + third.toNat := by
  have smallSecond := second.toNat_lt
  have smallThird := third.toNat_lt
  omega

theorem search_code_cut {nTemp : Int} (i : Nat) (bytes : List UInt8)
    (last : nTemp % 2 ^ 16 = first.toNat * 256 + second.toNat) :
    searchCode nTemp i bytes =
      if (cut (first :: second :: bytes)).2 = [] then none
      else some (i + (cut (first :: second :: bytes)).1.length) := by
  induction bytes generalizing nTemp i first second with
  | nil => rfl
  | cons third rest later =>
    unfold searchCode
    by_cases starts : begins first second third
    · rw [if_pos ((code_found third last).mpr starts), starts.1, starts.2.1, starts.2.2,
        cut_start, if_neg (cons_ne_nil _ _)]
      rfl
    · rw [if_neg (fun found => starts ((code_found third last).mp found)), cut_step starts,
        later (i + 1) (code_shifted third last), length_cons]
      have same : i + 1 + (cut (second :: third :: rest)).1.length =
          i + ((cut (second :: third :: rest)).1.length + 1) := by omega
      rw [same]

theorem search_code_unit (bytes : List UInt8) : searchCode (-1) 0 bytes =
      if (cut bytes).2 = [] then none else some ((cut bytes).1.length + 2) := by
  have full : ((-1 : Int)) % 2 ^ 16 = (0xff : UInt8).toNat * 256 + (0xff : UInt8).toNat := by decide
  have other : (0xff : UInt8) ≠ 0 := by decide
  rw [search_code_cut 0 bytes full, cut_cons_of_ne other, cut_cons_of_ne other, Nat.zero_add]
  rfl

variable {run : Run State}

theorem coded_turn_last (none : (cut (bytesFrom data run.place)).2 = [])
    (within : run.place ≤ data.nCodecSpecificDataLen) :
    codedTurn data parse run =
      handUnit data parse { run with reads := max run.reads data.nCodecSpecificDataLen }
        run.place (data.nCodecSpecificDataLen - run.place) := by
  unfold codedTurn H264ParseExtraDataSearchNaluSize searchReads
  rw [search_code_unit, if_pos none, elim_none, elim_none, bytes_from_length]
  dsimp only
  rw [if_pos (by decide), Nat.add_sub_cancel' within]

/-- A unit that another one follows is handed without its last byte, and one without a byte
with all that is left. -/
theorem coded_turn_between {unit rest : List UInt8}
    (parts : bytesFrom data run.place = unit ++ 0 :: 0 :: 1 :: rest)
    (first : (cut (bytesFrom data run.place)).1 = unit)
    (more : (cut (bytesFrom data run.place)).2 ≠ []) :
    codedTurn data parse run =
      handUnit data parse { run with reads := max run.reads (run.place + (unit.length + 3)) }
        run.place
        (if unit = [] then data.nCodecSpecificDataLen - run.place else unit.length - 1) := by
  unfold codedTurn H264ParseExtraDataSearchNaluSize searchReads
  rw [search_code_unit, if_neg more, first, elim_some, elim_some]
  dsimp only
  cases unit with
  | nil => rfl
  | cons head tail =>
    rw [if_neg (cons_ne_nil _ _), length_cons]
    have length : ((tail.length + 1 + 2 : Nat) : Int) - 3 = tail.length := by omega
    rw [length, if_neg (by omega), Int.toNat_natCast]
    rfl

theorem coded_loop_end (turns : Nat) (nTemp : Int) (done : data.nCodecSpecificDataLen ≤ run.place) :
    codedLoop data parse turns nTemp run = run := by
  cases turns with
  | zero => rfl
  | succ turns =>
    unfold codedLoop
    exact if_neg (Nat.not_lt.mpr done)

theorem coded_turn_kept (run : Run State) : run.handed <+: (codedTurn data parse run).handed := by
  unfold codedTurn
  exact (hand_unit_kept data parse
    { run with reads := max run.reads (run.place + searchReads (bytesFrom data run.place)) }).1

theorem coded_loop_kept (turns : Nat) (nTemp : Int) (run : Run State) :
    run.handed <+: (codedLoop data parse turns nTemp run).handed := by
  induction turns generalizing nTemp run with
  | zero => exact prefix_rfl
  | succ turns later =>
    unfold codedLoop
    dsimp only
    split_ifs with more found refused
    · exact @coded_turn_kept State data parse run.onward
    · exact (@coded_turn_kept State data parse run.onward).trans (later _ _)
    · exact later _ run.onward
    · exact prefix_rfl

def fromUnit (data : CodecSpecificData) (parse : State → UInt8 → List UInt8 → Int × State)
    (turns : Nat) (nTemp : Int) (run : Run State) : Run State :=
  if (codedTurn data parse run).nRet ≠ 0 then codedTurn data parse run
  else codedLoop data parse turns nTemp (codedTurn data parse run)

theorem from_unit_done {turns : Nat} {nTemp : Int}
    (done : data.nCodecSpecificDataLen ≤ (codedTurn data parse run).place) :
    fromUnit data parse turns nTemp run = codedTurn data parse run := by
  unfold fromUnit
  rw [coded_loop_end _ _ done, ite_self]

def HandsFrom (data : CodecSpecificData) (parse : State → UInt8 → List UInt8 → Int × State)
    (final run : Run State) (units : List (List UInt8)) : Prop :=
  final.handed = run.handed ++
      untilRefused parse run.state ((units.map trimmed).filter isParameterSet) ∧
    final.reads ≤ data.nCodecSpecificDataLen

variable {turns : Nat} {nTemp : Int} (within : run.place ≤ data.nCodecSpecificDataLen)
    (inside : run.reads ≤ data.nCodecSpecificDataLen) (units : List (List UInt8))

include units

theorem kept_of_other (other : isParameterSet unit = false) :
    ((unit :: units).map trimmed).filter isParameterSet =
      (units.map trimmed).filter isParameterSet := by
  rw [List.map_cons, filter_cons_of_neg]
  rw [parameter_set_trimmed, other]
  exact Bool.false_ne_true

theorem kept_of_set (typed : isParameterSet unit = true) :
    ((unit :: units).map trimmed).filter isParameterSet =
      trimmed unit :: (units.map trimmed).filter isParameterSet := by
  rw [List.map_cons, filter_cons_of_pos]
  rw [parameter_set_trimmed, typed]

theorem coded_well_empty (state : State) : CodedWell parse state ([] :: units) ↔
      units ≠ [] ∧ ∀ later ∈ units, isParameterSet later = false := by
  unfold CodedWell
  rw [if_pos rfl]

theorem coded_well_other (state : State)
    (filled : unit ≠ []) (other : isParameterSet unit = false) :
    CodedWell parse state (unit :: units) ↔ CodedWell parse state units := by
  conv_lhs => unfold CodedWell
  rw [if_neg filled, other, if_neg Bool.false_ne_true]

theorem coded_well_set (state : State) (filled : unit ≠ []) (typed : isParameterSet unit = true) :
    CodedWell parse state (unit :: units) ↔
      unit = trimmed unit ++ (if units = [] then [] else [0]) ∧
      ((parsed parse state (trimmed unit)).1 = 0 →
        CodedWell parse (parsed parse state (trimmed unit)).2 units) := by
  conv_lhs => unfold CodedWell
  rw [if_neg filled, if_pos typed]

omit units

include within inside

theorem unit_last_iff (none : (cut (bytesFrom data run.place)).2 = []) :
    HandsFrom data parse (fromUnit data parse turns nTemp run) run
        [bytesFrom data run.place] ↔
      CodedWell parse run.state [bytesFrom data run.place] := by
  have total : run.place + (data.nCodecSpecificDataLen - run.place) =
      data.nCodecSpecificDataLen := by omega
  have length := bytes_from_length data run.place
  have reads := Nat.max_eq_right inside
  unfold HandsFrom
  by_cases more : run.place < data.nCodecSpecificDataLen
  · have filled : bytesFrom data run.place ≠ [] := by
      rw [bytes_from_cons data more]
      exact cons_ne_nil _ _
    have byte := Nat.max_eq_left (Nat.succ_le_of_lt more)
    by_cases typed : isParameterSet (bytesFrom data run.place) = true
    · have turned := (@coded_turn_last State data parse run none within).trans
        (hand_unit_set data parse _ ((parameter_set_here data more).mp typed))
      rw [copied data (Nat.le_of_eq total), take_of_length_le (Nat.le_of_eq length), total]
        at turned
      rw [from_unit_done (Nat.le_of_eq (by rw [turned])), turned, coded_well_set _ _ filled typed,
        kept_of_set _ typed, if_pos rfl, append_nil]
      dsimp only
      rw [reads, byte]
      constructor
      · rintro ⟨handed, _⟩
        have same := append_cancel_left handed
        unfold untilRefused at same
        exact ⟨(List.cons.inj same).1, fun _ => trivial⟩
      · rintro ⟨same, _⟩
        constructor
        · rw [← same]
          unfold untilRefused
          rw [map_nil, filter_nil]
          unfold untilRefused
          rw [ite_self]
        · exact Nat.le_refl _
    · have other := eq_false_of_ne_true typed
      have turned := (@coded_turn_last State data parse run none within).trans
        (hand_unit_other data parse _ (fun some => typed ((parameter_set_here data more).mpr some)))
      rw [total] at turned
      rw [from_unit_done (Nat.le_of_eq (by rw [turned])), turned,
        coded_well_other _ _ filled other, kept_of_other _ other]
      dsimp only
      rw [reads, byte]
      constructor
      · intro _
        exact trivial
      · intro _
        exact ⟨(append_nil _).symm, Nat.le_refl _⟩
  · have done : run.place = data.nCodecSpecificDataLen := by omega
    have empty := bytes_from_end data (Nat.not_lt.mp more)
    have turned := @coded_turn_last State data parse run none within
    have kept := @hand_unit_kept State data parse
      { run with reads := max run.reads data.nCodecSpecificDataLen } run.place
      (data.nCodecSpecificDataLen - run.place)
    rw [← turned] at kept
    have place : (codedTurn data parse run).place =
        run.place + (data.nCodecSpecificDataLen - run.place) := by
      rw [turned]
      rfl
    rw [from_unit_done (Nat.le_of_eq (by omega)), empty, coded_well_empty]
    have past := Nat.le_trans (Nat.le_max_right _ _) kept.2
    constructor
    · rintro ⟨_, bound⟩
      omega
    · rintro ⟨others, _⟩
      exact absurd rfl others

omit within in
theorem unit_empty_iff {unit : List UInt8} {units : List (List UInt8)} {rest : List UInt8}
    (parts : bytesFrom data run.place = 0 :: 0 :: 1 :: rest)
    (front : (cut (bytesFrom data run.place)).1 = [])
    (others : (cut (bytesFrom data run.place)).2 = unit :: units) :
    HandsFrom data parse (fromUnit data parse turns nTemp run) run ([] :: unit :: units) ↔
      CodedWell parse run.state ([] :: unit :: units) := by
  have more : run.place < data.nCodecSpecificDataLen := by
    by_contra done
    rw [bytes_from_end data (Nat.not_lt.mp done)] at parts
    cases parts
  have length := bytes_from_length data run.place
  rw [parts, length_cons, length_cons, length_cons] at length
  have byte : data.pCodecSpecificData run.place = 0 := by
    rw [bytes_from_cons data more] at parts
    exact (List.cons.inj parts).1
  have other : ¬ (data.pCodecSpecificData run.place % 32 = NAL_SPS ∨
      data.pCodecSpecificData run.place % 32 = NAL_PPS) := by
    rw [byte]
    decide
  have turned := (@coded_turn_between State data parse run [] rest parts front
    (by rw [others]; exact cons_ne_nil _ _)).trans (hand_unit_other data parse _ other)
  have total : run.place + (data.nCodecSpecificDataLen - run.place) =
      data.nCodecSpecificDataLen := by omega
  rw [if_pos rfl, total] at turned
  rw [from_unit_done (Nat.le_of_eq (by rw [turned])), turned, coded_well_empty]
  unfold HandsFrom
  dsimp only
  rw [kept_of_other _ rfl]
  constructor
  · rintro ⟨handed, _⟩
    have none := self_eq_append_right.mp handed
    rw [nothing_to_hand, no_parameter_sets] at none
    exact ⟨cons_ne_nil _ _, none⟩
  · rintro ⟨_, none⟩
    rw [← no_parameter_sets, ← nothing_to_hand parse run.state] at none
    constructor
    · rw [none, append_nil]
    · rw [length_nil]
      omega

theorem unit_between_iff {unit behind : List UInt8} {byte : UInt8} {units : List (List UInt8)}
    {rest : List UInt8} (parts : bytesFrom data run.place = (unit ++ [byte]) ++ 0 :: 0 :: 1 :: rest)
    (front : (cut (bytesFrom data run.place)).1 = unit ++ [byte])
    (others : (cut (bytesFrom data run.place)).2 = behind :: units)
    (later : ∀ next : Run State, next.place = run.place + unit.length →
      next.reads ≤ data.nCodecSpecificDataLen →
      (HandsFrom data parse (codedLoop data parse turns nTemp next) next (behind :: units) ↔
        CodedWell parse next.state (behind :: units))) :
    HandsFrom data parse (fromUnit data parse turns nTemp run) run
        ((unit ++ [byte]) :: behind :: units) ↔
      CodedWell parse run.state ((unit ++ [byte]) :: behind :: units) := by
  have length := bytes_from_length data run.place
  rw [parts, length_append, length_append, length_singleton, length_cons,
    length_cons, length_cons] at length
  have more : run.place < data.nCodecSpecificDataLen := by omega
  have filled : unit ++ [byte] ≠ [] := concat_ne_nil _ _
  have turned := @coded_turn_between State data parse run (unit ++ [byte]) rest parts front
    (by rw [others]; exact cons_ne_nil _ _)
  have size : (unit ++ [byte]).length - 1 = unit.length := by
    rw [length_append, length_singleton]
    omega
  rw [if_neg filled, size, length_append, length_singleton] at turned
  have same : isParameterSet (bytesFrom data run.place) = isParameterSet (unit ++ [byte]) := by
    rw [parts]
    cases unit with
    | nil | cons head tail => rfl
  have bound : max (max run.reads (run.place + (unit.length + 1 + 3))) (run.place + 1) ≤
      data.nCodecSpecificDataLen := by
    apply Nat.max_le.mpr
    constructor
    · apply Nat.max_le.mpr
      exact ⟨inside, by omega⟩
    · omega
  by_cases typed : isParameterSet (unit ++ [byte]) = true
  · have set := (parameter_set_here data more).mp (same.trans typed)
    rw [hand_unit_set data parse _ set, copied data (by omega), parts, append_assoc,
      take_left] at turned
    have type : data.pCodecSpecificData run.place = (unit ++ [byte]).headD 0 := by
      rw [bytes_from_cons data more] at parts
      cases unit with
      | nil | cons head tail => exact (List.cons.inj parts).1
    rw [coded_well_set _ _ filled typed, if_neg (cons_ne_nil _ _)]
    unfold HandsFrom
    rw [kept_of_set _ typed]
    by_cases whole : trimmed (unit ++ [byte]) = unit
    · have result : parse run.state (data.pCodecSpecificData run.place % 32) unit =
          parsed parse run.state unit := by
        unfold parsed
        have head := parameter_set_type typed
        rw [whole] at head
        rw [type, head]
      rw [result] at turned
      have handed := congrArg Run.handed turned
      have reads := Nat.le_trans (Nat.le_of_eq (congrArg Run.reads turned)) bound
      have state := congrArg Run.state turned
      have refused := congrArg Run.nRet turned
      dsimp only at handed state refused
      have zero : unit ++ [byte] = unit ++ [0] := by rw [trimmed_last whole]
      rw [whole]
      unfold untilRefused fromUnit
      rw [refused]
      by_cases accepted : (parsed parse run.state unit).1 = 0
      · have follows := later _ (congrArg Run.place turned) reads
        unfold HandsFrom at follows
        rw [handed, state] at follows
        rw [if_neg (fun other => other accepted), if_neg (fun other => other accepted),
          append_cons, follows]
        exact ⟨fun well => ⟨zero, fun _ => well⟩, fun well => well.2 accepted⟩
      · rw [if_pos accepted, if_pos accepted, handed]
        exact ⟨fun _ => ⟨zero, fun accepts => absurd accepts accepted⟩, fun _ => ⟨rfl, reads⟩⟩
    · constructor
      · rintro ⟨handed, _⟩
        have kept : run.handed ++ [unit] <+: (fromUnit data parse turns nTemp run).handed := by
          have first := congrArg Run.handed turned
          dsimp only at first
          rw [← first]
          unfold fromUnit
          split_ifs
          · exact prefix_rfl
          · exact coded_loop_kept _ _ _
        rw [handed] at kept
        unfold untilRefused at kept
        have same := (cons_prefix_cons.mp ((prefix_append_right_inj _).mp kept)).1
        exact absurd same.symm whole
      · rintro ⟨zero, _⟩
        exact absurd (append_inj_left' zero rfl).symm whole
  · have other := eq_false_of_ne_true typed
    have not_set := fun some => typed (same.symm.trans ((parameter_set_here data more).mpr some))
    rw [hand_unit_other data parse _ not_set] at turned
    have follows := later _ (congrArg Run.place turned)
      (Nat.le_trans (Nat.le_of_eq (congrArg Run.reads turned)) bound)
    have handed := congrArg Run.handed turned
    have state := congrArg Run.state turned
    have accepted := congrArg Run.nRet turned
    dsimp only at handed state accepted
    unfold HandsFrom at follows ⊢
    rw [handed, state] at follows
    unfold fromUnit
    rw [kept_of_other _ other, coded_well_other _ _ filled other, accepted,
      if_neg (fun refused => refused rfl), follows]

end Coded

section Stream

variable {State : Type} {data : CodecSpecificData}
    {parse : State → UInt8 → List UInt8 → Int × State}

/-- From a place on the units are handed right, and nothing is read outside the data, when, and
only when, they are well laid out. -/
theorem coded_loop_iff {turns : Nat} {nTemp : Int} {run : Run State} {first second : UInt8}
    (enough : data.nCodecSpecificDataLen ≤ run.place + turns)
    (within : run.place ≤ data.nCodecSpecificDataLen)
    (inside : run.reads ≤ data.nCodecSpecificDataLen)
    (last : nTemp % 2 ^ 16 = first.toNat * 256 + second.toNat) :
    HandsFrom data parse (codedLoop data parse turns nTemp run) run
        (cut (first :: second :: bytesFrom data run.place)).2 ↔
    CodedWell parse run.state (cut (first :: second :: bytesFrom data run.place)).2 := by
  induction turns generalizing nTemp run first second with
  | zero =>
    rw [bytes_from_end data (by omega)]
    constructor
    · intro _
      exact trivial
    · intro _
      exact ⟨(append_nil _).symm, inside⟩
  | succ turns later =>
    by_cases more : run.place < data.nCodecSpecificDataLen
    · unfold codedLoop
      dsimp only
      rw [if_pos more, bytes_from_cons data more]
      have onward : run.onward.reads ≤ data.nCodecSpecificDataLen := Nat.max_le.mpr ⟨inside, more⟩
      by_cases starts : begins first second (data.pCodecSpecificData run.place)
      · rw [if_pos ((code_found _ last).mpr starts)]
        rw [starts.1, starts.2.1, starts.2.2, cut_start]
        have window : (nTemp * 256 + (1 : UInt8).toNat) % 2 ^ 16 =
            (0 : UInt8).toNat * 256 + (1 : UInt8).toNat := by
          rw [starts.2.1] at last
          exact code_shifted 1 last
        rcases cut_parts (bytesFrom data run.onward.place) with ⟨none, whole⟩ | ⟨rest, parts, cuts⟩
        · have result := @unit_last_iff State data parse run.onward turns
            (nTemp * 256 + (1 : UInt8).toNat) more onward none
          have whole' : (cut (bytesFrom data (run.place + 1))).1 =
              bytesFrom data (run.place + 1) := whole
          have none' : (cut (bytesFrom data (run.place + 1))).2 = [] := none
          rw [whole', none']
          exact result
        · have cuts' : (cut (bytesFrom data (run.place + 1))).2 = (cut rest).1 :: (cut rest).2 :=
            cuts
          rcases eq_nil_or_concat (cut (bytesFrom data run.onward.place)).1 with
            empty | ⟨unit, byte, filled⟩
          · rw [empty] at parts
            have result := @unit_empty_iff State data parse run.onward turns
              (nTemp * 256 + (1 : UInt8).toNat) onward _ _ rest parts empty cuts
            have empty' : (cut (bytesFrom data (run.place + 1))).1 = [] := empty
            rw [empty', cuts']
            exact result
          · rw [concat_eq_append] at filled
            rw [filled] at parts
            have filled' : (cut (bytesFrom data (run.place + 1))).1 = unit ++ [byte] := filled
            have length := bytes_from_length data run.onward.place
            have place : run.onward.place = run.place + 1 := rfl
            rw [parts, length_append, length_append, place, length_singleton, length_cons] at length
            have result := @unit_between_iff State data parse run.onward turns
              (nTemp * 256 + (1 : UInt8).toNat) more onward unit _ byte _ rest parts filled cuts
              (by
                intro next next_place next_inside
                have follows := @later (nTemp * 256 + (1 : UInt8).toNat) next 0 1 (by omega)
                  (by omega) next_inside window
                have bytes : bytesFrom data next.place = byte :: 0 :: 0 :: 1 :: rest := by
                  rw [next_place]
                  apply bytes_from_behind
                  rw [parts, append_assoc]
                  rfl
                rw [bytes, cut_zero_one, cut_last] at follows
                exact follows)
            rw [filled', cuts']
            exact result
      · rw [if_neg (fun found => starts ((code_found _ last).mp found)), cut_step starts]
        exact later (by
          change _ ≤ run.place + 1 + turns
          omega) more onward (code_shifted _ last)
    · rw [bytes_from_end data (by omega), coded_loop_end _ _ (by omega)]
      constructor
      · intro _
        exact trivial
      · intro _
        exact ⟨(append_nil _).symm, inside⟩

/-- The parameter sets among the units are handed right, and nothing is read outside the
data. -/
def HandsListed (data : CodecSpecificData) (parse : State → UInt8 → List UInt8 → Int × State)
    (final run : Run State) (units : List (List UInt8)) : Prop :=
  final.handed = run.handed ++ untilRefused parse run.state (units.filter isParameterSet) ∧
    final.reads ≤ data.nCodecSpecificDataLen

/-- The loop over `cnt` and what is done behind it. -/
def loopThen (data : CodecSpecificData) (parse : State → UInt8 → List UInt8 → Int × State)
    (behind : Run State → Run State) (cnt : Nat) (run : Run State) : Run State :=
  if (sizedLoop data parse cnt run).nRet ≠ 0 then sizedLoop data parse cnt run
  else behind (sizedLoop data parse cnt run)

variable {unit : List UInt8} {run final : Run State} {units : List (List UInt8)}

theorem loop_then_none (behind : Run State → Run State) (fine : run.nRet = 0) :
    loopThen data parse behind 0 run = behind run :=
  if_neg (fun refused => refused fine)

theorem loop_then_step (behind : Run State → Run State) (cnt : Nat) (run : Run State) :
    loopThen data parse behind (cnt + 1) run =
      if (sizedTurn data parse run).nRet ≠ 0 then sizedTurn data parse run
      else loopThen data parse behind cnt (sizedTurn data parse run) := by
  unfold loopThen
  have step : sizedLoop data parse (cnt + 1) run =
      if (sizedTurn data parse run).nRet ≠ 0 then sizedTurn data parse run
      else sizedLoop data parse cnt (sizedTurn data parse run) := rfl
  rw [step]
  by_cases refused : (sizedTurn data parse run).nRet ≠ 0
  · rw [if_pos refused, if_pos refused, if_pos refused]
  · rw [if_neg refused, if_neg refused]

/-- What is done behind the loop reads a byte and hands on what has been handed. -/
structure GoesOn (behind : Run State → Run State) : Prop where
  handed : ∀ run, run.handed <+: (behind run).handed
  reads : ∀ run, max run.reads (run.place + 1) ≤ (behind run).reads

theorem sized_turn_kept (run : Run State) : run.handed <+: (sizedTurn data parse run).handed ∧
      max run.reads (run.place + 3) ≤ (sizedTurn data parse run).reads := by
  have kept := @hand_unit_kept State data parse
    ((run.look run.place).look (run.place + 1)) (run.place + 2)
    ((data.pCodecSpecificData run.place).toNat * 256 +
      (data.pCodecSpecificData (run.place + 1)).toNat)
  constructor
  · exact kept.1
  · apply Nat.le_trans _ kept.2
    apply Nat.max_le.mpr
    constructor
    · exact Nat.le_trans (Nat.le_trans (Nat.le_max_left _ _) (Nat.le_max_left _ _))
        (Nat.le_max_left _ _)
    · exact Nat.le_max_right _ _

theorem loop_then_goes_on {behind : Run State → Run State} (goes : GoesOn behind) (cnt : Nat) :
    ∀ run : Run State, run.nRet = 0 → run.handed <+: (loopThen data parse behind cnt run).handed ∧
        max run.reads (run.place + 1) ≤ (loopThen data parse behind cnt run).reads := by
  induction cnt with
  | zero =>
    intro run fine
    rw [loop_then_none behind fine]
    exact ⟨goes.handed run, goes.reads run⟩
  | succ cnt later =>
    intro run fine
    have kept := @sized_turn_kept State data parse run
    rw [loop_then_step]
    by_cases refused : (sizedTurn data parse run).nRet = 0
    · rw [if_neg (fun other => other refused)]
      have others := later (sizedTurn data parse run) refused
      exact ⟨kept.1.trans others.1, by omega⟩
    · rw [if_pos refused]
      exact ⟨kept.1, by omega⟩

variable {behind : Run State → Run State} {others : List UInt8 → List (List UInt8)}
    {well : State → List UInt8 → Prop}

theorem sized_unit_of {place size : Nat} (more : place + 2 < data.nCodecSpecificDataLen)
    (sized : size = (data.pCodecSpecificData place).toNat * 256 +
      (data.pCodecSpecificData (place + 1)).toNat) :
    sizedUnit (bytesFrom data place) =
      if place + 2 + size ≤ data.nCodecSpecificDataLen then
        some ((bytesFrom data (place + 2)).take size, bytesFrom data (place + 2 + size))
      else none := by
  rw [bytes_from_cons data (by omega), bytes_from_cons data (by omega)]
  unfold sizedUnit
  dsimp only
  rw [← sized, bytes_from_length, bytes_from_drop]
  have same : place + 1 + 1 = place + 2 := rfl
  rw [same]
  by_cases fits : place + 2 + size ≤ data.nCodecSpecificDataLen
  · rw [if_pos fits, if_pos (by omega)]
  · rw [if_neg fits, if_neg (by omega)]

theorem listed_other (units : List (List UInt8))
    (other : isParameterSet unit = false) (final run : Run State) :
    HandsListed data parse final run (unit :: units) ↔ HandsListed data parse final run units := by
  unfold HandsListed
  rw [filter_cons_of_neg (by rw [other]; exact Bool.false_ne_true)]

theorem sized_unit_length {bytes rest : List UInt8} (split : sizedUnit bytes = some (unit, rest)) :
    bytes.length = unit.length + rest.length + 2 := by
  unfold sizedUnit at split
  split at split
  · split_ifs at split with fits
    cases split
    rw [length_take, length_drop, length_cons, length_cons, Nat.min_eq_left fits]
    omega
  · cases split

theorem loop_then_turn (goes : GoesOn behind) (cnt : Nat) (run : Run State) :
    (sizedTurn data parse run).handed <+: (loopThen data parse behind (cnt + 1) run).handed ∧
      (sizedTurn data parse run).reads ≤ (loopThen data parse behind (cnt + 1) run).reads ∧
      ((sizedTurn data parse run).nRet = 0 → (sizedTurn data parse run).place + 1 ≤
        (loopThen data parse behind (cnt + 1) run).reads) := by
  rw [loop_then_step]
  by_cases refused : (sizedTurn data parse run).nRet = 0
  · rw [if_neg (fun other => other refused)]
    have others := @loop_then_goes_on State data parse behind goes cnt
      (sizedTurn data parse run) refused
    exact ⟨others.1, by omega, fun _ => by omega⟩
  · rw [if_pos refused]
    exact ⟨prefix_rfl, Nat.le_refl _, fun accepted => absurd accepted refused⟩

theorem handed_too_much (handed : run.handed ++ [unit] <+: final.handed)
    (other : ∀ later, units.filter isParameterSet ≠ unit :: later) :
    ¬ HandsListed data parse final run units := by
  rintro ⟨exactly, _⟩
  rw [exactly, prefix_append_right_inj] at handed
  cases sets : units.filter isParameterSet with
  | nil =>
    rw [sets] at handed
    have none : [unit] = [] := prefix_nil.mp handed
    cases none
  | cons first later =>
    rw [sets] at handed
    unfold untilRefused at handed
    rw [← (cons_prefix_cons.mp handed).1] at sets
    exact other later sets

section Split

variable {bytes unit rest : List UInt8} (split : sizedUnit bytes = some (unit, rest))

include split

theorem sized_units_split (cnt : Nat) :
    sizedUnits others (cnt + 1) bytes = unit :: sizedUnits others cnt rest := by
  conv_lhs => unfold sizedUnits
  rw [split, elim_some]

theorem sized_well_split (cnt : Nat) (state : State) : SizedWell parse well (cnt + 1) state bytes ↔
      (unit = [] → rest ≠ [] ∧ isParameterSet rest = false) ∧
        if isParameterSet unit then
          (parsed parse state unit).1 = 0 →
            SizedWell parse well cnt (parsed parse state unit).2 rest
        else SizedWell parse well cnt state rest := by
  constructor
  · rintro ⟨unit', rest', split', conditions⟩
    rw [split] at split'
    cases split'
    exact conditions
  · intro conditions
    exact ⟨unit, rest, split, conditions⟩

end Split

theorem listed_set {turn : Run State}
    (typed : isParameterSet unit = true) (handed : turn.handed = run.handed ++ [unit])
    (state : turn.state = (parsed parse run.state unit).2)
    (accepted : (parsed parse run.state unit).1 = 0) :
    HandsListed data parse final run (unit :: units) ↔ HandsListed data parse final turn units := by
  unfold HandsListed
  rw [filter_cons_of_pos typed, handed, state, append_assoc, singleton_append]
  conv_lhs => unfold untilRefused
  rw [if_neg (fun refused => refused accepted)]

/-- The units from a length on are handed right, and nothing is read outside the data, when, and
only when, they are well laid out, where that is so of what is done behind them. -/
theorem loop_then_iff (goes : GoesOn behind)
    (follows : ∀ run : Run State, run.nRet = 0 → run.place ≤ data.nCodecSpecificDataLen →
      run.reads ≤ data.nCodecSpecificDataLen →
      (HandsListed data parse (behind run) run (others (bytesFrom data run.place)) ↔
        well run.state (bytesFrom data run.place)))
    {cnt : Nat} {run : Run State} (fine : run.nRet = 0)
    (within : run.place ≤ data.nCodecSpecificDataLen)
    (inside : run.reads ≤ data.nCodecSpecificDataLen) :
    HandsListed data parse (loopThen data parse behind cnt run) run
        (sizedUnits others cnt (bytesFrom data run.place)) ↔
      SizedWell parse well cnt run.state (bytesFrom data run.place) := by
  induction cnt generalizing run with
  | zero =>
    rw [loop_then_none behind fine]
    exact follows run fine within inside
  | succ cnt later =>
    have kept := @loop_then_turn State data parse behind goes cnt run
    by_cases more : run.place + 2 < data.nCodecSpecificDataLen
    · generalize sized : (data.pCodecSpecificData run.place).toNat * 256 +
        (data.pCodecSpecificData (run.place + 1)).toNat = size
      have split := sized_unit_of more sized.symm
      have turned : sizedTurn data parse run = handUnit data parse
          ((run.look run.place).look (run.place + 1)) (run.place + 2) size := by
        rw [← sized]
        rfl
      by_cases fits : run.place + 2 + size ≤ data.nCodecSpecificDataLen
      · rw [if_pos fits] at split
        have bound : max (max (max run.reads (run.place + 1)) (run.place + 1 + 1))
            (run.place + 2 + 1) ≤ data.nCodecSpecificDataLen := by omega
        rw [sized_units_split split, sized_well_split split]
        have here := parameter_set_here data more
        by_cases typed : data.pCodecSpecificData (run.place + 2) % 32 = NAL_SPS ∨
            data.pCodecSpecificData (run.place + 2) % 32 = NAL_PPS
        · rw [hand_unit_set data parse _ typed, copied data fits] at turned
          cases size with
          | zero =>
            constructor
            · intro listed
              rw [turned] at kept
              apply absurd listed
              apply handed_too_much kept.1
              intro later same
              have set : isParameterSet (List.take 0 (bytesFrom data (run.place + 2))) = true :=
                (mem_filter.mp (by rw [same]; exact mem_cons_self)).2
              cases set
            · rintro ⟨empty, _⟩
              have none := (empty rfl).2
              have some : isParameterSet (bytesFrom data (run.place + 2 + 0)) = true :=
                here.mpr typed
              rw [none] at some
              cases some
          | succ size =>
            have set : isParameterSet
                ((bytesFrom data (run.place + 2)).take (size + 1)) = true :=
              (parameter_set_take data more size).trans (here.mpr typed)
            have result : parse run.state (data.pCodecSpecificData (run.place + 2) % 32)
                ((bytesFrom data (run.place + 2)).take (size + 1)) = parsed parse run.state
                  ((bytesFrom data (run.place + 2)).take (size + 1)) := by
              unfold parsed
              rw [take_head data more size]
            have nonempty : (bytesFrom data (run.place + 2)).take (size + 1) = [] →
                bytesFrom data (run.place + 2 + (size + 1)) ≠ [] ∧
                isParameterSet (bytesFrom data (run.place + 2 + (size + 1))) = false := by
              intro empty
              rw [empty] at set
              cases set
            have handed : (sizedTurn data parse run).handed =
                run.handed ++ [(bytesFrom data (run.place + 2)).take (size + 1)] := by
              rw [turned]
              rfl
            have reads : (sizedTurn data parse run).reads ≤ data.nCodecSpecificDataLen :=
              Nat.le_trans (Nat.le_of_eq (congrArg Run.reads turned)) bound
            have place : (sizedTurn data parse run).place = run.place + 2 + (size + 1) :=
              congrArg Run.place turned
            have state : (sizedTurn data parse run).state = (parsed parse run.state
                ((bytesFrom data (run.place + 2)).take (size + 1))).2 := by
              rw [turned, ← result]
              rfl
            have refused : (sizedTurn data parse run).nRet = (parsed parse run.state
                ((bytesFrom data (run.place + 2)).take (size + 1))).1 := by
              rw [turned, ← result]
              rfl
            rw [loop_then_step, if_pos set]
            by_cases accepted : (sizedTurn data parse run).nRet = 0
            · have follows := later accepted (by omega) reads
              rw [place] at follows
              rw [if_neg (fun other => other accepted),
                listed_set set handed state (refused.symm.trans accepted), follows, state]
              exact ⟨fun laid => ⟨nonempty, fun _ => laid⟩,
                fun laid => laid.2 (refused.symm.trans accepted)⟩
            · rw [if_pos accepted]
              constructor
              · intro _
                exact ⟨nonempty, fun other => absurd (refused.trans other) accepted⟩
              · intro _
                constructor
                · rw [handed, filter_cons_of_pos set]
                  conv_rhs => unfold untilRefused
                  rw [← refused, if_pos accepted]
                · exact reads
        · rw [hand_unit_other data parse _ typed] at turned
          have none : isParameterSet (bytesFrom data (run.place + 2)) = false :=
            eq_false_of_ne_true fun some => typed (here.mp some)
          have other : isParameterSet ((bytesFrom data (run.place + 2)).take size) = false := by
            cases size with
            | zero => rfl
            | succ size => exact (parameter_set_take data more size).trans none
          have accepted : (sizedTurn data parse run).nRet = 0 := congrArg Run.nRet turned
          have place : (sizedTurn data parse run).place = run.place + 2 + size :=
            congrArg Run.place turned
          have reads : (sizedTurn data parse run).reads ≤ data.nCodecSpecificDataLen :=
            Nat.le_trans (Nat.le_of_eq (congrArg Run.reads turned)) bound
          have result := later accepted (by omega) reads
          have same : ∀ final, HandsListed data parse final (sizedTurn data parse run)
              (sizedUnits others cnt (bytesFrom data (run.place + 2 + size))) ↔
              HandsListed data parse final run
              (sizedUnits others cnt (bytesFrom data (run.place + 2 + size))) := by
            intro final
            unfold HandsListed
            rw [turned]
            rfl
          rw [place, same] at result
          have state : (sizedTurn data parse run).state = run.state := by
            rw [turned]
            rfl
          rw [listed_other _ other, loop_then_step, if_neg (fun refused => refused accepted),
            result, state, other, if_neg Bool.false_ne_true]
          constructor
          · intro laid
            apply And.intro _ laid
            intro empty
            have length := congrArg List.length empty
            rw [length_take, bytes_from_length, length_nil] at length
            have zero : size = 0 := by omega
            rw [zero, Nat.add_zero]
            exact ⟨by rw [bytes_from_cons data more]; exact cons_ne_nil _ _, none⟩
          · rintro ⟨_, laid⟩
            exact laid
      · rw [if_neg fits] at split
        constructor
        · intro listed
          by_cases typed : data.pCodecSpecificData (run.place + 2) % 32 = NAL_SPS ∨
              data.pCodecSpecificData (run.place + 2) % 32 = NAL_PPS
          · rw [turned, hand_unit_set data parse _ typed] at kept
            have nothing : sizedUnits others (cnt + 1) (bytesFrom data run.place) = [] := by
              unfold sizedUnits
              rw [split, elim_none]
            rw [nothing] at listed
            exact absurd listed (handed_too_much kept.1 fun later same => by cases same)
          · rw [turned, hand_unit_other data parse _ typed] at kept
            have past := kept.2.2 rfl
            have bound := listed.2
            dsimp only at past
            omega
        · rintro ⟨unit, rest, whole, _⟩
          rw [split] at whole
          cases whole
    · have turn := @sized_turn_kept State data parse run
      have short : (bytesFrom data run.place).length ≤ 2 := by
        rw [bytes_from_length]
        omega
      constructor
      · rintro ⟨_, bound⟩
        omega
      · rintro ⟨unit, rest, split, empty, _⟩
        have length := sized_unit_length split
        have no_unit : unit = [] := eq_nil_of_length_eq_zero (by omega)
        have no_rest : rest = [] := eq_nil_of_length_eq_zero (by omega)
        exact absurd no_rest (empty no_unit).1

theorem onward_goes_on : GoesOn (fun run : Run State => run.onward) := by
  constructor
  · intro run
    exact prefix_rfl
  · intro run
    exact Nat.le_refl _

theorem second_pass_iff {cnt : Nat} {run : Run State} (fine : run.nRet = 0)
    (within : run.place ≤ data.nCodecSpecificDataLen)
    (inside : run.reads ≤ data.nCodecSpecificDataLen) :
    HandsListed data parse (sizedPasses data parse 1 cnt run) run
        (sizedUnits (fun _ => []) cnt (bytesFrom data run.place)) ↔
      SizedWell parse (fun _ behind => behind ≠ []) cnt run.state
        (bytesFrom data run.place) := by
  apply @loop_then_iff State data parse (fun run => run.onward) (fun _ => [])
    (fun _ behind => behind ≠ []) onward_goes_on _ cnt run fine within inside
  intro run fine within inside
  have reads : run.onward.reads = max run.reads (run.place + 1) := rfl
  have handed : run.onward.handed = run.handed := rfl
  unfold HandsListed
  rw [reads, handed]
  constructor
  · rintro ⟨_, bound⟩
    rw [bytes_from_cons data (by omega)]
    exact cons_ne_nil _ _
  · intro filled
    constructor
    · exact (append_nil _).symm
    · by_contra past
      apply filled
      apply bytes_from_end
      omega

/-- Where no byte is read, nothing of what has been done is lost either. -/
theorem loop_then_kept (goes : GoesOn behind) (cnt : Nat) (run : Run State) :
    run.handed <+: (loopThen data parse behind cnt run).handed ∧
      run.reads ≤ (loopThen data parse behind cnt run).reads := by
  by_cases fine : run.nRet = 0
  · have on := @loop_then_goes_on State data parse behind goes cnt run fine
    exact ⟨on.1, by omega⟩
  · cases cnt with
    | zero =>
      have same : loopThen data parse behind 0 run = run := if_pos fine
      rw [same]
      exact ⟨prefix_rfl, Nat.le_refl _⟩
    | succ cnt =>
      have turn := @sized_turn_kept State data parse run
      have kept := @loop_then_turn State data parse behind goes cnt run
      exact ⟨turn.1.trans kept.1, by omega⟩

def secondPass (data : CodecSpecificData) (parse : State → UInt8 → List UInt8 → Int × State)
    (run : Run State) : Run State :=
  sizedPasses data parse 1 (turnsOf (data.pCodecSpecificData run.place)) run.onward

theorem second_pass_goes_on : GoesOn (secondPass data parse) := by
  constructor
  · intro run
    exact (@loop_then_kept State data parse _ onward_goes_on
      (turnsOf (data.pCodecSpecificData run.place)) run.onward).1
  · intro run
    exact (@loop_then_kept State data parse _ onward_goes_on
      (turnsOf (data.pCodecSpecificData run.place)) run.onward).2

theorem second_list_iff (run : Run State) (fine : run.nRet = 0)
    (inside : run.reads ≤ data.nCodecSpecificDataLen) :
    HandsListed data parse (secondPass data parse run) run
        (secondList (bytesFrom data run.place)) ↔
      SecondWell parse run.state (bytesFrom data run.place) := by
  by_cases more : run.place < data.nCodecSpecificDataLen
  · have onward : run.onward.reads ≤ data.nCodecSpecificDataLen :=
      Nat.max_le.mpr ⟨inside, more⟩
    have bytes := bytes_from_cons data more
    have result := @second_pass_iff State data parse
      (turnsOf (data.pCodecSpecificData run.place)) run.onward fine more onward
    by_cases small : (data.pCodecSpecificData run.place).toNat < 128
    · have turns : turnsOf (data.pCodecSpecificData run.place) =
          (data.pCodecSpecificData run.place).toNat := if_pos small
      unfold secondPass
      rw [turns] at result ⊢
      rw [bytes]
      apply Iff.trans result
      constructor
      · intro laid
        apply Exists.intro (data.pCodecSpecificData run.place)
        apply Exists.intro (bytesFrom data (run.place + 1))
        rw [if_pos small]
        exact ⟨rfl, laid⟩
      · rintro ⟨count, rest, same, laid⟩
        cases same
        rw [if_pos small] at laid
        exact laid
    · have turns : turnsOf (data.pCodecSpecificData run.place) = 0 := if_neg small
      unfold secondPass
      rw [turns]
      have pass : sizedPasses data parse 1 0 run.onward = run.onward.onward :=
        loop_then_none (fun run : Run State => run.onward) fine
      have handed : run.onward.onward.handed = run.handed := rfl
      have reads : run.onward.onward.reads = max (max run.reads (run.place + 1))
          (run.place + 1 + 1) := rfl
      unfold HandsListed
      rw [pass, handed, reads, self_eq_append_right, nothing_to_hand, List.filter_eq_nil_iff]
      constructor
      · rintro ⟨none, bound⟩
        apply Exists.intro (data.pCodecSpecificData run.place)
        apply Exists.intro (bytesFrom data (run.place + 1))
        rw [if_neg small]
        constructor
        · exact bytes
        constructor
        · rw [bytes_from_cons data (by omega)]
          exact cons_ne_nil _ _
        · intro unit found
          exact eq_false_of_ne_true (none unit found)
      · rintro ⟨count, rest, same, laid⟩
        rw [bytes] at same
        cases same
        rw [if_neg small] at laid
        constructor
        · intro unit found typed
          rw [laid.2 unit found] at typed
          cases typed
        · by_contra past
          apply laid.1
          apply bytes_from_end
          omega
  · have kept := (@second_pass_goes_on State data parse).reads run
    rw [bytes_from_end data (by omega)]
    constructor
    · rintro ⟨_, bound⟩
      omega
    · rintro ⟨count, rest, same, _⟩
      cases same

end Stream

variable {State : Type} {data : CodecSpecificData}
    {parse : State → UInt8 → List UInt8 → Int × State} {state : State}

theorem bytes_from_get {place : Nat} (more : place < data.nCodecSpecificDataLen) :
    (bytesFrom data 0).getD place 0 = data.pCodecSpecificData place := by
  unfold bytesFrom
  rw [getD_eq_getElem?_getD, List.getElem?_map,
    List.getElem?_range' (by omega), map_some, getD_some]
  have same : 0 + 1 * place = place := by omega
  rw [same]

theorem record_iff (kind : data.pCodecSpecificData 0 = 1) (filled : 1 ≤ data.nCodecSpecificDataLen) :
    HandsListed data parse (H264ProcessExtraData2 data parse state) ⟨[], 1, 0, state, 0⟩
        (recordUnits (bytesFrom data 0)) ↔
      6 ≤ (bytesFrom data 0).length ∧
        SizedWell parse (SecondWell parse) ((bytesFrom data 0).getD 5 0 % 32).toNat state
          ((bytesFrom data 0).drop 6) := by
  have length := bytes_from_length data 0
  have passes : H264ProcessExtraData2 data parse state =
      loopThen data parse (secondPass data parse) (data.pCodecSpecificData 5 % 32).toNat
        ⟨[], max 1 (5 + 1), 6, state, 0⟩ := if_pos kind
  rw [passes]
  by_cases six : 6 ≤ (bytesFrom data 0).length
  · have behind : bytesFrom data 6 = (bytesFrom data 0).drop 6 := by rw [bytes_from_drop]
    have enough : 6 ≤ data.nCodecSpecificDataLen := by omega
    have result := @loop_then_iff State data parse (secondPass data parse) secondList
      (SecondWell parse) second_pass_goes_on (fun run fine _ inside =>
        second_list_iff run fine inside) (data.pCodecSpecificData 5 % 32).toNat
      ⟨[], max 1 (5 + 1), 6, state, 0⟩ rfl enough enough
    unfold recordUnits
    rw [if_pos six, bytes_from_get (by omega), ← behind]
    exact result.trans ⟨fun laid => ⟨six, laid⟩, fun both => both.2⟩
  · have kept := (@loop_then_kept State data parse (secondPass data parse) second_pass_goes_on
      (data.pCodecSpecificData 5 % 32).toNat ⟨[], max 1 (5 + 1), 6, state, 0⟩).2
    constructor
    · rintro ⟨_, bound⟩
      have reads := Nat.le_trans kept bound
      dsimp only at reads
      omega
    · rintro ⟨enough, _⟩
      exact absurd enough six

theorem stream_iff (kind : data.pCodecSpecificData 0 ≠ 1)
    (filled : 1 ≤ data.nCodecSpecificDataLen) :
    HandsFrom data parse (H264ProcessExtraData2 data parse state) ⟨[], 1, 0, state, 0⟩
        (cut (bytesFrom data 0)).2 ↔
      CodedWell parse state (cut (bytesFrom data 0)).2 := by
  have loop : H264ProcessExtraData2 data parse state =
      codedLoop data parse data.nCodecSpecificDataLen (-1) ⟨[], 1, 0, state, 0⟩ := if_neg kind
  have full : ((-1 : Int)) % 2 ^ 16 = (0xff : UInt8).toNat * 256 + (0xff : UInt8).toNat := by decide
  have other : (0xff : UInt8) ≠ 0 := by decide
  have result := @coded_loop_iff State data parse data.nCodecSpecificDataLen (-1)
    ⟨[], 1, 0, state, 0⟩ 0xff 0xff (Nat.le_add_left _ _) (Nat.zero_le _) filled full
  rw [cut_cons_of_ne other, cut_cons_of_ne other, ← loop] at result
  exact result

theorem first_byte_read (empty : data.nCodecSpecificDataLen = 0) :
    1 ≤ (H264ProcessExtraData2 data parse state).reads := by
  by_cases kind : data.pCodecSpecificData 0 = 1
  · have passes : H264ProcessExtraData2 data parse state =
        loopThen data parse (secondPass data parse) (data.pCodecSpecificData 5 % 32).toNat
          ⟨[], max 1 (5 + 1), 6, state, 0⟩ := if_pos kind
    have kept := (@loop_then_kept State data parse (secondPass data parse) second_pass_goes_on
      (data.pCodecSpecificData 5 % 32).toNat ⟨[], max 1 (5 + 1), 6, state, 0⟩).2
    rw [passes]
    exact Nat.le_trans (Nat.le_max_left 1 (5 + 1)) kept
  · have loop : H264ProcessExtraData2 data parse state =
        codedLoop data parse data.nCodecSpecificDataLen (-1) ⟨[], 1, 0, state, 0⟩ := if_neg kind
    rw [loop, empty]
    exact Nat.le_refl 1

/-- The parameter sets of the codec specific data reach the parsers, and nothing outside it is
touched, when, and only when, the data is well formed. -/
theorem extra_data_handed_iff (data : CodecSpecificData)
    (parse : State → UInt8 → List UInt8 → Int × State) (state : State) :
    HandsParameterSets parse data state ↔ WellFormed parse (bytesFrom data 0) state := by
  have length := bytes_from_length data 0
  have written : bytesWritten data ≤ H264VDEC_MAX_EXTRA_DATA_LEN ↔
      (bytesFrom data 0).length ≤ H264VDEC_MAX_EXTRA_DATA_LEN := by
    unfold bytesWritten
    omega
  by_cases filled : 1 ≤ data.nCodecSpecificDataLen
  · have head : (bytesFrom data 0).head? = some (data.pCodecSpecificData 0) := by
      rw [bytes_from_cons data filled, List.head?_cons]
    have nonempty : bytesFrom data 0 ≠ [] := by
      rw [bytes_from_cons data filled]
      exact cons_ne_nil _ _
    by_cases kind : data.pCodecSpecificData 0 = 1
    · have first : (bytesFrom data 0).head? = some 1 := by rw [head, kind]
      have sets : parameterSets (bytesFrom data 0) =
          (recordUnits (bytesFrom data 0)).filter isParameterSet := if_pos first
      have result := @record_iff State data parse state kind filled
      constructor
      · rintro ⟨handed, inside, fits⟩
        rw [sets] at handed
        constructor
        · exact written.mp fits
        · exact nonempty
        · intro _
          exact result.mp ⟨handed, inside⟩
        · intro other
          exact absurd first other
      · rintro ⟨fits, _, record, _⟩
        rcases result.mpr (record first) with ⟨handed, inside⟩
        constructor
        · rw [sets]
          exact handed
        · exact inside
        · exact written.mpr fits
    · have first : (bytesFrom data 0).head? ≠ some 1 := by
        rw [head]
        intro same
        exact kind (Option.some.inj same)
      have sets : parameterSets (bytesFrom data 0) =
          ((cut (bytesFrom data 0)).2.map trimmed).filter isParameterSet := if_neg first
      have result := @stream_iff State data parse state kind filled
      constructor
      · rintro ⟨handed, inside, fits⟩
        rw [sets] at handed
        constructor
        · exact written.mp fits
        · exact nonempty
        · intro other
          exact absurd other first
        · intro _
          exact result.mp ⟨handed, inside⟩
      · rintro ⟨fits, _, _, stream⟩
        rcases result.mpr (stream first) with ⟨handed, inside⟩
        constructor
        · rw [sets]
          exact handed
        · exact inside
        · exact written.mpr fits
  · have empty : data.nCodecSpecificDataLen = 0 := by omega
    have read := @first_byte_read State data parse state empty
    constructor
    · rintro ⟨_, inside, _⟩
      omega
    · rintro ⟨_, nonempty, _, _⟩
      exact absurd (bytes_from_end data (by omega)) nonempty

/-- A byte stream with a sequence and a picture parameter set behind start codes of three
bytes. -/
def threeByteCodes : CodecSpecificData where
  pCodecSpecificData place :=
    [0, 0, 1, 0x67, 0x42, 0x00, 0x1E, 0x8C, 0, 0, 1, 0x68, 0xCE, 0x3C, 0x80].getD place 0
  nCodecSpecificDataLen := 15
  behindBuffer _ := 0

/-- The last byte of the sequence parameter set is not handed to the parser. -/
theorem last_byte_of_set_lost :
    (H264ProcessExtraData2 threeByteCodes (fun (_ : Unit) _ _ => (0, ())) ()).handed =
      [[0x67, 0x42, 0x00, 0x1E], [0x68, 0xCE, 0x3C, 0x80]] ∧
    parameterSets (bytesFrom threeByteCodes 0) =
      [[0x67, 0x42, 0x00, 0x1E, 0x8C], [0x68, 0xCE, 0x3C, 0x80]] ∧
    ¬ HandsParameterSets (fun (_ : Unit) _ _ => (0, ())) threeByteCodes () := by
  have handed : (H264ProcessExtraData2 threeByteCodes (fun (_ : Unit) _ _ => (0, ())) ()).handed =
      [[0x67, 0x42, 0x00, 0x1E], [0x68, 0xCE, 0x3C, 0x80]] := by
    decide
  have sets : parameterSets (bytesFrom threeByteCodes 0) =
      [[0x67, 0x42, 0x00, 0x1E, 0x8C], [0x68, 0xCE, 0x3C, 0x80]] := by
    decide
  constructor
  · exact handed
  constructor
  · exact sets
  · rintro ⟨exactly, _, _⟩
    rw [handed, sets] at exactly
    revert exactly
    decide

end CedarC.H264ExtraData
