import CedarC.BitWindow

/-!
# The boolean decoder of VP9 headers

The coder loads whole bytes below the top byte of its value. It reads what a decoder reads
that takes one bit at each doubling, up to the end of the stream.
-/

namespace CedarC.Vp9BoolCoder

open ByteReader BitWindow

/-- Without the unread `lowvalue` and `BitCounter`; `buffer` ends where the stream does. -/
structure VpBoolCoder where
  (range value count pos : Nat)
  buffer : List UInt8
  strm_error : Bool

/-- One turn of the loop of `Vp9DecodeBool`; it leaves the count 0 where the stream ends. -/
def double (br : VpBoolCoder) : VpBoolCoder :=
  let br := { br with
    range := 2 * br.range % 2 ^ 32
    value := 2 * br.value % 2 ^ 32
    count := if br.count = 0 then 2 ^ 32 - 1 else br.count - 1 }
  if br.count = 0 then
    if br.buffer.length ≤ br.pos then { br with strm_error := true }
    else
      { br with
        count := 8
        value := br.value ||| (br.buffer.getD br.pos 0).toNat
        pos := br.pos + 1 }
  else br

def normalise : Nat → VpBoolCoder → VpBoolCoder
  | 0, br => br
  | more + 1, br =>
    if 0x80 ≤ br.range then br
    else if (double br).count = 0 then double br
    else normalise more (double br)

/-- The part of the range in which the value is, and the bit that says which it is. -/
def choose (br : VpBoolCoder) (split : Nat) : Bool × VpBoolCoder :=
  if split <<< 24 ≤ br.value then
    (true, { br with range := br.range - split, value := br.value - split <<< 24 })
  else (false, { br with range := split })

def Vp9DecodeBool (br : VpBoolCoder) (probability : UInt8) : Bool × VpBoolCoder :=
  let chosen := choose br (1 + ((br.range - 1) * probability.toNat) >>> 8)
  (chosen.1, normalise 7 chosen.2)

def Vp9DecodeBool128 (br : VpBoolCoder) : Bool × VpBoolCoder :=
  let chosen := choose br ((br.range + 1) >>> 1)
  if 0x80 ≤ chosen.2.range then chosen
  else if (double chosen.2).count = 0 then (false, { br with strm_error := true })
  else (chosen.1, double chosen.2)

/-- Below four bytes the value has no meaning. -/
def Vp9BoolStart (source : List UInt8) : VpBoolCoder :=
  let br := Vp9DecodeBool128
    { range := 255, value := (AV_RB32 source 0).getD 0, count := 8, pos := 4, buffer := source,
      strm_error := decide (source.length < 4) }
  -- the marker bit
  if br.1 then { br.2 with strm_error := true } else br.2

/-- The bits of successive calls of `Vp9DecodeBool`, if the stream does not end in one. -/
def readAll (br : VpBoolCoder) : List UInt8 → Option (List Bool)
  | [] => if br.strm_error then none else some []
  | probability :: rest =>
    let read := Vp9DecodeBool br probability
    if br.strm_error then none else (readAll read.2 rest).map (read.1 :: ·)

/-- The bit-by-bit decoder after `place` bits. -/
structure BitDecoder where
  (range value place : Nat)

namespace BitDecoder

variable (stream : List UInt8)

def double (dec : BitDecoder) : BitDecoder :=
  ⟨2 * dec.range, 2 * dec.value + (bitAt stream dec.place).toNat, dec.place + 1⟩

def normalise : Nat → BitDecoder → BitDecoder
  | 0, dec => dec
  | more + 1, dec => if 128 ≤ dec.range then dec else normalise more (dec.double stream)

/-- The part of the range for the bit 0. -/
def split (dec : BitDecoder) (probability : UInt8) : Nat :=
  1 + ((dec.range - 1) * probability.toNat) >>> 8

def choose (dec : BitDecoder) (split : Nat) : BitDecoder :=
  ⟨if split ≤ dec.value then dec.range - split else split,
    if split ≤ dec.value then dec.value - split else dec.value, dec.place⟩

def decodeAll (dec : BitDecoder) : List UInt8 → List Bool × Nat
  | [] => ([], dec.place)
  | probability :: rest =>
    let later := decodeAll (normalise stream 7 (dec.choose (dec.split probability))) rest
    (decide (dec.split probability ≤ dec.value) :: later.1, later.2)

/-- The value with the next bits of the stream behind it. -/
def ahead (dec : BitDecoder) (count : Nat) : Nat :=
  dec.value * 2 ^ count + bitsAt stream dec.place count

end BitDecoder

/-- The value of the coder has 16 to 24 bits of the stream behind that of the bit decoder. -/
structure Follows (stream : List UInt8) (br : VpBoolCoder) (dec : BitDecoder) : Prop where
  buffer : br.buffer = stream
  inside : dec.value < dec.range
  range : br.range = dec.range
  counted : 1 ≤ br.count ∧ br.count ≤ 8
  placed : 8 * br.pos = dec.place + 16 + br.count
  within : br.pos ≤ stream.length
  value : br.value = dec.ahead stream (16 + br.count) * 2 ^ (8 - br.count)
  good : br.strm_error = false

variable {stream : List UInt8} {br : VpBoolCoder} {dec : BitDecoder}

theorem ahead_double (stream : List UInt8) (dec : BitDecoder) (count : Nat) :
    (dec.double stream).ahead stream count = dec.ahead stream (count + 1) := by
  have bits := @bits_at_add stream dec.place 1 count
  rw [Nat.add_comm, bits_at_one] at bits
  change (2 * dec.value + _) * _ + bitsAt stream (dec.place + 1) _ = dec.value * _ + _
  rw [bits, Nat.pow_succ, Nat.add_mul, Nat.add_assoc, Nat.mul_comm 2, Nat.mul_assoc, Nat.mul_comm 2]

/-- The value of the bit decoder is the top byte. -/
theorem top_byte (stream : List UInt8) (dec : BitDecoder) {count : Nat} (counted : count ≤ 8) :
    dec.ahead stream (16 + count) * 2 ^ (8 - count) =
        dec.value * 2 ^ 24 + bitsAt stream dec.place (16 + count) * 2 ^ (8 - count) ∧
      bitsAt stream dec.place (16 + count) * 2 ^ (8 - count) < 2 ^ 24 := by
  have whole : 2 ^ (16 + count) * 2 ^ (8 - count) = 2 ^ 24 := by
    rw [← Nat.pow_add]
    congr 1
    omega
  constructor
  · rw [BitDecoder.ahead, Nat.add_mul, Nat.mul_assoc, whole]
  · rw [← whole]
    exact Nat.mul_lt_mul_of_pos_right (bits_at_lt stream _ _) (Nat.two_pow_pos _)

/-- A doubling fails where two bytes are all that is left behind the bit it takes. -/
theorem double_follows (follows : Follows stream br dec) (short : dec.range < 128) :
    (double br).count = 0 ∧ (double br).strm_error = true ∧
        8 * stream.length ≤ (dec.double stream).place + 16 ∨
      (double br).count ≠ 0 ∧ Follows stream (double br) (dec.double stream) := by
  have top := top_byte stream dec follows.counted.2
  obtain ⟨rfl, inside, range, counted, placed, within, value, good⟩ := follows
  have bit := Bool.toNat_le (bitAt br.buffer dec.place)
  have inside : (dec.double br.buffer).value < (dec.double br.buffer).range := by
    change 2 * dec.value + _ < 2 * dec.range
    omega
  have ranges : 2 * br.range % 2 ^ 32 = (dec.double br.buffer).range := by
    rw [range]
    exact Nat.mod_eq_of_lt (by omega)
  have values : 2 * br.value % 2 ^ 32 =
      (dec.double br.buffer).ahead br.buffer (15 + br.count) * 2 ^ (9 - br.count) := by
    rw [Nat.mod_eq_of_lt (by omega), ahead_double, show 15 + br.count + 1 = 16 + br.count by omega,
      value, show 9 - br.count = 8 - br.count + 1 by omega, Nat.pow_succ, Nat.mul_comm 2,
      Nat.mul_assoc]
  unfold double
  rw [values, ranges, if_neg (Nat.ne_of_gt counted.1)]
  dsimp only
  by_cases last : br.count - 1 = 0
  · have one : br.count = 1 := by omega
    rw [if_pos last]
    by_cases ended : br.buffer.length ≤ br.pos
    · rw [if_pos ended]
      refine .inl ⟨last, rfl, ?_⟩
      change _ ≤ dec.place + 1 + 16
      omega
    · have loaded := @bits_at_add br.buffer (dec.place + 1) 16 8
      rw [show dec.place + 1 + 16 = 8 * br.pos by omega, bits_at_byte] at loaded
      rw [if_neg ended]
      refine .inr ⟨Nat.succ_ne_zero 7, rfl, inside, rfl, ⟨Nat.succ_pos 7, Nat.le_refl 8⟩, ?_,
        Nat.lt_of_not_le ended, ?_, good⟩
      · change 8 * (br.pos + 1) = dec.place + 1 + 16 + 8
        omega
      · change _ ||| _ = (_ * 2 ^ 24 + bitsAt br.buffer (dec.place + 1) (16 + 8)) * 2 ^ 0
        rw [one, Nat.mul_comm (BitDecoder.ahead _ _ _), ← Nat.two_pow_add_eq_or_of_lt
          (UInt8.toNat_lt _), loaded]
        change 2 ^ 8 * (_ * 2 ^ 16 + bitsAt br.buffer (dec.place + 1) 16) + _ = _
        omega
  · rw [if_neg last]
    refine .inr ⟨last, rfl, inside, rfl, by dsimp only; omega, ?_, within, ?_, good⟩
    · change 8 * br.pos = dec.place + 1 + 16 + (br.count - 1)
      omega
    · change _ = _ * 2 ^ (8 - (br.count - 1))
      rw [show 8 - (br.count - 1) = 9 - br.count by omega,
        show 16 + (br.count - 1) = 15 + br.count by omega]

theorem place_normalise (fuel : Nat) (dec : BitDecoder) :
    dec.place ≤ (dec.normalise stream fuel).place := by
  induction fuel generalizing dec with
  | zero => exact Nat.le_refl _
  | succ fuel ih =>
    rw [BitDecoder.normalise]
    split_ifs
    · exact Nat.le_refl _
    · exact Nat.le_of_succ_le (ih (dec.double stream))

/-- Seven turns are enough for every range above 0. -/
theorem normalise_range (fuel : Nat) (enough : 128 ≤ 2 ^ fuel * dec.range) :
    128 ≤ (dec.normalise stream fuel).range := by
  induction fuel generalizing dec with
  | zero =>
    rw [Nat.pow_zero, Nat.one_mul] at enough
    exact enough
  | succ fuel ih =>
    rw [Nat.pow_succ, Nat.mul_assoc] at enough
    rw [BitDecoder.normalise]
    split_ifs with long
    · exact long
    · exact ih enough

theorem normalise_follows (fuel : Nat) (follows : Follows stream br dec) :
    (normalise fuel br).strm_error = true ∧
        8 * stream.length ≤ (dec.normalise stream fuel).place + 16 ∨
      Follows stream (normalise fuel br) (dec.normalise stream fuel) := by
  induction fuel generalizing br dec with
  | zero => exact .inr follows
  | succ fuel ih =>
    rw [normalise, BitDecoder.normalise, follows.range]
    by_cases long : 128 ≤ dec.range
    · rw [if_pos long, if_pos long]
      exact .inr follows
    · have later := @place_normalise stream fuel (dec.double stream)
      rw [if_neg long, if_neg long]
      obtain ⟨ended, error, used⟩ | ⟨more, next⟩ := double_follows follows (by omega)
      · rw [if_pos ended]
        exact .inl ⟨error, by omega⟩
      · rw [if_neg more]
        exact ih next

theorem choose_follows (follows : Follows stream br dec) (split : Nat) :
    (choose br split).1 = decide (split ≤ dec.value) ∧
      Follows stream (choose br split).2 (dec.choose split) := by
  have top := top_byte stream dec follows.counted.2
  have rest := (top_byte stream ⟨br.range - split, dec.value - split, dec.place⟩
    follows.counted.2).1
  have unit := Nat.shiftLeft_eq split 24
  obtain ⟨buffer, inside, range, counted, placed, within, value, good⟩ := follows
  unfold choose BitDecoder.choose
  by_cases upper : split ≤ dec.value
  · rw [if_pos upper, if_pos upper, if_pos (by omega), ← range]
    refine ⟨(decide_eq_true upper).symm, buffer, ?_, rfl, counted, placed, within, ?_, good⟩
    · change dec.value - split < br.range - split
      omega
    · rw [rest]
      change br.value - _ = (dec.value - split) * 2 ^ 24 + bitsAt stream dec.place _ * _
      omega
  · rw [if_neg upper, if_neg upper, if_neg (by omega)]
    exact ⟨(decide_eq_false upper).symm, buffer, Nat.lt_of_not_le upper, rfl, counted, placed,
      within, value, good⟩

theorem place_decode_all (dec : BitDecoder) (probabilities : List UInt8) :
    dec.place ≤ (dec.decodeAll stream probabilities).2 := by
  induction probabilities generalizing dec with
  | nil => exact Nat.le_refl _
  | cons probability rest ih =>
    exact Nat.le_trans (place_normalise 7 (dec.choose (dec.split probability))) (ih _)

theorem read_all_failed (failed : br.strm_error = true) (probabilities : List UInt8) :
    readAll br probabilities = none := by
  cases probabilities <;> exact if_pos failed

theorem read_all_follows (follows : Follows stream br dec) (probabilities : List UInt8) :
    readAll br probabilities =
      if (dec.decodeAll stream probabilities).2 + 16 < 8 * stream.length then
        some (dec.decodeAll stream probabilities).1
      else none := by
  induction probabilities generalizing br dec with
  | nil =>
    have placed := follows.placed
    have counted := follows.counted
    have within := follows.within
    rw [readAll, follows.good, if_neg Bool.false_ne_true, BitDecoder.decodeAll, if_pos (by omega)]
  | cons probability rest ih =>
    have part : 1 + ((br.range - 1) * probability.toNat) >>> 8 = dec.split probability := by
      rw [follows.range]
      rfl
    have chosen := choose_follows follows (dec.split probability)
    rw [readAll, follows.good, if_neg Bool.false_ne_true, Vp9DecodeBool, part, BitDecoder.decodeAll]
    dsimp only
    obtain ⟨error, used⟩ | next := normalise_follows 7 chosen.2
    · have later := @place_decode_all stream
        ((dec.choose (dec.split probability)).normalise stream 7) rest
      rw [read_all_failed error, if_neg (by omega)]
      rfl
    · rw [ih next, chosen.1]
      split_ifs <;> rfl

/-- The start reads the marker bit 0, or fails. -/
theorem start_follows (source : List UInt8) :
    if (source.getD 0 0).toNat < 128 ∧ 4 ≤ source.length then
      Follows source (Vp9BoolStart source) ⟨128, (source.getD 0 0).toNat, 8⟩
    else (Vp9BoolStart source).strm_error = true := by
  have halves : (255 + 1) >>> 1 = 128 := rfl
  by_cases long : 4 ≤ source.length
  · have bytes := @window_bits source 0 (by omega)
    have first := bits_at_byte source 0
    have rest := bits_at_lt source 8 24
    rw [Nat.mul_zero] at bytes first
    have parts : bitsAt source 0 32 = (source.getD 0 0).toNat * 2 ^ 24 + bitsAt source 8 24 := by
      rw [← first]
      exact @bits_at_add source 0 8 24
    unfold Vp9BoolStart Vp9DecodeBool128 choose
    dsimp only
    rw [bytes, Option.getD_some, halves, Nat.shiftLeft_eq]
    by_cases marker : 128 * 2 ^ 24 ≤ bitsAt source 0 32
    · rw [if_pos marker, if_neg (by omega)]
      rfl
    · rw [if_neg marker, if_pos (by omega)]
      refine ⟨rfl, ?_, rfl, ⟨Nat.succ_pos 7, Nat.le_refl 8⟩, rfl, long, ?_, ?_⟩
      · change (source.getD 0 0).toNat < 128
        omega
      · change bitsAt source 0 32 = _ * 2 ^ 0
        rw [Nat.pow_zero, Nat.mul_one]
        exact parts
      · exact decide_eq_false (by omega)
  · rw [if_neg (not_and_of_not_right _ long)]
    unfold Vp9BoolStart Vp9DecodeBool128 choose
    dsimp only
    rw [decide_eq_true (by omega)]
    split_ifs <;> rfl

/-- The coder reads the bits of the bit decoder behind the marker bit 0, unless these come
within two bytes of the end of the stream. -/
theorem read_bit_by_bit (source probabilities : List UInt8) :
    readAll (Vp9BoolStart source) probabilities =
      let decoded := BitDecoder.decodeAll source ⟨128, (source.getD 0 0).toNat, 8⟩ probabilities
      if (source.getD 0 0).toNat < 128 ∧ decoded.2 + 16 < 8 * source.length then some decoded.1
      else none := by
  have started := start_follows source
  have later := @place_decode_all source ⟨128, (source.getD 0 0).toNat, 8⟩ probabilities
  by_cases good : (source.getD 0 0).toNat < 128 ∧ 4 ≤ source.length
  · rw [if_pos good] at started
    rw [read_all_follows started]
    simp only [good.1, true_and]
  · rw [if_neg good] at started
    rw [read_all_failed started]
    dsimp only at later ⊢
    rw [if_neg (by omega)]

end CedarC.Vp9BoolCoder
