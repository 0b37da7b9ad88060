import CedarC.H264SpsReader
import Mathlib.Data.Nat.Bitwise

/-!
# A bit reader over bytes

The reader whose state is the number of bits that have been read, so that what a read takes is
a difference of states.
-/

namespace CedarC.ByteReader

open H264SpsReader List

/-- The bits of bytes, the highest of a byte first; behind them there are zeros. -/
def bitAt (bytes : List UInt8) (place : Nat) : Bool :=
  (bytes.getD (place / 8) 0).toNat.testBit (7 - place % 8)

def bitsAt (bytes : List UInt8) (place count : Nat) : Nat :=
  Nat.ofBits fun bit : Fin count => bitAt bytes (place + (count - 1 - bit))

def zerosAt (bytes : List UInt8) (place : Nat) : Nat :=
  ((List.range (8 * bytes.length - place)).takeWhile
    fun later => !bitAt bytes (place + later)).length

def ueAt (bytes : List UInt8) (place : Nat) : Nat :=
  2 ^ zerosAt bytes place - 1 + bitsAt bytes (place + zerosAt bytes place + 1) (zerosAt bytes place)

def seAt (bytes : List UInt8) (place : Nat) : Int :=
  if ueAt bytes place % 2 = 0 then -(ueAt bytes place / 2 : Nat)
  else ((ueAt bytes place + 1) / 2 : Nat)

@[reducible] def byteReader (bytes : List UInt8) : BitReader where
  State := Nat
  getBits count place := (UInt32.ofNat (bitsAt bytes place count), place + count)
  getUeGolomb place :=
    (UInt32.ofNat (ueAt bytes place), place + (2 * zerosAt bytes place + 1))
  getSeGolomb place :=
    (Int32.ofInt (seAt bytes place), place + (2 * zerosAt bytes place + 1))
  bits_lt _ _ := Nat.lt_of_le_of_lt (Nat.mod_le _ _) (Nat.ofBits_lt_two_pow _)

section Bits

variable (stream : List UInt8)

theorem bits_at_one (place : Nat) : bitsAt stream place 1 = (bitAt stream place).toNat := by
  unfold bitsAt
  rw [Nat.ofBits_succ, Nat.ofBits_zero, Nat.mul_zero, Nat.zero_add]
  rfl

theorem bits_at_byte (position : Nat) :
    bitsAt stream (8 * position) 8 = (stream.getD position 0).toNat := by
  have same : (fun bit : Fin 8 => bitAt stream (8 * position + (8 - 1 - bit))) =
      fun bit : Fin 8 => (stream.getD position 0).toNat.testBit bit := by
    funext bit
    have small := bit.isLt
    have byte : (8 * position + (8 - 1 - bit)) / 8 = position := by omega
    have inside : 7 - (8 * position + (8 - 1 - bit)) % 8 = bit := by omega
    unfold bitAt
    rw [byte, inside]
  unfold bitsAt
  rw [same, Nat.ofBits_testBit]
  exact Nat.mod_eq_of_lt (UInt8.toNat_lt _)

theorem bits_at_lt (place count : Nat) : bitsAt stream place count < 2 ^ count :=
  Nat.ofBits_lt_two_pow _

theorem get_bits_read (count place : Nat) : GetBits (byteReader stream) count place =
      (UInt32.ofNat (bitsAt stream place count), (place + count : Nat)) := rfl

theorem get_flag_read (place : Nat) :
    GetFlag (byteReader stream) place = (bitAt stream place, (place + 1 : Nat)) := by
  have value : (UInt32.ofNat (bitsAt stream place 1) != 0) = bitAt stream place := by
    rw [bits_at_one]
    cases bitAt stream place <;> rfl
  exact Prod.ext value rfl

theorem bind_read {State First Second : Type} (first : StateM State First)
    (second : First → StateM State Second) (state : State) :
    (first >>= second) state = second (first state).1 (first state).2 := rfl

theorem pure_read {State Value : Type} (value : Value) (state : State) :
    (pure value : StateM State Value) state = (value, state) := rfl

end Bits

variable (bytes : List UInt8)

theorem zeros_at_step (place : Nat) : zerosAt bytes place =
      if place < 8 * bytes.length ∧ bitAt bytes place = false then zerosAt bytes (place + 1) + 1
      else 0 := by
  by_cases inside : place < 8 * bytes.length
  · have one : 8 * bytes.length - place = 8 * bytes.length - (place + 1) + 1 := by omega
    have later : (fun later => !bitAt bytes (place + later)) ∘ Nat.succ =
        fun later => !bitAt bytes (place + 1 + later) := by
      funext later
      have same : place + later.succ = place + 1 + later := by omega
      exact congrArg (fun place => !bitAt bytes place) same
    rw [zerosAt, one, range_succ_eq_map, takeWhile_cons, Nat.add_zero, takeWhile_map, later]
    cases bit : bitAt bytes place with
    | false =>
      rw [if_pos Bool.not_false, if_pos ⟨inside, rfl⟩, length_cons, length_map]
      rfl
    | true =>
      rw [if_neg (by decide), if_neg fun both => (nomatch both.2)]
      rfl
  · have none : 8 * bytes.length - place = 0 := by omega
    rw [if_neg fun both => inside both.1, zerosAt, none]
    rfl

theorem bit_at_append (behind : List UInt8) {place : Nat} (inside : place < 8 * bytes.length) :
    bitAt (bytes ++ behind) place = bitAt bytes place := by
  have byte : place / 8 < bytes.length := by omega
  unfold bitAt
  rw [getD_append _ _ _ _ byte]

theorem zeros_at_agree {other : List UInt8} {stop place zeros : Nat}
    (agree : ∀ place < stop, bitAt other place = bitAt bytes place)
    (here : stop ≤ 8 * bytes.length) (there : stop ≤ 8 * other.length)
    (found : zerosAt bytes place = zeros) (inside : place + zeros < stop) :
    zerosAt other place = zeros := by
  induction zeros generalizing place with
  | zero =>
    rw [Nat.add_zero] at inside
    rw [zeros_at_step] at found ⊢
    rw [agree place inside]
    apply if_neg
    intro both
    rw [if_pos ⟨by omega, both.2⟩] at found
    omega
  | succ zeros later =>
    rw [zeros_at_step] at found ⊢
    by_cases both : place < 8 * bytes.length ∧ bitAt bytes place = false
    · rw [if_pos both] at found
      rw [agree place (by omega), if_pos ⟨by omega, both.2⟩, later (Nat.succ.inj found) (by omega)]
    · rw [if_neg both] at found
      omega

end CedarC.ByteReader
