import CedarC.ByteReader

/-!
# A window of four bytes on a bit buffer

What is shown of the window are the bits of the buffer up to the end of the fourth byte, with
zeros behind them.
-/

namespace CedarC.BitWindow

open ByteReader

section Window

variable (buffer : List UInt8) (index : Nat)

def WindowInside : Prop := index / 8 + 4 ≤ buffer.length
deriving Decidable

/-- The result is `none` where one of the bytes is behind the buffer. -/
def AV_RB32 (place : Nat) : Option Nat :=
  if place + 4 ≤ buffer.length then
    some ((buffer.getD place 0).toNat <<< 24 ||| (buffer.getD (place + 1) 0).toNat <<< 16 |||
      (buffer.getD (place + 2) 0).toNat <<< 8 ||| (buffer.getD (place + 3) 0).toNat)
  else none

def UPDATE_CACHE : Option Nat :=
  (AV_RB32 buffer (index / 8)).map fun bytes => bytes <<< (index % 8) % 2 ^ 32

def SHOW_UBITS (cache num : Nat) : Nat := cache >>> (32 - num)

/-- The bits behind the window, which it shows as zeros, are zeros. -/
def Held (count : Nat) : Prop :=
  bitsAt buffer (index + (32 - index % 8)) (count - (32 - index % 8)) = 0
deriving Decidable

end Window

section Bits

variable {buffer : List UInt8}

theorem bits_at_none (place : Nat) : bitsAt buffer place 0 = 0 := Nat.ofBits_zero _

theorem bits_at_succ (place count : Nat) : bitsAt buffer place (count + 1) =
      2 * bitsAt buffer place count + (bitAt buffer (place + count)).toNat := by
  have later : (fun bit : Fin (count + 1) => bitAt buffer (place + (count + 1 - 1 - bit))) ∘
      Fin.succ = fun bit : Fin count => bitAt buffer (place + (count - 1 - bit)) := by
    funext bit
    have same : place + (count + 1 - 1 - bit.succ) = place + (count - 1 - bit) := by
      rw [Fin.val_succ]
      omega
    exact congrArg (bitAt buffer) same
  unfold bitsAt
  rw [Nat.ofBits_succ, later]
  rfl

theorem bits_at_add (place high low : Nat) : bitsAt buffer place (high + low) =
      bitsAt buffer place high * 2 ^ low + bitsAt buffer (place + high) low := by
  induction low with
  | zero => rw [bits_at_none, Nat.add_zero, Nat.pow_zero, Nat.mul_one, Nat.add_zero]
  | succ low shorter =>
    rw [← Nat.add_assoc, bits_at_succ, shorter, bits_at_succ, Nat.pow_succ, Nat.add_assoc place]
    grind

theorem window_bits {place : Nat} (inside : place + 4 ≤ buffer.length) :
    AV_RB32 buffer place = some (bitsAt buffer (8 * place) 32) := by
  have byte : ∀ k, (buffer.getD k 0).toNat < 2 ^ 8 := fun _ => UInt8.toNat_lt _
  have first := byte place
  have second := byte (place + 1)
  have third := byte (place + 2)
  have sum : bitsAt buffer (8 * place) 32 = (buffer.getD place 0).toNat <<< 24 +
      ((buffer.getD (place + 1) 0).toNat <<< 16 + ((buffer.getD (place + 2) 0).toNat <<< 8 +
        (buffer.getD (place + 3) 0).toNat)) := by
    rw [show 32 = 8 + (8 + (8 + 8)) from rfl, bits_at_add, bits_at_add, bits_at_add,
      bits_at_byte, show 8 * place + 8 = 8 * (place + 1) by omega, bits_at_byte,
      show 8 * (place + 1) + 8 = 8 * (place + 2) by omega, bits_at_byte,
      show 8 * (place + 2) + 8 = 8 * (place + 3) by omega, bits_at_byte]
    simp only [Nat.shiftLeft_eq]
  have low : (buffer.getD (place + 2) 0).toNat <<< 8 + (buffer.getD (place + 3) 0).toNat <
      2 ^ 16 := by
    have fourth := byte (place + 3)
    rw [Nat.shiftLeft_eq]
    omega
  have middle : (buffer.getD (place + 1) 0).toNat <<< 16 +
      ((buffer.getD (place + 2) 0).toNat <<< 8 + (buffer.getD (place + 3) 0).toNat) < 2 ^ 24 := by
    rw [Nat.shiftLeft_eq (_ : Nat) 16]
    omega
  rw [AV_RB32, if_pos inside, sum, Nat.shiftLeft_add_eq_or_of_lt middle,
    Nat.shiftLeft_add_eq_or_of_lt low, Nat.shiftLeft_add_eq_or_of_lt (byte (place + 3)),
    Nat.or_assoc, Nat.or_assoc]

variable {index : Nat}

theorem no_cache (outside : ¬WindowInside buffer index) : UPDATE_CACHE buffer index = none := by
  unfold WindowInside at outside
  rw [UPDATE_CACHE, AV_RB32, if_neg outside]
  rfl

theorem window_power (index : Nat) : 2 ^ (32 - index % 8) * 2 ^ (index % 8) = 2 ^ 32 := by
  rw [← Nat.pow_add]
  congr 1
  omega

theorem cache_bits (inside : WindowInside buffer index) :
    UPDATE_CACHE buffer index = some (bitsAt buffer index (32 - index % 8) * 2 ^ (index % 8)) := by
  have whole : 32 = index % 8 + (32 - index % 8) := by omega
  have start : 8 * (index / 8) + index % 8 = index := Nat.div_add_mod index 8
  have parts := @bits_at_add buffer (8 * (index / 8)) (index % 8) (32 - index % 8)
  rw [← whole, start] at parts
  have small : bitsAt buffer index (32 - index % 8) * 2 ^ (index % 8) < 2 ^ 32 := by
    rw [← window_power index]
    exact Nat.mul_lt_mul_of_pos_right (bits_at_lt buffer _ _) (Nat.two_pow_pos _)
  rw [UPDATE_CACHE, window_bits inside, Option.map_some, parts, Nat.shiftLeft_eq, Nat.add_mul,
    Nat.mul_assoc, window_power, Nat.mul_add_mod_self_right, Nat.mod_eq_of_lt small]

theorem held_short {count : Nat} (short : count ≤ 32 - index % 8) : Held buffer index count := by
  unfold Held
  rw [Nat.sub_eq_zero_of_le short, bits_at_none]

variable {cache : Nat} (window : UPDATE_CACHE buffer index = some cache)

include window

theorem cache_inside : WindowInside buffer index := by
  by_contra outside
  rw [no_cache outside] at window
  exact nomatch window

theorem cache_value : cache = bitsAt buffer index (32 - index % 8) * 2 ^ (index % 8) := by
  have known := cache_bits (cache_inside window)
  rw [window] at known
  exact Option.some.inj known

theorem cache_lt : cache < 2 ^ 32 := by
  rw [cache_value window, ← window_power index]
  exact Nat.mul_lt_mul_of_pos_right (bits_at_lt buffer _ _) (Nat.two_pow_pos _)

theorem show_right_iff {count : Nat} (most : count ≤ 32) :
    SHOW_UBITS cache count = bitsAt buffer index count ↔ Held buffer index count := by
  rw [SHOW_UBITS, Nat.shiftRight_eq_div_pow, cache_value window]
  rcases Nat.le_total count (32 - index % 8) with short | long
  · -- all the bits are inside the window
    apply iff_of_true _ (held_short short)
    have parts := @bits_at_add buffer index count (32 - index % 8 - count)
    have rest := bits_at_lt buffer (index + count) (32 - index % 8 - count)
    have size : 32 - count = 32 - index % 8 - count + index % 8 := by omega
    rw [Nat.add_sub_cancel' short] at parts
    rw [size, Nat.pow_add, Nat.mul_div_mul_right _ _ (Nat.two_pow_pos _), parts, Nat.mul_comm,
      Nat.mul_add_div (Nat.two_pow_pos _), Nat.div_eq_of_lt rest, Nat.add_zero]
  · have parts := @bits_at_add buffer index (32 - index % 8) (count - (32 - index % 8))
    have size : index % 8 = count - (32 - index % 8) + (32 - count) := by omega
    have shown : bitsAt buffer index (32 - index % 8) * 2 ^ (index % 8) / 2 ^ (32 - count) =
        bitsAt buffer index (32 - index % 8) * 2 ^ (count - (32 - index % 8)) := by
      have power : 2 ^ (index % 8) = 2 ^ (count - (32 - index % 8) + (32 - count)) :=
        congrArg (2 ^ ·) size
      rw [power, Nat.pow_add, ← Nat.mul_assoc, Nat.mul_div_cancel _ (Nat.two_pow_pos _)]
    rw [Nat.add_sub_cancel' long] at parts
    rw [shown, parts, Held]
    omega

theorem show_short {count : Nat} (short : count ≤ 32 - index % 8) :
    SHOW_UBITS cache count = bitsAt buffer index count :=
  (show_right_iff window (by omega)).mpr (held_short short)

end Bits

variable {buffer : List UInt8} {index : Nat}

theorem zero_bit {later : Nat} (before : later < zerosAt buffer index) :
    bitAt buffer (index + later) = false := by
  induction later generalizing index with
  | zero =>
    by_contra one
    rw [zeros_at_step, if_neg fun both => one both.2] at before
    omega
  | succ later ih =>
    rw [zeros_at_step] at before
    split_ifs at before with both
    · have next := @ih (index + 1) (by omega)
      rwa [Nat.add_right_comm] at next
    · omega

theorem one_bit (inside : index + zerosAt buffer index < 8 * buffer.length) :
    bitAt buffer (index + zerosAt buffer index) = true := by
  generalize found : zerosAt buffer index = zeros at inside
  induction zeros generalizing index with
  | zero =>
    by_contra zero
    rw [zeros_at_step, if_pos ⟨inside, Bool.eq_false_iff.mpr zero⟩] at found
    omega
  | succ zeros shorter =>
    rw [zeros_at_step] at found
    split_ifs at found with both
    · have next := @shorter (index + 1) (by omega) (by omega)
      rwa [Nat.add_right_comm] at next

theorem zeros_before {count : Nat} (before : count ≤ zerosAt buffer index) :
    bitsAt buffer index count = 0 := by
  induction count with
  | zero => exact bits_at_none index
  | succ count shorter =>
    rw [bits_at_succ, shorter (by omega), zero_bit before]
    rfl

variable {zeros : Nat} (found : zerosAt buffer index = zeros)

include found

section Code

variable (inside : index + zeros < 8 * buffer.length)

include inside

/-- The bits from a run of zeros on are those of a number whose highest bit ends the run. -/
theorem bits_behind_zeros (count : Nat) : bitsAt buffer index (zeros + 1 + count) =
      2 ^ count + bitsAt buffer (index + zeros + 1) count := by
  subst found
  rw [bits_at_add, bits_at_succ, zeros_before (Nat.le_refl _), one_bit inside, ← Nat.add_assoc]
  simp

theorem ue_bits : ueAt buffer index + 1 = bitsAt buffer index (2 * zeros + 1) := by
  have positive := Nat.two_pow_pos zeros
  have size : 2 * zeros + 1 = zeros + 1 + zeros := by omega
  rw [size, bits_behind_zeros found inside, ueAt, found]
  omega

theorem ue_behind_zeros : ueAt buffer index + 1 = bitsAt buffer (index + zeros) (zeros + 1) := by
  have size : 2 * zeros + 1 = zeros + (zeros + 1) := by omega
  rw [ue_bits found inside, size, bits_at_add, zeros_before (Nat.le_of_eq found.symm),
    Nat.zero_mul, Nat.zero_add]

end Code

variable {cache : Nat} (window : UPDATE_CACHE buffer index = some cache)

include window

theorem cache_log2 (inside : index + zeros < 8 * buffer.length) (shown : zeros < 32 - index % 8) :
    2 ^ (31 - zeros) ≤ cache ∧ cache < 2 ^ (32 - zeros) := by
  have size : 32 - index % 8 = zeros + 1 + (31 - zeros - index % 8) := by omega
  have rest := bits_at_lt buffer (index + zeros + 1) (31 - zeros - index % 8)
  have low : 31 - zeros = 31 - zeros - index % 8 + index % 8 := by omega
  have high : 32 - zeros = 31 - zeros + 1 := by omega
  have power : 2 ^ (31 - zeros) = 2 ^ (31 - zeros - index % 8) * 2 ^ (index % 8) := by
    rw [← Nat.pow_add, ← low]
  rw [cache_value window, size, bits_behind_zeros found inside, high, Nat.pow_succ, power]
  constructor
  · exact Nat.mul_le_mul_right _ (by omega)
  · rw [Nat.mul_right_comm]
    exact Nat.mul_lt_mul_of_pos_right (by omega) (Nat.two_pow_pos _)

theorem cache_zero (behind : 32 - index % 8 ≤ zeros) : cache = 0 := by
  rw [cache_value window, zeros_before (by omega), Nat.zero_mul]

end CedarC.BitWindow
