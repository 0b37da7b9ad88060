import CedarC.BitWindow
import Mathlib.Tactic.IntervalCases

/-!
# The software bit reader of the H.264 decoder

The calls read a buffer of bytes at a bit index. A call has no result where it reads a byte
behind `buffer_end` or shifts by a negative count.
-/

namespace CedarC.H264SoftwareReader

open ByteReader BitWindow Option

def h264_golomb_vlc_len : List Nat :=
  .replicate 16 0 ++ .replicate 16 9 ++ .replicate 32 7 ++ .replicate 64 5 ++ .replicate 128 3 ++
    .replicate 256 1

def h264_ue_golomb_vlc_code : List Nat :=
  .replicate 16 0 ++ [15, 16, 17, 18, 19, 20, 21, 22, 23, 24, 25, 26, 27, 28, 29, 30] ++
    [7, 8, 9, 10, 11, 12, 13, 14].flatMap (.replicate 4) ++ [3, 4, 5, 6].flatMap (.replicate 16) ++
    [1, 2].flatMap (.replicate 64) ++ .replicate 256 0

def h264_se_golomb_vlc_code : List Int :=
  .replicate 16 0 ++ [8, -8, 9, -9, 10, -10, 11, -11, 12, -12, 13, -13, 14, -14, 15, -15] ++
    [4, -4, 5, -5, 6, -6, 7, -7].flatMap (.replicate 4) ++ [2, -2, 3, -3].flatMap (.replicate 16) ++
    [1, -1].flatMap (.replicate 64) ++ .replicate 256 0

def h264_log2_tab : List Nat :=
  [0, 0] ++ .replicate 2 1 ++ .replicate 4 2 ++ .replicate 8 3 ++ .replicate 16 4 ++
    .replicate 32 5 ++ .replicate 64 6 ++ .replicate 128 7

section Reader

variable (buffer : List UInt8) (index : Nat)

def H264av_log2 (v : Nat) : Nat :=
  let (v, n) := if v &&& 0xffff0000 ≠ 0 then (v >>> 16, 16) else (v, 0)
  let (v, n) := if v &&& 0xff00 ≠ 0 then (v >>> 8, n + 8) else (v, n)
  n + h264_log2_tab.getD v 0

def H264GetBits1 : Option (Int × Nat) :=
  buffer[index / 8]?.map fun byte =>
    (((byte.toNat <<< (index % 8) % 2 ^ 8) >>> 7 : Nat), index + 1)

def H264GetBitsSw (n : Nat) : Option (Int × Nat) :=
  if n = 1 then H264GetBits1 buffer index
  else (UPDATE_CACHE buffer index).map fun cache => ((SHOW_UBITS cache n : Nat), index + n)

def H264ShowBitsSw (n : Nat) : Option (Int × Nat) :=
  (UPDATE_CACHE buffer index).map fun cache => ((SHOW_UBITS cache n : Nat), index)

def H264GetUeGolombSw : Option (Int × Nat) :=
  (UPDATE_CACHE buffer index).bind fun buf =>
    if buf ≥ 2 ^ 27 then
      some ((h264_ue_golomb_vlc_code.getD (buf >>> (32 - 9)) 0 : Nat),
        index + h264_golomb_vlc_len.getD (buf >>> (32 - 9)) 0)
    else if 2 * H264av_log2 buf < 31 then none  -- the shift count is negative
    else
      let log := 2 * H264av_log2 buf - 31
      some (((buf >>> log + (2 ^ 32 - 1)) % 2 ^ 32 : Nat), index + (32 - log))

/-- The sign is the lowest bit of `buf`, in 32-bit arithmetic. -/
def signed (buf : UInt32) : Int :=
  let sign := 0 - (buf &&& 1)
  ((buf >>> 1 ^^^ sign) - sign).toInt32.toInt

def H264GetSeGolombSw : Option (Int × Nat) :=
  (UPDATE_CACHE buffer index).bind fun buf =>
    if buf ≥ 2 ^ 27 then
      some (h264_se_golomb_vlc_code.getD (buf >>> (32 - 9)) 0,
        index + h264_golomb_vlc_len.getD (buf >>> (32 - 9)) 0)
    else
      let log := H264av_log2 buf
      (UPDATE_CACHE buffer (index + (31 - log))).map fun buf =>
        (signed (UInt32.ofNat (buf >>> log)), index + (31 - log) + (32 - log))

inductive Call
  | GetBits (n : Nat)
  | ShowBits (n : Nat)
  | GetUeGolomb
  | GetSeGolomb

def run : Call → Option (Int × Nat)
  | .GetBits n => H264GetBitsSw buffer index n
  | .ShowBits n => H264ShowBitsSw buffer index n
  | .GetUeGolomb => H264GetUeGolombSw buffer index
  | .GetSeGolomb => H264GetSeGolombSw buffer index

/-- The value and the next index of the standard. -/
def standard : Call → Int × Nat
  | .GetBits n => (bitsAt buffer index n, index + n)
  | .ShowBits n => (bitsAt buffer index n, index)
  | .GetUeGolomb => (ueAt buffer index, index + (2 * zerosAt buffer index + 1))
  | .GetSeGolomb => (seAt buffer index, index + (2 * zerosAt buffer index + 1))

/-- The bits that are asked for are inside the buffer, and a code is one of 32 bits. -/
def Allowed : Call → Prop
  | .GetBits n | .ShowBits n => 1 ≤ n ∧ n ≤ 32 ∧ index + n ≤ 8 * buffer.length
  | .GetUeGolomb | .GetSeGolomb => zerosAt buffer index ≤ 31 ∧
      index + (2 * zerosAt buffer index + 1) ≤ 8 * buffer.length

def ReadRight : Call → Prop
  | .GetBits n => n = 1 ∨ WindowInside buffer index ∧ Held buffer index n
  | .ShowBits n => WindowInside buffer index ∧ Held buffer index n
  | .GetUeGolomb => WindowInside buffer index ∧ zerosAt buffer index ≤ 15 ∧
      Held buffer index (2 * zerosAt buffer index + 1)
  | .GetSeGolomb => WindowInside buffer index ∧ (zerosAt buffer index ≤ 4 ∨
      (zerosAt buffer index < 32 - index % 8 ∨ zerosAt buffer index = 31) ∧
        WindowInside buffer (index + zerosAt buffer index) ∧
        Held buffer (index + zerosAt buffer index) (zerosAt buffer index + 1))

end Reader

theorem high_bits_zero_iff {v low high : Nat} (small : v < 2 ^ (low + high)) :
    v &&& (2 ^ high - 1) <<< low = 0 ↔ v < 2 ^ low := by
  have shifted : v &&& (2 ^ high - 1) <<< low = v >>> low <<< low := by
    apply Nat.eq_of_testBit_eq
    intro bit
    simp only [Nat.testBit_and, Nat.testBit_shiftLeft, Nat.testBit_two_pow_sub_one,
      Nat.testBit_shiftRight]
    by_cases above : low ≤ bit
    · have place : low + (bit - low) = bit := by omega
      rw [place]
      by_cases inside : bit - low < high
      · simp [above, inside]
      · have none : v.testBit bit = false := Nat.testBit_lt_two_pow
          (Nat.lt_of_lt_of_le small (Nat.pow_le_pow_right (by decide) (by omega)))
        simp [none]
    · simp [above]
  rw [shifted, Nat.shiftLeft_eq, Nat.mul_eq_zero, Nat.shiftRight_eq_div_pow, Nat.div_eq_zero_iff]
  have positive := Nat.two_pow_pos low
  omega

theorem log2_shift {v low : Nat} (large : 2 ^ low ≤ v) :
    low + Nat.log2 (v >>> low) = Nat.log2 v := by
  have positive := Nat.two_pow_pos low
  have shifted : v >>> low ≠ 0 := by
    rw [Nat.shiftRight_eq_div_pow]
    exact Nat.ne_of_gt (Nat.div_pos large positive)
  obtain ⟨least, most⟩ := (Nat.log2_eq_iff shifted).mp rfl
  symm
  rw [Nat.log2_eq_iff (by omega), Nat.add_assoc, Nat.pow_add, Nat.pow_add 2 low]
  rw [Nat.shiftRight_eq_div_pow] at least most ⊢
  constructor
  · rw [Nat.mul_comm]
    exact (Nat.le_div_iff_mul_le positive).mp least
  · rw [Nat.mul_comm]
    exact (Nat.div_lt_iff_lt_mul positive).mp most

theorem map_entry {Value : Type} {values : List Value} {value : Nat → Value} {count k : Nat}
    (default : Value) (listed : values = (List.range count).map value) (inside : k < count) :
    values.getD k default = value k := by
  rw [listed, List.getD_eq_getElem?_getD, List.getElem?_map, List.getElem?_range inside]
  rfl

theorem tab_log2 : h264_log2_tab = (List.range (2 ^ 8)).map Nat.log2 := by decide +kernel

theorem av_log2 {v : Nat} (small : v < 2 ^ 32) : H264av_log2 v = Nat.log2 v := by
  have tail : ∀ v < 2 ^ 16, ∀ n,
      (let (v, n) := if v &&& 0xff00 ≠ 0 then (v >>> 8, n + 8) else (v, n);
        n + h264_log2_tab.getD v 0) = n + Nat.log2 v := by
    intro v small n
    have zero := @high_bits_zero_iff v 8 8 small
    by_cases high : v &&& 0xff00 = 0
    · rw [if_neg (not_not.mpr high)]
      exact congrArg (n + ·) (map_entry 0 tab_log2 (zero.mp high))
    · have large : 2 ^ 8 ≤ v := Nat.le_of_not_lt fun low => high (zero.mpr low)
      have shifted : v >>> 8 < 2 ^ 8 := by
        rw [Nat.shiftRight_eq_div_pow]
        omega
      rw [if_pos high]
      dsimp only
      rw [map_entry 0 tab_log2 shifted, ← log2_shift large]
      exact Nat.add_assoc n 8 _
  have zero := @high_bits_zero_iff v 16 16 small
  unfold H264av_log2
  by_cases high : v &&& 0xffff0000 = 0
  · rw [if_neg (not_not.mpr high)]
    exact (tail v (zero.mp high) 0).trans (Nat.zero_add _)
  · have large : 2 ^ 16 ≤ v := Nat.le_of_not_lt fun low => high (zero.mpr low)
    have shifted : v >>> 16 < 2 ^ 16 := by
      rw [Nat.shiftRight_eq_div_pow]
      omega
    rw [if_pos high, ← log2_shift large]
    exact tail _ shifted 16

section Codes

/-- The value of a signed code whose bits are those of `buf`. -/
def folded (buf : Nat) : Int := if buf % 2 = 0 then (buf / 2 : Nat) else -(buf / 2 : Nat)

theorem signed_fold {buf : Nat} (small : buf < 2 ^ 32) :
    signed (UInt32.ofNat buf) = folded buf := by
  have low : UInt32.ofNat buf &&& 1 = UInt32.ofNat (buf % 2) := by
    apply UInt32.toNat_inj.mp
    rw [UInt32.toNat_and, UInt32.toNat_ofNat_of_lt' small,
      UInt32.toNat_ofNat_of_lt' (Nat.lt_of_le_of_lt (Nat.mod_le _ _) small)]
    exact Nat.and_one_is_mod buf
  have half : (UInt32.ofNat buf >>> 1).toNat = buf / 2 := by
    rw [UInt32.toNat_shiftRight, UInt32.toNat_ofNat_of_lt' small]
    exact Nat.shiftRight_eq_div_pow buf 1
  have value : (UInt32.ofNat buf >>> 1).toBitVec.toInt = (buf / 2 : Nat) := by
    have below : 2 * (UInt32.ofNat buf >>> 1).toNat < 2 ^ 32 := by omega
    rw [BitVec.toInt_eq_toNat_of_lt below]
    exact congrArg Nat.cast half
  unfold signed folded
  dsimp only
  rw [low]
  rcases Nat.mod_two_eq_zero_or_one buf with even | odd
  · rw [even, if_pos rfl, show (0 : UInt32) - UInt32.ofNat 0 = 0 from rfl, UInt32.xor_zero,
      UInt32.sub_zero]
    exact value
  · have negated : ∀ half : UInt32, (half ^^^ (0 - 1)) - (0 - 1) = -half := by
      intro half
      apply UInt32.eq_of_toBitVec_eq
      simp [BitVec.neg_eq_not_add]
    rw [odd, if_neg (by decide), UInt32.ofNat_one, negated]
    change (-(UInt32.ofNat buf >>> 1).toBitVec).toInt = _
    rw [BitVec.toInt_neg, value]
    apply Int.bmod_eq_of_le <;> omega

theorem signed_eq_iff {one other : Nat} (small : one < 2 ^ 32) (otherSmall : other < 2 ^ 32)
    (large : 2 ≤ other) :
    signed (UInt32.ofNat one) = signed (UInt32.ofNat other) ↔ one = other := by
  rw [signed_fold small, signed_fold otherSmall]
  unfold folded
  split_ifs <;> omega

/-- The code that nine bits start with. -/
def codeOf (bits : Nat) : Nat := bits / 2 ^ (8 - 2 * (8 - Nat.log2 bits))

theorem vlc_codes : (h264_golomb_vlc_len = (List.range (2 ^ 9)).map fun bits =>
      if bits < 16 then 0 else 2 * (8 - Nat.log2 bits) + 1) ∧
    (h264_ue_golomb_vlc_code = (List.range (2 ^ 9)).map fun bits =>
      if bits < 16 then 0 else codeOf bits - 1) ∧
    h264_se_golomb_vlc_code = (List.range (2 ^ 9)).map fun bits =>
      if bits < 16 then 0 else folded (codeOf bits) := by
  decide +kernel

variable {buffer : List UInt8} {index : Nat}

theorem get_bits1 (inside : index / 8 < buffer.length) :
    H264GetBits1 buffer index = some ((bitsAt buffer index 1 : Int), index + 1) := by
  have value : ((buffer.getD (index / 8) 0).toNat <<< (index % 8) % 2 ^ 8) >>> 7 =
      bitsAt buffer index 1 := by
    rw [bits_at_one, bitAt, Nat.toNat_testBit, Nat.shiftLeft_eq, Nat.shiftRight_eq_div_pow]
    have small : index % 8 < 8 := Nat.mod_lt _ (by decide)
    generalize index % 8 = place at small
    interval_cases place <;> omega
  rw [H264GetBits1, List.getElem?_eq_getElem inside, map_some, ← value,
    List.getD_eq_getElem _ _ inside]

theorem se_fold : seAt buffer index = folded (ueAt buffer index + 1) := by
  unfold seAt folded
  split_ifs <;> omega

variable {cache zeros : Nat} (found : zerosAt buffer index = zeros)
  (window : UPDATE_CACHE buffer index = some cache) (inside : index + zeros < 8 * buffer.length)

include found window inside

theorem short_iff : cache ≥ 2 ^ 27 ↔ zeros ≤ 4 := by
  rcases Nat.lt_or_ge (zeros) (32 - index % 8) with shown | behind
  · obtain ⟨least, most⟩ := cache_log2 found window inside shown
    constructor
    · intro large
      by_contra long
      have fewer : 2 ^ (32 - zeros) ≤ 2 ^ 27 := Nat.pow_le_pow_right (by decide) (by omega)
      omega
    · intro short
      exact Nat.le_trans (Nat.pow_le_pow_right (by decide) (by omega)) least
  · rw [cache_zero found window behind]
    omega

theorem cache_log (shown : zeros < 32 - index % 8) : H264av_log2 cache = 31 - zeros := by
  obtain ⟨least, most⟩ := cache_log2 found window inside shown
  have positive := Nat.two_pow_pos (31 - zeros)
  have next : 31 - zeros + 1 = 32 - zeros := by omega
  rw [av_log2 (cache_lt window)]
  exact (Nat.log2_eq_iff (by omega)).mpr ⟨least, by rwa [next]⟩

omit inside in
theorem cache_log_zero (behind : 32 - index % 8 ≤ zeros) : H264av_log2 cache = 0 := by
  rw [cache_zero found window behind, av_log2 (by decide)]
  rfl

theorem short_code (short : zeros ≤ 4) :
    h264_golomb_vlc_len.getD (cache >>> (32 - 9)) 0 = 2 * zeros + 1 ∧
    h264_ue_golomb_vlc_code.getD (cache >>> (32 - 9)) 0 = ueAt buffer index ∧
    h264_se_golomb_vlc_code.getD (cache >>> (32 - 9)) 0 = seAt buffer index := by
  have looked : cache >>> (32 - 9) = bitsAt buffer index 9 := show_short window (by omega)
  have behind := bits_behind_zeros found inside (8 - zeros)
  have size : zeros + 1 + (8 - zeros) = 9 := by omega
  have rest := bits_at_lt buffer (index + zeros + 1) (8 - zeros)
  rw [size] at behind
  have log : Nat.log2 (bitsAt buffer index 9) = 8 - zeros := by
    rw [Nat.log2_eq_iff (by omega), Nat.pow_succ]
    omega
  have count : 8 - Nat.log2 (bitsAt buffer index 9) = zeros := by omega
  have least : 2 ^ 4 ≤ 2 ^ (8 - zeros) := Nat.pow_le_pow_right (by decide) (by omega)
  have code : bitsAt buffer index 9 / 2 ^ (8 - 2 * zeros) = ueAt buffer index + 1 := by
    have whole : 2 * zeros + 1 + (8 - 2 * zeros) = 9 := by omega
    have parts := @bits_at_add buffer index (2 * zeros + 1)
      (8 - 2 * zeros)
    rw [whole] at parts
    rw [parts, Nat.mul_comm, Nat.mul_add_div (Nat.two_pow_pos _),
      Nat.div_eq_of_lt (bits_at_lt buffer _ _), Nat.add_zero, ue_bits found inside]
  have small := bits_at_lt buffer index 9
  have large : ¬bitsAt buffer index 9 < 16 := by omega
  rw [looked, map_entry 0 vlc_codes.1 small, map_entry 0 vlc_codes.2.1 small,
    map_entry 0 vlc_codes.2.2 small,
    if_neg large, if_neg large, if_neg large, codeOf, count, code, ← se_fold]
  exact ⟨rfl, Nat.add_sub_cancel _ _, rfl⟩

theorem unsigned_right_iff :
    H264GetUeGolombSw buffer index = some (standard buffer index .GetUeGolomb) ↔
      zeros ≤ 15 ∧ Held buffer index (2 * zeros + 1) := by
  rw [H264GetUeGolombSw, window, bind_some]
  dsimp only [standard]
  rw [found]
  by_cases short : zeros ≤ 4
  · obtain ⟨length, value, _⟩ := short_code found window inside short
    rw [if_pos ((short_iff found window inside).mpr short), length, value]
    exact iff_of_true rfl ⟨by omega, held_short (by omega)⟩
  rw [if_neg fun large => short ((short_iff found window inside).mp large)]
  rcases Nat.lt_or_ge 15 (zeros) with long | fits
  · -- twice the logarithm is below 31
    have log : H264av_log2 cache ≤ 15 := by
      rcases Nat.lt_or_ge (zeros) (32 - index % 8) with shown | behind
      · rw [cache_log found window inside shown]
        omega
      · rw [cache_log_zero found window behind]
        omega
    rw [if_pos (by omega)]
    exact iff_of_false (fun same => nomatch same) fun right => by omega
  · have log := cache_log found window inside (by omega)
    have count : 32 - (2 * zeros + 1) = 2 * (31 - zeros) - 31 := by omega
    have shown := @show_right_iff _ _ _ window (2 * zeros + 1) (by omega)
    have below := cache_lt window
    have most : SHOW_UBITS cache (2 * zeros + 1) ≤ cache := Nat.shiftRight_le _ _
    have codeSmall : bitsAt buffer index (2 * zeros + 1) < 2 ^ 32 :=
      Nat.lt_of_lt_of_le (bits_at_lt buffer _ _) (Nat.pow_le_pow_right (by decide) (by omega))
    rw [← ue_bits found inside] at shown codeSmall
    have shift : 32 - (2 * (31 - zeros) - 31) = 2 * zeros + 1 := by omega
    have window : cache >>> (2 * (31 - zeros) - 31) =
        SHOW_UBITS cache (2 * zeros + 1) := by rw [SHOW_UBITS, count]
    rw [log, if_neg (by omega), window, shift, Option.some.injEq, Prod.mk.injEq, ← shown]
    omega

theorem signed_right_iff (code : zeros ≤ 31) :
    H264GetSeGolombSw buffer index = some (standard buffer index .GetSeGolomb) ↔ zeros ≤ 4 ∨
      (zeros < 32 - index % 8 ∨ zeros = 31) ∧ WindowInside buffer (index + zeros) ∧
        Held buffer (index + zeros) (zeros + 1) := by
  rw [H264GetSeGolombSw, window, bind_some]
  dsimp only [standard]
  rw [found]
  by_cases short : zeros ≤ 4
  · obtain ⟨length, _, value⟩ := short_code found window inside short
    rw [if_pos ((short_iff found window inside).mpr short), length, value]
    exact iff_of_true rfl (.inl short)
  rw [if_neg fun large => short ((short_iff found window inside).mp large), or_iff_right short]
  -- the logarithm of a window of zeros is that of its last bit
  have log := cache_log found window inside
  have none := cache_log_zero found window
  by_cases reached : zeros < 32 - index % 8 ∨ zeros = 31
  · have known : H264av_log2 cache = 31 - zeros := by omega
    have skipped : 31 - (31 - zeros) = zeros := by omega
    have length : index + zeros + (32 - (31 - zeros)) = index + (2 * zeros + 1) := by omega
    have count : 31 - zeros = 32 - (zeros + 1) := by omega
    rw [known, skipped, length, and_iff_right reached]
    by_cases within : WindowInside buffer (index + zeros)
    · obtain ⟨refilled, again⟩ : ∃ refilled, UPDATE_CACHE buffer (index + zeros) = some refilled :=
        ⟨_, cache_bits within⟩
      have shown := @show_right_iff _ _ _ again (zeros + 1) (by omega)
      have small : SHOW_UBITS refilled (zeros + 1) < 2 ^ 32 :=
        Nat.lt_of_le_of_lt (Nat.shiftRight_le _ _) (cache_lt again)
      have fit := bits_at_lt buffer (index + zeros) (zeros + 1)
      have codeSmall : ueAt buffer index + 1 < 2 ^ 32 := by
        rw [ue_behind_zeros found inside]
        exact Nat.lt_of_lt_of_le fit (Nat.pow_le_pow_right (by decide) (by omega))
      have large : 2 ≤ ueAt buffer index + 1 := by
        have positive : 2 ^ 5 ≤ 2 ^ zeros := Nat.pow_le_pow_right (by decide) (by omega)
        rw [ueAt, found]
        omega
      rw [← ue_behind_zeros found inside, SHOW_UBITS, ← count] at shown
      rw [SHOW_UBITS, ← count] at small
      rw [again, map_some, and_iff_right within, ← shown, se_fold, ← signed_fold codeSmall,
        ← signed_eq_iff small codeSmall large, Option.some.injEq, Prod.mk.injEq, and_iff_left rfl]
    · rw [no_cache within]
      exact iff_of_false (some_ne_none _).symm fun right => within right.1
  · -- thirty-one zeros are skipped where there are fewer
    have zero : H264av_log2 cache = 0 := by omega
    rw [zero]
    apply iff_of_false _ fun right => reached right.1
    intro same
    obtain ⟨_, _, read⟩ := map_eq_some_iff.mp same
    have place := (Prod.mk.inj read).2
    omega

end Codes

variable {buffer : List UInt8} {index : Nat}

theorem show_bits_right_iff {n : Nat} (most : n ≤ 32) :
    H264ShowBitsSw buffer index n = some (standard buffer index (.ShowBits n)) ↔
      WindowInside buffer index ∧ Held buffer index n := by
  unfold H264ShowBitsSw
  dsimp only [standard]
  by_cases within : WindowInside buffer index
  · rw [cache_bits within, map_some, and_iff_right within,
      ← show_right_iff (cache_bits within) most, Option.some.injEq, Prod.mk.injEq,
      and_iff_left rfl, Int.natCast_inj]
  · rw [no_cache within]
    exact iff_of_false (some_ne_none _).symm fun right => within right.1

theorem read_right_iff (buffer : List UInt8) (index : Nat) (call : Call)
    (allowed : Allowed buffer index call) :
    run buffer index call = some (standard buffer index call) ↔ ReadRight buffer index call := by
  cases call with
  | ShowBits n => exact show_bits_right_iff allowed.2.1
  | GetBits n =>
    obtain ⟨least, most, inside⟩ := allowed
    dsimp only [run, ReadRight]
    unfold H264GetBitsSw
    by_cases one : n = 1
    · rw [if_pos one, get_bits1 (by omega), one]
      exact iff_of_true rfl (.inl rfl)
    · rw [if_neg one, or_iff_right one, ← show_bits_right_iff most]
      unfold H264ShowBitsSw
      cases UPDATE_CACHE buffer index with
      | none => exact iff_of_false (fun same => nomatch same) fun same => nomatch same
      | some cache => simp [standard]
  | GetUeGolomb =>
    dsimp only [run, ReadRight]
    by_cases within : WindowInside buffer index
    · rw [and_iff_right within]
      exact unsigned_right_iff rfl (cache_bits within) (Nat.lt_of_lt_of_le (by omega) allowed.2)
    · rw [H264GetUeGolombSw, no_cache within]
      exact iff_of_false (some_ne_none _).symm fun right => within right.1
  | GetSeGolomb =>
    dsimp only [run, ReadRight]
    by_cases within : WindowInside buffer index
    · rw [and_iff_right within]
      exact signed_right_iff rfl (cache_bits within) (Nat.lt_of_lt_of_le (by omega) allowed.2)
        allowed.1
    · rw [H264GetSeGolombSw, no_cache within]
      exact iff_of_false (some_ne_none _).symm fun right => within right.1

/-- The code of 301 at an unaligned index. -/
theorem short_code_read : run [224, 9, 112, 0, 0] 3 .GetUeGolomb =
    some (standard [224, 9, 112, 0, 0] 3 .GetUeGolomb) :=
  (read_right_iff _ _ .GetUeGolomb ⟨by decide, by decide⟩).mpr
    ⟨by decide, by decide, by decide⟩

/-- Thirty-two bits at an odd index lose the last one, the code of `idr_pic_id` 65535 shifts by a
negative count, and the last byte of a buffer is not read alone. -/
theorem long_reads_wrong : (Allowed [0, 0, 0, 0, 128, 0] 1 (.GetBits 32) ∧
      run [0, 0, 0, 0, 128, 0] 1 (.GetBits 32) = some (0, 33) ∧
      standard [0, 0, 0, 0, 128, 0] 1 (.GetBits 32) = (1, 33)) ∧
    (Allowed [0, 0, 128, 0, 0] 0 .GetUeGolomb ∧ run [0, 0, 128, 0, 0] 0 .GetUeGolomb = none ∧
      standard [0, 0, 128, 0, 0] 0 .GetUeGolomb = (65535, 33)) ∧
    Allowed [170] 0 (.GetBits 8) ∧ run [170] 0 (.GetBits 8) = none := by
  refine ⟨⟨⟨?_, ?_, ?_⟩, ?_, ?_⟩, ⟨⟨?_, ?_⟩, ?_, ?_⟩, ⟨?_, ?_, ?_⟩, ?_⟩
  all_goals decide

end CedarC.H264SoftwareReader
