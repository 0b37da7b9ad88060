import CedarC.GuardedRuns
import CedarC.H264SoftwareReader

/-!
# The software bit reader of the H.265 decoder

The calls read the memory that starts with the unit, and the index stops eight bits behind the
unit. A call has no result where it reads behind the memory or shifts by a negative count.
-/

namespace CedarC.H265SoftwareReader

open ByteReader BitWindow FixedWidth GuardedRuns H264SoftwareReader Option

/-- From entry 16 on the tables are those of the H.264 reader. -/
def HevcGolombVlcLen : List Nat :=
  [19, 17, 15, 15, 13, 13, 13, 13] ++ .replicate 8 11 ++ h264_golomb_vlc_len.drop 16

def HevcSeGolombVlcCode : List Int :=
  .replicate 8 17 ++ [16] ++ .replicate 7 17 ++ h264_se_golomb_vlc_code.drop 16

/-- The steps and the table are those of `H264av_log2`. -/
def hevc_log2_c (v : Nat) : Nat := H264av_log2 v

section Reader

variable (buffer : List UInt8) (size_in_bits_plus8 index : Nat)

def MIN_CACHE_BITS : Nat := 25

def HEVC_SKIP_COUNTER (num : Nat) : Nat := min size_in_bits_plus8 (index + num)

def get_bits (n : Nat) : Option (Nat × Nat) :=
  (UPDATE_CACHE buffer index).map fun cache =>
    (SHOW_UBITS cache n, HEVC_SKIP_COUNTER size_in_bits_plus8 index n)

def get_bits_long (n : Nat) : Option (Nat × Nat) :=
  if n ≤ MIN_CACHE_BITS then get_bits buffer size_in_bits_plus8 index n
  else (get_bits buffer size_in_bits_plus8 index 16).bind fun (ret, index) =>
    (get_bits buffer size_in_bits_plus8 index (n - 16)).map fun (rest, index) =>
      (ret <<< (n - 16) ||| rest, index)

def show_bits_long (n : Nat) : Option Nat :=
  if n ≤ MIN_CACHE_BITS then (UPDATE_CACHE buffer index).map fun cache => SHOW_UBITS cache n
  else (get_bits_long buffer size_in_bits_plus8 index n).map Prod.fst

def hevc_clip_c (a amin amax : Int) : Int :=
  if a < amin then amin else if a > amax then amax else a

def skip_bits_long (n : Nat) : Nat :=
  (index + hevc_clip_c n (-index) (size_in_bits_plus8 - index)).toNat

def get_ue_golomb_long : Option (Nat × Nat) :=
  (show_bits_long buffer size_in_bits_plus8 index 32).bind fun buf =>
    let log := 31 - hevc_log2_c buf
    (get_bits_long buffer size_in_bits_plus8 (skip_bits_long size_in_bits_plus8 index log)
      (log + 1)).map fun (code, index) => ((code + (2 ^ 32 - 1)) % 2 ^ 32, index)

def get_se_golomb : Option (Int × Nat) :=
  (UPDATE_CACHE buffer index).bind fun buf =>
    if buf ≥ 2 ^ 27 then
      some (HevcSeGolombVlcCode.getD (buf >>> (32 - 9)) 0,
        HEVC_SKIP_COUNTER size_in_bits_plus8 index (HevcGolombVlcLen.getD (buf >>> (32 - 9)) 0))
    else if 2 * hevc_log2_c buf < 31 then none  -- the shift count is negative
    else
      let log := 2 * hevc_log2_c buf - 31
      let half : Int := (buf >>> log >>> 1 : Nat)
      some (s32 (if buf >>> log &&& 1 ≠ 0 then -half else half),
        HEVC_SKIP_COUNTER size_in_bits_plus8 index (32 - log))

inductive Call
  | get_bits (n : Nat)
  | get_bits_long (n : Nat)
  | get_ue_golomb_long
  | get_se_golomb

def run : Call → Option (Int × Nat)
  | .get_bits n => (get_bits buffer size_in_bits_plus8 index n).map (Prod.map Nat.cast id)
  | .get_bits_long n => (get_bits_long buffer size_in_bits_plus8 index n).map (Prod.map Nat.cast id)
  | .get_ue_golomb_long =>
    (get_ue_golomb_long buffer size_in_bits_plus8 index).map (Prod.map Nat.cast id)
  | .get_se_golomb => get_se_golomb buffer size_in_bits_plus8 index

end Reader

section Property

variable (buffer : List UInt8) (size_in_bits index : Nat)

/-- The value and the next index of the standard. -/
def standard : Call → Int × Nat
  | .get_bits n | .get_bits_long n => (bitsAt buffer index n, index + n)
  | .get_ue_golomb_long => (ueAt buffer index, index + (2 * zerosAt buffer index + 1))
  | .get_se_golomb => (seAt buffer index, index + (2 * zerosAt buffer index + 1))

/-- The bits that are asked for are in the unit, and a value is one of 32 bits. -/
def Allowed : Call → Prop
  | .get_bits n | .get_bits_long n => 1 ≤ n ∧ n ≤ 32 ∧ index + n ≤ size_in_bits
  | .get_ue_golomb_long =>
    ueAt buffer index < 2 ^ 32 ∧ index + (2 * zerosAt buffer index + 1) ≤ size_in_bits
  | .get_se_golomb =>
    InS32 (seAt buffer index) ∧ index + (2 * zerosAt buffer index + 1) ≤ size_in_bits

/-- The windows are in the memory, and what a call takes from one window is in it. -/
def ReadRight : Call → Prop
  | .get_bits n => WindowInside buffer index ∧ Held buffer index n
  | .get_bits_long n => WindowInside buffer (if n ≤ MIN_CACHE_BITS then index else index + 16)
  | .get_ue_golomb_long => zerosAt buffer index ≤ 31 ∧
      WindowInside buffer (min (size_in_bits + 8) (index + 16)) ∧
      WindowInside buffer (if zerosAt buffer index + 1 ≤ MIN_CACHE_BITS then
        index + zerosAt buffer index else index + zerosAt buffer index + 16)
  | .get_se_golomb => WindowInside buffer index ∧ zerosAt buffer index ≤ 15 ∧
      Held buffer index (2 * zerosAt buffer index + 1)

end Property

section Bits

variable {buffer : List UInt8} {size_in_bits_plus8 index n : Nat}

theorem get_bits_value (short : n ≤ MIN_CACHE_BITS) : get_bits buffer size_in_bits_plus8 index n =
      if WindowInside buffer index then
        some (bitsAt buffer index n, min size_in_bits_plus8 (index + n))
      else none := by
  have most : n ≤ 25 := short
  unfold get_bits
  by_cases inside : WindowInside buffer index
  · rw [cache_bits inside, if_pos inside, map_some, show_short (cache_bits inside) (by omega)]
    rfl
  · rw [no_cache inside, if_neg inside]
    rfl

theorem window_before {other : Nat} (before : other ≤ index) (inside : WindowInside buffer index) :
    WindowInside buffer other := by
  unfold WindowInside at inside ⊢
  omega

theorem two_reads (long : ¬ n ≤ MIN_CACHE_BITS) (most : n ≤ 32)
    (ordered : index ≤ size_in_bits_plus8) :
    get_bits_long buffer size_in_bits_plus8 index n =
      if WindowInside buffer (min size_in_bits_plus8 (index + 16)) then
        some (bitsAt buffer index 16 * 2 ^ (n - 16) +
            bitsAt buffer (min size_in_bits_plus8 (index + 16)) (n - 16),
          min size_in_bits_plus8 (min size_in_bits_plus8 (index + 16) + (n - 16)))
      else none := by
  have first := @get_bits_value buffer size_in_bits_plus8 index 16 (by decide)
  have second := @get_bits_value buffer size_in_bits_plus8 (min size_in_bits_plus8 (index + 16))
    (n - 16) (Nat.sub_le_of_le_add (Nat.le_trans most (by decide)))
  unfold get_bits_long
  rw [if_neg long, first]
  by_cases inside : WindowInside buffer (min size_in_bits_plus8 (index + 16))
  · rw [if_pos (window_before (by omega) inside), bind_some]
    dsimp only
    rw [second, if_pos inside, if_pos inside, map_some,
      ← Nat.shiftLeft_add_eq_or_of_lt (bits_at_lt buffer _ _), Nat.shiftLeft_eq]
  · rw [if_neg inside]
    split
    · rw [bind_some]
      dsimp only
      rw [second, if_neg inside]
      rfl
    · rfl

theorem get_bits_long_value (most : n ≤ 32) (fits : index + n ≤ size_in_bits_plus8) :
    get_bits_long buffer size_in_bits_plus8 index n =
      if WindowInside buffer (if n ≤ MIN_CACHE_BITS then index else index + 16) then
        some (bitsAt buffer index n, index + n)
      else none := by
  have limit : MIN_CACHE_BITS = 25 := rfl
  by_cases short : n ≤ MIN_CACHE_BITS
  · rw [get_bits_long, if_pos short, if_pos short, get_bits_value short, Nat.min_eq_right fits]
  · have parts := @bits_at_add buffer index 16 (n - 16)
    have size : 16 + (n - 16) = n := by omega
    have place : min size_in_bits_plus8 (index + 16) = index + 16 := by omega
    rw [size] at parts
    rw [two_reads short most (by omega), place, if_neg short, ← parts, Nat.add_assoc, size,
      Nat.min_eq_right fits]

theorem get_bits_long_next {read : Nat × Nat}
    (done : get_bits_long buffer size_in_bits_plus8 index n = some read) :
    read.2 ≤ size_in_bits_plus8 ∧ read.2 ≤ index + n := by
  have limit : MIN_CACHE_BITS = 25 := rfl
  have next : ∀ {index n : Nat} {read : Nat × Nat},
      get_bits buffer size_in_bits_plus8 index n = some read →
        read.2 = min size_in_bits_plus8 (index + n) := by
    intro index n read done
    obtain ⟨cache, _, rfl⟩ := map_eq_some_iff.mp done
    rfl
  unfold get_bits_long at done
  split at done
  · have place := next done
    omega
  · obtain ⟨high, first, rest⟩ := bind_eq_some_iff.mp done
    obtain ⟨low, second, rfl⟩ := map_eq_some_iff.mp rest
    have place := next first
    have place' := next second
    dsimp only at place' ⊢
    omega

theorem skip_value :
    skip_bits_long size_in_bits_plus8 index n = min size_in_bits_plus8 (index + n) := by
  unfold skip_bits_long hevc_clip_c
  split_ifs <;> omega

end Bits

section Codes

variable {buffer : List UInt8} {size_in_bits index zeros : Nat}
  (found : zerosAt buffer index = zeros) (inside : index + zeros < 8 * buffer.length)

include found inside

/-- The two reads show the leading one, also where the second does not follow the first. -/
theorem shown_log {next : Nat} (code : zeros ≤ 31) (place : next = index + 16 ∨ zeros ≤ 3) :
    31 - hevc_log2_c (bitsAt buffer index 16 * 2 ^ (32 - 16) + bitsAt buffer next (32 - 16)) =
      zeros := by
  have high := bits_at_lt buffer index 16
  have low := bits_at_lt buffer next 16
  have bounds : 2 ^ (31 - zeros) ≤ bitsAt buffer index 16 * 2 ^ 16 + bitsAt buffer next 16 ∧
      bitsAt buffer index 16 * 2 ^ 16 + bitsAt buffer next 16 < 2 ^ (31 - zeros + 1) := by
    rcases place with behind | short
    · have size : zeros + 1 + (31 - zeros) = 16 + 16 := by omega
      have parts := bits_behind_zeros found inside (31 - zeros)
      have rest := bits_at_lt buffer (index + zeros + 1) (31 - zeros)
      rw [size, bits_at_add] at parts
      rw [behind, parts, Nat.pow_succ]
      omega
    · have size : zeros + 1 + (15 - zeros) = 16 := by omega
      have parts := bits_behind_zeros found inside (15 - zeros)
      have rest := bits_at_lt buffer (index + zeros + 1) (15 - zeros)
      have power : 2 ^ (31 - zeros) = 2 ^ (15 - zeros) * 2 ^ 16 := by
        rw [← Nat.pow_add]
        congr 1
        omega
      rw [size] at parts
      rw [parts, Nat.pow_succ, power]
      omega
  have positive := Nat.two_pow_pos (31 - zeros)
  rw [show 32 - 16 = 16 from rfl, hevc_log2_c, av_log2 (by omega),
    (Nat.log2_eq_iff (by omega)).mpr bounds]
  omega

variable (fits : index + (2 * zeros + 1) ≤ size_in_bits)

include fits

theorem unsigned_long_iff (code : zeros ≤ 31) : get_ue_golomb_long buffer (size_in_bits + 8) index =
        some (ueAt buffer index, index + (2 * zeros + 1)) ↔
      WindowInside buffer (min (size_in_bits + 8) (index + 16)) ∧ WindowInside buffer
          (if zeros + 1 ≤ MIN_CACHE_BITS then index + zeros else index + zeros + 16) := by
  have read := @get_bits_long_value buffer (size_in_bits + 8) (index + zeros) (zeros + 1)
    (by omega) (by omega)
  have skipped : skip_bits_long (size_in_bits + 8) index zeros = index + zeros := by
    rw [skip_value]
    omega
  have bits := ue_behind_zeros found inside
  have small : bitsAt buffer (index + zeros) (zeros + 1) < 2 ^ 32 :=
    Nat.lt_of_lt_of_le (bits_at_lt buffer _ _) (Nat.pow_le_pow_right (by decide) (by omega))
  rw [get_ue_golomb_long, show_bits_long, if_neg (by decide),
    two_reads (by decide) (Nat.le_refl _) (by omega)]
  by_cases first : WindowInside buffer (min (size_in_bits + 8) (index + 16))
  · rw [if_pos first, map_some, bind_some, and_iff_right first]
    dsimp only
    rw [shown_log found inside code (by omega), skipped, read]
    by_cases second : WindowInside buffer
        (if zeros + 1 ≤ MIN_CACHE_BITS then index + zeros else index + zeros + 16)
    · apply iff_of_true _ second
      rw [if_pos second, map_some, Option.some.injEq, Prod.mk.injEq]
      omega
    · rw [if_neg second]
      exact iff_of_false (fun same => nomatch same) second
  · rw [if_neg first]
    exact iff_of_false (fun same => nomatch same) fun both => first both.1

omit found inside fits in
theorem later_entry {Value : Type} {first values : List Value} {k : Nat} (default : Value)
    (entries : first.length = 16) (large : 16 ≤ k) :
    (first ++ values.drop 16).getD k default = values.getD k default := by
  have place : 16 + (k - 16) = k := by omega
  rw [List.getD_append_right _ _ _ _ (by omega), List.getD_eq_getElem?_getD, List.getElem?_drop,
    entries, place, List.getD_eq_getElem?_getD]

/-- Behind the short codes the value is one more than that of the H.264 reader, folded. -/
theorem signed_right_iff {cache : Nat} (window : UPDATE_CACHE buffer index = some cache) :
    get_se_golomb buffer (size_in_bits + 8) index =
        some (seAt buffer index, index + (2 * zeros + 1)) ↔
      zeros ≤ 15 ∧ Held buffer index (2 * zeros + 1) := by
  have limit := cache_lt window
  rw [← unsigned_right_iff found window inside]
  unfold get_se_golomb H264GetUeGolombSw
  rw [window, bind_some, bind_some]
  dsimp only [H264SoftwareReader.standard, HEVC_SKIP_COUNTER]
  rw [found, hevc_log2_c]
  by_cases large : cache ≥ 2 ^ 27
  · have entry : 16 ≤ cache >>> (32 - 9) := by
      rw [Nat.shiftRight_eq_div_pow]
      omega
    obtain ⟨length, value, signed⟩ :=
      short_code found window inside ((short_iff found window inside).mp large)
    rw [if_pos large, if_pos large, HevcGolombVlcLen, HevcSeGolombVlcCode,
      later_entry 0 rfl entry, later_entry 0 rfl entry, length, value, signed,
      Nat.min_eq_right (Nat.le_add_right_of_le fits)]
    exact iff_of_true rfl rfl
  rw [if_neg large, if_neg large]
  split
  · exact iff_of_false (fun same => nomatch same) fun same => nomatch same
  · rename_i positive
    have log := av_log2 limit
    have nonzero : cache ≠ 0 := by
      intro zero
      rw [zero] at positive
      exact positive (by decide)
    have least := Nat.log2_self_le nonzero
    have most : Nat.log2 cache < 32 := (Nat.log2_lt nonzero).mpr limit
    have code : 1 ≤ cache >>> (2 * H264av_log2 cache - 31) := by
      rw [Nat.shiftRight_eq_div_pow, log]
      apply Nat.div_pos _ (Nat.two_pow_pos _)
      exact Nat.le_trans (Nat.pow_le_pow_right (by decide) (by omega)) least
    have small : cache >>> (2 * H264av_log2 cache - 31) < 2 ^ 32 :=
      Nat.lt_of_le_of_lt (Nat.shiftRight_le _ _) limit
    generalize cache >>> (2 * H264av_log2 cache - 31) = buf at code small
    have value : s32 (if buf &&& 1 ≠ 0 then -((buf >>> 1 : Nat) : Int) else (buf >>> 1 : Nat)) =
        folded buf := by
      unfold folded
      rw [Nat.and_one_is_mod, Nat.shiftRight_eq_div_pow]
      rcases Nat.mod_two_eq_zero_or_one buf with even | odd
      · rw [even, if_neg (by decide), if_pos rfl]
        exact s32_of_range ⟨by omega, by omega⟩
      · rw [odd, if_pos (by decide), if_neg (by decide)]
        exact s32_of_range ⟨by omega, by omega⟩
    have same : folded buf = folded (ueAt buffer index + 1) ↔ buf = ueAt buffer index + 1 := by
      unfold folded
      split_ifs <;> omega
    rw [value, se_fold, Option.some.injEq, Option.some.injEq, Prod.mk.injEq, Prod.mk.injEq, same]
    omega

end Codes

variable {buffer : List UInt8} {size_in_bits index : Nat}

theorem run_next {call : Call} {read : Int × Nat}
    (done : run buffer (size_in_bits + 8) index call = some read) : read.2 ≤ size_in_bits + 8 := by
  have stops := fun num => Nat.min_le_left (size_in_bits + 8) (index + num)
  cases call with
  | get_bits n =>
    obtain ⟨first, known, rfl⟩ := map_eq_some_iff.mp done
    obtain ⟨cache, _, rfl⟩ := map_eq_some_iff.mp known
    exact stops n
  | get_bits_long n =>
    obtain ⟨first, known, rfl⟩ := map_eq_some_iff.mp done
    exact (get_bits_long_next known).1
  | get_ue_golomb_long =>
    obtain ⟨first, known, rfl⟩ := map_eq_some_iff.mp done
    obtain ⟨buf, _, known⟩ := bind_eq_some_iff.mp known
    dsimp only at known
    obtain ⟨code, reached, rfl⟩ := map_eq_some_iff.mp known
    exact (get_bits_long_next reached).1
  | get_se_golomb =>
    obtain ⟨buf, _, known⟩ := bind_eq_some_iff.mp done
    dsimp only at known
    split_ifs at known
    all_goals
      rw [← Option.some.inj known]
      exact stops _

/-- The code of the largest value has 32 zeros, one more than the call skips. -/
theorem largest_not_read (long : 31 < zerosAt buffer index) (value : Nat) :
    get_ue_golomb_long buffer (size_in_bits + 8) index ≠
      some (value, index + (2 * zerosAt buffer index + 1)) := by
  intro done
  obtain ⟨buf, _, known⟩ := bind_eq_some_iff.mp done
  dsimp only at known
  obtain ⟨code, reached, same⟩ := map_eq_some_iff.mp known
  have place := (get_bits_long_next reached).2
  have next := (Prod.mk.inj same).2
  rw [skip_value] at place
  omega

theorem reader_right_iff (buffer : List UInt8) (size_in_bits : Nat)
    (unit : size_in_bits ≤ 8 * buffer.length) :
    (∀ calls final, runOps (fun index call =>
        (run buffer (size_in_bits + 8) index call).map Prod.snd) 0 calls = some final →
      final ≤ size_in_bits + 8) ∧
    ∀ index call, Allowed buffer size_in_bits index call →
      (run buffer (size_in_bits + 8) index call = some (standard buffer index call) ↔
        ReadRight buffer size_in_bits index call) := by
  constructor
  · intro calls final reached
    have next : ∀ index call next, index ≤ size_in_bits + 8 →
        (run buffer (size_in_bits + 8) index call).map Prod.snd = some next →
        next ≤ size_in_bits + 8 := by
      intro index call next _ step
      obtain ⟨read, done, rfl⟩ := map_eq_some_iff.mp step
      exact run_next done
    exact run_invariant next (Nat.zero_le _) reached
  intro index call allowed
  cases call with
  | get_bits n =>
    obtain ⟨least, most, fits⟩ := allowed
    dsimp only [run, standard, ReadRight, get_bits, HEVC_SKIP_COUNTER]
    by_cases within : WindowInside buffer index
    · rw [cache_bits within, and_iff_right within, ← show_right_iff (cache_bits within) most,
        Nat.min_eq_right (by omega)]
      simp
    · rw [no_cache within]
      exact iff_of_false (fun same => nomatch same) fun right => within right.1
  | get_bits_long n =>
    obtain ⟨least, most, fits⟩ := allowed
    dsimp only [run, standard, ReadRight]
    rw [get_bits_long_value most (by omega)]
    simp
  | get_ue_golomb_long =>
    obtain ⟨value, fits⟩ := allowed
    dsimp only [run, standard, ReadRight]
    by_cases code : zerosAt buffer index ≤ 31
    · rw [and_iff_right code, ← unsigned_long_iff rfl (by omega) fits code]
      simp
    · apply iff_of_false _ fun right => code right.1
      intro same
      obtain ⟨⟨value, next⟩, done, read⟩ := map_eq_some_iff.mp same
      obtain rfl := (Prod.mk.inj read).2
      exact largest_not_read (by omega) value done
  | get_se_golomb =>
    obtain ⟨value, fits⟩ := allowed
    dsimp only [run, standard, ReadRight]
    by_cases within : WindowInside buffer index
    · rw [and_iff_right within]
      exact signed_right_iff rfl (by omega) fits (cache_bits within)
    · rw [get_se_golomb, no_cache within]
      exact iff_of_false (fun same => nomatch same) fun right => within right.1

theorem long_code_read : run [224, 9, 112, 0, 0, 0] 32 3 .get_ue_golomb_long =
    some (standard [224, 9, 112, 0, 0, 0] 3 .get_ue_golomb_long) :=
  ((reader_right_iff _ 24 (by decide)).2 3 .get_ue_golomb_long ⟨by decide, by decide⟩).mpr
    ⟨by decide, by decide, by decide⟩

/-- Thirty-two bits at an odd index lose the last one, and the codes of 4294967295 and of 32768
are not read. -/
theorem long_codes_wrong : (Allowed [0, 0, 0, 0, 128, 0] 40 1 (.get_bits 32) ∧
      run [0, 0, 0, 0, 128, 0] 48 1 (.get_bits 32) = some (0, 33) ∧
      standard [0, 0, 0, 0, 128, 0] 1 (.get_bits 32) = (1, 33)) ∧
    (Allowed [0, 0, 0, 0, 128, 0, 0, 0, 0] 72 0 .get_ue_golomb_long ∧
      run [0, 0, 0, 0, 128, 0, 0, 0, 0] 80 0 .get_ue_golomb_long = some (1073741823, 63) ∧
      standard [0, 0, 0, 0, 128, 0, 0, 0, 0] 0 .get_ue_golomb_long = (4294967295, 65)) ∧
    Allowed [0, 0, 128, 0, 0] 40 0 .get_se_golomb ∧
      run [0, 0, 128, 0, 0] 48 0 .get_se_golomb = none ∧
      standard [0, 0, 128, 0, 0] 0 .get_se_golomb = (32768, 33) := by
  refine ⟨⟨⟨?_, ?_, ?_⟩, ?_, ?_⟩, ⟨⟨?_, ?_⟩, ?_, ?_⟩, ⟨⟨?_, ?_⟩, ?_⟩, ?_, ?_⟩
  all_goals decide

end CedarC.H265SoftwareReader
