import Mathlib.Data.List.Infix

/-!
# Emulation prevention

A NAL unit carries its payload with a byte 3 behind every two zeros that a small byte would
follow. The payload is the unit without these bytes. A scan that looks at the last two bytes
finds the same ones.
-/

namespace CedarC.EmulationPrevention

open List

def prevents (before last byte : UInt8) : Prop := before = 0 ∧ last = 0 ∧ byte = 3
deriving Decidable

/-- The payload of a NAL unit: `0 0 3` stands for `0 0`. -/
def rbsp : List UInt8 → List UInt8
  | first :: second :: third :: rest =>
    if prevents first second third then first :: second :: rbsp rest
    else first :: rbsp (second :: third :: rest)
  | short => short

def kept : UInt8 → UInt8 → List UInt8 → List UInt8
  | _, _, [] => []
  | before, last, byte :: rest =>
    if prevents before last byte then kept last byte rest
    else byte :: kept last byte rest

/-- The places of the bytes that the scan leaves out, counted from `place` on. -/
def preventing : UInt8 → UInt8 → Nat → List UInt8 → List Nat
  | _, _, _, [] => []
  | before, last, place, byte :: rest =>
    if prevents before last byte then place :: preventing last byte (place + 1) rest
    else preventing last byte (place + 1) rest

theorem rbsp_cons_of_ne {first : UInt8} (other : first ≠ 0) (rest : List UInt8) :
    rbsp (first :: rest) = first :: rbsp rest := by
  cases rest with
  | nil => rfl
  | cons second rest =>
    cases rest with
    | nil => rfl
    | cons third rest =>
      conv_lhs => unfold rbsp
      rw [if_neg fun all => other all.1]

theorem rbsp_of_scan (bytes : List UInt8) (before last : UInt8) :
    rbsp (before :: last :: bytes) = before :: last :: kept before last bytes := by
  induction bytes generalizing before last with
  | nil => rfl
  | cons byte rest later =>
    unfold kept
    by_cases pattern : prevents before last byte
    · rw [if_pos pattern]
      have here : rbsp (before :: last :: byte :: rest) = before :: last :: rbsp rest := by
        conv_lhs => unfold rbsp
        rw [if_pos pattern]
      have three : byte ≠ 0 := by
        rw [pattern.2.2]
        decide
      have behind := later 0 byte
      have clean : rbsp (0 :: byte :: rest) = 0 :: byte :: rbsp rest := by
        cases rest with
        | nil => rfl
        | cons next rest =>
          conv_lhs => unfold rbsp
          rw [if_neg fun all => three all.2.1, rbsp_cons_of_ne three]
      rw [clean] at behind
      rw [here, (List.cons.inj (List.cons.inj behind).2).2, pattern.2.1]
    · rw [if_neg pattern]
      conv_lhs => unfold rbsp
      rw [if_neg pattern, later]

theorem kept_rbsp (bytes : List UInt8) : kept 255 255 bytes = rbsp bytes := by
  have scan := rbsp_of_scan bytes 255 255
  rw [rbsp_cons_of_ne (by decide), rbsp_cons_of_ne (by decide)] at scan
  exact (List.cons.inj (List.cons.inj scan).2).2.symm

theorem kept_length (before last : UInt8) (place : Nat) (bytes : List UInt8) :
    (kept before last bytes).length + (preventing before last place bytes).length =
      bytes.length := by
  induction bytes generalizing before last place with
  | nil => rfl
  | cons byte rest later =>
    have behind := later last byte (place + 1)
    unfold kept preventing
    by_cases pattern : prevents before last byte
    · rw [if_pos pattern, if_pos pattern, length_cons, length_cons]
      omega
    · rw [if_neg pattern, if_neg pattern, length_cons, length_cons]
      omega

variable {before last : UInt8} {place : Nat} {bytes : List UInt8}

theorem kept_all
    (none : preventing before last place bytes = []) : kept before last bytes = bytes := by
  induction bytes generalizing before last place with
  | nil => rfl
  | cons byte rest later =>
    unfold preventing at none
    unfold kept
    by_cases pattern : prevents before last byte
    · rw [if_pos pattern] at none
      cases none
    · rw [if_neg pattern] at none
      rw [if_neg pattern, later none]

theorem kept_last
    (early : ∀ found ∈ preventing before last place bytes, found + 1 < place + bytes.length) :
    (kept before last bytes).getLast? = bytes.getLast? := by
  induction bytes generalizing before last place with
  | nil => rfl
  | cons byte rest later =>
    unfold preventing at early
    unfold kept
    rw [length_cons] at early
    by_cases pattern : prevents before last byte
    · rw [if_pos pattern] at early ⊢
      have first := early place mem_cons_self
      cases rest with
      | nil =>
        simp only [length_nil] at first
        omega
      | cons next rest =>
        rw [List.getLast?_cons_cons]
        apply @later last byte (place + 1)
        intro found member
        have bound := early found (mem_cons_of_mem _ member)
        omega
    · rw [if_neg pattern] at early ⊢
      rw [List.getLast?_cons, List.getLast?_cons, @later last byte (place + 1)]
      intro found member
      have bound := early found member
      omega

theorem kept_parts {count : Nat} (late : ∀ found ∈ preventing before last place bytes,
      place + count ≤ found ∧ found + 1 < place + bytes.length) :
    ∃ rest, kept before last bytes = bytes.take count ++ rest ∧
      rest.getLast? = (bytes.drop count).getLast? := by
  induction bytes generalizing before last place count with
  | nil =>
    apply Exists.intro []
    rw [take_nil, drop_nil]
    exact ⟨rfl, rfl⟩
  | cons byte rest later =>
    cases count with
    | zero =>
      apply Exists.intro (kept before last (byte :: rest))
      exact ⟨rfl, kept_last fun found member => (late found member).2⟩
    | succ count =>
      unfold preventing at late
      unfold kept
      by_cases pattern : prevents before last byte
      · rw [if_pos pattern] at late
        have first := late place mem_cons_self
        omega
      · rw [if_neg pattern] at late ⊢
        have behind : ∀ found ∈ preventing last byte (place + 1) rest,
            place + 1 + count ≤ found ∧ found + 1 < place + 1 + rest.length := by
          intro found member
          have bound := late found member
          rw [length_cons] at bound
          omega
        rcases later behind with ⟨tail, parts, ends⟩
        apply Exists.intro tail
        rw [parts, take_succ_cons, drop_succ_cons]
        exact ⟨rfl, ends⟩

theorem rbsp_length (bytes : List UInt8) :
    (rbsp bytes).length + (preventing 255 255 0 bytes).length = bytes.length := by
  rw [← kept_rbsp]
  exact kept_length 255 255 0 bytes

theorem preventing_nil_iff (before last : UInt8) (place : Nat) (bytes : List UInt8) :
    preventing before last place bytes = [] ↔ ¬ [0, 0, 3] <:+: before :: last :: bytes := by
  induction bytes generalizing before last place with
  | nil =>
    apply iff_of_true rfl
    intro pattern
    have size : 3 ≤ 2 := pattern.length_le
    omega
  | cons byte rest later =>
    have head : [0, 0, 3] <+: before :: last :: byte :: rest ↔ prevents before last byte := by
      unfold prevents
      rw [cons_prefix_cons, cons_prefix_cons, cons_prefix_cons]
      constructor
      · rintro ⟨rfl, rfl, rfl, _⟩
        exact ⟨rfl, rfl, rfl⟩
      · rintro ⟨rfl, rfl, rfl⟩
        exact ⟨rfl, rfl, rfl, nil_prefix⟩
    rw [infix_cons_iff, head, not_or, ← later last byte (place + 1)]
    conv_lhs => unfold preventing
    by_cases pattern : prevents before last byte
    · rw [if_pos pattern]
      exact ⟨fun none => (nomatch none), fun both => absurd pattern both.1⟩
    · rw [if_neg pattern, and_iff_right pattern]

theorem no_pattern_iff (bytes : List UInt8) :
    preventing 255 255 0 bytes = [] ↔ ¬ [0, 0, 3] <:+: bytes := by
  have other : ¬ (0 : UInt8) = 255 := by decide
  have start : ∀ rest : List UInt8, ¬ [0, 0, 3] <+: 255 :: rest := by
    intro rest
    rw [cons_prefix_cons]
    exact fun both => other both.1
  rw [preventing_nil_iff, infix_cons_iff, infix_cons_iff, or_iff_right (start _),
    or_iff_right (start _)]

end CedarC.EmulationPrevention
