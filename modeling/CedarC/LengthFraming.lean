import Mathlib.Algebra.Order.Ring.Int
import Mathlib.Data.List.Induction

/-!
# Units behind big endian lengths

A list of bytes is framed when it is a run of units, each of a length of a fixed
number of bytes and that many bytes. The walk over the units of any list tells how
it ends; a length after which a reader is no longer in step ends it as well.
-/

namespace CedarC.LengthFraming

open List

def bigEndian (bytes : List UInt8) : Nat := bytes.foldl (fun n byte => n * 256 + byte.toNat) 0

theorem big_endian_append (bytes : List UInt8) (byte : UInt8) :
    bigEndian (bytes ++ [byte]) = bigEndian bytes * 256 + byte.toNat := by
  unfold bigEndian
  rw [foldl_append, foldl_cons, foldl_nil]

theorem big_endian_lt (bytes : List UInt8) : bigEndian bytes < 256 ^ bytes.length := by
  induction bytes using List.reverseRecOn with
  | nil => simp [bigEndian]
  | append_singleton bytes byte shorter =>
    have small := UInt8.toNat_lt byte
    rw [big_endian_append, length_append, length_singleton, Nat.pow_succ]
    omega

/-- A run of units, each a length of `prefixBytes` bytes and that many bytes. -/
inductive Framed (prefixBytes : Nat) : List UInt8 → Prop where
  | nil : Framed prefixBytes []
  | unit {length data rest : List UInt8} (size : length.length = prefixBytes)
      (fits : data.length = bigEndian length) (framed : Framed prefixBytes rest) :
      Framed prefixBytes (length ++ data ++ rest)

section Framing

variable {prefixBytes : Nat} {bytes : List UInt8}

theorem framed_iff (positive : 0 < prefixBytes) (filled : bytes ≠ []) : Framed prefixBytes bytes ↔
      prefixBytes + bigEndian (bytes.take prefixBytes) ≤ bytes.length ∧
        Framed prefixBytes (bytes.drop (prefixBytes + bigEndian (bytes.take prefixBytes))) := by
  constructor
  · intro framed
    cases framed with
    | nil => exact absurd rfl filled
    | @unit length data rest size fits framed =>
      subst size
      have first : (length ++ data ++ rest).take length.length = length := by
        rw [append_assoc, take_left]
      rw [first, ← fits, ← length_append, drop_left]
      apply And.intro _ framed
      simp only [length_append]
      omega
  · rintro ⟨fits, framed⟩
    have whole : bytes = bytes.take prefixBytes ++
        (bytes.drop prefixBytes).take (bigEndian (bytes.take prefixBytes)) ++
          bytes.drop (prefixBytes + bigEndian (bytes.take prefixBytes)) := by
      rw [← drop_drop, append_assoc, take_append_drop, take_append_drop]
    rw [whole]
    apply Framed.unit _ _ framed
    · rw [length_take]
      omega
    · rw [length_take, length_drop]
      omega

theorem framed_enough (positive : 0 < prefixBytes) (filled : bytes ≠ [])
    (framed : Framed prefixBytes bytes) : prefixBytes ≤ bytes.length := by
  have first := ((framed_iff positive filled).mp framed).1
  omega

end Framing

/-- How the walk over the units ends. -/
inductive Ending where
  /-- at the end of the list, behind a unit of this length -/
  | whole (length : Nat)
  /-- at a length of more bytes than are left -/
  | overlong
  /-- at fewer bytes than a length has -/
  | shortRest
  /-- at a length that is read out of step -/
  | outOfStep
deriving DecidableEq

/-- The walk; `inStep` are the lengths that do not disturb the next one. -/
def walk (prefixBytes : Nat) (inStep : Nat → Bool) : Nat → List UInt8 → Ending
  | 0, _ => .whole 0
  | fuel + 1, bytes =>
    if bytes = [] then .whole 0
    else if bytes.length < prefixBytes then .shortRest
    else
      let length := bigEndian (bytes.take prefixBytes)
      let behind := bytes.drop (prefixBytes + length)
      if bytes.length < prefixBytes + length then .overlong
      else if behind = [] then .whole length
      else if inStep length then walk prefixBytes inStep fuel behind
      else if behind.length < prefixBytes then .shortRest
      else .outOfStep

variable {prefixBytes fuel : Nat} {inStep : Nat → Bool} {bytes : List UInt8}

theorem walk_step (filled : bytes ≠ []) : walk prefixBytes inStep (fuel + 1) bytes =
      if bytes.length < prefixBytes then .shortRest
      else if bytes.length < prefixBytes + bigEndian (bytes.take prefixBytes) then .overlong
      else if bytes.drop (prefixBytes + bigEndian (bytes.take prefixBytes)) = [] then
        .whole (bigEndian (bytes.take prefixBytes))
      else if inStep (bigEndian (bytes.take prefixBytes)) then
        walk prefixBytes inStep fuel
          (bytes.drop (prefixBytes + bigEndian (bytes.take prefixBytes)))
      else if (bytes.drop (prefixBytes + bigEndian (bytes.take prefixBytes))).length <
          prefixBytes then .shortRest
      else .outOfStep := by
  rw [walk, if_neg filled]

theorem walk_framed (positive : 0 < prefixBytes) (enough : bytes.length ≤ fuel) :
    match walk prefixBytes inStep fuel bytes with
    | .whole _ => Framed prefixBytes bytes
    | .overlong | .shortRest => ¬Framed prefixBytes bytes
    | .outOfStep => True := by
  induction fuel generalizing bytes with
  | zero =>
    have empty : bytes = [] := eq_nil_of_length_eq_zero (by omega)
    rw [empty]
    exact Framed.nil
  | succ fuel later =>
    by_cases empty : bytes = []
    · rw [empty, walk, if_pos rfl]
      exact Framed.nil
    have first := framed_iff positive empty
    have filled := length_pos_iff.mpr empty
    rw [walk_step empty]
    by_cases short : bytes.length < prefixBytes
    · rw [if_pos short]
      intro framed
      have bound := framed_enough positive empty framed
      omega
    rw [if_neg short]
    by_cases beyond : bytes.length < prefixBytes + bigEndian (bytes.take prefixBytes)
    · rw [if_pos beyond]
      intro framed
      have fits := (first.mp framed).1
      omega
    rw [if_neg beyond, first]
    have rest := @later (bytes.drop (prefixBytes + bigEndian (bytes.take prefixBytes)))
      (by rw [length_drop]; omega)
    generalize bytes.drop (prefixBytes + bigEndian (bytes.take prefixBytes)) = behind at rest ⊢
    by_cases last : behind = []
    · rw [if_pos last, last]
      exact ⟨Nat.not_lt.mp beyond, Framed.nil⟩
    rw [if_neg last]
    by_cases step : inStep (bigEndian (bytes.take prefixBytes)) = true
    · rw [if_pos step]
      split <;> rename_i ended <;> rw [ended] at rest
      · exact ⟨Nat.not_lt.mp beyond, rest⟩
      · exact fun framed => rest framed.2
      · exact fun framed => rest framed.2
      · trivial
    · rw [if_neg step]
      by_cases few : behind.length < prefixBytes
      · rw [if_pos few]
        intro framed
        have bound := framed_enough positive last framed.2
        omega
      · rw [if_neg few]
        trivial

end CedarC.LengthFraming
