import Mathlib.Data.List.DropRight

/-!
# Units between start codes

A stream of bytes is cut at each `0 0 1`. What is in front of the first one belongs to no
unit, and zeros at the end of a unit belong to the stream.
-/

namespace CedarC.StartCodes

open List

def begins (first second third : UInt8) : Prop := first = 0 ∧ second = 0 ∧ third = 1
deriving Decidable

/-- What is in front of the first start code, and what follows each of them. -/
def cut : List UInt8 → List UInt8 × List (List UInt8)
  | first :: second :: third :: rest =>
    if begins first second third then ([], (cut rest).1 :: (cut rest).2)
    else (first :: (cut (second :: third :: rest)).1, (cut (second :: third :: rest)).2)
  | short => (short, [])

def trimmed (unit : List UInt8) : List UInt8 := unit.rdropWhile (· == 0)

theorem cut_start (rest : List UInt8) :
    cut (0 :: 0 :: 1 :: rest) = ([], (cut rest).1 :: (cut rest).2) := by
  conv_lhs => unfold cut
  exact if_pos ⟨rfl, rfl, rfl⟩

theorem cut_step {first second third : UInt8} (other : ¬ begins first second third)
    (rest : List UInt8) :
    cut (first :: second :: third :: rest) =
      (first :: (cut (second :: third :: rest)).1, (cut (second :: third :: rest)).2) := by
  conv_lhs => unfold cut
  exact if_neg other

theorem cut_cons {byte : UInt8} {rest : List UInt8}
    (other : ∀ second third behind, rest = second :: third :: behind → ¬ begins byte second third) :
    cut (byte :: rest) = (byte :: (cut rest).1, (cut rest).2) := by
  rcases rest with _ | ⟨second, _ | ⟨third, rest⟩⟩
  · rfl
  · rfl
  · exact cut_step (other second third rest rfl) rest

theorem cut_cons_of_ne {byte : UInt8} (other : byte ≠ 0) (rest : List UInt8) :
    cut (byte :: rest) = (byte :: (cut rest).1, (cut rest).2) :=
  cut_cons fun _ _ _ _ starts => other starts.1

theorem cut_zero_one (rest : List UInt8) :
    cut (0 :: 1 :: rest) = (0 :: 1 :: (cut rest).1, (cut rest).2) := by
  have one : (1 : UInt8) ≠ 0 := by decide
  rw [cut_cons (fun second third behind same starts => one (by
    rw [← (List.cons.inj same).1] at starts
    exact starts.2.1)), cut_cons_of_ne one]

theorem cut_last (byte : UInt8) (rest : List UInt8) :
    cut (byte :: 0 :: 0 :: 1 :: rest) = ([byte], (cut rest).1 :: (cut rest).2) := by
  have zero : (0 : UInt8) ≠ 1 := by decide
  rw [cut_step (fun starts => zero starts.2.2), cut_start]

theorem cut_parts (bytes : List UInt8) : ((cut bytes).2 = [] ∧ (cut bytes).1 = bytes) ∨
      ∃ rest, bytes = (cut bytes).1 ++ 0 :: 0 :: 1 :: rest ∧
        (cut bytes).2 = (cut rest).1 :: (cut rest).2 := by
  fun_induction cut bytes with
  | case1 first second third rest starts _ =>
    right
    exact ⟨rest, by rw [starts.1, starts.2.1, starts.2.2]; rfl, rfl⟩
  | case2 first second third rest other later =>
    rcases later with ⟨none, same⟩ | ⟨behind, parts, others⟩
    · left
      exact ⟨none, congrArg (List.cons first) same⟩
    · right
      apply Exists.intro behind
      constructor
      · dsimp only
        rw [cons_append, ← parts]
      · exact others
  | case3 short _ =>
    left
    exact ⟨rfl, rfl⟩

theorem trimmed_append_zero (unit : List UInt8) : trimmed (unit ++ [0]) = trimmed unit :=
  rdropWhile_concat_pos _ _ _ rfl

theorem trimmed_cons {byte : UInt8} (other : byte ≠ 0) (rest : List UInt8) :
    ∃ later, trimmed (byte :: rest) = byte :: later := by
  induction rest using List.reverseRecOn with
  | nil =>
    apply Exists.intro []
    exact rdropWhile_singleton _ byte |>.trans (if_neg (by
      rw [beq_iff_eq]
      exact other))
  | append_singleton rest last later =>
    rcases later with ⟨behind, same⟩
    by_cases zero : last = 0
    · apply Exists.intro behind
      rw [zero, ← cons_append, trimmed_append_zero, same]
    · apply Exists.intro (rest ++ [last])
      exact rdropWhile_concat_neg _ (byte :: rest) last (by
        rw [beq_iff_eq]
        exact zero)

theorem trimmed_last {unit : List UInt8} {byte : UInt8} (whole : trimmed (unit ++ [byte]) = unit) :
    byte = 0 := by
  by_contra other
  have kept : trimmed (unit ++ [byte]) = unit ++ [byte] :=
    rdropWhile_concat_neg _ unit byte (by
      rw [beq_iff_eq]
      exact other)
  have length := congrArg List.length (kept.symm.trans whole)
  rw [length_append, length_singleton] at length
  omega

theorem trimmed_front (unit : List UInt8) : trimmed unit <+: unit := rdropWhile_prefix _ _

end CedarC.StartCodes
