import Mathlib.Data.Int.Init
import Mathlib.Tactic.SplitIfs

/-!
# Values sent by their residue

A sender keeps the residue of a value by a modulus, the receiver a previous
value close to it. Split in a multiple of the modulus and a residue, the previous
value tells which multiple the sent residue belongs to.
-/

namespace CedarC.ResidueWindow

variable {modulus prevMsb prevLsb lsb value : Int}

/-- The multiple that brings the value closest to the previous one. -/
def nextMsb (modulus prevMsb prevLsb lsb : Int) : Int :=
  if lsb < prevLsb ∧ modulus / 2 ≤ prevLsb - lsb then prevMsb + modulus
  else if prevLsb < lsb ∧ modulus / 2 < lsb - prevLsb then prevMsb - modulus
  else prevMsb

def Near (modulus previous value : Int) : Prop :=
  -modulus < 2 * (value - previous) ∧ 2 * (value - previous) ≤ modulus
deriving Decidable

theorem residue_turns (positive : 0 < modulus) (aligned : modulus ∣ prevMsb)
    (range : 0 ≤ prevLsb ∧ prevLsb < modulus) (near : Near modulus (prevMsb + prevLsb) value) :
    value - value % modulus = prevMsb - modulus ∨ value - value % modulus = prevMsb ∨
      value - value % modulus = prevMsb + modulus := by
  rcases aligned with ⟨turns, rfl⟩
  have low := Int.emod_nonneg value (Int.ne_of_gt positive)
  have high := Int.emod_lt_of_pos value positive
  have whole := Int.mul_ediv_add_emod value modulus
  have split : ∀ count : Int, value / modulus = count → value - value % modulus = modulus * count := by
    intro count here
    rw [← here]
    omega
  unfold Near at near
  have below : turns - 2 < value / modulus := by
    apply Int.lt_of_mul_lt_mul_left _ (Int.le_of_lt positive)
    rw [Int.mul_sub]
    omega
  have above : value / modulus < turns + 2 := by
    apply Int.lt_of_mul_lt_mul_left _ (Int.le_of_lt positive)
    rw [Int.mul_add]
    omega
  have three : value / modulus = turns - 1 ∨ value / modulus = turns ∨
      value / modulus = turns + 1 := by omega
  rcases three with before | same | behind
  · left
    rw [split _ before, Int.mul_sub, Int.mul_one]
  · right
    left
    exact split _ same
  · right
    right
    rw [split _ behind, Int.mul_add, Int.mul_one]

theorem next_msb_recovers (even : 2 ∣ modulus) (positive : 0 < modulus)
    (aligned : modulus ∣ prevMsb) (range : 0 ≤ prevLsb ∧ prevLsb < modulus)
    (near : Near modulus (prevMsb + prevLsb) value) :
    nextMsb modulus prevMsb prevLsb (value % modulus) = value - value % modulus := by
  have turns := residue_turns positive aligned range near
  have low := Int.emod_nonneg value (Int.ne_of_gt positive)
  have high := Int.emod_lt_of_pos value positive
  unfold Near at near
  unfold nextMsb
  split_ifs <;> omega

end CedarC.ResidueWindow
