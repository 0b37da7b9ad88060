import Mathlib.Algebra.Order.Ring.Int

/-!
# Fixed width integers as ranges of the integers

Values of a machine type are integers in a range; an operation is the integer
operation followed by the wrap into the range.
-/

namespace CedarC.FixedWidth

instance neZero8 : NeZero 8 := ⟨by decide⟩

instance neZero16 : NeZero 16 := ⟨by decide⟩

instance neZero32 : NeZero 32 := ⟨by decide⟩

instance neZero256 : NeZero 256 := ⟨by decide⟩

def s32 (value : Int) : Int := (value + 2 ^ 31) % 2 ^ 32 - 2 ^ 31

def s16 (value : Int) : Int := (value + 2 ^ 15) % 2 ^ 16 - 2 ^ 15

def u32 (value : Int) : Int := value % 2 ^ 32

def InS32 (value : Int) : Prop := -2 ^ 31 ≤ value ∧ value < 2 ^ 31
deriving Decidable

theorem s32_range (value : Int) : InS32 (s32 value) := by
  unfold InS32 s32
  omega

theorem s32_of_range {value : Int} (range : InS32 value) : s32 value = value := by
  unfold InS32 at range
  unfold s32
  omega

theorem s32_of_above {value : Int} (above : 2 ^ 31 ≤ value) (turn : value < 2 ^ 31 + 2 ^ 32) :
    s32 value = value - 2 ^ 32 := by
  unfold s32
  omega

end CedarC.FixedWidth
