import Mathlib.Logic.Function.Basic

/-!
# Tables that are filled by writes

A table is a function of its key. Where every write puts in the value of one function, the table
has that function's value at each key that was written.
-/

namespace CedarC.TableWrites

open List Function

variable {Key Value : Type*} [DecidableEq Key]

def writeAll (table : Key → Value) (writes : List (Key × Value)) : Key → Value :=
  writes.foldl (fun table write => Function.update table write.1 write.2) table

@[simp] theorem write_all_nil (table : Key → Value) : writeAll table [] = table := rfl

@[simp] theorem write_all_cons (table : Key → Value) (write : Key × Value)
    (writes : List (Key × Value)) : writeAll table (write :: writes) =
      writeAll (Function.update table write.1 write.2) writes := rfl

@[simp] theorem write_all_append (table : Key → Value) (first second : List (Key × Value)) :
    writeAll table (first ++ second) = writeAll (writeAll table first) second := by
  induction first generalizing table with
  | nil => rfl
  | cons write first ih => simp [ih]

variable {table : Key → Value} {writes : List (Key × Value)} {key : Key}

theorem write_all_apart
    (apart : ∀ write ∈ writes, write.1 ≠ key) : writeAll table writes key = table key := by
  induction writes generalizing table with
  | nil => rfl
  | cons write writes ih =>
    rw [write_all_cons, ih fun other member => apart other (mem_cons_of_mem _ member)]
    exact update_of_ne (apart write mem_cons_self).symm _ _

theorem write_all_agree {value : Value} (agree : ∀ write ∈ writes, write.1 = key → write.2 = value)
    (written : ∃ write ∈ writes, write.1 = key) : writeAll table writes key = value := by
  induction writes generalizing table with
  | nil => simp at written
  | cons write writes ih =>
    rw [write_all_cons]
    have later := fun other member => agree other (mem_cons_of_mem write member)
    by_cases again : ∃ other ∈ writes, other.1 = key
    · exact ih later again
    · have here : write.1 = key := by
        rcases written with ⟨other, member, same⟩
        rcases mem_cons.mp member with rfl | behind
        · exact same
        · exact absurd ⟨other, behind, same⟩ again
      rw [write_all_apart fun other member same => again ⟨other, member, same⟩, here, update_self]
      exact agree write mem_cons_self here

theorem write_all_values {Holds : Value → Prop} {table : Key → Value}
    {writes : List (Key × Value)} (written : ∀ write ∈ writes, Holds write.2)
    (before : ∀ key, Holds (table key)) (key : Key) : Holds (writeAll table writes key) := by
  induction writes generalizing table with
  | nil => exact before key
  | cons write writes ih =>
    rw [write_all_cons]
    apply ih fun other member => written other (mem_cons_of_mem _ member)
    intro other
    by_cases here : other = write.1
    · rw [here, update_self]
      exact written write mem_cons_self
    · rw [update_of_ne here]
      exact before other

end CedarC.TableWrites
