import Mathlib.Data.List.Basic

/-!
# Messages behind a type and a size

Each message is a type, a size and as many bytes as the size says. Both numbers are sums of
bytes: a byte 255 has another one behind it. Two bytes and what closes the data hold no
message.
-/

namespace CedarC.TaggedMessages

open List Option

def extended : List UInt8 → Option (Nat × List UInt8)
  | [] => none
  | byte :: rest =>
    if byte = 255 then (extended rest).map fun later => (255 + later.1, later.2)
    else some (byte.toNat, rest)

def header (bytes : List UInt8) : Option (Nat × Nat × List UInt8) :=
  (extended bytes).bind fun first =>
    (extended first.2).map fun second => (first.1, second.1, second.2)

structure Message where
  type : Nat
  size : Nat
  left : Nat

def Message.complete (message : Message) : Bool := message.size ≤ message.left

/-- The messages one behind the other, and the number of bytes behind the last one that are
not looked at. The last one may be cut off; none is looked for behind one that `stops`. -/
def laid (stops : Nat → Bool) : Nat → List UInt8 → List Message × Nat
  | 0, bytes => ([], bytes.length)
  | turns + 1, bytes =>
    if bytes.length < 3 then ([], bytes.length)
    else
      (header bytes).elim ([], 0) fun read =>
        if read.2.2.length < read.2.1 then
          ([⟨read.1, read.2.1, read.2.2.length⟩], read.2.2.length)
        else if stops read.1 then
          ([⟨read.1, read.2.1, read.2.2.length⟩], read.2.2.length - read.2.1)
        else
          (⟨read.1, read.2.1, read.2.2.length⟩ :: (laid stops turns (read.2.2.drop read.2.1)).1,
           (laid stops turns (read.2.2.drop read.2.1)).2)

def laidUntil (stops : Nat → Bool) (bytes : List UInt8) : List Message × Nat :=
  laid stops bytes.length bytes

def messages (bytes : List UInt8) : List Message :=
  (laidUntil (fun _ => false) bytes).1.filter Message.complete

section Parts

variable {bytes rest : List UInt8} {type size : Nat}

theorem extended_parts {value : Nat} (read : extended bytes = some (value, rest)) :
    ∃ used, bytes = used ++ rest ∧ 1 ≤ used.length := by
  induction bytes generalizing value with
  | nil => cases read
  | cons byte later hypothesis =>
    unfold extended at read
    by_cases more : byte = 255
    · rw [if_pos more, map_eq_some_iff] at read
      rcases read with ⟨⟨behind, left⟩, found, same⟩
      cases same
      rcases hypothesis found with ⟨used, parts, _⟩
      exact ⟨byte :: used, by rw [parts, cons_append], Nat.le_add_left 1 _⟩
    · rw [if_neg more] at read
      cases read
      exact ⟨[byte], rfl, Nat.le_refl 1⟩

theorem header_some (read : header bytes = some (type, size, rest)) :
    ∃ middle, extended bytes = some (type, middle) ∧ extended middle = some (size, rest) := by
  unfold header at read
  rw [bind_eq_some_iff] at read
  rcases read with ⟨⟨first, middle⟩, found, later⟩
  rw [map_eq_some_iff] at later
  rcases later with ⟨⟨second, behind⟩, again, same⟩
  cases same
  exact ⟨middle, found, again⟩

theorem header_parts (read : header bytes = some (type, size, rest)) :
    ∃ used, bytes = used ++ rest ∧ 2 ≤ used.length := by
  rcases header_some read with ⟨middle, first, second⟩
  rcases extended_parts first with ⟨front, parts, long⟩
  rcases extended_parts second with ⟨back, behind, more⟩
  apply Exists.intro (front ++ back)
  constructor
  · rw [parts, behind, append_assoc]
  · rw [length_append]
    omega

end Parts

section Turns

variable {stops : Nat → Bool}

theorem laid_turns {turns others : Nat} {bytes : List UInt8} (enough : bytes.length ≤ turns)
    (also : bytes.length ≤ others) : laid stops turns bytes = laid stops others bytes := by
  induction turns generalizing others bytes with
  | zero =>
    have empty : bytes = [] := eq_nil_of_length_eq_zero (Nat.le_zero.mp enough)
    subst empty
    cases others with
    | zero | succ others => rfl
  | succ turns later =>
    cases others with
    | zero =>
      have empty : bytes = [] := eq_nil_of_length_eq_zero (Nat.le_zero.mp also)
      subst empty
      rfl
    | succ others =>
      unfold laid
      cases read : header bytes with
      | none => rfl
      | some found =>
        rcases found with ⟨type, size, rest⟩
        rcases header_parts read with ⟨used, parts, long⟩
        have shorter : (rest.drop size).length + 2 ≤ bytes.length := by
          rw [length_drop, parts, length_append]
          omega
        dsimp only [elim_some]
        rw [@later others (rest.drop size) (by omega) (by omega)]

theorem laid_until_short {bytes : List UInt8} (short : bytes.length < 3) :
    laidUntil stops bytes = ([], bytes.length) := by
  unfold laidUntil
  cases length : bytes.length with
  | zero => rw [laid, length]
  | succ turns => rw [laid, if_pos short, length]

variable {bytes : List UInt8} (long : 3 ≤ bytes.length)

include long

theorem laid_until_step : laidUntil stops bytes = (header bytes).elim ([], 0) fun read =>
        if read.2.2.length < read.2.1 then
          ([⟨read.1, read.2.1, read.2.2.length⟩], read.2.2.length)
        else if stops read.1 then
          ([⟨read.1, read.2.1, read.2.2.length⟩], read.2.2.length - read.2.1)
        else
          (⟨read.1, read.2.1, read.2.2.length⟩ :: (laidUntil stops (read.2.2.drop read.2.1)).1,
           (laidUntil stops (read.2.2.drop read.2.1)).2) := by
  unfold laidUntil
  cases length : bytes.length with
  | zero => omega
  | succ turns =>
    rw [laid, if_neg (by omega)]
    cases read : header bytes with
    | none => rfl
    | some found =>
      rcases found with ⟨type, size, rest⟩
      rcases header_parts read with ⟨used, parts, two⟩
      have shorter : (rest.drop size).length ≤ turns := by
        have total := congrArg List.length parts
        rw [length_append] at total
        rw [length_drop]
        omega
      dsimp only [elim_some]
      rw [laid_turns shorter (Nat.le_refl _)]

theorem laid_until_none (read : header bytes = none) : laidUntil stops bytes = ([], 0) := by
  rw [laid_until_step long, read]
  rfl

variable {type size : Nat} {rest : List UInt8} (read : header bytes = some (type, size, rest))

include read

theorem laid_until_cut (cut : rest.length < size) :
    laidUntil stops bytes = ([⟨type, size, rest.length⟩], rest.length) := by
  rw [laid_until_step long, read]
  exact if_pos cut

theorem laid_until_stop (whole : size ≤ rest.length) (stop : stops type = true) :
    laidUntil stops bytes = ([⟨type, size, rest.length⟩], rest.length - size) := by
  rw [laid_until_step long, read]
  dsimp only [elim_some]
  rw [if_neg (Nat.not_lt.mpr whole), if_pos stop]

theorem laid_until_whole (whole : size ≤ rest.length) (goes : stops type = false) :
    laidUntil stops bytes = (⟨type, size, rest.length⟩ :: (laidUntil stops (rest.drop size)).1,
       (laidUntil stops (rest.drop size)).2) := by
  rw [laid_until_step long, read]
  dsimp only [elim_some]
  rw [if_neg (Nat.not_lt.mpr whole), if_neg (by rw [goes]; exact Bool.false_ne_true)]

theorem messages_cut (cut : rest.length < size) : messages bytes = [] := by
  unfold messages
  rw [laid_until_cut long read cut]
  have partly : Message.complete ⟨type, size, rest.length⟩ = false :=
    decide_eq_false (Nat.not_le.mpr cut)
  rw [filter_cons_of_neg (by rw [partly]; exact Bool.false_ne_true), filter_nil]

theorem messages_whole (whole : size ≤ rest.length) :
    messages bytes = ⟨type, size, rest.length⟩ :: messages (rest.drop size) := by
  unfold messages
  rw [laid_until_whole long read whole rfl]
  exact filter_cons_of_pos (decide_eq_true whole)

end Turns

theorem messages_short {bytes : List UInt8} (short : bytes.length < 3) : messages bytes = [] := by
  unfold messages
  rw [laid_until_short short, filter_nil]

theorem messages_none {bytes : List UInt8} (long : 3 ≤ bytes.length)
    (read : header bytes = none) : messages bytes = [] := by
  unfold messages
  rw [laid_until_none long read, filter_nil]

end CedarC.TaggedMessages
