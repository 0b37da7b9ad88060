import Mathlib.Data.List.Range

/-!
# Records of loans

A client borrows items from a provider and gives them back, in one of several
ways. The record keeps both, oldest entry first. A client of the kind studied
here holds at most one item: what is out after a record is a state of its own,
and a record that lends a second item, or takes back one that is not out, has
none. Loans are told apart by the number of the request.
-/

namespace CedarC.LoanRecord

open List

inductive Entry (Item How : Type)
  | lent (item : Item)
  | givenBack (how : How) (item : Item)
deriving DecidableEq

variable {Item How : Type}

def Entry.lentItem : Entry Item How → Option Item
  | .lent item => some item
  | .givenBack _ _ => none

def Entry.givenBackItem : Entry Item How → Option Item
  | .lent _ => none
  | .givenBack _ item => some item

def lentItems (record : List (Entry Item How)) : List Item := record.filterMap Entry.lentItem

def givenBackItems (record : List (Entry Item How)) : List Item :=
  record.filterMap Entry.givenBackItem

@[simp] theorem lent_items_nil : lentItems ([] : List (Entry Item How)) = [] := rfl

@[simp] theorem given_back_items_nil : givenBackItems ([] : List (Entry Item How)) = [] := rfl

@[simp] theorem lent_items_append (earlier later : List (Entry Item How)) :
    lentItems (earlier ++ later) = lentItems earlier ++ lentItems later := by
  simp [lentItems]

@[simp] theorem given_back_items_append (earlier later : List (Entry Item How)) :
    givenBackItems (earlier ++ later) = givenBackItems earlier ++ givenBackItems later := by
  simp [givenBackItems]

@[simp] theorem lent_items_lent (item : Item) :
    lentItems [(.lent item : Entry Item How)] = [item] := rfl

@[simp] theorem given_back_items_lent (item : Item) :
    givenBackItems [(.lent item : Entry Item How)] = [] := rfl

@[simp] theorem lent_items_given_back (how : How) (item : Item) :
    lentItems [(.givenBack how item : Entry Item How)] = [] := rfl

@[simp] theorem given_back_items_given_back (how : How) (item : Item) :
    givenBackItems [(.givenBack how item : Entry Item How)] = [item] := rfl

section Outstanding

variable [DecidableEq Item]

def enter : Option Item → Entry Item How → Option (Option Item)
  | none, .lent item => some (some item)
  | some held, .givenBack _ item => if item = held then some none else none
  | some _, .lent _ => none
  | none, .givenBack _ _ => none

/-- What is out after a record, if all of it is in order. -/
def outstanding (record : List (Entry Item How)) : Option (Option Item) := record.foldlM enter none

@[simp] theorem outstanding_nil : outstanding ([] : List (Entry Item How)) = some none := rfl

theorem outstanding_append_one (record : List (Entry Item How)) (entry : Entry Item How) :
    outstanding (record ++ [entry]) = (outstanding record).bind fun held => enter held entry := by
  simp [outstanding, foldlM_append]

variable {held : Option Item} {record earlier later : List (Entry Item How)} {item : Item}

theorem outstanding_lent (item : Item) (settled : outstanding record = some none) :
    outstanding (record ++ [.lent item]) = some (some item) := by
  rw [outstanding_append_one, settled]
  rfl

theorem outstanding_given_back (how : How) (held : outstanding record = some (some item)) :
    outstanding (record ++ [.givenBack how item]) = some none := by
  rw [outstanding_append_one, held]
  simp [enter]

theorem outstanding_before (kept : outstanding (earlier ++ later) = some held) :
    ∃ before, outstanding earlier = some before := by
  unfold outstanding at kept ⊢
  rw [foldlM_append] at kept
  obtain ⟨before, first, -⟩ := Option.bind_eq_some_iff.mp kept
  exact ⟨before, first⟩

theorem enter_before {entry : Entry Item How}
    (kept : outstanding (earlier ++ entry :: later) = some held) :
    ∃ before after, outstanding earlier = some before ∧ enter before entry = some after := by
  rw [append_cons] at kept
  obtain ⟨after, entered⟩ := outstanding_before kept
  rw [outstanding_append_one] at entered
  obtain ⟨before, first, second⟩ := Option.bind_eq_some_iff.mp entered
  exact ⟨before, after, first, second⟩

theorem settled_before_lent (kept : outstanding (earlier ++ .lent item :: later) = some held) :
    outstanding earlier = some none := by
  obtain ⟨before, after, first, entered⟩ := enter_before kept
  cases before with
  | none => exact first
  | some other => cases entered

theorem held_before_given_back {how : How}
    (kept : outstanding (earlier ++ .givenBack how item :: later) = some held) :
    outstanding earlier = some (some item) := by
  obtain ⟨before, after, first, entered⟩ := enter_before kept
  cases before with
  | none => cases entered
  | some other =>
    simp only [enter] at entered
    split at entered
    · rename_i same
      rw [first, same]
    · cases entered

theorem held_is_newest (held : outstanding record = some (some item)) :
    ∃ front, record = front ++ [.lent item] := by
  cases record using List.reverseRecOn with
  | nil => cases held
  | append_singleton front entry =>
    rw [outstanding_append_one] at held
    obtain ⟨before, -, entered⟩ := Option.bind_eq_some_iff.mp held
    cases entry with
    | lent other =>
      cases before with
      | none =>
        obtain rfl : other = item := by simpa [enter] using entered
        exact ⟨front, rfl⟩
      | some first => cases entered
    | givenBack how other =>
      cases before with
      | none => cases entered
      | some first =>
        simp only [enter] at entered
        split at entered <;> cases entered

theorem lent_given_back (kept : outstanding record = some held) :
    lentItems record = givenBackItems record ++ held.toList := by
  induction record using List.reverseRecOn generalizing held with
  | nil =>
    obtain rfl : none = held := by simpa using kept
    rfl
  | append_singleton front entry ih =>
    rw [outstanding_append_one] at kept
    obtain ⟨before, first, entered⟩ := Option.bind_eq_some_iff.mp kept
    have items := ih first
    cases entry with
    | lent item =>
      cases before with
      | none =>
        obtain rfl : some item = held := by simpa [enter] using entered
        simpa using items
      | some other => cases entered
    | givenBack how item =>
      cases before with
      | none => cases entered
      | some other =>
        simp only [enter] at entered
        split at entered
        · rename_i same
          obtain rfl : none = held := by simpa using entered
          simpa [same] using items
        · cases entered

end Outstanding

variable {record : List (Entry Nat How)} {held : Option Nat}

def nextNumber (record : List (Entry Nat How)) : Nat := (lentItems record).length

/-- The loans are numbered as they were made, and one is out at most. -/
structure OneAtATime (record : List (Entry Nat How)) (held : Option Nat) : Prop where
  numbered : lentItems record = List.range (nextNumber record)
  kept : outstanding record = some held

theorem one_at_a_time_nil : OneAtATime ([] : List (Entry Nat How)) none := ⟨rfl, rfl⟩

theorem OneAtATime.lend (orderly : OneAtATime record none) :
    OneAtATime (record ++ [.lent (nextNumber record)]) (some (nextNumber record)) := by
  constructor
  · have numbered := orderly.numbered
    simp only [nextNumber, lent_items_append, lent_items_lent, length_append,
      length_singleton, range_succ] at numbered ⊢
    rw [← numbered]
  · exact outstanding_lent _ orderly.kept

theorem OneAtATime.give_back {number : Nat} (orderly : OneAtATime record (some number))
    (how : How) : OneAtATime (record ++ [.givenBack how number]) none := by
  constructor
  · simpa [nextNumber] using orderly.numbered
  · exact outstanding_given_back how orderly.kept

/-- The record in terms of its entries: every loan but the one that is out was
given back, once, before the next one was made, and only the newest goes back. -/
structure Accounted (record : List (Entry Nat How)) (held : Option Nat) : Prop where
  distinct : (lentItems record).Nodup
  once : lentItems record = givenBackItems record ++ held.toList
  before : ∀ earlier item later, record = earlier ++ .lent item :: later →
    lentItems earlier = givenBackItems earlier
  newest : ∀ earlier how item later, record = earlier ++ .givenBack how item :: later →
    ∃ front, earlier = front ++ [.lent item]

theorem OneAtATime.accounted (orderly : OneAtATime record held) : Accounted record held := by
  constructor
  · rw [orderly.numbered]
    exact nodup_range
  · exact lent_given_back orderly.kept
  · intro earlier item later shape
    have kept := orderly.kept
    rw [shape] at kept
    simpa using lent_given_back (settled_before_lent kept)
  · intro earlier how item later shape
    have kept := orderly.kept
    rw [shape] at kept
    exact held_is_newest (held_before_given_back kept)

end CedarC.LoanRecord
