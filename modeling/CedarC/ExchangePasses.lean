import Mathlib.Data.List.Pairwise
import Mathlib.Data.List.Perm.Basic
import Mathlib.Order.MinMax

/-!
# Exchange passes over keyed values

A list of values with keys, where the values are to rise with the keys while the entries
stay where they are. A pass holds the first entry against each later one in turn and
exchanges the two values that are against their keys; passes follow from every entry.

When only the first entry is out of order the passes restore the order. Passes commute
with monotone maps, so that this is shown for values of one bit: there is then always one
entry that is earlier than all that it clashes with.
-/

namespace CedarC.ExchangePasses

open List

section Passes

variable {K V : Type*} [LinearOrder K] [LinearOrder V]

/-- The values of two entries are not against their keys. -/
def Agree (one other : K × V) : Prop :=
  (one.1 < other.1 → one.2 ≤ other.2) ∧ (other.1 < one.1 → other.2 ≤ one.2)

def InOrder (entries : List (K × V)) : Prop := entries.Pairwise Agree

def exchange (held entry : K × V) : (K × V) × (K × V) :=
  if held.1 < entry.1 then
    ((held.1, min held.2 entry.2), (entry.1, max held.2 entry.2))
  else if entry.1 < held.1 then
    ((held.1, max held.2 entry.2), (entry.1, min held.2 entry.2))
  else (held, entry)

def pass (held : K × V) : List (K × V) → (K × V) × List (K × V)
  | [] => (held, [])
  | entry :: rest =>
    ((pass (exchange held entry).1 rest).1,
      (exchange held entry).2 :: (pass (exchange held entry).1 rest).2)

/-- The passes from the first `count` entries. -/
def passes : Nat → List (K × V) → List (K × V)
  | 0, entries => entries
  | _ + 1, [] => []
  | count + 1, held :: rest => (pass held rest).1 :: passes count (pass held rest).2

def exchangeSort (entries : List (K × V)) : List (K × V) := passes entries.length entries

variable {entries : List (K × V)} {held still one other entry : K × V}

theorem agree_symm (agree : Agree one other) : Agree other one := ⟨agree.2, agree.1⟩

instance : Std.Symm (Agree : K × V → K × V → Prop) := ⟨fun _ _ => agree_symm⟩

theorem in_order_mem (order : InOrder entries)
    (first : one ∈ entries) (second : other ∈ entries) (below : one.1 < other.1) :
    one.2 ≤ other.2 := by
  have agree : Agree one other := by
    apply order.forall_of_forall _ first second
    exact fun entry _ => ⟨fun _ => le_refl _, fun _ => le_refl _⟩
  exact agree.1 below

theorem in_order_of_mem
    (all : ∀ one ∈ entries, ∀ other ∈ entries, one.1 < other.1 → one.2 ≤ other.2) :
    InOrder entries := by
  apply pairwise_of_forall_mem_list
  intro one first other second
  exact ⟨all one first other second, all other second one first⟩

theorem exchange_agree (agree : Agree held entry) : exchange held entry = (held, entry) := by
  unfold exchange
  split_ifs with below above
  · rw [min_eq_left (agree.1 below), max_eq_right (agree.1 below)]
  · rw [max_eq_left (agree.2 above), min_eq_right (agree.2 above)]
  · rfl

theorem exchange_keys (held entry : K × V) :
    (exchange held entry).1.1 = held.1 ∧ (exchange held entry).2.1 = entry.1 := by
  unfold exchange
  split_ifs
  all_goals exact ⟨rfl, rfl⟩

theorem exchange_values (held entry : K × V) :
    List.Perm [(exchange held entry).1.2, (exchange held entry).2.2] [held.2, entry.2] := by
  unfold exchange
  rcases le_total held.2 entry.2 with least | most
  · split_ifs
    · rw [min_eq_left least, max_eq_right least]
    · rw [min_eq_left least, max_eq_right least]
      exact List.Perm.swap _ _ _
    · exact List.Perm.refl _
  · split_ifs
    · rw [min_eq_right most, max_eq_left most]
      exact List.Perm.swap _ _ _
    · rw [min_eq_right most, max_eq_left most]
    · exact List.Perm.refl _

theorem agree_exchange (first : Agree still held) (second : Agree still entry) :
    Agree still (exchange held entry).1 ∧ Agree still (exchange held entry).2 := by
  unfold exchange
  split_ifs with below above
  · constructor
    · constructor
      · exact fun low => le_min (first.1 low) (second.1 (lt_trans low below))
      · exact fun high => le_trans (min_le_left _ _) (first.2 high)
    · constructor
      · exact fun low => le_trans (second.1 low) (le_max_right _ _)
      · exact fun high => max_le (first.2 (lt_trans below high)) (second.2 high)
  · constructor
    · constructor
      · exact fun low => le_trans (first.1 low) (le_max_left _ _)
      · exact fun high => max_le (first.2 high) (second.2 (lt_trans above high))
    · constructor
      · exact fun low => le_min (first.1 (lt_trans low above)) (second.1 low)
      · exact fun high => le_trans (min_le_right _ _) (second.2 high)
  · exact ⟨first, second⟩

theorem pass_agree
    (agree : ∀ entry ∈ entries, Agree held entry) : pass held entries = (held, entries) := by
  induction entries with
  | nil => rfl
  | cons entry rest later =>
    unfold pass
    rw [exchange_agree (agree entry mem_cons_self),
      later fun other member => agree other (mem_cons_of_mem _ member)]

theorem pass_keys (held : K × V) (entries : List (K × V)) : (pass held entries).1.1 = held.1 ∧
      (pass held entries).2.map Prod.fst = entries.map Prod.fst := by
  induction entries generalizing held with
  | nil => exact ⟨rfl, rfl⟩
  | cons entry rest later =>
    have step := exchange_keys held entry
    have behind := later (exchange held entry).1
    unfold pass
    rw [map_cons, map_cons, behind.1, behind.2, step.1, step.2]
    exact ⟨rfl, rfl⟩

theorem pass_length (held : K × V) (entries : List (K × V)) :
    (pass held entries).2.length = entries.length := by
  have keys := congrArg List.length (pass_keys held entries).2
  rwa [length_map, length_map] at keys

theorem pass_values (held : K × V) (entries : List (K × V)) :
    List.Perm ((pass held entries).1.2 :: (pass held entries).2.map Prod.snd)
      (held.2 :: entries.map Prod.snd) := by
  induction entries generalizing held with
  | nil => exact List.Perm.refl _
  | cons entry rest later =>
    have behind := later (exchange held entry).1
    have step := (exchange_values held entry).append_right (rest.map Prod.snd)
    unfold pass
    rw [map_cons, map_cons]
    apply (List.Perm.swap _ _ _).trans
    apply (behind.cons _).trans
    exact (List.Perm.swap _ _ _).trans step

theorem agree_pass (first : Agree still held) (all : ∀ entry ∈ entries, Agree still entry) :
    Agree still (pass held entries).1 ∧ ∀ entry ∈ (pass held entries).2, Agree still entry := by
  induction entries generalizing held with
  | nil => exact ⟨first, all⟩
  | cons entry rest later =>
    have step := agree_exchange first (all entry mem_cons_self)
    have behind := later step.1 fun other member => all other (mem_cons_of_mem _ member)
    unfold pass
    constructor
    · exact behind.1
    · intro other member
      rcases mem_cons.mp member with rfl | member
      · exact step.2
      · exact behind.2 other member

theorem agree_passes {count : Nat} (all : ∀ entry ∈ entries, Agree still entry) :
    ∀ entry ∈ passes count entries, Agree still entry := by
  induction count generalizing entries with
  | zero => exact all
  | succ count later =>
    cases entries with
    | nil => exact all
    | cons held rest =>
      have step := agree_pass (all held mem_cons_self)
        fun other member => all other (mem_cons_of_mem _ member)
      intro entry member
      unfold passes at member
      rcases mem_cons.mp member with rfl | member
      · exact step.1
      · exact later step.2 entry member

theorem passes_keys (count : Nat) (entries : List (K × V)) :
    (passes count entries).map Prod.fst = entries.map Prod.fst := by
  induction count generalizing entries with
  | zero => rfl
  | succ count later =>
    cases entries with
    | nil => rfl
    | cons held rest =>
      have keys := pass_keys held rest
      unfold passes
      rw [map_cons, map_cons, later, keys.1, keys.2]

theorem passes_values (count : Nat) (entries : List (K × V)) :
    List.Perm ((passes count entries).map Prod.snd) (entries.map Prod.snd) := by
  induction count generalizing entries with
  | zero => exact List.Perm.refl _
  | succ count later =>
    cases entries with
    | nil => exact List.Perm.refl _
    | cons held rest =>
      unfold passes
      rw [map_cons, map_cons]
      exact ((later _).cons _).trans (pass_values held rest)

end Passes

section Monotone

variable {K V W : Type*} [LinearOrder K] [LinearOrder V] [LinearOrder W] {f : V → W}

def mapValue (f : V → W) (entry : K × V) : K × W := (entry.1, f entry.2)

theorem exchange_map (monotone : Monotone f) (held entry : K × V) :
    exchange (mapValue f held) (mapValue f entry) =
      (mapValue f (exchange held entry).1, mapValue f (exchange held entry).2) := by
  unfold exchange mapValue
  dsimp only
  split_ifs
  · rw [monotone.map_min, monotone.map_max]
  · rw [monotone.map_min, monotone.map_max]
  · rfl

theorem pass_map (monotone : Monotone f) (held : K × V) (entries : List (K × V)) :
    pass (mapValue f held) (entries.map (mapValue f)) =
      (mapValue f (pass held entries).1, (pass held entries).2.map (mapValue f)) := by
  induction entries generalizing held with
  | nil => rfl
  | cons entry rest later =>
    rw [map_cons]
    unfold pass
    rw [exchange_map monotone, later]
    rfl

theorem passes_map (monotone : Monotone f) (count : Nat) (entries : List (K × V)) :
    passes count (entries.map (mapValue f)) = (passes count entries).map (mapValue f) := by
  induction count generalizing entries with
  | zero => rfl
  | succ count later =>
    cases entries with
    | nil => rfl
    | cons held rest =>
      rw [map_cons]
      unfold passes
      rw [pass_map monotone, later]
      rfl

def above (threshold value : V) : Bool := decide (threshold < value)

theorem above_monotone (threshold : V) : Monotone (above threshold) := by
  intro low high below passed
  unfold above at passed ⊢
  rw [decide_eq_true_iff] at passed ⊢
  exact lt_of_lt_of_le passed below

theorem in_order_of_bits {entries : List (K × V)}
    (bits : ∀ threshold : V, InOrder (entries.map (mapValue (above threshold)))) :
    InOrder entries := by
  apply in_order_of_mem
  intro one first other second below
  by_contra wrong
  have bit := in_order_mem (bits other.2) (mem_map_of_mem first)
    (mem_map_of_mem second) below
  have set : above other.2 one.2 = true := decide_eq_true (not_le.mp wrong)
  have clear : above other.2 other.2 = false := decide_eq_false (lt_irrefl _)
  unfold mapValue at bit
  dsimp only at bit
  rw [set, clear] at bit
  exact absurd (bit rfl) Bool.false_ne_true

theorem in_order_map (monotone : Monotone f) {entries : List (K × V)}
    (order : InOrder entries) : InOrder (entries.map (mapValue f)) := by
  apply pairwise_map.mpr
  apply order.imp
  intro one other agree
  exact ⟨fun below => monotone (agree.1 below), fun past => monotone (agree.2 past)⟩

end Monotone

section Bits

variable {K : Type*} [LinearOrder K]

/-- Each entry agrees with all later ones, or all later ones are in order: the entries
that clash do so with one earlier entry. -/
def OneSource : List (K × Bool) → Prop
  | [] => True
  | held :: rest => (∀ entry ∈ rest, Agree held entry) ∧ OneSource rest ∨ InOrder rest

theorem agree_bits {one other : K × Bool} :
    Agree one other ↔ ¬ (one.1 < other.1 ∧ one.2 = true ∧ other.2 = false) ∧
      ¬ (other.1 < one.1 ∧ other.2 = true ∧ one.2 = false) := by
  have wrong : ¬ (true : Bool) ≤ false := by decide
  unfold Agree
  cases one.2 <;> cases other.2 <;> simp [wrong]

variable {held entry : K × Bool} {before behind entries : List (K × Bool)}

theorem one_source_of_parts {source : K × Bool} (order : InOrder behind) (agree : ∀ entry ∈ before,
      Agree entry source ∧ (∀ other ∈ behind, Agree entry other))
    (among : InOrder before) : OneSource (before ++ source :: behind) := by
  induction before with
  | nil => exact .inr order
  | cons entry rest later =>
    have parts := pairwise_cons.mp among
    have here := agree entry mem_cons_self
    apply Or.inl
    constructor
    · intro other member
      rcases mem_append.mp member with inside | member
      · exact parts.1 other inside
      · rcases mem_cons.mp member with rfl | inside
        · exact here.1
        · exact here.2 other inside
    · exact later (fun other member => agree other (mem_cons_of_mem _ member)) parts.2

theorem pass_first_clash (agree : ∀ other ∈ before, Agree held other)
    (behindAgree : ∀ other ∈ behind, Agree (exchange held entry).1 other) :
    pass held (before ++ entry :: behind) =
      ((exchange held entry).1, before ++ (exchange held entry).2 :: behind) := by
  induction before with
  | nil =>
    rw [nil_append]
    unfold pass
    rw [pass_agree behindAgree]
    rfl
  | cons first rest later =>
    rw [cons_append]
    unfold pass
    rw [exchange_agree (agree first mem_cons_self),
      later fun other member => agree other (mem_cons_of_mem _ member)]
    rfl

theorem first_clash {held : K × Bool} (entries : List (K × Bool)) :
    (∀ entry ∈ entries, Agree held entry) ∨
      ∃ before entry behind, entries = before ++ entry :: behind ∧
        (∀ other ∈ before, Agree held other) ∧ ¬ Agree held entry := by
  induction entries with
  | nil => exact .inl fun entry member => (nomatch member)
  | cons first rest later =>
    by_cases here : Agree held first
    · rcases later with all | ⟨before, entry, behind, rfl, agree, clash⟩
      · apply Or.inl
        intro entry member
        rcases mem_cons.mp member with rfl | member
        · exact here
        · exact all entry member
      · apply Or.inr
        refine ⟨first :: before, entry, behind, rfl, ?_, clash⟩
        intro other member
        rcases mem_cons.mp member with rfl | member
        · exact here
        · exact agree other member
    · exact .inr ⟨[], first, rest, rfl, fun other member => (nomatch member), here⟩

theorem exchange_clash (clash : ¬ Agree held entry) :
    exchange held entry = ((held.1, entry.2), (entry.1, held.2)) ∧
      (held.1 < entry.1 ∧ held.2 = true ∧ entry.2 = false ∨
        entry.1 < held.1 ∧ entry.2 = true ∧ held.2 = false) := by
  rw [agree_bits, ← not_or, not_not] at clash
  apply And.intro _ clash
  unfold exchange
  rcases clash with ⟨below, set, clear⟩ | ⟨below, set, clear⟩
  · rw [if_pos below, set, clear]
    rfl
  · rw [if_neg (lt_asymm below), if_pos below, set, clear]
    rfl

/-- A pass over entries that are in order leaves one source of clashes, and an entry that
agrees with all. -/
theorem pass_in_order (order : InOrder entries) :
    (∀ entry ∈ (pass held entries).2, Agree (pass held entries).1 entry) ∧
      OneSource (pass held entries).2 := by
  rcases @first_clash K _ held entries with all | ⟨before, entry, behind, rfl, agree, clash⟩
  · rw [pass_agree all]
    apply And.intro all
    cases entries with
    | nil => exact trivial
    | cons first rest => exact .inr (pairwise_cons.mp order).2
  · have swapped := exchange_clash clash
    have parts := pairwise_append.mp order
    have tail := pairwise_cons.mp parts.2.1
    -- the clash tells the order of the keys, whichever way the bits lie
    have free : ∀ other : K × Bool, Agree entry other → Agree (held.1, entry.2) other := by
      intro other placed
      rw [agree_bits] at placed ⊢
      rcases swapped.2 with ⟨below, set, clear⟩ | ⟨below, set, clear⟩
      · rw [clear] at placed ⊢
        refine ⟨fun against => absurd against.2.1 Bool.false_ne_true, fun against => ?_⟩
        exact placed.2 ⟨lt_trans against.1 below, against.2.1, rfl⟩
      · rw [set] at placed ⊢
        refine ⟨fun against => ?_, fun against => absurd against.2.2 (by decide)⟩
        exact placed.1 ⟨lt_trans below against.1, rfl, against.2.2⟩
    have behindAgree : ∀ other ∈ behind, Agree (exchange held entry).1 other := by
      intro other member
      rw [swapped.1]
      exact free other (tail.1 other member)
    rw [pass_first_clash agree behindAgree]
    have moved : ∀ other ∈ before, Agree other (entry.1, held.2) := by
      intro other member
      have placed := agree other member
      rw [agree_bits] at placed ⊢
      rcases swapped.2 with ⟨below, set, clear⟩ | ⟨below, set, clear⟩
      · rw [set] at placed ⊢
        refine ⟨fun against => absurd against.2.2 (by decide), fun against => ?_⟩
        exact placed.1 ⟨lt_trans below against.1, rfl, against.2.2⟩
      · rw [clear] at placed ⊢
        refine ⟨fun against => ?_, fun against => absurd against.2.1 Bool.false_ne_true⟩
        exact placed.2 ⟨lt_trans against.1 below, against.2.1, rfl⟩
    constructor
    · intro other member
      rcases mem_append.mp member with inside | member
      · rw [swapped.1]
        have pair := parts.2.2 other inside entry mem_cons_self
        exact free other (agree_symm pair)
      · rcases mem_cons.mp member with rfl | inside
        · rw [swapped.1, agree_bits]
          rcases swapped.2 with ⟨below, set, clear⟩ | ⟨below, set, clear⟩
          · rw [set, clear]
            exact ⟨fun against => absurd against.2.1 Bool.false_ne_true,
              fun against => absurd against.1 (lt_asymm below)⟩
          · rw [set, clear]
            exact ⟨fun against => absurd against.1 (lt_asymm below),
              fun against => absurd against.2.1 Bool.false_ne_true⟩
        · exact behindAgree other inside
    · rw [swapped.1]
      apply one_source_of_parts tail.2 _ parts.1
      intro other member
      apply And.intro (moved other member)
      exact fun last inside => parts.2.2 other member last (mem_cons_of_mem _ inside)

theorem passes_one_source {count : Nat}
    (size : entries.length = count) (source : OneSource entries) :
    InOrder (passes count entries) := by
  induction count generalizing entries with
  | zero =>
    rw [length_eq_zero_iff.mp size]
    exact List.Pairwise.nil
  | succ count later =>
    cases entries with
    | nil => exact List.Pairwise.nil
    | cons held rest =>
      have step : (∀ entry ∈ (pass held rest).2, Agree (pass held rest).1 entry) ∧
          OneSource (pass held rest).2 := by
        rcases source with ⟨agree, behind⟩ | order
        · rw [pass_agree agree]
          exact ⟨agree, behind⟩
        · exact pass_in_order order
      have short : (pass held rest).2.length = count := by
        rw [pass_length]
        exact Nat.succ_inj.mp size
      unfold passes
      exact pairwise_cons.mpr ⟨agree_passes step.1, later short step.2⟩

end Bits

variable {K V : Type*} [LinearOrder K] [LinearOrder V]

theorem exchange_sort_in_order {held : K × V} {entries : List (K × V)}
    (order : InOrder entries) : InOrder (exchangeSort (held :: entries)) := by
  apply in_order_of_bits
  intro threshold
  unfold exchangeSort
  rw [← passes_map (above_monotone threshold)]
  apply passes_one_source
  · rw [length_map]
  · exact .inr (in_order_map (above_monotone threshold) order)

/-- Of entries in order, those with smaller keys have values up to a bound when there are
no fewer such values than such keys. -/
theorem bounded_iff_count {entries : List (K × V)} (order : InOrder entries) (key : K) (bound : V) :
    (∀ entry ∈ entries, entry.1 < key → entry.2 ≤ bound) ↔
      entries.countP (fun entry => decide (entry.1 < key)) ≤
        entries.countP (fun entry => decide (entry.2 ≤ bound)) := by
  constructor
  · intro bounded
    apply countP_mono_left
    intro entry member small
    rw [decide_eq_true_iff] at small ⊢
    exact bounded entry member small
  · intro enough entry member small
    by_contra past
    rcases append_of_mem member with ⟨before, behind, rfl⟩
    have within : ∀ other ∈ before ++ entry :: behind,
        decide (other.2 ≤ bound) = true → decide (other.1 < key) = true := by
      intro other listed low
      rw [decide_eq_true_iff] at low ⊢
      by_contra high
      have risen := in_order_mem order member listed (lt_of_lt_of_le small (not_lt.mp high))
      exact past (le_trans risen low)
    have first := countP_mono_left fun other listed =>
      within other (mem_append_left _ listed)
    have second := countP_mono_left fun other listed =>
      within other (mem_append_right _ (mem_cons_of_mem _ listed))
    rw [countP_append, countP_append, countP_cons, countP_cons,
      decide_eq_true small, decide_eq_false past, if_pos rfl, if_neg Bool.false_ne_true] at enough
    omega

def StandsBeside (held : K × V) (entries : List (K × V)) (outside : K × V) : Prop :=
  (held.1 < outside.1 → outside.2 < held.2 →
    ∃ entry ∈ entries, outside.1 ≤ entry.1 ∧ entry.2 ≤ outside.2) ∧
  (outside.1 < held.1 → held.2 < outside.2 →
    ∃ entry ∈ entries, entry.1 ≤ outside.1 ∧ outside.2 ≤ entry.2)

variable {entries : List (K × V)} {bound : V}

theorem count_at_most {key : K} (bounded : ∀ entry ∈ entries, entry.1 < key → entry.2 ≤ bound) :
    entries.countP (fun entry => decide (entry.1 < key)) ≤
      entries.countP (fun entry => decide (entry.2 ≤ bound)) := by
  apply countP_mono_left
  intro entry member small
  rw [decide_eq_true_iff] at small ⊢
  exact bounded entry member small

theorem count_spare_iff {key : K} (bounded : ∀ entry ∈ entries, entry.1 < key → entry.2 ≤ bound) :
    entries.countP (fun entry => decide (entry.1 < key)) <
        entries.countP (fun entry => decide (entry.2 ≤ bound)) ↔
      ∃ entry ∈ entries, key ≤ entry.1 ∧ entry.2 ≤ bound := by
  induction entries with
  | nil => simp
  | cons entry rest later =>
    have behind := fun other member => bounded other (mem_cons_of_mem _ member)
    have restMost := count_at_most behind
    rw [countP_cons, countP_cons, exists_mem_cons_iff, ← later behind]
    by_cases small : entry.1 < key
    · have low := bounded entry mem_cons_self small
      have same : ¬ (key ≤ entry.1 ∧ entry.2 ≤ bound) := fun both => not_le.mpr small both.1
      rw [decide_eq_true small, decide_eq_true low, or_iff_right same]
      omega
    · rw [decide_eq_false small]
      by_cases low : entry.2 ≤ bound
      · have here : key ≤ entry.1 ∧ entry.2 ≤ bound := ⟨not_lt.mp small, low⟩
        rw [decide_eq_true low, if_neg Bool.false_ne_true, if_pos rfl]
        exact ⟨fun _ => .inl here, fun _ => by omega⟩
      · have same : ¬ (key ≤ entry.1 ∧ entry.2 ≤ bound) := fun both => low both.2
        rw [decide_eq_false low, or_iff_right same]
        omega

/-- A new entry leaves enough small values when it is small itself or there is one to spare. -/
theorem count_enough_iff {held : K × V} {entries : List (K × V)} {key : K} {bound : V}
    (bounded : ∀ entry ∈ entries, entry.1 < key → entry.2 ≤ bound) :
    (held :: entries).countP (fun entry => decide (entry.1 < key)) ≤
        (held :: entries).countP (fun entry => decide (entry.2 ≤ bound)) ↔
      (held.1 < key → bound < held.2 → ∃ entry ∈ entries, key ≤ entry.1 ∧ entry.2 ≤ bound) := by
  have atMost := count_at_most bounded
  rw [countP_cons, countP_cons, ← count_spare_iff bounded]
  by_cases small : held.1 < key
  · rw [decide_eq_true small, if_pos rfl]
    by_cases low : held.2 ≤ bound
    · rw [decide_eq_true low, if_pos rfl]
      exact ⟨fun _ _ past => absurd low (not_le.mpr past), fun _ => by omega⟩
    · rw [decide_eq_false low, if_neg Bool.false_ne_true]
      exact ⟨fun enough _ _ => by omega, fun all => all small (not_le.mp low)⟩
  · rw [decide_eq_false small, if_neg Bool.false_ne_true]
    exact ⟨fun _ here => absurd here small, fun _ => by omega⟩

theorem sorted_keys_count (pred : K → Bool) (entries : List (K × V)) :
    (exchangeSort entries).countP (fun entry => pred entry.1) =
      entries.countP fun entry => pred entry.1 := by
  have mapped : ∀ list : List (K × V), list.countP (fun entry => pred entry.1) =
      (list.map Prod.fst).countP pred := by
    intro list
    rw [countP_map]
    rfl
  unfold exchangeSort
  rw [mapped, passes_keys, ← mapped]

theorem sorted_values_count (pred : V → Bool) (entries : List (K × V)) :
    (exchangeSort entries).countP (fun entry => pred entry.2) =
      entries.countP fun entry => pred entry.2 := by
  have mapped : ∀ list : List (K × V), list.countP (fun entry => pred entry.2) =
      (list.map Prod.snd).countP pred := by
    intro list
    rw [countP_map]
    rfl
  unfold exchangeSort
  rw [mapped, (passes_values _ _).countP_eq, ← mapped]

theorem sorted_bounded_iff {held : K × V} {entries : List (K × V)} (order : InOrder entries)
    {key : K} {bound : V} (bounded : ∀ entry ∈ entries, entry.1 < key → entry.2 ≤ bound) :
    (∀ entry ∈ exchangeSort (held :: entries), entry.1 < key → entry.2 ≤ bound) ↔
      (held.1 < key → bound < held.2 → ∃ entry ∈ entries, key ≤ entry.1 ∧ entry.2 ≤ bound) := by
  rw [bounded_iff_count (exchange_sort_in_order order), ← count_enough_iff bounded,
    sorted_keys_count fun one => decide (one < key),
    sorted_values_count fun value => decide (value ≤ bound)]

theorem in_order_dual (order : InOrder entries) : @InOrder Kᵒᵈ Vᵒᵈ _ _ entries :=
  order.imp fun agree => ⟨agree.2, agree.1⟩

theorem sorted_bounded_dual {held : K × V} {entries : List (K × V)} (order : InOrder entries)
    {key : K} {bound : V} (bounded : ∀ entry ∈ entries, key < entry.1 → bound ≤ entry.2) :
    (∀ entry ∈ exchangeSort (held :: entries), key < entry.1 → bound ≤ entry.2) ↔
      (key < held.1 → held.2 < bound → ∃ entry ∈ entries, entry.1 ≤ key ∧ bound ≤ entry.2) := by
  have sorted := @bounded_iff_count Kᵒᵈ Vᵒᵈ _ _ _
    (in_order_dual (@exchange_sort_in_order K V _ _ held entries order)) key bound
  have enough := @count_enough_iff Kᵒᵈ Vᵒᵈ _ _ held entries key bound bounded
  have keys := sorted_keys_count (fun one => decide (key < one)) (held :: entries)
  have values := sorted_values_count (fun value => decide (bound ≤ value)) (held :: entries)
  apply Iff.trans sorted
  apply Iff.trans _ enough
  exact Eq.to_iff (congrArg₂ LE.le keys values)

/-- With entries beside that no pass looks at, all is in order when each of them stands
beside the new entry. -/
theorem exchange_sort_beside_iff {held : K × V} {beside : List (K × V)}
    (order : InOrder (entries ++ beside)) :
    InOrder (exchangeSort (held :: entries) ++ beside) ↔
      ∀ outside ∈ beside, StandsBeside held entries outside := by
  have parts := pairwise_append.mp order
  have lower : ∀ outside ∈ beside, ∀ entry ∈ entries, entry.1 < outside.1 →
      entry.2 ≤ outside.2 := fun outside member entry listed =>
    (parts.2.2 entry listed outside member).1
  have upper : ∀ outside ∈ beside, ∀ entry ∈ entries, outside.1 < entry.1 →
      outside.2 ≤ entry.2 := fun outside member entry listed =>
    (parts.2.2 entry listed outside member).2
  have each : ∀ outside ∈ beside, (∀ entry ∈ exchangeSort (held :: entries), Agree entry outside) ↔
        StandsBeside held entries outside := by
    intro outside member
    have below := @sorted_bounded_iff K V _ _ held entries parts.1 _ _ (lower outside member)
    have past := @sorted_bounded_dual K V _ _ held entries parts.1 _ _ (upper outside member)
    unfold StandsBeside
    rw [← below, ← past]
    constructor
    · intro agree
      exact ⟨fun entry listed => (agree entry listed).1, fun entry listed => (agree entry listed).2⟩
    · intro both entry listed
      exact ⟨both.1 entry listed, both.2 entry listed⟩
  constructor
  · intro all outside member
    have between := (pairwise_append.mp all).2.2
    exact (each outside member).mp fun entry listed => between entry listed outside member
  · intro stands
    apply pairwise_append.mpr
    apply And.intro (exchange_sort_in_order parts.1)
    apply And.intro parts.2.1
    intro entry listed outside member
    exact (each outside member).mpr (stands outside member) entry listed

end CedarC.ExchangePasses
