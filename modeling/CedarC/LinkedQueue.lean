import Mathlib.Data.List.Nodup
import Mathlib.Data.List.Lattice

/-!
# Queues linked through their nodes

A queue is the pointer to its first node; every node points to the one behind
it. A node is put at the end by a walk along the pointers, and taken from the
front. The nodes are anything with decidable equality. The list of a queue is
what the walk from its head meets; it exists when the walk ends, and then no
node is met twice. A node that is put in again cuts off what stood behind it.
-/

namespace CedarC.LinkedQueue

open Function List

variable {Node : Type}

structure Queue (Node : Type) where
  head : Option Node
  next : Node → Option Node

/-- The nodes from a pointer on, up to the null pointer. -/
inductive Chain (next : Node → Option Node) : Option Node → List Node → Prop
  | nil : Chain next none []
  | cons {p : Node} {nodes : List Node} (later : Chain next (next p) nodes) :
      Chain next (some p) (p :: nodes)

/-- The same by a walk of at most `limit` nodes. -/
def walk (next : Node → Option Node) : Nat → Option Node → Option (List Node)
  | _, none => some []
  | 0, some _ => none
  | limit + 1, some p => (walk next limit (next p)).map fun nodes => p :: nodes

section Chains

variable {next : Node → Option Node} {head : Option Node} {nodes : List Node}

theorem walk_of_chain (chain : Chain next head nodes) :
    ∀ limit, nodes.length ≤ limit → walk next limit head = some nodes := by
  induction chain with
  | nil =>
    intro limit _
    cases limit <;> rfl
  | @cons p nodes later ih =>
    intro limit bound
    cases limit with
    | zero => exact absurd bound (Nat.not_succ_le_zero _)
    | succ limit =>
      rw [walk, ih limit (Nat.le_of_succ_le_succ bound)]
      rfl

theorem chain_none (chain : Chain next none nodes) : nodes = [] := by
  cases chain
  rfl

theorem chain_unique {others : List Node} (first : Chain next head nodes)
    (second : Chain next head others) : nodes = others := by
  induction first generalizing others with
  | nil =>
    cases second
    rfl
  | cons later ih =>
    cases second with
    | cons further => rw [ih further]

variable (chain : Chain next head nodes)

include chain

theorem chain_from {p : Node} (member : p ∈ nodes) :
    ∃ rest, Chain next (some p) rest ∧ rest.length ≤ nodes.length := by
  induction chain with
  | nil => cases member
  | @cons q nodes later ih =>
    rcases mem_cons.mp member with rfl | behind
    · exact ⟨_, .cons later, Nat.le_refl _⟩
    · obtain ⟨rest, fromHere, shorter⟩ := ih behind
      exact ⟨rest, fromHere, Nat.le_succ_of_le shorter⟩

theorem chain_nodup : nodes.Nodup := by
  induction chain with
  | nil => exact nodup_nil
  | @cons p nodes later ih =>
    apply nodup_cons.mpr
    refine ⟨?_, ih⟩
    intro again
    obtain ⟨rest, fromHere, shorter⟩ := chain_from later again
    have same := chain_unique fromHere (.cons later)
    rw [same] at shorter
    exact absurd shorter (Nat.not_succ_le_self _)

theorem chain_congr {other : Node → Option Node}
    (same : ∀ p ∈ nodes, other p = next p) : Chain other head nodes := by
  induction chain with
  | nil => exact .nil
  | @cons p nodes later ih =>
    have here := same p mem_cons_self
    apply Chain.cons
    rw [here]
    exact ih fun q member => same q (mem_cons_of_mem _ member)

end Chains

section Operations

/-- The last node from `p` on, when it is among the first `limit` ones. -/
def lastOf (next : Node → Option Node) : Nat → Node → Option Node
  | 0, _ => none
  | limit + 1, p =>
    match next p with
    | none => some p
    | some q => lastOf next limit q

variable [DecidableEq Node]

def enqueue (limit : Nat) (queue : Queue Node) (p : Node) : Option (Queue Node) :=
  match queue.head with
  | none => some ⟨some p, update queue.next p none⟩
  | some first =>
    (lastOf queue.next limit first).map fun last =>
      ⟨some first, update (update queue.next last (some p)) p none⟩

def dequeue (queue : Queue Node) : Queue Node × Option Node :=
  match queue.head with
  | none => (queue, none)
  | some p => (⟨queue.next p, update queue.next p none⟩, some p)

def drain : Nat → Queue Node → Option (Queue Node)
  | 0, _ => none
  | limit + 1, queue =>
    match dequeue queue with
    | (queue, none) => some queue
    | (queue, some _) => drain limit queue

def enqueueAll (limit : Nat) (queue : Queue Node) (nodes : List Node) : Option (Queue Node) :=
  nodes.foldlM (enqueue limit) queue

end Operations

variable {queue : Queue Node} {nodes : List Node} {p : Node} {limit : Nat}

def Holds (queue : Queue Node) (nodes : List Node) : Prop := Chain queue.next queue.head nodes

variable {next : Node → Option Node}

theorem last_of_chain {first : Node}
    (chain : Chain next (some first) nodes) (bound : nodes.length ≤ limit) :
    ∃ last front, lastOf next limit first = some last ∧ nodes = front ++ [last] ∧
      next last = none := by
  induction limit generalizing first nodes with
  | zero =>
    cases chain with
    | cons later => exact absurd bound (Nat.not_succ_le_zero _)
  | succ limit ih =>
    cases chain with
    | @cons _ rest later =>
      cases behind : next first with
      | none =>
        rw [behind] at later
        cases later
        exact ⟨first, [], by rw [lastOf, behind], rfl, behind⟩
      | some second =>
        rw [behind] at later
        obtain ⟨last, front, found, shape, ends⟩ := ih later (Nat.le_of_succ_le_succ bound)
        refine ⟨last, first :: front, ?_, ?_, ends⟩
        · rw [lastOf, behind]
          exact found
        · rw [shape]
          rfl

variable [DecidableEq Node]

theorem chain_append {head : Option Node} {front : List Node}
    {last : Node} (chain : Chain next head (front ++ [last])) (fresh : p ∉ front ++ [last]) :
    Chain (update (update next last (some p)) p none) head
      (front ++ [last, p]) := by
  induction front generalizing head with
  | nil =>
    have other : last ≠ p := fun same => fresh (by simp [same])
    cases chain with
    | cons later =>
      apply Chain.cons
      rw [update_of_ne other, update_self]
      apply Chain.cons
      rw [update_self]
      exact .nil
  | cons q front ih =>
    have distinct := chain_nodup chain
    cases chain with
    | cons later =>
      have notLast : q ≠ last := by
        rintro rfl
        simp at distinct
      have notNew : q ≠ p := fun same => fresh (by simp [same])
      apply Chain.cons
      rw [update_of_ne notNew, update_of_ne notLast]
      exact ih later fun member => fresh (mem_cons_of_mem _ member)

theorem enqueue_holds (holds : Holds queue nodes) (fresh : p ∉ nodes)
    (bound : nodes.length ≤ limit) :
    ∃ after, enqueue limit queue p = some after ∧ Holds after (nodes ++ [p]) := by
  unfold Holds at holds
  unfold enqueue
  cases start : queue.head with
  | none =>
    rw [start] at holds
    cases holds
    refine ⟨_, rfl, .cons ?_⟩
    change Chain _ (update queue.next p none p) []
    rw [update_self]
    exact .nil
  | some first =>
    rw [start] at holds
    obtain ⟨last, front, found, rfl, -⟩ := last_of_chain holds bound
    dsimp only
    rw [found]
    refine ⟨_, rfl, ?_⟩
    have appended := chain_append holds fresh
    simpa [Holds] using appended

theorem dequeue_holds (holds : Holds queue (p :: nodes)) :
    (dequeue queue).2 = some p ∧ Holds (dequeue queue).1 nodes := by
  unfold Holds at holds
  have distinct := chain_nodup holds
  unfold dequeue
  cases start : queue.head with
  | none =>
    rw [start] at holds
    cases holds
  | some first =>
    rw [start] at holds
    cases holds with
    | cons later =>
      refine ⟨rfl, ?_⟩
      apply chain_congr later
      intro q member
      have other : q ≠ p := by
        rintro rfl
        exact (nodup_cons.mp distinct).1 member
      exact update_of_ne other _ _

theorem dequeue_empty (holds : Holds queue []) : dequeue queue = (queue, none) := by
  unfold Holds at holds
  unfold dequeue
  cases start : queue.head with
  | none => rfl
  | some first =>
    rw [start] at holds
    cases holds

theorem drain_empty {after : Queue Node} (drained : drain limit queue = some after) :
    Holds after [] := by
  induction limit generalizing queue with
  | zero => cases drained
  | succ limit ih =>
    rw [drain] at drained
    split at drained
    · rename_i rest taken
      obtain rfl := Option.some.inj drained
      unfold dequeue at taken
      split at taken
      · rename_i start
        obtain ⟨rfl, -⟩ := Prod.mk.inj taken
        unfold Holds
        rw [start]
        exact .nil
      · cases (Prod.mk.inj taken).2
    · exact ih drained

theorem enqueue_all_holds {more : List Node} (holds : Holds queue nodes)
    (distinct : (nodes ++ more).Nodup) (bound : (nodes ++ more).length ≤ limit) :
    ∃ after, enqueueAll limit queue more = some after ∧ Holds after (nodes ++ more) := by
  induction more generalizing queue nodes with
  | nil => exact ⟨queue, rfl, by simpa using holds⟩
  | cons p more ih =>
    have fresh : p ∉ nodes := by
      intro member
      exact (nodup_append.mp distinct).2.2 p member p mem_cons_self rfl
    have shorter : nodes.length ≤ limit := by
      rw [length_append] at bound
      omega
    obtain ⟨next, put, holdsNext⟩ := enqueue_holds holds fresh shorter
    rw [append_cons] at distinct bound ⊢
    obtain ⟨after, all, holdsAfter⟩ := ih holdsNext distinct bound
    refine ⟨after, ?_, holdsAfter⟩
    simp only [enqueueAll, foldlM_cons, put] at all ⊢
    exact all

end CedarC.LinkedQueue
