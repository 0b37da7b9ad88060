import Mathlib.Data.List.Nodup

/-!
# Singly linked chains

Intrusive lists over an arbitrary node type: `next` gives the link of every
node, a head is an optional node, and a chain is the list of nodes met from
the head to the null link. The enqueue of such a list walks to the last node,
so it carries fuel; running out of fuel means that the walk never ends.
-/

namespace CedarC.LinkedChain

open Function List

variable {Node : Type*}

/-- `Chain next head nodes`: following `next` from `head` visits exactly
`nodes`, in this order, and then reaches the null link. -/
inductive Chain (next : Node → Option Node) : Option Node → List Node → Prop where
  | null : Chain next none []
  | link {node : Node} {rest : List Node} (tail : Chain next (next node) rest) :
      Chain next (some node) (node :: rest)

variable {next : Node → Option Node} {nodes : List Node} {head : Option Node} {node : Node}
  {fuel : Nat}

theorem chain_null_iff : Chain next none nodes ↔ nodes = [] := by
  constructor
  · intro chain
    cases chain
    rfl
  · rintro rfl
    exact .null

theorem chain_some_iff :
    Chain next (some node) nodes ↔ ∃ rest, nodes = node :: rest ∧ Chain next (next node) rest := by
  constructor
  · intro chain
    cases chain with
    | link tail => exact ⟨_, rfl, tail⟩
  · rintro ⟨rest, rfl, tail⟩
    exact .link tail

theorem chain_functional {left right : List Node} (first : Chain next head left)
    (second : Chain next head right) : left = right := by
  induction first generalizing right with
  | null => exact (chain_null_iff.mp second).symm
  | link tail ih =>
    obtain ⟨rest, rfl, other⟩ := chain_some_iff.mp second
    rw [ih other]

variable (chain : Chain next head nodes)

include chain

theorem chain_suffix (member : node ∈ nodes) :
    ∃ before after, nodes = before ++ node :: after ∧ Chain next (some node) (node :: after) := by
  induction chain with
  | null => simp at member
  | @link first rest tail ih =>
    by_cases same : node = first
    · subst same
      exact ⟨[], rest, rfl, .link tail⟩
    · obtain ⟨before, after, split, later⟩ :=
        ih ((mem_cons.mp member).resolve_left same)
      exact ⟨first :: before, after, by simp [split], later⟩

/-- A chain that reaches the null link never meets a node twice: the walk from
a node is determined by the node, so a repetition would repeat for ever. -/
theorem chain_nodup
    : nodes.Nodup := by
  induction chain with
  | null => exact nodup_nil
  | @link node rest tail ih =>
    refine nodup_cons.mpr ⟨fun repeated => ?_, ih⟩
    obtain ⟨before, after, split, again⟩ := chain_suffix tail repeated
    have same := chain_functional again (.link tail)
    have lengths := congrArg List.length same
    rw [split] at lengths
    simp at lengths
    omega

theorem chain_congr {other : Node → Option Node}
    (agree : ∀ node ∈ nodes, other node = next node) : Chain other head nodes := by
  induction chain with
  | null => exact .null
  | @link node rest tail ih =>
    refine .link ?_
    rw [agree node (by simp)]
    exact ih fun later member => agree later (by simp [member])

omit chain

/-- The nodes from a head, when the null link is met within `fuel` nodes. -/
def nodesFrom (next : Node → Option Node) : Nat → Option Node → Option (List Node)
  | _, none => some []
  | 0, some _ => none
  | fuel + 1, some node => (nodesFrom next fuel (next node)).map (node :: ·)

theorem nodes_from_eq_some
    :
    nodesFrom next fuel head = some nodes ↔ Chain next head nodes ∧ nodes.length ≤ fuel := by
  induction fuel generalizing head nodes with
  | zero =>
    cases head with
    | none => simp [nodesFrom, chain_null_iff, eq_comm]
    | some node =>
      simp only [nodesFrom, chain_some_iff, Nat.le_zero, length_eq_zero_iff]
      simp only [reduceCtorEq, false_iff, not_and]
      rintro ⟨rest, rfl, -⟩
      simp
  | succ fuel ih =>
    cases head with
    | none =>
      simp only [nodesFrom, Option.some.injEq, chain_null_iff]
      constructor
      · rintro rfl
        simp
      · rintro ⟨rfl, -⟩
        rfl
    | some node =>
      simp only [nodesFrom, Option.map_eq_some_iff, ih, chain_some_iff]
      constructor
      · rintro ⟨rest, ⟨tail, bound⟩, rfl⟩
        exact ⟨⟨rest, rfl, tail⟩, by simpa using bound⟩
      · rintro ⟨⟨rest, rfl, tail⟩, bound⟩
        exact ⟨rest, ⟨tail, by simpa using bound⟩, rfl⟩

/-- The walk `while(pCur->pNext != NULL) pCur = pCur->pNext`. -/
def walkToLast (next : Node → Option Node) : Nat → Node → Option Node
  | 0, _ => none
  | fuel + 1, node =>
    match next node with
    | none => some node
    | some successor => walkToLast next fuel successor

theorem walk_reaches_last {rest : List Node} (chain : Chain next (some node) (node :: rest))
    (bound : (node :: rest).length ≤ fuel) :
    walkToLast next fuel node = some ((node :: rest).getLast (by simp)) := by
  induction rest generalizing node fuel with
  | nil =>
    obtain ⟨_, equation, tail⟩ := chain_some_iff.mp chain
    obtain rfl := (List.cons.inj equation).2
    cases fuel with
    | zero => simp at bound
    | succ fuel =>
      have ended : next node = none := by
        cases link : next node with
        | none => rfl
        | some successor =>
          rw [link] at tail
          obtain ⟨_, impossible, _⟩ := chain_some_iff.mp tail
          simp at impossible
      simp [walkToLast, ended]
  | cons successor rest ih =>
    obtain ⟨_, equation, tail⟩ := chain_some_iff.mp chain
    obtain rfl := (List.cons.inj equation).2
    have link : next node = some successor := by
      cases step : next node with
      | none =>
        rw [step] at tail
        simp [chain_null_iff] at tail
      | some other =>
        rw [step] at tail
        obtain ⟨_, head, _⟩ := chain_some_iff.mp tail
        rw [(List.cons.inj head).1]
    cases fuel with
    | zero => simp at bound
    | succ fuel =>
      rw [link] at tail
      simp only [walkToLast, link]
      rw [ih tail (by simpa using bound)]
      simp

variable [DecidableEq Node]

/-- Append a node to the list behind `head`. -/
def enqueue (next : Node → Option Node) (head : Option Node) (fuel : Nat)
    (node : Node) : Option ((Node → Option Node) × Option Node) :=
  match head with
  | none => some (update next node none, some node)
  | some current =>
    (walkToLast next fuel current).map fun last =>
      (update (update next last (some node)) node none, head)

/-- Unlink the node at `head`. -/
def dequeue (next : Node → Option Node) (head : Option Node) :
    (Node → Option Node) × Option Node × Option Node :=
  match head with
  | none => (next, none, none)
  | some node => (update next node none, next node, some node)

variable {next : Node → Option Node} {head : Option Node} {nodes : List Node} {node : Node}

theorem chain_link_last (chain : Chain next head nodes) (nonempty : nodes ≠ [])
    (fresh : node ∉ nodes) :
    Chain (update (update next (nodes.getLast nonempty) (some node)) node none)
      head (nodes ++ [node]) := by
  have appended := chain_nodup chain
  induction chain with
  | null => exact absurd rfl nonempty
  | @link first rest tail ih =>
    have distinct : first ≠ node := fun same => fresh (by simp [same])
    refine .link ?_
    rw [update_of_ne distinct]
    cases rest with
    | nil =>
      simp only [getLast_singleton, update_self]
      refine .link ?_
      simpa using Chain.null
    | cons second rest =>
      have other : first ≠ (second :: rest).getLast (by simp) := by
        intro same
        exact (nodup_cons.mp appended).1 (same ▸ getLast_mem _)
      rw [getLast_cons (by simp), update_of_ne other]
      exact ih (by simp) (fun member => fresh (by simp [mem_cons.mp member]))
        (nodup_cons.mp appended).2

/-- Enqueueing a node that is not linked yet ends within the list's length,
appends it, and leaves the links of all nodes outside the list alone. -/
theorem enqueue_spec {fuel : Nat} (chain : Chain next head nodes)
    (bound : nodes.length ≤ fuel) (fresh : node ∉ nodes) :
    ∃ next' head', enqueue next head fuel node = some (next', head') ∧
      Chain next' head' (nodes ++ [node]) ∧
      ∀ other, other ∉ nodes → other ≠ node → next' other = next other := by
  cases chain with
  | null =>
    refine ⟨_, _, rfl, ?_, ?_⟩
    · refine .link ?_
      simpa using Chain.null
    · intro other _ different
      simp [different]
  | @link first rest tail =>
    refine ⟨_, _, by simp only [enqueue, walk_reaches_last (.link tail) bound]; rfl, ?_, ?_⟩
    · exact chain_link_last (.link tail) (by simp) fresh
    · intro other outside different
      have notLast : other ≠ (first :: rest).getLast (by simp) := by
        rintro rfl
        exact outside (getLast_mem _)
      simp [different, notLast]

theorem dequeue_spec (chain : Chain next head nodes) :
    (nodes = [] ∧ dequeue next head = (next, none, none)) ∨
    ∃ node rest next' head', nodes = node :: rest ∧
      dequeue next head = (next', head', some node) ∧ Chain next' head' rest ∧
      ∀ other, other ≠ node → next' other = next other := by
  have distinct := chain_nodup chain
  cases chain with
  | null => exact .inl ⟨rfl, rfl⟩
  | @link node rest tail =>
    refine .inr ⟨node, rest, _, _, rfl, rfl, ?_, ?_⟩
    · refine chain_congr tail fun later member => ?_
      have different : later ≠ node := by
        rintro rfl
        exact (nodup_cons.mp distinct).1 member
      simp [different]
    · intro other different
      simp [different]

end CedarC.LinkedChain
