import CedarC.IonAllocator
import Mathlib.Algebra.Order.Ring.Int
import Mathlib.Data.List.Pairwise
import Mathlib.Data.Set.Function

/-!
# Address translation of the ION allocator

`ion_alloc_vir2phy_cpu`, `ion_alloc_phy2vir_cpu`, `ion_alloc_vir2phy_ve` and
`ion_alloc_phy2vir_ve` over the list of the buffers. An `unsigned long` has `bits` bits, 0 is what
a search that fails returns.
-/

namespace CedarC.IonTranslation

open IonAllocator

variable {bits : Nat} {list : List BufferNode} {phyOffset : Nat}

/-- The search of both directions, from one address of a buffer to the other. -/
def translate (bits : Nat) (source target : BufferNode → Nat) (list : List BufferNode)
    (pbuf : Nat) : Nat :=
  if pbuf = 0 then 0
  else
    match list.find? fun tmp =>
        decide (source tmp ≤ pbuf ∧ pbuf < (source tmp + tmp.size) % 2 ^ bits) with
    | none => 0
    | some tmp => (target tmp + pbuf - source tmp) % 2 ^ bits

def ion_alloc_vir2phy_cpu (bits : Nat) : List BufferNode → Nat → Nat :=
  translate bits BufferNode.vir BufferNode.phy

def ion_alloc_phy2vir_cpu (bits : Nat) : List BufferNode → Nat → Nat :=
  translate bits BufferNode.phy BufferNode.vir

def ion_alloc_vir2phy_ve (bits : Nat) (list : List BufferNode) (phyOffset pbuf : Nat) : Nat :=
  (ion_alloc_vir2phy_cpu bits list pbuf + (2 ^ bits - phyOffset)) % 2 ^ bits

def ion_alloc_phy2vir_ve (bits : Nat) (list : List BufferNode) (phyOffset pbuf : Nat) : Nat :=
  (ion_alloc_phy2vir_cpu bits list pbuf + (2 ^ bits - phyOffset)) % 2 ^ bits

def Inside (source : BufferNode → Nat) (list : List BufferNode) (address : Nat) : Prop :=
  ∃ node ∈ list, source node ≤ address ∧ address < source node + node.size

def Apart (source : BufferNode → Nat) (list : List BufferNode) : Prop :=
  list.Pairwise fun first second => source first + first.size ≤ source second ∨
    source second + second.size ≤ source first

/-- Buffers that are mapped, each with a range of both kinds of its own. -/
structure Live (bits : Nat) (list : List BufferNode) : Prop where
  mapped : ∀ node ∈ list, 0 < node.vir ∧ 0 < node.size
  inMemory : ∀ node ∈ list, node.vir + node.size ≤ 2 ^ bits ∧ node.phy + node.size ≤ 2 ^ bits
  virApart : Apart BufferNode.vir list
  phyApart : Apart BufferNode.phy list

/-- A physical address as the VE has it is `phyOffset` below the address itself. -/
def fromVe (bits phyOffset address : Nat) : Nat := (address + phyOffset) % 2 ^ bits

structure TranslatesRight (bits : Nat) (list : List BufferNode) (phyOffset : Nat) : Prop where
  back : ∀ address, Inside BufferNode.vir list address →
    ion_alloc_phy2vir_cpu bits list (ion_alloc_vir2phy_cpu bits list address) = address
  veBack : ∀ address, Inside BufferNode.vir list address → ion_alloc_phy2vir_ve bits list phyOffset
      (ion_alloc_vir2phy_ve bits list phyOffset address) = address
  phyDistinct : Set.InjOn (ion_alloc_vir2phy_cpu bits list) {a | Inside BufferNode.vir list a}
  virDistinct : Set.InjOn (ion_alloc_phy2vir_cpu bits list) {a | Inside BufferNode.phy list a}
  vePhyDistinct : Set.InjOn (ion_alloc_vir2phy_ve bits list phyOffset)
    {a | Inside BufferNode.vir list a}
  veVirDistinct : Set.InjOn (ion_alloc_phy2vir_ve bits list phyOffset)
    {a | a < 2 ^ bits ∧ Inside BufferNode.phy list (fromVe bits phyOffset a)}
  notFound : ∀ address < 2 ^ bits,
    (¬ Inside BufferNode.vir list address → ion_alloc_vir2phy_cpu bits list address = 0 ∧
      ion_alloc_vir2phy_ve bits list phyOffset address = 0) ∧
    (¬ Inside BufferNode.phy list address → ion_alloc_phy2vir_cpu bits list address = 0) ∧
    (¬ Inside BufferNode.phy list (fromVe bits phyOffset address) →
      ion_alloc_phy2vir_ve bits list phyOffset address = 0)

section Search

variable {source target : BufferNode → Nat} {node other : BufferNode} {address : Nat}

theorem node_of_address (apart : Apart source list) (member : node ∈ list) (also : other ∈ list)
    (here : source node ≤ address ∧ address < source node + node.size)
    (there : source other ≤ address ∧ address < source other + other.size) : other = node := by
  have symmetric : Std.Symm fun first second : BufferNode =>
      source first + first.size ≤ source second ∨ source second + second.size ≤ source first :=
    ⟨fun _ _ either => either.symm⟩
  by_contra different
  rcases List.Pairwise.forall apart also member different with before | behind
  · omega
  · omega

theorem searched_in_range {tmp : BufferNode} (searched : (list.find? fun tmp =>
      decide (source tmp ≤ address ∧ address < (source tmp + tmp.size) % 2 ^ bits)) = some tmp) :
    tmp ∈ list ∧ source tmp ≤ address ∧ address < (source tmp + tmp.size) % 2 ^ bits := by
  have passed := List.find?_some searched
  rw [decide_eq_true_eq] at passed
  exact ⟨List.mem_of_find?_eq_some searched, passed⟩

theorem translate_zero : translate bits source target list 0 = 0 := if_pos rfl

theorem translate_found (found : translate bits source target list address ≠ 0) :
    ∃ tmp ∈ list, source tmp ≤ address ∧ address < (source tmp + tmp.size) % 2 ^ bits := by
  unfold translate at found
  split_ifs at found with null
  · exact absurd rfl found
  · cases searched : list.find? fun tmp =>
        decide (source tmp ≤ address ∧ address < (source tmp + tmp.size) % 2 ^ bits) with
    | none =>
      rw [searched] at found
      exact absurd rfl found
    | some tmp => exact ⟨tmp, searched_in_range searched⟩

theorem translate_outside (outside : ¬ Inside source list address) :
    translate bits source target list address = 0 := by
  by_contra found
  rcases translate_found found with ⟨tmp, member, low, high⟩
  exact outside ⟨tmp, member, low, Nat.lt_of_lt_of_le high (Nat.mod_le _ _)⟩

theorem translate_lt : translate bits source target list address < 2 ^ bits := by
  unfold translate
  split_ifs
  · exact Nat.two_pow_pos bits
  · split
    · exact Nat.two_pow_pos bits
    · exact Nat.mod_lt _ (Nat.two_pow_pos bits)

/-- An address that is translated at all lies in front of the end of its buffer, and that end
does not wrap. -/
theorem end_of_found (apart : Apart source list) (member : node ∈ list)
    (here : source node ≤ address ∧ address < source node + node.size)
    (inMemory : source node + node.size ≤ 2 ^ bits)
    (found : translate bits source target list address ≠ 0) :
    source node + node.size < 2 ^ bits := by
  rcases translate_found found with ⟨tmp, also, low, high⟩
  have same := node_of_address apart member also here
    ⟨low, Nat.lt_of_lt_of_le high (Nat.mod_le _ _)⟩
  rw [same] at high
  rcases Nat.lt_or_eq_of_le inMemory with less | ends
  · exact less
  · rw [ends, Nat.mod_self] at high
    exact absurd high (Nat.not_lt_zero _)

/-- What the search finds for an address inside a buffer that does not end with the memory. -/
theorem translate_inside (apart : Apart source list) (member : node ∈ list)
    (here : source node ≤ address ∧ address < source node + node.size) (nonzero : address ≠ 0)
    (below : source node + node.size < 2 ^ bits) :
    translate bits source target list address =
      (target node + address - source node) % 2 ^ bits := by
  unfold translate
  rw [if_neg nonzero]
  cases searched : list.find? fun tmp =>
      decide (source tmp ≤ address ∧ address < (source tmp + tmp.size) % 2 ^ bits) with
  | none =>
    have missed := List.find?_eq_none.mp searched node member
    rw [Nat.mod_eq_of_lt below] at missed
    exact absurd (decide_eq_true here) missed
  | some tmp =>
    rcases searched_in_range searched with ⟨also, low, high⟩
    have same := node_of_address apart member also here
      ⟨low, Nat.lt_of_lt_of_le high (Nat.mod_le _ _)⟩
    rw [same]

end Search

/-- No buffer starts at the physical address 0, and none ends with the memory. -/
def Plain (bits : Nat) (list : List BufferNode) : Prop :=
  ∀ node ∈ list, node.phy ≠ 0 ∧ node.vir + node.size < 2 ^ bits ∧ node.phy + node.size < 2 ^ bits

variable {source target : BufferNode → Nat} {node : BufferNode} {address : Nat}

theorem translate_back (sourceApart : Apart source list) (targetApart : Apart target list)
    (plain : ∀ node ∈ list, (0 < source node ∧ source node + node.size < 2 ^ bits) ∧
      0 < target node ∧ target node + node.size < 2 ^ bits)
    (inside : Inside source list address) :
    translate bits target source list (translate bits source target list address) = address := by
  rcases inside with ⟨node, member, here⟩
  rcases plain node member with ⟨first, second⟩
  have there : (target node + address - source node) % 2 ^ bits =
      target node + (address - source node) := by
    rw [Nat.add_sub_assoc here.1]
    apply Nat.mod_eq_of_lt
    omega
  rw [translate_inside sourceApart member here (by omega) first.2, there,
    translate_inside targetApart member (by omega) (by omega) second.2]
  have back : source node + (target node + (address - source node)) - target node = address := by
    omega
  rw [back]
  apply Nat.mod_eq_of_lt
  omega

theorem inj_of_back {first second : Nat → Nat} {inside : Nat → Prop}
    (back : ∀ address, inside address → second (first address) = address) :
    Set.InjOn first {address | inside address} := by
  intro one here other there same
  rw [← back one here, ← back other there, same]

theorem offset_zero (translated : Nat) (below : translated < 2 ^ bits) :
    (translated + (2 ^ bits - 0)) % 2 ^ bits = translated := by
  rw [Nat.sub_zero, Nat.add_mod_right, Nat.mod_eq_of_lt below]

theorem right_of_plain (live : Live bits list) (plain : Plain bits list) :
    TranslatesRight bits list 0 := by
  have positive : ∀ node ∈ list, 0 < node.vir ∧ 0 < node.phy := fun node member =>
    ⟨(live.mapped node member).1, Nat.pos_of_ne_zero (plain node member).1⟩
  have back (address : Nat) (inside : Inside BufferNode.vir list address) :
      ion_alloc_phy2vir_cpu bits list (ion_alloc_vir2phy_cpu bits list address) = address :=
    translate_back live.virApart live.phyApart (fun node member =>
      ⟨⟨(positive node member).1, (plain node member).2.1⟩, (positive node member).2,
        (plain node member).2.2⟩) inside
  have forth (address : Nat) (inside : Inside BufferNode.phy list address) :
      ion_alloc_vir2phy_cpu bits list (ion_alloc_phy2vir_cpu bits list address) = address :=
    translate_back live.phyApart live.virApart (fun node member =>
      ⟨⟨(positive node member).2, (plain node member).2.2⟩, (positive node member).1,
        (plain node member).2.1⟩) inside
  have toPhy : ion_alloc_vir2phy_ve bits list 0 = ion_alloc_vir2phy_cpu bits list :=
    funext fun address => offset_zero _ translate_lt
  have toVir : ion_alloc_phy2vir_ve bits list 0 = ion_alloc_phy2vir_cpu bits list :=
    funext fun address => offset_zero _ translate_lt
  have fromVeZero (address : Nat) (below : address < 2 ^ bits) :
      fromVe bits 0 address = address := Nat.mod_eq_of_lt below
  constructor
  · exact back
  · rw [toPhy, toVir]
    exact back
  · exact inj_of_back back
  · exact inj_of_back forth
  · rw [toPhy]
    exact inj_of_back back
  · rw [toVir]
    apply inj_of_back
    intro address inside
    rw [fromVeZero address inside.1] at inside
    exact forth address inside.2
  · intro address below
    rw [toPhy, toVir, fromVeZero address below]
    exact ⟨fun outside => ⟨translate_outside outside, translate_outside outside⟩,
      translate_outside, translate_outside⟩

theorem plain_of_right (live : Live bits list) (right : TranslatesRight bits list phyOffset) :
    Plain bits list := by
  intro node member
  have mapped := live.mapped node member
  have inMemory := live.inMemory node member
  have here : node.vir ≤ node.vir ∧ node.vir < node.vir + node.size := by omega
  have back := right.back node.vir ⟨node, member, here⟩
  have found : ion_alloc_phy2vir_cpu bits list (ion_alloc_vir2phy_cpu bits list node.vir) ≠ 0 := by
    omega
  have first : ion_alloc_vir2phy_cpu bits list node.vir ≠ 0 := by
    intro null
    rw [null] at found
    exact found translate_zero
  have virEnd := end_of_found live.virApart member here inMemory.1 first
  have phy : ion_alloc_vir2phy_cpu bits list node.vir = node.phy := by
    unfold ion_alloc_vir2phy_cpu
    rw [translate_inside live.virApart member here (by omega) virEnd, Nat.add_sub_cancel]
    apply Nat.mod_eq_of_lt
    omega
  rw [phy] at first found
  have phyEnd := end_of_found live.phyApart member (by omega) inMemory.2 found
  exact ⟨first, virEnd, phyEnd⟩

/-- The offset is taken off in both directions, and off the 0 of a search that fails. -/
theorem offset_of_right (live : Live bits list) (offset : phyOffset < 2 ^ bits)
    (right : TranslatesRight bits list phyOffset) : phyOffset = 0 := by
  have outside : ¬ Inside BufferNode.vir list 0 := by
    rintro ⟨node, member, low, _⟩
    have mapped := live.mapped node member
    omega
  have null := ((right.notFound 0 (Nat.two_pow_pos bits)).1 outside).2
  unfold ion_alloc_vir2phy_ve at null
  have none : ion_alloc_vir2phy_cpu bits list 0 = 0 := translate_zero
  rw [none, Nat.zero_add] at null
  by_contra some
  rw [Nat.mod_eq_of_lt (by omega)] at null
  omega

theorem translates_right_iff (live : Live bits list) (offset : phyOffset < 2 ^ bits) :
    TranslatesRight bits list phyOffset ↔ phyOffset = 0 ∧ Plain bits list := by
  constructor
  · intro right
    exact ⟨offset_of_right live offset right, plain_of_right live right⟩
  · rintro ⟨rfl, plain⟩
    exact right_of_plain live plain

def oneBuffer (phy : Nat) : List BufferNode := [⟨phy, 0x10000, 0x10000, 4096, 1, 3, none, ⟨0, 0⟩⟩]

theorem one_buffer_live : Live 32 (oneBuffer 0x50000000) := by
  constructor
  · decide
  · decide
  all_goals exact List.pairwise_singleton _ _

theorem one_buffer_translates : TranslatesRight 32 (oneBuffer 0x50000000) 0 :=
  (translates_right_iff one_buffer_live (by decide)).mpr ⟨rfl, by
    intro node member
    rw [List.mem_singleton.mp member]
    decide⟩

theorem offset_taken_twice : Live 32 (oneBuffer 0x50000000) ∧
    ¬ TranslatesRight 32 (oneBuffer 0x50000000) 0x40000000 := by
  apply And.intro one_buffer_live
  intro right
  have back := right.veBack 0x10000 ⟨_, List.mem_singleton_self _, by decide⟩
  revert back
  decide

end CedarC.IonTranslation
