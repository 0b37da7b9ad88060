import Mathlib.Algebra.Order.Ring.Int
import Mathlib.Data.List.GetD

/-!
# A port to a memory of words

A port has an address, which each word that is written moves on by the four bytes of the word.
-/

namespace CedarC.SramPort

inductive PortWrite
  | addr (value : Nat)
  | data (word : Nat)
deriving DecidableEq

structure Port where
  addr : Nat
  words : Nat → Nat

namespace Port

def write (port : Port) : PortWrite → Port
  | .addr value => { port with addr := value }
  | .data word =>
    { addr := port.addr + 4, words := Function.update port.words port.addr word }

def run (port : Port) (writes : List PortWrite) : Port := writes.foldl write port

def byteAt (port : Port) (addr : Nat) : Nat := port.words (4 * (addr / 4)) / 256 ^ (addr % 4) % 256

end Port

variable {port : Port}

@[simp] theorem run_append (first second : List PortWrite) :
    port.run (first ++ second) = (port.run first).run second := List.foldl_append

def block (addr : Nat) (words : List Nat) : List PortWrite := .addr addr :: words.map .data

theorem data_outside (words : List Nat) {addr : Nat}
    (outside : addr < port.addr ∨ port.addr + 4 * words.length ≤ addr) :
    (port.run (words.map .data)).words addr = port.words addr := by
  induction words generalizing port with
  | nil => rfl
  | cons word words ih =>
    rw [List.length_cons] at outside
    have later := @ih (port.write (.data word)) (by
      change addr < port.addr + 4 ∨ port.addr + 4 + 4 * words.length ≤ addr
      omega)
    have apart : addr ≠ port.addr := by omega
    exact later.trans (Function.update_of_ne apart ..)

theorem data_inside (words : List Nat) {k : Nat} (below : k < words.length) :
    (port.run (words.map .data)).words (port.addr + 4 * k) = words.getD k 0 := by
  induction words generalizing port k with
  | nil => exact absurd below (Nat.not_lt_zero k)
  | cons word words ih =>
    cases k with
    | zero =>
      have kept := @data_outside (port.write (.data word)) words port.addr
        (Or.inl (Nat.lt_add_of_pos_right (by decide)))
      exact kept.trans (Function.update_self ..)
    | succ k =>
      have later := @ih (port.write (.data word)) k (Nat.lt_of_succ_lt_succ below)
      have place : port.addr + 4 + 4 * k = port.addr + 4 * (k + 1) := by omega
      change ((port.write (.data word)).run (words.map .data)).words
        (port.addr + 4 + 4 * k) = words.getD k 0 at later
      rw [place] at later
      exact later

theorem block_inside (addr : Nat) (words : List Nat) {k : Nat} (below : k < words.length) :
    (port.run (block addr words)).words (addr + 4 * k) = words.getD k 0 :=
  @data_inside { port with addr := addr } words k below

theorem block_outside (addr : Nat) (words : List Nat) {other : Nat}
    (outside : other < addr ∨ addr + 4 * words.length ≤ other) :
    (port.run (block addr words)).words other = port.words other :=
  @data_outside { port with addr := addr } words other outside

end CedarC.SramPort
