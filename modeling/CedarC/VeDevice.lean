import CedarC.AllocationLedger
import CedarC.GuardedRuns

/-!
# The reference counted video engine device

`VeInitialize` and `VeRelease`, and `Vp9Initialize` and `Vp9Release` in the same
words, share one driver and one mapping between all contexts of a process. Each call
is a critical section of the global mutex and what the call does behind it. Threads
enter the sections in any order.
-/

namespace CedarC.VeDevice

open AllocationLedger GuardedRuns

inductive Heap
  | heap
deriving DecidableEq

/-- A context by the address that `malloc` gave. -/
abbrev ContextAddress := Block Heap

/-- The global environment, the open files and mappings of the process, and its heap. -/
structure VeEnvironment where
  VeMutex : Option Nat
  nVeRefCount : Int
  nVeDriverFd : Int
  openFds : List Int
  mappings : Nat
  memory : Memory Heap
deriving DecidableEq

/-- How a critical section leaves its call. -/
inductive SectionEnd
  | returned (p : Option ContextAddress)
  | freeing (p : ContextAddress)
deriving DecidableEq

/-- `open` gives a file descriptor, or -1 when it fails. -/
def openDriver (fd : Option Nat) (env : VeEnvironment) : VeEnvironment :=
  match fd with
  | none => { env with nVeDriverFd := -1 }
  | some fd => { env with nVeDriverFd := fd, openFds := env.openFds ++ [(fd : Int)] }

/-- The critical section of an initialisation. Where `malloc` fails it returns as it is. -/
def VeInitialize (thread : Nat) (granted : Bool) (fd : Option Nat) (env : VeEnvironment) :
    VeEnvironment × SectionEnd :=
  let env := { env with VeMutex := some thread }
  match env.memory.allocate (fun _ => granted) .heap with
  | (memory, none) => ({ env with memory := memory }, .returned none)
  | (memory, some p) =>
    let env := { env with memory := memory }
    if env.nVeRefCount = 0 then
      let env := openDriver fd env
      if env.nVeDriverFd < 0 then ({ env with VeMutex := none }, .freeing p.block)
      else
        ({ env with
            mappings := env.mappings + 1
            nVeRefCount := env.nVeRefCount + 1
            VeMutex := none }, .returned (some p.block))
    else
      ({ env with nVeRefCount := env.nVeRefCount + 1, VeMutex := none }, .returned (some p.block))

def closeDriver (env : VeEnvironment) : VeEnvironment :=
  if env.nVeDriverFd ≠ -1 then
    { env with
      mappings := env.mappings - 1
      openFds := env.openFds.erase env.nVeDriverFd
      nVeDriverFd := -1 }
  else env

/-- The critical section of a release; without a reference left the context stays. -/
def VeRelease (thread : Nat) (p : ContextAddress) (env : VeEnvironment) :
    VeEnvironment × SectionEnd :=
  let env := { env with VeMutex := some thread }
  if env.nVeRefCount ≤ 0 then ({ env with VeMutex := none }, .returned none)
  else
    let env := { env with nVeRefCount := env.nVeRefCount - 1 }
    let env := if env.nVeRefCount = 0 then closeDriver env else env
    ({ env with VeMutex := none }, .freeing p)

/-- The VP9 back end has globals of its own, and its contexts hold no locks to free. -/
def Vp9Initialize (thread : Nat) (granted : Bool) (fd : Option Nat) (env : VeEnvironment) :
    VeEnvironment × SectionEnd := VeInitialize thread granted fd env

def Vp9Release (thread : Nat) (p : ContextAddress) (env : VeEnvironment) :
    VeEnvironment × SectionEnd := VeRelease thread p env

structure BackEnd where
  setUp : Nat → Bool → Option Nat → VeEnvironment → VeEnvironment × SectionEnd
  release : Nat → ContextAddress → VeEnvironment → VeEnvironment × SectionEnd

def veBackEnd : BackEnd := ⟨VeInitialize, VeRelease⟩

def vp9BackEnd : BackEnd := ⟨Vp9Initialize, Vp9Release⟩

/-- Where a call is: before its critical section, or behind it with a context to free. -/
inductive Phase
  | setUp
  | release (p : ContextAddress)
  | freeing (p : ContextAddress)
deriving DecidableEq

structure Call where
  thread : Nat
  phase : Phase
deriving DecidableEq

/-- The device, the calls in progress and the contexts that their users hold. -/
structure VeSystem where
  env : VeEnvironment
  calls : List Call
  initialised : List ContextAddress
deriving DecidableEq

def VeSystem.start : VeSystem where
  env :=
    { VeMutex := none
      nVeRefCount := 0
      nVeDriverFd := -1
      openFds := []
      mappings := 0
      memory := Memory.unused }
  calls := []
  initialised := []

/-- A thread calls, its call enters the critical section when the mutex is free, and it
frees the context behind the section. -/
inductive VeOp
  | callInitialize (thread : Nat)
  | callRelease (thread : Nat) (p : ContextAddress)
  | enter (call : Call) (granted : Bool) (fd : Option Nat)
  | free (call : Call)
deriving DecidableEq

def VeSystem.idle (system : VeSystem) (thread : Nat) : Bool :=
  system.calls.all fun call => call.thread ≠ thread

/-- What a critical section leaves of its call and of the contexts in use. -/
def afterSection (system : VeSystem) (call : Call) (result : VeEnvironment × SectionEnd) :
    VeSystem :=
  match result with
  | (env, .returned p) =>
    { env := env
      calls := system.calls.erase call
      initialised := system.initialised ++ p.toList }
  | (env, .freeing p) =>
    { env := env
      calls := ⟨call.thread, .freeing p⟩ :: system.calls.erase call
      initialised := system.initialised }

def veExec (backEnd : BackEnd) (system : VeSystem) : VeOp → Option VeSystem
  | .callInitialize thread =>
    if system.idle thread then
      some { system with calls := ⟨thread, .setUp⟩ :: system.calls }
    else none
  | .callRelease thread p =>
    if system.idle thread ∧ p ∈ system.initialised then
      some
        { system with
          calls := ⟨thread, .release p⟩ :: system.calls
          initialised := system.initialised.erase p }
    else none
  | .enter call granted fd =>
    if call ∈ system.calls ∧ system.env.VeMutex = none then
      match call.phase with
      | .setUp =>
        some (afterSection system call
          (backEnd.setUp call.thread granted fd system.env))
      | .release p =>
        some (afterSection system call (backEnd.release call.thread p system.env))
      | .freeing _ => none
    else none
  | .free call =>
    if call ∈ system.calls then
      match call.phase with
      | .freeing p =>
        some
          { system with
            env :=
              { system.env with memory := system.env.memory.free .heap p.start }
            calls := system.calls.erase call }
      | _ => none
    else none

end CedarC.VeDevice
