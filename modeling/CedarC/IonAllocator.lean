import CedarC.GuardedRuns

/-!
# The ION allocator

`ion_alloc_open`, `ion_alloc_palloc`, `ion_alloc_alloc_drm`, `ion_alloc_pfree` and
`ion_alloc_close` with the resources that the kernel holds for the process. What the
kernel answers comes with each call; each call runs under the mutex of the allocator.
-/

namespace CedarC.IonAllocator

open GuardedRuns

inductive MemoryType
  | MEMORY_NORMAL
  | MEMORY_IOMMU
deriving DecidableEq

structure UserIommuParam where
  fd : Nat
  iommu_addr : Nat
deriving DecidableEq

/-- What the kernel holds: ION handles, file descriptors of dma buffers, mappings into user
space and IOMMU mappings. -/
inductive Resource
  | handle (handle : Nat)
  | dmaFd (aw_fd : Nat)
  | userMapping (address size : Nat)
  | iommuMapping (buffer : UserIommuParam)
deriving DecidableEq

abbrev Held : Type := List Resource

def giveBack (succeeds : Bool) (resource : Resource) (held : Held) : Held :=
  if succeeds then held.erase resource else held

/-- The answers to `munmap`, `AW_MEM_ION_IOC_FREE` and `IOCTL_FREE_IOMMU_ADDR`. -/
structure FreeAnswers where
  munmap : Bool
  ionFree : Bool
  iommuFree : Bool
deriving DecidableEq

/-- The answers during an allocation, in the order of `ion_alloc_palloc`; the memory of a
new node holds an IOMMU buffer that nobody has set. -/
structure AllocAnswers where
  handle : Option Nat
  aw_fd : Option Nat
  address : Option Nat
  node : Bool
  physAddr : Option Nat
  teeAddr : Option Nat
  iommuAddr : Option Nat
  unset : UserIommuParam
  undo : FreeAnswers
deriving DecidableEq

section Allocator

/-- A node of the list; `iommu_buffer` where it was set, else what `unset` holds. -/
structure BufferNode where
  phy : Nat
  vir : Nat
  user_virt : Nat
  size : Nat
  handle : Nat
  aw_fd : Nat
  iommu_buffer : Option UserIommuParam
  unset : UserIommuParam
deriving DecidableEq

structure IonAllocContext where
  fd : Int
  list : List BufferNode
  ref_cnt : Int
deriving DecidableEq

/-- `g_alloc_context` and what the kernel holds. -/
structure IonState where
  g_alloc_context : Option IonAllocContext
  held : Held
deriving DecidableEq

/-- How the library is built and run. -/
structure IonConfig where
  memType : MemoryType
  ADJUST_ADDRESS_FOR_SECURE_OS_OPTEE : Bool
deriving DecidableEq

variable (config : IonConfig)

/-- The three resources that both allocators ask for first. -/
structure Acquired where
  handle : Nat
  aw_fd : Nat
  addr_vir : Nat
deriving DecidableEq

/-- `AW_MEM_ION_IOC_ALLOC`, `AW_MEM_ION_IOC_MAP` and `mmap`; a failure gives nothing back. -/
def acquireBuffer (size : Nat) (answers : AllocAnswers) (held : Held) : Held × Option Acquired :=
  match answers.handle with
  | none => (held, none)
  | some handle =>
    let held := .handle handle :: held
    match answers.aw_fd with
    | none => (held, none)
    | some aw_fd =>
      let held := .dmaFd aw_fd :: held
      match answers.address with
      | none => (held, none)
      | some addr_vir => (.userMapping addr_vir size :: held, some ⟨handle, aw_fd, addr_vir⟩)

/-- `munmap`, `close` and `AW_MEM_ION_IOC_FREE`. -/
def releaseBuffer (answers : FreeAnswers) (size : Nat) (acquired : Acquired) (held : Held) : Held :=
  giveBack answers.ionFree (.handle acquired.handle)
    (giveBack true (.dmaFd acquired.aw_fd)
      (giveBack answers.munmap (.userMapping acquired.addr_vir size) held))

/-- The physical address and the IOMMU buffer, and whether 0 is returned. -/
structure PhyAddr where
  held : Held
  addr_phy : Option Nat
  iommu_buffer : UserIommuParam

/-- The result of `CdcVeGetIommuAddr` is not looked at. -/
def getPhyAddr (aw_fd : Nat) (answers : AllocAnswers) (held : Held) : PhyAddr :=
  match config.memType with
  | .MEMORY_IOMMU =>
    let iommu_buffer : UserIommuParam := ⟨aw_fd, answers.iommuAddr.getD 0⟩
    { held :=
        if answers.iommuAddr.isSome then .iommuMapping iommu_buffer :: held else held
      addr_phy :=
        if iommu_buffer.iommu_addr % 256 ≠ 0 then none else some iommu_buffer.iommu_addr
      iommu_buffer := iommu_buffer }
  | .MEMORY_NORMAL =>
    { held := held
      addr_phy := answers.physAddr
      iommu_buffer := ⟨aw_fd, 0⟩ }

/-- `aw_mem_list_add_tail`. -/
def addTail (context : IonAllocContext) (node : BufferNode) (held : Held) : IonState where
  g_alloc_context := some { context with list := context.list ++ [node] }
  held := held

/-- The state and the address that is returned, 0 for `NULL`. -/
def ion_alloc_palloc (size : Int) (answers : AllocAnswers) (ion : IonState) : IonState × Nat :=
  match ion.g_alloc_context with
  | none => (ion, 0)
  | some context =>
    if size ≤ 0 then (ion, 0)
    else
      match acquireBuffer size.toNat answers ion.held with
      | (held, none) => ({ ion with held := held }, 0)
      | (held, some acquired) =>
        if !answers.node then
          ({ ion with held := releaseBuffer answers.undo size.toNat acquired held }, 0)
        else
          let phy := getPhyAddr config acquired.aw_fd answers held
          match phy.addr_phy with
          | none => ({ ion with held := phy.held }, acquired.addr_vir)
          | some addr_phy =>
            (addTail context
              { phy := addr_phy
                vir := acquired.addr_vir
                user_virt := acquired.addr_vir
                size := size.toNat
                handle := acquired.handle
                aw_fd := acquired.aw_fd
                iommu_buffer := some phy.iommu_buffer
                unset := answers.unset } phy.held, acquired.addr_vir)

/-- The secure address of `ion_alloc_alloc_drm`, where both ioctls succeed. -/
def teeAddress (answers : AllocAnswers) (addr_vir : Nat) : Option (Nat × Nat) :=
  answers.physAddr.bind fun addr_phy =>
    if config.ADJUST_ADDRESS_FOR_SECURE_OS_OPTEE then
      answers.teeAddr.map fun addr_tee => (addr_phy, addr_tee)
    else some (addr_phy, addr_vir)

/-- `ion_alloc_alloc_drm`; `hasVe` says that the caller gave its engine. The address that is
returned is `addr_tee`, which no failure behind it takes back. -/
def ion_alloc_alloc_drm (size : Int) (hasVe : Bool) (answers : AllocAnswers) (ion : IonState) :
    IonState × Nat :=
  match ion.g_alloc_context with
  | none => (ion, 0)
  | some context =>
    if size ≤ 0 then (ion, 0)
    else
      match acquireBuffer size.toNat answers ion.held with
      | (held, none) => ({ ion with held := held }, 0)
      | (held, some acquired) =>
        match teeAddress config answers acquired.addr_vir with
        | none => ({ ion with held := held }, 0)
        | some (addr_phy, addr_tee) =>
          if !answers.node then
            ({ ion with held := releaseBuffer answers.undo size.toNat acquired held }, addr_tee)
          else
            let node : BufferNode :=
              { phy := addr_phy
                vir := addr_tee
                user_virt := acquired.addr_vir
                size := size.toNat
                handle := acquired.handle
                aw_fd := acquired.aw_fd
                iommu_buffer := none
                unset := answers.unset }
            if config.memType = .MEMORY_IOMMU ∧ hasVe then
              let phy := getPhyAddr config acquired.aw_fd answers held
              match phy.addr_phy with
              | none => ({ ion with held := phy.held }, addr_tee)
              | some addr_phy =>
                (addTail context
                  { node with phy := addr_phy, iommu_buffer := some phy.iommu_buffer }
                  phy.held, addr_tee)
            else (addTail context node held, addr_tee)

def releaseNode (hasVe : Bool) (answers : FreeAnswers) (node : BufferNode) (held : Held) : Held :=
  releaseBuffer answers node.size ⟨node.handle, node.aw_fd, node.user_virt⟩
    (if config.memType = .MEMORY_IOMMU ∧ hasVe then
      giveBack answers.iommuFree (.iommuMapping (node.iommu_buffer.getD node.unset)) held
    else held)

/-- The first node with the address is taken out of the list, whatever the calls answer. -/
def ion_alloc_pfree (pbuf : Nat) (hasVe : Bool) (answers : FreeAnswers) (ion : IonState) :
    IonState :=
  if pbuf = 0 then ion
  else
    match ion.g_alloc_context with
    | none => ion
    | some context =>
      match context.list.find? fun node => node.vir = pbuf with
      | none => ion
      | some node =>
        { g_alloc_context :=
            some { context with list := context.list.eraseP fun node => node.vir = pbuf }
          held := releaseNode config hasVe answers node ion.held }

/-- The answers during `ion_alloc_open`: to `malloc`, to `GetVeOpsS` and `CdcVeInit`, and the
file descriptor of the driver. -/
structure OpenAnswers where
  context : Bool
  ve : Bool
  fd : Int
deriving DecidableEq

def ion_alloc_open (answers : OpenAnswers) (ion : IonState) : IonState × Int :=
  match ion.g_alloc_context with
  | some context =>
    ({ ion with g_alloc_context := some { context with ref_cnt := context.ref_cnt + 1 } }, 0)
  | none =>
    if !answers.context ∨ !answers.ve ∨ answers.fd ≤ 0 then (ion, -1)
    else ({ ion with g_alloc_context := some ⟨answers.fd, [], 1⟩ }, 0)

/-- The last user frees the nodes and the context; without a context the process ends. -/
def ion_alloc_close (ion : IonState) : Option IonState :=
  ion.g_alloc_context.map fun context =>
    let context := { context with ref_cnt := context.ref_cnt - 1 }
    if context.ref_cnt ≤ 0 then { ion with g_alloc_context := none }
    else { ion with g_alloc_context := some context }

end Allocator

/-- The allocator and how many users have opened it and not closed it yet. -/
structure IonSystem where
  ion : IonState
  users : Nat
deriving DecidableEq

def IonSystem.start : IonSystem := ⟨⟨none, []⟩, 0⟩

inductive IonOp
  | open_ (answers : OpenAnswers)
  | palloc (size : Int) (answers : AllocAnswers)
  | allocDrm (size : Int) (hasVe : Bool) (answers : AllocAnswers)
  | pfree (pbuf : Nat) (hasVe : Bool) (answers : FreeAnswers)
  | close
deriving DecidableEq

def ionExec (config : IonConfig) (system : IonSystem) : IonOp → Option IonSystem
  | .open_ answers =>
    match ion_alloc_open answers system.ion with
    | (ion, result) => some ⟨ion, if result = 0 then system.users + 1 else system.users⟩
  | .palloc size answers =>
    some { system with ion := (ion_alloc_palloc config size answers system.ion).1 }
  | .allocDrm size hasVe answers =>
    some { system with ion := (ion_alloc_alloc_drm config size hasVe answers system.ion).1 }
  | .pfree pbuf hasVe answers =>
    some { system with ion := ion_alloc_pfree config pbuf hasVe answers system.ion }
  | .close =>
    if system.users = 0 then none
    else (ion_alloc_close system.ion).map fun ion => ⟨ion, system.users - 1⟩

end CedarC.IonAllocator
