import CedarC.IonAllocator
import Mathlib.Data.List.Perm.Basic

/-!
# The resources of the ION allocator

What the kernel holds for the allocator against the nodes of its list, over runs of any
users. An allocation asks for its resources one after the other and most of its failures
give none of them back; the guard names the answers for which nothing is left over.
-/

namespace CedarC.IonResources

open GuardedRuns IonAllocator List Option

section Books

variable (config : IonConfig)

def nodes (ion : IonState) : List BufferNode := ion.g_alloc_context.elim [] IonAllocContext.list

def iommuResources (node : BufferNode) : Held :=
  match config.memType with
  | .MEMORY_NORMAL => []
  | .MEMORY_IOMMU => node.iommu_buffer.toList.map Resource.iommuMapping

def nodeResources (node : BufferNode) : Held :=
  iommuResources config node ++
    [.userMapping node.user_virt node.size, .dmaFd node.aw_fd, .handle node.handle]

def Matched (ion : IonState) : Prop := ion.held.Perm ((nodes ion).flatMap (nodeResources config))

def AppendsReturned (ion : IonState) (result : IonState × Nat) : Prop :=
  (result.2 ≠ 0 ↔ ∃ node, nodes result.1 = nodes ion ++ [node] ∧ node.vir = result.2) ∧
    (result.2 = 0 → nodes result.1 = nodes ion)

def AddressesKept (system : IonSystem) : IonOp → Prop
  | .palloc size answers =>
    AppendsReturned system.ion (ion_alloc_palloc config size answers system.ion)
  | .allocDrm size hasVe answers =>
    AppendsReturned system.ion (ion_alloc_alloc_drm config size hasVe answers system.ion)
  | _ => True

/-- After the operation the books match, its address is right, and after the last close
nothing remains. -/
def OperationSound (system : IonSystem) (op : IonOp) : Prop :=
  AddressesKept config system op ∧ ∀ next, ionExec config system op = some next →
      Matched config next.ion ∧ (next.users = 0 → nodes next.ion = [] ∧ next.ion.held = [])

/-- The calls behind `AW_MEM_ION_IOC_ALLOC` succeed too. -/
def Acquires (answers : AllocAnswers) : Prop :=
  answers.aw_fd.isSome = true ∧ answers.address.getD 0 ≠ 0
deriving Decidable

/-- `getPhyAddr` succeeds, and so does the call that it does not check. -/
def PhysGiven (answers : AllocAnswers) : Prop :=
  match config.memType with
  | .MEMORY_NORMAL => answers.physAddr.isSome = true
  | .MEMORY_IOMMU => answers.iommuAddr.isSome = true ∧ answers.iommuAddr.getD 0 % 256 = 0

/-- Once there is a handle, `ion_alloc_palloc` may fail at the allocation of the node only,
and what it gives back then has to go back. -/
def PallocUndone (answers : AllocAnswers) : Prop :=
  Acquires answers ∧
    if answers.node then PhysGiven config answers
    else answers.undo.munmap = true ∧ answers.undo.ionFree = true

/-- Once there is a handle, `ion_alloc_alloc_drm` may not fail at all. -/
def DrmCompletes (hasVe : Bool) (answers : AllocAnswers) : Prop :=
  Acquires answers ∧ answers.physAddr.isSome = true ∧ answers.node = true ∧
    (config.ADJUST_ADDRESS_FOR_SECURE_OS_OPTEE = true → answers.teeAddr.getD 0 ≠ 0) ∧
    (config.memType = .MEMORY_IOMMU → hasVe = true → PhysGiven config answers)

/-- The calls that give the resources of the node back succeed, and the caller gives its
engine exactly for a node with an IOMMU mapping. -/
def NodeReleased (hasVe : Bool) (answers : FreeAnswers) (node : BufferNode) : Prop :=
  answers.munmap = true ∧ answers.ionFree = true ∧ (config.memType = .MEMORY_IOMMU →
      node.iommu_buffer.isSome = hasVe ∧ (hasVe = true → answers.iommuFree = true))
deriving Decidable

def NothingLeftOver (system : IonSystem) : IonOp → Prop
  | .open_ _ => True
  | .palloc size answers =>
    system.ion.g_alloc_context.isSome = true → 0 < size → answers.handle.isSome = true →
      PallocUndone config answers
  | .allocDrm size hasVe answers =>
    system.ion.g_alloc_context.isSome = true → 0 < size → answers.handle.isSome = true →
      DrmCompletes config hasVe answers
  | .pfree pbuf hasVe answers =>
    pbuf ≠ 0 → ∀ node ∈ (nodes system.ion).find? fun node => node.vir = pbuf,
      NodeReleased config hasVe answers node
  | .close => system.users = 1 → nodes system.ion = []

instance (answers : AllocAnswers) : Decidable (PhysGiven config answers) :=
  match memType : config.memType with
  | .MEMORY_NORMAL =>
    decidable_of_iff (answers.physAddr.isSome = true) (by unfold PhysGiven; rw [memType])
  | .MEMORY_IOMMU =>
    decidable_of_iff
      (answers.iommuAddr.isSome = true ∧ answers.iommuAddr.getD 0 % 256 = 0)
      (by unfold PhysGiven; rw [memType])

instance (answers : AllocAnswers) : Decidable (PallocUndone config answers) :=
  inferInstanceAs (Decidable (_ ∧ ite _ _ _))

instance (hasVe : Bool) (answers : AllocAnswers) : Decidable (DrmCompletes config hasVe answers) :=
  inferInstanceAs (Decidable (_ ∧ _ ∧ _ ∧ _ ∧ (_ → _ → _)))

instance (system : IonSystem) : ∀ op, Decidable (NothingLeftOver config system op)
  | .open_ _ => isTrue trivial
  | .palloc _ _ => inferInstanceAs (Decidable (_ → _ → _ → PallocUndone _ _))
  | .allocDrm _ _ _ => inferInstanceAs (Decidable (_ → _ → _ → DrmCompletes _ _ _))
  | .pfree _ _ _ =>
    inferInstanceAs (Decidable (_ → ∀ _ ∈ (_ : Option BufferNode), NodeReleased _ _ _ _))
  | .close => inferInstanceAs (Decidable (_ → _))

end Books

section Kernel

variable {answers : AllocAnswers} {held rest : Held}

theorem give_back_perm {succeeds : Bool} (given : succeeds = true) {resource : Resource}
    (split : held.Perm (resource :: rest)) :
    (giveBack succeeds resource held).Perm rest := by
  unfold giveBack
  rw [if_pos given]
  have erased := split.erase resource
  rwa [erase_cons_head] at erased

/-- The resources of a node whose allocation got that far. -/
def acquiredResources (size : Nat) (acquired : Acquired) : Held :=
  [.userMapping acquired.addr_vir size, .dmaFd acquired.aw_fd, .handle acquired.handle]

theorem release_buffer_perm {answers : FreeAnswers} (unmapped : answers.munmap = true)
    (freed : answers.ionFree = true) {size : Nat} {acquired : Acquired}
    (split : held.Perm (acquiredResources size acquired ++ rest)) :
    (releaseBuffer answers size acquired held).Perm rest := by
  unfold releaseBuffer
  apply give_back_perm freed
  apply give_back_perm rfl
  apply give_back_perm unmapped
  exact split

theorem acquire_refused (refused : answers.handle.isSome = false)
    (size : Nat) (held : Held) : acquireBuffer size answers held = (held, none) := by
  unfold acquireBuffer
  cases isHandle : answers.handle with
  | none => rfl
  | some handle =>
    rw [isHandle] at refused
    cases refused

theorem acquire_complete (granted : answers.handle.isSome = true)
    (acquires : Acquires answers) (size : Nat) (held : Held) :
    ∃ acquired, acquired.addr_vir ≠ 0 ∧ answers.address = some acquired.addr_vir ∧
      acquireBuffer size answers held =
        (acquiredResources size acquired ++ held, some acquired) := by
  obtain ⟨handle, isHandle⟩ := isSome_iff_exists.mp granted
  obtain ⟨aw_fd, isFd⟩ := isSome_iff_exists.mp acquires.1
  cases isAddress : answers.address with
  | none =>
    have positive := acquires.2
    rw [isAddress] at positive
    exact absurd rfl positive
  | some address =>
    have positive := acquires.2
    rw [isAddress] at positive
    refine ⟨⟨handle, aw_fd, address⟩, positive, rfl, ?_⟩
    unfold acquireBuffer
    rw [isHandle, isFd, isAddress]
    rfl

/-- What a successful `getPhyAddr` adds is the IOMMU mapping of its node. -/
theorem phys_given {config : IonConfig}
    (given : PhysGiven config answers) (aw_fd : Nat) (held : Held) :
    ∃ addr_phy, (getPhyAddr config aw_fd answers held).addr_phy = some addr_phy ∧
      ∀ node : BufferNode,
        node.iommu_buffer = some (getPhyAddr config aw_fd answers held).iommu_buffer →
          (getPhyAddr config aw_fd answers held).held = iommuResources config node ++ held := by
  unfold PhysGiven at given
  unfold getPhyAddr iommuResources
  cases memType : config.memType with
  | MEMORY_NORMAL =>
    rw [memType] at given
    obtain ⟨addr_phy, isPhys⟩ := isSome_iff_exists.mp given
    exact ⟨addr_phy, isPhys, fun _ _ => rfl⟩
  | MEMORY_IOMMU =>
    rw [memType] at given
    dsimp only
    rw [if_neg (not_not.mpr given.2), if_pos given.1]
    refine ⟨_, rfl, ?_⟩
    intro node set
    rw [set]
    rfl

end Kernel

section Allocations

variable {config : IonConfig} {ion : IonState} {answers : AllocAnswers} {size : Int}

def counted (ion : IonState) : Option Int := ion.g_alloc_context.map IonAllocContext.ref_cnt

structure AllocationSound (config : IonConfig) (ion : IonState) (result : IonState × Nat) :
    Prop where
  matched : Matched config result.1
  appended : AppendsReturned ion result
  users : counted result.1 = counted ion

variable {held : Held} {hasVe : Bool}

theorem refused_sound (matched : Matched config ion) (same : held.Perm ion.held) :
    AllocationSound config ion ({ ion with held := held }, 0) := by
  constructor
  · exact same.trans matched
  · constructor
    · constructor
      · intro returned
        exact absurd rfl returned
      · rintro ⟨node, longer, _⟩
        have lengths := congrArg List.length longer
        simp [nodes] at lengths
    · exact fun _ => rfl
  · rfl

theorem appended_sound (matched : Matched config ion) {context : IonAllocContext}
    (opened : ion.g_alloc_context = some context) {node : BufferNode}
    (positive : node.vir ≠ 0) (resources : held.Perm (nodeResources config node ++ ion.held)) :
    AllocationSound config ion (addTail context node held, node.vir) := by
  have before : nodes ion = context.list := by
    unfold nodes
    rw [opened]
    rfl
  have after : nodes (addTail context node held) = nodes ion ++ [node] := by
    rw [before]
    rfl
  constructor
  · unfold Matched
    rw [after, flatMap_append, flatMap_singleton]
    apply (resources.trans perm_append_comm).trans
    exact matched.append_right _
  · constructor
    · constructor
      · exact fun _ => ⟨node, after, rfl⟩
      · exact fun _ => positive
    · intro none
      exact absurd none positive
  · unfold counted
    rw [opened]
    rfl

theorem palloc_sound (matched : Matched config ion)
    (undone : ion.g_alloc_context.isSome = true → 0 < size → answers.handle.isSome = true →
      PallocUndone config answers) :
    AllocationSound config ion (ion_alloc_palloc config size answers ion) := by
  have unchanged : AllocationSound config ion (ion, 0) := refused_sound matched (List.Perm.refl _)
  unfold ion_alloc_palloc
  obtain ⟨g_alloc_context, held⟩ := ion
  cases g_alloc_context with
  | none => exact unchanged
  | some context =>
    dsimp only
    by_cases empty : size ≤ 0
    · rw [if_pos empty]
      exact unchanged
    rw [if_neg empty]
    cases granted : answers.handle.isSome with
    | false =>
      rw [acquire_refused granted]
      exact refused_sound matched (List.Perm.refl _)
    | true =>
      obtain ⟨acquires, behind⟩ := undone rfl (by omega) granted
      obtain ⟨acquired, positive, _, complete⟩ :=
        acquire_complete granted acquires size.toNat held
      rw [complete]
      dsimp only
      cases isNode : answers.node with
      | false =>
        rw [isNode, if_neg (by decide)] at behind
        rw [if_pos (by decide)]
        exact refused_sound matched
          (release_buffer_perm behind.1 behind.2 (List.Perm.refl _))
      | true =>
        rw [isNode, if_pos rfl] at behind
        rw [if_neg (by decide)]
        obtain ⟨addr_phy, found, mapped⟩ := phys_given behind acquired.aw_fd
          (acquiredResources size.toNat acquired ++ held)
        rw [found]
        apply appended_sound matched rfl positive
        apply List.Perm.of_eq
        unfold nodeResources
        rw [append_assoc]
        exact mapped _ rfl

theorem tee_given (completes : DrmCompletes config hasVe answers)
    {addr_vir : Nat} (positive : addr_vir ≠ 0) :
    ∃ addr_phy addr_tee, addr_tee ≠ 0 ∧
      teeAddress config answers addr_vir = some (addr_phy, addr_tee) := by
  obtain ⟨_, hasPhys, _, secure, _⟩ := completes
  obtain ⟨addr_phy, isPhys⟩ := isSome_iff_exists.mp hasPhys
  unfold teeAddress
  rw [isPhys]
  rw [bind_some]
  split_ifs with optee
  · have nonZero := secure optee
    cases isTee : answers.teeAddr with
    | none =>
      rw [isTee] at nonZero
      exact absurd rfl nonZero
    | some addr_tee =>
      rw [isTee] at nonZero
      exact ⟨addr_phy, addr_tee, nonZero, rfl⟩
  · exact ⟨addr_phy, addr_vir, positive, rfl⟩

theorem alloc_drm_sound (matched : Matched config ion)
    (completes : ion.g_alloc_context.isSome = true → 0 < size → answers.handle.isSome = true →
      DrmCompletes config hasVe answers) :
    AllocationSound config ion (ion_alloc_alloc_drm config size hasVe answers ion) := by
  have unchanged : AllocationSound config ion (ion, 0) := refused_sound matched (List.Perm.refl _)
  unfold ion_alloc_alloc_drm
  obtain ⟨g_alloc_context, held⟩ := ion
  cases g_alloc_context with
  | none => exact unchanged
  | some context =>
    dsimp only
    by_cases empty : size ≤ 0
    · rw [if_pos empty]
      exact unchanged
    rw [if_neg empty]
    cases granted : answers.handle.isSome with
    | false =>
      rw [acquire_refused granted]
      exact refused_sound matched (List.Perm.refl _)
    | true =>
      have complete := completes rfl (by omega) granted
      obtain ⟨acquired, positive, _, taken⟩ :=
        acquire_complete granted complete.1 size.toNat held
      obtain ⟨addr_phy, addr_tee, nonZero, secure⟩ := tee_given complete positive
      rw [taken]
      dsimp only
      rw [secure]
      dsimp only
      rw [complete.2.2.1, if_neg (by decide)]
      split_ifs with iommu
      · obtain ⟨address, found, mapped⟩ := phys_given (complete.2.2.2.2 iommu.1 iommu.2)
          acquired.aw_fd (acquiredResources size.toNat acquired ++ held)
        rw [found]
        apply appended_sound matched rfl nonZero
        apply List.Perm.of_eq
        unfold nodeResources
        rw [append_assoc]
        exact mapped _ rfl
      · apply appended_sound matched rfl nonZero
        unfold nodeResources iommuResources
        cases config.memType <;> exact List.Perm.refl _

end Allocations

section Releases

variable {config : IonConfig} {ion : IonState}

theorem find_split {Item : Type*} {found : Item → Bool} {items : List Item} {item : Item}
    (first : items.find? found = some item) : items.Perm (item :: items.eraseP found) := by
  induction items with
  | nil => cases first
  | cons head rest ih =>
    cases here : found head with
    | true =>
      rw [List.find?_cons_of_pos here] at first
      obtain rfl := Option.some.inj first
      rw [eraseP_cons_of_pos here]
    | false =>
      rw [List.find?_cons_of_neg (by simp [here])] at first
      rw [eraseP_cons_of_neg (by simp [here])]
      exact ((ih first).cons head).trans (List.Perm.swap item head _)

variable {hasVe : Bool} {answers : FreeAnswers}

theorem release_node_perm {node : BufferNode}
    (released : NodeReleased config hasVe answers node) {held rest : Held}
    (split : held.Perm (nodeResources config node ++ rest)) :
    (releaseNode config hasVe answers node held).Perm rest := by
  obtain ⟨unmapped, freed, iommu⟩ := released
  unfold releaseNode
  apply release_buffer_perm unmapped freed
  unfold nodeResources iommuResources at split
  cases memType : config.memType with
  | MEMORY_NORMAL =>
    rw [memType] at split
    rw [if_neg (by simp)]
    exact split
  | MEMORY_IOMMU =>
    rw [memType] at split
    obtain ⟨given, freedIommu⟩ := iommu memType
    cases isVe : hasVe with
    | false =>
      rw [isVe] at given
      cases buffer : node.iommu_buffer with
      | none =>
        rw [buffer] at split
        rw [if_neg (by simp)]
        exact split
      | some iommu_buffer =>
        rw [buffer] at given
        cases given
    | true =>
      rw [isVe] at given
      cases buffer : node.iommu_buffer with
      | none =>
        rw [buffer] at given
        cases given
      | some iommu_buffer =>
        rw [buffer] at split
        rw [if_pos ⟨rfl, rfl⟩]
        exact give_back_perm (freedIommu isVe) split

theorem pfree_matched {pbuf : Nat} (matched : Matched config ion)
    (released : pbuf ≠ 0 → ∀ node ∈ (nodes ion).find? fun node => node.vir = pbuf,
      NodeReleased config hasVe answers node) :
    Matched config (ion_alloc_pfree config pbuf hasVe answers ion) := by
  unfold ion_alloc_pfree
  split_ifs with null
  · exact matched
  cases opened : ion.g_alloc_context with
  | none =>
    exact matched
  | some context =>
    have listed : nodes ion = context.list := by
      unfold nodes
      rw [opened]
      rfl
    unfold Matched at matched
    rw [listed] at matched released
    dsimp only
    cases found : context.list.find? fun node => node.vir = pbuf with
    | none =>
      unfold Matched
      rw [listed]
      exact matched
    | some node =>
      apply release_node_perm (released null node found)
      apply matched.trans
      have split := (find_split found).flatMap_right (nodeResources config)
      rw [flatMap_cons] at split
      exact split

theorem pfree_counted (pbuf : Nat) (hasVe : Bool) (answers : FreeAnswers) :
    counted (ion_alloc_pfree config pbuf hasVe answers ion) = counted ion := by
  unfold ion_alloc_pfree
  split_ifs with null
  · rfl
  obtain ⟨g_alloc_context, held⟩ := ion
  cases g_alloc_context with
  | none => rfl
  | some context =>
    dsimp only
    cases context.list.find? fun node => node.vir = pbuf with
    | none | some node => rfl

end Releases

variable {config : IonConfig} {system next : IonSystem}

structure BooksKept (config : IonConfig) (system : IonSystem) : Prop where
  matched : Matched config system.ion
  users : counted system.ion = if system.users = 0 then none else some (system.users : Int)

variable (kept : BooksKept config system)

include kept

theorem BooksKept.nothing_left (unused : system.users = 0) :
    nodes system.ion = [] ∧ system.ion.held = [] := by
  have none := kept.users
  rw [if_pos unused] at none
  have empty : nodes system.ion = [] := by
    unfold nodes
    rw [map_eq_none_iff.mp none]
    rfl
  have matched := kept.matched
  unfold Matched at matched
  rw [empty] at matched
  exact ⟨empty, matched.eq_nil⟩

theorem open_keeps (answers : OpenAnswers)
    (step : ionExec config system (.open_ answers) = some next) : BooksKept config next := by
  obtain ⟨⟨g_alloc_context, held⟩, users⟩ := system
  have before := kept.users
  cases g_alloc_context with
  | some context =>
    obtain rfl := Option.some.inj step
    constructor
    · exact kept.matched
    · change some context.ref_cnt = if users = 0 then none else some (users : Int) at before
      split_ifs at before with unused
      change some (context.ref_cnt + 1) = if users + 1 = 0 then none else some ((users + 1 : Nat) : Int)
      rw [if_neg (by omega), Option.some.inj before]
      rfl
  | none =>
    change none = if users = 0 then none else some (users : Int) at before
    split_ifs at before with unused
    subst unused
    unfold ionExec ion_alloc_open at step
    dsimp only at step
    by_cases failed : (!answers.context) = true ∨ (!answers.ve) = true ∨ answers.fd ≤ 0
    · rw [if_pos failed] at step
      obtain rfl := Option.some.inj step
      exact ⟨kept.matched, rfl⟩
    · rw [if_neg failed] at step
      obtain rfl := Option.some.inj step
      exact ⟨kept.matched, rfl⟩

theorem close_keeps (empty : system.users = 1 → nodes system.ion = [])
    (step : ionExec config system .close = some next) : BooksKept config next := by
  obtain ⟨⟨g_alloc_context, held⟩, users⟩ := system
  have before := kept.users
  simp only [ionExec] at step
  split_ifs at step with unused
  obtain ⟨ion, closed, rfl⟩ := map_eq_some_iff.mp step
  cases g_alloc_context with
  | none => cases closed
  | some context =>
    obtain rfl := Option.some.inj closed
    change users ≠ 0 at unused
    change some context.ref_cnt = if users = 0 then none else some (users : Int) at before
    rw [if_neg unused] at before
    have count := Option.some.inj before
    by_cases last : context.ref_cnt - 1 ≤ 0
    · have one : users = 1 := by omega
      subst one
      dsimp only
      rw [if_pos last]
      have matched := kept.matched
      unfold Matched at matched
      rw [empty rfl] at matched
      exact ⟨matched, rfl⟩
    · dsimp only
      rw [if_neg last]
      refine ⟨kept.matched, ?_⟩
      change some (context.ref_cnt - 1) = if users - 1 = 0 then none else some ((users - 1 : Nat) : Int)
      rw [if_neg (by omega)]
      congr 1
      omega

theorem ion_step_keeps {op : IonOp} (guard : NothingLeftOver config system op) :
    AddressesKept config system op ∧
      ∀ next, ionExec config system op = some next → BooksKept config next := by
  cases op with
  | open_ answers => exact ⟨trivial, fun next step => open_keeps kept answers step⟩
  | palloc size answers =>
    have sound := palloc_sound kept.matched guard
    refine ⟨sound.appended, ?_⟩
    intro next step
    obtain rfl := Option.some.inj step
    exact ⟨sound.matched, sound.users.trans kept.users⟩
  | allocDrm size hasVe answers =>
    have sound := alloc_drm_sound kept.matched guard
    refine ⟨sound.appended, ?_⟩
    intro next step
    obtain rfl := Option.some.inj step
    exact ⟨sound.matched, sound.users.trans kept.users⟩
  | pfree pbuf hasVe answers =>
    refine ⟨trivial, ?_⟩
    intro next step
    obtain rfl := Option.some.inj step
    exact ⟨pfree_matched kept.matched guard, (pfree_counted pbuf hasVe answers).trans kept.users⟩
  | close => exact ⟨trivial, fun next step => close_keeps kept guard step⟩

omit kept

theorem start_keeps (config : IonConfig) : BooksKept config IonSystem.start :=
  ⟨List.Perm.refl _, rfl⟩

/-- In a run whose operations leave nothing over, the books match after each of them. -/
theorem resources_balance_in_guarded_runs (config : IonConfig) {ops : List IonOp}
    (guarded : StepsMeet (NothingLeftOver config) (ionExec config) IonSystem.start ops) :
    StepsMeet (OperationSound config) (ionExec config) IonSystem.start ops := by
  apply steps_meet_of_invariant _ _ (start_keeps config) guarded
  · exact fun _ _ next kept guard step => (ion_step_keeps kept guard).2 next step
  · intro system op kept guard
    obtain ⟨address, keeps⟩ := ion_step_keeps kept guard
    refine ⟨address, ?_⟩
    intro next step
    have after := keeps next step
    exact ⟨after.matched, after.nothing_left⟩

def allSucceed (handle address : Nat) : AllocAnswers where
  handle := some handle
  aw_fd := some (handle + 10)
  address := some address
  node := true
  physAddr := some 0x100000
  teeAddr := some 0x200000
  iommuAddr := some 0x300000
  unset := ⟨0, 0⟩
  undo := ⟨true, true, true⟩

/-- Two users, one buffer of each kind, and an allocation without memory for its node. -/
def balancedRun : List IonOp :=
  [.open_ ⟨true, true, 3⟩, .open_ ⟨true, true, 3⟩, .palloc 4096 (allSucceed 1 0x7000),
    .allocDrm 8192 true (allSucceed 2 0x9000),
    .palloc 4096 { allSucceed 3 0xb000 with node := false },
    .pfree 0x7000 true ⟨true, true, true⟩, .close, .pfree 0x200000 true ⟨true, true, true⟩, .close]

theorem balanced_run_sound :
    StepsMeet (OperationSound ⟨.MEMORY_IOMMU, true⟩) (ionExec ⟨.MEMORY_IOMMU, true⟩)
      IonSystem.start balancedRun := by
  apply resources_balance_in_guarded_runs
  decide

/-- The dma buffer of an allocation cannot be shared: its handle stays behind. -/
theorem failed_map_leaks_handle :
    ¬StepsMeet (OperationSound ⟨.MEMORY_NORMAL, true⟩) (ionExec ⟨.MEMORY_NORMAL, true⟩)
      IonSystem.start
      [.open_ ⟨true, true, 3⟩, .palloc 4096 { allSucceed 1 0x7000 with aw_fd := none }] := by
  intro meets
  have second := (meets.2 _ rfl).1
  have matched := (second.2 _ rfl).1
  exact absurd matched.length_eq (by decide)

end CedarC.IonResources
