import CedarC.VeDevice

/-!
# The device is open while contexts use it

The reference count, the mutex, the driver and the contexts of a back end, in every
state that calls of any threads reach while `malloc` succeeds. A context that cannot be
allocated leaves the mutex locked for good.
-/

namespace CedarC.VeDeviceRefs

open AllocationLedger GuardedRuns VeDevice List Option

def Phase.context : Phase → Option ContextAddress
  | .setUp => none
  | .release p => some p
  | .freeing p => some p

def Phase.counted : Phase → Option ContextAddress
  | .release p => some p
  | _ => none

def callContexts (calls : List Call) : List ContextAddress :=
  calls.filterMap fun call => Phase.context call.phase

/-- The contexts that were initialised and not yet released. -/
def unreleased (system : VeSystem) : List ContextAddress :=
  system.initialised ++ system.calls.filterMap fun call => Phase.counted call.phase

def DriverOpen (env : VeEnvironment) : Prop :=
  0 ≤ env.nVeDriverFd ∧ env.openFds = [env.nVeDriverFd] ∧ env.mappings = 1

def DriverClosed (env : VeEnvironment) : Prop :=
  env.nVeDriverFd = -1 ∧ env.openFds = [] ∧ env.mappings = 0

/-- The frees that are still to be made: of the contexts in use and of those in calls. -/
def owedFrees (system : VeSystem) : List (Release Heap) :=
  (system.initialised ++ callContexts system.calls).map Block.release

structure DeviceSound (system : VeSystem) : Prop where
  mutex : system.env.VeMutex = none
  count : system.env.nVeRefCount = (unreleased system).length
  opened : 0 < system.env.nVeRefCount → DriverOpen system.env
  closed : system.env.nVeRefCount ≤ 0 → DriverClosed system.env
  contexts : Ledger system.env.memory (owedFrees system) [] []

section Steps

variable {system : VeSystem} {env : VeEnvironment} {thread : Nat}

theorem sound_of_counts {next : VeSystem} (sound : DeviceSound system)
    (same : next.env = system.env) (count : (unreleased next).Perm (unreleased system))
    (contexts : (owedFrees system).Perm (owedFrees next)) : DeviceSound next := by
  constructor
  · rw [same, sound.mutex]
  · rw [same, sound.count, count.length_eq]
  · rw [same]
    exact sound.opened
  · rw [same]
    exact sound.closed
  · rw [same]
    exact sound.contexts.reorder contexts

theorem call_contexts_cons (call : Call) (calls : List Call) :
    callContexts (call :: calls) = (Phase.context call.phase).toList ++ callContexts calls := by
  unfold callContexts
  cases given : Phase.context call.phase <;> simp [given]

theorem calls_split {call : Call} (member : call ∈ system.calls) : (callContexts system.calls).Perm
        ((Phase.context call.phase).toList ++ callContexts (system.calls.erase call)) ∧
      (system.calls.filterMap fun call => Phase.counted call.phase).Perm
        ((Phase.counted call.phase).toList ++
          (system.calls.erase call).filterMap fun call => Phase.counted call.phase) := by
  have split := perm_cons_erase member
  have listed : ∀ phase : Phase → Option ContextAddress,
      ((call :: system.calls.erase call).filterMap fun call => phase call.phase) =
        (phase call.phase).toList ++
          (system.calls.erase call).filterMap fun call => phase call.phase := by
    intro phase
    cases given : phase call.phase <;> simp [given]
  exact ⟨(split.filterMap _).trans (by rw [listed Phase.context]; exact List.Perm.refl _),
    (split.filterMap _).trans (by rw [listed Phase.counted])⟩

def nextContext (memory : Memory Heap) : ContextAddress := ⟨.heap, memory.requests⟩

def grantedMemory (memory : Memory Heap) : Memory Heap :=
  { memory with
    requests := memory.requests + 1
    allocated := memory.allocated ++ [nextContext memory] }

inductive Initialised (env next : VeEnvironment) : SectionEnd → Prop
  | counted (opened : DriverOpen next) (count : next.nVeRefCount = env.nVeRefCount + 1) :
      Initialised env next (.returned (some (nextContext env.memory)))
  | refused (closed : DriverClosed next) (count : next.nVeRefCount = env.nVeRefCount)
      (unused : env.nVeRefCount = 0) : Initialised env next (.freeing (nextContext env.memory))

theorem initialise_ends (counted : 0 ≤ env.nVeRefCount)
    (opened : 0 < env.nVeRefCount → DriverOpen env)
    (closed : env.nVeRefCount ≤ 0 → DriverClosed env) (fd : Option Nat) :
    ∃ next result, VeInitialize thread true fd env = (next, result) ∧ next.VeMutex = none ∧
      next.memory = grantedMemory env.memory ∧ Initialised env next result := by
  unfold VeInitialize Memory.allocate
  dsimp only
  rw [if_pos rfl]
  dsimp only
  by_cases unused : env.nVeRefCount = 0
  · obtain ⟨noDriver, noFds, noMappings⟩ := closed (by omega)
    rw [if_pos unused]
    cases fd with
    | none => exact ⟨_, _, rfl, rfl, rfl, .refused ⟨rfl, noFds, noMappings⟩ rfl unused⟩
    | some fd =>
      have valid : ¬((fd : Int) < 0) := by omega
      unfold openDriver
      dsimp only
      rw [if_neg valid]
      refine ⟨_, _, rfl, rfl, rfl, .counted ⟨Int.natCast_nonneg fd, ?_, ?_⟩ rfl⟩
      · dsimp only
        rw [noFds]
        rfl
      · dsimp only
        rw [noMappings]
  · rw [if_neg unused]
    exact ⟨_, _, rfl, rfl, rfl, .counted (opened (by omega)) rfl⟩

theorem release_ends (counted : 0 < env.nVeRefCount) (opened : DriverOpen env)
    (p : ContextAddress) :
    ∃ next, VeRelease thread p env = (next, .freeing p) ∧ next.VeMutex = none ∧
      next.memory = env.memory ∧ next.nVeRefCount = env.nVeRefCount - 1 ∧
      (0 < next.nVeRefCount → DriverOpen next) ∧ (next.nVeRefCount ≤ 0 → DriverClosed next) := by
  obtain ⟨valid, oneFd, oneMapping⟩ := opened
  unfold VeRelease
  dsimp only
  rw [if_neg (by omega)]
  by_cases last : env.nVeRefCount - 1 = 0
  · have open_ : env.nVeDriverFd ≠ -1 := by omega
    unfold closeDriver
    dsimp only
    rw [if_pos last, if_pos open_]
    refine ⟨_, rfl, rfl, rfl, rfl, ?_, ?_⟩
    · intro positive
      dsimp only at positive
      omega
    · intro _
      refine ⟨rfl, ?_, ?_⟩
      · dsimp only
        rw [oneFd]
        simp
      · dsimp only
        rw [oneMapping]
  · rw [if_neg last]
    refine ⟨_, rfl, rfl, rfl, rfl, fun _ => ⟨valid, oneFd, oneMapping⟩, ?_⟩
    intro none
    dsimp only at none
    omega

end Steps

section Sections

variable {system : VeSystem} {call : Call} {p : ContextAddress}

theorem owed_split (member : call ∈ system.calls) : (owedFrees system).Perm
      ((Phase.context call.phase).toList.map Block.release ++
        (system.initialised ++ callContexts (system.calls.erase call)).map Block.release) := by
  unfold owedFrees
  rw [← map_append]
  apply List.Perm.map
  have split := (calls_split member).1
  exact (split.append_left _).trans (perm_append_comm_assoc _ _ _)

theorem unreleased_split (member : call ∈ system.calls) : (unreleased system).length =
      (Phase.counted call.phase).toList.length + system.initialised.length +
        ((system.calls.erase call).filterMap fun call => Phase.counted call.phase).length := by
  have split := (calls_split member).2.length_eq
  rw [length_append] at split
  unfold unreleased
  rw [length_append, split]
  omega

variable (sound : DeviceSound system)

include sound

theorem initialise_keeps (member : call ∈ system.calls)
    (phase : call.phase = .setUp) (fd : Option Nat) :
    DeviceSound (afterSection system call (VeInitialize call.thread true fd system.env)) := by
  have count := sound.count
  have split := unreleased_split member
  have owed := owed_split member
  rw [phase] at split owed
  have contexts := (sound.contexts.reorder owed).grant Heap.heap
  obtain ⟨next, result, ran, free, memory, ended⟩ :=
    @initialise_ends system.env call.thread (by omega) sound.opened sound.closed fd
  rw [ran]
  cases ended with
  | counted opened counted =>
    constructor
    · exact free
    · change next.nVeRefCount = _
      rw [counted, count, split]
      simp only [unreleased, afterSection, length_append, Phase.counted]
      simp
      omega
    · exact fun _ => opened
    · intro none
      change next.nVeRefCount ≤ 0 at none
      omega
    · change Ledger next.memory _ _ _
      rw [memory]
      apply contexts.reorder
      rw [perm_iff_count]
      intro release
      simp only [owedFrees, afterSection, Phase.context, toList_none, map_nil,
        nil_append, toList_some, map_append, map_cons, count_append]
      change _ + List.count release [(nextContext system.env.memory).release] = _
      omega
  | refused closed counted unused =>
    constructor
    · exact free
    · change next.nVeRefCount = _
      rw [counted, count, split]
      simp [unreleased, afterSection, Phase.counted]
    · intro positive
      change 0 < next.nVeRefCount at positive
      omega
    · exact fun _ => closed
    · change Ledger next.memory _ _ _
      rw [memory]
      apply contexts.reorder
      rw [perm_iff_count]
      intro release
      simp only [owedFrees, afterSection, call_contexts_cons, Phase.context, toList_none, map_nil,
        nil_append, map_append, count_append, toList_some, map_cons]
      change _ + List.count release [(nextContext system.env.memory).release] = _
      omega

theorem release_keeps (member : call ∈ system.calls) (phase : call.phase = .release p) :
    DeviceSound (afterSection system call (VeRelease call.thread p system.env)) := by
  have count := sound.count
  have split := unreleased_split member
  have owed := owed_split member
  rw [phase] at split owed
  have contexts := sound.contexts.reorder owed
  simp only [Phase.counted, toList_some, length_singleton] at split
  have positive : 0 < system.env.nVeRefCount := by omega
  obtain ⟨next, ran, free, memory, counted, opened, closed⟩ :=
    @release_ends system.env call.thread positive (sound.opened positive) p
  rw [ran]
  constructor
  · exact free
  · change next.nVeRefCount = _
    rw [counted, count, split]
    simp [unreleased, afterSection, Phase.counted]
    omega
  · exact opened
  · exact closed
  · change Ledger next.memory _ _ _
    rw [memory]
    apply contexts.reorder
    rw [perm_iff_count]
    intro release
    simp only [owedFrees, afterSection, call_contexts_cons, Phase.context, map_append,
      count_append, toList_some, map_cons, map_nil]
    omega

theorem free_keeps (member : call ∈ system.calls) (phase : call.phase = .freeing p) : DeviceSound
      { system with
        env := { system.env with memory := system.env.memory.free .heap p.start }
        calls := system.calls.erase call } := by
  have count := sound.count
  have split := unreleased_split member
  have owed := owed_split member
  rw [phase] at split owed
  constructor
  · exact sound.mutex
  · change system.env.nVeRefCount = _
    rw [count, split]
    simp [unreleased, Phase.counted]
  · exact sound.opened
  · exact sound.closed
  · exact sound.contexts.settle [p.release] owed

end Sections

def SameCalls (backEnd : BackEnd) : Prop := backEnd = veBackEnd ∨ backEnd = vp9BackEnd

/-- No initialisation of the run fails to allocate its context. -/
def MallocGranted (_ : VeSystem) : VeOp → Prop
  | .enter call granted _ => call.phase = .setUp → granted = true
  | _ => True

variable {system : VeSystem} {backEnd : BackEnd}

theorem begin_release_keeps (sound : DeviceSound system) (thread : Nat)
    {p : ContextAddress} (held : p ∈ system.initialised) :
    DeviceSound
      { system with
        calls := ⟨thread, .release p⟩ :: system.calls
        initialised := system.initialised.erase p } := by
  have split := perm_cons_erase held
  have sameEnv : system.env = system.env := rfl
  refine @sound_of_counts system _ sound sameEnv ?_ ?_
  · change (system.initialised.erase p ++ p :: system.calls.filterMap _).Perm _
    exact perm_middle.trans (split.symm.append_right _)
  · unfold owedFrees
    dsimp only
    rw [call_contexts_cons]
    apply List.Perm.map
    exact (split.append_right _).trans perm_middle.symm

theorem device_step_sound (same : SameCalls backEnd) {next : VeSystem}
    {op : VeOp} (sound : DeviceSound system) (granted : MallocGranted system op)
    (step : veExec backEnd system op = some next) : DeviceSound next := by
  have calls : backEnd.setUp = VeInitialize ∧ backEnd.release = VeRelease := by
    rcases same with rfl | rfl
    · exact ⟨rfl, rfl⟩
    · exact ⟨rfl, rfl⟩
  cases op with
  | callInitialize thread =>
    simp only [veExec] at step
    split_ifs at step with idle
    obtain rfl := Option.some.inj step
    exact sound_of_counts sound rfl (List.Perm.refl _) (List.Perm.refl _)
  | callRelease thread p =>
    simp only [veExec] at step
    split_ifs at step with held
    obtain rfl := Option.some.inj step
    exact begin_release_keeps sound thread held.2
  | enter call malloc fd =>
    simp only [veExec] at step
    split_ifs at step with free
    cases phase : call.phase with
    | setUp =>
      rw [phase] at step
      obtain rfl := Option.some.inj step
      rw [calls.1, granted phase]
      exact initialise_keeps sound free.1 phase fd
    | release p =>
      rw [phase] at step
      obtain rfl := Option.some.inj step
      rw [calls.2]
      exact release_keeps sound free.1 phase
    | freeing p =>
      rw [phase] at step
      cases step
  | free call =>
    simp only [veExec] at step
    split_ifs at step with member
    cases phase : call.phase with
    | setUp | release p =>
      rw [phase] at step
      cases step
    | freeing p =>
      rw [phase] at step
      obtain rfl := Option.some.inj step
      exact free_keeps sound member phase

theorem start_sound : DeviceSound VeSystem.start where
  mutex := rfl
  count := rfl
  opened positive := absurd positive (by decide)
  closed _ := ⟨rfl, rfl, rfl⟩
  contexts := unused_ledger

/-- In every run in which `malloc` succeeds the device is sound in every state. -/
theorem device_sound_in_guarded_runs {backEnd : BackEnd} (same : SameCalls backEnd)
    {final : VeSystem} {ops : List VeOp}
    (granted : StepsMeet MallocGranted (veExec backEnd) VeSystem.start ops)
    (run : runOps (veExec backEnd) VeSystem.start ops = some final) : DeviceSound final :=
  guarded_run_invariant (fun _ _ _ sound granted step => device_step_sound same sound granted step)
    start_sound granted run

def twoContexts : List VeOp :=
  [.callInitialize 0, .callInitialize 1, .enter ⟨1, .setUp⟩ true (some 7),
    .enter ⟨0, .setUp⟩ true none, .callRelease 1 ⟨.heap, 1⟩, .enter ⟨1, .release ⟨.heap, 1⟩⟩ true none,
    .callRelease 0 ⟨.heap, 0⟩, .enter ⟨0, .release ⟨.heap, 0⟩⟩ true none,
    .free ⟨1, .freeing ⟨.heap, 1⟩⟩, .free ⟨0, .freeing ⟨.heap, 0⟩⟩]

theorem two_contexts_sound :
    ∃ final, runOps (veExec veBackEnd) VeSystem.start twoContexts = some final ∧
      DeviceSound final := by
  have observed : (runOps (veExec veBackEnd) VeSystem.start twoContexts).isSome = true := by decide
  obtain ⟨final, run⟩ := isSome_iff_exists.mp observed
  refine ⟨final, run, device_sound_in_guarded_runs (.inl rfl) ?_ run⟩
  simp [StepsMeet, MallocGranted, twoContexts]

/-- The first context cannot be allocated: the call is over and the mutex is locked. -/
theorem failed_malloc_keeps_mutex : ∃ final, runOps (veExec veBackEnd) VeSystem.start
        [.callInitialize 0, .enter ⟨0, .setUp⟩ false none] = some final ∧
      final.calls = [] ∧ ¬DeviceSound final := by
  refine ⟨_, rfl, rfl, ?_⟩
  intro sound
  cases sound.mutex

end CedarC.VeDeviceRefs
