import Mathlib.Data.List.Basic

/-!
# Runs of a partial step function

A component is a state type, an operation type and `exec`, which gives the
state after one operation or `none` when the call never returns or the
operation is not available. A run is the fold of `exec` over a list of
operations. A guard restricts the steps of a run by the state before each.
-/

namespace CedarC.GuardedRuns

variable {State Op : Type*}

def runOps (exec : State → Op → Option State) : State → List Op → Option State
  | state, [] => some state
  | state, op :: rest => (exec state op).bind fun next => runOps exec next rest

def StepsMeet (guard : State → Op → Prop) (exec : State → Op → Option State) :
    State → List Op → Prop
  | _, [] => True
  | state, op :: rest =>
    guard state op ∧ ∀ next, exec state op = some next → StepsMeet guard exec next rest

instance decidableStepsMeet (guard : State → Op → Prop)
    [∀ state op, Decidable (guard state op)] (exec : State → Op → Option State) :
    ∀ (state : State) (ops : List Op), Decidable (StepsMeet guard exec state ops)
  | _, [] => isTrue trivial
  | state, op :: rest =>
    match step : exec state op with
    | none =>
      decidable_of_iff (guard state op) (by simp [StepsMeet, step])
    | some next =>
      have : Decidable (StepsMeet guard exec next rest) := decidableStepsMeet guard exec next rest
      decidable_of_iff (guard state op ∧ StepsMeet guard exec next rest)
        (by simp [StepsMeet, step])

@[simp] theorem run_nil (exec : State → Op → Option State) (state : State) :
    runOps exec state [] = some state := rfl

theorem run_cons (exec : State → Op → Option State) (state final : State) (op : Op)
    (rest : List Op) :
    runOps exec state (op :: rest) = some final ↔
      ∃ next, exec state op = some next ∧ runOps exec next rest = some final := by
  simp [runOps, Option.bind_eq_some_iff]

theorem run_append (exec : State → Op → Option State) (state final : State)
    (earlier later : List Op) :
    runOps exec state (earlier ++ later) = some final ↔
      ∃ middle, runOps exec state earlier = some middle ∧
        runOps exec middle later = some final := by
  induction earlier generalizing state with
  | nil => simp
  | cons op rest ih =>
    simp only [List.cons_append, run_cons, ih]
    constructor
    · rintro ⟨next, step, middle, first, second⟩
      exact ⟨middle, ⟨next, step, first⟩, second⟩
    · rintro ⟨middle, ⟨next, step, first⟩, second⟩
      exact ⟨next, step, middle, first, second⟩

/-- The induction rule for guarded runs: a property that every guarded step
keeps holds wherever a run all of whose steps meet the guard ends. -/
theorem guarded_run_invariant {guard : State → Op → Prop}
    {exec : State → Op → Option State} {inv : State → Prop}
    (preserved : ∀ state op next, inv state → guard state op → exec state op = some next → inv next)
    {state final : State} {ops : List Op} (initial : inv state)
    (meets : StepsMeet guard exec state ops) (run : runOps exec state ops = some final) :
    inv final := by
  induction ops generalizing state with
  | nil =>
    obtain rfl : state = final := by simpa using run
    exact initial
  | cons op rest ih =>
    obtain ⟨next, step, later⟩ := (run_cons exec state final op rest).mp run
    exact ih (preserved state op next initial meets.1 step) (meets.2 next step) later

theorem guarded_run_ends {guard : State → Op → Prop} {exec : State → Op → Option State}
    {inv : State → Prop}
    (ends : ∀ state op, inv state → guard state op → ∃ next, exec state op = some next ∧ inv next)
    {state : State} {ops : List Op} (initial : inv state)
    (meets : StepsMeet guard exec state ops) :
    ∃ final, runOps exec state ops = some final ∧ inv final := by
  induction ops generalizing state with
  | nil => exact ⟨state, rfl, initial⟩
  | cons op rest ih =>
    obtain ⟨next, step, later⟩ := ends state op initial meets.1
    obtain ⟨final, run, reached⟩ := ih later (meets.2 next step)
    exact ⟨final, (run_cons exec state final op rest).mpr ⟨next, step, run⟩, reached⟩

variable {exec : State → Op → Option State} {state middle : State} {guard : State → Op → Prop}
  {ops earlier later : List Op}

theorem steps_meet_and {first second : State → Op → Prop} (left : StepsMeet first exec state ops)
    (right : StepsMeet second exec state ops) :
    StepsMeet (fun state op => first state op ∧ second state op) exec state ops := by
  induction ops generalizing state with
  | nil => trivial
  | cons op rest ih =>
    exact ⟨⟨left.1, right.1⟩, fun next step => ih (left.2 next step) (right.2 next step)⟩

theorem steps_meet_append
    (run : runOps exec state earlier = some middle) (first : StepsMeet guard exec state earlier)
    (second : StepsMeet guard exec middle later) :
    StepsMeet guard exec state (earlier ++ later) := by
  induction earlier generalizing state with
  | nil =>
    obtain rfl : state = middle := by simpa using run
    exact second
  | cons op rest ih =>
    obtain ⟨next, step, run⟩ := (run_cons exec state middle op rest).mp run
    refine ⟨first.1, ?_⟩
    intro other again
    obtain rfl : next = other := Option.some.inj (step.symm.trans again)
    exact ih run (first.2 next step)

theorem steps_meet_split (meets : StepsMeet guard exec state (earlier ++ later))
    (run : runOps exec state earlier = some middle) :
    StepsMeet guard exec state earlier ∧ StepsMeet guard exec middle later := by
  induction earlier generalizing state with
  | nil =>
    obtain rfl : state = middle := by simpa using run
    exact ⟨trivial, meets⟩
  | cons op rest ih =>
    obtain ⟨next, step, run⟩ := (run_cons exec state middle op rest).mp run
    have tail := ih (meets.2 next step) run
    refine ⟨⟨meets.1, ?_⟩, tail.2⟩
    intro other again
    obtain rfl : next = other := Option.some.inj (step.symm.trans again)
    exact tail.1

theorem run_step_ending {exec : State → Op → Option State} {holds : State → Prop}
    {state final : State} {ops : List Op} (initially : holds state) (ended : ¬ holds final)
    (run : runOps exec state ops = some final) :
    ∃ earlier op later before after, ops = earlier ++ op :: later ∧
      runOps exec state earlier = some before ∧ exec before op = some after ∧
      holds before ∧ ¬ holds after := by
  induction ops generalizing state with
  | nil =>
    obtain rfl : state = final := by simpa using run
    exact absurd initially ended
  | cons op rest ih =>
    obtain ⟨next, step, run⟩ := (run_cons exec state final op rest).mp run
    by_cases still : holds next
    · obtain ⟨earlier, ending, later, before, after, split, reached, stopped⟩ := ih still run
      refine ⟨op :: earlier, ending, later, before, after, by rw [split]; rfl, ?_, stopped⟩
      exact (run_cons exec state before op earlier).mpr ⟨next, step, reached⟩
    · exact ⟨[], op, rest, state, next, rfl, rfl, step, initially, still⟩

theorem run_invariant {exec : State → Op → Option State} {inv : State → Prop}
    (preserved : ∀ state op next, inv state → exec state op = some next → inv next)
    {state final : State} {ops : List Op} (initial : inv state)
    (run : runOps exec state ops = some final) : inv final := by
  induction ops generalizing state with
  | nil =>
    obtain rfl : state = final := by simpa using run
    exact initial
  | cons op rest ih =>
    obtain ⟨next, step, later⟩ := (run_cons exec state final op rest).mp run
    exact ih (preserved state op next initial step) later

theorem steps_meet_of_invariant {meaning : State → Op → Prop} {inv : State → Prop}
    (preserved : ∀ state op next, inv state → guard state op → exec state op = some next → inv next)
    (means : ∀ state op, inv state → guard state op → meaning state op) (initial : inv state)
    (meets : StepsMeet guard exec state ops) : StepsMeet meaning exec state ops := by
  induction ops generalizing state with
  | nil => trivial
  | cons op rest ih =>
    refine ⟨means state op initial meets.1, ?_⟩
    intro next step
    exact ih (preserved state op next initial meets.1 step) (meets.2 next step)

end CedarC.GuardedRuns
