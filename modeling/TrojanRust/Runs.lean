import Mathlib

/-!
# Runs of a partial step

A step may refuse an action in a state. A run performs a list of actions and is refused when one
of them is. What every step preserves holds in every state that a run reaches, also when only
steps that meet a condition are allowed; and steps that simulate each other do so along runs.
-/

namespace TrojanRust.Runs

variable {σ τ α β : Type}

/-- A guarded step is performed when its guard holds. -/
theorem guarded {guard : Prop} [Decidable guard] {state next : σ} :
    (if guard then some state else none) = some next ↔ guard ∧ state = next := by
  simp

/-- Perform the actions one after the other. -/
def run (step : σ → α → Option σ) : σ → List α → Option σ
  | state, [] => some state
  | state, action :: actions => (step state action).bind fun next => run step next actions

/-- Every action of the run meets a condition in the state in which it is performed. -/
def Meets (step : σ → α → Option σ) (condition : σ → α → Prop) : σ → List α → Prop
  | _, [] => True
  | state, action :: actions =>
    condition state action ∧ ∀ next, step state action = some next →
      Meets step condition next actions

/-- Every state of the run has a property, the first and the last among them. -/
def Throughout (step : σ → α → Option σ) (holds : σ → Prop) : σ → List α → Prop
  | state, [] => holds state
  | state, action :: actions =>
    holds state ∧ ∀ next, step state action = some next → Throughout step holds next actions

/-- A run that starts with an action performs it and then the others. -/
theorem run_cons {step : σ → α → Option σ} {state final : σ} {action : α} {actions : List α} :
    run step state (action :: actions) = some final ↔
      ∃ next, step state action = some next ∧ run step next actions = some final := by
  simp [run, Option.bind_eq_some_iff]

/-- A run that starts with a step meets a condition when the step and the rest of it do. -/
theorem meets_cons {step : σ → α → Option σ} {condition : σ → α → Prop} {state next : σ}
    {action : α} {actions : List α} (stepped : step state action = some next) :
    Meets step condition state (action :: actions) ↔
      condition state action ∧ Meets step condition next actions := by
  simp [Meets, stepped]

/-- A run that starts with a step has a property throughout when its first state and the rest of
it do. -/
theorem throughout_cons {step : σ → α → Option σ} {holds : σ → Prop} {state next : σ}
    {action : α} {actions : List α} (stepped : step state action = some next) :
    Throughout step holds state (action :: actions) ↔
      holds state ∧ Throughout step holds next actions := by
  simp [Throughout, stepped]

/-- A state can be reached by a run that meets a condition. -/
def Attains (step : σ → α → Option σ) (condition : σ → α → Prop) (state final : σ) : Prop :=
  ∃ actions, Meets step condition state actions ∧ run step state actions = some final

/-- A state can be reached from itself. -/
theorem Attains.refl (step : σ → α → Option σ) (condition : σ → α → Prop) (state : σ) :
    Attains step condition state state := ⟨[], trivial, rfl⟩

/-- What can be reached after an allowed step can be reached before it. -/
theorem Attains.head {step : σ → α → Option σ} {condition : σ → α → Prop}
    {state next final : σ} {action : α} (allowed : condition state action)
    (stepped : step state action = some next) (attains : Attains step condition next final) :
    Attains step condition state final := by
  have ⟨actions, meets, ran⟩ := attains
  exact ⟨action :: actions, (meets_cons stepped).mpr ⟨allowed, meets⟩,
    run_cons.mpr ⟨next, stepped, ran⟩⟩

/-- A run whose actions all meet a condition meets it. -/
theorem meets_of_forall {step : σ → α → Option σ} {condition : α → Prop} {actions : List α}
    (allowed : ∀ action ∈ actions, condition action) (state : σ) :
    Meets step (fun _ action => condition action) state actions := by
  induction actions generalizing state with
  | nil => trivial
  | cons action actions ih =>
    have ⟨now, later⟩ := List.forall_mem_cons.mp allowed
    exact ⟨now, fun next _ => ih later next⟩

/-- What every step that meets the condition preserves holds after every run that meets it. -/
theorem run_preserves {step : σ → α → Option σ} {condition : σ → α → Prop} {holds : σ → Prop}
    (preserved : ∀ state action next, holds state → condition state action →
      step state action = some next → holds next)
    {state final : σ} {actions : List α} (start : holds state)
    (meets : Meets step condition state actions) (ran : run step state actions = some final) :
    holds final := by
  induction actions generalizing state with
  | nil =>
    simp only [run, Option.some.injEq] at ran
    exact ran ▸ start
  | cons action actions ih =>
    have ⟨next, stepped, later⟩ := run_cons.mp ran
    exact ih (preserved state action next start meets.1 stepped) (meets.2 next stepped) later

/-- What every step preserves holds after every run. -/
theorem run_invariant {step : σ → α → Option σ} {holds : σ → Prop}
    (preserved : ∀ state action next, holds state → step state action = some next → holds next)
    {state final : σ} {actions : List α} (start : holds state)
    (ran : run step state actions = some final) : holds final :=
  run_preserves (fun state action next before _ => preserved state action next before) start
    (meets_of_forall (fun _ _ => trivial) state) ran

/-- What holds in every state of a run holds in the first. -/
theorem Throughout.first {step : σ → α → Option σ} {holds : σ → Prop} {state : σ}
    {actions : List α} (throughout : Throughout step holds state actions) : holds state := by
  cases actions with
  | nil => exact throughout
  | cons action actions => exact throughout.1

/-- When a step keeps a property exactly under a condition, a run has the property in every state
exactly when all its steps meet the condition. -/
theorem throughout_iff_meets {step : σ → α → Option σ} {inv holds : σ → Prop}
    {condition : σ → α → Prop}
    (preserved : ∀ state action next, inv state → step state action = some next → inv next)
    (keeps : ∀ state action next, inv state → holds state → step state action = some next →
      (holds next ↔ condition state action))
    {state final : σ} {actions : List α} (start : inv state) (first : holds state)
    (ran : run step state actions = some final) :
    Throughout step holds state actions ↔ Meets step condition state actions := by
  induction actions generalizing state with
  | nil => exact ⟨fun _ => trivial, fun _ => first⟩
  | cons action actions ih =>
    have ⟨next, stepped, later⟩ := run_cons.mp ran
    rw [throughout_cons stepped, meets_cons stepped, ← keeps state action next start first stepped]
    have rest := ih (preserved state action next start stepped)
    constructor
    · intro throughout
      have holdsNext := throughout.2.first
      exact ⟨holdsNext, (rest holdsNext later).mp throughout.2⟩
    · intro meets
      exact ⟨first, (rest meets.1 later).mpr meets.2⟩

/-- What holds of a state and the actions performed up to it holds after every run of all its
actions. -/
theorem run_history {step : σ → α → Option σ} {holds : List α → σ → Prop}
    (preserved : ∀ done state action next, holds done state → step state action = some next →
      holds (done ++ [action]) next)
    {done : List α} {state final : σ} {actions : List α} (start : holds done state)
    (ran : run step state actions = some final) : holds (done ++ actions) final := by
  induction actions generalizing done state with
  | nil =>
    simp only [run, Option.some.injEq] at ran
    rw [List.append_nil, ← ran]
    exact start
  | cons action actions ih =>
    have ⟨next, stepped, later⟩ := run_cons.mp ran
    have longer := ih (preserved done state action next start stepped) later
    rwa [List.append_assoc] at longer

/-- When every step into a good state comes from one and logs what its action emits, a run into
a good state logs what its actions emit, in order. -/
theorem run_logs {γ : Type} {step : σ → α → Option σ} {good : σ → Prop} {log : σ → List γ}
    {emits : α → List γ}
    (logged : ∀ state action next, step state action = some next → good next →
      good state ∧ log next = log state ++ emits action)
    {state final : σ} {actions : List α} (ran : run step state actions = some final)
    (ends : good final) : good state ∧ log final = log state ++ actions.flatMap emits := by
  induction actions generalizing state with
  | nil =>
    simp only [run, Option.some.injEq] at ran
    subst ran
    exact ⟨ends, by simp⟩
  | cons action actions ih =>
    have ⟨next, stepped, later⟩ := run_cons.mp ran
    have ⟨goodNext, logFinal⟩ := ih later
    have ⟨goodState, logNext⟩ := logged state action next stepped goodNext
    exact ⟨goodState, by rw [logFinal, logNext, List.append_assoc, List.flatMap_cons]⟩

/-- Steps that simulate each other on matching actions do so along runs of matching actions. -/
theorem run_simulates {step : σ → α → Option σ} {other : τ → β → Option τ}
    {related : σ → τ → Prop} {matching : α → β → Prop}
    (simulated : ∀ state match' action counterpart next, related state match' →
      matching action counterpart → step state action = some next →
        ∃ next', other match' counterpart = some next' ∧ related next next')
    {state final : σ} {match' : τ} {actions : List α} {counterparts : List β}
    (start : related state match') (same : List.Forall₂ matching actions counterparts)
    (ran : run step state actions = some final) :
    ∃ final', run other match' counterparts = some final' ∧ related final final' := by
  induction same generalizing state match' with
  | nil =>
    simp only [run, Option.some.injEq] at ran
    exact ⟨match', rfl, ran ▸ start⟩
  | cons head _ ih =>
    have ⟨next, stepped, later⟩ := run_cons.mp ran
    have ⟨next', stepped', kept⟩ := simulated _ _ _ _ _ start head stepped
    have ⟨final', ran', related'⟩ := ih kept later
    exact ⟨final', run_cons.mpr ⟨next', stepped', ran'⟩, related'⟩

/-- A run of two lists of actions is a run of the first and then one of the second. -/
theorem run_append {step : σ → α → Option σ} {state final : σ} {actions later : List α} :
    run step state (actions ++ later) = some final ↔
      ∃ next, run step state actions = some next ∧ run step next later = some final := by
  induction actions generalizing state with
  | nil => simp [run]
  | cons action actions ih =>
    rw [List.cons_append, run_cons]
    constructor
    · intro ran
      have ⟨first, stepped, rest⟩ := ran
      have ⟨next, front, back⟩ := ih.mp rest
      exact ⟨next, run_cons.mpr ⟨first, stepped, front⟩, back⟩
    · intro ran
      have ⟨next, whole, back⟩ := ran
      have ⟨first, stepped, front⟩ := run_cons.mp whole
      exact ⟨first, stepped, ih.mpr ⟨next, front, back⟩⟩

/-- A run of one action is a step. -/
theorem run_singleton {step : σ → α → Option σ} {state final : σ} {action : α} :
    run step state [action] = some final ↔ step state action = some final := by
  simp [run]

/-- When every step is matched by a run of another system, every run is, by the runs of its steps
one after the other. -/
theorem run_refines {step : σ → α → Option σ} {other : τ → β → Option τ}
    {related : σ → τ → Prop} {matching : α → List β → Prop}
    (refined : ∀ state match' action next, related state match' → step state action = some next →
      ∃ performed next', matching action performed ∧ run other match' performed = some next' ∧
        related next next')
    {state final : σ} {match' : τ} {actions : List α} (start : related state match')
    (ran : run step state actions = some final) :
    ∃ performed final', List.Forall₂ matching actions performed ∧
      run other match' performed.flatten = some final' ∧ related final final' := by
  induction actions generalizing state match' with
  | nil =>
    simp only [run, Option.some.injEq] at ran
    exact ⟨[], match', .nil, rfl, ran ▸ start⟩
  | cons action actions ih =>
    have ⟨next, stepped, later⟩ := run_cons.mp ran
    have ⟨first, next', matched, ran', kept⟩ := refined _ _ _ _ start stepped
    have ⟨performed, final', all, ranLater, related'⟩ := ih kept later
    exact ⟨first :: performed, final', .cons matched all, run_append.mpr ⟨next', ran', ranLater⟩,
      related'⟩

/-- When the steps of a part are steps of the whole, so are its runs. -/
theorem run_map {step : σ → α → Option σ} {inner : τ → β → Option τ} {whole : τ → σ}
    {tagged : β → α} (embeds : ∀ part action next, inner part action = some next →
      step (whole part) (tagged action) = some (whole next))
    {part final : τ} {actions : List β} (ran : run inner part actions = some final) :
    run step (whole part) (actions.map tagged) = some (whole final) := by
  induction actions generalizing part with
  | nil =>
    simp only [run, Option.some.injEq] at ran
    exact ran ▸ rfl
  | cons action actions ih =>
    have ⟨next, stepped, later⟩ := run_cons.mp ran
    exact run_cons.mpr ⟨whole next, embeds part action next stepped, ih later⟩

end TrojanRust.Runs
