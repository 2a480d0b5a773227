import Mathlib.Tactic.Common

/-!
# Steps that succeed

A computation made of steps succeeds when each of its steps does. Proofs about readers, checks and
compilation take such computations apart with the equivalences below, one step at a time.
-/

set_option autoImplicit false

namespace DecisionFlow

variable {ε σ α β : Type}

theorem isOk_iff {step : Except ε α} : step.isOk = true ↔ ∃ value, step = .ok value := by
  cases step with
  | error problem => simp [Except.isOk, Except.toBool]
  | ok value => simp [Except.isOk, Except.toBool]

theorem toOption_eq_some_iff {step : Except ε α} {value : α} :
    step.toOption = some value ↔ step = .ok value := by
  cases step with
  | error problem => simp [Except.toOption]
  | ok found => simp [Except.toOption]

theorem bind_eq_ok_iff {step : Except ε α} {next : α → Except ε β} {result : β} :
    (step >>= next) = .ok result ↔ ∃ value, step = .ok value ∧ next value = .ok result := by
  cases step with
  | error problem => simp [bind, Except.bind]
  | ok value => simp [bind, Except.bind]

theorem bind_eq_error_iff {step : Except ε α} {next : α → Except ε β} {problem : ε} :
    (step >>= next) = .error problem ↔
      step = .error problem ∨ ∃ value, step = .ok value ∧ next value = .error problem := by
  cases step with
  | error found => simp [bind, Except.bind]
  | ok value => simp [bind, Except.bind]

theorem map_eq_ok_iff {step : Except ε α} {change : α → β} {result : β} :
    (change <$> step) = .ok result ↔ ∃ value, step = .ok value ∧ change value = result := by
  cases step with
  | error problem => simp [Functor.map, Except.map]
  | ok value => simp [Functor.map, Except.map]

theorem mapError_eq_ok_iff {δ : Type} {step : Except ε α} {change : ε → δ} {result : α} :
    step.mapError change = .ok result ↔ step = .ok result := by
  cases step with
  | error problem =>
      constructor
      · rintro ⟨⟩
      · rintro ⟨⟩
  | ok value =>
      constructor
      · rintro ⟨⟩
        rfl
      · rintro ⟨⟩
        rfl

/-! ## Steps that fail -/

/-- A computation that fails, if it does, with an error of some kind. -/
def FailsOnlyWith (kind : ε → Prop) (step : Except ε α) : Prop :=
  ∀ problem, step = .error problem → kind problem

namespace FailsOnlyWith

variable {kind : ε → Prop}

theorem ok (value : α) : FailsOnlyWith kind (.ok value) := by
  rintro problem ⟨⟩

theorem error {problem : ε} (isKind : kind problem) :
    FailsOnlyWith kind (.error problem : Except ε α) := by
  rintro _ ⟨⟩
  exact isKind

/-- Only the values that the first step can give matter for what comes after it. -/
theorem bind_of_ok {step : Except ε α} {next : α → Except ε β} (first : FailsOnlyWith kind step)
    (later : ∀ value, step = .ok value → FailsOnlyWith kind (next value)) :
    FailsOnlyWith kind (step >>= next) := by
  cases step with
  | error problem => exact .error (first problem rfl)
  | ok value => exact later value rfl

theorem bind {step : Except ε α} {next : α → Except ε β} (first : FailsOnlyWith kind step)
    (later : ∀ value, FailsOnlyWith kind (next value)) : FailsOnlyWith kind (step >>= next) :=
  first.bind_of_ok fun value _ => later value

theorem mapError {δ : Type} {change : ε → δ} {other : δ → Prop} {step : Except ε α}
    (first : FailsOnlyWith kind step) (changed : ∀ problem, kind problem → other (change problem)) :
    FailsOnlyWith other (step.mapError change) := by
  cases step with
  | error problem => exact .error (changed problem (first problem rfl))
  | ok value => exact .ok value

end FailsOnlyWith

/-! ## Steps with a state -/

theorem run_bind_eq_ok_iff {step : EStateM ε σ α} {next : α → EStateM ε σ β} {before after : σ}
    {result : β} :
    (step >>= next).run before = .ok result after ↔
      ∃ value between, step.run before = .ok value between ∧
        (next value).run between = .ok result after := by
  simp only [bind, EStateM.bind, EStateM.run]
  cases step before with
  | error problem between => simp
  | ok value between => simp [and_assoc]

theorem run_map_eq_ok_iff {step : EStateM ε σ α} {change : α → β} {before after : σ} {result : β} :
    (change <$> step).run before = .ok result after ↔
      ∃ value, step.run before = .ok value after ∧ change value = result := by
  simp only [Functor.map, EStateM.map, EStateM.run]
  cases step before with
  | error problem between => simp
  | ok value between => simp [and_assoc, and_comm]

theorem run_bind_of_ok {step : EStateM ε σ α} {next : α → EStateM ε σ β} {before between : σ}
    {value : α} (run : step.run before = .ok value between) :
    (step >>= next).run before = (next value).run between := by
  simp only [bind, EStateM.bind, EStateM.run] at run ⊢
  rw [run]

theorem run_bind_eq_error_iff {step : EStateM ε σ α} {next : α → EStateM ε σ β} {before after : σ}
    {problem : ε} :
    (step >>= next).run before = .error problem after ↔
      step.run before = .error problem after ∨
        ∃ value between, step.run before = .ok value between ∧
          (next value).run between = .error problem after := by
  simp only [bind, EStateM.bind, EStateM.run]
  cases step before with
  | error problem between => simp
  | ok value between => simp [and_assoc]

@[simp]
theorem run_map_eq_error_iff {step : EStateM ε σ α} {change : α → β} {before after : σ}
    {problem : ε} :
    (change <$> step).run before = .error problem after ↔ step.run before = .error problem after := by
  simp only [Functor.map, EStateM.map, EStateM.run]
  cases step before with
  | error problem between => simp
  | ok value between => simp

@[simp]
theorem run_pure (value : α) (state : σ) :
    (pure value : EStateM ε σ α).run state = .ok value state := rfl

@[simp]
theorem run_get (state : σ) : (get : EStateM ε σ σ).run state = .ok state state := rfl

@[simp]
theorem run_modify (change : σ → σ) (state : σ) :
    (modify change : EStateM ε σ PUnit).run state = .ok ⟨⟩ (change state) := rfl

@[simp]
theorem run_throw (problem : ε) (state : σ) :
    (throw problem : EStateM ε σ α).run state = .error problem state := rfl

end DecisionFlow
