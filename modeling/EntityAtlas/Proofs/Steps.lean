import EntityAtlas.Worksheet

/-!
# Steps that succeed

A sequence of steps succeeds exactly when each of them does, on the state that the one before it
left behind (`bind_ok_iff`). Read from right to left this runs a sequence; read from left to right
it takes a finished run apart. The other equivalences are the ends of such a reading: a step that
only computes, one that only changes the state, and one that acts on the draft of a worksheet.
-/

set_option autoImplicit false

namespace EntityAtlas

section State

variable {ε σ α β : Type}

theorem bind_ok_iff {step : EStateM ε σ α} {next : α → EStateM ε σ β} {before after : σ}
    {value : β} :
    (step >>= next) before = .ok value after ↔
      ∃ middle between, step before = .ok middle between ∧
        next middle between = .ok value after := by
  simp only [bind, EStateM.bind]
  cases step before with
  | ok first state => simp [and_assoc]
  | error error state => simp

theorem pure_ok_iff {before after : σ} {given value : α} :
    (pure given : EStateM ε σ α) before = .ok value after ↔ given = value ∧ before = after := by
  simp [pure, EStateM.pure]

theorem modify_ok_iff {change : σ → σ} {before after : σ} {value : PUnit} :
    (modify change : EStateM ε σ PUnit) before = .ok value after ↔ change before = after := by
  show EStateM.Result.ok PUnit.unit (change before) = .ok value after ↔ _
  simp

theorem get_ok_iff {before after value : σ} :
    (get : EStateM ε σ σ) before = .ok value after ↔ before = value ∧ before = after := by
  show EStateM.Result.ok before before = .ok value after ↔ _
  simp

theorem throw_ok_iff {error : ε} {before after : σ} {value : α} :
    (throw error : EStateM ε σ α) before = .ok value after ↔ False := by
  show EStateM.Result.error error before = .ok value after ↔ _
  simp

/-- A computation that may be refused continues exactly when it gives a value. -/
theorem except_bind_ok_iff {result : Except ε α} {next : α → Except ε β} {value : β} :
    (result >>= next) = .ok value ↔ ∃ middle, result = .ok middle ∧ next middle = .ok value := by
  cases result <;> simp [bind, Except.bind]

theorem except_pure_ok_iff {given value : α} :
    (pure given : Except ε α) = .ok value ↔ given = value := by
  simp [pure, Except.pure]

theorem ok_of_toOption {result : Except ε α} {value : α} (given : result.toOption = some value) :
    result = .ok value := by
  cases result with
  | ok other => exact congrArg Except.ok (Option.some.inj given)
  | error error => cases given

end State

theorem onDraft_ok_iff {α : Type} {step : Drafting α} {before after : Worksheet} {value : α} :
    onDraft step before = .ok value after ↔
      ∃ draft, step before.draft = .ok value draft ∧ { before with draft } = after := by
  simp only [onDraft]
  cases step before.draft with
  | ok first draft => simp [and_assoc]
  | error error draft => simp

theorem decided_ok_iff {α : Type} {decision : Except BuildError α} {before after : Worksheet}
    {value : α} :
    decided decision before = .ok value after ↔ decision = .ok value ∧ before = after := by
  cases decision with
  | ok given => simp [decided_ok]
  | error error => simp [decided_error]

end EntityAtlas
