/-!
Steps that may fail, one after another: when both succeed, and where the first fault comes from.
-/

namespace SceneScript

variable {α β ε : Type} {first : Except ε α} {next : α → Except ε β}

theorem bind_eq_ok_iff {value : β} :
    (first >>= next) = .ok value ↔ ∃ middle, first = .ok middle ∧ next middle = .ok value := by
  cases first <;> simp [bind, Except.bind]

theorem bind_eq_error_iff {error : ε} :
    (first >>= next) = .error error ↔
      first = .error error ∨ ∃ middle, first = .ok middle ∧ next middle = .error error := by
  cases first <;> simp [bind, Except.bind]

/-- Two ways to go on come to the same if they do so from wherever the first step leads. -/
theorem bind_congr_of_ok {other : α → Except ε β}
    (same : ∀ middle, first = .ok middle → next middle = other middle) :
    (first >>= next) = (first >>= other) := by
  cases first with
  | error fault => rfl
  | ok middle => exact same middle rfl

/-- Two steps that fail together, and with the same fault. -/
def FailsAlike (first : Except ε α) (other : Except ε β) : Prop :=
  ∀ fault, first = .error fault ↔ other = .error fault

namespace FailsAlike

variable {γ δ : Type} {other : Except ε γ} {nextOther : γ → Except ε δ}

theorem of_error (fault : ε) :
    FailsAlike (.error fault : Except ε α) (.error fault : Except ε γ) := by
  intro again
  simp

theorem of_ok (value : α) (otherValue : γ) :
    FailsAlike (.ok value : Except ε α) (.ok otherValue) := by
  intro fault
  simp

theorem bind (alike : FailsAlike first other)
    (onward : ∀ value otherValue, first = .ok value → other = .ok otherValue →
      FailsAlike (next value) (nextOther otherValue)) :
    FailsAlike (first >>= next) (other >>= nextOther) := by
  cases first with
  | error fault =>
      rw [(alike fault).mp rfl]
      exact of_error fault
  | ok value =>
      cases other with
      | error fault => cases (alike fault).mpr rfl
      | ok otherValue => exact onward value otherValue rfl rfl

theorem bind_self {otherNext : α → Except ε δ}
    (onward : ∀ value, first = .ok value → FailsAlike (next value) (otherNext value)) :
    FailsAlike (first >>= next) (first >>= otherNext) := by
  cases first with
  | error fault => exact of_error fault
  | ok value => exact onward value rfl

theorem exists_ok_iff (alike : FailsAlike first other) :
    (∃ value, first = .ok value) ↔ ∃ value, other = .ok value := by
  cases first with
  | error fault => simp [(alike fault).mp rfl]
  | ok value =>
      cases other with
      | error fault => cases (alike fault).mpr rfl
      | ok otherValue => simp

end FailsAlike

end SceneScript
