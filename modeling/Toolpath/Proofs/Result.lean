/-!
Computations that may fail, taken apart: what they give, and what they fail with.
-/

namespace Toolpath

theorem bind_eq_ok {ε β γ : Type} {first : Except ε β} {next : β → Except ε γ} {result : γ} :
    first >>= next = .ok result ↔ ∃ value, first = .ok value ∧ next value = .ok result := by
  cases first with
  | error cause => simp [bind, Except.bind]
  | ok value => simp [bind, Except.bind]

theorem check_eq_ok {ε β : Type} {check : Except ε Unit} {next : Except ε β} {result : β} :
    (check >>= fun _ => next) = .ok result ↔ check = .ok () ∧ next = .ok result := by
  cases check with
  | error cause => simp [bind, Except.bind]
  | ok => simp [bind, Except.bind]

/-- What does not fail gives something. -/
theorem exists_error_iff {ε β : Type} {result : Except ε β} :
    (∃ cause, result = .error cause) ↔ ∀ value, result ≠ .ok value := by
  cases result <;> simp

theorem map_eq_ok {ε β γ : Type} {next : β → γ} {first : Except ε β} {result : γ} :
    first.map next = .ok result ↔ ∃ value, first = .ok value ∧ result = next value := by
  cases first with
  | error cause => simp [Except.map]
  | ok value => simp [Except.map, eq_comm]

/-- Computations that look the same fail for one cause, or give what looks the same. -/
theorem eq_or_eq_of_map_eq {ε β γ ζ : Type} {first : Except ε β} {second : Except ε γ} {view : β → ζ}
    {other : γ → ζ} (same : first.map view = second.map other) :
    (∃ cause, first = .error cause ∧ second = .error cause) ∨
      ∃ value result, first = .ok value ∧ second = .ok result ∧ view value = other result := by
  cases first with
  | error cause =>
    cases second with
    | error again => exact .inl ⟨cause, rfl, congrArg Except.error (Except.error.inj same).symm⟩
    | ok result => cases same
  | ok value =>
    cases second with
    | error cause => cases same
    | ok result => exact .inr ⟨value, result, rfl, rfl, Except.ok.inj same⟩

/-- What a computation fails with, if it fails. -/
def cause? {ε β : Type} : Except ε β → Option ε
  | .error cause => some cause
  | .ok _ => none

theorem cause?_eq_some {ε β : Type} {result : Except ε β} {cause : ε} :
    cause? result = some cause ↔ result = .error cause := by
  cases result <;> simp [cause?]

theorem cause?_eq_none {ε β : Type} {result : Except ε β} :
    cause? result = none ↔ ∃ value, result = .ok value := by
  cases result <;> simp [cause?]

theorem cause?_bind {ε β γ : Type} {first : Except ε β} {next : β → Except ε γ} {later? : Option ε}
    (later : ∀ value, first = .ok value → cause? (next value) = later?) :
    cause? (first >>= next) = (cause? first <|> later?) := by
  cases first with
  | error cause => rfl
  | ok value => exact later value rfl

theorem cause?_bind_ok {ε β γ : Type} (first : Except ε β) (next : β → γ) :
    cause? (first >>= fun value => .ok (next value)) = cause? first := by
  cases first <;> rfl

theorem cause?_map {ε β γ : Type} (next : β → γ) (result : Except ε β) :
    cause? (result.map next) = cause? result := by
  cases result <;> rfl

theorem toOption_eq_some {ε β : Type} {result : Except ε β} {value : β} :
    result.toOption = some value ↔ result = .ok value := by
  cases result <;> simp [Except.toOption]

/-- Computations that give the same are the same but for what they fail with. -/
theorem toOption_congr {ε ζ β : Type} {first : Except ε β} {second : Except ζ β}
    (same : ∀ value, first = .ok value ↔ second = .ok value) : first.toOption = second.toOption := by
  refine Option.ext fun value => ?_
  rw [toOption_eq_some, toOption_eq_some, same]

end Toolpath
