import Mathlib.Tactic.Lemma
import HotReload.Run
/-!
Runs that give a value, taken apart into their steps.

* `bind_eq_ok` and `map_eq_ok` for steps that may fail, `Run.bind_eq_ok` for those that report
  events as well.
* `mapError_eq_ok`: a value is not touched when failures are turned into others.
* `exists_eq_ok_of_any`: a value that has been tested is there.
* `unlessExcess_eq_ok`: a value is given unless there is too much of something.
-/

namespace HotReload

/-- Two steps give a value if the first one does and the second one does from it. -/
lemma bind_eq_ok {ε α β : Type} {step : Except ε α} {next : α → Except ε β} {b : β} :
    step.bind next = .ok b ↔ ∃ a, step = .ok a ∧ next a = .ok b := by
  cases step <;> simp [Except.bind]

/-- A value that is changed is there if the value is. -/
lemma map_eq_ok {ε α β : Type} {step : Except ε α} {change : α → β} {b : β} :
    step.map change = .ok b ↔ ∃ a, step = .ok a ∧ change a = b := by
  cases step <;> simp [Except.map]

/-- The value of two steps does not depend on their events. -/
lemma Run.bind_eq_ok {α β : Type} {step : Run α} {next : α → Run β} {b : β} :
    (step >>= next).result = .ok b ↔ ∃ a, step.result = .ok a ∧ (next a).result = .ok b := by
  rw [Run.result_bind, HotReload.bind_eq_ok]

/-- A value stays the same whatever a failure would be turned into. -/
lemma mapError_eq_ok {ε ε' α : Type} {step : Except ε α} {g : ε → ε'} {a : α} :
    step.mapError g = .ok a ↔ step = .ok a := by
  cases step with
  | error e =>
      constructor
      · exact fun h => nomatch (h : Except.error (g e) = .ok a)
      · exact fun h => nomatch h
  | ok b =>
      constructor
      · exact fun h => congrArg Except.ok (Except.ok.inj h)
      · exact fun h => congrArg Except.ok (Except.ok.inj h)

/-- A value with a property is there if the property is found to hold. -/
lemma exists_eq_ok_of_any {ε α : Type} {result : Except ε α} {p : α → Bool}
    (h : result.toOption.any p = true) : ∃ a, result = .ok a ∧ p a = true := by
  cases result with
  | error e => exact absurd h (by simp [Except.toOption])
  | ok a => exact ⟨a, rfl, h⟩

lemma unlessExcess_eq_ok {α : Type} {excess? : Option Excess} {a b : α} :
    unlessExcess excess? a = .ok b ↔ excess? = none ∧ a = b := by
  cases excess? <;> simp [unlessExcess]

end HotReload
