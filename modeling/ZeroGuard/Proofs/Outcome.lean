import Mathlib.Tactic.Basic

namespace ZeroGuard

variable {ε α β : Type} {run : Except ε α} {fault : ε}

theorem map_eq_ok_iff {f : α → β} {result : β} :
    run.map f = .ok result ↔ ∃ value, run = .ok value ∧ f value = result := by
  cases run <;> simp [Except.map]

theorem map_eq_error_iff {f : α → β} : run.map f = .error fault ↔ run = .error fault := by
  cases run <;> simp [Except.map]

theorem bind_eq_ok_iff {next : α → Except ε β} {result : β} :
    (run >>= next) = .ok result ↔ ∃ value, run = .ok value ∧ next value = .ok result := by
  cases run <;> simp [bind, Except.bind]

theorem bind_eq_error_iff {next : α → Except ε β} :
    (run >>= next) = .error fault ↔
      run = .error fault ∨ ∃ value, run = .ok value ∧ next value = .error fault := by
  cases run <;> simp [bind, Except.bind]

theorem toOption_eq_some_iff {value : α} : run.toOption = some value ↔ run = .ok value := by
  cases run <;> simp [Except.toOption]

end ZeroGuard
