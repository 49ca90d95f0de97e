import ZeroGuard.Number.Quotient
import ZeroGuard.Proofs.Outcome

namespace ZeroGuard

/-- What a guard evaluates of its operands. -/
inductive GuardStep
  | comparison
  | division
deriving DecidableEq, Repr

/-- The steps of a guard, by the outcome of the comparison: it divides after a false one only. -/
def guardSteps {ε : Type} : Except ε Bool → List GuardStep
  | .ok false => [.comparison, .division]
  | _ => [.comparison]

/-- A computation whose evaluation is noted, also where it stops with a fault. -/
def noting {ε α : Type} (step : GuardStep) (run : Except ε α) :
    ExceptT ε (StateM (List GuardStep)) α :=
  ExceptT.mk fun steps => (run, steps ++ [step])

variable {ε α β γ : Type}

theorem noting_bind (step : GuardStep) (run : Except ε α)
    (next : α → ExceptT ε (StateM (List GuardStep)) β) (steps : List GuardStep) :
    (noting step run >>= next).run steps = match run with
      | .ok value => (next value).run (steps ++ [step])
      | .error fault => (.error fault, steps ++ [step]) := by
  cases run <;> rfl

variable (isZero : β → Except ε Bool) (divide : α → β → Except ε γ) (a : α) (b : β)

/-- Noting the steps changes nothing else. -/
theorem guarded_noting :
    (guarded (fun b => noting .comparison (isZero b)) (fun a b => noting .division (divide a b))
      a b).run [] =
      (guarded isZero divide a b, guardSteps (isZero b)) := by
  rw [guarded, guarded, noting_bind]
  cases isZero b with
  | error fault => rfl
  | ok zero =>
    cases zero with
    | true => rfl
    | false =>
      simp only [Bool.false_eq_true, if_false]
      rw [noting_bind]
      cases divide a b <;> rfl

theorem guarded_error_iff (fault : ε) :
    guarded isZero divide a b = .error fault ↔
      isZero b = .error fault ∨ isZero b = .ok false ∧ divide a b = .error fault := by
  rw [guarded, bind_eq_error_iff]
  refine or_congr_right ⟨?_, ?_⟩
  · rintro ⟨zero, compared, stopped⟩
    cases zero with
    | true => cases stopped
    | false =>
      obtain divided | ⟨_, _, returned⟩ := bind_eq_error_iff.mp stopped
      · exact ⟨compared, divided⟩
      · cases returned
  · rintro ⟨compared, divided⟩
    exact ⟨false, compared, bind_eq_error_iff.mpr (.inl divided)⟩

theorem guarded_eq_none_iff : guarded isZero divide a b = .ok none ↔ isZero b = .ok true := by
  rw [guarded, bind_eq_ok_iff]
  constructor
  · rintro ⟨zero, compared, ended⟩
    cases zero with
    | true => exact compared
    | false =>
      obtain ⟨_, _, returned⟩ := bind_eq_ok_iff.mp ended
      cases returned
  · intro compared
    exact ⟨true, compared, rfl⟩

end ZeroGuard
