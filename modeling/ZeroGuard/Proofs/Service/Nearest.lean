import ZeroGuard.Proofs.Number.Nearest
import ZeroGuard.Proofs.Service.Guard
import ZeroGuard.Proofs.Value.Guard

namespace ZeroGuard

namespace Number

variable {a b : ℤ}

theorem safeDivide_int (op : Operator) (a : ℤ) (nonzero : b ≠ 0) :
    (int a).safeDivide op (.int b) = (divInt op a b).map some :=
  safeDivide_of_not_vanishes (.int a) (.int b) nonzero

/-- A common factor of the integers is as good as none, also where there is no quotient. -/
theorem safeDivide_mul_left {k : ℤ} (positive : 0 < k) (a b : ℤ) :
    (int (k * a)).safeDivide .quotient (.int (k * b)) = (int a).safeDivide .quotient (.int b) := by
  by_cases zero : b = 0
  · have origin : (int 0).Vanishes := rfl
    rw [zero, mul_zero, safeDivide_of_vanishes _ _ origin, safeDivide_of_vanishes _ _ origin]
  · have nonzero : k * b ≠ 0 := mul_ne_zero positive.ne' zero
    rw [safeDivide_int _ _ nonzero, safeDivide_int _ _ zero, divInt, divInt, if_neg nonzero,
      if_neg zero, intRatio_mul_left positive]

end Number

namespace Service

/-- The quotient of two integers of any size is the nearest double, as long as it does not come to lie
beyond the finite doubles, and its text is the answer of the service. -/
theorem integer_quotient_is_nearest (settings : Settings) {a b : ℤ} (nonzero : b ≠ 0) :
    (|(a : ℚ) / b| < 2 ^ 1024 - 2 ^ 970 → ∃ x : Double, x.Nearest (a / b) ∧
      (x.isNegative = true ↔ ¬ (a < 0 ↔ b < 0)) ∧
      (∀ i j, (Value.number i (.int a)).safeDivide .quotient (.number j (.int b)) =
        .ok (some (.float x))) ∧
      ∀ request, Asks settings request .int (.int a) (.int b) → request.operator = .quotient →
        (divide settings.defaultNumericType request).outcome =
          .ok (.ok ⟨true, some (x.text .double), .int, .quotient⟩)) ∧
    ∀ (k : ℤ) i j, 0 < k →
      (Value.number i (.int (k * a))).safeDivide .quotient (.number j (.int (k * b))) =
        (Value.number i (.int a)).safeDivide .quotient (.number j (.int b)) := by
  refine ⟨fun within => ?_, fun k i j positive => ?_⟩
  · obtain ⟨x, divided, nearest, sign⟩ := Number.divInt_quotient_nearest nonzero within
    refine ⟨x, nearest, sign, fun i j => ?_, fun request asks operator => ?_⟩
    · rw [Value.safeDivide_number, Number.safeDivide_int _ _ nonzero, divided, Except.map]
    · have whole : Number.divide request.operator (.int a) (.int b) = .ok (.float x) := by
        rw [operator, Number.divide_int, divided]
      rw [asks.outcome_of_divided nonzero whole, operator, Number.text, Except.map]
  · rw [Value.safeDivide_number, Value.safeDivide_number, Number.safeDivide_mul_left positive]

/-- One and a half units, by a divisor that is beyond the doubles itself, is a tie between the two least
positive doubles, of which the second has an even significand. -/
theorem tie_between_subnormal_doubles :
    let request : Request := ⟨.int (-3), .int (2 ^ 1075), some .int, .quotient⟩
    (divide .float request).outcome = .ok (.ok ⟨true, some "-1e-323", .int, .quotient⟩) ∧
      ∃ x : Double, x.Nearest ((-3 : ℤ) / (2 ^ 1075 : ℤ)) ∧
        (divide .float request).outcome = .ok (.ok ⟨true, some (x.text .double), .int, .quotient⟩) := by
  intro request
  refine ⟨by decide +kernel, ?_⟩
  have nonzero : (2 ^ 1075 : ℤ) ≠ 0 := by positivity
  have small := Number.abs_ratio_lt 2 (a := -3) (by decide) (by decide) nonzero
  obtain ⟨x, nearest, -, -, answer⟩ := (integer_quotient_is_nearest .default nonzero).1 small
  exact ⟨x, nearest, answer request ⟨rfl, rfl, rfl⟩ rfl⟩

end Service

end ZeroGuard
