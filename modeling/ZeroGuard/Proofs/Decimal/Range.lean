import ZeroGuard.Proofs.Decimal.Failure
import ZeroGuard.Proofs.Decimal.Text

namespace ZeroGuard.Decimal

variable {negative : Bool} {n d coefficient : Nat} {ideal exponent : ℤ}

theorem inRange_of_bounds (least : quotientMin ≤ exponent) (most : exponent ≤ quotientMax + precision)
    (short : coefficient ≤ tenPow precision) : inRange coefficient exponent = true := by
  have digits : Nat.log 10 coefficient ≤ precision := by
    rw [tenPow_eq] at short
    calc Nat.log 10 coefficient ≤ Nat.log 10 (10 ^ precision) := Nat.log_mono_right short
      _ = precision := Nat.log_pow (by decide) precision
  rw [inRange, digitCount_eq_log, decide_eq_true_eq]
  simp only [exponentMin, exponentMax, quotientMin, quotientMax, precision] at *
  omega

theorem stripZeros_spec (limit n : Nat) :
    (stripZeros limit n).1 * 10 ^ (stripZeros limit n).2 = n := by
  induction limit generalizing n with
  | zero => simp [stripZeros]
  | succ limit ih =>
    simp only [stripZeros]
    split_ifs with zero
    · rw [pow_succ, ← mul_assoc, ih]
      exact Nat.div_mul_cancel (Nat.dvd_of_mod_eq_zero zero)
    · simp

theorem significand_le (nPos : 0 < n) (dPos : 0 < d) {shift : ℤ}
    (few : ratioMagnitude n d + shift < precision) : significand n d shift ≤ tenPow precision := by
  have nearest := significand_nearestEven n dPos shift 0
  have positive : (0 : ℚ) < n / d * 10 ^ shift := mul_pos (by positivity) (ten_zpow_pos shift)
  have log : Int.log 10 ((n : ℚ) / d * 10 ^ shift) = ratioMagnitude n d + shift := by
    rw [log_mul_ten_zpow (by positivity), ratioMagnitude_eq_log nPos dPos]
  have below := (lt_ten_zpow_iff positive precision).mpr (log ▸ few)
  rw [zpow_zero, div_one, sub_zero] at nearest
  have most : (significand n d shift : ℤ) ≤ (10 ^ precision : ℤ) :=
    nearest.le_of_lt (by exact_mod_cast below)
  rw [tenPow_eq]
  exact_mod_cast most

/-- An exact quotient has at least one digit, so that few zeros can be taken off it. -/
theorem stripped_inRange {limit : Nat} (positive : 0 < coefficient)
    (short : coefficient ≤ tenPow precision) (least : quotientMin ≤ exponent)
    (most : exponent ≤ quotientMax) :
    inRange (stripZeros limit coefficient).1 (exponent + (stripZeros limit coefficient).2) = true := by
  have split := stripZeros_spec limit coefficient
  generalize stripZeros limit coefficient = stripped at split
  have kept : 0 < stripped.1 := Nat.pos_of_mul_pos_right (split ▸ positive)
  have zeros : 10 ^ stripped.2 ≤ 10 ^ precision := by
    calc 10 ^ stripped.2 ≤ stripped.1 * 10 ^ stripped.2 := Nat.le_mul_of_pos_left _ kept
      _ = coefficient := split
      _ ≤ 10 ^ precision := short
  have few : stripped.2 ≤ precision := (Nat.pow_le_pow_iff_right (by decide)).mp zeros
  have less : stripped.1 ≤ coefficient := by
    rw [← split]
    exact Nat.le_mul_of_pos_right _ (by positivity)
  exact inRange_of_bounds (by omega) (by omega) (less.trans short)

theorem roundQuotient_inRange (nPos : 0 < n) (dPos : 0 < d) {quotient : Decimal}
    (run : roundQuotient negative n d ideal = .ok quotient) : quotient.InRange := by
  have few : ∀ place, ratioMagnitude n d + ideal - (precision - 1) ≤ place →
      significand n d (ideal - place) ≤ tenPow precision := by
    intro place lower
    exact significand_le nPos dPos (by omega)
  simp only [roundQuotient] at run
  split_ifs at run with beyond tiny exact carry above <;> cases run
  · exact inRange_of_bounds le_rfl (by decide) (Nat.zero_le _)
  all_goals
    have least := le_max_left quotientMin (ratioMagnitude n d + ideal - (precision - 1))
    have short := few _ (le_max_right quotientMin (ratioMagnitude n d + ideal - (precision - 1)))
    have most : max quotientMin (ratioMagnitude n d + ideal - (precision - 1)) ≤ quotientMax := by
      simp only [quotientMax, quotientMin, precision] at beyond ⊢
      omega
    generalize max quotientMin (ratioMagnitude n d + ideal - (precision - 1)) = place at *
  · have positive : (0 : ℚ) < n / d * 10 ^ (ideal - place) :=
      mul_pos (by positivity) (ten_zpow_pos _)
    rw [← significand_of_exact dPos exact] at positive
    exact stripped_inRange (by exact_mod_cast positive) short least most
  · exact inRange_of_bounds (by omega) (by simp only [precision]; omega)
      (Nat.pow_le_pow_right (by decide) (by decide))
  · exact inRange_of_bounds least (by simp only [precision]; omega) short

theorem truncQuotient_inRange (dPos : 0 < d) {quotient : Decimal}
    (run : truncQuotient negative n d ideal = .ok quotient) : quotient.InRange := by
  simp only [truncQuotient] at run
  split_ifs at run with none below above <;> cases run
  · exact inRange_of_bounds (by decide) (by decide) (Nat.zero_le _)
  · exact inRange_of_bounds (by decide) (by decide) (Nat.zero_le _)
  · have short := significand_le (Nat.pos_of_ne_zero none) dPos (not_le.mp above)
    refine inRange_of_bounds (by decide) (by decide) (le_trans ?_ short)
    simp only [significand, roundDiv]
    split_ifs <;> omega

theorem zeroQuotient_inRange (negative : Bool) (exponent : ℤ) :
    (zeroQuotient negative exponent).InRange := by
  refine inRange_of_bounds (le_max_left _ _) (max_le (by decide) ?_) (Nat.zero_le _)
  exact (min_le_right _ _).trans (by decide)

theorem nanResult?_inRange {a b quotient : Decimal} (found : nanResult? a b = some (.ok quotient)) :
    quotient.InRange := by
  unfold nanResult? at found
  split at found <;> cases found <;> trivial

/-- Every quotient has an exponent that a reader accepts. -/
theorem divide_inRange {op : Operator} {a b quotient : Decimal}
    (run : divide op a b = .ok quotient) : quotient.InRange := by
  cases result : nanResult? a b with
  | some outcome =>
    have same : divide op a b = outcome := by cases op <;> simp only [divide, div, truncDiv, result]
    rw [← same, run] at result
    exact nanResult?_inRange result
  | none =>
    cases op with
    | quotient =>
      simp only [divide, div, result] at run
      split at run
      case h_2 =>
        cases run
        trivial
      case h_3 =>
        cases run
        exact inRange_of_bounds (by decide) (by decide) (Nat.zero_le _)
      case h_4 =>
        split_ifs at run with zeroDivisor zeroDividend
        · cases run
          exact zeroQuotient_inRange _ _
        · exact roundQuotient_inRange (Nat.pos_of_ne_zero zeroDividend)
            (Nat.pos_of_ne_zero zeroDivisor) run
      all_goals cases run
    | floor =>
      simp only [divide, truncDiv, result] at run
      split at run
      case h_2 =>
        cases run
        trivial
      case h_3 =>
        cases run
        exact inRange_of_bounds (by decide) (by decide) (Nat.zero_le _)
      case h_4 =>
        split_ifs at run with zeroDivisor
        exact truncQuotient_inRange (Nat.pos_of_ne_zero zeroDivisor) run
      all_goals cases run

end ZeroGuard.Decimal
