import Mathlib.Data.Nat.Log
import Mathlib.Tactic.Positivity
import Mathlib.Tactic.SplitIfs
import ZeroGuard.Power

namespace ZeroGuard

@[simp] theorem twoPow_eq (n : Nat) : twoPow n = 2 ^ n := rfl

@[simp] theorem tenPow_eq (n : Nat) : tenPow n = 10 ^ n := rfl

theorem twoPow_pos (n : Nat) : 0 < twoPow n :=
  Nat.pow_pos (by decide)

theorem tenPow_pos (n : Nat) : 0 < tenPow n :=
  Nat.pow_pos (by decide)

theorem decimalLog_eq_log (bits n : Nat) (positive : 0 < n) (bounded : n < 10 ^ 2 ^ bits) :
    decimalLog bits n = Nat.log 10 n := by
  induction bits generalizing n with
  | zero =>
    have small : n < 10 := by simpa using bounded
    exact (Nat.log_of_lt small).symm
  | succ bits ih =>
    simp only [decimalLog]
    split_ifs with below
    · exact ih n positive below
    · have reached : 10 ^ 2 ^ bits ≤ n := Nat.le_of_not_lt below
      have rest : n / 10 ^ 2 ^ bits < 10 ^ 2 ^ bits := by
        rw [Nat.div_lt_iff_lt_mul (by positivity), ← pow_add, ← two_mul, ← pow_succ']
        exact bounded
      have long : 2 ^ bits ≤ Nat.log 10 n := Nat.le_log_of_pow_le (by decide) reached
      rw [tenPow_eq, twoPow_eq, ih _ (Nat.div_pos reached (by positivity)) rest,
        Nat.log_div_base_pow]
      omega

/-- The number of search steps is enough for every number and every factor. -/
theorem lt_pow_searchBits {factor : Nat} (several : 2 ≤ factor) (n : Nat) :
    n < factor ^ 2 ^ searchBits n := by
  have exponent : n.log2 + 1 ≤ 2 ^ searchBits n := Nat.lt_log2_self
  calc n < 2 ^ (n.log2 + 1) := Nat.lt_log2_self
    _ ≤ 2 ^ 2 ^ searchBits n := Nat.pow_le_pow_right (by decide) exponent
    _ ≤ factor ^ 2 ^ searchBits n := Nat.pow_le_pow_left several _

theorem digitCount_eq_log (n : Nat) : digitCount n = Nat.log 10 n + 1 := by
  rcases Nat.eq_zero_or_pos n with rfl | positive
  · rfl
  · rw [digitCount, decimalLog_eq_log _ n positive (lt_pow_searchBits (by decide) n)]

theorem digitCount_le_of_lt {n limit : Nat} (positive : 0 < limit) (short : n < 10 ^ limit) :
    digitCount n ≤ limit := by
  rw [digitCount_eq_log]
  by_cases none : n = 0
  · rw [none, Nat.log_zero_right]
    exact positive
  · exact (Nat.log_lt_iff_lt_pow (by decide) none).mpr short

theorem stripFactor_pos (factor bits : Nat) {n : Nat} (positive : 0 < n) :
    0 < (stripFactor factor bits n).1 := by
  induction bits generalizing n with
  | zero => exact positive
  | succ bits ih =>
    simp only [stripFactor]
    split_ifs with divides
    · have factorLe := Nat.le_of_dvd positive (Nat.dvd_of_mod_eq_zero divides)
      have factorPos := Nat.pos_of_dvd_of_pos (Nat.dvd_of_mod_eq_zero divides) positive
      exact ih (Nat.div_pos factorLe factorPos)
    · exact ih positive

theorem stripFactor_mul (factor bits n : Nat) :
    (stripFactor factor bits n).1 * factor ^ (stripFactor factor bits n).2 = n := by
  induction bits generalizing n with
  | zero => simp [stripFactor]
  | succ bits ih =>
    simp only [stripFactor]
    split_ifs with divides
    · rw [pow_add, ← mul_assoc, ih]
      exact Nat.div_mul_cancel (Nat.dvd_of_mod_eq_zero divides)
    · exact ih n

/-- A factor that goes into a number less than `2 ^ bits` times is taken out completely. -/
theorem stripFactor_not_dvd {factor bits n : Nat} (bounded : ¬ factor ^ 2 ^ bits ∣ n) :
    ¬ factor ∣ (stripFactor factor bits n).1 := by
  induction bits generalizing n with
  | zero => simpa [stripFactor] using bounded
  | succ bits ih =>
    simp only [stripFactor]
    split_ifs with divides
    · refine ih fun again => bounded ?_
      have whole := Nat.div_mul_cancel (Nat.dvd_of_mod_eq_zero divides)
      rw [← whole, pow_succ, mul_two, pow_add]
      exact Nat.mul_dvd_mul_right again _
    · exact ih fun again => divides (Nat.mod_eq_zero_of_dvd again)

end ZeroGuard
