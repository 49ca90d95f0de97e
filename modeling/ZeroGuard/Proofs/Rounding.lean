import Mathlib.Algebra.Order.Field.Basic
import Mathlib.Algebra.Order.Ring.Abs
import Mathlib.Data.Rat.Cast.Order
import Mathlib.Tactic.FieldSimp
import Mathlib.Tactic.Linarith
import ZeroGuard.Power

namespace ZeroGuard

/-- An integer within a half of a rational, which is even if it is exactly a half away. -/
structure NearestEven (x : ℚ) (m : ℤ) : Prop where
  near : |x - m| ≤ 1 / 2
  even : |x - m| = 1 / 2 → Even m

namespace NearestEven

variable {x y : ℚ} {m z bound : ℤ}

theorem le_of_le (nearest : NearestEven x m) (below : (bound : ℚ) ≤ x) : bound ≤ m := by
  have distance := abs_le.mp nearest.near
  have above : (bound : ℚ) < m + 1 := by linarith
  exact Int.lt_add_one_iff.mp (by exact_mod_cast above)

theorem le_of_lt (nearest : NearestEven x m) (above : x < bound) : m ≤ bound := by
  have distance := abs_le.mp nearest.near
  have below : (m : ℚ) < bound + 1 := by linarith
  exact Int.lt_add_one_iff.mp (by exact_mod_cast below)

/-- A tie below an even bound goes up to the bound. -/
theorem even_le_iff (nearest : NearestEven x m) (even : Even bound) :
    bound ≤ m ↔ (bound : ℚ) - 1 / 2 ≤ x := by
  have distance := abs_le.mp nearest.near
  constructor
  · intro reached
    have cast : (bound : ℚ) ≤ m := by exact_mod_cast reached
    linarith
  · intro reached
    by_contra missed
    have next : m + 1 ≤ bound := by omega
    have cast : (m : ℚ) + 1 ≤ bound := by exact_mod_cast next
    have tie : x - m = 1 / 2 := by linarith
    have last : (bound : ℚ) = m + 1 := by linarith
    have parity : Even m := nearest.even (by rw [tie]; norm_num)
    have same : bound = m + 1 := by exact_mod_cast last
    rw [same] at even
    exact Int.not_even_iff_odd.mpr parity.add_one even

theorem unique {k : ℤ} (left : NearestEven x m) (right : NearestEven x k) : m = k := by
  have less : ∀ {i j : ℤ}, NearestEven x i → NearestEven x j → ¬ i < j := by
    intro i j first second below
    have distance := abs_le.mp first.near
    have far := abs_le.mp second.near
    have next : (i : ℚ) + 1 ≤ j := by exact_mod_cast below
    have evenFirst : Even i := first.even (by rw [abs_of_nonneg] <;> linarith)
    have evenSecond : Even j := second.even (by rw [abs_of_nonpos] <;> linarith)
    have cast : (j : ℚ) = i + 1 := by linarith
    have same : j = i + 1 := by exact_mod_cast cast
    rw [same] at evenSecond
    exact Int.not_even_iff_odd.mpr evenFirst.add_one evenSecond
  have notLess := less left right
  have notGreater := less right left
  omega

theorem one_le_distances (x : ℚ) (other : z ≠ m) : 1 ≤ |x - m| + |x - z| := by
  have apart : (1 : ℚ) ≤ |(m : ℚ) - z| := by
    exact_mod_cast Int.one_le_abs (sub_ne_zero.mpr other.symm)
  have triangle := abs_sub_le (m : ℚ) x z
  rw [abs_sub_comm (m : ℚ) x] at triangle
  exact apart.trans triangle

/-- An integer that is nearest to a number is at least as near as any other integer. -/
theorem le_distance (nearest : NearestEven x m) (z : ℤ) : |x - m| ≤ |x - z| := by
  by_cases same : z = m
  · rw [same]
  · have sum := one_le_distances x same
    have near := nearest.near
    linarith

theorem even_of_tie (nearest : NearestEven x m) (other : z ≠ m) (tie : |x - z| = |x - m|) :
    Even m := by
  have sum := one_le_distances x other
  have near := nearest.near
  exact nearest.even (by linarith)

/-- It is nearer than what is on the far side of an integer. -/
theorem distance_lt (nearest : NearestEven x m) (above : (bound : ℚ) ≤ x) (below : y < bound) :
    |x - m| < |x - y| := by
  have close := nearest.le_distance bound
  rw [abs_of_nonneg (sub_nonneg.mpr above)] at close
  rw [abs_of_pos (by linarith : 0 < x - y)]
  linarith

end NearestEven

/-- A number that is a multiple of a step, or that has such a multiple between it and another number
above it. -/
def Stepped (step x y : ℚ) : Prop :=
  (∃ z : ℤ, y / step = z) ∨ ∃ bound : ℤ, bound ≤ x / step ∧ y / step < bound

section Stepped

variable {step x y : ℚ} {m : ℤ} (positive : 0 < step)
include positive

theorem distance_scaled (x y : ℚ) : |x - y| = |x / step - y / step| * step := by
  rw [← sub_div, abs_div, abs_of_pos positive, div_mul_cancel₀ _ positive.ne']

variable (nearest : NearestEven (x / step) m) (stepped : Stepped step x y)
include nearest stepped

/-- A multiple of a step that is nearest among those multiples is nearest among all such numbers. -/
theorem NearestEven.le_distance_step : |x - m * step| ≤ |x - y| := by
  rw [distance_scaled positive x (m * step), distance_scaled positive x y,
    mul_div_cancel_right₀ _ positive.ne']
  refine mul_le_mul_of_nonneg_right ?_ positive.le
  rcases stepped with ⟨z, whole⟩ | ⟨bound, lower, small⟩
  · rw [whole]
    exact nearest.le_distance z
  · exact (nearest.distance_lt lower small).le

theorem NearestEven.even_of_tie_step (different : y ≠ m * step) (tie : |x - y| = |x - m * step|) :
    Even m := by
  rw [distance_scaled positive x (m * step), distance_scaled positive x y,
    mul_div_cancel_right₀ _ positive.ne'] at tie
  have tie := mul_right_cancel₀ positive.ne' tie
  rcases stepped with ⟨z, whole⟩ | ⟨bound, lower, small⟩
  · rw [whole] at tie
    refine nearest.even_of_tie (fun same => different ?_) tie
    rw [← same, ← whole, div_mul_cancel₀ _ positive.ne']
  · exact absurd tie (nearest.distance_lt lower small).ne'

end Stepped

theorem roundDiv_mul_left {k : Nat} (positive : 0 < k) (n d : Nat) :
    roundDiv (k * n) (k * d) = roundDiv n d := by
  have above : k * d < 2 * (k * (n % d)) ↔ d < 2 * (n % d) := by
    rw [Nat.mul_left_comm, Nat.mul_lt_mul_left positive]
  have tie : 2 * (k * (n % d)) = k * d ↔ 2 * (n % d) = d := by
    rw [Nat.mul_left_comm, Nat.mul_right_inj positive.ne']
  simp only [roundDiv, Nat.mul_div_mul_left _ _ positive, Nat.mul_mod_mul_left, above, tie]

theorem roundDiv_of_dvd {n d : Nat} (positive : 0 < d) (divides : d ∣ n) : roundDiv n d = n / d := by
  simp only [roundDiv, Nat.mod_eq_zero_of_dvd divides]
  exact if_neg (by omega)

theorem roundDiv_nearestEven (n : Nat) {d : Nat} (positive : 0 < d) :
    NearestEven (n / d) (roundDiv n d) := by
  have castPos : (0 : ℚ) < d := by exact_mod_cast positive
  have split : (n : ℚ) = d * (n / d : Nat) + (n % d : Nat) := by
    exact_mod_cast (Nat.div_add_mod n d).symm
  have small : ((n % d : Nat) : ℚ) < d := by exact_mod_cast Nat.mod_lt n positive
  have ratio : (n : ℚ) / d = (n / d : Nat) + (n % d : Nat) / d := by
    rw [split]
    field_simp
  have part : ((n % d : Nat) : ℚ) / d < 1 := (div_lt_one castPos).mpr small
  have partNonneg : 0 ≤ ((n % d : Nat) : ℚ) / d := by positivity
  have tie : ((n % d : Nat) : ℚ) / d = 1 / 2 → 2 * (n % d) = d := by
    intro half
    have cast : (2 * (n % d : Nat) : ℚ) = d := by
      rw [div_eq_div_iff castPos.ne' two_ne_zero] at half
      linarith
    exact_mod_cast cast
  simp only [roundDiv]
  split_ifs with up
  · have least : 1 / 2 ≤ ((n % d : Nat) : ℚ) / d := by
      have cast : (d : ℚ) ≤ 2 * (n % d : Nat) := by exact_mod_cast (by omega : d ≤ 2 * (n % d))
      rw [div_le_div_iff₀ two_pos castPos]
      linarith
    have distance : |(n : ℚ) / d - ((n / d + 1 : Nat) : ℤ)| = 1 - (n % d : Nat) / d := by
      rw [Int.cast_natCast, Nat.cast_add_one, ratio, abs_of_nonpos] <;> linarith
    refine ⟨by rw [distance]; linarith, fun half => ?_⟩
    have even := tie (by linarith)
    exact_mod_cast Nat.even_iff.mpr (by omega : (n / d + 1) % 2 = 0)
  · have most : ((n % d : Nat) : ℚ) / d ≤ 1 / 2 := by
      have cast : (2 * (n % d : Nat) : ℚ) ≤ d := by exact_mod_cast (by omega : 2 * (n % d) ≤ d)
      rw [div_le_div_iff₀ castPos two_pos]
      linarith
    have distance : |(n : ℚ) / d - ((n / d : Nat) : ℤ)| = (n % d : Nat) / d := by
      rw [Int.cast_natCast, ratio, abs_of_nonneg] <;> linarith
    refine ⟨by rw [distance]; linarith, fun half => ?_⟩
    have even := tie (by linarith)
    exact_mod_cast Nat.even_iff.mpr (by omega : n / d % 2 = 0)

end ZeroGuard
