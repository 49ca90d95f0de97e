import Mathlib.Data.Int.Log
import Mathlib.Data.Rat.Floor
import Mathlib.Tactic.Ring
import ZeroGuard.Decimal.Division
import ZeroGuard.Proofs.Power
import ZeroGuard.Proofs.Rounding

namespace ZeroGuard

theorem ten_zpow_pos (k : ℤ) : (0 : ℚ) < 10 ^ k := zpow_pos (by norm_num) k

theorem ten_zpow_le_iff {x : ℚ} (positive : 0 < x) (k : ℤ) : 10 ^ k ≤ x ↔ k ≤ Int.log 10 x := by
  simpa using Int.zpow_le_iff_le_log (b := 10) (by decide) (x := k) positive

theorem lt_ten_zpow_iff {x : ℚ} (positive : 0 < x) (k : ℤ) : x < 10 ^ k ↔ Int.log 10 x < k := by
  simpa using Int.lt_zpow_iff_log_lt (b := 10) (by decide) (x := k) positive

theorem log_eq_of_bounds {x : ℚ} {k : ℤ} (lower : 10 ^ k ≤ x) (upper : x < 10 ^ (k + 1)) :
    Int.log 10 x = k := by
  have positive := (ten_zpow_pos k).trans_le lower
  have least := (ten_zpow_le_iff positive k).mp lower
  have most := (lt_ten_zpow_iff positive (k + 1)).mp upper
  omega

theorem log_mul_ten_zpow {x : ℚ} (positive : 0 < x) (k : ℤ) :
    Int.log 10 (x * 10 ^ k) = Int.log 10 x + k := by
  have lower := (ten_zpow_le_iff positive _).mpr le_rfl
  have upper := (lt_ten_zpow_iff positive _).mpr (lt_add_one (Int.log 10 x))
  apply log_eq_of_bounds
  · rw [zpow_add₀ (by norm_num)]
    exact mul_le_mul_of_nonneg_right lower (ten_zpow_pos k).le
  · rw [add_right_comm, zpow_add₀ (by norm_num)]
    exact mul_lt_mul_of_pos_right upper (ten_zpow_pos k)

/-- The power of ten of the last of so many significant digits. -/
def lastPlace (digits : Nat) (x : ℚ) : ℤ :=
  Int.log 10 x - (digits - 1)

/-- `y` is the positive number `x` rounded to so many significant digits, where a half goes to the
even neighbour. -/
def RoundsToDigits (digits : Nat) (x y : ℚ) : Prop :=
  ∃ m : ℤ, NearestEven (x / 10 ^ lastPlace digits x) m ∧ y = m * 10 ^ lastPlace digits x

theorem lastPlace_bounds {x : ℚ} (positive : 0 < x) {digits : Nat} (nonzero : 0 < digits) :
    ((10 ^ (digits - 1) : ℤ) : ℚ) ≤ x / 10 ^ lastPlace digits x ∧
      x / 10 ^ lastPlace digits x < ((10 ^ digits : ℤ) : ℚ) := by
  have lower := (ten_zpow_le_iff positive _).mpr le_rfl
  have upper := (lt_ten_zpow_iff positive _).mpr (lt_add_one (Int.log 10 x))
  have first : ((digits - 1 : Nat) : ℤ) + lastPlace digits x = Int.log 10 x := by
    rw [lastPlace]
    omega
  have next : (digits : ℤ) + lastPlace digits x = Int.log 10 x + 1 := by
    rw [lastPlace]
    omega
  push_cast
  rw [le_div_iff₀ (ten_zpow_pos _), div_lt_iff₀ (ten_zpow_pos _), ← zpow_natCast, ← zpow_natCast,
    ← zpow_add₀ (by norm_num), ← zpow_add₀ (by norm_num), first, next]
  exact ⟨lower, upper⟩

/-- All digits carry where the rounded significand is the next power of ten. -/
theorem log_rounded {x : ℚ} (positive : 0 < x) {digits : Nat} (nonzero : 0 < digits) {m : ℤ}
    (nearest : NearestEven (x / 10 ^ lastPlace digits x) m) :
    Int.log 10 (m * 10 ^ lastPlace digits x : ℚ) =
      if m = 10 ^ digits then Int.log 10 x + 1 else Int.log 10 x := by
  obtain ⟨lower, upper⟩ := lastPlace_bounds positive nonzero
  have least := nearest.le_of_le lower
  have most := nearest.le_of_lt upper
  have mPos : (0 : ℚ) < m := by
    have power : (0 : ℤ) < 10 ^ (digits - 1) := by positivity
    exact_mod_cast power.trans_le least
  rw [log_mul_ten_zpow mPos]
  split_ifs with carry
  · have power : (m : ℚ) = ((10 : ℕ) : ℚ) ^ (digits : ℤ) := by
      rw [carry]
      push_cast
      rw [zpow_natCast]
    rw [power, Int.log_zpow (by decide), lastPlace]
    ring
  · have below : m < 10 ^ digits := lt_of_le_of_ne most carry
    have logM : Int.log 10 (m : ℚ) = (digits - 1 : Nat) := by
      apply log_eq_of_bounds
      · rw [zpow_natCast]
        exact_mod_cast least
      · rw [← Nat.cast_succ, zpow_natCast, Nat.succ_eq_add_one, Nat.sub_add_cancel nonzero]
        exact_mod_cast below
    rw [logM, lastPlace]
    omega

/-- A power of ten is multiplied into the numerator or the denominator, whichever keeps both whole. -/
theorem scaled_ratio (n d : Nat) (k : ℤ) :
    ((n * tenPow k.toNat : Nat) : ℚ) / (d * tenPow (-k).toNat : Nat) = n / d * 10 ^ k := by
  simp only [tenPow_eq, Nat.cast_mul, Nat.cast_pow, Nat.cast_ofNat]
  rcases Int.le_total 0 k with nonneg | nonpos
  · rw [Int.toNat_eq_zero.mpr (by omega : -k ≤ 0), pow_zero, mul_one, ← zpow_natCast,
      Int.toNat_of_nonneg nonneg, mul_div_right_comm]
  · rw [Int.toNat_eq_zero.mpr nonpos, pow_zero, mul_one, ← zpow_natCast,
      Int.toNat_of_nonneg (by omega : 0 ≤ -k), zpow_neg, ← div_div, div_inv_eq_mul]

namespace Decimal

theorem ratioMagnitude_eq_log {n d : Nat} (nPos : 0 < n) (dPos : 0 < d) :
    ratioMagnitude n d = Int.log 10 ((n : ℚ) / d) := by
  have dCast : (0 : ℚ) < d := by exact_mod_cast dPos
  have positive : (0 : ℚ) < n / d := by positivity
  have nLower : (10 : ℚ) ^ Nat.log 10 n ≤ n := by exact_mod_cast Nat.pow_log_le_self 10 nPos.ne'
  have nUpper : (n : ℚ) < 10 ^ (Nat.log 10 n + 1) := by
    exact_mod_cast Nat.lt_pow_succ_log_self (by decide) n
  have dLower : (10 : ℚ) ^ Nat.log 10 d ≤ d := by exact_mod_cast Nat.pow_log_le_self 10 dPos.ne'
  have dUpper : (d : ℚ) < 10 ^ (Nat.log 10 d + 1) := by
    exact_mod_cast Nat.lt_pow_succ_log_self (by decide) d
  have lower : (10 : ℚ) ^ ((Nat.log 10 n : ℤ) - Nat.log 10 d - 1) ≤ n / d := by
    rw [le_div_iff₀ dCast]
    calc (10 : ℚ) ^ ((Nat.log 10 n : ℤ) - Nat.log 10 d - 1) * d
        ≤ 10 ^ ((Nat.log 10 n : ℤ) - Nat.log 10 d - 1) * 10 ^ ((Nat.log 10 d : ℤ) + 1) :=
          mul_le_mul_of_nonneg_left (by exact_mod_cast dUpper.le) (ten_zpow_pos _).le
      _ = 10 ^ Nat.log 10 n := by
          rw [← zpow_add₀ (by norm_num), ← zpow_natCast]
          congr 1
          ring
      _ ≤ n := nLower
  have upper : (n : ℚ) / d < 10 ^ ((Nat.log 10 n : ℤ) - Nat.log 10 d + 1) := by
    rw [div_lt_iff₀ dCast]
    calc (n : ℚ) < 10 ^ (Nat.log 10 n + 1) := nUpper
      _ = 10 ^ ((Nat.log 10 n : ℤ) - Nat.log 10 d + 1) * 10 ^ Nat.log 10 d := by
          rw [← zpow_natCast, ← zpow_natCast, ← zpow_add₀ (by norm_num)]
          congr 1
          push_cast
          ring
      _ ≤ 10 ^ ((Nat.log 10 n : ℤ) - Nat.log 10 d + 1) * d :=
          mul_le_mul_of_nonneg_left dLower (ten_zpow_pos _).le
  have reaches : d * tenPow ((Nat.log 10 n : ℤ) - Nat.log 10 d).toNat ≤
      n * tenPow (-((Nat.log 10 n : ℤ) - Nat.log 10 d)).toNat ↔
      (10 : ℚ) ^ ((Nat.log 10 n : ℤ) - Nat.log 10 d) ≤ n / d := by
    generalize (Nat.log 10 n : ℤ) - Nat.log 10 d = k
    have inverse := scaled_ratio d n k
    have scaledPos : (0 : ℚ) < (n * tenPow (-k).toNat : Nat) := by
      simp only [tenPow_eq]
      positivity
    rw [← Nat.cast_le (α := ℚ), ← div_le_one scaledPos, inverse, ← inv_div, inv_mul_le_one₀ positive]
  have difference : (digitCount n : ℤ) - digitCount d = (Nat.log 10 n : ℤ) - Nat.log 10 d := by
    rw [digitCount_eq_log, digitCount_eq_log]
    omega
  simp only [ratioMagnitude, difference]
  split_ifs with reached
  · exact (log_eq_of_bounds (reaches.mp reached) upper).symm
  · refine (log_eq_of_bounds lower ?_).symm
    rw [sub_add_cancel]
    exact lt_of_not_ge fun above => reached (reaches.mpr above)

end Decimal

end ZeroGuard
