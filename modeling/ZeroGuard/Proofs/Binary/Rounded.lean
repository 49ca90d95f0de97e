import ZeroGuard.Binary.Text
import ZeroGuard.Proofs.Binary.Order
import ZeroGuard.Proofs.Binary.Underflow
import ZeroGuard.Proofs.Number.Nearest

namespace ZeroGuard

theorem Format.overflowUnits_pos (f : Format) : 0 < f.overflowUnits := by
  have least : (1 : ℚ) ≤ 2 ^ (f.fractionBits + 1) := one_le_pow₀ (by norm_num)
  exact mul_pos (by linarith) (by positivity)

theorem Format.overflowUnits_le_ten_pow (f : Format) (several : 2 ≤ f.binades) :
    f.overflowUnits / 2 ^ f.scale ≤ 10 ^ (f.fractionBits + f.binades) := by
  have binades : f.fractionBits + 1 + (f.binades - 2) ≤ f.fractionBits + f.binades := by omega
  calc f.overflowUnits / 2 ^ f.scale
      ≤ f.overflowUnits := div_le_self f.overflowUnits_pos.le (one_le_pow₀ (by norm_num))
    _ ≤ 2 ^ (f.fractionBits + 1) * 2 ^ (f.binades - 2) :=
        mul_le_mul_of_nonneg_right (by linarith) (by positivity)
    _ = 2 ^ (f.fractionBits + 1 + (f.binades - 2)) := (pow_add _ _ _).symm
    _ ≤ 2 ^ (f.fractionBits + f.binades) := pow_le_pow_right₀ (by norm_num) binades
    _ ≤ 10 ^ (f.fractionBits + f.binades) := pow_le_pow_left₀ (by norm_num) (by norm_num) _

namespace Binary

variable {f g : Format} {sign : Bool} {n d coefficient : Nat} {exponent : Int} {q : ℚ} {x : Binary f}

theorem ofRatio_eq_finite {rank : Fin f.size}
    (rounds : f.nearestRank (n * twoPow f.scale) d = rank) :
    (ofRatio sign n d : Binary f) = .finite sign rank := by
  simp only [ofRatio, ofUnits, rounds, dif_pos rank.isLt]

section Digits

variable (coefficient : Nat) (exponent : Int)

/-- A decimal is below the power of ten with the number of its digits before the point, and not below
the power before that one. -/
theorem decimal_lt_ten_zpow :
    (coefficient : ℚ) * 10 ^ exponent < 10 ^ (digitCount coefficient + exponent) := by
  have power : (coefficient : ℚ) < 10 ^ digitCount coefficient := by
    rw [digitCount_eq_log]
    exact_mod_cast Nat.lt_pow_succ_log_self (by decide) coefficient
  rw [zpow_add₀ (by norm_num), zpow_natCast]
  exact mul_lt_mul_of_pos_right power (ten_zpow_pos _)

theorem ten_zpow_le_decimal (some : coefficient ≠ 0) :
    (10 : ℚ) ^ (digitCount coefficient + exponent - 1) ≤ coefficient * 10 ^ exponent := by
  have power : (10 : ℚ) ^ Nat.log 10 coefficient ≤ coefficient := by
    exact_mod_cast Nat.pow_log_le_self 10 some
  have log : (digitCount coefficient : ℤ) + exponent - 1 = Nat.log 10 coefficient + exponent := by
    rw [digitCount_eq_log]
    omega
  rw [log, zpow_add₀ (by norm_num), zpow_natCast]
  exact mul_le_mul_of_nonneg_right power (ten_zpow_pos _).le

variable {coefficient exponent}

theorem overflowUnits_le_of_digits (several : 2 ≤ f.binades) (some : coefficient ≠ 0)
    (beyond : (f.fractionBits + f.binades + 1 : ℤ) ≤ digitCount coefficient + exponent) :
    f.overflowUnits / 2 ^ f.scale ≤ coefficient * 10 ^ exponent := by
  calc f.overflowUnits / 2 ^ f.scale
      ≤ 10 ^ (f.fractionBits + f.binades) := f.overflowUnits_le_ten_pow several
    _ = 10 ^ ((f.fractionBits + f.binades : Nat) : ℤ) := (zpow_natCast _ _).symm
    _ ≤ 10 ^ (digitCount coefficient + exponent - 1) :=
        zpow_le_zpow_right₀ (by norm_num) (by omega)
    _ ≤ coefficient * 10 ^ exponent := ten_zpow_le_decimal coefficient exponent some

theorem le_half_unit_of_digits (tiny : digitCount coefficient + exponent < -(f.scale : ℤ)) :
    (coefficient : ℚ) * 10 ^ exponent ≤ 1 / 2 ^ (f.scale + 1) := by
  calc (coefficient : ℚ) * 10 ^ exponent
      ≤ 10 ^ (digitCount coefficient + exponent) := (decimal_lt_ten_zpow coefficient exponent).le
    _ ≤ 10 ^ (-(f.scale + 1 : Nat) : ℤ) := zpow_le_zpow_right₀ (by norm_num) (by omega)
    _ = 1 / 10 ^ (f.scale + 1) := by rw [zpow_neg, zpow_natCast, one_div]
    _ ≤ 1 / 2 ^ (f.scale + 1) := one_div_le_one_div_of_le (by positivity)
        (pow_le_pow_left₀ (by norm_num) (by norm_num) _)

end Digits

section Ratio

variable (positive : 0 < d)
include positive

theorem ofRatio_congr {m e : Nat} (also : 0 < e) (same : (n : ℚ) / d = m / e) :
    (ofRatio sign n d : Binary f) = ofRatio sign m e := by
  have product : n * e = m * d := by
    rw [div_eq_div_iff (by positivity) (by positivity)] at same
    exact_mod_cast same
  rw [← ofRatio_mul_left sign also n d, ← ofRatio_mul_left sign positive m e, Nat.mul_comm e n,
    product, Nat.mul_comm e d, Nat.mul_comm d m]

/-- What a format holds is not rounded. -/
theorem ofRatio_of_units {rank : Fin f.size} (same : (n : ℚ) / d = f.units rank / 2 ^ f.scale) :
    (ofRatio sign n d : Binary f) = .finite sign rank := by
  refine ofRatio_eq_finite (Format.nearestRank_eq_of_eq positive ?_)
  rw [f.units_ratio, same, div_mul_cancel₀ _ (by positivity)]

theorem ofRatio_eq_infinite (several : 2 ≤ f.binades)
    (beyond : f.overflowUnits / 2 ^ f.scale ≤ n / d) :
    (ofRatio sign n d : Binary f) = .infinite sign := by
  have reached := (ofRatio_infinite_iff several sign n positive).mpr beyond
  rw [ofRatio, ofUnits_infinite_iff] at reached
  rw [ofRatio, ofUnits, dif_neg (not_lt.mpr reached)]

theorem ofRatio_eq_zero (nonempty : 0 < f.size) (small : (n : ℚ) / d ≤ 1 / 2 ^ (f.scale + 1)) :
    (ofRatio sign n d : Binary f) = .zero sign := by
  rw [zero_eq nonempty]
  refine ofRatio_eq_finite ((f.nearestRank_eq_zero_iff _ positive).mpr ?_)
  rw [pow_succ, le_div_iff₀ (by positivity), ← mul_assoc] at small
  rwa [f.units_ratio, le_div_iff₀ two_pos]

/-- The shortcuts for exponents that are far outside the format change nothing. -/
theorem ofDecimal_eq (nonempty : 0 < f.size) (several : 2 ≤ f.binades)
    (same : (n : ℚ) / d = coefficient * 10 ^ exponent) :
    (ofDecimal sign coefficient exponent : Binary f) = ofRatio sign n d := by
  rw [ofDecimal]
  split_ifs with none beyond tiny below
  · rw [none, Nat.cast_zero, zero_mul] at same
    exact (ofRatio_eq_zero positive nonempty (same ▸ by positivity)).symm
  · refine (ofRatio_eq_infinite positive several ?_).symm
    exact same ▸ overflowUnits_le_of_digits several none (by omega)
  · refine (ofRatio_eq_zero positive nonempty ?_).symm
    exact same ▸ le_half_unit_of_digits (by omega)
  · refine ofRatio_congr (tenPow_pos _) positive ?_
    have ratio := scaled_ratio coefficient 1 exponent
    have shift : exponent.natAbs = (-exponent).toNat := by omega
    rw [Int.toNat_eq_zero.mpr below.le, tenPow_eq 0, pow_zero, Nat.mul_one, Nat.one_mul, Nat.cast_one,
      div_one] at ratio
    rw [same, shift, ratio]
  · refine ofRatio_congr one_pos positive ?_
    have ratio := scaled_ratio coefficient 1 exponent
    rw [Int.toNat_eq_zero.mpr (by omega : -exponent ≤ 0), tenPow_eq (0), pow_zero, Nat.mul_one,
      Nat.cast_one, div_one, div_one] at ratio
    rw [same, ← ratio, Nat.cast_one, div_one]

end Ratio

/-- A decimal is a ratio of natural numbers. -/
theorem exists_ratio (coefficient : Nat) (exponent : Int) :
    ∃ n d : Nat, 0 < d ∧ (n : ℚ) / d = coefficient * 10 ^ exponent := by
  have ratio := scaled_ratio coefficient 1 exponent
  rw [Nat.cast_one, div_one] at ratio
  exact ⟨_, _, Nat.mul_pos one_pos (tenPow_pos _), ratio⟩

theorem ofDecimal_congr (nonempty : 0 < f.size) (several : 2 ≤ f.binades) {c : Nat} {e : Int}
    (same : (c : ℚ) * 10 ^ e = coefficient * 10 ^ exponent) :
    (ofDecimal sign c e : Binary f) = ofDecimal sign coefficient exponent := by
  obtain ⟨n, d, positive, ratio⟩ := exists_ratio c e
  rw [ofDecimal_eq positive nonempty several ratio,
    ofDecimal_eq positive nonempty several (ratio.trans same)]

/-- The number to which a rational is rounded. Its sign is kept; a zero may have either. -/
def Rounded (q : ℚ) (x : Binary f) : Prop :=
  ∃ (sign : Bool) (n d : Nat), 0 < d ∧ (if sign then -1 else 1) * ((n : ℚ) / d) = q ∧
    x = ofRatio sign n d

theorem abs_signed (sign : Bool) (magnitude : ℚ) :
    |(if sign then -1 else 1) * magnitude| = |magnitude| := by
  cases sign <;> simp

theorem Rounded.isZero_iff (rounded : Rounded q x) (nonempty : 0 < f.size) :
    x.isZero = true ↔ |q| ≤ 1 / 2 ^ (f.scale + 1) := by
  obtain ⟨sign, n, d, positive, rfl, rfl⟩ := rounded
  rw [ofRatio_isZero_iff nonempty sign n positive, abs_signed, abs_of_nonneg (by positivity)]

theorem Rounded.nearest (rounded : Rounded q x) (several : 0 < f.fractionBits)
    (finite : x.isFinite = true) : x.Nearest q := by
  obtain ⟨sign, n, d, positive, rfl, rfl⟩ := rounded
  exact ofRatio_nearest several sign n positive finite

theorem Rounded.infinite_iff (rounded : Rounded q x) (several : 2 ≤ f.binades) :
    x = .infinite (q < 0) ↔ f.overflowUnits / 2 ^ f.scale ≤ |q| := by
  obtain ⟨sign, n, d, positive, rfl, rfl⟩ := rounded
  rw [abs_signed, abs_of_nonneg (by positivity)]
  constructor
  · intro infinite
    exact (ofRatio_infinite_iff several sign n positive).mp ⟨_, infinite⟩
  · intro beyond
    have some : 0 < (n : ℚ) / d :=
      (div_pos f.overflowUnits_pos (by positivity)).trans_le beyond
    rw [ofRatio_eq_infinite positive several beyond]
    cases sign <;> simp [some, some.le]

/-- A rational within the range of the finite numbers is rounded to one of them. -/
theorem Rounded.isFinite (rounded : Rounded q x) (several : 2 ≤ f.binades)
    (within : |q| < f.overflowUnits / 2 ^ f.scale) : x.isFinite = true := by
  obtain ⟨sign, n, d, positive, rfl, rfl⟩ := rounded
  rw [abs_signed, abs_of_nonneg (by positivity)] at within
  exact ofRatio_isFinite several sign n positive within

theorem rounded_ofInt (n : ℤ) : Rounded n (ofInt n : Binary f) := by
  refine ⟨n < 0, n.natAbs, 1, one_pos, ?_, rfl⟩
  have ratio := signed_ratio n 1
  simpa using ratio

theorem rounded_ofDecimal (nonempty : 0 < f.size) (several : 2 ≤ f.binades) (negative : Bool)
    (coefficient : Nat) (exponent : Int) :
    Rounded (Decimal.finite negative coefficient exponent).value
      (ofDecimal negative coefficient exponent : Binary f) := by
  obtain ⟨n, d, positive, ratio⟩ := exists_ratio coefficient exponent
  refine ⟨negative, n, d, positive, ?_, ofDecimal_eq positive nonempty several ratio⟩
  rw [ratio, Decimal.value, mul_assoc]

theorem rounded_convert (finite : x.isFinite = true) : Rounded x.value (x.convert : Binary g) := by
  cases x with
  | nan => cases finite
  | infinite => cases finite
  | finite negative rank =>
    refine ⟨negative, f.units rank, twoPow f.scale, twoPow_pos _, ?_, rfl⟩
    rw [value, twoPow_eq, Nat.cast_pow, Nat.cast_ofNat, mul_div_assoc]

/-- A finite number is the rounding of its own value. -/
theorem rounded_value (finite : x.isFinite = true) : Rounded x.value x := by
  cases x with
  | nan => cases finite
  | infinite => cases finite
  | finite negative rank =>
    have ratio : (f.units rank : ℚ) / (twoPow f.scale : Nat) = f.units rank / 2 ^ f.scale := by
      rw [twoPow_eq, Nat.cast_pow, Nat.cast_ofNat]
    refine ⟨negative, f.units rank, twoPow f.scale, twoPow_pos _, ?_,
      (ofRatio_of_units (twoPow_pos _) ratio).symm⟩
    rw [ratio, value, mul_div_assoc]

/-- The double nearest to a rational. Half a step behind the last double the infinities begin. -/
structure IsNearest (q : ℚ) (x : Double) : Prop where
  nearest : |q| < 2 ^ 1024 - 2 ^ 970 → x.Nearest q
  infinite : 2 ^ 1024 - 2 ^ 970 ≤ |q| → x = .infinite (q < 0)

theorem Rounded.isNearest {q : ℚ} {x : Double} (rounded : Rounded q x) : IsNearest q x := by
  refine ⟨fun within => ?_, fun beyond => ?_⟩
  · rw [← Format.double_overflow] at within
    exact rounded.nearest (by decide) (rounded.isFinite (by decide) within)
  · rw [← Format.double_overflow] at beyond
    exact (rounded.infinite_iff (by decide)).mpr beyond

end Binary

end ZeroGuard
