import Mathlib.Algebra.Order.Floor.Semifield
import Mathlib.Data.Nat.Cast.Field
import ZeroGuard.Proofs.Decimal.Magnitude

namespace ZeroGuard.Decimal

/-- The exact value of a finite decimal. -/
def value : Decimal → ℚ
  | finite negative coefficient exponent =>
    (if negative then -1 else 1) * coefficient * 10 ^ exponent
  | _ => 0

theorem abs_value_div (x y : Bool) (n d : Nat) (i j : ℤ) :
    |(finite x n i).value / (finite y d j).value| = (n : ℚ) / d * 10 ^ (i - j) := by
  have magnitude : ∀ (negative : Bool) (coefficient : Nat) (exponent : ℤ),
      |(finite negative coefficient exponent).value| = coefficient * 10 ^ exponent := by
    intro negative coefficient exponent
    rw [value, abs_mul, abs_mul, abs_of_pos (ten_zpow_pos exponent)]
    cases negative <;> simp
  rw [abs_div, magnitude, magnitude, zpow_sub₀ (by norm_num), mul_div_mul_comm]

/-- The ratio `n / d * 10 ^ shift` rounded to an integer. -/
def significand (n d : Nat) (shift : ℤ) : Nat :=
  roundDiv (n * tenPow shift.toNat) (d * tenPow (-shift).toNat)

theorem significand_nearestEven (n : Nat) {d : Nat} (positive : 0 < d) (ideal place : ℤ) :
    NearestEven ((n : ℚ) / d * 10 ^ ideal / 10 ^ place) (significand n d (ideal - place)) := by
  have scaledPos : 0 < d * tenPow (-(ideal - place)).toNat := Nat.mul_pos positive (tenPow_pos _)
  have nearest := roundDiv_nearestEven (n * tenPow (ideal - place).toNat) scaledPos
  rwa [scaled_ratio, zpow_sub₀ (by norm_num), ← mul_div_assoc] at nearest

/-- Whether rounding exceeds an exponent can be told from the one rounded significand. -/
theorem exists_roundsToDigits_iff {n d : Nat} (nPos : 0 < n) (dPos : 0 < d) {ideal bound : ℤ}
    {x : ℚ} (ratio : x = n / d * 10 ^ ideal) :
    (∃ y, RoundsToDigits precision x y ∧ bound < Int.log 10 y) ↔
      bound < Int.log 10 x ∨ (bound < Int.log 10 x + 1 ∧
        significand n d (ideal - lastPlace precision x) = tenPow precision) := by
  have positive : 0 < x := ratio ▸ mul_pos (by positivity) (ten_zpow_pos ideal)
  have nearest := significand_nearestEven n dPos ideal (lastPlace precision x)
  rw [← ratio] at nearest
  have rounded : (∃ y, RoundsToDigits precision x y ∧ bound < Int.log 10 y) ↔
      bound < Int.log 10 ((significand n d (ideal - lastPlace precision x) : ℤ) *
        10 ^ lastPlace precision x : ℚ) := by
    constructor
    · rintro ⟨_, ⟨k, near, rfl⟩, large⟩
      rwa [near.unique nearest] at large
    · intro large
      exact ⟨_, ⟨_, nearest, rfl⟩, large⟩
  rw [rounded, log_rounded positive (by decide) nearest]
  split_ifs with carry
  · have whole : significand n d (ideal - lastPlace precision x) = tenPow precision := by
      exact_mod_cast carry
    simp only [whole, and_true]
    omega
  · have partly : significand n d (ideal - lastPlace precision x) ≠ tenPow precision := by
      exact_mod_cast carry
    simp only [partly, and_false, or_false]

theorem significand_of_exact {n d : Nat} (positive : 0 < d) {shift : ℤ}
    (exact : n * tenPow shift.toNat % (d * tenPow (-shift).toNat) = 0) :
    (significand n d shift : ℚ) = n / d * 10 ^ shift := by
  have scaledPos : 0 < d * tenPow (-shift).toNat := Nat.mul_pos positive (tenPow_pos _)
  have rounded : significand n d shift = n * tenPow shift.toNat / (d * tenPow (-shift).toNat) :=
    roundDiv_of_dvd scaledPos (Nat.dvd_of_mod_eq_zero exact)
  have nonzero : ((d * tenPow (-shift).toNat : Nat) : ℚ) ≠ 0 := by exact_mod_cast scaledPos.ne'
  rw [rounded, Nat.cast_div (Nat.dvd_of_mod_eq_zero exact) nonzero, scaled_ratio]

theorem significand_lt_of_exact {n d : Nat} (nPos : 0 < n) (dPos : 0 < d) {ideal : ℤ} {x : ℚ}
    (ratio : x = n / d * 10 ^ ideal)
    (exact : n * tenPow (ideal - lastPlace precision x).toNat %
      (d * tenPow (-(ideal - lastPlace precision x)).toNat) = 0) :
    significand n d (ideal - lastPlace precision x) < tenPow precision := by
  have positive : 0 < x := ratio ▸ mul_pos (by positivity) (ten_zpow_pos ideal)
  have scaled := significand_of_exact dPos exact
  have below := (lastPlace_bounds positive (by decide : 0 < precision)).2
  rw [zpow_sub₀ (by norm_num), ← mul_div_assoc, ← ratio] at scaled
  rw [← scaled] at below
  exact_mod_cast below

/-- Only from the greatest magnitude does a carry lead out of the range of exponents, and there the
quotient is rounded to its full number of digits. -/
theorem roundQuotient_error_iff (negative : Bool) {n d : Nat} (nPos : 0 < n) (dPos : 0 < d)
    {ideal : ℤ} {x : ℚ} (ratio : x = n / d * 10 ^ ideal) (fault : Fault) :
    roundQuotient negative n d ideal = .error fault ↔ fault = .signal .overflow ∧
      ∃ y, RoundsToDigits precision x y ∧ quotientMax < Int.log 10 y := by
  have magnitude : ratioMagnitude n d + ideal = Int.log 10 x := by
    rw [ratio, log_mul_ten_zpow (by positivity), ratioMagnitude_eq_log nPos dPos]
  have place : quotientMax < ratioMagnitude n d + ideal + 1 →
      max quotientMin (ratioMagnitude n d + ideal - (precision - 1)) = lastPlace precision x := by
    intro large
    rw [lastPlace, ← magnitude]
    simp only [quotientMax, quotientMin, precision] at large ⊢
    omega
  rw [exists_roundsToDigits_iff nPos dPos ratio, ← magnitude]
  simp only [roundQuotient]
  split_ifs with beyond tiny exact carry above
  · simp only [Except.error.injEq, beyond, true_or, and_true]
    exact eq_comm
  · have small : ¬ quotientMax < ratioMagnitude n d + ideal + 1 := by
      simp only [quotientMax, quotientMin, precision] at tiny ⊢
      omega
    simp only [beyond, small, false_and, or_self, and_false]
  · refine iff_of_false (by simp) ?_
    rintro ⟨-, above | ⟨above, carry⟩⟩
    · exact beyond above
    · rw [place above] at exact
      exact (significand_lt_of_exact nPos dPos ratio exact).ne carry
  · rw [place above] at carry
    simp only [Except.error.injEq, above, significand, carry, and_self, or_true, and_true]
    exact eq_comm
  · simp only [beyond, above, false_and, or_self, and_false]
  · refine iff_of_false (by simp) ?_
    rintro ⟨-, above | ⟨above, whole⟩⟩
    · exact beyond above
    · rw [place above] at carry
      exact carry whole

/-- A truncated quotient is the integer part of the ratio, if that needs no more than 28 digits. -/
theorem truncQuotient_eq (negative : Bool) (n : Nat) {d : Nat} (dPos : 0 < d) {ideal : ℤ} {x : ℚ}
    (ratio : x = n / d * 10 ^ ideal) :
    truncQuotient negative n d ideal =
      if 10 ^ precision ≤ ⌊x⌋ then .error (.signal .impossible) else .ok (finite negative ⌊x⌋₊ 0) := by
  rcases Nat.eq_zero_or_pos n with rfl | nPos
  · have zero : x = 0 := by rw [ratio]; simp
    rw [truncQuotient, if_pos rfl, zero, Int.floor_zero, Nat.floor_zero, if_neg (by decide)]
  have positive : 0 < x := ratio ▸ mul_pos (by positivity) (ten_zpow_pos ideal)
  have magnitude : ratioMagnitude n d + ideal = Int.log 10 x := by
    rw [ratio, log_mul_ten_zpow (by positivity), ratioMagnitude_eq_log nPos dPos]
  have long : (10 : ℤ) ^ precision ≤ ⌊x⌋ ↔ (precision : ℤ) ≤ ratioMagnitude n d + ideal := by
    rw [magnitude, ← ten_zpow_le_iff positive, Int.le_floor]
    norm_cast
  have whole : n * tenPow ideal.toNat / (d * tenPow (-ideal).toNat) = ⌊x⌋₊ := by
    rw [ratio, ← scaled_ratio, Nat.floor_div_eq_div]
  simp only [truncQuotient, if_neg nPos.ne', long, whole]
  by_cases below : ratioMagnitude n d + ideal < 0
  · have fraction : x < 1 := by
      rwa [magnitude, ← lt_ten_zpow_iff positive, zpow_zero] at below
    have short : ¬ (precision : ℤ) ≤ ratioMagnitude n d + ideal := by omega
    rw [if_pos below, if_neg short, Nat.floor_eq_zero.mpr fraction]
  · rw [if_neg below]

theorem truncQuotient_error_iff (negative : Bool) {n d : Nat} (dPos : 0 < d)
    {ideal : ℤ} {x : ℚ} (ratio : x = n / d * 10 ^ ideal) (fault : Fault) :
    truncQuotient negative n d ideal = .error fault ↔
      fault = .signal .impossible ∧ 10 ^ precision ≤ ⌊x⌋ := by
  rw [truncQuotient_eq negative n dPos ratio]
  split_ifs with long
  · simp only [Except.error.injEq, long, and_true]
    exact eq_comm
  · simp only [long, and_false]

/-- The divisions of decimals that fail although the divisor is not zero: with a signaling NaN, of
one infinity by another, with a quotient whose 28 digits have too great an exponent, and with an
integer quotient of more than 28 digits. -/
inductive Fails : Operator → Decimal → Decimal → Prop
  | signaling {op : Operator} {a b : Decimal} : a.isSignaling ∨ b.isSignaling → Fails op a b
  | infinities {op : Operator} {x y : Bool} : Fails op (infinite x) (infinite y)
  | overflow {x y : Bool} {n d : Nat} {i j : ℤ} {rounded : ℚ} : n ≠ 0 →
      RoundsToDigits 28 |(finite x n i).value / (finite y d j).value| rounded →
      999999 < Int.log 10 rounded → Fails .quotient (finite x n i) (finite y d j)
  | impossible {x y : Bool} {n d : Nat} {i j : ℤ} :
      10 ^ 28 ≤ ⌊|(finite x n i).value / (finite y d j).value|⌋ →
      Fails .floor (finite x n i) (finite y d j)

theorem isSignaling_eq {a : Decimal} (signaling : a.isSignaling = true) :
    ∃ negative payload, a = nan negative true payload := by
  cases a with
  | nan negative loud payload =>
    cases signaling
    exact ⟨negative, payload, rfl⟩
  | _ => cases signaling

theorem nanResult?_signaling {a b : Decimal} (signaling : a.isSignaling ∨ b.isSignaling) :
    nanResult? a b = some (.error (.signal .invalid)) := by
  rcases signaling with first | second
  · obtain ⟨_, _, rfl⟩ := isSignaling_eq first
    rfl
  · obtain ⟨_, _, rfl⟩ := isSignaling_eq second
    rcases a with _ | _ | ⟨_, _ | _, _⟩ <;> rfl

/-- Division by either operator. -/
def divide : Operator → Decimal → Decimal → Except Fault Decimal
  | .quotient => div
  | .floor => truncDiv

theorem divide_finite_error_iff (op : Operator) (x y : Bool) (n : Nat) {d : Nat} (i j : ℤ)
    (nonzero : d ≠ 0) :
    (∃ fault, divide op (finite x n i) (finite y d j) = .error fault) ↔
      Fails op (finite x n i) (finite y d j) := by
  have dPos : 0 < d := Nat.pos_of_ne_zero nonzero
  have ratio := abs_value_div x y n d i j
  cases op with
  | quotient =>
    rcases Nat.eq_zero_or_pos n with rfl | nPos
    · refine iff_of_false (by simp [divide, div, nanResult?, nonzero]) ?_
      rintro (signaling | _ | ⟨some, _, _⟩)
      · simp [isSignaling] at signaling
      · exact some rfl
    · have run : divide .quotient (finite x n i) (finite y d j) =
          roundQuotient (x != y) n d (i - j) := by
        simp [divide, div, nanResult?, nonzero, nPos.ne']
      simp only [run, roundQuotient_error_iff _ nPos dPos ratio, exists_eq_left]
      constructor
      · rintro ⟨rounded, rounds, large⟩
        exact .overflow nPos.ne' rounds large
      · rintro (signaling | _ | ⟨_, rounds, large⟩)
        · simp [isSignaling] at signaling
        · exact ⟨_, rounds, large⟩
  | floor =>
    have run : divide .floor (finite x n i) (finite y d j) = truncQuotient (x != y) n d (i - j) := by
      simp [divide, truncDiv, nanResult?, nonzero]
    simp only [run, truncQuotient_error_iff _ dPos ratio, exists_eq_left]
    constructor
    · exact .impossible
    · rintro (signaling | _ | _ | long)
      · simp [isSignaling] at signaling
      · exact long

theorem divide_error_iff (op : Operator) {a b : Decimal} (nonzero : b.isZero = false) :
    (∃ fault, divide op a b = .error fault) ↔ Fails op a b := by
  by_cases loud : a.isSignaling ∨ b.isSignaling
  · refine iff_of_true ⟨.signal .invalid, ?_⟩ (.signaling loud)
    cases op <;> simp only [divide, div, truncDiv, nanResult?_signaling loud]
  cases a <;> cases b
  case finite.finite x n i y d j =>
    exact divide_finite_error_iff op x y n i j (by simpa [isZero] using nonzero)
  case infinite.infinite => exact iff_of_true ⟨_, by cases op <;> rfl⟩ .infinities
  case finite.infinite | infinite.finite =>
    refine iff_of_false (by cases op <;> simp [divide, div, truncDiv, nanResult?]) ?_
    rintro (signaling | _)
    exact loud signaling
  case finite.nan | infinite.nan | nan.finite | nan.infinite | nan.nan =>
    refine iff_of_false ?_ ?_
    · simp only [isSignaling, Bool.false_eq_true, false_or, or_false, not_or,
        Bool.not_eq_true] at loud
      cases op <;> simp [divide, div, truncDiv, nanResult?, loud]
    · rintro (signaling | _)
      exact loud signaling

theorem nanResult?_error {a b : Decimal} {fault : Fault}
    (failed : nanResult? a b = some (.error fault)) : fault = .signal .invalid := by
  unfold nanResult? at failed
  split at failed <;> cases failed <;> rfl

theorem roundQuotient_error {negative : Bool} {n d : Nat} {ideal : ℤ} {fault : Fault}
    (failed : roundQuotient negative n d ideal = .error fault) : fault = .signal .overflow := by
  simp only [roundQuotient] at failed
  split_ifs at failed
  · exact (Except.error.inj failed).symm
  · exact (Except.error.inj failed).symm

theorem truncQuotient_error {negative : Bool} {n d : Nat} {ideal : ℤ} {fault : Fault}
    (failed : truncQuotient negative n d ideal = .error fault) : fault = .signal .impossible := by
  simp only [truncQuotient] at failed
  split_ifs at failed
  exact (Except.error.inj failed).symm

/-- The causes of a fault in a division of decimals. -/
inductive Signals (b : Decimal) : DecimalSignal → Prop
  | invalid : Signals b .invalid
  | zeroDivisor : b.isZero = true → Signals b .zeroDivisor
  | undefined : b.isZero = true → Signals b .undefined
  | overflow : Signals b .overflow
  | impossible : Signals b .impossible

theorem zeroDivisorSignal_signals (n : Nat) {b : Decimal} (zero : b.isZero = true) :
    ∃ cause, zeroDivisorSignal n = .signal cause ∧ Signals b cause := by
  unfold zeroDivisorSignal
  split_ifs
  · exact ⟨_, rfl, .undefined zero⟩
  · exact ⟨_, rfl, .zeroDivisor zero⟩

/-- Every fault of a division of decimals is a decimal signal, and only a zero divisor gives one of
those for a zero divisor. -/
theorem divide_error_signal {op : Operator} {a b : Decimal} {fault : Fault}
    (failed : divide op a b = .error fault) :
    ∃ cause, fault = .signal cause ∧ Signals b cause := by
  cases result : nanResult? a b with
  | some outcome =>
    have run : divide op a b = outcome := by cases op <;> simp only [divide, div, truncDiv, result]
    rw [← run, failed] at result
    exact ⟨_, nanResult?_error result, .invalid⟩
  | none =>
    cases op with
    | quotient =>
      simp only [divide, div, result] at failed
      split at failed
      case h_2 | h_3 => cases failed
      case h_4 =>
        split_ifs at failed with zero
        · exact Except.error.inj failed ▸ zeroDivisorSignal_signals _ (beq_iff_eq.mpr zero)
        · exact ⟨_, roundQuotient_error failed, .overflow⟩
      all_goals exact ⟨_, (Except.error.inj failed).symm, .invalid⟩
    | floor =>
      simp only [divide, truncDiv, result] at failed
      split at failed
      case h_2 | h_3 => cases failed
      case h_4 =>
        split_ifs at failed with zero
        · exact Except.error.inj failed ▸ zeroDivisorSignal_signals _ (beq_iff_eq.mpr zero)
        · exact ⟨_, truncQuotient_error failed, .impossible⟩
      all_goals exact ⟨_, (Except.error.inj failed).symm, .invalid⟩

end ZeroGuard.Decimal
