import Mathlib.Algebra.Ring.Parity
import ZeroGuard.Proofs.Decimal.Range

namespace ZeroGuard

/-- A number that can be written with so many significant digits. -/
def HasDigits (digits : Nat) (x : ℚ) : Prop :=
  ∃ m k : ℤ, |m| < 10 ^ digits ∧ x = m * 10 ^ k

/-- A number rounded to so many digits: exact if possible, else written with all of the digits, and
in any case the nearest of the numbers that can be written so, with an even last digit in a tie. -/
structure CorrectlyRounded (digits : Nat) (x : ℚ) (coefficient : Nat) (rounded : ℚ) : Prop where
  exact : HasDigits digits x → rounded = x
  full : ¬ HasDigits digits x → 10 ^ (digits - 1) ≤ coefficient ∧ coefficient < 10 ^ digits
  nearest : ∀ other, HasDigits digits other → |x - rounded| ≤ |x - other|
  even : ∀ other, HasDigits digits other → other ≠ rounded → |x - other| = |x - rounded| →
    Even coefficient

variable {digits : Nat} {x y : ℚ} {coefficient : Nat} {rounded : ℚ}

theorem hasDigits_of_lt (few : coefficient < 10 ^ digits) (exponent : ℤ) :
    HasDigits digits (coefficient * 10 ^ exponent) := by
  refine ⟨coefficient, exponent, ?_, by rw [Int.cast_natCast]⟩
  rw [Nat.abs_cast]
  exact_mod_cast few

theorem HasDigits.neg (written : HasDigits digits x) : HasDigits digits (-x) := by
  obtain ⟨m, k, few, rfl⟩ := written
  refine ⟨-m, k, by rwa [abs_neg], ?_⟩
  push_cast
  ring

theorem CorrectlyRounded.neg (correct : CorrectlyRounded digits x coefficient rounded) :
    CorrectlyRounded digits (-x) coefficient (-rounded) := by
  have back : HasDigits digits (-x) → HasDigits digits x := fun written => neg_neg x ▸ written.neg
  have distance : ∀ y, |-x - y| = |x - -y| := by
    intro y
    rw [← abs_neg]
    congr 1
    ring
  refine ⟨?_, ?_, ?_, ?_⟩
  · intro written
    rw [correct.exact (back written)]
  · intro long
    exact correct.full (fun written => long written.neg)
  · intro other written
    rw [distance, distance, neg_neg]
    exact correct.nearest _ written.neg
  · intro other written different tie
    rw [distance, distance, neg_neg] at tie
    refine correct.even _ written.neg (fun same => different ?_) tie
    rw [← same, neg_neg]

theorem correctlyRounded_zero (digits : Nat) : CorrectlyRounded digits 0 0 0 := by
  have written : HasDigits digits 0 := ⟨0, 0, by simp, by simp⟩
  refine ⟨fun _ => rfl, fun long => absurd written long, ?_, fun _ _ _ _ => Even.zero⟩
  intro other _
  simp

/-- A number with so many digits is a multiple of a place, or it is too small to reach beyond that
place with all of its digits. -/
theorem HasDigits.grid (written : HasDigits digits x) (nonzero : 0 < digits) (place : ℤ) :
    (∃ z : ℤ, x / 10 ^ place = z) ∨ x / 10 ^ place < ((10 ^ (digits - 1) : ℤ) : ℚ) := by
  obtain ⟨m, k, few, rfl⟩ := written
  have shifted : (m : ℚ) * 10 ^ k / 10 ^ place = m * 10 ^ (k - place) := by
    rw [zpow_sub₀ (by norm_num), mul_div_assoc]
  rw [shifted]
  -- A coarser number is a multiple of the place; a finer one has too few digits to reach the bound.
  by_cases coarse : place ≤ k
  · left
    obtain ⟨shift, same⟩ := Int.eq_ofNat_of_zero_le (sub_nonneg.mpr coarse)
    refine ⟨m * 10 ^ shift, ?_⟩
    rw [same]
    push_cast
    rw [zpow_natCast]
  · right
    have below : (m : ℚ) < 10 ^ digits := by
      exact_mod_cast (le_abs_self m).trans_lt few
    have small : (10 : ℚ) ^ (k - place) ≤ 10 ^ (-1 : ℤ) :=
      zpow_le_zpow_right₀ (by norm_num) (by omega)
    have split : (10 : ℚ) ^ digits * 10 ^ (-1 : ℤ) = 10 ^ (digits - 1) := by
      rw [← zpow_natCast, ← zpow_natCast, ← zpow_add₀ (by norm_num)]
      congr 1
      omega
    push_cast
    calc (m : ℚ) * 10 ^ (k - place) < 10 ^ digits * 10 ^ (k - place) :=
          mul_lt_mul_of_pos_right below (ten_zpow_pos _)
      _ ≤ 10 ^ digits * 10 ^ (-1 : ℤ) := mul_le_mul_of_nonneg_left small (by positivity)
      _ = 10 ^ (digits - 1) := split

theorem HasDigits.stepped (written : HasDigits digits y) (nonzero : 0 < digits) (positive : 0 < x) :
    Stepped (10 ^ lastPlace digits x) x y :=
  (written.grid nonzero _).imp_right fun small => ⟨_, (lastPlace_bounds positive nonzero).1, small⟩

theorem rounded_exact (nonzero : 0 < digits) (positive : 0 < x) {m : ℤ}
    (nearest : NearestEven (x / 10 ^ lastPlace digits x) m) (written : HasDigits digits x) :
    m * 10 ^ lastPlace digits x = x := by
  have none := nearest.le_distance_step (ten_zpow_pos _) (written.stepped nonzero positive)
  rw [sub_self, abs_zero, abs_nonpos_iff, sub_eq_zero] at none
  exact none.symm

/-- The forms that a rounded number takes: that of the number itself, that of the integer it was
rounded to, and, where all digits have carried, that of the next power of ten. -/
inductive RoundedForm (digits : Nat) (x : ℚ) (m place : ℤ) : Nat → ℤ → Prop
  | exact {coefficient : Nat} {exponent : ℤ} : coefficient < 10 ^ digits →
      (coefficient : ℚ) * 10 ^ exponent = x → RoundedForm digits x m place coefficient exponent
  | rounded {coefficient : Nat} : m = coefficient → coefficient < 10 ^ digits →
      RoundedForm digits x m place coefficient place
  | carried : m = 10 ^ digits → RoundedForm digits x m place (10 ^ (digits - 1)) (place + 1)

variable {m place exponent : ℤ}

theorem RoundedForm.value (nonzero : 0 < digits)
    (form : RoundedForm digits x m place coefficient exponent)
    (exact : HasDigits digits x → m * 10 ^ place = x) :
    (coefficient : ℚ) * 10 ^ exponent = m * 10 ^ place := by
  cases form with
  | exact few same => rw [same, exact (same ▸ hasDigits_of_lt few exponent)]
  | rounded same _ => rw [same, Int.cast_natCast]
  | carried carry =>
    have next : (10 : ℚ) ^ digits = 10 ^ (digits - 1) * 10 := by
      rw [← pow_succ, Nat.sub_add_cancel nonzero]
    rw [carry, zpow_add_one₀ (by norm_num)]
    push_cast
    rw [next]
    ring

/-- Each form shows the number that is nearest, with an even last digit in a tie. -/
theorem RoundedForm.correctlyRounded (several : 1 < digits) (positive : 0 < x)
    (nearest : NearestEven (x / 10 ^ lastPlace digits x) m)
    (form : RoundedForm digits x m (lastPlace digits x) coefficient exponent) :
    CorrectlyRounded digits x coefficient (coefficient * 10 ^ exponent) := by
  have nonzero : 0 < digits := by omega
  have least := nearest.le_of_le (lastPlace_bounds positive nonzero).1
  have exact := rounded_exact nonzero positive nearest
  have value := form.value nonzero exact
  rw [value]
  have step := ten_zpow_pos (lastPlace digits x)
  refine ⟨exact, ?_, ?_, ?_⟩
  · intro long
    cases form with
    | exact few same => exact absurd (same ▸ hasDigits_of_lt few exponent) long
    | rounded same few =>
      rw [same] at least
      exact ⟨by exact_mod_cast least, few⟩
    | carried carry => exact ⟨le_rfl, Nat.pow_lt_pow_right (by decide) (by omega)⟩
  · intro other written
    exact nearest.le_distance_step step (written.stepped nonzero positive)
  · intro other written different tie
    have stepped := written.stepped nonzero positive
    have even := nearest.even_of_tie_step step stepped different tie
    cases form with
    | exact few same =>
      rw [← value, same, sub_self, abs_zero, abs_eq_zero, sub_eq_zero] at tie
      exact absurd (tie.symm.trans (same.symm.trans value)) different
    | rounded same few =>
      rw [same] at even
      exact_mod_cast even
    | carried carry => exact Nat.even_pow.mpr ⟨by decide, by omega⟩

namespace Decimal

variable {negative : Bool} {n d : Nat} {ideal : ℤ} {r : ℚ}

/-- Taking zeros off an exact quotient leaves its value. -/
theorem stripped_form (dPos : 0 < d) (ratio : x = n / d * 10 ^ ideal) {place m : ℤ}
    (exact : n * tenPow (ideal - place).toNat % (d * tenPow (-(ideal - place)).toNat) = 0)
    (few : significand n d (ideal - place) < 10 ^ digits) (limit : Nat) (lastPlace : ℤ) :
    RoundedForm digits x m lastPlace (stripZeros limit (significand n d (ideal - place))).1
      (place + (stripZeros limit (significand n d (ideal - place))).2) := by
  have scaled := significand_of_exact dPos exact
  have split := stripZeros_spec limit (significand n d (ideal - place))
  generalize stripZeros limit (significand n d (ideal - place)) = stripped at split
  have less : stripped.1 ≤ significand n d (ideal - place) := by
    rw [← split]
    exact Nat.le_mul_of_pos_right _ (by positivity)
  refine .exact (less.trans_lt few) ?_
  have cast : (stripped.1 : ℚ) * 10 ^ stripped.2 = significand n d (ideal - place) := by
    exact_mod_cast split
  rw [zpow_add₀ (by norm_num), zpow_natCast, mul_comm (10 ^ place), ← mul_assoc, cast, scaled, ratio,
    mul_assoc, ← zpow_add₀ (by norm_num), sub_add_cancel]

/-- One place higher a significand whose digits have all carried is the power of ten itself. -/
theorem significand_carried (dPos : 0 < d) (ratio : x = n / d * 10 ^ ideal) {place : ℤ}
    (nonzero : 0 < digits) (nearest : NearestEven (x / 10 ^ place) (10 ^ digits)) :
    significand n d (ideal - (place + 1)) = 10 ^ (digits - 1) := by
  have next : (10 : ℚ) ^ digits = 10 ^ (digits - 1) * 10 := by
    rw [← pow_succ, Nat.sub_add_cancel nonzero]
  have tenth : |x / 10 ^ (place + 1) - ((10 ^ (digits - 1) : ℤ) : ℚ)| * 10 =
      |x / 10 ^ place - ((10 ^ digits : ℤ) : ℚ)| := by
    have ten : |(10 : ℚ)| = 10 := abs_of_pos (by norm_num)
    have scaled : x / 10 ^ (place + 1) * 10 = x / 10 ^ place := by
      rw [zpow_add_one₀ (by norm_num), ← div_div, div_mul_cancel₀ _ (by norm_num)]
    calc _ = |(x / 10 ^ (place + 1) - ((10 ^ (digits - 1) : ℤ) : ℚ)) * 10| := by rw [abs_mul, ten]
      _ = |x / 10 ^ place - ((10 ^ digits : ℤ) : ℚ)| := by
        push_cast
        rw [sub_mul, scaled, next]
  have near := nearest.near
  have upper : NearestEven (x / 10 ^ (place + 1)) (10 ^ (digits - 1)) := by
    refine ⟨by linarith, fun half => ?_⟩
    linarith
  have found := significand_nearestEven n dPos ideal (place + 1)
  rw [← ratio] at found
  exact_mod_cast found.unique upper

section RoundQuotient

variable (negative : Bool) (nPos : 0 < n) (dPos : 0 < d) (ratio : x = n / d * 10 ^ ideal) {m : ℤ}
  (nearest : NearestEven (x / 10 ^ lastPlace precision x) m)
include nPos dPos ratio nearest

/-- Within the range of exponents a quotient is rounded at its own last place. -/
theorem roundQuotient_form_of_normal (normal : -quotientMax ≤ Int.log 10 x)
    (most : Int.log 10 (m * 10 ^ lastPlace precision x : ℚ) ≤ quotientMax) :
    ∃ coefficient exponent,
      roundQuotient negative n d ideal = .ok (finite negative coefficient exponent) ∧
        RoundedForm precision x m (lastPlace precision x) coefficient exponent := by
  have positive : 0 < x := ratio ▸ mul_pos (by positivity) (ten_zpow_pos ideal)
  have magnitude : ratioMagnitude n d + ideal = Int.log 10 x := by
    rw [ratio, log_mul_ten_zpow (by positivity), ratioMagnitude_eq_log nPos dPos]
  have found := significand_nearestEven n dPos ideal (lastPlace precision x)
  rw [← ratio] at found
  have same : m = significand n d (ideal - lastPlace precision x) := nearest.unique found
  have place : max quotientMin (Int.log 10 x - (precision - 1)) = lastPlace precision x := by
    rw [lastPlace]
    simp only [quotientMax, quotientMin, precision] at normal ⊢
    omega
  have bound := nearest.le_of_lt (lastPlace_bounds positive (by decide : 0 < precision)).2
  rw [log_rounded positive (by decide) nearest] at most
  simp only [roundQuotient, magnitude, place]
  split_ifs with beyond tiny exact carry above
  · split_ifs at most <;> omega
  · simp only [quotientMax, quotientMin, precision] at normal tiny
    omega
  · exact ⟨_, _, rfl, stripped_form dPos ratio exact
      (significand_lt_of_exact nPos dPos ratio exact) _ _⟩
  · have whole : m = 10 ^ precision := by exact_mod_cast same.trans (congrArg _ carry)
    rw [if_pos whole] at most
    omega
  · have whole : m = 10 ^ precision := by exact_mod_cast same.trans (congrArg _ carry)
    exact ⟨_, _, rfl, .carried whole⟩
  · rw [same] at bound
    have short : significand n d (ideal - lastPlace precision x) ≤ 10 ^ precision := by
      exact_mod_cast bound
    exact ⟨_, _, rfl, .rounded same (lt_of_le_of_ne short carry)⟩

/-- Just below that range only a carry leads back into it. The quotient is rounded one place above
its last one there, which comes to the same. -/
theorem roundQuotient_form_of_carry (below : Int.log 10 x = -quotientMax - 1)
    (carry : m = 10 ^ precision) :
    ∃ coefficient exponent,
      roundQuotient negative n d ideal = .ok (finite negative coefficient exponent) ∧
        RoundedForm precision x m (lastPlace precision x) coefficient exponent := by
  have magnitude : ratioMagnitude n d + ideal = Int.log 10 x := by
    rw [ratio, log_mul_ten_zpow (by positivity), ratioMagnitude_eq_log nPos dPos]
  have place : max quotientMin (Int.log 10 x - (precision - 1)) = lastPlace precision x + 1 := by
    rw [lastPlace, below]
    decide
  have next := significand_carried dPos ratio (by decide) (carry ▸ nearest)
  have short : significand n d (ideal - (lastPlace precision x + 1)) < 10 ^ precision := by
    rw [next]
    decide
  simp only [roundQuotient, magnitude, place]
  split_ifs with beyond tiny exact whole above
  · rw [below] at beyond
    exact absurd beyond (by decide)
  · rw [below] at tiny
    exact absurd tiny (by decide)
  -- What carries is never exact, but the exact form needs no more than this branch gives.
  · exact ⟨_, _, rfl, stripped_form dPos ratio exact short _ _⟩
  · exact absurd whole short.ne
  · exact absurd whole short.ne
  · refine ⟨_, _, rfl, ?_⟩
    have form : RoundedForm precision x m (lastPlace precision x) _ _ := .carried carry
    rwa [← next] at form

theorem roundQuotient_correct
    (least : -quotientMax ≤ Int.log 10 (m * 10 ^ lastPlace precision x : ℚ))
    (most : Int.log 10 (m * 10 ^ lastPlace precision x : ℚ) ≤ quotientMax) :
    ∃ coefficient exponent,
      roundQuotient negative n d ideal = .ok (finite negative coefficient exponent) ∧
        CorrectlyRounded precision x coefficient (coefficient * 10 ^ exponent) := by
  have positive : 0 < x := ratio ▸ mul_pos (by positivity) (ten_zpow_pos ideal)
  have form : ∃ coefficient exponent,
      roundQuotient negative n d ideal = .ok (finite negative coefficient exponent) ∧
        RoundedForm precision x m (lastPlace precision x) coefficient exponent := by
    by_cases normal : -quotientMax ≤ Int.log 10 x
    · exact roundQuotient_form_of_normal negative nPos dPos ratio nearest normal most
    · rw [log_rounded positive (by decide) nearest] at least
      split_ifs at least with carry
      · exact roundQuotient_form_of_carry negative nPos dPos ratio nearest (by omega) carry
      · exact absurd least normal
  obtain ⟨coefficient, exponent, run, form⟩ := form
  exact ⟨coefficient, exponent, run, form.correctlyRounded (by decide) positive nearest⟩

end RoundQuotient

theorem value_div (x y : Bool) (n d : Nat) (i j : ℤ) :
    (finite x n i).value / (finite y d j).value =
      (if (x != y) = true then -1 else 1) * (n / d * 10 ^ (i - j)) := by
  rw [value, value, zpow_sub₀ (by norm_num)]
  cases x <;> cases y <;> simp <;> ring

theorem correctlyRounded_signed {coefficient : Nat} {exponent : ℤ} (negative : Bool)
    (correct : CorrectlyRounded digits x coefficient (coefficient * 10 ^ exponent)) :
    CorrectlyRounded digits ((if negative = true then -1 else 1) * x) coefficient
      (finite negative coefficient exponent).value := by
  rw [value]
  cases negative with
  | false => simpa using correct
  | true => simpa using correct.neg

/-- The rounded quotient of finite decimals, within the range of exponents. -/
theorem div_correct (x y : Bool) {n d : Nat} (i j : ℤ) (nonzero : d ≠ 0)
    (range : (finite x n i).value / (finite y d j).value = 0 ∨
      ∃ r, RoundsToDigits precision |(finite x n i).value / (finite y d j).value| r ∧
        -quotientMax ≤ Int.log 10 r ∧ Int.log 10 r ≤ quotientMax) :
    ∃ coefficient exponent,
      div (finite x n i) (finite y d j) = .ok (finite (x != y) coefficient exponent) ∧
        CorrectlyRounded precision ((finite x n i).value / (finite y d j).value) coefficient
          (finite (x != y) coefficient exponent).value := by
  have dPos : 0 < d := Nat.pos_of_ne_zero nonzero
  rcases Nat.eq_zero_or_pos n with rfl | nPos
  · have run : div (finite x 0 i) (finite y d j) = .ok (zeroQuotient (x != y) (i - j)) := by
      simp [div, nanResult?, nonzero]
    have zero : ∀ negative exponent, (finite negative 0 exponent).value = 0 := by
      intro negative exponent
      simp [value]
    refine ⟨0, _, run, ?_⟩
    rw [zero, zero, zero_div]
    exact correctlyRounded_zero precision
  · have ratio := abs_value_div x y n d i j
    have positive : (0 : ℚ) < n / d * 10 ^ (i - j) := mul_pos (by positivity) (ten_zpow_pos _)
    have run : div (finite x n i) (finite y d j) = roundQuotient (x != y) n d (i - j) := by
      simp [div, nanResult?, nonzero, nPos.ne']
    rcases range with zero | ⟨_, ⟨m, nearest, rfl⟩, least, most⟩
    · rw [zero, abs_zero] at ratio
      exact absurd ratio positive.ne
    · obtain ⟨coefficient, exponent, rounded, correct⟩ :=
        roundQuotient_correct (x != y) nPos dPos ratio nearest least most
      refine ⟨coefficient, exponent, run.trans rounded, ?_⟩
      rw [ratio] at correct
      rw [value_div]
      exact correctlyRounded_signed (x != y) correct

end Decimal

end ZeroGuard
