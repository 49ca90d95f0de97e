import Mathlib.Algebra.Order.Field.Power
import Mathlib.Data.Nat.Cast.Field
import Mathlib.NumberTheory.Padics.PadicVal.Basic
import Mathlib.Tactic.FieldSimp
import ZeroGuard.Number.Exact
import ZeroGuard.Proofs.Power

namespace ZeroGuard

namespace ExactValue

/-- The rational that an exact value stands for. -/
def value (x : ExactValue) : ℚ :=
  (if x.negative then -1 else 1) * (x.numerator / x.denominator) * 2 ^ x.twos * 5 ^ x.fives

/-- The normal form of a number other than zero. -/
structure Reduced (x : ExactValue) : Prop where
  coprime : x.numerator.Coprime x.denominator
  numeratorTwos : ¬ 2 ∣ x.numerator
  numeratorFives : ¬ 5 ∣ x.numerator
  denominatorTwos : ¬ 2 ∣ x.denominator
  denominatorFives : ¬ 5 ∣ x.denominator

/-- The normal form of any number. -/
def Normal (x : ExactValue) : Prop :=
  x = zero ∨ x.Reduced

variable {x y : ExactValue} {n d : Nat}

theorem pos_of_not_two_dvd (odd : ¬ 2 ∣ n) : 0 < n :=
  Nat.pos_of_ne_zero fun zero => odd (zero ▸ dvd_zero 2)

theorem padicValRat_of_not_dvd {p : Nat} (free : ¬ p ∣ n) : padicValRat p n = 0 := by
  rw [padicValRat.of_nat, padicValNat.eq_zero_of_not_dvd free, Nat.cast_zero]

theorem padicValRat_ratio (p : Nat) [Fact p.Prime] (above : ¬ p ∣ n) (below : ¬ p ∣ d) :
    padicValRat p ((n : ℚ) / d) = 0 := by
  have nonzero : ∀ m : Nat, ¬ p ∣ m → (m : ℚ) ≠ 0 := by
    intro m free
    exact Nat.cast_ne_zero.mpr fun zero => free (zero ▸ dvd_zero p)
  rw [padicValRat.div (nonzero n above) (nonzero d below), padicValRat_of_not_dvd above,
    padicValRat_of_not_dvd below, sub_self]

namespace Reduced

theorem magnitude_pos (reduced : x.Reduced) :
    (0 : ℚ) < x.numerator / x.denominator * 2 ^ x.twos * 5 ^ x.fives := by
  have above := pos_of_not_two_dvd reduced.numeratorTwos
  have below := pos_of_not_two_dvd reduced.denominatorTwos
  positivity

theorem value_neg_iff (reduced : x.Reduced) : x.value < 0 ↔ x.negative = true := by
  have magnitude := reduced.magnitude_pos
  rw [value]
  cases x.negative with
  | true => simpa [mul_assoc] using magnitude
  | false => simpa [mul_assoc] using magnitude.le

theorem value_ne_zero (reduced : x.Reduced) : x.value ≠ 0 := by
  have magnitude := reduced.magnitude_pos.ne'
  rw [value]
  cases x.negative <;> simpa using magnitude

/-- A prime that is not in the fraction is counted by the powers of two and five alone. -/
theorem padicValRat_value (reduced : x.Reduced) (p : Nat) [Fact p.Prime]
    (above : ¬ p ∣ x.numerator) (below : ¬ p ∣ x.denominator) :
    padicValRat p x.value = x.twos * padicValRat p 2 + x.fives * padicValRat p 5 := by
  have numerator := pos_of_not_two_dvd reduced.numeratorTwos
  have denominator := pos_of_not_two_dvd reduced.denominatorTwos
  have unsigned : padicValRat p x.value =
      padicValRat p (x.numerator / x.denominator * 2 ^ x.twos * 5 ^ x.fives) := by
    rw [value]
    cases x.negative <;> simp
  rw [unsigned, padicValRat.mul (by positivity) (by positivity),
    padicValRat.mul (by positivity) (by positivity), padicValRat_ratio p above below,
    padicValRat.zpow, padicValRat.zpow, zero_add]

theorem twos_eq (reduced : x.Reduced) : padicValRat 2 x.value = x.twos := by
  have two : padicValRat 2 2 = 1 := padicValRat.self (by decide)
  have five : padicValRat 2 5 = 0 := padicValRat_of_not_dvd (n := 5) (by decide)
  rw [reduced.padicValRat_value 2 reduced.numeratorTwos reduced.denominatorTwos, two, five]
  ring

theorem fives_eq (reduced : x.Reduced) : padicValRat 5 x.value = x.fives := by
  have prime : Fact (Nat.Prime 5) := ⟨Nat.prime_five⟩
  have five : padicValRat 5 5 = 1 := padicValRat.self (by decide)
  have two : padicValRat 5 2 = 0 := padicValRat_of_not_dvd (n := 2) (by decide)
  rw [reduced.padicValRat_value 5 reduced.numeratorFives reduced.denominatorFives, two, five]
  ring

theorem eq_of_value_eq (first : x.Reduced) (second : y.Reduced) (same : x.value = y.value) :
    x = y := by
  have negative : x.negative = y.negative := by
    rw [Bool.eq_iff_iff, ← first.value_neg_iff, ← second.value_neg_iff, same]
  have twos : x.twos = y.twos := by rw [← first.twos_eq, ← second.twos_eq, same]
  have fives : x.fives = y.fives := by rw [← first.fives_eq, ← second.fives_eq, same]
  have ratio : (x.numerator : ℚ) / x.denominator = y.numerator / y.denominator := by
    rw [value, value, negative, twos, fives] at same
    have sign : (if y.negative then -1 else 1 : ℚ) ≠ 0 := by cases y.negative <;> norm_num
    have magnitude := mul_right_cancel₀ (by positivity) (mul_right_cancel₀ (by positivity) same)
    exact mul_left_cancel₀ sign magnitude
  have below : ∀ m : Nat, ¬ 2 ∣ m → (0 : ℤ) < m := fun m odd =>
    Int.natCast_pos.mpr (pos_of_not_two_dvd odd)
  have parts : (x.numerator : ℤ) = y.numerator ∧ (x.denominator : ℤ) = y.denominator :=
    Rat.div_int_inj (below _ first.denominatorTwos) (below _ second.denominatorTwos) first.coprime
      second.coprime (by push_cast; exact ratio)
  obtain ⟨numerator, denominator⟩ := parts
  rw [Int.natCast_inj] at numerator denominator
  cases x
  cases y
  simp only [mk.injEq]
  exact ⟨negative, numerator, denominator, twos, fives⟩

end Reduced

theorem Normal.eq_of_value_eq (first : x.Normal) (second : y.Normal) (same : x.value = y.value) :
    x = y := by
  have none : zero.value = 0 := by simp [value, zero]
  rcases first with rfl | first <;> rcases second with rfl | second
  · rfl
  · exact absurd (same.symm.trans none) second.value_ne_zero
  · exact absurd (same.trans none) first.value_ne_zero
  · exact first.eq_of_value_eq second same

/-- A positive number without its factors 2 and 5, and how many of them there were. -/
structure Stripped (n rest twos fives : Nat) : Prop where
  product : n = rest * 5 ^ fives * 2 ^ twos
  noTwos : ¬ 2 ∣ rest
  noFives : ¬ 5 ∣ rest

theorem stripped_of_pos (positive : 0 < n) :
    let twos := stripFactor 2 (searchBits n) n
    let fives := stripFactor 5 (searchBits n) twos.1
    Stripped n fives.1 twos.2 fives.2 := by
  intro twos fives
  have product : twos.1 * 2 ^ twos.2 = n := stripFactor_mul 2 (searchBits n) n
  have rest : fives.1 * 5 ^ fives.2 = twos.1 := stripFactor_mul 5 (searchBits n) twos.1
  have odd : ¬ 2 ∣ twos.1 :=
    stripFactor_not_dvd (Nat.not_dvd_of_pos_of_lt positive (lt_pow_searchBits le_rfl n))
  have small : twos.1 ≤ n := Nat.le_of_dvd positive ⟨_, product.symm⟩
  have bounded : ¬ 5 ^ 2 ^ searchBits n ∣ twos.1 := Nat.not_dvd_of_pos_of_lt
    (pos_of_not_two_dvd odd) (small.trans_lt (lt_pow_searchBits (by decide) n))
  refine ⟨?_, ?_, stripFactor_not_dvd bounded⟩
  · rw [rest, product]
  · exact fun even => odd (even.trans ⟨_, rest.symm⟩)

/-- The normal form is made of what is left of both numbers. -/
theorem ofRatio_eq (negative : Bool) (above : 0 < n) (below : 0 < d) (twos fives : Int) :
    ∃ p i j q k l : Nat, Stripped n p i j ∧ Stripped d q k l ∧
      ofRatio negative n d twos fives =
        ⟨negative, p / p.gcd q, q / p.gcd q, twos + i - k, fives + j - l⟩ :=
  ⟨_, _, _, _, _, _, stripped_of_pos above, stripped_of_pos below, if_neg above.ne'⟩

theorem ofRatio_reduced (negative : Bool) (above : 0 < n) (below : 0 < d) (twos fives : Int) :
    (ofRatio negative n d twos fives).Reduced := by
  obtain ⟨p, i, j, q, k, l, numerator, denominator, made⟩ :=
    ofRatio_eq negative above below twos fives
  have common := Nat.gcd_pos_of_pos_left q (pos_of_not_two_dvd numerator.noTwos)
  have left := Nat.div_dvd_of_dvd (Nat.gcd_dvd_left p q)
  have right := Nat.div_dvd_of_dvd (Nat.gcd_dvd_right p q)
  rw [made]
  exact ⟨Nat.coprime_div_gcd_div_gcd common, fun two => numerator.noTwos (two.trans left),
    fun five => numerator.noFives (five.trans left), fun two => denominator.noTwos (two.trans right),
    fun five => denominator.noFives (five.trans right)⟩

theorem ofRatio_normal (negative : Bool) (n : Nat) (below : 0 < d) (twos fives : Int) :
    (ofRatio negative n d twos fives).Normal := by
  rcases Nat.eq_zero_or_pos n with rfl | above
  · exact .inl (if_pos rfl)
  · exact .inr (ofRatio_reduced negative above below twos fives)

theorem ofRatio_value (negative : Bool) (n : Nat) (below : 0 < d) (twos fives : Int) :
    (ofRatio negative n d twos fives).value =
      (if negative then -1 else 1) * (n / d) * 2 ^ twos * 5 ^ fives := by
  rcases Nat.eq_zero_or_pos n with rfl | above
  · simp [ofRatio, value, zero]
  obtain ⟨p, i, j, q, k, l, numerator, denominator, made⟩ :=
    ofRatio_eq negative above below twos fives
  have pPos := pos_of_not_two_dvd numerator.noTwos
  have qPos := pos_of_not_two_dvd denominator.noTwos
  have common : ((p.gcd q : Nat) : ℚ) ≠ 0 :=
    Nat.cast_ne_zero.mpr (Nat.gcd_pos_of_pos_left q pPos).ne'
  have reduced : ((p / p.gcd q : Nat) : ℚ) / (q / p.gcd q : Nat) = p / q := by
    rw [Nat.cast_div (Nat.gcd_dvd_left p q) common, Nat.cast_div (Nat.gcd_dvd_right p q) common,
      div_div_div_cancel_right₀ common]
  have ratio : (n : ℚ) / d = p / q * (2 ^ i / 2 ^ k) * (5 ^ j / 5 ^ l) := by
    rw [numerator.product, denominator.product]
    push_cast
    field_simp
  rw [made, value, reduced, ratio, zpow_sub₀ (by norm_num), zpow_sub₀ (by norm_num),
    zpow_add₀ (by norm_num), zpow_add₀ (by norm_num)]
  simp only [zpow_natCast]
  ring

end ExactValue

end ZeroGuard
