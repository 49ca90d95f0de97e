import ZeroGuard.Proofs.Binary.Nearest
import ZeroGuard.Proofs.Number.Division

namespace ZeroGuard

/-- The ratio of two integers by its sign and its magnitude. -/
theorem signed_ratio (a b : ℤ) :
    (if (decide (a < 0) != decide (b < 0)) = true then -1 else 1) * ((a.natAbs : ℚ) / b.natAbs) =
      a / b := by
  have magnitude : ∀ n : ℤ, (n.natAbs : ℚ) = if n < 0 then -(n : ℚ) else n := by
    intro n
    rw [Nat.cast_natAbs, Int.cast_abs]
    split_ifs with negative
    · exact abs_of_neg (by exact_mod_cast negative)
    · exact abs_of_nonneg (by exact_mod_cast not_lt.mp negative)
  rw [magnitude, magnitude]
  by_cases dividend : a < 0 <;> by_cases divisor : b < 0 <;> simp [dividend, divisor, neg_div, div_neg]

namespace Binary

variable {f : Format}

theorem ofRatio_isFinite (several : 2 ≤ f.binades) (sign : Bool) (n : Nat) {d : Nat}
    (positive : 0 < d) (within : (n : ℚ) / d < f.overflowUnits / 2 ^ f.scale) :
    (ofRatio sign n d : Binary f).isFinite = true := by
  have bounded := (ofRatio_infinite_iff several sign n positive).not.mpr (not_le.mpr within)
  rw [ofRatio, ofUnits_infinite_iff, not_le] at bounded
  rw [ofRatio, ofUnits, dif_pos bounded]
  rfl

end Binary

namespace Number

variable {a b : ℤ}

/-- The quotient by an integer is within the doubles if the dividend is well within them. -/
theorem abs_ratio_lt (bits : Nat) (bounded : |a| ≤ 2 ^ bits) (few : bits ≤ 1023) (nonzero : b ≠ 0) :
    |(a : ℚ) / b| < 2 ^ 1024 - 2 ^ 970 := by
  have divisor : (1 : ℚ) ≤ |(b : ℚ)| := by exact_mod_cast Int.one_le_abs nonzero
  have dividend : |(a : ℚ)| ≤ 2 ^ bits := by exact_mod_cast bounded
  have top : (2 : ℚ) ^ 1024 = 2 ^ 1023 + 2 ^ 1023 := by rw [← two_mul, ← pow_succ']
  have below : (2 : ℚ) ^ bits ≤ 2 ^ 1023 := pow_le_pow_right₀ (by norm_num) few
  have gap : (2 : ℚ) ^ 970 < 2 ^ 1023 := pow_lt_pow_right₀ (by norm_num) (by norm_num)
  rw [abs_div, top, lt_sub_iff_add_lt]
  refine add_lt_add_of_le_of_lt ?_ gap
  exact ((div_le_self (abs_nonneg _) divisor).trans dividend).trans below

section Ratio

variable (nonzero : b ≠ 0) (within : |(a : ℚ) / b| < 2 ^ 1024 - 2 ^ 970)
include nonzero within

theorem isFinite_ratio :
    (.ofRatio (decide (a < 0) != decide (b < 0)) a.natAbs b.natAbs : Double).isFinite = true := by
  rw [abs_ratio, ← Format.double_overflow] at within
  exact Binary.ofRatio_isFinite (by decide) _ _ (Int.natAbs_pos.mpr nonzero) within

theorem divInt_quotient_eq : divInt .quotient a b =
    .ok (.float (.ofRatio (decide (a < 0) != decide (b < 0)) a.natAbs b.natAbs)) := by
  obtain ⟨_, same⟩ := Binary.ofRatio_of_finite (isFinite_ratio nonzero within)
  rw [divInt, if_neg nonzero, intRatio, same]
  rfl

/-- The signs of the integers decide that of the quotient, also where it is rounded to zero. -/
theorem divInt_quotient_nearest :
    ∃ x : Double, divInt .quotient a b = .ok (.float x) ∧ x.Nearest (a / b) ∧
      (x.isNegative = true ↔ ¬ (a < 0 ↔ b < 0)) := by
  have finite := isFinite_ratio nonzero within
  have nearest := Binary.ofRatio_nearest (by decide) _ _ (Int.natAbs_pos.mpr nonzero) finite
  obtain ⟨_, same⟩ := Binary.ofRatio_of_finite finite
  rw [signed_ratio] at nearest
  refine ⟨_, divInt_quotient_eq nonzero within, nearest, ?_⟩
  rw [same, Binary.isNegative]
  simp

end Ratio

theorem intRatio_mul_left {k : ℤ} (positive : 0 < k) (a b : ℤ) :
    intRatio (k * a) (k * b) = intRatio a b := by
  have sign : ∀ n : ℤ, k * n < 0 ↔ n < 0 := by
    intro n
    rw [mul_neg_iff]
    omega
  have factor : 0 < k.natAbs := Int.natAbs_pos.mpr positive.ne'
  simp only [intRatio, sign, Int.natAbs_mul, Binary.ofRatio_mul_left _ factor]

end Number

end ZeroGuard
