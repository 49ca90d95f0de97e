import Mathlib.Data.Rat.Floor
import ZeroGuard.Proofs.Number.Division

namespace ZeroGuard

/-- The quotient of two integers that leaves a remainder with the sign of the divisor. -/
def FlooredQuotient (a b q : ℤ) : Prop :=
  ∃ r, a = q * b + r ∧ (0 ≤ r ∧ r < b ∨ b < r ∧ r ≤ 0)

variable {a b q : ℤ}

theorem floor_ratio (a b : ℤ) : ⌊(a : ℚ) / b⌋ = a.fdiv b := by
  have upright : ∀ (a : ℤ) {b : ℤ}, 0 ≤ b → ⌊(a : ℚ) / b⌋ = a.fdiv b := by
    intro a b nonneg
    obtain ⟨d, rfl⟩ := Int.eq_ofNat_of_zero_le nonneg
    rw [Int.fdiv_eq_ediv_of_nonneg a nonneg, Int.cast_natCast, Rat.floor_intCast_div_natCast]
  rcases le_total 0 b with nonneg | nonpos
  · exact upright a nonneg
  · rw [← Int.neg_fdiv_neg, ← upright (-a) (neg_nonneg.mpr nonpos), Int.cast_neg, Int.cast_neg,
      neg_div_neg_eq]

theorem flooredQuotient_neg_iff : FlooredQuotient (-a) (-b) q ↔ FlooredQuotient a b q := by
  constructor
  · rintro ⟨r, split, between⟩
    exact ⟨-r, by linarith, by omega⟩
  · rintro ⟨r, rfl, between⟩
    exact ⟨-r, by ring, by omega⟩

theorem flooredQuotient_iff_of_pos (positive : 0 < b) : FlooredQuotient a b q ↔ q = a.fdiv b := by
  rw [Int.fdiv_eq_ediv_of_nonneg a positive.le]
  constructor
  · rintro ⟨r, split, between⟩
    have remainder : r + b * q = a := by linarith
    exact ((Int.ediv_emod_unique positive).mpr ⟨remainder, by omega⟩).1.symm
  · rintro rfl
    have remainder := Int.emod_nonneg a positive.ne'
    exact ⟨a % b, (Int.ediv_mul_add_emod a b).symm, .inl ⟨remainder, Int.emod_lt_of_pos a positive⟩⟩

theorem flooredQuotient_iff (nonzero : b ≠ 0) : FlooredQuotient a b q ↔ q = a.fdiv b := by
  rcases lt_or_gt_of_ne nonzero with negative | positive
  · rw [← flooredQuotient_neg_iff, flooredQuotient_iff_of_pos (neg_pos.mpr negative), Int.neg_fdiv_neg]
  · exact flooredQuotient_iff_of_pos positive

/-- The magnitudes of two integers divided with a remainder. -/
theorem exists_remainder (a : ℤ) (nonzero : b ≠ 0) :
    ∃ r, |a| = |b| * (a.natAbs / b.natAbs : ℕ) + r ∧ 0 ≤ r ∧ r < |b| ∧ (r = 0 ↔ b ∣ a) := by
  refine ⟨(a.natAbs % b.natAbs : ℕ), ?_, Int.natCast_nonneg _, ?_, ?_⟩
  · rw [Int.abs_eq_natAbs, Int.abs_eq_natAbs]
    exact_mod_cast (Nat.div_add_mod a.natAbs b.natAbs).symm
  · rw [Int.abs_eq_natAbs]
    exact_mod_cast Nat.mod_lt a.natAbs (Int.natAbs_pos.mpr nonzero)
  · rw [Nat.cast_eq_zero, ← Nat.dvd_iff_mod_eq_zero, Int.natAbs_dvd_natAbs]

/-- For integers of one sign the floored quotient is the truncated one. -/
theorem fdiv_of_same_sign (nonzero : b ≠ 0) (same : a < 0 ↔ b < 0) :
    a.fdiv b = (a.natAbs / b.natAbs : ℕ) := by
  obtain ⟨r, split, nonneg, small, -⟩ := exists_remainder a nonzero
  rw [eq_comm, ← flooredQuotient_iff nonzero]
  rcases lt_or_gt_of_ne nonzero with negative | positive
  · rw [abs_of_neg negative] at split small
    rw [abs_of_neg (same.mpr negative)] at split
    exact ⟨-r, by linarith, .inr ⟨by linarith, by linarith⟩⟩
  · rw [abs_of_pos positive] at split small
    rw [abs_of_nonneg (by omega)] at split
    exact ⟨r, by linarith, .inl ⟨nonneg, small⟩⟩

/-- For integers of two signs it is one less, unless nothing remains. -/
theorem fdiv_of_opposite_sign (nonzero : b ≠ 0) (opposite : ¬ (a < 0 ↔ b < 0)) :
    a.fdiv b = -(a.natAbs / b.natAbs : ℕ) - if b ∣ a then 0 else 1 := by
  obtain ⟨r, split, nonneg, small, exact⟩ := exists_remainder a nonzero
  rw [eq_comm, ← flooredQuotient_iff nonzero]
  simp only [← exact]
  -- Where something remains, one divisor more is taken off the dividend.
  generalize ((a.natAbs / b.natAbs : ℕ) : ℤ) = whole at split
  have remains : (if r = 0 then 0 else b) = (if r = 0 then (0 : ℤ) else 1) * b := by
    split_ifs <;> ring
  rcases lt_or_gt_of_ne nonzero with negative | positive
  · rw [abs_of_neg negative] at split small
    rw [abs_of_nonneg (by omega)] at split
    refine ⟨r + if r = 0 then 0 else b, ?_, ?_⟩
    · rw [remains]
      linarith
    · split_ifs <;> omega
  · rw [abs_of_pos positive] at split small
    rw [abs_of_neg (by omega)] at split
    refine ⟨-r + if r = 0 then 0 else b, ?_, ?_⟩
    · rw [remains]
      linarith
    · split_ifs <;> omega

theorem natAbs_fdiv_le (a : ℤ) (nonzero : b ≠ 0) :
    (a.fdiv b).natAbs ≤ a.natAbs / b.natAbs + 1 := by
  by_cases same : a < 0 ↔ b < 0
  · rw [fdiv_of_same_sign nonzero same, Int.natAbs_natCast]
    exact Nat.le_succ _
  · rw [fdiv_of_opposite_sign nonzero same]
    generalize a.natAbs / b.natAbs = whole
    split_ifs <;> omega

namespace Number

theorem divRational_floor (a : ℚ) {b : ℚ} (nonzero : b ≠ 0) :
    divRational .floor a b = .ok (.int ⌊a / b⌋) := by
  have denominator : (a.den : ℤ) * b.num ≠ 0 :=
    mul_ne_zero (by exact_mod_cast a.den_nz) (Rat.num_ne_zero.mpr nonzero)
  rw [divRational, divInt, if_neg denominator, ← floor_ratio, ← Rat.divInt_eq_div, ← Rat.div_def']

end Number

end ZeroGuard
