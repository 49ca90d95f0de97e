import ZeroGuard.Proofs.Binary.Nearest
import ZeroGuard.Proofs.Binary.Underflow

namespace ZeroGuard

namespace Format

variable (f : Format) {m : Nat} (bounded : m ≤ 2 ^ (f.fractionBits + 1)) (shift : Nat)
include bounded

/-- No digit but zeros is dropped of a shifted significand, or of the power of two behind the greatest
significand. -/
theorem dropped_dvd : 2 ^ f.dropped (m * 2 ^ shift) 1 ∣ m * 2 ^ shift := by
  rcases Nat.eq_zero_or_pos m with rfl | positive
  · rw [Nat.zero_mul]
    exact dvd_zero _
  have most : m * 2 ^ shift ≤ 2 ^ (f.fractionBits + 1 + shift) := by
    rw [pow_add]
    exact Nat.mul_le_mul_right _ bounded
  have least : 2 ^ (m * 2 ^ shift).log2 ≤ m * 2 ^ shift := Nat.log2_self_le (by positivity)
  rw [dropped, Nat.div_one]
  -- One digit more than a significand has is possible only for the bound itself, a power of two.
  rcases Nat.lt_or_ge (f.fractionBits + shift) (m * 2 ^ shift).log2 with above | within
  · have power : m * 2 ^ shift = 2 ^ (f.fractionBits + 1 + shift) := by
      refine le_antisymm most (le_trans (Nat.pow_le_pow_right (by decide) ?_) least)
      omega
    rw [power, Nat.log2_two_pow]
    exact pow_dvd_pow 2 (Nat.sub_le _ _)
  · exact dvd_mul_of_dvd_right (pow_dvd_pow 2 (by omega)) m

theorem units_nearestRank_of_le : f.units (f.nearestRank (m * 2 ^ shift) 1) = m * 2 ^ shift := by
  have divides := f.dropped_dvd bounded shift
  rw [f.units_nearestRank _ one_pos, Nat.one_mul, twoPow_eq,
    roundDiv_of_dvd (by positivity) divides, Nat.div_mul_cancel divides]

end Format

namespace Binary

variable {f : Format}

theorem ofInt_of_le {n : ℤ} (bounded : n.natAbs ≤ 2 ^ (f.fractionBits + 1))
    (finite : (ofInt n : Binary f).isFinite = true) :
    ∃ rank : Fin f.size, (ofInt n : Binary f) = .finite (n < 0) rank ∧
      f.units rank = n.natAbs * 2 ^ f.scale := by
  obtain ⟨inside, same⟩ := ofRatio_of_finite finite
  exact ⟨_, same, f.units_nearestRank_of_le bounded f.scale⟩

/-- Rounded operands lead to the same quotient as the integers, if nothing of these is lost. -/
theorem div_ofInt {a b : ℤ} (dividend : a.natAbs ≤ 2 ^ (f.fractionBits + 1))
    (divisor : b.natAbs ≤ 2 ^ (f.fractionBits + 1))
    (finite : (ofInt a : Binary f).isFinite = true) (also : (ofInt b : Binary f).isFinite = true)
    (nonzero : b ≠ 0) :
    (ofInt a : Binary f).div (ofInt b) =
      ofRatio (decide (a < 0) != decide (b < 0)) a.natAbs b.natAbs := by
  obtain ⟨r, first, above⟩ := ofInt_of_le dividend finite
  obtain ⟨s, second, below⟩ := ofInt_of_le divisor also
  have some : s.val ≠ 0 := by
    have vanishing := (ofInt_isZero_iff (Nat.zero_lt_of_lt s.isLt) b).not.mpr nonzero
    rw [second, isZero, beq_iff_eq] at vanishing
    exact vanishing
  rw [first, second, div, if_neg some, above, below, Nat.mul_comm, Nat.mul_comm b.natAbs,
    ofRatio_mul_left _ (by positivity)]

end Binary

end ZeroGuard
