import Mathlib.Algebra.Order.Field.Power
import Mathlib.Tactic.Ring
import ZeroGuard.Binary.Basic
import ZeroGuard.Proofs.Power
import ZeroGuard.Proofs.Rounding

namespace ZeroGuard

namespace Format

/-- How many binary digits of the whole part are dropped when a ratio is rounded. -/
def dropped (f : Format) (n d : Nat) : Nat :=
  (n / d).log2 - f.fractionBits

theorem dropped_nearestEven (f : Format) (n : Nat) {d : Nat} (positive : 0 < d) :
    NearestEven ((n : ℚ) / d / 2 ^ f.dropped n d) (roundDiv n (d * twoPow (f.dropped n d))) := by
  have scaledPos : 0 < d * twoPow (f.dropped n d) := Nat.mul_pos positive (twoPow_pos _)
  have nearest := roundDiv_nearestEven n scaledPos
  rwa [twoPow_eq, Nat.cast_mul, Nat.cast_pow, Nat.cast_ofNat, ← div_div] at nearest

theorem lt_of_dropped (f : Format) (n : Nat) {d : Nat} (positive : 0 < d) :
    (n : ℚ) / d / 2 ^ f.dropped n d < ((2 ^ (f.fractionBits + 1) : ℤ) : ℚ) := by
  have whole : n / d < 2 ^ (f.fractionBits + 1 + f.dropped n d) :=
    lt_of_lt_of_le Nat.lt_log2_self
      (Nat.pow_le_pow_right (by decide) (by rw [dropped]; omega))
  have product := (Nat.div_lt_iff_lt_mul positive).mp whole
  have castPos : (0 : ℚ) < d := by exact_mod_cast positive
  rw [div_div, div_lt_iff₀ (by positivity)]
  rw [pow_add] at product
  have cast : (n : ℚ) < 2 ^ (f.fractionBits + 1) * 2 ^ f.dropped n d * d := by exact_mod_cast product
  push_cast
  linarith

theorem le_of_dropped (f : Format) {n d : Nat} (positive : 0 < d) (some : 0 < f.dropped n d) :
    ((2 ^ f.fractionBits : ℤ) : ℚ) ≤ (n : ℚ) / d / 2 ^ f.dropped n d := by
  have large : f.fractionBits < (n / d).log2 := by
    rw [dropped] at some
    omega
  have nonzero : n / d ≠ 0 := by
    intro zero
    rw [zero] at large
    simp at large
  have whole : 2 ^ (f.fractionBits + f.dropped n d) ≤ n / d :=
    le_trans (Nat.pow_le_pow_right (by decide) (by rw [dropped]; omega)) (Nat.log2_self_le nonzero)
  have product := (Nat.le_div_iff_mul_le positive).mp whole
  have castPos : (0 : ℚ) < d := by exact_mod_cast positive
  rw [div_div, le_div_iff₀ (by positivity)]
  rw [pow_add] at product
  have cast : (2 ^ f.fractionBits * 2 ^ f.dropped n d * d : ℚ) ≤ n := by exact_mod_cast product
  push_cast
  linarith

/-- The first ratio, in units of the format, that is beyond its finite numbers. -/
def overflowUnits (f : Format) : ℚ :=
  (2 ^ (f.fractionBits + 1) - 1 / 2) * 2 ^ (f.binades - 2)

theorem lt_overflowUnits (f : Format) {shift : Nat} {x : ℚ} (below : shift + 2 < f.binades)
    (upper : x / 2 ^ shift < 2 ^ (f.fractionBits + 1)) : x < f.overflowUnits := by
  have binade : (2 : ℚ) ^ (shift + 1) ≤ 2 ^ (f.binades - 2) :=
    pow_le_pow_right₀ (by norm_num) (by omega)
  have most : (1 : ℚ) ≤ 2 ^ f.fractionBits := one_le_pow₀ (by norm_num)
  calc x < 2 ^ (f.fractionBits + 1) * 2 ^ shift := (div_lt_iff₀ (by positivity)).mp upper
    _ ≤ (2 ^ (f.fractionBits + 1) - 1 / 2) * 2 ^ (shift + 1) := by
        rw [pow_succ, pow_succ, ← sub_nonneg]
        have gap : (0 : ℚ) ≤ (2 ^ f.fractionBits * 2 - 1) * 2 ^ shift :=
          mul_nonneg (by linarith) (by positivity)
        linarith
    _ ≤ f.overflowUnits :=
        mul_le_mul_of_nonneg_left binade (by rw [pow_succ]; linarith)

theorem overflowUnits_le (f : Format) {shift : Nat} {x : ℚ} (several : 2 ≤ f.binades)
    (beyond : f.binades < shift + 2) (lower : 2 ^ f.fractionBits ≤ x / 2 ^ shift) :
    f.overflowUnits ≤ x := by
  have binade : (2 : ℚ) ^ (f.binades - 2) * 2 ≤ 2 ^ shift := by
    rw [← pow_succ]
    exact pow_le_pow_right₀ (by norm_num) (by omega)
  calc f.overflowUnits ≤ 2 ^ (f.fractionBits + 1) * 2 ^ (f.binades - 2) :=
        mul_le_mul_of_nonneg_right (by linarith) (by positivity)
    _ = 2 ^ f.fractionBits * (2 ^ (f.binades - 2) * 2) := by ring
    _ ≤ 2 ^ f.fractionBits * 2 ^ shift := mul_le_mul_of_nonneg_left binade (by positivity)
    _ ≤ x := (le_div_iff₀ (by positivity)).mp lower

/-- In the last binade the tie goes to the even rank, which is the first that is not finite. -/
theorem size_le_nearestRank_iff (f : Format) (several : 2 ≤ f.binades) (n : Nat) {d : Nat}
    (positive : 0 < d) : f.size ≤ f.nearestRank n d ↔ f.overflowUnits ≤ n / d := by
  have nearest := f.dropped_nearestEven n positive
  have upper := f.lt_of_dropped n positive
  have rank : f.nearestRank n d = f.dropped n d * 2 ^ f.fractionBits +
      roundDiv n (d * twoPow (f.dropped n d)) := rfl
  have size : f.size = f.binades * 2 ^ f.fractionBits := rfl
  rw [rank, size]
  rcases Nat.lt_trichotomy (f.dropped n d + 2) f.binades with below | last | beyond
  · have most := nearest.le_of_lt upper
    have bound : (f.dropped n d + 3) * 2 ^ f.fractionBits ≤ f.binades * 2 ^ f.fractionBits :=
      Nat.mul_le_mul_right _ below
    have small := f.lt_overflowUnits below (by exact_mod_cast upper)
    have unit : 0 < 2 ^ f.fractionBits := by positivity
    refine iff_of_false ?_ (not_le.mpr small)
    have most' : roundDiv n (d * twoPow (f.dropped n d)) ≤ 2 ^ f.fractionBits * 2 := by
      rw [← pow_succ]
      exact_mod_cast most
    linarith
  · have even : Even ((2 ^ (f.fractionBits + 1) : ℕ) : ℤ) := by
      exact_mod_cast (Nat.even_pow.mpr ⟨by decide, by omega⟩)
    have reach := nearest.even_le_iff even
    rw [le_div_iff₀ (by positivity)] at reach
    rw [overflowUnits, ← last, Nat.add_sub_cancel]
    push_cast at reach
    rw [← reach]
    norm_cast
    rw [pow_succ, add_mul]
    omega
  · have least := nearest.le_of_le (f.le_of_dropped positive (by omega))
    have lower := f.le_of_dropped positive (by omega : 0 < f.dropped n d)
    have bound : f.binades * 2 ^ f.fractionBits ≤ (f.dropped n d + 1) * 2 ^ f.fractionBits :=
      Nat.mul_le_mul_right _ (by omega)
    refine iff_of_true ?_ (f.overflowUnits_le several beyond (by exact_mod_cast lower))
    have least' : 2 ^ f.fractionBits ≤ roundDiv n (d * twoPow (f.dropped n d)) := by
      exact_mod_cast least
    linarith

/-- A finite number has fewer binary digits than the format has fraction bits and binades. -/
theorem units_lt (f : Format) {rank : Nat} (finite : rank < f.size) :
    f.units rank < 2 ^ (f.fractionBits + f.binades) := by
  rw [size, twoPow_eq] at finite
  have below : rank / 2 ^ f.fractionBits < f.binades :=
    (Nat.div_lt_iff_lt_mul (by positivity)).mpr finite
  have fraction : rank % 2 ^ f.fractionBits < 2 ^ f.fractionBits := Nat.mod_lt _ (by positivity)
  simp only [units]
  split_ifs with first
  · rw [twoPow_eq]
    exact fraction.trans_le (Nat.pow_le_pow_right (by decide) (Nat.le_add_right _ _))
  · simp only [twoPow_eq] at first ⊢
    have lead : 2 ^ f.fractionBits + rank % 2 ^ f.fractionBits < 2 ^ (f.fractionBits + 1) := by
      rw [pow_succ]
      omega
    generalize rank / 2 ^ f.fractionBits = binade at first below ⊢
    calc _ < 2 ^ (f.fractionBits + 1) * 2 ^ (binade - 1) :=
          Nat.mul_lt_mul_of_pos_right lead (by positivity)
      _ = 2 ^ (f.fractionBits + 1 + (binade - 1)) := (pow_add 2 _ _).symm
      _ ≤ 2 ^ (f.fractionBits + f.binades) := Nat.pow_le_pow_right (by decide) (by omega)

theorem nearestRank_mul_left (f : Format) {k : Nat} (positive : 0 < k) (n d : Nat) :
    f.nearestRank (k * n) (k * d) = f.nearestRank n d := by
  simp only [nearestRank, Nat.mul_div_mul_left _ _ positive, Nat.mul_assoc k d,
    roundDiv_mul_left positive]

/-- A ratio in units of the format. -/
theorem units_ratio (f : Format) (n d : Nat) :
    ((n * twoPow f.scale : Nat) : ℚ) / d = n / d * 2 ^ f.scale := by
  rw [twoPow_eq, Nat.cast_mul, mul_div_right_comm, Nat.cast_pow, Nat.cast_ofNat]

end Format

theorem Binary.ofUnits_infinite_iff {f : Format} (sign : Bool) (n d : Nat) :
    (∃ negative, (ofUnits sign n d : Binary f) = .infinite negative) ↔
      f.size ≤ f.nearestRank n d := by
  simp only [ofUnits]
  split_ifs with bounded
  · simpa using bounded
  · simpa using bounded

/-- Scaling a ratio to units scales the end of the finite numbers with it. -/
theorem Binary.ofRatio_infinite_iff {f : Format} (several : 2 ≤ f.binades) (sign : Bool) (n : Nat)
    {d : Nat} (positive : 0 < d) :
    (∃ negative, (ofRatio sign n d : Binary f) = .infinite negative) ↔
      f.overflowUnits / 2 ^ f.scale ≤ n / d := by
  have rank := f.size_le_nearestRank_iff several (n * twoPow f.scale) positive
  rw [ofRatio, ofUnits_infinite_iff, rank, div_le_iff₀ (by positivity), f.units_ratio]

end ZeroGuard
