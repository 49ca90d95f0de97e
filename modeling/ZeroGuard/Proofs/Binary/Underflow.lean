import ZeroGuard.Proofs.Number.Division

namespace ZeroGuard

theorem NearestEven.eq_zero_iff {x : ℚ} {m : ℤ} (nearest : NearestEven x m) (nonneg : 0 ≤ x) :
    m = 0 ↔ x ≤ 1 / 2 := by
  constructor
  · rintro rfl
    have near := nearest.near
    rwa [Int.cast_zero, sub_zero, abs_of_nonneg nonneg] at near
  · intro small
    have origin : NearestEven x 0 := by
      refine ⟨?_, fun _ => Even.zero⟩
      rwa [Int.cast_zero, sub_zero, abs_of_nonneg nonneg]
    exact nearest.unique origin

namespace Format

theorem dropped_eq_zero (f : Format) {n d : Nat} (positive : 0 < d) (small : (n : ℚ) / d ≤ 1 / 2) :
    f.dropped n d = 0 := by
  by_contra some
  have lower := f.le_of_dropped positive (Nat.pos_of_ne_zero some)
  have least : (1 : ℚ) ≤ 2 ^ f.fractionBits := one_le_pow₀ (by norm_num)
  have shrunk : (n : ℚ) / d / 2 ^ f.dropped n d ≤ n / d :=
    div_le_self (by positivity) (one_le_pow₀ (by norm_num))
  push_cast at lower
  linarith

theorem nearestRank_eq_zero_iff (f : Format) (n : Nat) {d : Nat} (positive : 0 < d) :
    f.nearestRank n d = 0 ↔ (n : ℚ) / d ≤ 1 / 2 := by
  have rank : f.nearestRank n d = f.dropped n d * 2 ^ f.fractionBits +
      roundDiv n (d * twoPow (f.dropped n d)) := rfl
  have first : f.dropped n d = 0 → (roundDiv n (d * twoPow (f.dropped n d)) = 0 ↔
      (n : ℚ) / d ≤ 1 / 2) := by
    intro none
    have nearest := f.dropped_nearestEven n positive
    have origin := nearest.eq_zero_iff (by positivity)
    rw [none, pow_zero, div_one] at origin
    rw [none, ← origin]
    exact_mod_cast Iff.rfl
  rw [rank, Nat.add_eq_zero_iff, Nat.mul_eq_zero]
  constructor
  · rintro ⟨none | absurdity, rounded⟩
    · exact (first none).mp rounded
    · exact absurd absurdity (by positivity)
  · intro small
    have none := f.dropped_eq_zero positive small
    exact ⟨.inl none, (first none).mpr small⟩

end Format

namespace Binary

variable {f : Format}

theorem ofUnits_isZero_iff (nonempty : 0 < f.size) (sign : Bool) (n : Nat) {d : Nat}
    (positive : 0 < d) :
    (ofUnits sign n d : Binary f).isZero = true ↔ (n : ℚ) / d ≤ 1 / 2 := by
  rw [← f.nearestRank_eq_zero_iff n positive]
  simp only [ofUnits]
  split_ifs with bounded
  · simp [isZero]
  · have beyond : f.nearestRank n d ≠ 0 := by omega
    simp [isZero, beyond]

/-- Half the least positive number is a tie, which goes to zero. -/
theorem ofRatio_isZero_iff (nonempty : 0 < f.size) (sign : Bool) (n : Nat) {d : Nat}
    (positive : 0 < d) :
    (ofRatio sign n d : Binary f).isZero = true ↔ (n : ℚ) / d ≤ 1 / 2 ^ (f.scale + 1) := by
  rw [ofRatio, ofUnits_isZero_iff nonempty sign _ positive, f.units_ratio, le_div_iff₀ two_pos,
    le_div_iff₀ (by positivity), pow_succ, mul_assoc]

theorem ofInt_isZero_iff (nonempty : 0 < f.size) (n : Int) :
    (ofInt n : Binary f).isZero = true ↔ n = 0 := by
  have half : (1 : ℚ) / 2 ^ (f.scale + 1) < 1 :=
    (div_lt_one (by positivity)).mpr (one_lt_pow₀ (by norm_num) (by omega))
  rw [ofInt, ofRatio_isZero_iff nonempty _ _ one_pos, Nat.cast_one, div_one]
  constructor
  · intro small
    have below : (n.natAbs : ℚ) < 1 := small.trans_lt half
    have none : n.natAbs < 1 := by exact_mod_cast below
    omega
  · rintro rfl
    simp

end Binary

namespace Number

theorem finiteOr_isZero_iff (range : Fault) (x : Double) :
    (∃ y, finiteOr range x = .ok y ∧ y.isZero = true) ↔ x.isZero = true := by
  cases x <;> simp [finiteOr, Binary.isZero]

/-- An integer that is not zero does not become a zero when it is converted. -/
theorem intToDouble_isZero_iff (n : Int) :
    (∃ x, intToDouble n = .ok x ∧ x.isZero = true) ↔ n = 0 := by
  rw [intToDouble, finiteOr_isZero_iff, Binary.ofInt_isZero_iff double_nonempty]

/-- A rational becomes a zero up to half the least positive double, also where it is not zero. -/
theorem rationalToDouble_isZero_iff (q : ℚ) :
    (∃ x, rationalToDouble q = .ok x ∧ x.isZero = true) ↔ |q| ≤ 1 / 2 ^ 1075 := by
  rw [rationalToDouble, intRatio, finiteOr_isZero_iff, abs_rational]
  exact Binary.ofRatio_isZero_iff double_nonempty _ _ q.den_pos

end Number

end ZeroGuard
