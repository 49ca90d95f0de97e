import ZeroGuard.Binary.Shortest
import ZeroGuard.Proofs.Binary.Rounded

namespace ZeroGuard

theorem roundDiv_cases (n d : Nat) : roundDiv n d = n / d ∨ roundDiv n d = n / d + 1 := by
  simp only [roundDiv]
  split_ifs
  · exact .inr rfl
  · exact .inl rfl

namespace Format

variable {f : Format} {rank candidate : Nat}

theorem fivePow_pos (n : Nat) : 0 < fivePow n :=
  Nat.pow_pos (by decide)

/-- What the search accepts lies between the middles. The candidate is a multiple of the finest grid, of
which a unit of the format is the power of five. -/
theorem encloses_of_roundsTo (rounds : f.roundsTo rank candidate = true) :
    f.Encloses rank (candidate / fivePow f.scale) := by
  have unit : (0 : ℚ) < fivePow f.scale := by exact_mod_cast fivePow_pos f.scale
  have exact : ∀ r, ((f.exactDecimal r : Nat) : ℚ) = f.units r * fivePow f.scale := by
    intro r
    rw [exactDecimal, Nat.cast_mul]
  have twice : 2 * ((candidate : ℚ) / fivePow f.scale) = (2 * candidate : Nat) / fivePow f.scale := by
    rw [Nat.cast_mul, Nat.cast_ofNat, mul_div_assoc]
  have order : f.exactDecimal (rank - 1) + f.exactDecimal rank ≤ 2 * candidate ∧
      2 * candidate ≤ f.exactDecimal rank + f.exactDecimal (rank + 1) ∧
      (2 * candidate = f.exactDecimal (rank - 1) + f.exactDecimal rank ∨
        2 * candidate = f.exactDecimal rank + f.exactDecimal (rank + 1) → Even rank) := by
    simp only [roundsTo] at rounds
    split_ifs at rounds with even
    · obtain ⟨lower, upper⟩ := of_decide_eq_true rounds
      exact ⟨lower, upper, fun _ => Nat.even_iff.mpr even⟩
    · obtain ⟨lower, upper⟩ := of_decide_eq_true rounds
      exact ⟨lower.le, upper.le, by omega⟩
  obtain ⟨lower, upper, tie⟩ := order
  refine ⟨?_, ?_, fun middle => tie ?_⟩
  · rw [twice, le_div_iff₀ unit, add_mul, ← exact, ← exact]
    exact_mod_cast lower
  · rw [twice, div_le_iff₀ unit, add_mul, ← exact, ← exact]
    exact_mod_cast upper
  · rw [twice, div_eq_iff unit.ne', div_eq_iff unit.ne', add_mul, add_mul, ← exact, ← exact,
      ← exact] at middle
    exact_mod_cast middle

theorem nearestRank_of_roundsTo (several : 0 < f.fractionBits)
    (rounds : f.roundsTo rank candidate = true) :
    f.nearestRank candidate (fivePow f.scale) = rank :=
  (encloses_of_roundsTo rounds).nearestRank_eq (fivePow_pos _) several

/-- Whichever grid the search ends on, it ends with a decimal that is rounded to the rank. -/
theorem nearestRank_searchGrids (several : 0 < f.fractionBits) (rank power : Nat) :
    f.nearestRank ((f.searchGrids rank power).1 * tenPow (f.searchGrids rank power).2)
      (fivePow f.scale) = rank := by
  induction power with
  | zero =>
    refine nearestRank_eq_of_eq (fivePow_pos _) ?_
    have unit : (fivePow f.scale : ℚ) ≠ 0 := by exact_mod_cast (fivePow_pos f.scale).ne'
    rw [searchGrids, tenPow_eq, pow_zero, Nat.mul_one, exactDecimal, Nat.cast_mul,
      mul_div_cancel_right₀ _ unit]
  | succ power ih =>
    simp only [searchGrids]
    split
    · rename_i below above
      rcases roundDiv_cases (f.exactDecimal rank) (tenPow (power + 1)) with down | up
      · rw [down]
        exact nearestRank_of_roundsTo several below
      · rw [up]
        exact nearestRank_of_roundsTo several above
    · rename_i below _
      exact nearestRank_of_roundsTo several below
    · rename_i _ above
      exact nearestRank_of_roundsTo several above
    · exact ih

end Format

/-- A number is read from its shortest decimal. -/
theorem Binary.ofDecimal_shortest {f : Format} (several : 0 < f.fractionBits) (binades : 2 ≤ f.binades)
    (negative : Bool) (rank : Fin f.size) :
    (ofDecimal negative (f.shortest rank).coefficient (f.shortest rank).exponent : Binary f) =
      .finite negative rank := by
  have nonempty : 0 < f.size := Nat.zero_lt_of_lt rank.isLt
  rw [Format.shortest]
  split_ifs with origin
  · rw [ofDecimal, if_pos rfl, zero_eq nonempty]
    exact congrArg _ (Fin.ext origin.symm)
  · have rounds := f.nearestRank_searchGrids several rank (digitCount (f.exactDecimal rank))
    dsimp only
    generalize f.searchGrids rank (digitCount (f.exactDecimal rank)) = found at rounds
    have grid : (10 : Nat) ^ f.scale = twoPow f.scale * fivePow f.scale := by
      rw [twoPow, fivePow]
      exact Nat.mul_pow 2 5 f.scale
    have value : ((found.1 * tenPow found.2 : Nat) : ℚ) / (10 ^ f.scale : Nat) =
        found.1 * 10 ^ ((found.2 : ℤ) - f.scale) := by
      rw [tenPow_eq, zpow_sub₀ (by norm_num), zpow_natCast, zpow_natCast, Nat.cast_mul, Nat.cast_pow,
        Nat.cast_pow, Nat.cast_ofNat, mul_div_assoc]
    rw [ofDecimal_eq (by positivity) nonempty binades value]
    refine ofRatio_eq_finite ?_
    rw [grid, Nat.mul_comm _ (twoPow f.scale), f.nearestRank_mul_left (twoPow_pos _)]
    exact rounds

end ZeroGuard
