import ZeroGuard.Proofs.Binary.Nearest

namespace ZeroGuard

namespace Format

variable (f : Format)

theorem rank_eq (rank : Nat) :
    f.exponent rank * 2 ^ f.fractionBits + f.significand rank = rank := by
  have split := Nat.div_add_mod rank (2 ^ f.fractionBits)
  rw [exponent, significand]
  split_ifs with first
  · rw [first, Nat.mul_zero, Nat.zero_add] at split
    rw [first, Nat.zero_sub, Nat.zero_mul, Nat.zero_add, split]
  · have step : rank / 2 ^ f.fractionBits - 1 + 1 = rank / 2 ^ f.fractionBits :=
      Nat.sub_add_cancel (Nat.pos_of_ne_zero first)
    calc (rank / 2 ^ f.fractionBits - 1) * 2 ^ f.fractionBits +
          (2 ^ f.fractionBits + rank % 2 ^ f.fractionBits)
        = (rank / 2 ^ f.fractionBits - 1 + 1) * 2 ^ f.fractionBits + rank % 2 ^ f.fractionBits := by ring
      _ = rank := by rw [step, Nat.mul_comm, split]

theorem units_succ (rank : Nat) : f.units (rank + 1) = f.units rank + 2 ^ f.exponent rank := by
  have bounded := f.significand_lt rank
  have normal : 0 < f.exponent rank → 2 ^ f.fractionBits ≤ f.significand rank := by
    intro some
    have later : rank / 2 ^ f.fractionBits ≠ 0 := by
      rw [exponent] at some
      omega
    rw [significand, if_neg later]
    exact Nat.le_add_right _ _
  have next := f.units_shifted (m := f.significand rank + 1)
    (fun some => (normal some).trans (Nat.le_succ _)) bounded
  rw [← Nat.add_assoc, f.rank_eq] at next
  rw [next, f.units_eq, Nat.succ_mul]

theorem units_strictMono : StrictMono f.units := by
  refine strictMono_nat_of_lt_succ fun rank => ?_
  rw [units_succ]
  exact Nat.lt_add_of_pos_right (by positivity)

/-- The ratios that are rounded to a rank: those between the middles to its neighbours, and the middles
themselves if the rank is even. Below the first rank there is no neighbour. -/
structure Encloses (rank : Nat) (x : ℚ) : Prop where
  lower : (f.units (rank - 1) : ℚ) + f.units rank ≤ 2 * x
  upper : 2 * x ≤ f.units rank + f.units (rank + 1)
  even : 2 * x = f.units (rank - 1) + f.units rank ∨ 2 * x = f.units rank + f.units (rank + 1) →
    Even rank

section Tie

variable {f} {x : ℚ} {rank found : Nat} (inside : f.Encloses rank x)
  (near : |x - f.units found| ≤ |x - f.units rank|)
  (even : f.units rank ≠ f.units found → |x - f.units rank| = |x - f.units found| → Even found)
include inside near even

/-- A lower rank is at most as near as the neighbour below, and then the tie is decided. -/
theorem Encloses.le_of_near : rank ≤ found := by
  by_contra missed
  have below : found < rank := not_le.mp missed
  obtain ⟨lower, -, parity⟩ := inside
  have order : (f.units found : ℚ) ≤ f.units (rank - 1) := by
    exact_mod_cast f.units_strictMono.monotone (by omega : found ≤ rank - 1)
  have apart : (f.units found : ℚ) < f.units rank := by exact_mod_cast f.units_strictMono below
  rw [abs_of_nonneg (by linarith : 0 ≤ x - f.units found)] at near even
  rcases abs_cases (x - f.units rank) with ⟨side, _⟩ | ⟨side, _⟩
  · rw [side] at near
    linarith
  · rw [side] at near even
    have neighbour : (f.units found : ℚ) = f.units (rank - 1) := by linarith
    have next : found = rank - 1 := f.units_strictMono.injective (by exact_mod_cast neighbour)
    have first := even (by exact_mod_cast apart.ne') (by linarith)
    have second := parity (.inl (by linarith))
    rw [next, Nat.even_sub (by omega)] at first
    exact absurd (first.mp second) (by decide)

theorem Encloses.ge_of_near : found ≤ rank := by
  by_contra missed
  have above : rank < found := not_le.mp missed
  obtain ⟨-, upper, parity⟩ := inside
  have order : (f.units (rank + 1) : ℚ) ≤ f.units found := by
    exact_mod_cast f.units_strictMono.monotone (by omega : rank + 1 ≤ found)
  have apart : (f.units rank : ℚ) < f.units found := by exact_mod_cast f.units_strictMono above
  rw [abs_of_nonpos (by linarith : x - f.units found ≤ 0)] at near even
  rcases abs_cases (x - f.units rank) with ⟨side, _⟩ | ⟨side, _⟩
  · rw [side] at near even
    have neighbour : (f.units found : ℚ) = f.units (rank + 1) := by linarith
    have next : found = rank + 1 := f.units_strictMono.injective (by exact_mod_cast neighbour)
    have first := even (by exact_mod_cast apart.ne) (by linarith)
    have second := parity (.inr (by linarith))
    rw [next, Nat.even_add_one] at first
    exact absurd second first
  · rw [side] at near
    linarith

end Tie

variable {f} {n d rank : Nat} (positive : 0 < d)
include positive

theorem nearestRank_eq_of_eq (same : (n : ℚ) / d = f.units rank) : f.nearestRank n d = rank := by
  have near := f.nearestRank_le_distance n positive rank
  rw [same, sub_self, abs_zero] at near
  have none := abs_eq_zero.mp (le_antisymm near (abs_nonneg _))
  have equal : f.units rank = f.units (f.nearestRank n d) := by exact_mod_cast sub_eq_zero.mp none
  exact (f.units_strictMono.injective equal).symm

theorem Encloses.nearestRank_eq (several : 0 < f.fractionBits) (inside : f.Encloses rank (n / d)) :
    f.nearestRank n d = rank := by
  have near := f.nearestRank_le_distance n positive rank
  have even := @f.even_nearestRank n d positive several rank
  rw [f.even_significand_iff several] at even
  exact le_antisymm (inside.ge_of_near near even) (inside.le_of_near near even)

end Format

/-- The units at a place of the line on which the negative numbers stand before the others. -/
def Format.unitsAt (f : Format) : ℤ → ℤ
  | .ofNat rank => f.units rank
  | .negSucc rank => -(f.units (rank + 1) : ℤ)

theorem Format.unitsAt_neg (f : Format) (rank : Nat) : f.unitsAt (-rank) = -(f.units rank : ℤ) := by
  cases rank with
  | zero =>
    have origin : f.units 0 = 0 := by simp [Format.units]
    simp [unitsAt, origin]
  | succ rank => rfl

theorem Format.unitsAt_lt_succ (f : Format) (place : ℤ) : f.unitsAt place < f.unitsAt (place + 1) := by
  cases place with
  | ofNat rank =>
    have less := f.units_strictMono (Nat.lt_succ_self rank)
    exact Int.ofNat_lt.mpr less
  | negSucc rank =>
    have next : Int.negSucc rank + 1 = -(rank : ℤ) := by omega
    have less : (f.units rank : ℤ) < f.units (rank + 1) := by
      exact_mod_cast f.units_strictMono (Nat.lt_succ_self rank)
    rw [next, f.unitsAt_neg, unitsAt]
    omega

theorem Format.unitsAt_lt_iff (f : Format) {first second : ℤ} :
    f.unitsAt first < f.unitsAt second ↔ first < second :=
  (strictMono_int_of_lt_succ f.unitsAt_lt_succ).lt_iff_lt

namespace Binary

variable {f : Format} {x : ℚ} {y z : Binary f}

/-- The place of a finite number on the line. -/
def place : Binary f → ℤ
  | finite negative rank => if negative then -rank else rank
  | _ => 0

theorem value_place (y : Binary f) : y.value = f.unitsAt y.place / 2 ^ f.scale := by
  have origin : f.unitsAt 0 = 0 := by simpa [Format.units] using f.unitsAt_neg 0
  cases y with
  | nan => simp [value, place, origin]
  | infinite => simp [value, place, origin]
  | finite negative rank =>
    cases negative with
    | false => simp [value, place, Format.unitsAt]
    | true => simp [value, place, f.unitsAt_neg]

theorem place_lt_of_value_lt (less : y.value < z.value) : y.place < z.place := by
  rw [value_place, value_place, div_lt_div_iff_of_pos_right (by positivity)] at less
  exact f.unitsAt_lt_iff.mp (by exact_mod_cast less)

theorem value_lt_of_place_lt (less : y.place < z.place) : y.value < z.value := by
  rw [value_place, value_place, div_lt_div_iff_of_pos_right (by positivity)]
  exact_mod_cast f.unitsAt_lt_iff.mpr less

theorem even_place_iff (several : 0 < f.fractionBits) : Even y.place ↔ Even y.significand := by
  cases y with
  | nan => simp [place, significand]
  | infinite => simp [place, significand]
  | finite negative rank =>
    rw [significand, f.even_significand_iff several, place]
    cases negative <;> simp

theorem natAbs_place_lt (finite : y.isFinite = true) : y.place.natAbs < f.size := by
  cases y with
  | nan => cases finite
  | infinite => cases finite
  | finite negative rank =>
    have bounded := rank.isLt
    cases negative <;> simp [place]

theorem exists_of_place {k : ℤ} (bounded : k.natAbs < f.size) :
    ∃ w : Binary f, w.isFinite = true ∧ w.place = k := by
  rcases Int.natAbs_eq k with nonneg | negative
  · exact ⟨.finite false ⟨k.natAbs, bounded⟩, rfl, nonneg.symm⟩
  · exact ⟨.finite true ⟨k.natAbs, bounded⟩, rfl, negative.symm⟩

/-- Between two numbers with even significands there is a third one. -/
theorem exists_between (several : 0 < f.fractionBits) (less : y.value < z.value)
    (first : y.isFinite = true) (second : z.isFinite = true) (even : Even y.significand)
    (also : Even z.significand) :
    ∃ w : Binary f, w.isFinite = true ∧ y.value < w.value ∧ w.value < z.value := by
  have order := place_lt_of_value_lt less
  have low := natAbs_place_lt first
  have high := natAbs_place_lt second
  rw [← even_place_iff several] at even also
  obtain ⟨i, left⟩ := even
  obtain ⟨j, right⟩ := also
  obtain ⟨w, finite, between⟩ := exists_of_place (by omega : (y.place + 1).natAbs < f.size)
  exact ⟨w, finite, value_lt_of_place_lt (by omega), value_lt_of_place_lt (by omega)⟩

/-- No two values are nearest to one number: were they equally far from it, both would be even, and a
third number between them would be nearer. -/
theorem Nearest.value_unique (several : 0 < f.fractionBits) (nearest : Nearest x y)
    (other : Nearest x z) : y.value = z.value := by
  have equal : |x - y.value| = |x - z.value| :=
    le_antisymm (nearest.near z other.finite) (other.near y nearest.finite)
  have apart : ∀ {y z : Binary f}, Nearest x y → Nearest x z → |x - y.value| = |x - z.value| →
      ¬ y.value < z.value := by
    intro y z nearest other equal less
    have even := nearest.even z other.finite less.ne' equal.symm
    have also := other.even y nearest.finite less.ne equal
    obtain ⟨w, finite, above, below⟩ :=
      exists_between several less nearest.finite other.finite even also
    have far := nearest.near w finite
    rcases abs_cases (x - y.value) with ⟨left, _⟩ | ⟨left, _⟩ <;>
      rcases abs_cases (x - z.value) with ⟨right, _⟩ | ⟨right, _⟩ <;>
      rcases abs_cases (x - w.value) with ⟨middle, _⟩ | ⟨middle, _⟩ <;>
      linarith
  rcases lt_trichotomy y.value z.value with less | same | more
  · exact absurd less (apart nearest other equal)
  · exact same
  · exact absurd more (apart other nearest equal.symm)

end Binary

end ZeroGuard
