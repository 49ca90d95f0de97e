import ZeroGuard.Binary.Arithmetic
import ZeroGuard.Proofs.Binary.Overflow

namespace ZeroGuard

namespace Format

variable (f : Format)

/-- The significand at a rank. All but those of the subnormal numbers have the same number of binary
digits. -/
def significand (rank : Nat) : Nat :=
  if rank / 2 ^ f.fractionBits = 0 then rank % 2 ^ f.fractionBits
  else 2 ^ f.fractionBits + rank % 2 ^ f.fractionBits

/-- The power of two, in units, by which the significand at a rank is multiplied. -/
def exponent (rank : Nat) : Nat :=
  rank / 2 ^ f.fractionBits - 1

theorem units_eq (rank : Nat) : f.units rank = f.significand rank * 2 ^ f.exponent rank := by
  have same : f.units rank = if rank / 2 ^ f.fractionBits = 0 then rank % 2 ^ f.fractionBits else
      (2 ^ f.fractionBits + rank % 2 ^ f.fractionBits) * 2 ^ f.exponent rank := rfl
  rw [same, significand]
  split_ifs with first
  · rw [exponent, first, Nat.zero_sub, pow_zero, mul_one]
  · rfl

theorem significand_lt (rank : Nat) : f.significand rank < 2 ^ (f.fractionBits + 1) := by
  have fraction : rank % 2 ^ f.fractionBits < 2 ^ f.fractionBits := Nat.mod_lt _ (by positivity)
  rw [significand, pow_succ]
  split_ifs <;> omega

theorem even_significand_iff (several : 0 < f.fractionBits) (rank : Nat) :
    Even (f.significand rank) ↔ Even rank := by
  have power : Even (2 ^ f.fractionBits) := Nat.even_pow.mpr ⟨even_two, several.ne'⟩
  have fraction : Even (rank % 2 ^ f.fractionBits) ↔ Even rank := by
    conv_rhs => rw [← Nat.div_add_mod rank (2 ^ f.fractionBits)]
    simp [Nat.even_add, power]
  rw [significand, ← fraction]
  split_ifs
  · rfl
  · simp [Nat.even_add, power]

/-- A finite number is a multiple of a power of two, or it is too small to reach the binade in which
the numbers are so far apart. -/
theorem units_grid (rank shift : Nat) :
    2 ^ shift ∣ f.units rank ∨ 0 < shift ∧ f.units rank < 2 ^ f.fractionBits * 2 ^ shift := by
  rw [units_eq]
  by_cases coarse : shift ≤ f.exponent rank
  · exact .inl (dvd_mul_of_dvd_right (pow_dvd_pow 2 coarse) _)
  · have finer : f.exponent rank + 1 ≤ shift := by omega
    refine .inr ⟨by omega, ?_⟩
    calc f.significand rank * 2 ^ f.exponent rank
        < 2 ^ (f.fractionBits + 1) * 2 ^ f.exponent rank :=
          Nat.mul_lt_mul_of_pos_right (f.significand_lt rank) (by positivity)
      _ = 2 ^ f.fractionBits * 2 ^ (f.exponent rank + 1) := by ring
      _ ≤ 2 ^ f.fractionBits * 2 ^ shift :=
          Nat.mul_le_mul_left _ (Nat.pow_le_pow_right (by decide) finer)

theorem units_normal (binade : Nat) {fraction : Nat} (small : fraction < 2 ^ f.fractionBits) :
    f.units ((binade + 1) * 2 ^ f.fractionBits + fraction) =
      (2 ^ f.fractionBits + fraction) * 2 ^ binade := by
  obtain ⟨quotient, rest⟩ := (Nat.div_mod_unique (by positivity)).mpr
    ⟨show fraction + 2 ^ f.fractionBits * (binade + 1) =
      (binade + 1) * 2 ^ f.fractionBits + fraction by ring, small⟩
  rw [units_eq, significand, exponent, quotient, rest, if_neg (Nat.succ_ne_zero binade),
    Nat.add_sub_cancel]

/-- The rank that is made of a shift and a rounded significand, which may have carried into one more
digit. -/
theorem units_shifted {shift m : Nat} (normal : 0 < shift → 2 ^ f.fractionBits ≤ m)
    (bounded : m ≤ 2 ^ (f.fractionBits + 1)) :
    f.units (shift * 2 ^ f.fractionBits + m) = m * 2 ^ shift := by
  rw [pow_succ] at bounded
  rcases Nat.lt_or_ge m (2 ^ f.fractionBits) with subnormal | full
  · have none : shift = 0 := by
      by_contra some
      exact absurd (normal (Nat.pos_of_ne_zero some)) (not_le.mpr subnormal)
    rw [units_eq, significand, exponent, none, zero_mul, zero_add, Nat.div_eq_of_lt subnormal,
      if_pos rfl, Nat.mod_eq_of_lt subnormal]
  rcases bounded.lt_or_eq with plain | carried
  · obtain ⟨fraction, rfl⟩ := Nat.exists_eq_add_of_le full
    have rank : shift * 2 ^ f.fractionBits + (2 ^ f.fractionBits + fraction) =
        (shift + 1) * 2 ^ f.fractionBits + fraction := by ring
    rw [rank, units_normal f shift (by omega)]
  · have rank : shift * 2 ^ f.fractionBits + 2 ^ f.fractionBits * 2 =
        (shift + 1 + 1) * 2 ^ f.fractionBits + 0 := by ring
    rw [carried, rank, units_normal f (shift + 1) (by positivity), pow_succ]
    ring

variable (n : Nat) {d : Nat} (positive : 0 < d)
include positive

theorem units_nearestRank :
    f.units (f.nearestRank n d) =
      roundDiv n (d * twoPow (f.dropped n d)) * 2 ^ f.dropped n d := by
  have nearest := f.dropped_nearestEven n positive
  have most := nearest.le_of_lt (f.lt_of_dropped n positive)
  refine f.units_shifted (fun some => ?_) (by exact_mod_cast most)
  exact_mod_cast nearest.le_of_le (f.le_of_dropped positive some)

theorem units_stepped (rank : Nat) :
    Stepped (2 ^ f.dropped n d) ((n : ℚ) / d) (f.units rank) := by
  rcases f.units_grid rank (f.dropped n d) with ⟨z, multiple⟩ | ⟨some, small⟩
  · refine .inl ⟨z, ?_⟩
    rw [multiple]
    push_cast
    exact mul_div_cancel_left₀ _ (by positivity)
  · refine .inr ⟨_, f.le_of_dropped positive some, ?_⟩
    rw [div_lt_iff₀ (by positivity)]
    exact_mod_cast small

theorem nearestRank_le_distance (rank : Nat) :
    |(n : ℚ) / d - f.units (f.nearestRank n d)| ≤ |(n : ℚ) / d - f.units rank| := by
  have nearest := f.dropped_nearestEven n positive
  have least := nearest.le_distance_step (by positivity) (f.units_stepped n positive rank)
  rw [f.units_nearestRank n positive]
  exact_mod_cast least

theorem even_nearestRank (several : 0 < f.fractionBits) {rank : Nat}
    (different : f.units rank ≠ f.units (f.nearestRank n d))
    (tie : |(n : ℚ) / d - f.units rank| = |(n : ℚ) / d - f.units (f.nearestRank n d)|) :
    Even (f.significand (f.nearestRank n d)) := by
  have nearest := f.dropped_nearestEven n positive
  have value := f.units_nearestRank n positive
  have even := nearest.even_of_tie_step (by positivity) (f.units_stepped n positive rank)
    (by rw [value] at different; exact_mod_cast different)
    (by rw [value] at tie; exact_mod_cast tie)
  have power : Even (2 ^ f.fractionBits) := Nat.even_pow.mpr ⟨even_two, several.ne'⟩
  rw [f.even_significand_iff several]
  exact (power.mul_left _).add (by exact_mod_cast even)

end Format

namespace Binary

variable {f : Format}

/-- The value of a finite number. -/
def value : Binary f → ℚ
  | finite negative rank => (if negative then -1 else 1) * f.units rank / 2 ^ f.scale
  | _ => 0

def significand : Binary f → Nat
  | finite _ rank => f.significand rank
  | _ => 0

/-- A finite number that is nearest to a rational among all finite numbers; if another value is equally
near, its significand is even. -/
structure Nearest (x : ℚ) (y : Binary f) : Prop where
  finite : y.isFinite = true
  near : ∀ other : Binary f, other.isFinite = true → |x - y.value| ≤ |x - other.value|
  even : ∀ other : Binary f, other.isFinite = true → other.value ≠ y.value →
    |x - other.value| = |x - y.value| → Even y.significand

@[simp] theorem value_neg (y : Binary f) : y.neg.value = -y.value := by
  cases y with
  | finite negative rank =>
    simp only [neg, value]
    cases negative <;> simp [neg_div]
  | _ => simp [neg, value]

@[simp] theorem isFinite_neg (y : Binary f) : y.neg.isFinite = y.isFinite := by
  cases y <;> rfl

@[simp] theorem significand_neg (y : Binary f) : y.neg.significand = y.significand := by
  cases y <;> rfl

theorem Nearest.neg {x : ℚ} {y : Binary f} (nearest : Nearest x y) : Nearest (-x) y.neg := by
  have distance : ∀ z : ℚ, |-x - z| = |x - -z| := by
    intro z
    rw [← abs_neg]
    congr 1
    ring
  refine ⟨?_, ?_, ?_⟩
  · rw [isFinite_neg]
    exact nearest.finite
  · intro other finite
    have near := nearest.near other.neg (by rwa [isFinite_neg])
    rw [value_neg] at near
    rwa [value_neg, distance, distance, neg_neg]
  · intro other finite different tie
    rw [value_neg] at different tie
    rw [distance, distance, neg_neg] at tie
    rw [significand_neg]
    refine nearest.even other.neg (by rwa [isFinite_neg]) (fun same => different ?_)
      (by rwa [value_neg])
    rw [← same, value_neg, neg_neg]

theorem ofRatio_true (n d : Nat) : (ofRatio true n d : Binary f) = (ofRatio false n d).neg := by
  simp only [ofRatio, ofUnits]
  split_ifs <;> rfl

/-- To a number that is not negative no negative number is nearer than zero. -/
theorem exists_rank_le_distance {x : ℚ} (nonneg : 0 ≤ x) {other : Binary f}
    (finite : other.isFinite = true) :
    ∃ rank : Nat, |x - f.units rank / 2 ^ f.scale| ≤ |x - other.value| ∧
      (|x - f.units rank / 2 ^ f.scale| = |x - other.value| →
        other.value = f.units rank / 2 ^ f.scale) := by
  cases other with
  | nan => cases finite
  | infinite => cases finite
  | finite negative rank =>
    cases negative with
    | false =>
      have same : (Binary.finite false rank).value = f.units rank / 2 ^ f.scale := by
        simp [value]
      rw [same]
      exact ⟨rank, le_rfl, fun _ => rfl⟩
    | true =>
      have origin : f.units 0 = 0 := by simp [Format.units]
      have magnitude : (0 : ℚ) ≤ f.units rank / 2 ^ f.scale := by positivity
      have same : (Binary.finite true rank).value = -(f.units rank / 2 ^ f.scale) := by
        simp [value, neg_div]
      refine ⟨0, ?_⟩
      rw [same, origin, Nat.cast_zero, zero_div, sub_zero, abs_of_nonneg nonneg, sub_neg_eq_add,
        abs_of_nonneg (add_nonneg nonneg magnitude)]
      exact ⟨le_add_of_nonneg_right magnitude, fun tie => by linarith⟩

theorem ofRatio_of_finite {sign : Bool} {n d : Nat}
    (finite : (ofRatio sign n d : Binary f).isFinite = true) :
    ∃ bounded, (ofRatio sign n d : Binary f) =
      .finite sign ⟨f.nearestRank (n * twoPow f.scale) d, bounded⟩ := by
  simp only [ofRatio, ofUnits] at finite ⊢
  split_ifs at finite ⊢ with bounded
  · exact ⟨bounded, rfl⟩
  · cases finite

/-- A ratio of natural numbers that is not rounded to an infinity is rounded to the nearest number. -/
theorem ofRatio_nonneg_nearest (several : 0 < f.fractionBits) (n : Nat) {d : Nat} (positive : 0 < d)
    (finite : (ofRatio false n d : Binary f).isFinite = true) :
    Nearest ((n : ℚ) / d) (ofRatio false n d : Binary f) := by
  have unit : (0 : ℚ) < 2 ^ f.scale := by positivity
  have near := f.nearestRank_le_distance (n * twoPow f.scale) positive
  have even := @f.even_nearestRank (n * twoPow f.scale) d positive several
  have nonneg : (0 : ℚ) ≤ n / d := by positivity
  obtain ⟨bounded, same⟩ := ofRatio_of_finite finite
  rw [f.units_ratio] at near even
  rw [same] at finite ⊢
  generalize (n : ℚ) / d = x at near even nonneg
  have distance : ∀ units : ℚ, |x - units / 2 ^ f.scale| = |x * 2 ^ f.scale - units| / 2 ^ f.scale := by
    intro units
    rw [← abs_of_pos unit, ← abs_div, abs_of_pos unit, sub_div, mul_div_cancel_right₀ _ unit.ne']
  generalize f.nearestRank (n * twoPow f.scale) d = rank at near even bounded
  have value : (Binary.finite false ⟨rank, bounded⟩ : Binary f).value =
      f.units rank / 2 ^ f.scale := by
    simp [value]
  have least : ∀ s : Nat, |x - f.units rank / 2 ^ f.scale| ≤ |x - f.units s / 2 ^ f.scale| := by
    intro s
    rw [distance, distance]
    exact div_le_div_of_nonneg_right (near s) unit.le
  refine ⟨finite, ?_, ?_⟩
  · intro other bounded
    obtain ⟨s, closer, -⟩ := exists_rank_le_distance nonneg bounded
    rw [value]
    exact (least s).trans closer
  · intro other bounded different tie
    obtain ⟨s, closer, attained⟩ := exists_rank_le_distance nonneg bounded
    rw [value] at different tie
    have equal := le_antisymm closer (tie.trans_le (least s))
    rw [attained equal] at different tie
    rw [distance, distance, div_left_inj' unit.ne'] at tie
    refine even (fun units => different ?_) tie
    rw [units]

/-- Only the ratio counts, however large its terms are. -/
theorem ofRatio_mul_left (sign : Bool) {k : Nat} (positive : 0 < k) (n d : Nat) :
    (ofRatio sign (k * n) (k * d) : Binary f) = ofRatio sign n d := by
  simp only [ofRatio, ofUnits, Nat.mul_assoc, f.nearestRank_mul_left positive]

/-- Of the two signs the rounded number has the one that it is given, also where it is a zero. -/
theorem ofRatio_nearest (several : 0 < f.fractionBits) (sign : Bool) (n : Nat) {d : Nat}
    (positive : 0 < d) (finite : (ofRatio sign n d : Binary f).isFinite = true) :
    Nearest ((if sign then -1 else 1) * (n / d)) (ofRatio sign n d : Binary f) := by
  cases sign with
  | false =>
    rw [if_neg Bool.false_ne_true, one_mul]
    exact ofRatio_nonneg_nearest several n positive finite
  | true =>
    rw [ofRatio_true, isFinite_neg] at finite
    rw [ofRatio_true, if_pos rfl, neg_one_mul]
    exact (ofRatio_nonneg_nearest several n positive finite).neg

end Binary

end ZeroGuard
