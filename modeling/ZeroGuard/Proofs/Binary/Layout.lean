import ZeroGuard.Number.Basic
import ZeroGuard.Proofs.Binary.Text

namespace ZeroGuard

def ShortDecimal.value (short : ShortDecimal) : ℚ :=
  short.coefficient * 10 ^ short.exponent

/-- How many digits stand before the point, or how far behind it the first one stands. -/
def ShortDecimal.place (short : ShortDecimal) : ℤ :=
  digitCount short.coefficient + short.exponent

/-- A power of ten is not above a decimal just if the point stands behind it. -/
theorem ShortDecimal.lt_place_iff {short : ShortDecimal} (some : short.coefficient ≠ 0) (power : ℤ) :
    power < short.place ↔ (10 : ℚ) ^ power ≤ short.value := by
  constructor
  · intro before
    have first : (10 : ℚ) ^ (short.place - 1) ≤ short.value :=
      Binary.ten_zpow_le_decimal short.coefficient short.exponent some
    exact (zpow_le_zpow_right₀ (by norm_num) (by omega)).trans first
  · intro reached
    have last : short.value < 10 ^ short.place :=
      Binary.decimal_lt_ten_zpow short.coefficient short.exponent
    exact (zpow_lt_zpow_iff_right₀ (by norm_num)).mp (reached.trans_lt last)

theorem length_toDigits (n : Nat) : (Nat.toDigits 10 n).length = digitCount n := by
  have some : 0 < (Nat.toDigits 10 n).length := by
    rw [← toList_repr]
    exact List.length_pos_iff.mpr (repr_ne_nil n)
  refine le_antisymm ?_ ?_
  · rw [digitCount_eq_log]
    exact (Nat.length_toDigits_le_iff (by decide) (Nat.succ_pos _)).mpr
      (Nat.lt_pow_succ_log_self (by decide) n)
  · exact digitCount_le_of_lt some ((Nat.length_toDigits_le_iff (by decide) some).mp le_rfl)

namespace Binary

variable {f : Format} {x : ℚ} {y z : Binary f} {rank mark : Fin f.size}

/-- What is rounded to a number lies below the middle to any greater one. -/
theorem Nearest.two_mul_le (nearest : Nearest x y) (finite : z.isFinite = true)
    (less : y.value < z.value) : 2 * x ≤ y.value + z.value := by
  have near := nearest.near z finite
  rcases abs_cases (x - y.value) with ⟨first, _⟩ | ⟨first, _⟩ <;>
    rcases abs_cases (x - z.value) with ⟨second, _⟩ | ⟨second, _⟩ <;>
    rw [first, second] at near <;> linarith

theorem Nearest.le_two_mul (nearest : Nearest x y) (finite : z.isFinite = true)
    (less : z.value < y.value) : z.value + y.value ≤ 2 * x := by
  have mirrored := nearest.neg.two_mul_le (z := z.neg) (by rwa [isFinite_neg])
    (by rwa [value_neg, value_neg, neg_lt_neg_iff])
  rw [value_neg, value_neg] at mirrored
  linarith

section Shortest

variable (several : 0 < f.fractionBits) (binades : 2 ≤ f.binades)
include several binades

theorem nearest_shortest (rank : Fin f.size) :
    Nearest (f.shortest rank).value (finite false rank : Binary f) := by
  have rounded := rounded_ofDecimal (Nat.zero_lt_of_lt rank.isLt) binades false
    (f.shortest rank).coefficient (f.shortest rank).exponent
  rw [ofDecimal_shortest several binades] at rounded
  have value : (Decimal.finite false (f.shortest rank).coefficient (f.shortest rank).exponent).value =
      (f.shortest rank).value := by
    simp [Decimal.value, ShortDecimal.value]
  exact value ▸ rounded.nearest several rfl

/-- Two decimals lie on the two sides of a middle, and not both on it, for they are rounded to two
numbers. -/
theorem shortest_strictMono : StrictMono fun rank : Fin f.size => (f.shortest rank).value := by
  intro rank mark less
  have units : (f.units rank : ℚ) < f.units mark := by exact_mod_cast f.units_strictMono less
  have values : (finite false rank : Binary f).value < (finite false mark : Binary f).value := by
    simp only [value, Bool.false_eq_true, if_false, one_mul]
    gcongr
  have above := (nearest_shortest several binades rank).two_mul_le rfl values
  have below := (nearest_shortest several binades mark).le_two_mul rfl values
  refine lt_of_le_of_ne (by linarith) fun same => ?_
  have rounds : (ofDecimal false _ _ : Binary f) = ofDecimal false _ _ :=
    ofDecimal_congr (Nat.zero_lt_of_lt rank.isLt) binades same
  rw [ofDecimal_shortest several binades, ofDecimal_shortest several binades, finite.injEq] at rounds
  exact less.ne rounds.2

theorem shortest_coefficient_ne_zero (some : 0 < rank.val) : (f.shortest rank).coefficient ≠ 0 := by
  have first : (⟨0, Nat.zero_lt_of_lt rank.isLt⟩ : Fin f.size) < rank := some
  have origin : f.shortest 0 = ⟨0, 0⟩ := if_pos rfl
  have positive := shortest_strictMono several binades first
  intro none
  simp [ShortDecimal.value, none, origin] at positive

/-- Where the shortest decimal of a number is a power of ten, the place of the point tells whether
another number is below that one. -/
theorem lt_place_shortest_iff {power : ℤ} (exact : f.shortest mark = ⟨1, power⟩)
    (some : 0 < rank.val) : power < (f.shortest rank).place ↔ mark ≤ rank := by
  have value : (10 : ℚ) ^ power = (f.shortest mark).value := by
    rw [exact, ShortDecimal.value, Nat.cast_one, one_mul]
  rw [ShortDecimal.lt_place_iff (shortest_coefficient_ne_zero several binades some), value]
  exact (shortest_strictMono several binades).le_iff_le

end Shortest

/-- The rank of the double nearest to the ten-thousandth, which is a little above it. -/
def tenThousandth : Fin Format.double.size := ⟨0x3f1a36e2eb1c432d, by decide⟩

/-- The rank of the double that is ten to the power 16. -/
def tenQuadrillion : Fin Format.double.size := ⟨0x4341c37937e08000, by decide⟩

theorem shortest_marks : Format.double.shortest tenThousandth = ⟨1, -4⟩ ∧
    Format.double.shortest tenQuadrillion = ⟨1, 16⟩ := by
  decide +kernel

theorem tenThousandth_le_iff (rank : Fin Format.double.size) :
    tenThousandth ≤ rank ↔ twoPow Format.double.scale ≤ Format.double.units rank * 10000 := by
  have here : twoPow Format.double.scale ≤ Format.double.units tenThousandth * 10000 := by
    decide +kernel
  have before : Format.double.units (tenThousandth.val - 1) * 10000 < twoPow Format.double.scale := by
    decide +kernel
  have order := Format.double.units_strictMono.monotone
  constructor
  · intro reached
    exact here.trans (Nat.mul_le_mul_right _ (order reached))
  · intro reached
    by_contra below
    have short : rank.val ≤ tenThousandth.val - 1 := Nat.le_sub_one_of_lt (not_le.mp below)
    exact absurd (reached.trans (Nat.mul_le_mul_right _ (order short))) (not_le.mpr before)

theorem lt_tenQuadrillion_iff (rank : Fin Format.double.size) :
    rank < tenQuadrillion ↔ Format.double.units rank < tenPow 16 * twoPow Format.double.scale := by
  have here : tenPow 16 * twoPow Format.double.scale = Format.double.units tenQuadrillion := by
    decide +kernel
  rw [here, Format.double.units_strictMono.lt_iff_lt]
  exact Iff.rfl

theorem isPositional_by_value (units : Nat) (place : ℤ) :
    isPositional (f := f) .fixedDouble units place =
      decide (units = 0 ∨ twoPow f.scale ≤ units * 10000 ∧ units < tenPow 16 * twoPow f.scale) :=
  rfl

theorem isPositional_by_place (units : Nat) (place : ℤ) :
    isPositional (f := f) .double units place = decide (-4 < place ∧ place ≤ 16) :=
  rfl

/-- The decimal that is written for a double and the double itself lie between the same bounds: at each
of the two, the decimal of the nearest double is the power of ten. -/
theorem isPositional_fixedDouble (rank : Fin Format.double.size) :
    let units := Format.double.units rank
    let place := (Format.double.shortest rank).place
    isPositional (f := .double) .fixedDouble units place =
      isPositional (f := .double) .double units place := by
  intro units place
  rw [isPositional_by_value, isPositional_by_place, decide_eq_decide]
  by_cases first : rank.val = 0
  · have none : units = 0 := by simp [units, first, Format.units]
    have origin : place = 1 := by
      simp only [place, first]
      decide
    simp [none, origin]
  · have some : units ≠ 0 := by
      have positive := Format.double.units_strictMono (Nat.pos_of_ne_zero first)
      omega
    have lower := lt_place_shortest_iff (by decide) (by decide) shortest_marks.1
      (Nat.pos_of_ne_zero first)
    have upper := lt_place_shortest_iff (by decide) (by decide) shortest_marks.2
      (Nat.pos_of_ne_zero first)
    rw [← tenThousandth_le_iff, ← lt_tenQuadrillion_iff, ← lower, or_iff_right some,
      ← not_le (a := tenQuadrillion), ← upper, not_lt]

/-- Doubles of fixed width are written like plain ones. -/
theorem text_fixedDouble (x : Double) : x.text .fixedDouble = x.text .double := by
  cases x with
  | finite negative rank =>
    have layout := isPositional_fixedDouble rank
    rw [ShortDecimal.place, ← length_toDigits] at layout
    rw [text, text, chars_finite, chars_finite, layout]
    rfl
  | _ => rfl

end Binary

theorem Number.text_float64 (x : Double) : (float64 x).text = (float x).text :=
  congrArg Except.ok (Binary.text_fixedDouble x)

end ZeroGuard
