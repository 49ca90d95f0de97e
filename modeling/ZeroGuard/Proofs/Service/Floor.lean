import ZeroGuard.Proofs.Decimal.Spelling
import ZeroGuard.Proofs.Number.Floor
import ZeroGuard.Proofs.Service.Guard

namespace ZeroGuard

namespace Decimal

/-- The quotient of two integers without its fraction, with the sign that the quotient has. -/
def truncated (a b : ℤ) : Decimal :=
  finite (decide (a < 0) != decide (b < 0)) (a.natAbs / b.natAbs) 0

theorem truncated_text (a b : ℤ) :
    (truncated a b).text = (if a < 0 ↔ b < 0 then "" else "-") ++ Nat.repr (a.natAbs / b.natAbs) := by
  have sign : String.ofList (signChars (decide (a < 0) != decide (b < 0))) =
      if a < 0 ↔ b < 0 then "" else "-" := by
    by_cases dividend : a < 0 <;> by_cases divisor : b < 0 <;> simp [dividend, divisor, signChars]
  rw [text, truncated, chars_whole, String.ofList_append, String.ofList_toList, sign]

theorem spelledBy_truncated (a b : ℤ) : SpelledBy (truncated a b).text.toList (truncated a b) := by
  rw [text, String.toList_ofList]
  exact spelledBy_chars _ _ _

/-- The truncated quotient is above the floored one where the quotient is negative and not whole. -/
theorem truncated_value {a b : ℤ} (nonzero : b ≠ 0) (opposite : ¬ (a < 0 ↔ b < 0))
    (divides : ¬ b ∣ a) : (truncated a b).value = a.fdiv b + 1 := by
  have sign : (decide (a < 0) != decide (b < 0)) = true := by simpa using opposite
  rw [truncated, value, if_pos sign, fdiv_of_opposite_sign nonzero opposite, if_neg divides]
  generalize a.natAbs / b.natAbs = whole
  push_cast
  ring

/-- The integer part of the quotient of two integers, if 28 digits are enough for it. -/
theorem truncDiv_ofInt (a : ℤ) {b : ℤ} (nonzero : b ≠ 0) :
    (ofInt a).truncDiv (ofInt b) =
      if 10 ^ 28 ≤ a.natAbs / b.natAbs then .error (.signal .impossible)
      else .ok (truncated a b) := by
  have positive : 0 < b.natAbs := Int.natAbs_pos.mpr nonzero
  have ratio : (a.natAbs : ℚ) / b.natAbs = a.natAbs / b.natAbs * 10 ^ (0 - 0 : ℤ) := by simp
  have long : (10 : ℤ) ^ precision ≤ ⌊(a.natAbs : ℚ) / b.natAbs⌋ ↔ 10 ^ 28 ≤ a.natAbs / b.natAbs := by
    rw [← Int.natCast_floor_eq_floor (by positivity), Nat.floor_div_eq_div]
    norm_cast
  have run : (ofInt a).truncDiv (ofInt b) =
      truncQuotient (decide (a < 0) != decide (b < 0)) a.natAbs b.natAbs (0 - 0) :=
    if_neg positive.ne'
  simp only [run, truncQuotient_eq _ _ positive ratio, long, Nat.floor_div_eq_div, truncated]

end Decimal

/-- The text of a truncated quotient is that of the floored one if both are the same integer, and
the truncated one is not a zero with a sign. -/
theorem integerText_fdiv_eq_iff {a b : ℤ} (nonzero : b ≠ 0) :
    integerText (a.fdiv b) = (Decimal.truncated a b).text ↔
      (a < 0 ↔ b < 0) ∨ b ∣ a ∧ a ≠ 0 := by
  rw [Decimal.truncated_text]
  by_cases same : a < 0 ↔ b < 0
  · rw [fdiv_of_same_sign nonzero same, integerText_natCast, if_pos same, String.empty_append]
    exact iff_of_true rfl (.inl same)
  rw [fdiv_of_opposite_sign nonzero same, if_neg same]
  by_cases divides : b ∣ a
  · rw [if_pos divides, sub_zero]
    by_cases zero : a = 0
    -- A zero by a negative divisor has a sign as a decimal only.
    · subst zero
      refine iff_of_false ?_ (not_or.mpr ⟨same, fun divided => divided.2 rfl⟩)
      rw [Int.natAbs_zero, Nat.zero_div]
      decide
    · have positive : 0 < a.natAbs / b.natAbs :=
        Nat.div_pos (Int.natAbs_le_of_dvd_ne_zero divides zero) (Int.natAbs_pos.mpr nonzero)
      rw [integerText_neg_natCast positive]
      exact iff_of_true rfl (.inr ⟨divides, zero⟩)
  · have next : -((a.natAbs / b.natAbs : ℕ) : ℤ) - 1 = -((a.natAbs / b.natAbs + 1 : ℕ) : ℤ) := by
      omega
    rw [if_neg divides, next, integerText_neg_natCast (Nat.succ_pos _)]
    refine iff_of_false (fun equal => ?_) (not_or.mpr ⟨same, fun divided => divides divided.1⟩)
    have digits := digitsValue_repr (a.natAbs / b.natAbs + 1)
    rw [(String.append_right_inj _).mp equal, digitsValue_repr] at digits
    omega

namespace Service

variable {settings others : Settings} {request other : Request} {a b : ℤ}

theorem not_vanishes_ofInt (nonzero : b ≠ 0) : ¬ (Number.decimal (.ofInt b)).Vanishes := by
  rw [Number.Vanishes, ← Decimal.isZero_iff, Decimal.ofInt, Decimal.isZero, beq_iff_eq,
    Int.natAbs_eq_zero]
  exact nonzero

theorem Asks.outcome_of_floored (asks : Asks settings request .int (.int a) (.int b))
    (operator : request.operator = .floor) (nonzero : b ≠ 0)
    (short : (a.fdiv b).natAbs < 10 ^ 4300) :
    (divide settings.defaultNumericType request).outcome =
      .ok (.ok ⟨true, some (integerText (a.fdiv b)), .int, .floor⟩) := by
  have divided : Number.divide request.operator (.int a) (.int b) = .ok (.int (a.fdiv b)) := by
    rw [operator, Number.divide_int, Number.divInt, if_neg nonzero]
  rw [asks.outcome_of_divided nonzero divided, Number.text, writeInteger_of_lt short, operator,
    Except.map]

section Decimals

variable (asks : Asks settings request .decimal (.decimal (.ofInt a)) (.decimal (.ofInt b)))
  (operator : request.operator = .floor) (nonzero : b ≠ 0)
include asks operator nonzero

theorem Asks.truncation_fails_iff : (∃ message, (divide settings.defaultNumericType request).outcome =
    .ok (.error ⟨.arithmeticFailure, message⟩)) ↔ 10 ^ 28 ≤ a.natAbs / b.natAbs := by
  rw [asks.course.fails_iff_divide_error asks.dividend asks.divisor (not_vanishes_ofInt nonzero),
    operator, Number.divide_decimal, Decimal.divide, Decimal.truncDiv_ofInt a nonzero]
  split_ifs with long
  · exact iff_of_true ⟨_, rfl⟩ long
  · exact iff_of_false (by simp [Except.map]) long

theorem Asks.outcome_of_truncated (short : a.natAbs / b.natAbs < 10 ^ 28) :
    (divide settings.defaultNumericType request).outcome =
      .ok (.ok ⟨true, some (Decimal.truncated a b).text, .decimal, .floor⟩) := by
  have divided : Number.divide request.operator (.decimal (.ofInt a)) (.decimal (.ofInt b)) =
      .ok (.decimal (.truncated a b)) := by
    rw [operator, Number.divide_decimal, Decimal.divide, Decimal.truncDiv_ofInt a nonzero,
      if_neg (not_le.mpr short), Except.map]
  rw [asks.outcome_of_divided (not_vanishes_ofInt nonzero) divided, Number.text, operator,
    Except.map]

end Decimals

/-- The same two integers divided in both types. -/
theorem floors_of_integers_and_decimals (nonzero : b ≠ 0)
    (whole : Sends settings request .int .floor (.int a) (.int b))
    (decimal : Sends others other .decimal .floor (.int a) (.int b)) :
    let integers := (divide settings.defaultNumericType request).outcome
    let decimals := (divide others.defaultNumericType other).outcome
    let digits := a.natAbs / b.natAbs
    ∃ q, FlooredQuotient a b q ∧ (∀ p, FlooredQuotient a b p → p = q) ∧
      (q.natAbs < 10 ^ 4300 →
        integers = .ok (.ok ⟨true, some (integerText q), .int, .floor⟩)) ∧
      ((∃ message, decimals = .ok (.error ⟨.arithmeticFailure, message⟩)) ↔ 10 ^ 28 ≤ digits) ∧
      (digits < 10 ^ 28 → ∃ text d,
        integers = .ok (.ok ⟨true, some (integerText q), .int, .floor⟩) ∧
        decimals = .ok (.ok ⟨true, some text, .decimal, .floor⟩) ∧
        text = (if a < 0 ↔ b < 0 then "" else "-") ++ Nat.repr digits ∧
        Decimal.SpelledBy text.toList d ∧
        (integerText q = text ↔ (a < 0 ↔ b < 0) ∨ b ∣ a ∧ a ≠ 0) ∧
        (integerText q ≠ text → a ≠ 0 → d.value = q + 1)) := by
  intro integers decimals digits
  have floored := (whole.asks rfl rfl).outcome_of_floored whole.operator nonzero
  have truncated := (decimal.asks rfl rfl).outcome_of_truncated decimal.operator nonzero
  refine ⟨a.fdiv b, (flooredQuotient_iff nonzero).mpr rfl,
    fun p => (flooredQuotient_iff nonzero).mp, floored,
    (decimal.asks rfl rfl).truncation_fails_iff decimal.operator nonzero, fun short => ?_⟩
  refine ⟨_, Decimal.truncated a b, floored ?_, truncated short, Decimal.truncated_text a b,
    Decimal.spelledBy_truncated a b, integerText_fdiv_eq_iff nonzero, fun differ some => ?_⟩
  · calc (a.fdiv b).natAbs ≤ a.natAbs / b.natAbs + 1 := natAbs_fdiv_le a nonzero
      _ ≤ 10 ^ 28 := short
      _ < 10 ^ 4300 := pow_lt_pow_right₀ (by decide) (by decide)
  · obtain ⟨opposite, partly⟩ := not_or.mp ((integerText_fdiv_eq_iff nonzero).not.mp differ)
    exact Decimal.truncated_value nonzero opposite fun divides => partly ⟨divides, some⟩

/-- A third below zero is floored to the next integer and truncated to a zero with a sign. -/
theorem third_below_zero_in_both_types :
    let request : Request := ⟨.int (-1), .int 3, some .int, .floor⟩
    let other : Request := ⟨.int (-1), .int 3, some .decimal, .floor⟩
    (divide .float request).outcome = .ok (.ok ⟨true, some "-1", .int, .floor⟩) ∧
      (divide .float other).outcome = .ok (.ok ⟨true, some "-0", .decimal, .floor⟩) ∧
      ∃ q, FlooredQuotient (-1) 3 q ∧ integerText q = "-1" ∧
        ∃ d : Decimal, Decimal.SpelledBy "-0".toList d ∧ d.value = q + 1 := by
  intro request other
  have whole : Sends .default request .int .floor (.int (-1)) (.int 3) := ⟨rfl, rfl, rfl, rfl⟩
  have decimal : Sends .default other .decimal .floor (.int (-1)) (.int 3) :=
    ⟨rfl, rfl, rfl, rfl⟩
  have integers : (divide Settings.default.defaultNumericType request).outcome =
      .ok (.ok ⟨true, some "-1", .int, .floor⟩) := by decide +kernel
  have decimals : (divide Settings.default.defaultNumericType other).outcome =
      .ok (.ok ⟨true, some "-0", .decimal, .floor⟩) := by decide +kernel
  obtain ⟨q, floored, -, -, -, answers⟩ :=
    floors_of_integers_and_decimals (by decide) whole decimal
  obtain ⟨text, d, first, second, -, spelled, agree, next⟩ := answers (by decide)
  have floor : integerText q = "-1" := by simpa using first.symm.trans integers
  have truncated : text = "-0" := by simpa using second.symm.trans decimals
  rw [truncated] at spelled agree next
  have differ : integerText q ≠ "-0" := agree.not.mpr (by decide)
  exact ⟨integers, decimals, q, floored, floor, d, spelled, next differ (by decide)⟩

end Service

end ZeroGuard
