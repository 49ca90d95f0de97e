import ZeroGuard.Proofs.Binary.Layout
import ZeroGuard.Proofs.Number.Word
import ZeroGuard.Proofs.Service.Floor

namespace ZeroGuard.Service

/-- The operands that are words are those that are integers within the range of the words. -/
theorem parseOperand_int64_iff {raw : Operand} {n : ℤ} :
    (∃ w : Int64, w.toInt = n ∧ parseOperand .int64 raw = .ok (.ok (.int64 w))) ↔
      parseOperand .int raw = .ok (.ok (.int n)) ∧ FitsWord n := by
  simp only [parseOperand_ok_iff, Operand.convert_int64_iff]
  constructor
  · rintro ⟨w, rfl, converted⟩
    exact ⟨converted, fitsWord_toInt w⟩
  · rintro ⟨converted, fits⟩
    exact ⟨Int64.ofInt n, fits.toInt_ofInt, by rwa [fits.toInt_ofInt]⟩

variable {settings others : Settings} {request other : Request} {op : Operator} {v w : Int64}

/-- Two outcomes that show one text, the first for words and the second for integers. -/
def Agree (op : Operator) (words integers : Except Fault (Except Failure Response)) : Prop :=
  ∃ text, words = .ok (.ok ⟨true, some text, .int64, op⟩) ∧
    integers = .ok (.ok ⟨true, some text, .int, op⟩)

/-- A division of words ends with a response, whatever the words. -/
theorem Asks.answered_of_words {a b : Number} (asks : Asks settings request .int64 a b) :
    ∃ response, (divide settings.defaultNumericType request).outcome = .ok (.ok response) := by
  by_cases zero : b.Vanishes
  · exact ⟨_, asks.course.outcome_of_vanishes asks.dividend asks.divisor zero⟩
  cases Operand.convert_has asks.dividend with
  | int64 v =>
    cases Operand.convert_has asks.divisor with
    | int64 w =>
      obtain ⟨quotient, text, divided, written⟩ := Number.divWord_text request.operator v w
      rw [← Number.divide_int64] at divided
      have answered := asks.outcome_of_divided zero divided
      rw [written] at answered
      exact ⟨_, answered⟩

section Words

variable (words : Asks settings request .int64 (.int64 v) (.int64 w))
  (integers : Asks others other .int (.int v.toInt) (.int w.toInt)) (nonzero : w.toInt ≠ 0)
include words nonzero

theorem Asks.outcome_of_floored_words (operator : request.operator = .floor) :
    (divide settings.defaultNumericType request).outcome = .ok (.ok ⟨true,
      some (integerText (Int64.ofInt (v.toInt.fdiv w.toInt)).toInt), .int64, .floor⟩) := by
  have divided := Number.divWord_floor v nonzero
  rw [← Number.divide_int64, ← operator] at divided
  rw [words.outcome_of_divided nonzero divided, operator, Number.text, Except.map]

include integers

theorem agree_of_quotient (operator : request.operator = .quotient)
    (also : other.operator = .quotient) (dividend : |v.toInt| ≤ 2 ^ 53)
    (divisor : |w.toInt| ≤ 2 ^ 53) :
    Agree .quotient (divide settings.defaultNumericType request).outcome
      (divide others.defaultNumericType other).outcome := by
  have within := Number.abs_ratio_lt 53 (b := w.toInt) dividend (by decide) nonzero
  have divided := Number.divWord_quotient dividend divisor nonzero
  have whole := Number.divInt_quotient_eq nonzero within
  rw [← Number.divide_int64, ← operator] at divided
  rw [← Number.divide_int, ← also] at whole
  have first := words.outcome_of_divided nonzero divided
  have second := integers.outcome_of_divided nonzero whole
  rw [operator, Number.text_float64, Number.text, Except.map] at first
  rw [also, Number.text, Except.map] at second
  exact ⟨_, first, second⟩

theorem agree_of_floor (operator : request.operator = .floor) (also : other.operator = .floor)
    (inside : ¬ (v.toInt = -2 ^ 63 ∧ w.toInt = -1)) :
    Agree .floor (divide settings.defaultNumericType request).outcome
      (divide others.defaultNumericType other).outcome := by
  have fits := (fitsWord_toInt v).fdiv nonzero inside
  have floored := words.outcome_of_floored_words nonzero operator
  rw [fits.toInt_ofInt] at floored
  exact ⟨_, floored, integers.outcome_of_floored also nonzero (lt_digits_of_le fits.natAbs_le)⟩

end Words

/-- Operands that are words are those integers, and they are divided alike. -/
theorem words_agree_with_integers :
    (∀ raw n, (∃ w : Int64, w.toInt = n ∧ parseOperand .int64 raw = .ok (.ok (.int64 w))) ↔
      parseOperand .int raw = .ok (.ok (.int n)) ∧ FitsWord n) ∧
    (∀ raw number, parseOperand .int64 raw = .ok (.ok number) → ∃ w, number = .int64 w) ∧
    (∀ settings others request other op x y a b,
      Sends settings request .int64 op x y → Sends others other .int op x y →
      parseOperand .int x = .ok (.ok (.int a)) → FitsWord a →
      parseOperand .int y = .ok (.ok (.int b)) → FitsWord b → b ≠ 0 →
      let words := (divide settings.defaultNumericType request).outcome
      let integers := (divide others.defaultNumericType other).outcome
      (op = .floor → ¬ (a = -2 ^ 63 ∧ b = -1) → Agree .floor words integers) ∧
      (op = .floor → a = -2 ^ 63 ∧ b = -1 →
        words = .ok (.ok ⟨true, some "-9223372036854775808", .int64, .floor⟩) ∧
        integers = .ok (.ok ⟨true, some "9223372036854775808", .int, .floor⟩)) ∧
      (op = .quotient → |a| ≤ 2 ^ 53 → |b| ≤ 2 ^ 53 → Agree .quotient words integers)) ∧
    ∀ settings request a b, Asks settings request .int64 a b →
      ∃ response, (divide settings.defaultNumericType request).outcome = .ok (.ok response) := by
  refine ⟨fun raw n => parseOperand_int64_iff, ?_, ?_,
    fun settings request a b => Asks.answered_of_words⟩
  · intro raw number parsed
    cases Operand.convert_has (parseOperand_ok_iff.mp parsed) with
    | int64 w => exact ⟨w, rfl⟩
  · intro settings others request other op x y a b sends also first fitsA second fitsB nonzero
    obtain ⟨v, rfl, dividend⟩ := parseOperand_int64_iff.mpr ⟨first, fitsA⟩
    obtain ⟨w, rfl, divisor⟩ := parseOperand_int64_iff.mpr ⟨second, fitsB⟩
    rw [parseOperand_ok_iff] at first second dividend divisor
    have words := sends.asks dividend divisor
    have integers := also.asks first second
    refine ⟨?_, ?_, ?_⟩
    · rintro rfl inside
      exact agree_of_floor words integers nonzero sends.operator also.operator inside
    · rintro rfl ⟨least, negated⟩
      have floored := words.outcome_of_floored_words nonzero sends.operator
      have whole := integers.outcome_of_floored also.operator nonzero
      rw [least, negated] at floored whole
      exact ⟨floored, whole (lt_digits_of_le (by decide))⟩
    · rintro rfl small few
      exact agree_of_quotient words integers nonzero sends.operator also.operator small few

/-- The least word by minus one, the one sent as a text and the other as a float, and the greatest
integers that the doubles hold. -/
theorem words_agree_at_their_ends :
    let request (type : NumericType) : Request :=
      ⟨.text "-9223372036854775808", .float (.ofInt (-1)), some type, .floor⟩
    let other (type : NumericType) : Request :=
      ⟨.int (2 ^ 53 - 1), .int (-2 ^ 53), some type, .quotient⟩
    ((divide .float (request .int64)).outcome =
        .ok (.ok ⟨true, some "-9223372036854775808", .int64, .floor⟩) ∧
      (divide .float (request .int)).outcome =
        .ok (.ok ⟨true, some "9223372036854775808", .int, .floor⟩)) ∧
    Agree .quotient (divide .float (other .int64)).outcome (divide .float (other .int)).outcome := by
  intro request other
  have sends (type : NumericType) :
      Sends .default (request type) type .floor (request type).a (request type).b :=
    ⟨rfl, rfl, rfl, rfl⟩
  have also (type : NumericType) :
      Sends .default (other type) type .quotient (.int (2 ^ 53 - 1)) (.int (-2 ^ 53)) :=
    ⟨rfl, rfl, rfl, rfl⟩
  have least : parseOperand .int (.text "-9223372036854775808") = .ok (.ok (.int (-2 ^ 63))) := by
    decide +kernel
  have negated : parseOperand .int (.float (.ofInt (-1))) = .ok (.ok (.int (-1))) := by
    decide +kernel
  obtain ⟨-, -, agree, -⟩ := words_agree_with_integers
  have floors := agree _ _ _ _ _ _ _ _ _ (sends .int64) (sends .int) least ⟨le_rfl, by decide⟩ negated
    ⟨by decide, by decide⟩ (by decide)
  have quotients := agree _ _ _ _ _ _ _ _ _ (also .int64) (also .int) rfl ⟨by decide, by decide⟩ rfl
    ⟨by decide, by decide⟩ (by decide)
  exact ⟨floors.2.1 rfl ⟨rfl, rfl⟩, quotients.2.2 rfl (by decide) (by decide)⟩

end ZeroGuard.Service
