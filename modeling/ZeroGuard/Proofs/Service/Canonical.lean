import ZeroGuard.Proofs.Number.Floor
import ZeroGuard.Proofs.Rational.Denotation
import ZeroGuard.Proofs.Service.Guard

namespace ZeroGuard

/-- The text of a rational: that of an integer, or of two integers without a common factor, of which
the second has no sign and is greater than one. -/
inductive Rational.WrittenAs : ℚ → String → Prop
  | whole (p : ℤ) : WrittenAs p (integerText p)
  | fraction {p : ℤ} {d : ℕ} : 1 < d → Int.gcd p d = 1 →
      WrittenAs (p / d) (integerText p ++ "/" ++ Nat.repr d)

theorem Rational.writtenAs_of_text {q : ℚ} {text : String} (written : Rational.text q = .ok text) :
    WrittenAs q text := by
  obtain ⟨numerator, above, rest⟩ := bind_eq_ok_iff.mp written
  obtain ⟨rfl, -⟩ := writeInteger_eq_ok above
  split_ifs at rest with whole
  · cases rest
    rw [← Rat.coe_int_num_of_den_eq_one whole, Rat.num_intCast]
    exact .whole q.num
  · obtain ⟨denominator, below, same⟩ := bind_eq_ok_iff.mp rest
    cases same
    obtain ⟨rfl, -⟩ := writeInteger_eq_ok below
    have several : 1 < q.den := lt_of_le_of_ne q.pos (Ne.symm whole)
    have reduced : WrittenAs (q.num / q.den) (integerText q.num ++ "/" ++ Nat.repr q.den) :=
      .fraction several q.reduced
    rwa [Rat.num_div_den, ← integerText_natCast] at reduced

namespace Service

variable {settings : Settings} {request : Request} {a b : ℚ} {response : Response}

theorem Asks.quotient_of_rationals (asks : Asks settings request .fraction (.rational a) (.rational b))
    (operator : request.operator = .quotient) (nonzero : b ≠ 0)
    (answered : (divide settings.defaultNumericType request).outcome = .ok (.ok response)) :
    ∃ text, response = ⟨true, some text, .fraction, .quotient⟩ ∧ Rational.WrittenAs (a / b) text := by
  have divided : Number.divide request.operator (.rational a) (.rational b) =
      .ok (.rational (a / b)) := by
    rw [operator, Number.divide_rational]
    exact if_neg nonzero
  rw [asks.outcome_of_divided nonzero divided, operator] at answered
  obtain ⟨text, written, same⟩ := map_eq_ok_iff.mp answered
  cases same
  exact ⟨text, rfl, Rational.writtenAs_of_text written⟩

theorem Asks.floor_of_rationals (asks : Asks settings request .fraction (.rational a) (.rational b))
    (operator : request.operator = .floor) (nonzero : b ≠ 0)
    (answered : (divide settings.defaultNumericType request).outcome = .ok (.ok response)) :
    response = ⟨true, some (integerText ⌊a / b⌋), .fraction, .floor⟩ := by
  have divided : Number.divide request.operator (.rational a) (.rational b) =
      .ok (.int ⌊a / b⌋) := by
    rw [operator, Number.divide_rational, Number.divRational_floor a nonzero]
  rw [asks.outcome_of_divided nonzero divided, operator] at answered
  obtain ⟨text, written, same⟩ := map_eq_ok_iff.mp answered
  cases same
  rw [(writeInteger_eq_ok written).1]

/-- Answers to requests of rationals are exact, they have one form, and two requests of the same
rationals have the same answer. -/
theorem fraction_answers_canonical
    (asks : Asks settings request .fraction (.rational a) (.rational b)) :
    (b ≠ 0 → ∀ response,
      (divide settings.defaultNumericType request).outcome = .ok (.ok response) →
      (request.operator = .quotient → ∃ q text, q * b = a ∧ Rational.WrittenAs q text ∧
        response = ⟨true, some text, .fraction, .quotient⟩) ∧
      (request.operator = .floor →
        response = ⟨true, some (integerText ⌊a / b⌋), .fraction, .floor⟩)) ∧
    (∀ p, request.a.Denotes p ↔ p = a) ∧ (∀ p, request.b.Denotes p ↔ p = b) ∧
    ∀ (others : Settings) (other : Request) (c d : ℚ),
      Asks others other .fraction (.rational c) (.rational d) → other.operator = request.operator →
      other.a.Denotes a → other.b.Denotes b →
      divide others.defaultNumericType other = divide settings.defaultNumericType request := by
  refine ⟨fun nonzero response answered => ⟨fun operator => ?_, fun operator => ?_⟩, ?_, ?_, ?_⟩
  · obtain ⟨text, same, written⟩ := asks.quotient_of_rationals operator nonzero answered
    exact ⟨a / b, text, div_mul_cancel₀ a nonzero, written, same⟩
  · exact asks.floor_of_rationals operator nonzero answered
  · exact fun p => Operand.denotes_iff_of_convert asks.dividend
  · exact fun p => Operand.denotes_iff_of_convert asks.divisor
  · intro others other c d also operator first second
    have dividend := (Operand.denotes_iff_of_convert also.dividend).mp first
    have divisor := (Operand.denotes_iff_of_convert also.divisor).mp second
    rw [also.divide_eq, asks.divide_eq, operator, dividend, divisor]

/-- A fraction with a common factor by a numeral with an exponent, and the same rationals as reduced
fractions. -/
theorem same_answer_of_same_rationals :
    let request : Request := ⟨.text " -1_4/06", .text "5e-1", some .fraction, .quotient⟩
    let other : Request := ⟨.text "-7/3", .text "1/2", none, .quotient⟩
    (divide .float request).outcome = .ok (.ok ⟨true, some "-14/3", .fraction, .quotient⟩) ∧
      (∃ q, q * (1 / 2) = -7 / 3 ∧ Rational.WrittenAs q "-14/3") ∧
      divide .fraction other = divide .float request := by
  intro request other
  have asks : Asks .default request .fraction (.rational (-7 / 3)) (.rational (1 / 2)) :=
    ⟨rfl, by decide +kernel, by decide +kernel⟩
  let others : Settings := { Settings.default with defaultNumericType := .fraction }
  have also : Asks others other .fraction (.rational (-7 / 3)) (.rational (1 / 2)) :=
    ⟨rfl, by decide +kernel, by decide +kernel⟩
  have answered : (divide .float request).outcome =
      .ok (.ok ⟨true, some "-14/3", .fraction, .quotient⟩) := by decide +kernel
  obtain ⟨answers, -, -, same⟩ := fraction_answers_canonical asks
  obtain ⟨q, _, exact, written, shown⟩ := (answers (by norm_num) _ answered).1 rfl
  cases shown
  refine ⟨answered, ⟨q, exact, written⟩, same others other _ _ also rfl ?_ ?_⟩
  · exact (Operand.denotes_iff_of_convert also.dividend).mpr rfl
  · exact (Operand.denotes_iff_of_convert also.divisor).mpr rfl

end Service

end ZeroGuard
