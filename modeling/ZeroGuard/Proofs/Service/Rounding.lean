import ZeroGuard.Proofs.Decimal.Nearest
import ZeroGuard.Proofs.Decimal.Spelling
import ZeroGuard.Proofs.Service.Guard

namespace ZeroGuard

namespace Service

variable {settings : Settings} {request : Request}

/-- A request for a quotient of decimals is answered with the text of the quotient. -/
theorem Asks.outcome_of_div {a b quotient : Decimal}
    (asks : Asks settings request .decimal (.decimal a) (.decimal b))
    (operator : request.operator = .quotient) (nonzero : b.isZero = false)
    (divided : a.div b = .ok quotient) :
    (divide settings.defaultNumericType request).outcome =
      .ok (.ok ⟨true, some quotient.text, .decimal, .quotient⟩) := by
  have whole : Number.divide request.operator (.decimal a) (.decimal b) = .ok (.decimal quotient) := by
    rw [operator, Number.divide_decimal, Decimal.divide, divided]
    rfl
  have vanishing := (Decimal.isZero_iff b).not.mp (Bool.eq_false_iff.mp nonzero)
  rw [asks.outcome_of_divided vanishing whole, operator]
  rfl

/-- No digit of an operand is lost on the way to a decimal. The text of the quotient of two finite
decimals denotes it exactly if 28 digits are enough for that. Otherwise it shows 28 digits, of the
number nearest to the quotient, and the even one of two that are equally near. -/
theorem decimal_quotient_correctly_rounded (settings : Settings) (request : Request)
    (type : request.numericType.getD settings.defaultNumericType = .decimal)
    (operator : request.operator = .quotient) :
    (∀ (raw : Operand) negative coefficient exponent,
      raw.convert .decimal = .ok (.decimal (.finite negative coefficient exponent)) →
      Decimal.SpelledBy raw.written (.finite negative coefficient exponent)) ∧
    ∀ x n i y d j, request.a.convert .decimal = .ok (.decimal (.finite x n i)) →
      request.b.convert .decimal = .ok (.decimal (.finite y d j)) → d ≠ 0 →
      let quotient := (Decimal.finite x n i).value / (Decimal.finite y d j).value
      (quotient = 0 ∨ ∃ rounded, RoundsToDigits 28 |quotient| rounded ∧
        -999999 ≤ Int.log 10 rounded ∧ Int.log 10 rounded ≤ 999999) →
      ∃ text negative coefficient exponent,
        (divide settings.defaultNumericType request).outcome =
          .ok (.ok ⟨true, some text, .decimal, .quotient⟩) ∧
        Decimal.SpelledBy text.toList (.finite negative coefficient exponent) ∧
        CorrectlyRounded 28 quotient coefficient
          (Decimal.finite negative coefficient exponent).value := by
  refine ⟨?_, ?_⟩
  · intro raw negative coefficient exponent converted
    obtain ⟨_, read, same⟩ := map_eq_ok_iff.mp converted
    cases same
    exact Operand.spelledBy_written read
  · intro x n i y d j first second nonzero quotient range
    obtain ⟨coefficient, exponent, divided, correct⟩ := Decimal.div_correct x y i j nonzero range
    have asks : Asks settings request .decimal (.decimal (.finite x n i)) (.decimal (.finite y d j)) :=
      ⟨type, first, second⟩
    have outcome := asks.outcome_of_div operator (beq_eq_false_iff_ne.mpr nonzero) divided
    refine ⟨_, x != y, coefficient, exponent, outcome, ?_, correct⟩
    rw [Decimal.text, String.toList_ofList]
    exact Decimal.spelledBy_chars _ _ _

/-- A dividend of 29 digits is a tie beside 1; the even one of its neighbours ends in zero. -/
theorem half_of_last_digit_goes_to_even :
    let request : Request :=
      ⟨.text "1.0000000000000000000000000005", .int 1, some .decimal, .quotient⟩
    (divide .float request).outcome =
        .ok (.ok ⟨true, some "1.000000000000000000000000000", .decimal, .quotient⟩) ∧
      ∃ text negative coefficient exponent, (divide .float request).outcome =
          .ok (.ok ⟨true, some text, .decimal, .quotient⟩) ∧
        Decimal.SpelledBy text.toList (.finite negative coefficient exponent) ∧
        CorrectlyRounded 28 ((Decimal.finite false 10000000000000000000000000005 (-28)).value /
          (Decimal.finite false 1 0).value) coefficient
            (Decimal.finite negative coefficient exponent).value := by
  intro request
  refine ⟨by decide +kernel, ?_⟩
  have first : request.a.convert .decimal =
      .ok (.decimal (.finite false 10000000000000000000000000005 (-28))) := by decide +kernel
  have second : request.b.convert .decimal = .ok (.decimal (.finite false 1 0)) := by decide
  have quotient : (Decimal.finite false 10000000000000000000000000005 (-28)).value /
      (Decimal.finite false 1 0).value = 1 + 5 / 10 ^ 28 := by
    norm_num [Decimal.value]
  have magnitude : |(1 : ℚ) + 5 / 10 ^ 28| = 1 + 5 / 10 ^ 28 := abs_of_pos (by norm_num)
  have log : Int.log 10 ((1 : ℚ) + 5 / 10 ^ 28) = 0 :=
    log_eq_of_bounds (by norm_num) (by norm_num)
  have place : lastPlace 28 ((1 : ℚ) + 5 / 10 ^ 28) = -27 := by
    rw [lastPlace, log]
    rfl
  have rounds : RoundsToDigits 28 ((1 : ℚ) + 5 / 10 ^ 28) 1 := by
    refine ⟨10 ^ 27, ⟨?_, fun _ => Even.pow_of_ne_zero ?_ ?_⟩, ?_⟩
    · rw [place]
      norm_num
    · decide
    · decide
    · rw [place]
      norm_num
  have spelled := (decimal_quotient_correctly_rounded .default request rfl rfl).2 _ _ _ _ _ _
    first second one_ne_zero
  refine spelled (.inr ⟨1, ?_, ?_⟩)
  · rw [quotient, magnitude]
    exact rounds
  · rw [Int.log_one_right]
    decide

end Service

end ZeroGuard
