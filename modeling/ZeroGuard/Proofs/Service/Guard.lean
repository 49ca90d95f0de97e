import ZeroGuard.Proofs.Service.Course
import ZeroGuard.Settings.Basic

namespace ZeroGuard.Service

variable {type : NumericType} {request : Request} {a b : Number} {run : Run}

theorem Course.outcome_of_vanishes (course : Course type request run)
    (first : request.a.convert type = .ok a) (second : request.b.convert type = .ok b)
    (zero : b.Vanishes) : run.outcome = .ok (.ok ⟨false, none, type, request.operator⟩) := by
  rcases course.of_converted first second with ⟨_, rfl⟩ | ⟨nonzero, _⟩ | ⟨nonzero, _⟩
  · exact respond_none_outcome _ _ _ _
  · exact absurd zero nonzero
  · exact absurd zero nonzero

theorem Course.outcome_of_divided (course : Course type request run)
    (first : request.a.convert type = .ok a) (second : request.b.convert type = .ok b)
    (nonzero : ¬ b.Vanishes) {quotient : Number}
    (divided : a.divide request.operator b = .ok quotient) :
    run.outcome = quotient.text.map fun text =>
      .ok ⟨true, some text, type, request.operator⟩ := by
  rcases course.of_converted first second with ⟨zero, _⟩ | ⟨_, _, failed, _⟩ | ⟨_, _, found, rfl⟩
  · exact absurd zero nonzero
  · cases divided.symm.trans failed
  · cases divided.symm.trans found
    exact respond_some_outcome _ _ _ _ _

theorem Course.present_of_not_vanishes (course : Course type request run)
    (first : request.a.convert type = .ok a) (second : request.b.convert type = .ok b)
    (nonzero : ¬ b.Vanishes) {response : Response}
    (ended : run.outcome = .ok (.ok response)) : response.present = true := by
  rcases course.of_converted first second with ⟨zero, _⟩ | ⟨_, _, _, rfl⟩ | ⟨_, quotient, _, rfl⟩
  · exact absurd zero nonzero
  · cases ended
  · rw [respond_some_outcome] at ended
    obtain ⟨_, -, same⟩ := map_eq_ok_iff.mp ended
    cases same
    rfl

theorem Course.response_fields (course : Course type request run) {response : Response}
    (ended : run.outcome = .ok (.ok response)) :
    (response.present = true ↔ response.value ≠ none) ∧ response.numericType = type ∧
      response.operator = request.operator := by
  rcases course.response_cases ended with ⟨_, rfl⟩ | ⟨_, _, _, _, rfl⟩ <;> simp

/-- A request whose type, named or by default, is the given one and whose operands are converted to
the given numbers. -/
structure Asks (settings : Settings) (request : Request) (type : NumericType) (a b : Number) :
    Prop where
  effective : request.numericType.getD settings.defaultNumericType = type
  dividend : request.a.convert type = .ok a
  divisor : request.b.convert type = .ok b

theorem Asks.course {settings : Settings} (asks : Asks settings request type a b) :
    Course type request (divide settings.defaultNumericType request) :=
  asks.effective ▸ (divide_eq_iff settings.defaultNumericType request _).mp rfl

/-- Beside the operator only the numbers count, and not how they are sent. -/
theorem Asks.divide_eq {settings : Settings} (asks : Asks settings request type a b) :
    divide settings.defaultNumericType request = divideNumbers type request.operator a b := by
  rw [divide, asks.effective, withOperand_of_ok asks.dividend, withOperand_of_ok asks.divisor]

theorem Asks.outcome_of_divided {settings : Settings} (asks : Asks settings request type a b)
    (nonzero : ¬ b.Vanishes) {quotient : Number}
    (divided : a.divide request.operator b = .ok quotient) :
    (divide settings.defaultNumericType request).outcome = quotient.text.map fun text =>
      .ok ⟨true, some text, type, request.operator⟩ :=
  asks.course.outcome_of_divided asks.dividend asks.divisor nonzero divided

/-- A request of an operator on two operands, whose type, named or by default, is the given one. -/
structure Sends (settings : Settings) (request : Request) (type : NumericType) (op : Operator)
    (x y : Operand) : Prop where
  effective : request.numericType.getD settings.defaultNumericType = type
  operator : request.operator = op
  dividend : request.a = x
  divisor : request.b = y

theorem Sends.asks {settings : Settings} {op : Operator} {x y : Operand}
    (sends : Sends settings request type op x y) (first : x.convert type = .ok a)
    (second : y.convert type = .ok b) : Asks settings request type a b :=
  ⟨sends.effective, sends.dividend ▸ first, sends.divisor ▸ second⟩

/-- The guard from end to end: the divisor alone decides whether there is a quotient. -/
theorem absent_exactly_for_zero (settings : Settings) (request : Request) :
    let type := request.numericType.getD settings.defaultNumericType
    let outcome := (divide settings.defaultNumericType request).outcome
    (∀ a b, request.a.convert type = .ok a → request.b.convert type = .ok b →
      (b.Vanishes → outcome = .ok (.ok ⟨false, none, type, request.operator⟩)) ∧
      (¬ b.Vanishes → ∀ response, outcome = .ok (.ok response) → response.present = true)) ∧
    ∀ response, outcome = .ok (.ok response) →
      (response.present = true ↔ response.value ≠ none) ∧ response.numericType = type ∧
        response.operator = request.operator := by
  have course := (divide_eq_iff settings.defaultNumericType request _).mp rfl
  refine ⟨fun a b first second => ⟨?_, ?_⟩, fun response => course.response_fields⟩
  · exact course.outcome_of_vanishes first second
  · exact fun nonzero response => course.present_of_not_vanishes first second nonzero

/-- A signaling NaN by a negative zero with an exponent. -/
theorem absent_for_signaling_dividend :
    (divide .float ⟨.text "sNaN", .text "-0E+5", some .decimal, .floor⟩).outcome =
      .ok (.ok ⟨false, none, .decimal, .floor⟩) :=
  ((absent_exactly_for_zero .default ⟨.text "sNaN", .text "-0E+5", some .decimal, .floor⟩).1
    (.decimal (.nan false true 0)) (.decimal (.finite true 0 5)) (by decide) (by decide)).1
    ⟨true, 5, rfl⟩

theorem Course.fails_iff_divide_error (course : Course type request run)
    (first : request.a.convert type = .ok a) (second : request.b.convert type = .ok b)
    (nonzero : ¬ b.Vanishes) :
    (∃ message, run.outcome = .ok (.error ⟨.arithmeticFailure, message⟩)) ↔
      ∃ fault, a.divide request.operator b = .error fault := by
  rcases course.of_converted first second with
    ⟨zero, _⟩ | ⟨_, cause, failed, rfl⟩ | ⟨_, quotient, divided, rfl⟩
  · exact absurd zero nonzero
  · exact iff_of_true ⟨_, rfl⟩ ⟨cause, failed⟩
  · refine iff_of_false ?_ (by simp [divided])
    rintro ⟨message, ended⟩
    rw [respond_some_outcome] at ended
    obtain ⟨_, -, same⟩ := map_eq_ok_iff.mp ended
    cases same

theorem Course.fails_iff (course : Course type request run)
    (first : request.a.convert type = .ok a) (second : request.b.convert type = .ok b)
    (nonzero : ¬ b.Vanishes) :
    (∃ message, run.outcome = .ok (.error ⟨.arithmeticFailure, message⟩)) ↔
      Number.DivisionFails type request.operator a b :=
  (course.fails_iff_divide_error first second nonzero).trans
    (Number.divide_error_iff (Operand.convert_has first) (Operand.convert_has second) nonzero)

theorem Course.type_of_fails (course : Course type request run) {message : String}
    (ended : run.outcome = .ok (.error ⟨.arithmeticFailure, message⟩)) :
    type = .int ∧ request.operator = .quotient ∨ type = .decimal := by
  rcases course.failure_cases ended with ⟨other, _⟩ | ⟨_, a, b, _, first, second, nonzero, _⟩
  · cases other
  · exact ((course.fails_iff first second nonzero).mp ⟨message, ended⟩).type_cases

/-- The exact condition for an arithmetic failure, and the types in which there is one at all. -/
theorem fails_exactly_beyond_range (settings : Settings) (request : Request) :
    let type := request.numericType.getD settings.defaultNumericType
    let fails := ∃ message, (divide settings.defaultNumericType request).outcome =
      .ok (.error ⟨.arithmeticFailure, message⟩)
    (∀ a b, request.a.convert type = .ok a → request.b.convert type = .ok b → ¬ b.Vanishes →
      (fails ↔ Number.DivisionFails type request.operator a b)) ∧
    (fails → type = .int ∧ request.operator = .quotient ∨ type = .decimal) := by
  have course := (divide_eq_iff settings.defaultNumericType request _).mp rfl
  refine ⟨fun a b => course.fails_iff, ?_⟩
  rintro ⟨message, ended⟩
  exact course.type_of_fails ended

/-- The least quotient of integers that fails is a tie, which is rounded away from the doubles. -/
theorem fails_at_tie :
    ∃ message, (divide .float ⟨.int (2 ^ 1024 - 2 ^ 970), .int 1, some .int, .quotient⟩).outcome =
      .ok (.error ⟨.arithmeticFailure, message⟩) := by
  refine ((fails_exactly_beyond_range .default
    ⟨.int (2 ^ 1024 - 2 ^ 970), .int 1, some .int, .quotient⟩).1 (.int _) (.int 1) rfl rfl
    one_ne_zero).mpr (.int ?_)
  rw [Int.cast_one, div_one, Int.cast_sub, Int.cast_pow, Int.cast_pow, Int.cast_ofNat]
  exact le_abs_self _

end ZeroGuard.Service
