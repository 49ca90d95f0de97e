import ZeroGuard.Proofs.Guard
import ZeroGuard.Proofs.Operand

namespace ZeroGuard

namespace Number

variable {type : NumericType} {op : Operator} {a b : Number}

theorem safeDivide_of_vanishes (op : Operator) (a : Number) (zero : b.Vanishes) :
    a.safeDivide op b = .ok none :=
  (guarded_eq_none_iff _ _ a b).mpr (isZero_eq_true_iff.mpr zero)

/-- A signaling NaN as the divisor stops the comparison with the fault that the division has. -/
theorem safeDivide_of_not_vanishes (hasA : type.Has a) (hasB : type.Has b)
    (nonzero : ¬ b.Vanishes) : a.safeDivide op b = (a.divide op b).map some := by
  cases quiet : b.isSignaling with
  | false =>
    have run : b.isZero = .ok false := (isZero_iff quiet false).mpr (iff_of_false nofun nonzero)
    rw [safeDivide, guarded, run]
    rfl
  | true =>
    rw [safeDivide, guarded, isZero_of_signaling quiet]
    cases hasB with
    | decimal d =>
      cases hasA with
      | decimal c =>
        have loud := Decimal.nanResult?_signaling (a := c) (.inr quiet)
        have run : c.divide op d = .error (.signal .invalid) := by
          cases op <;> simp only [Decimal.divide, Decimal.div, Decimal.truncDiv, loud]
        rw [divide_decimal, run]
        rfl
    | _ => cases quiet

end Number

namespace Service

/-- An operand is refused, unless it cannot even be shown. -/
def refused (type : NumericType) (raw : Operand) (cause : Fault) : Run :=
  match raw.shown with
  | .error fault => ⟨.error fault, []⟩
  | .ok shown => rejected (refusal shown type.name cause.message)

/-- A division has failed. -/
def failed (type : NumericType) (op : Operator) (a b : Number) (cause : Fault) : Run :=
  ⟨.ok (.error ⟨.arithmeticFailure, type.name ++ " " ++ op.name ++ " failed: " ++ cause.message⟩),
    [record .warning (failureMessage type op a b cause)]⟩

/-- The courses of a call whose operands are converted to a type. -/
inductive Course (type : NumericType) (request : Request) : Run → Prop
  | refusedFirst {cause : Fault} : request.a.convert type = .error cause →
      Course type request (refused type request.a cause)
  | refusedSecond {a : Number} {cause : Fault} : request.a.convert type = .ok a →
      request.b.convert type = .error cause → Course type request (refused type request.b cause)
  | absent {a b : Number} : request.a.convert type = .ok a → request.b.convert type = .ok b →
      b.Vanishes → Course type request (respond type request.operator a b none)
  | failed {a b : Number} {cause : Fault} : request.a.convert type = .ok a →
      request.b.convert type = .ok b → ¬ b.Vanishes →
      a.divide request.operator b = .error cause →
      Course type request (failed type request.operator a b cause)
  | present {a b quotient : Number} : request.a.convert type = .ok a →
      request.b.convert type = .ok b → ¬ b.Vanishes →
      a.divide request.operator b = .ok quotient →
      Course type request (respond type request.operator a b (some quotient))

/-- The first operand of a request that has no value in a type. -/
inductive FirstRefused (type : NumericType) (request : Request) : Operand → Prop
  | dividend {cause : Fault} : request.a.convert type = .error cause →
      FirstRefused type request request.a
  | divisor {a : Number} {cause : Fault} : request.a.convert type = .ok a →
      request.b.convert type = .error cause → FirstRefused type request request.b

/-- The quotient of a request whose operands have values in a type, with a divisor that is not
zero. -/
inductive Yields (type : NumericType) (request : Request) : Number → Prop
  | intro {a b quotient : Number} : request.a.convert type = .ok a →
      request.b.convert type = .ok b → ¬ b.Vanishes →
      a.divide request.operator b = .ok quotient → Yields type request quotient

variable {type : NumericType} {op : Operator} {raw : Operand} {a b quotient : Number}
  {cause : Fault} {next : Number → Run}

theorem withOperand_of_ok (converted : raw.convert type = .ok a) :
    withOperand type raw next = next a := by
  rw [withOperand, parseOperand_ok_iff.mpr converted]

theorem withOperand_of_error (unconverted : raw.convert type = .error cause) :
    withOperand type raw next = refused type raw cause := by
  rw [withOperand, parseOperand_of_error unconverted, refused]
  cases raw.shown <;> rfl

theorem divideNumbers_of_vanishes (a : Number) (zero : b.Vanishes) :
    divideNumbers type op a b = respond type op a b none := by
  rw [divideNumbers, Number.safeDivide_of_vanishes op a zero]

theorem divideNumbers_of_ok (hasA : type.Has a) (hasB : type.Has b) (nonzero : ¬ b.Vanishes)
    (run : a.divide op b = .ok quotient) :
    divideNumbers type op a b = respond type op a b (some quotient) := by
  rw [divideNumbers, Number.safeDivide_of_not_vanishes hasA hasB nonzero, run]
  rfl

theorem divideNumbers_of_error (hasA : type.Has a) (hasB : type.Has b) (nonzero : ¬ b.Vanishes)
    (run : a.divide op b = .error cause) :
    divideNumbers type op a b = failed type op a b cause := by
  have arithmetic := Number.divide_error_arithmetic hasA hasB nonzero run
  rw [divideNumbers, Number.safeDivide_of_not_vanishes hasA hasB nonzero, run]
  exact if_pos arithmetic

/-- Some course is open to every request. -/
theorem exists_course (type : NumericType) (request : Request) :
    ∃ run, Course type request run := by
  cases first : request.a.convert type with
  | error cause => exact ⟨_, .refusedFirst first⟩
  | ok a =>
    cases second : request.b.convert type with
    | error cause => exact ⟨_, .refusedSecond first second⟩
    | ok b =>
      by_cases zero : b.Vanishes
      · exact ⟨_, .absent first second zero⟩
      · cases run : a.divide request.operator b with
        | error cause => exact ⟨_, .failed first second zero run⟩
        | ok quotient => exact ⟨_, .present first second zero run⟩

theorem Course.divide_eq {default : NumericType} {request : Request} {run : Run}
    (course : Course (request.numericType.getD default) request run) :
    divide default request = run := by
  cases course with
  | refusedFirst first => rw [divide, withOperand_of_error first]
  | refusedSecond first second => rw [divide, withOperand_of_ok first, withOperand_of_error second]
  | absent first second zero =>
    rw [divide, withOperand_of_ok first, withOperand_of_ok second, divideNumbers_of_vanishes _ zero]
  | failed first second nonzero failed =>
    rw [divide, withOperand_of_ok first, withOperand_of_ok second, divideNumbers_of_error
      (Operand.convert_has first) (Operand.convert_has second) nonzero failed]
  | present first second nonzero divided =>
    rw [divide, withOperand_of_ok first, withOperand_of_ok second, divideNumbers_of_ok
      (Operand.convert_has first) (Operand.convert_has second) nonzero divided]

/-- The course that is open to a request is the one that its call takes. -/
theorem divide_eq_iff (default : NumericType) (request : Request) (run : Run) :
    divide default request = run ↔ Course (request.numericType.getD default) request run := by
  constructor
  · rintro rfl
    obtain ⟨run, course⟩ := exists_course (request.numericType.getD default) request
    exact course.divide_eq ▸ course
  · exact Course.divide_eq

@[simp] theorem refused_outcome (type : NumericType) (raw : Operand) (cause : Fault) :
    (refused type raw cause).outcome =
      raw.shown.map fun shown => .error (refusal shown type.name cause.message) := by
  rw [refused]
  cases raw.shown <;> rfl

@[simp] theorem respond_none_outcome (type : NumericType) (op : Operator) (a b : Number) :
    (respond type op a b none).outcome = .ok (.ok ⟨false, none, type, op⟩) := rfl

@[simp] theorem respond_some_outcome (type : NumericType) (op : Operator) (a b quotient : Number) :
    (respond type op a b (some quotient)).outcome =
      quotient.text.map fun text => .ok ⟨true, some text, type, op⟩ := by
  have whole : (some quotient).mapM Number.text = quotient.text.map some := by
    cases written : quotient.text <;> simp [written] <;> rfl
  rw [respond, whole]
  cases quotient.text <;> rfl

/-- The courses of a request whose operands have values in the type. -/
theorem Course.of_converted {request : Request} {run : Run} (course : Course type request run)
    (first : request.a.convert type = .ok a) (second : request.b.convert type = .ok b) :
    (b.Vanishes ∧ run = respond type request.operator a b none) ∨
      (¬ b.Vanishes ∧ ∃ cause, a.divide request.operator b = .error cause ∧
        run = Service.failed type request.operator a b cause) ∨
      (¬ b.Vanishes ∧ ∃ quotient, a.divide request.operator b = .ok quotient ∧
        run = respond type request.operator a b (some quotient)) := by
  cases course with
  | refusedFirst unconverted => cases unconverted.symm.trans first
  | refusedSecond _ unconverted => cases unconverted.symm.trans second
  | absent found converted zero =>
    cases found.symm.trans first
    cases converted.symm.trans second
    exact .inl ⟨zero, rfl⟩
  | failed found converted nonzero failed =>
    cases found.symm.trans first
    cases converted.symm.trans second
    exact .inr (.inl ⟨nonzero, _, failed, rfl⟩)
  | present found converted nonzero divided =>
    cases found.symm.trans first
    cases converted.symm.trans second
    exact .inr (.inr ⟨nonzero, _, divided, rfl⟩)

/-- The two courses that end with a response. -/
theorem Course.response_cases {request : Request} {run : Run} {response : Response}
    (course : Course type request run) (ended : run.outcome = .ok (.ok response)) :
    (∃ a b, request.a.convert type = .ok a ∧ request.b.convert type = .ok b ∧ b.Vanishes) ∧
        response = ⟨false, none, type, request.operator⟩ ∨
      ∃ quotient text, Yields type request quotient ∧ quotient.text = .ok text ∧
        response = ⟨true, some text, type, request.operator⟩ := by
  cases course with
  | refusedFirst | refusedSecond =>
    rw [refused_outcome] at ended
    obtain ⟨_, -, same⟩ := map_eq_ok_iff.mp ended
    cases same
  | @absent a b first second zero =>
    cases ended
    exact .inl ⟨⟨a, b, first, second, zero⟩, rfl⟩
  | failed => cases ended
  | @present a b quotient first second nonzero divided =>
    rw [respond_some_outcome] at ended
    obtain ⟨text, written, same⟩ := map_eq_ok_iff.mp ended
    cases same
    exact .inr ⟨quotient, text, ⟨first, second, nonzero, divided⟩, written, rfl⟩

/-- The courses that end with a failure, told apart by its code. -/
theorem Course.failure_cases {request : Request} {run : Run} {failure : Failure}
    (course : Course type request run) (ended : run.outcome = .ok (.error failure)) :
    failure.code = .invalidOperand ∧ (∃ raw, FirstRefused type request raw) ∨
      failure.code = .arithmeticFailure ∧ ∃ a b cause, request.a.convert type = .ok a ∧
        request.b.convert type = .ok b ∧ ¬ b.Vanishes ∧
        a.divide request.operator b = .error cause := by
  cases course with
  | refusedFirst first =>
    rw [refused_outcome] at ended
    obtain ⟨_, -, same⟩ := map_eq_ok_iff.mp ended
    cases same
    exact .inl ⟨rfl, _, .dividend first⟩
  | refusedSecond first second =>
    rw [refused_outcome] at ended
    obtain ⟨_, -, same⟩ := map_eq_ok_iff.mp ended
    cases same
    exact .inl ⟨rfl, _, .divisor first second⟩
  | absent => cases ended
  | @failed a b cause first second nonzero failed =>
    cases ended
    exact .inr ⟨rfl, a, b, cause, first, second, nonzero, failed⟩
  | present =>
    rw [respond_some_outcome] at ended
    obtain ⟨_, -, same⟩ := map_eq_ok_iff.mp ended
    cases same

end Service

end ZeroGuard
