import ZeroGuard.Proofs.Service.Messages

namespace ZeroGuard.Service

variable {type : NumericType} {request : Request} {raw : Operand} {a b : Number} {run : Run}
  {failure : Failure} {cause : Fault}

/-- The record of a call that has returned. Its level tells a failure from a response, and for a
refused operand it has the message of the failure. -/
structure Reports (result : Except Failure Response) (record : Log.Record) : Prop where
  logger : record.logger = Service.logger
  warning : record.level = .warning ↔ ∃ failure, result = .error failure
  debug : record.level = .debug ↔ ∃ response, result = .ok response
  refusal : ∀ failure, result = .error failure → failure.code = .invalidOperand →
    record.message = .ok ("Operand rejected: " ++ failure.message)

theorem reports_failure {message : Except Fault String}
    (refusal : failure.code = .invalidOperand →
      message = .ok ("Operand rejected: " ++ failure.message)) :
    Reports (.error failure) (record .warning message) where
  logger := rfl
  warning := iff_of_true rfl ⟨failure, rfl⟩
  debug := iff_of_false (by decide : Log.Level.warning ≠ .debug) nofun
  refusal := by
    rintro _ ⟨⟩
    exact refusal

theorem reports_response (response : Response) (message : Except Fault String) :
    Reports (.ok response) (record .debug message) where
  logger := rfl
  warning := iff_of_false (by decide : Log.Level.debug ≠ .warning) nofun
  debug := iff_of_true rfl ⟨response, rfl⟩
  refusal := nofun

/-- A call that returns leaves the one record that reports it, and a fault leaves none. -/
inductive Leaves : Run → Prop
  | nothing {fault : Fault} : Leaves ⟨.error fault, []⟩
  | report {result : Except Failure Response} {record : Log.Record} :
      Reports result record → Leaves ⟨.ok result, [record]⟩

theorem leaves_refused (type : NumericType) (raw : Operand) (cause : Fault) :
    Leaves (refused type raw cause) := by
  unfold refused
  split
  · exact .nothing
  · exact .report (reports_failure fun _ => rfl)

theorem leaves_respond (type : NumericType) (op : Operator) (a b : Number)
    (quotient : Option Number) : Leaves (respond type op a b quotient) := by
  unfold respond
  split
  · exact .nothing
  · exact .report (reports_response _ _)

theorem Course.leaves (course : Course type request run) : Leaves run := by
  cases course with
  | refusedFirst | refusedSecond => exact leaves_refused _ _ _
  | absent | present => exact leaves_respond _ _ _ _ _
  | failed => exact .report (reports_failure nofun)

/-- How a call ends that comes upon an operand without a value in its type: with the failure of that
operand, or with a fault if the operand is an integer too long to be shown. -/
inductive EndsAt (type : NumericType) (raw : Operand) : Run → Prop
  | failure {failure : Failure} : parseOperand type raw = .ok (.error failure) →
      failure.code = .invalidOperand → EndsAt type raw (rejected failure)
  | escape {n : Int} {fault : Fault} : raw = .int n → 10 ^ 4300 ≤ n.natAbs →
      parseOperand type raw = .error fault → EndsAt type raw ⟨.error fault, []⟩

theorem endsAt_refused (unconverted : raw.convert type = .error cause) :
    EndsAt type raw (refused type raw cause) := by
  have parsed := parseOperand_of_error unconverted
  unfold refused
  cases shown : raw.shown with
  | ok text =>
    rw [shown] at parsed
    exact .failure parsed rfl
  | error fault =>
    obtain ⟨-, n, same, long⟩ := Operand.shown_error_iff.mp shown
    rw [shown] at parsed
    exact .escape same long parsed

/-- The result of a division, told by what comes out of the guard. Of all numbers only the quotient
is written for it. -/
def verdict (type : NumericType) (op : Operator) :
    Except Fault (Option Number) → Except Fault (Except Failure Response)
  | .error cause =>
    .ok (.error ⟨.arithmeticFailure, type.name ++ " " ++ op.name ++ " failed: " ++ cause.message⟩)
  | .ok none => .ok (.ok ⟨false, none, type, op⟩)
  | .ok (some quotient) => quotient.text.map fun text => .ok ⟨true, some text, type, op⟩

theorem Course.outcome_eq_verdict (course : Course type request run)
    (first : request.a.convert type = .ok a) (second : request.b.convert type = .ok b) :
    run.outcome = verdict type request.operator (a.safeDivide request.operator b) := by
  have hasA := Operand.convert_has first
  have hasB := Operand.convert_has second
  rcases course.of_converted first second with ⟨zero, rfl⟩ | ⟨nonzero, cause, failed, rfl⟩ |
    ⟨nonzero, quotient, divided, rfl⟩
  · rw [Number.safeDivide_of_vanishes _ a zero]
    rfl
  · rw [Number.safeDivide_of_not_vanishes hasA hasB nonzero, failed]
    rfl
  · rw [Number.safeDivide_of_not_vanishes hasA hasB nonzero, divided]
    exact respond_some_outcome type _ a b quotient

/-- A record is lost exactly if both operands have values and one of them is too long. -/
theorem Logs.lost_iff (logs : Logs type request run) {record : Log.Record}
    (logged : record ∈ run.records) :
    (∃ fault, record.message = .error fault) ↔ OperandTooLong type request := by
  cases logs with
  | nothing => cases logged
  | record _ _ _ lost =>
    cases List.mem_singleton.mp logged
    exact lost

end ZeroGuard.Service
