import ZeroGuard.Proofs.Service.Course
import ZeroGuard.Settings.Basic

namespace ZeroGuard.Service

variable {type : NumericType} {request : Request} {raw : Operand} {quotient : Number}

/-- An integer without a value in the type whose refusal cannot be written. -/
def RefusalTooLong (type : NumericType) (request : Request) : Prop :=
  ∃ n, FirstRefused type request (.int n) ∧ 10 ^ 4300 ≤ n.natAbs

/-- A quotient that cannot be written. -/
def QuotientTooLong (type : NumericType) (request : Request) : Prop :=
  ∃ quotient, Yields type request quotient ∧ quotient.TooLong

theorem FirstRefused.exists_course (refused : FirstRefused type request raw) :
    ∃ cause, Course type request (Service.refused type raw cause) := by
  cases refused with
  | dividend first => exact ⟨_, .refusedFirst first⟩
  | divisor first second => exact ⟨_, .refusedSecond first second⟩

theorem FirstRefused.unconverted (refused : FirstRefused type request raw) :
    ∃ cause, raw.convert type = .error cause := by
  cases refused with
  | dividend first => exact ⟨_, first⟩
  | divisor _ second => exact ⟨_, second⟩

theorem FirstRefused.short (refused : FirstRefused type request raw) (shortA : request.a.Short)
    (shortB : request.b.Short) : raw.Short := by
  cases refused with
  | dividend => exact shortA
  | divisor => exact shortB

theorem RefusalTooLong.type_of (long : RefusalTooLong type request) :
    type = .float ∨ type = .float32 ∨ type = .float64 ∨ type = .int64 := by
  obtain ⟨n, refused, _⟩ := long
  obtain ⟨cause, failed⟩ := refused.unconverted
  exact Operand.convert_int_error failed

theorem Yields.exists_course (yields : Yields type request quotient) :
    ∃ a b, Course type request (respond type request.operator a b (some quotient)) := by
  obtain ⟨first, second, nonzero, divided⟩ := yields
  exact ⟨_, _, .present first second nonzero divided⟩

theorem QuotientTooLong.type_of (long : QuotientTooLong type request) :
    type = .int ∧ request.operator = .floor ∨ type = .fraction := by
  obtain ⟨_, ⟨first, second, _, divided⟩, long⟩ := long
  exact Number.tooLong_quotient (Operand.convert_has first) (Operand.convert_has second) divided long

theorem refused_outcome_error_iff (cause fault : Fault) :
    (refused type raw cause).outcome = .error fault ↔
      fault = .integerTooLong ∧ ∃ n, raw = .int n ∧ 10 ^ 4300 ≤ n.natAbs := by
  rw [refused_outcome, map_eq_error_iff, Operand.shown_error_iff]

theorem respond_outcome_error_iff (op : Operator) (a b : Number) (fault : Fault) :
    (respond type op a b (some quotient)).outcome = .error fault ↔
      fault = .integerTooLong ∧ quotient.TooLong := by
  rw [respond_some_outcome, map_eq_error_iff, Number.text_error_iff]

/-- Of the five courses only a refusal and a quotient can end with a fault. -/
theorem Course.outcome_error {run : Run} (course : Course type request run) {fault : Fault}
    (escaped : run.outcome = .error fault) :
    fault = .integerTooLong ∧ (RefusalTooLong type request ∨ QuotientTooLong type request) := by
  cases course with
  | refusedFirst first =>
    obtain ⟨rfl, n, same, long⟩ := (refused_outcome_error_iff _ _).mp escaped
    exact ⟨rfl, .inl ⟨n, same ▸ .dividend first, long⟩⟩
  | refusedSecond first second =>
    obtain ⟨rfl, n, same, long⟩ := (refused_outcome_error_iff _ _).mp escaped
    exact ⟨rfl, .inl ⟨n, same ▸ .divisor first second, long⟩⟩
  | absent => cases escaped
  | failed => cases escaped
  | present first second nonzero divided =>
    obtain ⟨rfl, long⟩ := (respond_outcome_error_iff _ _ _ _).mp escaped
    exact ⟨rfl, .inr ⟨_, ⟨first, second, nonzero, divided⟩, long⟩⟩

theorem outcome_error_iff (default : NumericType) (request : Request) (fault : Fault) :
    (divide default request).outcome = .error fault ↔ fault = .integerTooLong ∧
      (RefusalTooLong (request.numericType.getD default) request ∨
        QuotientTooLong (request.numericType.getD default) request) := by
  constructor
  · exact ((divide_eq_iff default request _).mp rfl).outcome_error
  · rintro ⟨rfl, ⟨n, refused, long⟩ | ⟨quotient, yields, long⟩⟩
    · obtain ⟨cause, course⟩ := refused.exists_course
      rw [course.divide_eq]
      exact (refused_outcome_error_iff _ _).mpr ⟨rfl, n, rfl, long⟩
    · obtain ⟨a, b, course⟩ := yields.exists_course
      rw [course.divide_eq]
      exact (respond_outcome_error_iff _ _ _ _).mpr ⟨rfl, long⟩

theorem RefusalTooLong.not_short (long : RefusalTooLong type request) (shortA : request.a.Short) :
    ¬ request.b.Short := by
  obtain ⟨n, refused, long⟩ := long
  intro shortB
  have bound : n.natAbs < 10 ^ 4300 := refused.short shortA shortB n rfl
  exact not_le.mpr bound long

/-- A floored quotient of integers is no longer than the dividend. -/
theorem QuotientTooLong.type_eq_fraction (long : QuotientTooLong type request)
    (short : request.a.Short) : type = .fraction := by
  rcases long.type_of with ⟨rfl, floored⟩ | rational
  · obtain ⟨_, ⟨first, second, _, divided⟩, long⟩ := long
    obtain ⟨m, converted, rfl⟩ := map_eq_ok_iff.mp first
    obtain ⟨n, -, rfl⟩ := map_eq_ok_iff.mp second
    rw [floored, Number.divide_int] at divided
    exact absurd long (Number.divInt_floor_not_tooLong (short.toInt_natAbs_lt converted) divided)
  · exact rational

/-- Where no operand is too long an integer, a fault can leave the service for rationals only. -/
theorem outcome_error_of_short {default : NumericType} {fault : Fault} (shortA : request.a.Short)
    (shortB : request.b.Short) (escaped : (divide default request).outcome = .error fault) :
    request.numericType.getD default = .fraction := by
  rcases ((outcome_error_iff default request fault).mp escaped).2 with refusal | quotient
  · exact absurd shortB (refusal.not_short shortA)
  · exact quotient.type_eq_fraction shortA

/-- The exact condition for a fault to leave the service, and the fault that it then is. -/
theorem divide_escapes_iff (settings : Settings) (request : Request) :
    let type := request.numericType.getD settings.defaultNumericType
    (∀ fault, (divide settings.defaultNumericType request).outcome = .error fault ↔
      fault = .integerTooLong ∧
        ((type = .float ∨ type = .float32 ∨ type = .float64 ∨ type = .int64) ∧
            RefusalTooLong type request ∨
          QuotientTooLong type request)) ∧
    (QuotientTooLong type request →
      type = .int ∧ request.operator = .floor ∨ type = .fraction) := by
  refine ⟨fun fault => ?_, QuotientTooLong.type_of⟩
  rw [outcome_error_iff]
  refine and_congr_right fun _ => or_congr_left ?_
  exact ⟨fun long => ⟨long.type_of, long⟩, And.right⟩

/-- The least integer that cannot be shown. -/
example : (divide .int64 ⟨.int (10 ^ 4300), .int 1, none, .floor⟩).outcome =
    .error .integerTooLong := by
  decide +kernel

end ZeroGuard.Service
