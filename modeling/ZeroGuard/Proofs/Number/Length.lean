import ZeroGuard.Proofs.Number.Division

namespace ZeroGuard

theorem isWritable_iff (n : Int) : isWritable n = true ↔ n.natAbs < 10 ^ 4300 := by
  rw [isWritable, decide_eq_true_iff, tenPow_eq, digitLimit]

theorem writeInteger_error_iff (n : Int) (fault : Fault) :
    writeInteger n = .error fault ↔ fault = .integerTooLong ∧ 10 ^ 4300 ≤ n.natAbs := by
  rw [writeInteger, ← not_lt, ← isWritable_iff]
  split_ifs with short
  · simp [short]
  · simp [short, eq_comm]

theorem writeInteger_of_lt {n : Int} (short : n.natAbs < 10 ^ 4300) :
    writeInteger n = .ok (integerText n) :=
  if_pos ((isWritable_iff n).mpr short)

namespace Number

/-- The integers, and the numerators and denominators, of more than 4300 digits. -/
def TooLong : Number → Prop
  | int n => 10 ^ 4300 ≤ n.natAbs
  | rational q => 10 ^ 4300 ≤ q.num.natAbs ∨ 10 ^ 4300 ≤ q.den
  | _ => False

theorem rational_text_error_iff (q : Rat) (fault : Fault) : Rational.text q = .error fault ↔
    fault = .integerTooLong ∧ (10 ^ 4300 ≤ q.num.natAbs ∨ 10 ^ 4300 ≤ q.den) := by
  cases numerator : writeInteger q.num with
  | error cause =>
    have long := (writeInteger_error_iff q.num cause).mp numerator
    simp only [Rational.text, numerator, bind, Except.bind, Except.error.injEq, long.2, true_or,
      and_true, long.1, eq_comm]
  | ok shown =>
    have short : ¬ 10 ^ 4300 ≤ q.num.natAbs := fun long => by
      rw [(writeInteger_error_iff q.num _).mpr ⟨rfl, long⟩] at numerator
      cases numerator
    simp only [short, false_or]
    by_cases whole : q.den = 1
    · have one : ¬ 10 ^ 4300 ≤ 1 := not_le.mpr (one_lt_pow₀ (by decide) (by decide))
      simp only [Rational.text, numerator, bind, Except.bind, whole, if_true, one, and_false,
        reduceCtorEq]
    · have denominator := writeInteger_error_iff q.den fault
      rw [Int.natAbs_natCast] at denominator
      rw [← denominator]
      simp only [Rational.text, numerator, bind, Except.bind, whole]
      cases writeInteger q.den <;> simp

theorem text_error_iff (n : Number) (fault : Fault) :
    n.text = .error fault ↔ fault = .integerTooLong ∧ n.TooLong := by
  cases n with
  | int n => exact writeInteger_error_iff n fault
  | rational q => exact rational_text_error_iff q fault
  | _ => exact iff_of_false nofun (fun long => long.2)

variable {type : NumericType} {op : Operator} {a b q : Number}

/-- In every other type and by the other operator the quotient is of another kind. -/
theorem tooLong_quotient (hasA : type.Has a) (hasB : type.Has b) (run : divide op a b = .ok q)
    (long : q.TooLong) : type = .int ∧ op = .floor ∨ type = .fraction := by
  cases hasA <;> cases hasB
  case int.int m n =>
    cases op with
    | floor => exact .inl ⟨rfl, rfl⟩
    | quotient =>
      rw [divide_int, divInt] at run
      split_ifs at run
      obtain ⟨x, -, rfl⟩ := map_eq_ok_iff.mp run
      exact long.elim
  case fraction.fraction => exact .inr rfl
  case decimal.decimal =>
    rw [divide_decimal] at run
    obtain ⟨d, -, rfl⟩ := map_eq_ok_iff.mp run
    exact long.elim
  case float.float =>
    rw [divide_float] at run
    cases op <;> simp only [divDouble] at run <;> split_ifs at run <;> cases run <;> exact long.elim
  case float32.float32 | float64.float64 | int64.int64 => cases op <;> cases run <;> exact long.elim

theorem divInt_floor_not_tooLong {m n : Int} (short : m.natAbs < 10 ^ 4300)
    (run : divInt .floor m n = .ok q) : ¬ q.TooLong := by
  simp only [divInt] at run
  split_ifs at run
  cases run
  exact not_le.mpr ((Int.natAbs_fdiv_le_natAbs m n).trans_lt short)

end Number

end ZeroGuard
