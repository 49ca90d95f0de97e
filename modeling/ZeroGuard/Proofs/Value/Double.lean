import ZeroGuard.Proofs.Binary.Text
import ZeroGuard.Proofs.Number.Division
import ZeroGuard.Value.Conversion

namespace ZeroGuard

namespace Value

/-- The double that a number of another kind counts as. -/
inductive HasDouble : Value → Double → Prop
  | int8 (mark n) : HasDouble (.number mark (.int8 n)) (.ofInt n.toInt)
  | int64 (mark n) : HasDouble (.number mark (.int64 n)) (.ofInt n.toInt)
  | float32 (mark x) : HasDouble (.number mark (.float32 x)) x.convert
  | float64 (mark x) : HasDouble (.number mark (.float64 x)) x
  | rational (mark) {q} : |q| < 2 ^ 1024 - 2 ^ 970 →
      HasDouble (.number mark (.rational q)) (.ofRatio (q.num < 0) q.num.natAbs q.den)
  | decimal (mark negative coefficient exponent) :
      HasDouble (.number mark (.decimal (.finite negative coefficient exponent)))
        (.ofDecimal negative coefficient exponent)
  | infinite (mark negative) :
      HasDouble (.number mark (.decimal (.infinite negative))) (.infinite negative)
  | nan (mark negative payload) :
      HasDouble (.number mark (.decimal (.nan negative false payload))) .nan

variable {value : Value} {x : Double}

theorem rationalToDouble_eq_ok_iff (q : Rat) :
    Number.rationalToDouble q = .ok x ↔
      |q| < 2 ^ 1024 - 2 ^ 970 ∧ x = .ofRatio (q.num < 0) q.num.natAbs q.den := by
  have sign : (decide (q.num < 0) != decide ((q.den : Int) < 0)) = decide (q.num < 0) := by
    rw [decide_eq_false (not_lt.mpr (Int.natCast_nonneg q.den)), Bool.bne_false]
  rw [Number.rationalToDouble, Number.intRatio, sign, Int.natAbs_natCast,
    Number.finiteOr_eq_ok_iff, Binary.ofRatio_infinite_iff (by decide) _ _ q.den_pos,
    Format.double_overflow, not_le, Number.abs_rational]

theorem decimalToDouble_finite (negative : Bool) (coefficient : Nat) (exponent : Int) :
    decimalToDouble (.finite negative coefficient exponent) =
      .ok (.ofDecimal negative coefficient exponent) := by
  have read := readDouble_plain (Decimal.isPlain_chars (.finite negative coefficient exponent))
    (Binary.ofChars?_finiteChars negative coefficient exponent)
  simp only [decimalToDouble, Decimal.isSignaling, Bool.false_eq_true, if_false, Decimal.text]
  exact read

theorem decimalToDouble_infinite (negative : Bool) :
    decimalToDouble (.infinite negative) = .ok (.infinite negative) := by
  cases negative <;> rfl

theorem decimalToDouble_eq_ok_iff (mark : Nat) (d : Decimal) :
    decimalToDouble d = .ok x ↔ HasDouble (.number mark (.decimal d)) x := by
  constructor
  · intro run
    cases d with
    | finite negative coefficient exponent =>
      rw [decimalToDouble_finite] at run
      cases run
      exact .decimal mark negative coefficient exponent
    | infinite negative =>
      rw [decimalToDouble_infinite] at run
      cases run
      exact .infinite mark negative
    | nan negative signaling payload =>
      cases signaling <;> cases run
      exact .nan mark negative payload
  · intro has
    cases has with
    | decimal => exact decimalToDouble_finite _ _ _
    | infinite => exact decimalToDouble_infinite _
    | nan => rfl

/-- A value of any other kind has no double. -/
theorem toDouble_eq_ok_iff : value.toDouble = .ok x ↔ value.HasDouble x := by
  constructor
  · intro run
    unfold toDouble at run
    split at run
    · obtain rfl := Except.ok.inj run
      exact .int8 _ _
    · obtain rfl := Except.ok.inj run
      exact .int64 _ _
    · obtain rfl := Except.ok.inj run
      exact .float32 _ _
    · obtain rfl := Except.ok.inj run
      exact .float64 _ _
    · obtain ⟨within, same⟩ := (rationalToDouble_eq_ok_iff _).mp run
      rw [same]
      exact .rational _ within
    · exact (decimalToDouble_eq_ok_iff _ _).mp run
    · cases run
  · intro has
    cases id has with
    | int8 | int64 | float32 | float64 => simp only [toDouble]
    | rational mark within => exact (rationalToDouble_eq_ok_iff _).mpr ⟨within, rfl⟩
    | decimal | infinite | nan => exact (decimalToDouble_eq_ok_iff _ _).mpr has

end Value

end ZeroGuard
