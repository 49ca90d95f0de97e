import ZeroGuard.Proofs.Binary.Text
import ZeroGuard.Proofs.Decimal.Spelling
import ZeroGuard.Proofs.Operand
import ZeroGuard.Proofs.Rational.Denotation

namespace ZeroGuard

namespace Binary

/-- The decimal that the text of a double shows: the same infinity, a NaN that carries nothing, or the
decimal with the sign and the digits of the text. -/
inductive ShownAs : Double → Decimal → Prop
  | finite {negative : Bool} {rank : Fin Format.double.size} {coefficient : Nat} {exponent : ℤ} :
      Decimal.SpelledBy ((Binary.finite negative rank : Double).text .double).toList
        (.finite negative coefficient exponent) →
      ShownAs (.finite negative rank) (.finite negative coefficient exponent)
  | infinite (negative : Bool) : ShownAs (.infinite negative) (.infinite negative)
  | nan : ShownAs .nan (.nan false false 0)

variable {negative : Bool} {rank : Fin Format.double.size} {coefficient : Nat} {exponent : ℤ}

theorem readDecimal_finite (negative : Bool) (rank : Fin Format.double.size) :
    ∃ numeral : Numeral,
      numeral.Fills negative (Format.double.shortest rank).coefficient
        (Format.double.shortest rank).exponent ∧
      readDecimal ((finite negative rank : Double).text .double) =
        .ok (.finite negative numeral.coefficient numeral.scale) := by
  obtain ⟨numeral, scanned, fills⟩ := scan?_chars (rfl : FloatStyle.double.pointZero = true) negative rank
  have plain := Decimal.plainForm_eq_self
    (isPlain_chars .double (finite negative rank : Double))
  refine ⟨numeral, fills, ?_⟩
  rw [readDecimal, text, String.toList_ofList, plain, Decimal.ofPlainForm_of_scan? scanned,
    Decimal.ofNumeral, if_pos (inRange_of_fills fills), fills.sign]

theorem readDouble_of_fills {numeral : Numeral}
    (fills : numeral.Fills negative (Format.double.shortest rank).coefficient
      (Format.double.shortest rank).exponent) :
    readDouble (Decimal.finite negative numeral.coefficient numeral.scale).text =
      .ok (.finite negative rank) := by
  rw [← ofDecimal_of_fills (by decide) (by decide) fills]
  exact readDouble_plain (Decimal.isPlain_chars _)
    (ofChars?_finiteChars negative numeral.coefficient numeral.scale)

end Binary

namespace Operand

variable {x : Double}

/-- A float has a decimal that shows it, and a finite float is read back from the text of that one. -/
theorem toDecimal_float (x : Double) :
    ∃ d, (float x).toDecimal = .ok d ∧ x.ShownAs d ∧
      (x.isFinite = true → readDouble d.text = .ok x) := by
  cases x with
  | nan => exact ⟨_, rfl, .nan, nofun⟩
  | infinite negative => exact ⟨.infinite negative, by cases negative <;> rfl, .infinite negative, nofun⟩
  | finite negative rank =>
    obtain ⟨numeral, fills, read⟩ := Binary.readDecimal_finite negative rank
    have converted : (float (.finite negative rank)).toDecimal =
        .ok (.finite negative numeral.coefficient numeral.scale) := read
    exact ⟨_, converted, .finite (spelledBy_written converted), fun _ => Binary.readDouble_of_fills fills⟩

theorem floatToInt?_eq_some_iff {n : ℤ} :
    floatToInt? x = some n ↔ x.isFinite = true ∧ x.value = n := by
  cases x with
  | nan => simp [floatToInt?, Binary.isFinite]
  | infinite negative => simp [floatToInt?, Binary.isFinite]
  | finite negative rank =>
    have finite : (Binary.finite negative rank : Double).isFinite = true := rfl
    have unit : (twoPow Format.double.scale : ℤ) ≠ 0 := by exact_mod_cast (twoPow_pos _).ne'
    have scaled : ((twoPow Format.double.scale : ℤ) : ℚ) ≠ 0 := by exact_mod_cast unit
    simp only [floatToInt?]
    rw [and_iff_right finite, Binary.value_eq_signedUnits, div_eq_iff scaled, ← Int.cast_mul, Int.cast_inj]
    split_ifs with whole
    · rw [Option.some.injEq, Int.ediv_eq_iff_eq_mul_left unit (Int.dvd_of_emod_eq_zero whole)]
    · rw [iff_false_left (by simp)]
      intro same
      exact whole (by rw [same, Int.mul_emod_left])

theorem toRational_float_error (unbounded : x.isFinite = false) :
    ∃ fault, (float x).toRational = .error fault := by
  cases x with
  | nan => exact ⟨_, rfl⟩
  | infinite negative => exact ⟨_, rfl⟩
  | finite => cases unbounded

/-- The conversions of a float to the exact types. -/
theorem float_as_exact_number (x : Double) :
    (∃ d, parseOperand .decimal (.float x) = .ok (.ok (.decimal d)) ∧ x.ShownAs d ∧
      (x.isFinite = true → parseOperand .float (.text d.text) = .ok (.ok (.float x)))) ∧
    (x.isFinite = true → parseOperand .fraction (.float x) = .ok (.ok (.rational x.value))) ∧
    (x.isFinite = false → (Operand.float x).Refused .fraction) ∧
    (∀ n : ℤ, x.isFinite = true → x.value = n →
      parseOperand .int (.float x) = .ok (.ok (.int n))) ∧
    ((¬ ∃ n : ℤ, x.isFinite = true ∧ x.value = n) → (Operand.float x).Refused .int) := by
  have short : (Operand.float x).Short := nofun
  simp only [parseOperand_ok_iff]
  refine ⟨?_, fun finite => ?_, fun unbounded => ?_, fun n finite whole => ?_, fun broken => ?_⟩
  · obtain ⟨d, read, shown, back⟩ := toDecimal_float x
    exact ⟨d, map_eq_ok_iff.mpr ⟨d, read, rfl⟩, shown,
      fun finite => map_eq_ok_iff.mpr ⟨x, back finite, rfl⟩⟩
  · exact map_eq_ok_iff.mpr ⟨_, toRational_float finite, rfl⟩
  · obtain ⟨_, failed⟩ := toRational_float_error unbounded
    exact short.refused (map_eq_error_iff.mpr failed)
  · have found := floatToInt?_eq_some_iff.mpr ⟨finite, whole⟩
    exact map_eq_ok_iff.mpr ⟨n, by rw [toInt, found], rfl⟩
  · have none : floatToInt? x = none := by
      refine Option.eq_none_iff_forall_ne_some.mpr fun n found => ?_
      exact broken ⟨n, floatToInt?_eq_some_iff.mp found⟩
    exact short.refused (map_eq_error_iff.mpr (by rw [toInt, none]))

/-- The float that is shown as `1e+23`, an infinity, and the negative float nearest to zero. -/
theorem float_shown_with_exponent_as_exact_number :
    let x : Double := .ofRatio false (10 ^ 23) 1
    parseOperand .float (.text (Decimal.finite false 1 23).text) = .ok (.ok (.float x)) ∧
    parseOperand .fraction (.float x) = .ok (.ok (.rational 99999999999999991611392)) ∧
    parseOperand .int (.float x) = .ok (.ok (.int 99999999999999991611392)) ∧
    (float (.infinite true)).Refused .fraction ∧
    (float (.ofRatio true 1 (2 ^ 1074))).Refused .int := by
  intro x
  have finite : x.isFinite = true := by decide +kernel
  have value : x.value = 99999999999999991611392 := by decide +kernel
  have parted : floatToInt? (.ofRatio true 1 (2 ^ 1074)) = none := by decide +kernel
  obtain ⟨⟨d, read, -, back⟩, fraction, -, whole, -⟩ := float_as_exact_number x
  obtain ⟨-, -, unbounded, -, -⟩ := float_as_exact_number (.infinite true)
  obtain ⟨-, -, -, -, broken⟩ := float_as_exact_number (.ofRatio true 1 (2 ^ 1074))
  have shown : parseOperand .decimal (.float x) = .ok (.ok (.decimal (.finite false 1 23))) := by
    decide +kernel
  cases shown.symm.trans read
  refine ⟨back finite, value ▸ fraction finite, whole _ finite value, unbounded rfl, broken ?_⟩
  rintro ⟨n, equal⟩
  cases parted.symm.trans (floatToInt?_eq_some_iff.mpr equal)

end Operand

end ZeroGuard
