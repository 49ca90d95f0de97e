import ZeroGuard.Proofs.Number.Word
import ZeroGuard.Proofs.Operand.Denotation
import ZeroGuard.Proofs.Service.Guard

namespace ZeroGuard

/-- The numbers that a numeric type takes for zero. -/
def NumericType.TakesForZero (type : NumericType) (q : ℚ) : Prop :=
  match type with
  | .int | .int64 | .decimal | .fraction => q = 0
  | .float | .float64 => |q| ≤ 1 / 2 ^ 1075
  | .float32 => ∃ x : Double, x.Nearest q ∧ |x.value| ≤ 1 / 2 ^ 150

namespace Binary

variable {q : ℚ} {x y : Double}

/-- One and minus one keep what is nearest to anything beyond them away from zero. -/
theorem Nearest.one_le_abs_value (nearest : x.Nearest q) (large : 1 ≤ |q|) : 1 ≤ |x.value| := by
  have one : (ofInt 1 : Double).value = 1 := by decide +kernel
  have less : (ofInt (-1) : Double).value = -1 := by decide +kernel
  have up := nearest.near (ofInt 1) (by decide +kernel)
  have down := nearest.near (ofInt (-1)) (by decide +kernel)
  rw [one] at up
  rw [less] at down
  rcases le_abs.mp large with positive | negative
  · rw [abs_of_nonneg (by linarith : 0 ≤ q - 1)] at up
    have near := (le_abs_self (q - x.value)).trans up
    exact le_abs.mpr (.inl (by linarith))
  · rw [abs_of_nonpos (by linarith : q - -1 ≤ 0)] at down
    have near := (neg_le_abs (q - x.value)).trans down
    exact le_abs.mpr (.inr (by linarith))

/-- A single that is rounded from the double nearest to a rational is zero if that double is at most half
the least positive single. -/
theorem Rounded.convert_isZero_iff (rounded : Rounded q y) :
    (y.convert : Single).isZero = true ↔ ∃ x : Double, x.Nearest q ∧ |x.value| ≤ 1 / 2 ^ 150 := by
  by_cases finite : y.isFinite = true
  · have nearest := rounded.nearest (by decide) finite
    rw [(rounded_convert finite).isZero_iff Number.single_nonempty]
    constructor
    · exact fun small => ⟨y, nearest, small⟩
    · rintro ⟨x, also, small⟩
      rwa [nearest.value_unique (by decide) also]
  · have beyond : 2 ^ 1024 - 2 ^ 970 ≤ |q| := by
      rw [← Format.double_overflow]
      exact not_lt.mp fun within => finite (rounded.isFinite (by decide) within)
    have infinite := rounded.isNearest.infinite beyond
    have large : (1 : ℚ) ≤ 2 ^ 1024 - 2 ^ 970 := by
      have split : (2 : ℚ) ^ 1024 = 2 ^ 54 * 2 ^ 970 := by rw [← pow_add]
      have least : (1 : ℚ) ≤ 2 ^ 970 := one_le_pow₀ (by norm_num)
      rw [split]
      generalize (2 : ℚ) ^ 970 = half at least ⊢
      linarith
    rw [infinite]
    refine iff_of_false nofun ?_
    rintro ⟨x, nearest, small⟩
    have apart := (nearest.one_le_abs_value (large.trans beyond)).trans small
    exact absurd apart (by norm_num)

end Binary

variable {type : NumericType} {raw : Operand} {b : Number} {q : ℚ}

/-- What an operand becomes is a zero of its type exactly for these numbers. -/
theorem Number.vanishes_iff_takesForZero (converted : raw.convert type = .ok b)
    (denotes : raw.Denotes q) : b.Vanishes ↔ type.TakesForZero q := by
  have double : ∀ {x : Double}, raw.toDouble = .ok x →
      ((∃ negative, x = .zero negative) ↔ |q| ≤ 1 / 2 ^ 1075) := by
    intro x read
    rw [← Binary.isZero_iff double_nonempty]
    exact (Operand.rounded_of_toDouble read denotes).isZero_iff double_nonempty
  cases type with
  | int =>
    obtain ⟨n, read, rfl⟩ := map_eq_ok_iff.mp converted
    rw [denotes.unique (Operand.denotes_of_toInt read)]
    exact Int.cast_eq_zero.symm
  | int64 =>
    cases Operand.convert_has converted with
    | int64 w =>
      obtain ⟨n, read, same⟩ := map_eq_ok_iff.mp (Operand.convert_int64_iff.mp converted)
      rw [denotes.unique (Operand.denotes_of_toInt read), Number.int.inj same]
      exact Int.cast_eq_zero.symm
  | decimal =>
    obtain ⟨d, read, rfl⟩ := map_eq_ok_iff.mp converted
    obtain ⟨negative, coefficient, exponent, rfl, zero⟩ := Operand.zero_of_toDecimal read denotes
    rw [NumericType.TakesForZero, ← zero]
    simp [Vanishes]
  | fraction =>
    obtain ⟨p, read, rfl⟩ := map_eq_ok_iff.mp converted
    rw [denotes.unique (Operand.denotes_of_toRational read)]
    exact Iff.rfl
  | float =>
    obtain ⟨x, read, rfl⟩ := map_eq_ok_iff.mp converted
    exact double read
  | float64 =>
    rw [Operand.convert_float64] at converted
    obtain ⟨x, read, rfl⟩ := map_eq_ok_iff.mp converted
    exact double read
  | float32 =>
    rw [Operand.convert_float32] at converted
    obtain ⟨x, read, rfl⟩ := map_eq_ok_iff.mp converted
    rw [Vanishes, ← Binary.isZero_iff single_nonempty]
    exact (Operand.rounded_of_toDouble read denotes).convert_isZero_iff

namespace Service

variable {settings : Settings} {request : Request} {a : Number}

/-- Whether a response has a quotient is decided by the number that the divisor denotes. -/
theorem absent_exactly_for_divisors_taken_for_zero (asks : Asks settings request type a b)
    (denotes : request.b.Denotes q) :
    (type.TakesForZero q → (divide settings.defaultNumericType request).outcome =
      .ok (.ok ⟨false, none, type, request.operator⟩)) ∧
    ∀ response, (divide settings.defaultNumericType request).outcome = .ok (.ok response) →
      (response.present = false ↔ type.TakesForZero q) := by
  have zero := Number.vanishes_iff_takesForZero asks.divisor denotes
  have absent : type.TakesForZero q → (divide settings.defaultNumericType request).outcome =
      .ok (.ok ⟨false, none, type, request.operator⟩) :=
    fun taken => asks.course.outcome_of_vanishes asks.dividend asks.divisor (zero.mpr taken)
  refine ⟨absent, fun response answered => ⟨fun missing => ?_, fun taken => ?_⟩⟩
  · by_contra kept
    have present := asks.course.present_of_not_vanishes asks.dividend asks.divisor
      (fun vanishes => kept (zero.mp vanishes)) answered
    rw [missing] at present
    cases present
  · cases (absent taken).symm.trans answered
    rfl

/-- A little more than half the least positive single, which the double before it loses. In an exact
type the same divisor has a quotient. -/
theorem absent_after_second_rounding :
    let divisor : Operand := .text "70064923216240853547e-65"
    (divide .float ⟨.int 7, divisor, some .float32, .floor⟩).outcome =
      .ok (.ok ⟨false, none, .float32, .floor⟩) ∧
    ∀ response, (divide .float ⟨.int 7, divisor, some .decimal, .quotient⟩).outcome =
      .ok (.ok response) → response.present ≠ false := by
  intro divisor
  have denotes : divisor.Denotes (70064923216240853547 / 10 ^ 65) :=
    Operand.denotes_of_readRational (by decide +kernel)
  have read : divisor.toDouble = .ok (.ofRatio false 1 (2 ^ 150)) := by decide +kernel
  have nearest := (Operand.rounded_of_toDouble read denotes).nearest (by decide) (by decide +kernel)
  have single : Asks .default ⟨.int 7, divisor, some .float32, .floor⟩ .float32
      (.float32 (.ofInt 7)) (.float32 (.zero false)) :=
    ⟨rfl, by decide +kernel, by decide +kernel⟩
  have decimal : Asks .default ⟨.int 7, divisor, some .decimal, .quotient⟩ .decimal
      (.decimal (.finite false 7 0)) (.decimal (.finite false 70064923216240853547 (-65))) :=
    ⟨rfl, by decide +kernel, by decide +kernel⟩
  obtain ⟨absent, -⟩ := absent_exactly_for_divisors_taken_for_zero single denotes
  obtain ⟨-, exact⟩ := absent_exactly_for_divisors_taken_for_zero decimal denotes
  refine ⟨absent ⟨_, nearest, by decide +kernel⟩, fun response answered missing => ?_⟩
  have zero : (70064923216240853547 / 10 ^ 65 : ℚ) = 0 := (exact response answered).mp missing
  norm_num at zero

end Service

end ZeroGuard
