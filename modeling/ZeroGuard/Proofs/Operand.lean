import ZeroGuard.Proofs.Integer
import ZeroGuard.Proofs.Number.Length

namespace ZeroGuard

/-- The faults that the conversion of an operand can have. -/
inductive Operand.ConversionFault (raw : Operand) : Fault → Prop
  | textTooLong (digits : Nat) : ConversionFault raw (.textTooLong digits)
  | integerText {s : String} : raw = .text s → ConversionFault raw (.integerText (shownText s))
  | floatText {s : String} : raw = .text s → ConversionFault raw (.floatText (quoted s))
  | rationalText {s : String} : raw = .text s → ConversionFault raw (.rationalText (quoted s))
  | notIntegral {x : Double} : raw = .float x → ConversionFault raw (.notIntegral (x.text .double))
  | wordRange : ConversionFault raw .wordRange
  | doubleRange : ConversionFault raw .doubleRange
  | infinityRatio : ConversionFault raw .infinityRatio
  | nanRatio : ConversionFault raw .nanRatio
  | zeroDenominator (numerator : Int) : ConversionFault raw (.zeroDenominator numerator)
  | conversion : ConversionFault raw (.signal .conversion)
  | invalid : ConversionFault raw (.signal .invalid)

open Operand (ConversionFault)

section Readers

variable {raw : Operand} {text : String} {fault : Fault}

theorem readDigits_error {digits : List Char} (failed : readDigits digits = .error fault) :
    ConversionFault raw fault := by
  rw [readDigits] at failed
  split_ifs at failed
  cases failed
  exact .textTooLong _

theorem readInteger_error (failed : readInteger text = .error fault) :
    ConversionFault (.text text) fault := by
  simp only [readInteger] at failed
  split at failed
  · cases failed
    exact .integerText rfl
  · cases failed
    exact .integerText rfl
  · rcases bind_eq_error_iff.mp failed with long | ⟨magnitude, -, trailing⟩
    · exact readDigits_error long
    · split_ifs at trailing
      cases trailing
      exact .integerText rfl

theorem readDouble_error (failed : readDouble text = .error fault) :
    ConversionFault (.text text) fault := by
  simp only [readDouble] at failed
  split at failed
  · cases failed
  · cases failed
    exact .floatText rfl

theorem Decimal.readPayload_error {negative signaling : Bool} {digits : List Char}
    (failed : readPayload negative signaling digits = .error fault) : ConversionFault raw fault := by
  rw [readPayload] at failed
  split_ifs at failed
  cases failed
  exact .conversion

theorem Decimal.ofNumeral_error {numeral : Numeral} (failed : ofNumeral numeral = .error fault) :
    ConversionFault raw fault := by
  rw [ofNumeral] at failed
  split_ifs at failed
  cases failed
  exact .invalid

theorem readDecimal_error (failed : readDecimal text = .error fault) :
    ConversionFault raw fault := by
  simp only [readDecimal, Decimal.ofPlainForm] at failed
  split at failed
  · cases failed
  · cases failed
  · exact Decimal.readPayload_error failed
  · exact Decimal.readPayload_error failed
  · split at failed
    · exact Decimal.ofNumeral_error failed
    · cases failed
      exact .conversion

theorem Rational.ofNumeral_error {numeral : Numeral} (failed : ofNumeral numeral = .error fault) :
    ConversionFault raw fault := by
  rw [ofNumeral] at failed
  rcases bind_eq_error_iff.mp failed with long | ⟨_, -, failed⟩
  · exact readDigits_error long
  rcases bind_eq_error_iff.mp failed with long | ⟨_, -, failed⟩
  · exact readDigits_error long
  rcases bind_eq_error_iff.mp failed with long | ⟨_, -, failed⟩
  · exact readDigits_error long
  · cases failed

theorem Rational.ofFraction_error {negative : Bool} {above below : List Char}
    (failed : ofFraction negative above below = .error fault) : ConversionFault raw fault := by
  rw [ofFraction] at failed
  rcases bind_eq_error_iff.mp failed with long | ⟨_, -, failed⟩
  · exact readDigits_error long
  rcases bind_eq_error_iff.mp failed with long | ⟨_, -, failed⟩
  · exact readDigits_error long
  · split_ifs at failed
    · cases failed
      exact .zeroDenominator _
    · cases failed
      exact .zeroDenominator _

theorem readRational_error (failed : readRational text = .error fault) :
    ConversionFault (.text text) fault := by
  simp only [readRational] at failed
  split at failed
  · exact Rational.ofFraction_error failed
  · split at failed
    · exact Rational.ofNumeral_error failed
    · cases failed
      exact .rationalText rfl

end Readers

namespace Operand

variable {type : NumericType} {raw : Operand} {number : Number} {fault : Fault}

theorem toInt_error (failed : raw.toInt = .error fault) : raw.ConversionFault fault := by
  cases raw with
  | int n => cases failed
  | float x =>
    simp only [toInt] at failed
    split at failed
    · cases failed
    · cases failed
      exact .notIntegral rfl
  | text s => exact readInteger_error failed

theorem toDouble_error (failed : raw.toDouble = .error fault) : raw.ConversionFault fault := by
  cases raw with
  | int n =>
    rw [Number.intToDouble_error failed]
    exact .doubleRange
  | float x => cases failed
  | text s => exact readDouble_error failed

/-- An item is stored as what the plain float of the operand is. -/
theorem toItem_eq (raw : Operand) : raw.toItem = raw.toDouble := by
  cases raw <;> rfl

/-- Whichever of the two ways it takes, the constructor of fixed width comes to the plain float, and a
fault is that of the plain float. -/
theorem toFixedDouble_eq (raw : Operand) : raw.toFixedDouble = raw.toDouble := by
  rw [toFixedDouble, toItem_eq]
  cases raw.toDouble <;> rfl

theorem convert_float32 (raw : Operand) :
    raw.convert .float32 = raw.toDouble.map fun x => .float32 x.convert := by
  rw [convert, toItem_eq]

theorem convert_float64 (raw : Operand) : raw.convert .float64 = raw.toDouble.map .float64 := by
  rw [convert, toFixedDouble_eq]

/-- What the binary types have of an operand with a plain float. -/
theorem convert_of_toDouble {x : Double} (read : raw.toDouble = .ok x) :
    raw.convert .float = .ok (.float x) ∧ raw.convert .float32 = .ok (.float32 x.convert) ∧
      raw.convert .float64 = .ok (.float64 x) := by
  rw [convert_float32, convert_float64, convert, read]
  exact ⟨rfl, rfl, rfl⟩

theorem convert_of_toDouble_error (failed : raw.toDouble = .error fault) :
    raw.convert .float = .error fault ∧ raw.convert .float32 = .error fault ∧
      raw.convert .float64 = .error fault := by
  rw [convert_float32, convert_float64, convert, failed]
  exact ⟨rfl, rfl, rfl⟩

theorem toDecimal_error (failed : raw.toDecimal = .error fault) : raw.ConversionFault fault := by
  cases raw with
  | int n => cases failed
  | float x => exact readDecimal_error failed
  | text s => exact readDecimal_error failed

theorem toRational_error (failed : raw.toRational = .error fault) : raw.ConversionFault fault := by
  cases raw with
  | int n => cases failed
  | float x =>
    cases x with
    | nan =>
      cases failed
      exact .nanRatio
    | infinite negative =>
      cases failed
      exact .infinityRatio
    | finite negative rank => cases failed
  | text s => exact readRational_error failed

theorem convert_error (failed : raw.convert type = .error fault) : raw.ConversionFault fault := by
  cases type with
  | int => exact toInt_error (map_eq_error_iff.mp failed)
  | decimal => exact toDecimal_error (map_eq_error_iff.mp failed)
  | float => exact toDouble_error (map_eq_error_iff.mp failed)
  | float32 => exact toDouble_error (map_eq_error_iff.mp (convert_float32 raw ▸ failed))
  | float64 => exact toDouble_error (map_eq_error_iff.mp (convert_float64 raw ▸ failed))
  | fraction => exact toRational_error (map_eq_error_iff.mp failed)
  | int64 =>
    rcases bind_eq_error_iff.mp failed with unread | ⟨n, -, failed⟩
    · exact toInt_error unread
    rcases bind_eq_error_iff.mp failed with beyond | ⟨_, -, failed⟩
    · rw [Number.intToWord] at beyond
      split_ifs at beyond
      cases beyond
      exact .wordRange
    · cases failed

/-- Every fault of a conversion refuses the operand; none of them leaves the service. -/
theorem convert_error_refuses (failed : raw.convert type = .error fault) :
    fault.kind.refusesOperand = true := by
  cases convert_error failed <;> rfl

theorem convert_has (converted : raw.convert type = .ok number) : type.Has number := by
  cases type with
  | int64 =>
    obtain ⟨n, -, rest⟩ := bind_eq_ok_iff.mp converted
    obtain ⟨word, -, rest⟩ := bind_eq_ok_iff.mp rest
    cases rest
    exact .int64 word
  | int | float | decimal | fraction | float32 | float64 =>
    obtain ⟨value, -, rfl⟩ := map_eq_ok_iff.mp converted
    constructor

/-- Integers have a value in the exact types of any size. -/
theorem convert_int_error {n : Int} (failed : (Operand.int n).convert type = .error fault) :
    type = .float ∨ type = .float32 ∨ type = .float64 ∨ type = .int64 := by
  cases type with
  | int | decimal | fraction => cases failed
  | float | float32 | float64 | int64 => simp

theorem shown_error_iff : raw.shown = .error fault ↔
    fault = .integerTooLong ∧ ∃ n, raw = .int n ∧ 10 ^ 4300 ≤ n.natAbs := by
  cases raw with
  | int n =>
    rw [shown, writeInteger_error_iff]
    refine and_congr_right fun _ => ⟨fun long => ⟨n, rfl, long⟩, ?_⟩
    rintro ⟨_, ⟨⟩, long⟩
    exact long
  | float x => exact iff_of_false nofun fun ⟨_, _, same, _⟩ => nomatch same
  | text s => exact iff_of_false nofun fun ⟨_, _, same, _⟩ => nomatch same

theorem natAbs_signedUnits {f : Format} (negative : Bool) (rank : Nat) :
    (Binary.signedUnits (f := f) negative rank).natAbs = f.units rank := by
  cases negative <;> simp [Binary.signedUnits]

theorem floatToInt?_natAbs_lt {x : Double} {n : Int} (found : floatToInt? x = some n) :
    n.natAbs < 10 ^ 4300 := by
  cases x with
  | nan => cases found
  | infinite negative => cases found
  | finite negative rank =>
    simp only [floatToInt?] at found
    split_ifs at found
    cases found
    calc _ ≤ (Binary.signedUnits negative rank).natAbs := Int.natAbs_ediv_le_natAbs _ _
      _ = Format.double.units rank := natAbs_signedUnits negative rank
      _ < 2 ^ (Format.double.fractionBits + Format.double.binades) :=
          Format.double.units_lt rank.isLt
      _ ≤ 10 ^ (Format.double.fractionBits + Format.double.binades) :=
          Nat.pow_le_pow_left (by decide) _
      _ ≤ 10 ^ 4300 := pow_le_pow_right₀ (by decide) (by decide)

/-- Whether an operand is anything but an integer of more than 4300 digits. -/
def Short (raw : Operand) : Prop :=
  ∀ n, raw = .int n → n.natAbs < 10 ^ 4300

/-- Only an integer that is sent as one can be too long to be written. -/
theorem Short.toInt_natAbs_lt (short : raw.Short) {n : Int}
    (converted : raw.toInt = .ok n) : n.natAbs < 10 ^ 4300 := by
  cases raw with
  | int m =>
    cases converted
    exact short n rfl
  | float x =>
    simp only [toInt] at converted
    split at converted
    · rename_i found
      cases converted
      exact floatToInt?_natAbs_lt found
    · cases converted
  | text s => exact readInteger_lt converted

end Operand

section Parse

variable {type : NumericType} {raw : Operand} {number : Number} {fault : Fault}

theorem parseOperand_ok_iff :
    parseOperand type raw = .ok (.ok number) ↔ raw.convert type = .ok number := by
  cases converted : raw.convert type with
  | ok value => simp [parseOperand, converted]
  | error fault =>
    have refuses := Operand.convert_error_refuses converted
    cases shown : raw.shown <;> simp [parseOperand, converted, refuses, shown, bind, Except.bind]

/-- An operand without a value is shown in the message that says so. -/
theorem parseOperand_of_error (failed : raw.convert type = .error fault) :
    parseOperand type raw =
      raw.shown.map fun shown => .error (refusal shown type.name fault.message) := by
  have refuses := Operand.convert_error_refuses failed
  cases shown : raw.shown <;>
    simp only [parseOperand, failed, refuses, shown, if_true, bind, Except.bind, Except.map]

/-- An operand that is reported to have no value in a type. -/
def Operand.Refused (type : NumericType) (raw : Operand) : Prop :=
  ∃ message, parseOperand type raw = .ok (.error ⟨.invalidOperand, message⟩)

theorem Operand.Short.refused (short : raw.Short) (failed : raw.convert type = .error fault) :
    raw.Refused type := by
  have parsed := parseOperand_of_error failed
  cases shown : raw.shown with
  | ok text =>
    rw [shown] at parsed
    exact ⟨_, parsed⟩
  | error cause =>
    obtain ⟨-, n, same, long⟩ := shown_error_iff.mp shown
    exact absurd (short n same) (not_lt.mpr long)

end Parse

end ZeroGuard
