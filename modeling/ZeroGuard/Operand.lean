import ZeroGuard.Decimal.Reader
import ZeroGuard.Number.Basic
import ZeroGuard.NumericType

namespace ZeroGuard

/-- An operand of a request: an integer, a float, or a text, in which the characters of `isSurrogate`
stand for lone surrogates. -/
inductive Operand
  | int (n : Int)
  | float (x : Double)
  | text (s : String)
deriving DecidableEq, Repr

/-- The two ways in which the service reports that it has no quotient. -/
inductive FailureCode
  | invalidOperand
  | arithmeticFailure
deriving DecidableEq, Repr

def FailureCode.name : FailureCode → String
  | .invalidOperand => "invalid_operand"
  | .arithmeticFailure => "arithmetic_failure"

structure Failure where
  code : FailureCode
  message : String
deriving DecidableEq, Repr

namespace Operand

/-- The integer that a float is equal to, if it is one. -/
def floatToInt? : Double → Option Int
  | .finite negative rank =>
    let units := Binary.signedUnits (f := .double) negative rank
    let one := twoPow Format.double.scale
    if units % one = 0 then some (units / one) else none
  | _ => none

def toInt : Operand → Except Fault Int
  | int n => .ok n
  | float x =>
    match floatToInt? x with
    | some n => .ok n
    | none => .error (.notIntegral (x.text .double))
  | text s => readInteger s

/-- The plain float that an operand makes. -/
def toDouble : Operand → Except Fault Double
  | int n => Number.intToDouble n
  | float x => .ok x
  | text s => readDouble s

/-- The double that is stored where an operand is set as an item of an array. -/
def toItem : Operand → Except Fault Double
  | float x => .ok x
  | int n => Number.intToDouble n
  | text s => readDouble s

/-- The double of fixed width that an operand makes. The constructor leaves it to that of plain floats
first; if that fails, the fault is dropped and the operand is set as an item of an array. -/
def toFixedDouble (raw : Operand) : Except Fault Double :=
  match raw.toDouble with
  | .ok x => .ok x
  | .error _ => raw.toItem

/-- A float becomes the decimal that its text shows. -/
def toDecimal : Operand → Except Fault Decimal
  | int n => .ok (.ofInt n)
  | float x => readDecimal (x.text .double)
  | text s => readDecimal s

/-- A float becomes the rational that it is equal to. -/
def toRational : Operand → Except Fault Rat
  | int n => .ok n
  | float x => Rational.ofBinary x
  | text s => readRational s

/-- Converts an operand to a numeric type. A single is rounded from the double of an item, and has no
plain type to leave its conversion to. -/
def convert (type : NumericType) (raw : Operand) : Except Fault Number :=
  match type with
  | .int => raw.toInt.map .int
  | .float => raw.toDouble.map .float
  | .decimal => raw.toDecimal.map .decimal
  | .fraction => raw.toRational.map .rational
  | .float32 => raw.toItem.map fun x => .float32 x.convert
  | .float64 => raw.toFixedDouble.map .float64
  | .int64 => do .ok (.int64 (← Number.intToWord (← raw.toInt)))

/-- The text by which a message shows an operand. -/
def shown : Operand → Except Fault String
  | int n => writeInteger n
  | float x => .ok (x.text .double)
  | text s => .ok (quoted s)

end Operand

/-- Faults of a conversion that are reported as a failure of the operand. -/
def FaultKind.refusesOperand : FaultKind → Bool
  | .value | .type | .overflow | .zeroDivision | .decimalInvalid => true
  | _ => false

/-- The message for an operand that has no value in a type. -/
def refusal (shown typeName reason : String) : Failure :=
  ⟨.invalidOperand, "Cannot convert " ++ shown ++ " to " ++ typeName ++ ": " ++ reason⟩

/-- Converts an operand and reports a fault of the conversion as a failure. The operand is shown in
the message, which is itself a fault when it is too long an integer. -/
def parseOperand (type : NumericType) (raw : Operand) : Except Fault (Except Failure Number) :=
  match raw.convert type with
  | .ok number => .ok (.ok number)
  | .error fault =>
    if fault.kind.refusesOperand then do
      .ok (.error (refusal (← raw.shown) type.name fault.message))
    else .error fault

end ZeroGuard
