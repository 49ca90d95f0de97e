import ZeroGuard.Operator
import ZeroGuard.Text.DecimalDigit
import ZeroGuard.Text.Quoted

namespace ZeroGuard

/-- The decimal conditions that stop an operation. -/
inductive DecimalSignal
  | conversion
  | invalid
  | impossible
  | zeroDivisor
  | undefined
  | overflow
deriving DecidableEq, Repr

inductive FaultKind
  | value
  | type
  | overflow
  | zeroDivision
  | decimalInvalid
  | decimalOverflow
  | decimalZeroDivision
  | missingKey
  | missingAttribute
  | frozenField
deriving DecidableEq, Repr

inductive Fault
  /-- An integer has too many digits to be written. -/
  | integerTooLong
  /-- A text has too many digits to be read as an integer. -/
  | textTooLong (digits : Nat)
  | integerText (shown : String)
  | floatText (shown : String)
  | rationalText (shown : String)
  | notIntegral (shown : String)
  /-- An integer does not fit a signed 64-bit word. -/
  | wordRange
  /-- An integer does not fit the fixed width of the other operand. -/
  | widthRange (shown width : String)
  /-- An integer is beyond the finite doubles. -/
  | doubleRange
  | infinityRatio
  | nanRatio
  /-- An infinity was asked for its integer part. -/
  | infinityInteger (shown : String)
  | nanInteger (shown : String)
  | signalingDouble
  /-- The exponent of a decimal does not fit a signed 64-bit size. -/
  | sizeRange
  | zeroDenominator (numerator : Int)
  | signal (signal : DecimalSignal)
  /-- A decimal was given in parts that do not make one. -/
  | decimalPart (problem : String)
  /-- A value of this kind cannot be converted to the target. -/
  | notConvertible (message : String)
  /-- The quotient of two integers is beyond the finite doubles. -/
  | quotientRange
  | zeroDivisor (operation : String)
  | unsupported (operator : Operator) (left right : String)
  /-- A number of a fixed width stands beside a value with which it has no such quotient. -/
  | notItemwise (operator : Operator)
  /-- A comparison with a list has no items of which it could be the outcome. -/
  | emptyTruth
  /-- A comparison with a list has several outcomes. -/
  | manyTruths
  /-- A nested list has items of different shapes below its common extents. -/
  | ragged (extents : List Nat)
  | unexpectedOption (shown : String)
  | missingKey (key : String)
  | missingAttribute (kind field : String)
  | frozenAssign (field : String)
  | frozenDelete (field : String)
  /-- A name that is no field of an immutable value was left to a class that the value is not of. -/
  | noSubtype
  /-- A message template and its arguments do not fit each other. -/
  | template
  /-- A log level is a text that names no level. -/
  | unknownLevel (shown : String)
  /-- A log level is neither a number nor a text. -/
  | invalidLevel (shown : String)
deriving DecidableEq, Repr

namespace DecimalSignal

def name : DecimalSignal → String
  | conversion => "ConversionSyntax"
  | invalid => "InvalidOperation"
  | impossible => "DivisionImpossible"
  | zeroDivisor => "DivisionByZero"
  | undefined => "DivisionUndefined"
  | overflow => "Overflow"

end DecimalSignal

/-- The extents of a nested list in parentheses; a single one is followed by a comma. -/
def extentsText : List Nat → String
  | [extent] => "(" ++ Nat.repr extent ++ ",)"
  | extents => "(" ++ ", ".intercalate (extents.map Nat.repr) ++ ")"

namespace Fault

def kind : Fault → FaultKind
  | integerTooLong | textTooLong _ | integerText _ | floatText _ | rationalText _ | notIntegral _
  | nanRatio | nanInteger _ | signalingDouble | decimalPart _ | emptyTruth | manyTruths | ragged _
  | unknownLevel _ => .value
  | wordRange | widthRange _ _ | doubleRange | infinityRatio | infinityInteger _ | sizeRange
  | quotientRange => .overflow
  | zeroDenominator _ | zeroDivisor _ => .zeroDivision
  | signal .overflow => .decimalOverflow
  | signal .zeroDivisor => .decimalZeroDivision
  | signal _ => .decimalInvalid
  | notConvertible _ | unsupported _ _ _ | notItemwise _ | unexpectedOption _ | noSubtype
  | template | invalidLevel _ => .type
  | missingKey _ => .missingKey
  | missingAttribute _ _ => .missingAttribute
  | frozenAssign _ | frozenDelete _ => .frozenField

def message : Fault → String
  | integerTooLong =>
    "Exceeds the limit (4300 digits) for integer string conversion; " ++
      "use sys.set_int_max_str_digits() to increase the limit"
  | textTooLong digits =>
    "Exceeds the limit (4300 digits) for integer string conversion: value has " ++
      Nat.repr digits ++ " digits; use sys.set_int_max_str_digits() to increase the limit"
  | integerText shown => "invalid literal for int() with base 10: " ++ shown
  | floatText shown => "could not convert string to float: " ++ shown
  | rationalText shown => "Invalid literal for Fraction: " ++ shown
  | notIntegral shown => shown ++ " is not an integral value"
  | wordRange => "Python int too large to convert to C long"
  | widthRange shown width => "Python integer " ++ shown ++ " out of bounds for " ++ width
  | doubleRange => "int too large to convert to float"
  | infinityRatio => "cannot convert Infinity to integer ratio"
  | nanRatio => "cannot convert NaN to integer ratio"
  | infinityInteger shown => "cannot convert " ++ shown ++ " to integer"
  | nanInteger shown => "cannot convert " ++ shown ++ " to integer"
  | signalingDouble => "cannot convert signaling NaN to float"
  | sizeRange => "Python int too large to convert to C ssize_t"
  | zeroDenominator numerator => "Fraction(" ++ ZeroGuard.integerText numerator ++ ", 0)"
  | signal cause => "[<class 'decimal." ++ cause.name ++ "'>]"
  | decimalPart problem => problem
  | notConvertible message => message
  | quotientRange => "integer division result too large for a float"
  | zeroDivisor operation => operation ++ " by zero"
  | unsupported operator left right =>
    "unsupported operand type(s) for " ++ operator.symbol ++ ": '" ++ left ++ "' and '" ++
      right ++ "'"
  | notItemwise operator =>
    "ufunc '" ++ operator.itemwiseName ++ "' not supported for the input types, and the inputs " ++
      "could not be safely coerced to any supported types according to the casting rule ''safe''"
  | emptyTruth =>
    "The truth value of an empty array is ambiguous. " ++
      "Use `array.size > 0` to check that an array is not empty."
  | manyTruths =>
    "The truth value of an array with more than one element is ambiguous. Use a.any() or a.all()"
  | ragged extents =>
    "setting an array element with a sequence. The requested array has an inhomogeneous shape " ++
      "after " ++ Nat.repr extents.length ++ " dimensions. The detected shape was " ++
      extentsText extents ++ " + inhomogeneous part."
  | unexpectedOption shown => "Unexpected option value: " ++ shown
  | missingKey key => quoted key
  | missingAttribute kind field => "'" ++ kind ++ "' object has no attribute '" ++ field ++ "'"
  | frozenAssign field => "cannot assign to field " ++ quoted field
  | frozenDelete field => "cannot delete field " ++ quoted field
  | noSubtype => "super(type, obj): obj must be an instance or subtype of type"
  | template => "arguments do not match the template"
  | unknownLevel shown => "Unknown level: " ++ shown
  | invalidLevel shown => "Level not an integer or a valid string: " ++ shown

end Fault

end ZeroGuard
