import ZeroGuard.Decimal.Basic
import ZeroGuard.Fault
import ZeroGuard.Power
import ZeroGuard.Text.AsciiNumeral

namespace ZeroGuard

namespace Decimal

/-- The greatest adjusted exponent that a decimal may have. -/
def exponentMax : Int := 999999999999999999

/-- The least exponent that a decimal may have. -/
def exponentMin : Int := -1999999999999999997

/-- Whether a finite decimal is within the exponent range. A zero is judged by its exponent. -/
def inRange (coefficient : Nat) (exponent : Int) : Bool :=
  exponentMin ≤ exponent ∧ exponent + digitCount coefficient - 1 ≤ exponentMax

/-- The text without the blanks around it and without underscores, its digits as ASCII digits. -/
def plainForm (text : List Char) : List Char :=
  ((trimBoth isBlank text).filter (· ≠ '_')).map asciiDigit

/-- Reads the digits of a NaN's payload, which fill the rest of the text. -/
def readPayload (negative signaling : Bool) (digits : List Char) : Except Fault Decimal :=
  if digits.all isAsciiDigit then .ok (nan negative signaling (digitsValue digits))
  else .error (.signal .conversion)

def ofNumeral (numeral : Numeral) : Except Fault Decimal :=
  if inRange numeral.coefficient numeral.scale then
    .ok (finite numeral.negative numeral.coefficient numeral.scale)
  else .error (.signal .invalid)

/-- Reads a sign and a word for an infinity or a NaN in any case, or a numeral. -/
def ofPlainForm (text : List Char) : Except Fault Decimal :=
  let signed := splitSign text
  match signed.2.map Char.toLower with
  | ['i', 'n', 'f'] | ['i', 'n', 'f', 'i', 'n', 'i', 't', 'y'] => .ok (infinite signed.1)
  | 'n' :: 'a' :: 'n' :: digits => readPayload signed.1 false digits
  | 's' :: 'n' :: 'a' :: 'n' :: digits => readPayload signed.1 true digits
  | _ =>
    match Numeral.scan? text with
    | some numeral => ofNumeral numeral
    | none => .error (.signal .conversion)

end Decimal

def readDecimal (text : String) : Except Fault Decimal :=
  Decimal.ofPlainForm (Decimal.plainForm text.toList)

end ZeroGuard
