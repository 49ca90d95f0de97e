import ZeroGuard.Binary.Basic
import ZeroGuard.Integer

namespace ZeroGuard

namespace Rational

/-- The text without the blanks around it, its digits as ASCII digits. -/
def plainForm (text : List Char) : List Char :=
  (trimBoth isBlank text).map asciiDigit

/-- The exact value of a numeral. Each of its rows of digits is an integer of its own. -/
def ofNumeral (numeral : Numeral) : Except Fault Rat := do
  let whole ← readDigits numeral.whole
  let fraction ← readDigits numeral.fraction
  let _ ← readDigits numeral.exponent
  let digits : Nat := whole * tenPow numeral.fraction.length + fraction
  let numerator : Int := if numeral.negative then -(digits : Int) else digits
  let exponent := numeral.writtenExponent
  .ok (mkRat (numerator * tenPow exponent.toNat)
    (tenPow numeral.fraction.length * tenPow (-exponent).toNat))

/-- Reads `sign digits / digits`, with any blanks on the two sides of the slash, and nothing else. -/
def scanFraction? (text : List Char) : Option (Bool × List Char × List Char) :=
  let signed := splitSign text
  match digitGroup signed.2 with
  | (digit :: digits, behind) =>
    match behind.dropWhile isBlank with
    | '/' :: rest =>
      match digitGroup (rest.dropWhile isBlank) with
      | (first :: others, []) => some (signed.1, digit :: digits, first :: others)
      | _ => none
    | _ => none
  | _ => none

def ofFraction (negative : Bool) (numerator denominator : List Char) : Except Fault Rat := do
  let above ← readDigits numerator
  let below ← readDigits denominator
  let signed : Int := if negative then -(above : Int) else above
  if below = 0 then .error (.zeroDenominator signed) else .ok (mkRat signed below)

/-- The rational numbers are the finite ones. -/
def ofBinary {f : Format} : Binary f → Except Fault Rat
  | .nan => .error .nanRatio
  | .infinite _ => .error .infinityRatio
  | .finite negative rank =>
    .ok (mkRat (Binary.signedUnits (f := f) negative rank) (twoPow f.scale))

/-- A whole number is written without a denominator. -/
def text (q : Rat) : Except Fault String := do
  let numerator ← writeInteger q.num
  if q.den = 1 then .ok numerator
  else
    let denominator ← writeInteger q.den
    .ok (numerator ++ "/" ++ denominator)

end Rational

def readRational (text : String) : Except Fault Rat :=
  let plain := Rational.plainForm text.toList
  match Rational.scanFraction? plain with
  | some (negative, numerator, denominator) => Rational.ofFraction negative numerator denominator
  | none =>
    match Numeral.scan? plain with
    | some numeral => Rational.ofNumeral numeral
    | none => .error (.rationalText (quoted text))

end ZeroGuard
