import ZeroGuard.Binary.Shortest
import ZeroGuard.Fault
import ZeroGuard.Text.AsciiNumeral

namespace ZeroGuard

/-- How a number is laid out. From `10 ^ -4` to below `10 ^ positionalDigits` it is written
positionally, and otherwise with an exponent. -/
structure FloatStyle where
  positionalDigits : Nat
  /-- Whether the decimal that is written has to lie between these bounds, and not the number. -/
  byPlace : Bool
  /-- Whether a whole number written positionally ends in `.0`. -/
  pointZero : Bool
deriving DecidableEq, Repr

namespace FloatStyle

/-- The layout of plain floats. -/
def double : FloatStyle := ⟨16, true, true⟩

/-- The layout of doubles of fixed width. -/
def fixedDouble : FloatStyle := ⟨16, false, true⟩

def single : FloatStyle := ⟨6, false, true⟩

/-- The layout of the two parts of a complex number. -/
def part : FloatStyle := ⟨16, true, false⟩

/-- Digits with the point after the first `place` of them, where zeros fill what is missing. -/
def positional (style : FloatStyle) (digits : List Char) (place : Int) : List Char :=
  if place ≤ 0 then '0' :: '.' :: (List.replicate (-place).toNat '0' ++ digits)
  else if digits.length ≤ place.toNat then
    digits ++ List.replicate (place.toNat - digits.length) '0' ++
      (if style.pointZero then ['.', '0'] else [])
  else digits.take place.toNat ++ '.' :: digits.drop place.toNat

/-- One digit, a point before any others, and an exponent of two digits at least. -/
def scientific (digits : List Char) (place : Int) : List Char :=
  let power := place - 1
  let magnitude := Nat.toDigits 10 power.natAbs
  digits.take 1 ++ (if digits.length ≤ 1 then [] else '.' :: digits.drop 1) ++
    'e' :: (if power < 0 then '-' else '+') ::
    (List.replicate (2 - magnitude.length) '0' ++ magnitude)

end FloatStyle

namespace Binary

variable {f : Format}

/-- The layout of a number of units that is written with the point after the first `place` digits. -/
def isPositional (style : FloatStyle) (units : Nat) (place : Int) : Bool :=
  let one := twoPow f.scale
  if style.byPlace then -4 < place ∧ place ≤ style.positionalDigits
  else units = 0 ∨ (one ≤ units * 10000 ∧ units < tenPow style.positionalDigits * one)

def chars (style : FloatStyle) : Binary f → List Char
  | nan => ['n', 'a', 'n']
  | infinite negative => (if negative then ['-'] else []) ++ ['i', 'n', 'f']
  | finite negative rank =>
    let short := f.shortest rank
    let digits := Nat.toDigits 10 short.coefficient
    let place := digits.length + short.exponent
    (if negative then ['-'] else []) ++
      if isPositional (f := f) style (f.units rank) place then style.positional digits place
      else FloatStyle.scientific digits place

def text (style : FloatStyle) (x : Binary f) : String :=
  String.ofList (x.chars style)

/-- The number nearest to `coefficient * 10 ^ exponent`. A power of ten that is far outside the
format is not computed: the result is an infinity or a zero. -/
def ofDecimal (negative : Bool) (coefficient : Nat) (exponent : Int) : Binary f :=
  let magnitude : Int := digitCount coefficient + exponent
  if coefficient = 0 then zero negative
  else if (f.fractionBits + f.binades + 1 : Int) ≤ magnitude then infinite negative
  else if magnitude < -(f.scale : Int) then zero negative
  else if exponent < 0 then ofRatio negative coefficient (tenPow exponent.natAbs)
  else ofRatio negative (coefficient * tenPow exponent.toNat) 1

/-- The names of the values that are not finite, in lower case. -/
def ofName? (name : List Char) : Option (Bool → Binary f) :=
  if name = ['i', 'n', 'f'] ∨ name = ['i', 'n', 'f', 'i', 'n', 'i', 't', 'y'] then some infinite
  else if name = ['n', 'a', 'n'] then some fun _ => nan
  else none

/-- Reads the ASCII form of a number without blanks around it. -/
def ofChars? (text : List Char) : Option (Binary f) :=
  let signed := splitSign text
  match ofName? (signed.2.map Char.toLower) with
  | some value => some (value signed.1)
  | none => (Numeral.scan? text).map fun numeral =>
      ofDecimal numeral.negative numeral.coefficient numeral.scale

end Binary

/-- Reads a double: blanks around it, a sign, and a decimal numeral or the name of an infinity or a
NaN in any case. -/
def readDouble (text : String) : Except Fault Double :=
  match Binary.ofChars? (trimBoth isAsciiBlank (asciiNumeral text.toList)) with
  | some value => .ok value
  | none => .error (.floatText (quoted text))

end ZeroGuard
