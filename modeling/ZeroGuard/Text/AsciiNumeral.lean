import ZeroGuard.Text.Blank
import ZeroGuard.Text.DecimalDigit

namespace ZeroGuard

/-- Replaces blanks and digits beyond ASCII. Any other character beyond ASCII ends the text with a
question mark, which no numeral contains. -/
def foldNumeral : List Char → List Char
  | [] => []
  | c :: rest =>
    if c.toNat < 0x7f then c :: foldNumeral rest
    else if isBlank c then ' ' :: foldNumeral rest
    else match digitValue? c with
      | some value => Nat.digitChar value :: foldNumeral rest
      | none => ['?']

/-- A text that is ASCII already stays as it is. -/
def asciiNumeral (text : List Char) : List Char :=
  if text.all (·.toNat < 0x80) then text else foldNumeral text

/-- The sign in front of a text, `true` for minus, and the text behind it. -/
def splitSign : List Char → Bool × List Char
  | '-' :: rest => (true, rest)
  | '+' :: rest => (false, rest)
  | rest => (false, rest)

/-- What continues a row of digits: further digits, each with at most one underscore before it. -/
def digitTail : List Char → List Char × List Char
  | [] => ([], [])
  | [c] => if isAsciiDigit c then ([c], []) else ([], [c])
  | c :: d :: rest =>
    if isAsciiDigit c then
      let more := digitTail (d :: rest)
      (c :: more.1, more.2)
    else if c = '_' ∧ isAsciiDigit d then
      let more := digitTail rest
      (d :: more.1, more.2)
    else ([], c :: d :: rest)

/-- The digits at the front of a text without the single underscores between them, and the rest.
The group is empty when the text does not start with a digit. -/
def digitGroup : List Char → List Char × List Char
  | [] => ([], [])
  | c :: rest =>
    if isAsciiDigit c then
      let more := digitTail rest
      (c :: more.1, more.2)
    else ([], c :: rest)

/-- A number in scientific form: the digits before and after the point and the exponent's digits. -/
structure Numeral where
  negative : Bool
  whole : List Char
  fraction : List Char
  exponentNegative : Bool
  exponent : List Char
deriving DecidableEq, Repr

namespace Numeral

/-- All digits read as one natural number. -/
def coefficient (numeral : Numeral) : Nat :=
  digitsValue (numeral.whole ++ numeral.fraction)

/-- The exponent as written, 0 when none is. -/
def writtenExponent (numeral : Numeral) : Int :=
  if numeral.exponentNegative then -(digitsValue numeral.exponent : Int)
  else digitsValue numeral.exponent

/-- The power of ten that the coefficient is multiplied by. -/
def scale (numeral : Numeral) : Int :=
  numeral.writtenExponent - numeral.fraction.length

/-- Reads an exponent that fills the rest of a text, or nothing at the end of it. -/
def scanExponent? : List Char → Option (Bool × List Char)
  | [] => some (false, [])
  | c :: rest =>
    if c = 'e' ∨ c = 'E' then
      let signed := splitSign rest
      match digitGroup signed.2 with
      | (digit :: digits, []) => some (signed.1, digit :: digits)
      | _ => none
    else none

/-- Reads the digits behind a point, or nothing where there is no point. -/
def scanFraction : List Char → List Char × List Char
  | '.' :: rest => digitGroup rest
  | rest => ([], rest)

/-- Reads a numeral that fills the whole text. A digit has to stand before or after the point. -/
def scan? (text : List Char) : Option Numeral :=
  let signed := splitSign text
  let whole := digitGroup signed.2
  let fraction := scanFraction whole.2
  if whole.1.isEmpty && fraction.1.isEmpty then none
  else (scanExponent? fraction.2).map fun exponent =>
    ⟨signed.1, whole.1, fraction.1, exponent.1, exponent.2⟩

end Numeral

end ZeroGuard
