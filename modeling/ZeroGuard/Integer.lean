import ZeroGuard.Fault
import ZeroGuard.Power
import ZeroGuard.Text.AsciiNumeral

namespace ZeroGuard

/-- The most decimal digits that are read or written. -/
def digitLimit : Nat := 4300

/-- Whether an integer has few enough digits to be written. -/
def isWritable (n : Int) : Bool :=
  n.natAbs < tenPow digitLimit

def writeInteger (n : Int) : Except Fault String :=
  if isWritable n then .ok (integerText n) else .error .integerTooLong

/-- The value of a row of ASCII digits, if there are few enough of them. -/
def readDigits (digits : List Char) : Except Fault Nat :=
  if digits.length ≤ digitLimit then .ok (digitsValue digits)
  else .error (.textTooLong digits.length)

/-- The first 200 characters of the quoted text, which a message shows. -/
def shownText (text : String) : String :=
  String.ofList ((quoted text).toList.take 200)

/-- Reads an integer: blanks around it, a sign, and digits with single underscores between them.
Too many digits are reported even if something follows them that is no part of an integer. -/
def readInteger (text : String) : Except Fault Int :=
  let signed := splitSign ((asciiNumeral text.toList).dropWhile isAsciiBlank)
  match digitGroup signed.2 with
  | ([], _) | (_, '_' :: _) => .error (.integerText (shownText text))
  | (digits, rest) => do
    let magnitude ← readDigits digits
    if rest.all isAsciiBlank then
      .ok (if signed.1 then -(magnitude : Int) else magnitude)
    else .error (.integerText (shownText text))

end ZeroGuard
