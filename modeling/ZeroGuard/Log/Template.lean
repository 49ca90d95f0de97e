import ZeroGuard.Fault
import ZeroGuard.Json.Basic

namespace ZeroGuard.Log.Template

mutual

/-- An argument with its kind shown: texts are quoted. -/
def shown : Json → String
  | .null => "None"
  | .bool b => if b then "True" else "False"
  | .int n => integerText n
  | .float x => x.text .double
  | .text s => quoted s
  | .array items => "[" ++ ", ".intercalate (shownItems items) ++ "]"
  | .object fields => "\x7b" ++ ", ".intercalate (shownFields fields) ++ "\x7d"

def shownItems : List Json → List String
  | [] => []
  | item :: rest => shown item :: shownItems rest

def shownFields : List (String × Json) → List String
  | [] => []
  | field :: rest => (quoted field.1 ++ ": " ++ shown field.2) :: shownFields rest

end

/-- An argument as plain text: a text stands for itself. -/
def plain : Json → String
  | .text s => s
  | argument => shown argument

/-- A conversion: flags, the least width, the precision, and the letter that names it. -/
structure Conversion where
  left : Bool
  plus : Bool
  space : Bool
  alternate : Bool
  zeros : Bool
  width : Nat
  precision : Option Nat
  letter : Char

/-- Fills a text with blanks up to the width. -/
def pad (conversion : Conversion) (body : List Char) : List Char :=
  let blanks := List.replicate (conversion.width - body.length) ' '
  if conversion.left then body ++ blanks else blanks ++ body

/-- Lays out a number: its sign, the mark of its base, and its digits, which zeros may fill. -/
def padNumber (conversion : Conversion) (negative : Bool) (base digits : List Char) : List Char :=
  let sign :=
    if negative then ['-'] else if conversion.plus then ['+']
    else if conversion.space then [' '] else []
  let length := sign.length + base.length + digits.length
  if conversion.zeros && !conversion.left then
    sign ++ base ++ List.replicate (conversion.width - length) '0' ++ digits
  else pad conversion (sign ++ base ++ digits)

/-- Digits filled with zeros on the left. -/
def fillDigits (least : Nat) (digits : List Char) : List Char :=
  List.replicate (least - digits.length) '0' ++ digits

/-- The digits of `value / 10 ^ places` with a point. -/
def pointDigits (alternate : Bool) (places value : Nat) : List Char :=
  let digits := fillDigits (places + 1) (Nat.toDigits 10 value)
  let whole := digits.take (digits.length - places)
  if places = 0 then if alternate then whole ++ ['.'] else whole
  else whole ++ '.' :: digits.drop (digits.length - places)

/-- The number `units / 2 ^ scale` with a fixed number of places. -/
def fixedChars (alternate : Bool) (places units : Nat) : List Char :=
  pointDigits alternate places (roundDiv (units * tenPow places) (twoPow Format.double.scale))

/-- The digits and the exponent of a positive number rounded to `places + 1` digits, given an
exponent that is not above its own. The number bounds how far the exponent is raised. -/
def roundedDigits (places units : Nat) : Nat → Int → Nat × Int
  | 0, exponent => (0, exponent)
  | bound + 1, exponent =>
    let shift := (places : Int) - exponent
    let value := roundDiv (units * tenPow shift.toNat)
      (twoPow Format.double.scale * tenPow (-shift).toNat)
    if value < tenPow (places + 1) then (value, exponent)
    else roundedDigits places units bound (exponent + 1)

/-- The digits and exponent of a number in scientific form. -/
def scientificDigits (places units : Nat) : Nat × Int :=
  if units = 0 then (0, 0)
  else
    let start := (digitCount (units * fivePow Format.double.scale) : Int) - 1 - Format.double.scale
    roundedDigits places units 2 start

def exponentChars (exponent : Int) : List Char :=
  'e' :: (if exponent < 0 then '-' else '+') :: fillDigits 2 (Nat.toDigits 10 exponent.natAbs)

def scientificChars (alternate : Bool) (places units : Nat) : List Char :=
  let found := scientificDigits places units
  pointDigits alternate places found.1 ++ exponentChars found.2

/-- Takes off the zeros at the end of a fraction, and the point if nothing is left behind it. -/
def stripFraction (digits : List Char) : List Char :=
  if '.' ∈ digits then
    let kept := (digits.reverse.dropWhile (· = '0')).reverse
    if kept.getLast? = some '.' then kept.dropLast else kept
  else digits

/-- The shorter of the two forms for a number of significant digits. -/
def generalChars (alternate : Bool) (precision units : Nat) : List Char :=
  let significant := max 1 precision
  let found := scientificDigits (significant - 1) units
  let strip := if alternate then id else stripFraction
  if -4 ≤ found.2 ∧ found.2 < significant then
    strip (fixedChars alternate ((significant : Int) - 1 - found.2).toNat units)
  else
    strip (pointDigits alternate (significant - 1) found.1) ++ exponentChars found.2

/-- The double of a numeric argument. -/
def toDouble? : Json → Option Double
  | .int n =>
    match (Binary.ofInt n : Double) with
    | .infinite _ => none
    | x => some x
  | .bool b => some (.ofInt b.toInt)
  | .float x => some x
  | _ => none

/-- The integer of a numeric argument, a float cut off at the point. -/
def toInt? : Json → Option Int
  | .int n => some n
  | .bool b => some b.toInt
  | .float (.finite negative rank) =>
    let whole : Int := (Format.double.units rank / twoPow Format.double.scale : Nat)
    some (if negative then -whole else whole)
  | _ => none

def convertFloat? (conversion : Conversion) (argument : Json) : Option (List Char) := do
  let x ← toDouble? argument
  let precision := conversion.precision.getD 6
  let body := match x with
    | .nan => "nan".toList
    | .infinite _ => "inf".toList
    | .finite _ rank =>
      let units := Format.double.units rank
      match conversion.letter.toLower with
      | 'f' => fixedChars conversion.alternate precision units
      | 'e' => scientificChars conversion.alternate precision units
      | _ => generalChars conversion.alternate precision units
  let body := if conversion.letter.isUpper then body.map Char.toUpper else body
  some (padNumber conversion x.isNegative [] body)

def convertInt (conversion : Conversion) (n : Int) : List Char :=
  let radix := match conversion.letter with
    | 'o' => 8
    | 'x' | 'X' => 16
    | _ => 10
  let digits := fillDigits (conversion.precision.getD 0) (Nat.toDigits radix n.natAbs)
  let digits := if conversion.letter = 'X' then digits.map Char.toUpper else digits
  let base := if conversion.alternate && radix ≠ 10 then ['0', conversion.letter] else []
  padNumber conversion (n < 0) base digits

def convertText (conversion : Conversion) (body : String) : List Char :=
  let chars := match conversion.precision with
    | some most => body.toList.take most
    | none => body.toList
  pad conversion chars

/-- Writes an argument by a conversion that suits it. -/
def convert? (conversion : Conversion) (argument : Json) : Option (List Char) :=
  match conversion.letter with
  | 's' => some (convertText conversion (plain argument))
  | 'r' => some (convertText conversion (shown argument))
  | 'a' => some (convertText conversion (match argument with
      | .text s => asciiQuoted s
      | other => shown other))
  | 'd' | 'i' | 'u' => (toInt? argument).map (convertInt conversion)
  | 'o' | 'x' | 'X' =>
    match argument with
    | .int n => some (convertInt conversion n)
    | .bool b => some (convertInt conversion b.toInt)
    | _ => none
  | 'e' | 'E' | 'f' | 'F' | 'g' | 'G' => convertFloat? conversion argument
  | 'c' =>
    match argument with
    | .text s => if s.length = 1 then some (pad conversion s.toList) else none
    | .int n => if 0 ≤ n ∧ n < 0x110000 then some (pad conversion [Char.ofNat n.toNat]) else none
    | .bool b => some (pad conversion [Char.ofNat b.toNat])
    | _ => none
  | _ => none

/-- The flags in front of a conversion. -/
def isFlag (c : Char) : Bool :=
  c = '-' || c = '+' || c = ' ' || c = '#' || c = '0'

/-- A size that a text can have. -/
def checkSize? (n : Int) : Option Int :=
  if n.natAbs < twoPow 31 then some n else none

/-- A width or a precision: digits, or a star that takes an integer from the arguments. -/
def readSize? (arguments : List Json) (input : List Char) : Option (Int × List Json × List Char) :=
  match input with
  | '*' :: rest =>
    match arguments with
    | .int n :: others => (checkSize? n).map fun size => (size, others, rest)
    | .bool b :: others => some (b.toInt, others, rest)
    | _ => none
  | _ => (checkSize? (digitsValue (input.takeWhile isAsciiDigit))).map fun size =>
      (size, arguments, input.dropWhile isAsciiDigit)

/-- Skips a letter for the size of a machine number, which has no meaning here. -/
def skipModifier (input : List Char) : List Char :=
  match input with
  | [] => []
  | c :: rest => if c = 'h' || c = 'l' || c = 'L' then rest else input

/-- A conversion behind the percent sign, with the arguments and the text that it leaves. -/
def readConversion? (arguments : List Json) (input : List Char) :
    Option (Conversion × List Json × List Char) := do
  let flags := input.takeWhile isFlag
  let (width, arguments, rest) ← readSize? arguments (input.dropWhile isFlag)
  let (precision, arguments, rest) ← match rest with
    | '.' :: rest =>
      (readSize? arguments rest).map fun found => (some found.1.toNat, found.2.1, found.2.2)
    | _ => some (none, arguments, rest)
  match skipModifier rest with
  | [] => none
  | letter :: rest =>
    some (⟨flags.contains '-' || width < 0, flags.contains '+', flags.contains ' ',
      flags.contains '#', flags.contains '0', width.natAbs, precision, letter⟩, arguments, rest)

/-- The key between parentheses, which may be nested, and the text behind it. The second argument
counts the parentheses that are open. -/
def readKey? : List Char → Nat → Option (List Char × List Char)
  | [], _ => none
  | c :: rest, depth =>
    if c = ')' ∧ depth = 0 then some ([], rest)
    else
      let depth := if c = '(' then depth + 1 else if c = ')' then depth - 1 else depth
      (readKey? rest depth).map fun found => (c :: found.1, found.2)

/-- Fills in a template. Conversions take the arguments in turn or name a field of the mapping,
which leaves no other argument to be taken. The number bounds how many there are. -/
def fill? (mapping : Option Json) : Nat → List Json → List Char → Option (List Char)
  | 0, _, _ => none
  | bound + 1, arguments, input =>
    let literal := input.takeWhile (· ≠ '%')
    match input.dropWhile (· ≠ '%') with
    | [] => if arguments.isEmpty || mapping.isSome then some literal else none
    | _ :: '%' :: rest => do return literal ++ '%' :: (← fill? mapping bound arguments rest)
    | _ :: '(' :: rest => do
      let fields ← mapping
      let (key, rest) ← readKey? rest 0
      let (conversion, _, rest) ← readConversion? [] rest
      let argument ← fields.field? (String.ofList key)
      return literal ++ (← convert? conversion argument) ++ (← fill? mapping bound [] rest)
    | _ :: rest => do
      let (conversion, arguments, rest) ← readConversion? arguments rest
      match arguments with
      | [] => none
      | argument :: arguments =>
        return literal ++ (← convert? conversion argument) ++ (← fill? mapping bound arguments rest)

/-- Whether a single argument is a mapping with fields, which then serves as all arguments. -/
def mappingOf : List Json → Option Json
  | [.object (field :: fields)] => some (.object (field :: fields))
  | _ => none

/-- The message of a template. Without arguments the template is the message. -/
def format (template : String) (arguments : List Json) : Except Fault String :=
  if arguments.isEmpty then .ok template
  else
    match fill? (mappingOf arguments) (template.length + 1) arguments template.toList with
    | some message => .ok (String.ofList message)
    | none => .error .template

/-- The last line of a report on an exception: its kind and its text, if it has one. A missing key
is shown quoted, and several arguments between parentheses. -/
def exceptionText (kind : String) (arguments : List Json) : String :=
  let text := match arguments with
    | [] => ""
    | [argument] => if kind = "KeyError" then shown argument else plain argument
    | _ => "(" ++ ", ".intercalate (arguments.map shown) ++ ")"
  if text.isEmpty then kind else kind ++ ": " ++ text

end ZeroGuard.Log.Template
