import ZeroGuard.Integer
import ZeroGuard.Json.Basic

namespace ZeroGuard.Json

/-- What is wrong with a text that is no document. -/
inductive Problem
  | expectedValue
  | expectedName
  | expectedColon
  | expectedComma
  | unterminatedText
  | controlCharacter
  | badEscape
  | badCodeEscape
  | extraData
deriving DecidableEq, Repr

def Problem.message : Problem → String
  | expectedValue => "Expecting value"
  | expectedName => "Expecting property name enclosed in double quotes"
  | expectedColon => "Expecting ':' delimiter"
  | expectedComma => "Expecting ',' delimiter"
  | unterminatedText => "Unterminated string starting at"
  | controlCharacter => "Invalid control character at"
  | badEscape => "Invalid \\escape"
  | badCodeEscape => "Invalid \\uXXXX escape"
  | extraData => "Extra data"

inductive ReadError
  /-- The problem lies where `rest` begins. -/
  | malformed (problem : Problem) (rest : List Char)
  /-- An integer has too many digits. -/
  | number (fault : Fault)
  | tooDeep
deriving Repr

def isJsonBlank (c : Char) : Bool :=
  c = ' ' || c = '\t' || c = '\n' || c = '\r'

def skipBlanks (text : List Char) : List Char :=
  text.dropWhile isJsonBlank

def hexValue? (c : Char) : Option Nat :=
  if '0' ≤ c ∧ c ≤ '9' then some (c.toNat - '0'.toNat)
  else if 'a' ≤ c ∧ c ≤ 'f' then some (c.toNat - 'a'.toNat + 10)
  else if 'A' ≤ c ∧ c ≤ 'F' then some (c.toNat - 'A'.toNat + 10)
  else none

/-- The number that four hexadecimal digits denote. -/
def hexCode? (a b c d : Char) : Option Nat := do
  let a ← hexValue? a
  let b ← hexValue? b
  let c ← hexValue? c
  let d ← hexValue? d
  some (((a * 16 + b) * 16 + c) * 16 + d)

/-- The character that a one-letter escape stands for. -/
def plainEscape? (c : Char) : Option Char :=
  match c with
  | '"' => some '"'
  | '\\' => some '\\'
  | '/' => some '/'
  | 'b' => some (Char.ofNat 0x8)
  | 'f' => some (Char.ofNat 0xc)
  | 'n' => some '\n'
  | 'r' => some '\r'
  | 't' => some '\t'
  | _ => none

/-- Reads the escape for a low surrogate that may follow a high one: `none` if there is no further
escape or it is for another character. -/
def readLowSurrogate : List Char → Except ReadError (Option (Nat × List Char))
  | '\\' :: 'u' :: a :: b :: c :: d :: next :: rest =>
    match hexCode? a b c d with
    | none => .error (.malformed .badCodeEscape ('u' :: a :: b :: c :: d :: next :: rest))
    | some code => .ok (if isLowSurrogate code then some (code, next :: rest) else none)
  | _ => .ok none

/-- Puts a character in front of a text that has been read. -/
def consText (c : Char) (reading : Except ReadError (List Char × List Char)) :
    Except ReadError (List Char × List Char) :=
  reading.map fun done => (c :: done.1, done.2)

/-- Reads a quoted text up to its closing quote. `opened` is the rest from its opening quote on. The
first argument bounds the number of characters. -/
def readChars (opened : List Char) : Nat → List Char → Except ReadError (List Char × List Char)
  | 0, _ => .error (.malformed .unterminatedText opened)
  | _, [] => .error (.malformed .unterminatedText opened)
  | bound + 1, c :: rest =>
    if c = '"' then .ok ([], rest)
    else if c.toNat < 0x20 then .error (.malformed .controlCharacter (c :: rest))
    else if c ≠ '\\' then consText c (readChars opened bound rest)
    else
      match rest with
      | [] => .error (.malformed .unterminatedText opened)
      | 'u' :: d₁ :: d₂ :: d₃ :: d₄ :: next :: rest =>
        match hexCode? d₁ d₂ d₃ d₄ with
        | none => .error (.malformed .badCodeEscape ('u' :: d₁ :: d₂ :: d₃ :: d₄ :: next :: rest))
        | some code =>
          if isHighSurrogate code then
            match readLowSurrogate (next :: rest) with
            | .error problem => .error problem
            | .ok (some (low, rest)) =>
              consText (Char.ofNat (joinSurrogates code low)) (readChars opened bound rest)
            | .ok none => consText (codeChar code) (readChars opened bound (next :: rest))
          else consText (codeChar code) (readChars opened bound (next :: rest))
      | 'u' :: rest => .error (.malformed .badCodeEscape ('u' :: rest))
      | letter :: rest =>
        match plainEscape? letter with
        | some plain => consText plain (readChars opened bound rest)
        | none => .error (.malformed .badEscape (c :: letter :: rest))

/-- Reads a text whose opening quote has been read. -/
def readText (rest : List Char) : Except ReadError (String × List Char) :=
  (readChars ('"' :: rest) rest.length rest).map fun done => (String.ofList done.1, done.2)

/-- A number at the front of a text: its characters, whether it has a fraction or an exponent, and
the rest. -/
structure ScannedNumber where
  negative : Bool
  whole : List Char
  fraction : List Char
  exponent : List Char
  rest : List Char

/-- The digits of an integer: a zero alone, or digits that do not start with one. -/
def scanWhole? : List Char → Option (List Char × List Char)
  | [] => none
  | c :: rest =>
    if c = '0' then some (['0'], rest)
    else if isAsciiDigit c then
      some (c :: rest.takeWhile isAsciiDigit, rest.dropWhile isAsciiDigit)
    else none

/-- A point with at least one digit behind it, or nothing. -/
def scanPoint (text : List Char) : List Char × List Char :=
  match text with
  | '.' :: rest =>
    let digits := rest.takeWhile isAsciiDigit
    if digits.isEmpty then ([], text) else ('.' :: digits, rest.dropWhile isAsciiDigit)
  | _ => ([], text)

/-- The sign of an exponent. -/
def scanSign : List Char → List Char × List Char
  | '-' :: rest => (['-'], rest)
  | '+' :: rest => (['+'], rest)
  | rest => ([], rest)

/-- An exponent with at least one digit, or nothing. -/
def scanPower (text : List Char) : List Char × List Char :=
  match text with
  | [] => ([], [])
  | c :: rest =>
    let signed := scanSign rest
    let digits := signed.2.takeWhile isAsciiDigit
    if (c = 'e' ∨ c = 'E') ∧ !digits.isEmpty then
      (c :: signed.1 ++ digits, signed.2.dropWhile isAsciiDigit)
    else ([], text)

def scanNumber? (text : List Char) : Option ScannedNumber := do
  let (negative, rest) := match text with
    | '-' :: rest => (true, rest)
    | _ => (false, text)
  let (whole, rest) ← scanWhole? rest
  let (fraction, rest) := scanPoint rest
  let (exponent, rest) := scanPower rest
  some ⟨negative, whole, fraction, exponent, rest⟩

/-- The value of a scanned number. -/
def ScannedNumber.value (scanned : ScannedNumber) : Except ReadError Json :=
  if scanned.fraction.isEmpty && scanned.exponent.isEmpty then
    match readDigits scanned.whole with
    | .ok magnitude => .ok (int (if scanned.negative then -(magnitude : Int) else magnitude))
    | .error fault => .error (.number fault)
  else
    let chars := (if scanned.negative then ['-'] else []) ++ scanned.whole ++ scanned.fraction ++
      scanned.exponent
    .ok (float ((Binary.ofChars? chars).getD .nan))

/-- Words that stand for a value. Those for infinities and NaN go beyond the standard. -/
def words : List (List Char × Json) :=
  [("null".toList, null), ("true".toList, bool true), ("false".toList, bool false),
   ("NaN".toList, float .nan), ("Infinity".toList, float (.infinite false)),
   ("-Infinity".toList, float (.infinite true))]

/-- Reads a word, a number or a text. -/
def readScalar (input : List Char) : Except ReadError (Json × List Char) :=
  match input with
  | '"' :: rest => (readText rest).map fun done => (Json.text done.1, done.2)
  | _ =>
    match words.find? (·.1.isPrefixOf input) with
    | some (word, value) => .ok (value, input.drop word.length)
    | none =>
      match scanNumber? input with
      | some scanned => scanned.value.map fun value => (value, scanned.rest)
      | none => .error (.malformed .expectedValue input)

/-- Reads the items of an array from its first on. The number bounds how many there are. -/
def readItems (read : List Char → Except ReadError (Json × List Char)) :
    Nat → List Char → Except ReadError (List Json × List Char)
  | 0, input => .error (.malformed .expectedValue input)
  | bound + 1, input => do
    let (item, rest) ← read input
    match skipBlanks rest with
    | ']' :: rest => .ok ([item], rest)
    | ',' :: rest =>
      let (items, rest) ← readItems read bound (skipBlanks rest)
      .ok (item :: items, rest)
    | rest => .error (.malformed .expectedComma rest)

/-- Reads a name, a colon and a value. -/
def readField (read : List Char → Except ReadError (Json × List Char)) (input : List Char) :
    Except ReadError ((String × Json) × List Char) :=
  match input with
  | '"' :: rest => do
    let (name, rest) ← readText rest
    match skipBlanks rest with
    | ':' :: rest =>
      let (value, rest) ← read (skipBlanks rest)
      .ok ((name, value), rest)
    | rest => .error (.malformed .expectedColon rest)
  | _ => .error (.malformed .expectedName input)

/-- Reads the fields of an object from its first on. The number bounds how many there are. -/
def readFields (read : List Char → Except ReadError (Json × List Char)) :
    Nat → List Char → Except ReadError (List (String × Json) × List Char)
  | 0, input => .error (.malformed .expectedName input)
  | bound + 1, input => do
    let (field, rest) ← readField read input
    match skipBlanks rest with
    | '\x7d' :: rest => .ok ([field], rest)
    | ',' :: rest =>
      let (fields, rest) ← readFields read bound (skipBlanks rest)
      .ok (field :: fields, rest)
    | rest => .error (.malformed .expectedComma rest)

/-- Fields of one name become one, in the place of the first and with the value of the last. -/
def mergeFields (fields : List (String × Json)) : List (String × Json) :=
  fields.foldl (fun merged field => putField field.1 field.2 merged) []

/-- Reads a value in which containers are nested at most `depth` deep. -/
def readValue : Nat → List Char → Except ReadError (Json × List Char)
  | 0, input =>
    match input with
    | '[' :: _ | '\x7b' :: _ => .error .tooDeep
    | _ => readScalar input
  | depth + 1, input =>
    match input with
    | '[' :: rest =>
      match skipBlanks rest with
      | ']' :: rest => .ok (array [], rest)
      | rest => (readItems (readValue depth) (rest.length + 1) rest).map fun done =>
          (array done.1, done.2)
    | '\x7b' :: rest =>
      match skipBlanks rest with
      | '\x7d' :: rest => .ok (object [], rest)
      | rest => (readFields (readValue depth) (rest.length + 1) rest).map fun done =>
          (object (mergeFields done.1), done.2)
    | _ => readScalar input

/-- Reads a whole document in which containers are nested at most `depth` deep. Blanks may stand
around it. -/
def readChars? (depth : Nat) (input : List Char) : Except ReadError Json := do
  let (document, rest) ← readValue depth (skipBlanks input)
  match skipBlanks rest with
  | [] => .ok document
  | rest => .error (.malformed .extraData rest)

/-- Reads a document however deep it is nested, which is less deep than it is long. -/
def read (document : String) : Except ReadError Json :=
  readChars? document.length document.toList

end ZeroGuard.Json
