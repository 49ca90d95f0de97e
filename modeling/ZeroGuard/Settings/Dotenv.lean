import ZeroGuard.Text.Blank

namespace ZeroGuard.Dotenv

/-- Variables in the order in which they were first set. A name without a value is bound to
nothing. -/
abbrev Bindings := List (String × Option String)

/-- Every kind of line end becomes a line feed. -/
def unifyLines : List Char → List Char
  | [] => []
  | '\r' :: '\n' :: rest => '\n' :: unifyLines rest
  | '\r' :: rest => '\n' :: unifyLines rest
  | c :: rest => c :: unifyLines rest

/-- A blank inside a line. -/
def isLineBlank (c : Char) : Bool :=
  isBlank c && c ≠ '\n' && c ≠ '\r'

def inLine (c : Char) : Bool :=
  c ≠ '\n' && c ≠ '\r'

/-- Skips the word `export` with blanks behind it. -/
def skipExport (input : List Char) : List Char :=
  match input with
  | 'e' :: 'x' :: 'p' :: 'o' :: 'r' :: 't' :: c :: rest =>
    if isLineBlank c then rest.dropWhile isLineBlank else input
  | _ => input

def isNameChar (c : Char) : Bool :=
  c ≠ '=' && c ≠ '#' && !isBlank c

/-- A name between single quotes, or a row of characters up to a blank, `=` or `#`. -/
def readName? (input : List Char) : Option (List Char × List Char) :=
  match input with
  | '\'' :: rest =>
    let name := rest.takeWhile (· ≠ '\'')
    match rest.dropWhile (· ≠ '\'') with
    | _ :: rest => if name.isEmpty then none else some (name, rest)
    | [] => none
  | _ =>
    let name := input.takeWhile isNameChar
    if name.isEmpty then none else some (name, input.dropWhile isNameChar)

/-- Splits at the first quote that has no backslash before it. -/
def splitAtQuote? (quote : Char) : List Char → Option (List Char × List Char)
  | [] => none
  | [c] => if c = quote then some ([], []) else none
  | c :: d :: rest =>
    if c = quote then some ([], d :: rest)
    else if c = '\\' ∧ d = quote then
      (splitAtQuote? quote rest).map fun found => (c :: d :: found.1, found.2)
    else (splitAtQuote? quote (d :: rest)).map fun found => (c :: found.1, found.2)

/-- Splits at the last quote. -/
def splitAtLastQuote? (quote : Char) (input : List Char) : Option (List Char × List Char) :=
  let backward := input.reverse
  match backward.dropWhile (· ≠ quote) with
  | [] => none
  | _ :: before => some (before.reverse, (backward.takeWhile (· ≠ quote)).reverse)

/-- A quoted value ends at the first quote without a backslash, or else at the last quote. -/
def readQuoted? (quote : Char) (input : List Char) : Option (List Char × List Char) :=
  (splitAtQuote? quote input).or (splitAtLastQuote? quote input)

def singleEscapes : List (Char × Char) :=
  [('\\', '\\'), ('\'', '\'')]

def doubleEscapes : List (Char × Char) :=
  [('\\', '\\'), ('\'', '\''), ('"', '"'), ('a', '\x07'), ('b', '\x08'), ('f', '\x0c'), ('n', '\n'),
   ('r', '\r'), ('t', '\t'), ('v', '\x0b')]

/-- Replaces the escapes of a table; any other backslash stays. -/
def decodeEscapes (table : List (Char × Char)) : List Char → List Char
  | [] => []
  | [c] => [c]
  | c :: d :: rest =>
    if c = '\\' then
      match table.lookup d with
      | some plain => plain :: decodeEscapes table rest
      | none => c :: decodeEscapes table (d :: rest)
    else c :: decodeEscapes table (d :: rest)

/-- Cuts a line at a `#` with a blank before it. -/
def cutComment : List Char → List Char
  | [] => []
  | c :: rest =>
    if isBlank c && (rest.dropWhile isBlank).head? == some '#' then [] else c :: cutComment rest

/-- Reads the value behind the `=` and the blanks after it. -/
def readValue? (input : List Char) : Option (List Char × List Char) :=
  match input with
  | '\'' :: rest => (readQuoted? '\'' rest).map fun found =>
      (decodeEscapes singleEscapes found.1, found.2)
  | '"' :: rest => (readQuoted? '"' rest).map fun found =>
      (decodeEscapes doubleEscapes found.1, found.2)
  | _ => some (trimEnd isBlank (cutComment (input.takeWhile inLine)), input.dropWhile inLine)

/-- Skips a comment and the end of the line; anything else there is an error. -/
def endLine? (input : List Char) : Option (List Char) :=
  let rest := input.dropWhile isLineBlank
  let rest := if rest.head? == some '#' then rest.dropWhile inLine else rest
  match rest with
  | [] => some []
  | c :: rest => if inLine c then none else some rest

/-- What a line holds, and what comes after it. A line that cannot be read holds nothing. -/
structure Line where
  binding : Option (String × Option String)
  rest : List Char

/-- A line that cannot be read is left at the place of the error. -/
def skipLine (input : List Char) : Line :=
  ⟨none, (input.dropWhile inLine).drop 1⟩

/-- Reads a line from its first character that is not blank on. -/
def readLine (input : List Char) : Line :=
  let input := skipExport input
  if input.head? == some '#' then
    match endLine? input with
    | some rest => ⟨none, rest⟩
    | none => skipLine input
  else
    match readName? input with
    | none => skipLine input
    | some (name, rest) =>
      match rest.dropWhile isLineBlank with
      | '=' :: rest =>
        let rest := rest.dropWhile isLineBlank
        match readValue? rest with
        | none => skipLine rest
        | some (value, rest) =>
          match endLine? rest with
          | some rest => ⟨some (String.ofList name, some (String.ofList value)), rest⟩
          | none => skipLine rest
      | rest =>
        match endLine? rest with
        | some rest => ⟨some (String.ofList name, none), rest⟩
        | none => skipLine rest

/-- Reads all lines. The number bounds how many there are. -/
def readLines : Nat → List Char → List (String × Option String)
  | 0, _ => []
  | bound + 1, input =>
    match input.dropWhile isBlank with
    | [] => []
    | start =>
      let line := readLine start
      line.binding.toList ++ readLines bound line.rest

/-- Sets a variable in its place, or behind all others when it is new. -/
def put (name : String) (value : Option String) : Bindings → Bindings
  | [] => [(name, value)]
  | (key, old) :: rest =>
    if key = name then (name, value) :: rest else (key, old) :: put name value rest

/-- A reference to a variable: its name, a default, and what follows. -/
structure Reference where
  name : String
  fallback : String
  rest : List Char

/-- Reads `NAME}` or `NAME:-default}` behind the opening brace. -/
def readReference? (input : List Char) : Option Reference :=
  let isNamePart := fun c => c ≠ '\x7d' && c ≠ ':'
  let name := String.ofList (input.takeWhile isNamePart)
  match input.dropWhile isNamePart with
  | '\x7d' :: rest => some ⟨name, "", rest⟩
  | ':' :: '-' :: rest =>
    match rest.dropWhile (· ≠ '\x7d') with
    | _ :: after => some ⟨name, String.ofList (rest.takeWhile (· ≠ '\x7d')), after⟩
    | [] => none
  | _ => none

/-- Replaces references by the values of variables. The number bounds the characters. -/
def substitute (lookup : String → Option String) : Nat → List Char → List Char
  | 0, input => input
  | _, [] => []
  | bound + 1, c :: rest =>
    let reference :=
      match c, rest with
      | '$', '\x7b' :: inner => readReference? inner
      | _, _ => none
    match reference with
    | some found =>
      ((lookup found.name).getD found.fallback).toList ++ substitute lookup bound found.rest
    | none => c :: substitute lookup bound rest

/-- The value of a name: what the file has bound it to so far, else the environment's. A name that
the file binds to nothing stands for an empty text. -/
def resolve (environment : List (String × String)) (bound : Bindings) (name : String) :
    Option String :=
  match bound.lookup name with
  | some value => some (value.getD "")
  | none => environment.lookup name

/-- The variables that a file sets. A mark of byte order in front of it does not count. Later lines
win over earlier ones and see their values. -/
def parse (environment : List (String × String)) (text : String) : Bindings :=
  let input := unifyLines (withoutMark text.toList)
  (readLines (input.length + 1) input).foldl (fun bound line =>
    let value := line.2.map fun raw =>
      String.ofList (substitute (resolve environment bound) raw.length raw.toList)
    put line.1 value bound) []

end ZeroGuard.Dotenv
