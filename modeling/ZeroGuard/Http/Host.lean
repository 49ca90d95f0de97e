import ZeroGuard.Text.DecimalDigit

namespace ZeroGuard.Http

/-- The pieces of a text between the places where a character stands. -/
def pieces (mark : Char) : List Char → List (List Char)
  | [] => [[]]
  | c :: rest =>
    if c = mark then [] :: pieces mark rest
    else match pieces mark rest with
      | [] => [[c]]
      | first :: others => (c :: first) :: others

/-- A name consists of ASCII letters and digits, points, hyphens and underscores. -/
def isHostName (name : List Char) : Bool :=
  !name.isEmpty && name.all fun c => c.isAlphanum || c = '.' || c = '-' || c = '_'

def isHexDigit (c : Char) : Bool :=
  isAsciiDigit c || ('a' ≤ c && c ≤ 'f') || ('A' ≤ c && c ≤ 'F')

/-- One to four hexadecimal digits, which stand for 16 bits of an address. -/
def isGroup (piece : List Char) : Bool :=
  0 < piece.length && piece.length ≤ 4 && piece.all isHexDigit

/-- A decimal number below 256 without leading zeros. -/
def isOctet (piece : List Char) : Bool :=
  !piece.isEmpty && piece.all isAsciiDigit && piece.length ≤ 3 && digitsValue piece < 256 &&
    (piece.length = 1 || piece.head? != some '0')

/-- Four octets with points between them. -/
def isDottedQuad (piece : List Char) : Bool :=
  let octets := pieces '.' piece
  octets.length = 4 && octets.all isOctet

/-- Drops one of two empty pieces at the front. A single one there is not well-formed. -/
def openFront? : List (List Char) → Option (List (List Char))
  | [] :: [] :: rest => some ([] :: rest)
  | [] :: _ => none
  | rest => some rest

/-- How many groups the pieces of an address stand for, if they are well-formed. The last one may be
a dotted quad, which stands for two. -/
def groupCount? : List (List Char) → Option Nat
  | [] => some 0
  | [last] =>
    if isGroup last then some 1 else if isDottedQuad last then some 2 else none
  | piece :: rest => if isGroup piece then (groupCount? rest).map (· + 1) else none

/-- An address of eight groups with colons between them. Two colons in a row stand for one or more
groups, and may occur once. -/
def isAddress (text : List Char) : Bool :=
  let opened := do
    let front ← openFront? (pieces ':' text)
    let back ← openFront? front.reverse
    some back.reverse
  match opened with
  | none => false
  | some groups =>
    if groups.contains [] then
      let before := groups.takeWhile (· ≠ [])
      let after := (groups.dropWhile (· ≠ [])).drop 1
      before.all isGroup &&
        match groupCount? after with
        | some count => before.length + count ≤ 7
        | none => false
    else groupCount? groups = some 8

/-- What may stand behind a host: nothing, or a colon and a number below 65536. -/
def isNumberSuffix : List Char → Bool
  | [] => true
  | ':' :: digits => !digits.isEmpty && digits.all isAsciiDigit && digitsValue digits < 65536
  | _ => false

/-- Whether a text is a well-formed host. -/
def isHost (host : String) : Bool :=
  match host.toList with
  | '[' :: rest =>
    match rest.dropWhile (· ≠ ']') with
    | ']' :: suffix => isAddress (rest.takeWhile (· ≠ ']')) && isNumberSuffix suffix
    | _ => false
  | chars => isHostName (chars.takeWhile (· ≠ ':')) && isNumberSuffix (chars.dropWhile (· ≠ ':'))

end ZeroGuard.Http
