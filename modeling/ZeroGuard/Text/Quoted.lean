import ZeroGuard.Text.Printable
import ZeroGuard.Text.Surrogate

namespace ZeroGuard

/-- Lower-case hexadecimal digits, filled with zeros on the left up to `width`. -/
def hexDigits (width value : Nat) : List Char :=
  let digits := Nat.toDigits 16 value
  List.replicate (width - digits.length) '0' ++ digits

/-- The shortest hexadecimal escape that holds the code point. -/
def hexEscape (c : Char) : List Char :=
  let code := charCode c
  if code ≤ 0xff then '\\' :: 'x' :: hexDigits 2 code
  else if code ≤ 0xffff then '\\' :: 'u' :: hexDigits 4 code
  else '\\' :: 'U' :: hexDigits 8 code

def quoteChar (quote c : Char) : List Char :=
  if c = quote ∨ c = '\\' then ['\\', c]
  else if c = '\t' then ['\\', 't']
  else if c = '\n' then ['\\', 'n']
  else if c = '\r' then ['\\', 'r']
  else if isPrintable c then [c]
  else hexEscape c

def quoteMark (text : List Char) : Char :=
  if '\'' ∈ text ∧ '"' ∉ text then '"' else '\''

def quotedChars (text : List Char) : List Char :=
  let quote := quoteMark text
  quote :: text.flatMap (quoteChar quote) ++ [quote]

def quoted (text : String) : String :=
  String.ofList (quotedChars text.toList)

/-- Quoted text in which no character beyond ASCII is left: those stand as escapes. -/
def asciiQuoted (text : String) : String :=
  String.ofList ((quotedChars text.toList).flatMap fun c =>
    if c.toNat < 0x80 then [c] else hexEscape c)

end ZeroGuard
