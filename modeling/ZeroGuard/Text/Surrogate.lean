namespace ZeroGuard

/-- A high and a low surrogate stand together for one character beyond the first plane. -/
def isHighSurrogate (code : Nat) : Bool :=
  0xd800 ≤ code && code ≤ 0xdbff

def isLowSurrogate (code : Nat) : Bool :=
  0xdc00 ≤ code && code ≤ 0xdfff

def joinSurrogates (high low : Nat) : Nat :=
  0x10000 + (high - 0xd800) * 0x400 + (low - 0xdc00)

/-- The code of the character that holds the first surrogate. A surrogate that stands alone is no
character, but a text may bring it: it is held as one of the last 2048 characters, which are private
ones and are kept for this. -/
def surrogateBase : Nat := 0x10f800

/-- The character of a code, which may be that of a surrogate. -/
def codeChar (code : Nat) : Char :=
  if isHighSurrogate code || isLowSurrogate code then Char.ofNat (surrogateBase + (code - 0xd800))
  else Char.ofNat code

/-- Whether a character holds a lone surrogate. Wherever a text is spoken of, these characters are
taken for what they hold. -/
def isSurrogate (c : Char) : Bool :=
  surrogateBase ≤ c.toNat

/-- The code that a character stands for, that of a surrogate if it holds one. -/
def charCode (c : Char) : Nat :=
  if isSurrogate c then 0xd800 + (c.toNat - surrogateBase) else c.toNat

end ZeroGuard
