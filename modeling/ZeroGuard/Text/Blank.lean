namespace ZeroGuard

/-- The blanks of ASCII text: tab, line feed, vertical tab, form feed, carriage return, space. -/
def isAsciiBlank (c : Char) : Bool :=
  c.toNat == 0x20 || (0x9 ≤ c.toNat && c.toNat ≤ 0xd)

/-- Code points with the Unicode property White_Space or the bidirectional class of a separator,
as closed ranges. The four information separators U+001C to U+001F belong to them. -/
def blankRanges : List (Nat × Nat) :=
  [(0x9, 0xd), (0x1c, 0x20), (0x85, 0x85), (0xa0, 0xa0), (0x1680, 0x1680), (0x2000, 0x200a),
   (0x2028, 0x2029), (0x202f, 0x202f), (0x205f, 0x205f), (0x3000, 0x3000)]

def isBlank (c : Char) : Bool :=
  blankRanges.any fun range => range.1 ≤ c.toNat && c.toNat ≤ range.2

/-- Takes the characters of a class off both ends. -/
def trimBoth (outer : Char → Bool) (text : List Char) : List Char :=
  ((text.dropWhile outer).reverse.dropWhile outer).reverse

def trimEnd (outer : Char → Bool) (text : List Char) : List Char :=
  (text.reverse.dropWhile outer).reverse

/-- A text without the mark of byte order in front. Only one is taken off. -/
def withoutMark : List Char → List Char
  | [] => []
  | c :: rest => if c.toNat = 0xfeff then rest else c :: rest

end ZeroGuard
