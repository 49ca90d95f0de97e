import ZeroGuard.Binary.Text

namespace ZeroGuard

/-- A document. A number without a point and an exponent is an integer of any size; any other is a
double. Fields keep their order, and a text may hold lone surrogates, as the characters of
`isSurrogate`. -/
inductive Json
  | null
  | bool (b : Bool)
  | int (n : Int)
  | float (x : Double)
  | text (s : String)
  | array (items : List Json)
  | object (fields : List (String × Json))
deriving Repr, Inhabited

namespace Json

/-- The last field of a name. -/
def field? (name : String) : Json → Option Json
  | object fields => (fields.reverse.find? (·.1 = name)).map (·.2)
  | _ => none

/-- Sets a field in its place, or behind all others when there is none of the name. -/
def putField (name : String) (value : Json) : List (String × Json) → List (String × Json)
  | [] => [(name, value)]
  | (key, old) :: rest =>
    if key = name then (name, value) :: rest else (key, old) :: putField name value rest

mutual

/-- Whether every number in the document can be written as JSON: infinities and NaNs cannot. -/
def isFinite : Json → Bool
  | float x => x.isFinite
  | array items => allFinite items
  | object fields => allFieldsFinite fields
  | _ => true

def allFinite : List Json → Bool
  | [] => true
  | item :: rest => isFinite item && allFinite rest

def allFieldsFinite : List (String × Json) → Bool
  | [] => true
  | field :: rest => isFinite field.2 && allFieldsFinite rest

end

/-- Whether a text has an encoding: one with a lone surrogate has none. -/
def isEncodableText (s : String) : Bool :=
  s.toList.all fun c => !isSurrogate c

mutual

/-- Whether every text in the document has an encoding. -/
def isEncodable : Json → Bool
  | text s => isEncodableText s
  | array items => allEncodable items
  | object fields => allFieldsEncodable fields
  | _ => true

def allEncodable : List Json → Bool
  | [] => true
  | item :: rest => isEncodable item && allEncodable rest

def allFieldsEncodable : List (String × Json) → Bool
  | [] => true
  | field :: rest => isEncodableText field.1 && isEncodable field.2 && allFieldsEncodable rest

end

/-- A character inside a quoted JSON text. Only the quote, the backslash and the control characters
below the space are escaped. -/
def escape (c : Char) : List Char :=
  if c = '"' then ['\\', '"']
  else if c = '\\' then ['\\', '\\']
  else if c = '\n' then ['\\', 'n']
  else if c = '\r' then ['\\', 'r']
  else if c = '\t' then ['\\', 't']
  else if c.toNat = 0x8 then ['\\', 'b']
  else if c.toNat = 0xc then ['\\', 'f']
  else if c.toNat < 0x20 then '\\' :: 'u' :: hexDigits 4 c.toNat
  else [c]

def quotedText (s : String) : List Char :=
  '"' :: s.toList.flatMap escape ++ ['"']

/-- How doubles are written, the values that are not finite by name. -/
def floatChars : Double → List Char
  | .nan => "NaN".toList
  | .infinite negative => (if negative then ['-'] else []) ++ "Infinity".toList
  | x => x.chars .double

mutual

def chars : Json → List Char
  | null => "null".toList
  | bool b => (if b then "true" else "false").toList
  | int n => (integerText n).toList
  | float x => floatChars x
  | text s => quotedText s
  | array items => '[' :: itemChars items ++ [']']
  | object fields => '\x7b' :: fieldChars fields ++ ['\x7d']

def itemChars : List Json → List Char
  | [] => []
  | [item] => chars item
  | item :: rest => chars item ++ ',' :: ' ' :: itemChars rest

def fieldChars : List (String × Json) → List Char
  | [] => []
  | [field] => quotedText field.1 ++ ':' :: ' ' :: chars field.2
  | field :: rest =>
    quotedText field.1 ++ ':' :: ' ' :: chars field.2 ++ ',' :: ' ' :: fieldChars rest

end

def write (document : Json) : String :=
  String.ofList document.chars

end Json

end ZeroGuard
