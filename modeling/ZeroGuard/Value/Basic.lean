import ZeroGuard.Number.Basic

namespace ZeroGuard

/-- A value of any kind. A number carries a mark: numbers with one mark are one and the same object,
which matters for a NaN inside a container. -/
inductive Value
  | none
  | text (s : String)
  | number (mark : Nat) (n : Number)
  | list (items : List Value)
  | some (value : Value)
  | nothing
  | ok (value : Value)
  | err (error : Value)
deriving Repr, Inhabited

namespace Value

/-- The name of a value's kind in messages. -/
def kindName : Value → String
  | none => "NoneType"
  | text _ => "str"
  | number _ n => n.kindName
  | list _ => "list"
  | some _ => "Some"
  | nothing => "Nothing"
  | ok _ => "Ok"
  | err _ => "Err"

mutual

/-- The text of a value that shows its kind and everything inside it. -/
def shown : Value → Except Fault String
  | none => .ok "None"
  | text s => .ok (quoted s)
  | number _ n => n.shown
  | list items => do
    let parts ← shownAll items
    .ok ("[" ++ ", ".intercalate parts ++ "]")
  | some value => do .ok ("Some(value=" ++ (← shown value) ++ ")")
  | nothing => .ok "Nothing()"
  | ok value => do .ok ("Ok(value=" ++ (← shown value) ++ ")")
  | err error => do .ok ("Err(error=" ++ (← shown error) ++ ")")

def shownAll : List Value → Except Fault (List String)
  | [] => .ok []
  | value :: rest => do
    let first ← shown value
    .ok (first :: (← shownAll rest))

end

/-- The plain text of a value: a text stands for itself and a number without its kind. -/
def plainText : Value → Except Fault String
  | text s => .ok s
  | number _ n => n.text
  | value => value.shown

end Value

end ZeroGuard
