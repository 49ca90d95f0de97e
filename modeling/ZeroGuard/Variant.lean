import ZeroGuard.Value.Quotient

namespace ZeroGuard.Value

def isSome : Value → Bool
  | some _ => true
  | _ => false

def isNothing : Value → Bool
  | nothing => true
  | _ => false

def isOk : Value → Bool
  | ok _ => true
  | _ => false

def isErr : Value → Bool
  | err _ => true
  | _ => false

/-- The content of a present option, and the default for any other value. -/
def unwrapOr (value fallback : Value) : Value :=
  match value with
  | some content => content
  | _ => fallback

def toOptional : Value → Value
  | some value => value
  | _ => none

def ofOption (mark : Nat) : Option Number → Value
  | .some n => some (number mark n)
  | .none => nothing

/-- Whether an option is present, and the text of what it holds. -/
def render (value : Value) : Except Fault (Bool × Option String) :=
  match value with
  | some content => do .ok (true, .some (← content.plainText))
  | nothing => .ok (false, .none)
  | _ => do .error (.unexpectedOption (← value.shown))

/-- The one field of a variant, if it has one. -/
def field? : Value → Option String
  | some _ | ok _ => .some "value"
  | err _ => .some "error"
  | _ => .none

def isVariant : Value → Bool
  | some _ | nothing | ok _ | err _ => true
  | _ => false

/-- The fault of setting or deleting a name of a value. Variants are immutable: their field says so,
and any other name comes upon the class that they were made from. Of another value it is one that the
value does not have. -/
def changeFault (frozen : String → Fault) (name : String) (value : Value) : Fault :=
  if !value.isVariant then .missingAttribute value.kindName name
  else if value.field? = .some name then frozen name
  else .noSubtype

def assignFault (name : String) (value : Value) : Fault :=
  value.changeFault .frozenAssign name

def deleteFault (name : String) (value : Value) : Fault :=
  value.changeFault .frozenDelete name

end ZeroGuard.Value
