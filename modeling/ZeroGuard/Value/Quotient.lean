import ZeroGuard.Number.Quotient
import ZeroGuard.Value.Equality

namespace ZeroGuard.Value

def hasFixedWidth : Value → Bool
  | number _ n => n.hasFixedWidth
  | _ => false

def isText : Value → Bool
  | text _ => true
  | _ => false

/-- The kind that a fault of division reports: that of the plain number for a fixed width. -/
def reportedKind : Value → String
  | number _ n => if n.hasFixedWidth then n.plain.kindName else n.kindName
  | value => value.kindName

/-- The fault of a division in which one value is no number. Only a number of a fixed width beside a
text is refused without naming the kinds. -/
def divideFault (op : Operator) (a b : Value) : Fault :=
  if (a.hasFixedWidth && b.isText) || (a.isText && b.hasFixedWidth) then .notItemwise op
  else .unsupported op a.reportedKind b.reportedKind

def divide (op : Operator) : Value → Value → Except Fault Number
  | number _ a, number _ b => a.divide op b
  | a, b => .error (divideFault op a b)

/-- The quotient under the zero guard, or nothing when the divisor is zero. -/
def safeDivide (op : Operator) (a b : Value) : Except Fault (Option Number) :=
  guarded isZero (divide op) a b

/-- Whether values of this kind can be divided by an operator. -/
def supports (op : Operator) : Value → Bool
  | number _ (.complex _) => op = .quotient
  | number _ _ => true
  | _ => false

end ZeroGuard.Value
