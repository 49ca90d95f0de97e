import ZeroGuard.Decimal.Reader
import ZeroGuard.Value.Basic

namespace ZeroGuard.Value

/-- The integer that a part is; a truth value counts as 0 or 1. -/
def toPart? : Value → Option Int
  | number _ (.int n) => Option.some n
  | number _ (.bool b) => Option.some b.toInt
  | _ => Option.none

/-- An integer part that has to fit a word. -/
def toWordPart (problem : String) (part : Value) : Except Fault Int :=
  match part.toPart? with
  | Option.none => .error (.decimalPart problem)
  | Option.some n => do
    let word ← Number.intToWord n
    .ok word.toInt

/-- The sign: 1 stands for minus. -/
def toSign (part : Value) : Except Fault Bool := do
  let problem := "sign must be an integer with the value 0 or 1"
  match ← toWordPart problem part with
  | 0 => .ok false
  | 1 => .ok true
  | _ => .error (.decimalPart problem)

def toDigit (part : Value) : Except Fault Nat := do
  let problem := "coefficient must be a tuple of digits"
  let n ← toWordPart problem part
  if 0 ≤ n ∧ n ≤ 9 then .ok n.toNat else .error (.decimalPart problem)

/-- The coefficient that a list of digits makes; the first problem among them is reported. -/
def toCoefficient : Value → Except Fault Nat
  | list items => do
    let digits ← items.mapM toDigit
    .ok (digits.foldl (fun value digit => 10 * value + digit) 0)
  | _ => .error (.decimalPart "coefficient must be a tuple of digits")

/-- What the last part makes of a sign and a coefficient. -/
def toScale (part : Value) : Except Fault (Bool → Nat → Except Fault Decimal) :=
  match part with
  | text "F" => .ok fun negative _ => .ok (.infinite negative)
  | text "n" => .ok fun negative payload => .ok (.nan negative false payload)
  | text "N" => .ok fun negative payload => .ok (.nan negative true payload)
  | text _ => .error (.decimalPart "string argument in the third position must be 'F', 'n' or 'N'")
  | _ =>
    match part.toPart? with
    | Option.none => .error (.decimalPart "exponent must be an integer")
    | Option.some exponent =>
      if exponent < -wordBound ∨ wordBound ≤ exponent then .error .sizeRange
      else .ok fun negative coefficient =>
        if Decimal.inRange coefficient exponent then .ok (.finite negative coefficient exponent)
        else .error (.signal .invalid)

/-- A decimal from its parts. The sign is looked at first, then the last part, then the digits. -/
def decimalOfParts (sign digits scale : Value) : Except Fault Decimal := do
  let negative ← sign.toSign
  let build ← scale.toScale
  let coefficient ← digits.toCoefficient
  build negative coefficient

end ZeroGuard.Value
