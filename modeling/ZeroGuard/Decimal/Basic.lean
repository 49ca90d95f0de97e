namespace ZeroGuard

/-- A finite decimal is `coefficient * 10 ^ exponent` with a sign; decimals of one value differ in
their exponents. The payload 0 of a NaN is not shown. -/
inductive Decimal
  | finite (negative : Bool) (coefficient : Nat) (exponent : Int)
  | infinite (negative : Bool)
  | nan (negative signaling : Bool) (payload : Nat)
deriving DecidableEq, Repr

namespace Decimal

def ofInt (n : Int) : Decimal :=
  finite (n < 0) n.natAbs 0

def isZero : Decimal → Bool
  | finite _ coefficient _ => coefficient == 0
  | _ => false

def isSignaling : Decimal → Bool
  | nan _ signaling _ => signaling
  | _ => false

def signChars (negative : Bool) : List Char :=
  if negative then ['-'] else []

/-- The digits and exponent of a finite decimal. The point stands inside or before the digits while
the exponent is not positive and at most five zeros have to be filled in; otherwise it stands after
the first digit and an exponent is written. -/
def finiteChars (coefficient : Nat) (exponent : Int) : List Char :=
  let digits := (Nat.repr coefficient).toList
  let left := exponent + digits.length
  if exponent ≤ 0 ∧ -6 < left then
    if left ≤ 0 then '0' :: '.' :: (List.replicate (-left).toNat '0' ++ digits)
    else if exponent = 0 then digits
    else digits.take left.toNat ++ '.' :: digits.drop left.toNat
  else
    let power := left - 1
    digits.take 1 ++ (if digits.length ≤ 1 then [] else '.' :: digits.drop 1) ++
      'E' :: (if power < 0 then '-' else '+') :: (Nat.repr power.natAbs).toList

def chars : Decimal → List Char
  | finite negative coefficient exponent => signChars negative ++ finiteChars coefficient exponent
  | infinite negative => signChars negative ++ "Infinity".toList
  | nan negative signaling payload =>
    signChars negative ++ (if signaling then ['s'] else []) ++ ['N', 'a', 'N'] ++
      (if payload = 0 then [] else (Nat.repr payload).toList)

def text (d : Decimal) : String :=
  String.ofList d.chars

end Decimal

end ZeroGuard
