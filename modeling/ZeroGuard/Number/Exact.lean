import ZeroGuard.Number.Basic

namespace ZeroGuard

/-- The value `numerator / denominator * 2 ^ twos * 5 ^ fives` with a sign. In the normal form the
ratio is reduced and free of factors 2 and 5, and zero is the ratio 0/1 without sign or powers. -/
structure ExactValue where
  negative : Bool
  numerator : Nat
  denominator : Nat
  twos : Int
  fives : Int
deriving DecidableEq, Repr

namespace ExactValue

def zero : ExactValue := ⟨false, 0, 1, 0, 0⟩

/-- The normal form of `n / d * 2 ^ twos * 5 ^ fives`. -/
def ofRatio (negative : Bool) (n d : Nat) (twos fives : Int) : ExactValue :=
  if n = 0 then zero
  else
    let nTwos := stripFactor 2 (searchBits n) n
    let nFives := stripFactor 5 (searchBits n) nTwos.1
    let dTwos := stripFactor 2 (searchBits d) d
    let dFives := stripFactor 5 (searchBits d) dTwos.1
    let common := Nat.gcd nFives.1 dFives.1
    ⟨negative, nFives.1 / common, dFives.1 / common,
      twos + nTwos.2 - dTwos.2, fives + nFives.2 - dFives.2⟩

end ExactValue

/-- What a number other than a NaN is worth: a real number or an infinity. -/
inductive Magnitude
  | value (exact : ExactValue)
  | infinite (negative : Bool)
deriving DecidableEq, Repr

namespace Magnitude

def ofInt (n : Int) : Magnitude :=
  .value (.ofRatio (n < 0) n.natAbs 1 0 0)

def ofRat (q : Rat) : Magnitude :=
  .value (.ofRatio (q.num < 0) q.num.natAbs q.den 0 0)

/-- A NaN has no magnitude. -/
def ofBinary? {f : Format} : Binary f → Option Magnitude
  | .nan => none
  | .infinite negative => some (.infinite negative)
  | .finite negative rank => some (.value (.ofRatio negative (f.units rank) 1 (-f.scale) 0))

def ofDecimal? : Decimal → Option Magnitude
  | .nan _ _ _ => none
  | .infinite negative => some (.infinite negative)
  | .finite negative coefficient exponent =>
    some (.value (.ofRatio negative coefficient 1 exponent exponent))

end Magnitude

namespace Number

/-- The real and imaginary magnitudes of a number, unless one of them is a NaN. -/
def magnitudes? : Number → Option (Magnitude × Magnitude)
  | bool b => some (.ofInt b.toInt, .ofInt 0)
  | int n => some (.ofInt n, .ofInt 0)
  | float x | float64 x => do some (← Magnitude.ofBinary? x, .ofInt 0)
  | complex z => do some (← Magnitude.ofBinary? z.re, ← Magnitude.ofBinary? z.im)
  | decimal d => do some (← Magnitude.ofDecimal? d, .ofInt 0)
  | rational q => some (.ofRat q, .ofInt 0)
  | float32 x => do some (← Magnitude.ofBinary? x, .ofInt 0)
  | int8 n => some (.ofInt n.toInt, .ofInt 0)
  | int64 n => some (.ofInt n.toInt, .ofInt 0)

/-- A NaN equals nothing. -/
def sameValue (a b : Number) : Bool :=
  match a.magnitudes?, b.magnitudes? with
  | some x, some y => x = y
  | _, _ => false

/-- What a number is rounded to before it is compared with another one. Beside a single, a plain
number is rounded to a single. A word beside any float and an integer beside a double of fixed width
are rounded to a double. An integer has to be in the range of the doubles. -/
def roundedBeside : Number → Number → Except Fault Number
  | float32 _, float x => .ok (float32 x.convert)
  | float32 _, complex z => .ok (complex z.toSingle)
  | float32 _, int n => do .ok (float32 (← intToDouble n).convert)
  | float64 _, int n => do .ok (float64 (← intToDouble n))
  | float _, int64 n | complex _, int64 n | float32 _, int64 n | float64 _, int64 n =>
    .ok (float (.ofInt n.toInt))
  | _, number => .ok number

def isSignaling : Number → Bool
  | decimal d => d.isSignaling
  | _ => false

/-- Whether a complex number has an imaginary part, so that it can be compared with no decimal. -/
def isImaginary : Number → Bool
  | complex z => !z.im.isZero
  | _ => false

/-- Equality of numbers. Comparing a signaling NaN stops with a fault, and so does comparing an
integer beyond the doubles with a float of fixed width. -/
def equal (a b : Number) : Except Fault Bool :=
  if (a.isSignaling && !b.isImaginary) || (b.isSignaling && !a.isImaginary) then
    .error (.signal .invalid)
  else do
    let left ← roundedBeside b a
    let right ← roundedBeside a b
    .ok (sameValue left right)

end Number

end ZeroGuard
