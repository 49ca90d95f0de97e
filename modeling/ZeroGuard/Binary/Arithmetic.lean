import ZeroGuard.Binary.Basic

namespace ZeroGuard.Binary

variable {f : Format}

def neg : Binary f → Binary f
  | nan => nan
  | infinite negative => infinite (!negative)
  | finite negative rank => finite (!negative) rank

def abs : Binary f → Binary f
  | nan => nan
  | infinite _ => infinite false
  | finite _ rank => finite false rank

/-- A sum that is exactly zero is negative only if both summands are. -/
def add : Binary f → Binary f → Binary f
  | nan, _ | _, nan => nan
  | infinite x, infinite y => if x = y then infinite x else nan
  | infinite x, finite _ _ => infinite x
  | finite _ _, infinite y => infinite y
  | finite x r, finite y s =>
    let sum := signedUnits (f := f) x r + signedUnits (f := f) y s
    if sum = 0 then zero (x && y) else ofUnits (sum < 0) sum.natAbs 1

def sub (x y : Binary f) : Binary f :=
  add x (neg y)

def mul : Binary f → Binary f → Binary f
  | nan, _ | _, nan => nan
  | infinite x, infinite y => infinite (x != y)
  | infinite x, finite y s => if s.val = 0 then nan else infinite (x != y)
  | finite x r, infinite y => if r.val = 0 then nan else infinite (x != y)
  | finite x r, finite y s => ofUnits (x != y) (f.units r * f.units s) (twoPow f.scale)

/-- The quotient. A zero divisor gives an infinity, or a NaN when the dividend is zero too. -/
def div : Binary f → Binary f → Binary f
  | nan, _ | _, nan => nan
  | infinite _, infinite _ => nan
  | infinite x, finite y _ => infinite (x != y)
  | finite x _, infinite y => zero (x != y)
  | finite x r, finite y s =>
    if s.val = 0 then if r.val = 0 then nan else infinite (x != y)
    else ofRatio (x != y) (f.units r) (f.units s)

/-- The remainder of the truncated quotient. It is exact and has the sign of the dividend. -/
def rem : Binary f → Binary f → Binary f
  | nan, _ | _, nan | infinite _, _ => nan
  | finite x r, infinite _ => finite x r
  | finite x r, finite _ s =>
    if s.val = 0 then nan else ofUnits x (f.units r % f.units s) 1

/-- The greatest integer that is not above the number. A zero keeps its sign. -/
def floor : Binary f → Binary f
  | nan => nan
  | infinite x => infinite x
  | finite x r =>
    let one := twoPow f.scale
    let whole := f.units r / one
    if x && f.units r % one != 0 then ofUnits true ((whole + 1) * one) 1
    else ofUnits x (whole * one) 1

/-- Strict order of values; false whenever a NaN takes part. -/
def lt : Binary f → Binary f → Bool
  | nan, _ | _, nan => false
  | infinite x, infinite y => x && !y
  | infinite x, finite _ _ => x
  | finite _ _, infinite y => !y
  | finite x r, finite y s => signedUnits (f := f) x r < signedUnits (f := f) y s

/-- The number 1. -/
def one : Binary f :=
  ofRatio false 1 1

def half : Binary f :=
  ofRatio false 1 2

/-- The floored quotient of plain floats. The remainder is taken off the dividend first, so that the
quotient is nearly an integer, and the result is the nearest integer to it. A zero quotient takes the
sign of the plain quotient. -/
def floorDiv (x y : Binary f) : Binary f :=
  let remainder := rem x y
  let quotient := div (sub x remainder) y
  let quotient :=
    if !remainder.isZero && (lt y (zero false) != lt remainder (zero false)) then sub quotient one
    else quotient
  if quotient.isZero then zero (x.isNegative != y.isNegative)
  else
    let whole := floor quotient
    if lt half (sub quotient whole) then add whole one else whole

/-- The floored quotient and the remainder of numbers of a fixed width, for a divisor that is not
zero. A remainder of the other sign than the divisor is carried over, and a zero quotient is given the
sign of the plain quotient as that comes out. -/
def divMod (x y : Binary f) : Binary f × Binary f :=
  let remainder := rem x y
  let quotient := div (sub x remainder) y
  let carried :=
    if remainder.isZero then (quotient, zero y.isNegative)
    else if lt y (zero false) != lt remainder (zero false) then
      (sub quotient one, add remainder y)
    else (quotient, remainder)
  let snapped :=
    if carried.1.isZero then zero (div x y).isNegative
    else
      let whole := floor carried.1
      if lt half (sub carried.1 whole) then add whole one else whole
  (snapped, carried.2)

/-- The floored quotient of numbers of a fixed width. A zero divisor gives the plain quotient. -/
def fixedFloorDiv (x y : Binary f) : Binary f :=
  if y.isZero then div x y else (divMod x y).1

end ZeroGuard.Binary
