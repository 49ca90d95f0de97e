import ZeroGuard.Decimal.Basic
import ZeroGuard.Fault
import ZeroGuard.Power

namespace ZeroGuard.Decimal

def precision : Nat := 28

/-- The greatest adjusted exponent of a quotient. -/
def quotientMax : Int := 999999

/-- The least exponent of a quotient: that of the last digit of the smallest full-length number. -/
def quotientMin : Int := -999999 - (precision - 1)

/-- The power of ten of the first digit of `n / d`, for positive `n` and `d`. -/
def ratioMagnitude (n d : Nat) : Int :=
  let difference : Int := (digitCount n : Int) - digitCount d
  if d * tenPow difference.toNat ≤ n * tenPow (-difference).toNat then difference
  else difference - 1

/-- Takes off trailing zeros, at most `limit` of them; the second part counts them. -/
def stripZeros : Nat → Nat → Nat × Nat
  | 0, n => (n, 0)
  | limit + 1, n =>
    if n % 10 = 0 then
      let stripped := stripZeros limit (n / 10)
      (stripped.1, stripped.2 + 1)
    else (n, 0)

/-- The exponent of a zero is brought into the range of quotients. -/
def zeroQuotient (negative : Bool) (exponent : Int) : Decimal :=
  finite negative 0 (max quotientMin (min exponent quotientMax))

/-- The decimal with at most `precision` digits, or as many as the least exponent leaves, that is
nearest to `n / d * 10 ^ ideal`. -/
def roundQuotient (negative : Bool) (n d : Nat) (ideal : Int) : Except Fault Decimal :=
  let magnitude := ratioMagnitude n d + ideal
  if quotientMax < magnitude then .error (.signal .overflow)
  else if magnitude < quotientMin - 1 then .ok (finite negative 0 quotientMin)
  else
    let place := max quotientMin (magnitude - (precision - 1))
    let shift := ideal - place
    let scaled := n * tenPow shift.toNat
    let divisor := d * tenPow (-shift).toNat
    let coefficient := roundDiv scaled divisor
    if scaled % divisor = 0 then
      let stripped := stripZeros shift.toNat coefficient
      .ok (finite negative stripped.1 (place + stripped.2))
    else if coefficient = tenPow precision then
      if quotientMax < magnitude + 1 then .error (.signal .overflow)
      else .ok (finite negative (tenPow (precision - 1)) (place + 1))
    else .ok (finite negative coefficient place)

/-- The quotient of finite decimals without its fraction, which has to have at most `precision`
digits. -/
def truncQuotient (negative : Bool) (n d : Nat) (ideal : Int) : Except Fault Decimal :=
  if n = 0 then .ok (finite negative 0 0)
  else
    let magnitude := ratioMagnitude n d + ideal
    if magnitude < 0 then .ok (finite negative 0 0)
    else if (precision : Int) ≤ magnitude then .error (.signal .impossible)
    else .ok (finite negative (n * tenPow ideal.toNat / (d * tenPow (-ideal).toNat)) 0)

/-- A NaN as the result of an operation: a payload keeps its last `precision` digits. -/
def quietNaN (negative : Bool) (payload : Nat) : Decimal :=
  nan negative false (payload % tenPow precision)

/-- What a NaN among the operands makes of a division: a signaling one stops it, and a quiet one is
the result, the first before the second. -/
def nanResult? : Decimal → Decimal → Option (Except Fault Decimal)
  | nan _ true _, _ | _, nan _ true _ => some (.error (.signal .invalid))
  | nan negative false payload, _ => some (.ok (quietNaN negative payload))
  | _, nan negative false payload => some (.ok (quietNaN negative payload))
  | _, _ => none

/-- The fault of a zero divisor. -/
def zeroDivisorSignal (dividend : Nat) : Fault :=
  if dividend = 0 then .signal .undefined else .signal .zeroDivisor

def div (a b : Decimal) : Except Fault Decimal :=
  match nanResult? a b with
  | some result => result
  | none =>
    match a, b with
    | infinite _, infinite _ => .error (.signal .invalid)
    | infinite x, finite y _ _ => .ok (infinite (x != y))
    | finite x _ _, infinite y => .ok (finite (x != y) 0 quotientMin)
    | finite x n i, finite y d j =>
      if d = 0 then .error (zeroDivisorSignal n)
      else if n = 0 then .ok (zeroQuotient (x != y) (i - j))
      else roundQuotient (x != y) n d (i - j)
    | nan _ _ _, _ | _, nan _ _ _ => .error (.signal .invalid)

def truncDiv (a b : Decimal) : Except Fault Decimal :=
  match nanResult? a b with
  | some result => result
  | none =>
    match a, b with
    | infinite _, infinite _ => .error (.signal .invalid)
    | infinite x, finite y _ _ => .ok (infinite (x != y))
    | finite x _ _, infinite y => .ok (finite (x != y) 0 0)
    | finite x n i, finite y d j =>
      if d = 0 then .error (zeroDivisorSignal n)
      else truncQuotient (x != y) n d (i - j)
    | nan _ _ _, _ | _, nan _ _ _ => .error (.signal .invalid)

end ZeroGuard.Decimal
