import ZeroGuard.Decimal.Division
import ZeroGuard.Number.Basic

namespace ZeroGuard

/-- The zero guard. It compares the divisor with zero and divides only if it is not zero. The
comparison and the division may have effects or faults of their own, which pass through unchanged. -/
def guarded {m : Type → Type} [Monad m] {α β γ : Type} (isZero : β → m Bool)
    (divide : α → β → m γ) (a : α) (b : β) : m (Option γ) := do
  if ← isZero b then return none
  return some (← divide a b)

namespace Number

def unsupported (op : Operator) (a b : Number) : Except Fault Number :=
  .error (.unsupported op a.kindName b.kindName)

def divInt (op : Operator) (a b : Int) : Except Fault Number :=
  match op with
  | .quotient =>
    if b = 0 then .error (.zeroDivisor "division") else (intRatio a b).map float
  | .floor =>
    if b = 0 then .error (.zeroDivisor "integer division or modulo") else .ok (int (a.fdiv b))

/-- The floored quotient of two rationals is an integer. -/
def divRational (op : Operator) (a b : Rat) : Except Fault Number :=
  match op with
  | .quotient =>
    if b = 0 then .error (.zeroDenominator (a.num * b.den)) else .ok (rational (a / b))
  | .floor => divInt .floor (a.num * b.den) (a.den * b.num)

/-- The rounded quotient of two decimals is truncated and not floored. -/
def divDecimal (op : Operator) (a b : Decimal) : Except Fault Number :=
  match op with
  | .quotient => (a.div b).map decimal
  | .floor => (a.truncDiv b).map decimal

def divDouble (op : Operator) (a b : Double) : Except Fault Number :=
  match op with
  | .quotient => if b.isZero then .error (.zeroDivisor "float division") else .ok (float (a.div b))
  | .floor =>
    if b.isZero then .error (.zeroDivisor "float floor division") else .ok (float (a.floorDiv b))

/-- Complex numbers have no floored quotient. -/
def divComplex (op : Operator) (a b : Complex) : Except Fault Number :=
  match op with
  | .quotient =>
    if b.isZero then .error (.zeroDivisor "complex division") else .ok (complex (a.div b))
  | .floor => unsupported .floor (complex a) (complex b)

/-- Division in a fixed format, where a zero divisor is no fault. -/
def quotientOf {f : Format} (op : Operator) (a b : Binary f) : Binary f :=
  match op with
  | .quotient => a.div b
  | .floor => a.fixedFloorDiv b

/-- The floored quotient of words, reduced to the width; a zero divisor gives zero. -/
def wordQuotient (a b : Int) : Int :=
  if b = 0 then 0 else a.fdiv b

def divWord (op : Operator) (a b : Int64) : Except Fault Number :=
  match op with
  | .quotient => .ok (float64 ((Binary.ofInt a.toInt).div (Binary.ofInt b.toInt)))
  | .floor => .ok (int64 (Int64.ofInt (wordQuotient a.toInt b.toInt)))

def divByte (op : Operator) (a b : Int8) : Except Fault Number :=
  match op with
  | .quotient => .ok (float32 ((Binary.ofInt a.toInt).div (Binary.ofInt b.toInt)))
  | .floor => .ok (int8 (Int8.ofInt (wordQuotient a.toInt b.toInt)))

/-- An integer that is floor-divided beside a byte has to fit a word, and then a byte. -/
def intToByte (n : Int) : Except Fault Int8 := do
  let word ← intToWord n
  if -128 ≤ n ∧ n < 128 then .ok (Int8.ofInt n)
  else .error (.widthRange (integerText word.toInt) "int8")

/-- The result of an operation that has no floored form. -/
def quotientOnly : Operator → Except Fault Number → Option (Except Fault Number)
  | .quotient, result => some result
  | .floor, _ => none

/-- Division of numbers none of which has a fixed width, if their kinds can be brought together. -/
def dividePlain? (op : Operator) : Number → Number → Option (Except Fault Number)
  | int a, int b => some (divInt op a b)
  | int a, rational b => some (divRational op a b)
  | rational a, int b => some (divRational op a b)
  | rational a, rational b => some (divRational op a b)
  | int a, decimal b => some (divDecimal op (.ofInt a) b)
  | decimal a, int b => some (divDecimal op a (.ofInt b))
  | decimal a, decimal b => some (divDecimal op a b)
  | float a, float b => some (divDouble op a b)
  | int a, float b => some do divDouble op (← intToDouble a) b
  | float a, int b => some do divDouble op a (← intToDouble b)
  | rational a, float b => some do divDouble op (← rationalToDouble a) b
  | float a, rational b => some do divDouble op a (← rationalToDouble b)
  | rational a, complex b => some do divComplex op (.ofDouble (← rationalToDouble a)) b
  | complex a, rational b => some do divComplex op a (.ofDouble (← rationalToDouble b))
  | complex a, complex b => quotientOnly op (divComplex .quotient a b)
  | int a, complex b => quotientOnly op do divComplex .quotient (.ofDouble (← intToDouble a)) b
  | complex a, int b => quotientOnly op do divComplex .quotient a (.ofDouble (← intToDouble b))
  | float a, complex b => quotientOnly op (divComplex .quotient (.ofDouble a) b)
  | complex a, float b => quotientOnly op (divComplex .quotient a (.ofDouble b))
  | _, _ => none

/-- The double nearest to a real number of a binary or an integer kind. -/
def asDouble? : Number → Option (Except Fault Double)
  | float x | float64 x => some (.ok x)
  | float32 x => some (.ok x.convert)
  | int n => some (intToDouble n)
  | int8 n => some (.ok (.ofInt n.toInt))
  | int64 n => some (.ok (.ofInt n.toInt))
  | _ => none

/-- Division of two operands one of which has a fixed width, if that width decides the result.
Singles stay single beside plain numbers and bytes, integers are floor-divided in the greater of two
widths, and everything else is divided as doubles. A rational in front of a double gives way to it,
and no complex number has a floored quotient. -/
def divideFixed? (op : Operator) (a b : Number) : Option (Except Fault Number) :=
  match op, a, b with
  | _, float32 x, float32 y => some (.ok (float32 (quotientOf op x y)))
  | _, float32 x, float y => some (.ok (float32 (quotientOf op x y.convert)))
  | _, float x, float32 y => some (.ok (float32 (quotientOf op x.convert y)))
  | _, float32 x, int n => some do .ok (float32 (quotientOf op x (← intToDouble n).convert))
  | _, int n, float32 y => some do .ok (float32 (quotientOf op (← intToDouble n).convert y))
  | _, float32 x, int8 n => some (.ok (float32 (quotientOf op x (.ofInt n.toInt))))
  | _, int8 n, float32 y => some (.ok (float32 (quotientOf op (.ofInt n.toInt) y)))
  | _, int8 m, int8 n => some (divByte op m n)
  | _, int64 m, int64 n => some (divWord op m n)
  | _, int64 m, int8 n => some (divWord op m (Int64.ofInt n.toInt))
  | _, int8 m, int64 n => some (divWord op (Int64.ofInt m.toInt) n)
  | .floor, int64 m, int n => some do divWord .floor m (← intToWord n)
  | .floor, int m, int64 n => some do divWord .floor (← intToWord m) n
  | .floor, int8 m, int n => some do divByte .floor m (← intToByte n)
  | .floor, int m, int8 n => some do divByte .floor (← intToByte m) n
  | .floor, complex _, _ | .floor, _, complex _ => some (.error (.notItemwise .floor))
  | _, rational q, float64 y => some do .ok (float64 (quotientOf op (← rationalToDouble q) y))
  | _, _, _ =>
    match asDouble? a, asDouble? b with
    | some x, some y => some do .ok (float64 (quotientOf op (← x) (← y)))
    | _, _ => none

/-- A truth value counts as the integer 0 or 1. -/
def ofBool : Number → Number
  | bool b => int b.toInt
  | number => number

/-- Divides two numbers. A fixed width beside a decimal, rational or complex number gives way to the
plain kind of the same value. -/
def divide (op : Operator) (a b : Number) : Except Fault Number :=
  if a.hasFixedWidth || b.hasFixedWidth then
    match divideFixed? op a.ofBool b.ofBool with
    | some result => result
    | none => (dividePlain? op a.plain b.plain).getD (unsupported op a.plain b.plain)
  else (dividePlain? op a.ofBool b.ofBool).getD (unsupported op a b)

end Number

end ZeroGuard
