import ZeroGuard.Complex
import ZeroGuard.Decimal.Basic
import ZeroGuard.Integer
import ZeroGuard.Rational

namespace ZeroGuard

inductive Number
  | bool (b : Bool)
  | int (n : Int)
  | float (x : Double)
  | complex (z : Complex)
  | decimal (d : Decimal)
  | rational (q : Rat)
  | float32 (x : Single)
  | float64 (x : Double)
  | int8 (n : Int8)
  | int64 (n : Int64)
deriving DecidableEq, Repr

namespace Number

def boolText (b : Bool) : String :=
  if b then "True" else "False"

/-- The name of a number's kind in messages. -/
def kindName : Number → String
  | bool _ => "bool"
  | int _ => "int"
  | float _ => "float"
  | complex _ => "complex"
  | decimal _ => "decimal.Decimal"
  | rational _ => "Fraction"
  | float32 _ => "numpy.float32"
  | float64 _ => "numpy.float64"
  | int8 _ => "numpy.int8"
  | int64 _ => "numpy.int64"

/-- The plain text of a number. Only integers and rationals can be too long to be written. -/
def text : Number → Except Fault String
  | bool b => .ok (boolText b)
  | int n => writeInteger n
  | float x => .ok (x.text .double)
  | complex z => .ok z.text
  | decimal d => .ok d.text
  | rational q => Rational.text q
  | float32 x => .ok (x.text .single)
  | float64 x => .ok (x.text .fixedDouble)
  | int8 n => .ok (integerText n.toInt)
  | int64 n => .ok (integerText n.toInt)

/-- The text of a number that also shows its kind where the plain text does not. -/
def shown : Number → Except Fault String
  | decimal d => .ok ("Decimal('" ++ d.text ++ "')")
  | rational q => do
    let numerator ← writeInteger q.num
    let denominator ← writeInteger q.den
    .ok ("Fraction(" ++ numerator ++ ", " ++ denominator ++ ")")
  | float32 x => .ok ("np.float32(" ++ x.text .single ++ ")")
  | float64 x => .ok ("np.float64(" ++ x.text .fixedDouble ++ ")")
  | int8 n => .ok ("np.int8(" ++ integerText n.toInt ++ ")")
  | int64 n => .ok ("np.int64(" ++ integerText n.toInt ++ ")")
  | number => number.text

def hasFixedWidth : Number → Bool
  | float32 _ | float64 _ | int8 _ | int64 _ => true
  | _ => false

/-- A number of a fixed width as the plain number of the same value. -/
def plain : Number → Number
  | bool b => int b.toInt
  | float32 x => float x.convert
  | float64 x => float x
  | int8 n => int n.toInt
  | int64 n => int n.toInt
  | number => number

/-- The word of the same value, if the integer fits one. -/
def intToWord (n : Int) : Except Fault Int64 :=
  if -wordBound ≤ n ∧ n < wordBound then .ok (Int64.ofInt n) else .error .wordRange

/-- A double that has to be finite; a NaN is let through. -/
def finiteOr (fault : Fault) : Double → Except Fault Double
  | .infinite _ => .error fault
  | x => .ok x

/-- The nearest double of an integer operand, which has to be finite. -/
def intToDouble (n : Int) : Except Fault Double :=
  finiteOr .doubleRange (.ofInt n)

/-- The double nearest to a quotient of integers, which has to be finite. The quotient is negative,
also where it rounds to zero, if exactly one of the integers is. -/
def intRatio (a b : Int) : Except Fault Double :=
  finiteOr .quotientRange (.ofRatio ((a < 0) != (b < 0)) a.natAbs b.natAbs)

def rationalToDouble (q : Rat) : Except Fault Double :=
  intRatio q.num q.den

end Number

end ZeroGuard
