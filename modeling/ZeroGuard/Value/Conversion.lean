import ZeroGuard.Operand
import ZeroGuard.Value.Parts

namespace ZeroGuard.Value

def notANumber (reader : String) (value : Value) : Fault :=
  .notConvertible (reader ++ ", not '" ++ value.kindName ++ "'")

def refusedInt (value : Value) : Fault :=
  value.notANumber "int() argument must be a string, a bytes-like object or a real number"

def refusedFloat (value : Value) : Fault :=
  value.notANumber "float() argument must be a string or a real number"

/-- The operand that a value stands for when it is an integer, a float or a text. -/
def toOperand? : Value → Option Operand
  | text s => Option.some (.text s)
  | number _ (.int n) => Option.some (.int n)
  | number _ (.float x) => Option.some (.float x)
  | _ => Option.none

/-- The integer part of a single. -/
def singleToInt : Single → Except Fault Int
  | .nan => .error (.nanInteger "float NaN")
  | .infinite _ => .error (.infinityInteger "float infinity")
  | .finite negative rank =>
    .ok ((Binary.signedUnits (f := .single) negative rank).tdiv (twoPow Format.single.scale))

/-- The integer part of a decimal. One with no digit before the point is not computed. -/
def decimalToInt : Decimal → Except Fault Int
  | .nan _ _ _ => .error (.nanInteger "NaN")
  | .infinite _ => .error (.infinityInteger "Infinity")
  | .finite negative coefficient exponent =>
    if coefficient = 0 ∨ exponent + digitCount coefficient ≤ 0 then .ok 0
    else
      let whole : Int := (coefficient * tenPow exponent.toNat / tenPow (-exponent).toNat : Nat)
      .ok (if negative then -whole else whole)

/-- The integer part of a number of one of the other kinds. A double of fixed width has to be
integral, like a float. -/
def toInt (value : Value) : Except Fault Int :=
  match value with
  | number _ (.float64 x) =>
    match Operand.floatToInt? x with
    | Option.some n => .ok n
    | Option.none => do .error (.notIntegral (← value.shown))
  | number _ (.float32 x) => singleToInt x
  | number _ (.int8 n) => .ok n.toInt
  | number _ (.int64 n) => .ok n.toInt
  | number _ (.rational q) => .ok (q.num.tdiv q.den)
  | number _ (.decimal d) => decimalToInt d
  | _ => .error value.refusedInt

/-- The double nearest to a decimal. -/
def decimalToDouble (d : Decimal) : Except Fault Double :=
  if d.isSignaling then .error .signalingDouble
  else match d with
    | .nan _ _ _ => .ok .nan
    | _ => readDouble d.text

/-- The double nearest to a number of one of the other kinds. -/
def toDouble (value : Value) : Except Fault Double :=
  match value with
  | number _ (.int8 n) => .ok (.ofInt n.toInt)
  | number _ (.int64 n) => .ok (.ofInt n.toInt)
  | number _ (.float32 x) => .ok x.convert
  | number _ (.float64 x) => .ok x
  | number _ (.rational q) => Number.rationalToDouble q
  | number _ (.decimal d) => decimalToDouble d
  | _ => .error value.refusedFloat

/-- An absent value counts as a NaN where a fixed width is asked for. -/
def toFixedDouble : Value → Except Fault Double
  | none => .ok .nan
  | value => value.toDouble

/-- The single of a number of one of the other kinds. A word is rounded once; everything else is
rounded to a double first. -/
def toSingle : Value → Except Fault Single
  | number _ (.int64 n) => .ok (.ofInt n.toInt)
  | value => value.toFixedDouble.map Binary.convert

/-- A double of fixed width has no text that denotes a decimal. -/
def toDecimal (value : Value) : Except Fault Decimal :=
  match value with
  | number _ (.decimal d) => .ok d
  | number _ (.float64 _) => .error (.signal .conversion)
  | list [sign, digits, scale] => decimalOfParts sign digits scale
  | list _ => .error (.decimalPart "argument must be a sequence of length 3")
  | _ =>
    .error (.notConvertible
      ("conversion from " ++ value.kindName ++ " to Decimal is not supported"))

def toRational (value : Value) : Except Fault Rat :=
  match value with
  | number _ (.rational q) => .ok q
  | number _ (.int8 n) => .ok n.toInt
  | number _ (.int64 n) => .ok n.toInt
  | number _ (.float64 x) => Rational.ofBinary x
  | number _ (.decimal (.finite negative coefficient exponent)) =>
    let numerator : Int := (coefficient * tenPow exponent.toNat : Nat)
    .ok (mkRat (if negative then -numerator else numerator) (tenPow (-exponent).toNat))
  | number _ (.decimal (.infinite _)) => .error .infinityRatio
  | number _ (.decimal (.nan _ _ _)) => .error .nanRatio
  | _ => .error (.notConvertible "argument should be a string or a Rational instance")

/-- Converts a value of any kind to a numeric type. -/
def convert (type : NumericType) (value : Value) : Except Fault Number :=
  match value.toOperand? with
  | Option.some operand => operand.convert type
  | Option.none =>
    match type with
    | .int => value.toInt.map .int
    | .float => value.toDouble.map .float
    | .decimal => value.toDecimal.map .decimal
    | .fraction => value.toRational.map .rational
    | .float32 => value.toSingle.map .float32
    | .float64 => value.toFixedDouble.map .float64
    | .int64 => do .ok (.int64 (← Number.intToWord (← value.toInt)))

/-- Converts a value of any kind to the type of a name. A truth value is refused whatever the name
says; a name that is no type is a fault. -/
def parse (typeName : String) (value : Value) : Except Fault (Except Failure Number) :=
  match value with
  | number _ (.bool b) =>
    .ok (.error (refusal (Number.boolText b) typeName "booleans are not numbers"))
  | _ =>
    match NumericType.ofName? typeName with
    | Option.none => .error (.missingKey typeName)
    | Option.some type =>
      match value.convert type with
      | .ok n => .ok (.ok n)
      | .error fault =>
        if fault.kind.refusesOperand then do
          .ok (.error (refusal (← value.shown) typeName fault.message))
        else .error fault

end ZeroGuard.Value
