namespace ZeroGuard

inductive NumericType
  | int
  | float
  | decimal
  | fraction
  | float32
  | float64
  | int64
deriving DecidableEq, Repr

namespace NumericType

def all : List NumericType :=
  [int, float, decimal, fraction, float32, float64, int64]

def name : NumericType → String
  | int => "int"
  | float => "float"
  | decimal => "decimal"
  | fraction => "fraction"
  | float32 => "float32"
  | float64 => "float64"
  | int64 => "int64"

def ofName? (name : String) : Option NumericType :=
  all.find? fun type => type.name = name

end NumericType

end ZeroGuard
