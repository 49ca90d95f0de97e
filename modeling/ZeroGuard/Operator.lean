namespace ZeroGuard

/-- Division gives the quotient itself, or the quotient rounded to an integer. -/
inductive Operator
  | quotient
  | floor
deriving DecidableEq, Repr

namespace Operator

def all : List Operator := [quotient, floor]

def name : Operator → String
  | quotient => "truediv"
  | floor => "floordiv"

def ofName? (name : String) : Option Operator :=
  all.find? fun operator => operator.name = name

/-- The sign of the operator in messages. -/
def symbol : Operator → String
  | quotient => "/"
  | floor => "//"

/-- The name of the operator where it is applied item by item. -/
def itemwiseName : Operator → String
  | quotient => "divide"
  | floor => "floor_divide"

end Operator

end ZeroGuard
