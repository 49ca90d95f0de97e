import ZeroGuard.NumericType
import ZeroGuard.Operator
import ZeroGuard.Text.Quoted

namespace ZeroGuard

inductive IssueKind
  | missing
  | integer
  | number
  | text
  | truth
  | truthText
  /-- The value is none of a fixed list of words. -/
  | choice (expected : String)
  | fields
deriving DecidableEq, Repr

structure Issue where
  kind : IssueKind
  location : List String
deriving DecidableEq, Repr

namespace IssueKind

def name : IssueKind → String
  | missing => "missing"
  | integer => "int_type"
  | number => "float_type"
  | text => "string_type"
  | truth => "bool_type"
  | truthText => "bool_parsing"
  | choice _ => "literal_error"
  | fields => "model_attributes_type"

def message : IssueKind → String
  | missing => "Field required"
  | integer => "Input should be a valid integer"
  | number => "Input should be a valid number"
  | text => "Input should be a valid string"
  | truth => "Input should be a valid boolean"
  | truthText => "Input should be a valid boolean, unable to interpret input"
  | choice expected => "Input should be " ++ expected
  | fields => "Input should be a valid dictionary or object to extract fields from"

end IssueKind

/-- Quoted words, with commas between them and `or` before the last. -/
def alternatives : List String → String
  | [] => ""
  | [word] => quoted word
  | [first, second] => quoted first ++ " or " ++ quoted second
  | word :: rest => quoted word ++ ", " ++ alternatives rest

def IssueKind.numericType : IssueKind :=
  .choice (alternatives (NumericType.all.map NumericType.name))

def IssueKind.operator : IssueKind :=
  .choice (alternatives (Operator.all.map Operator.name))

end ZeroGuard
