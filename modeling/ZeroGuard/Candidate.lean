import ZeroGuard.Issue
import ZeroGuard.Json.Basic
import ZeroGuard.Service
import ZeroGuard.Value.Conversion

namespace ZeroGuard

/-- What a field holds, as far as it matters whether it is accepted. -/
inductive Content
  | null
  | int (n : Int)
  | float (x : Double)
  | text (s : String)
  | other
deriving DecidableEq, Repr

def Json.content : Json → Content
  | .null => .null
  | .int n => .int n
  | .float x => .float x
  | .text s => .text s
  | _ => .other

/-- A number of another kind counts as the float nearest to it, if it has one. -/
def Value.content : Value → Content
  | .none => .null
  | .number _ (.int n) => .int n
  | .number _ (.float x) => .float x
  | .text s => .text s
  | value => (value.toDouble.map Content.float).toOption.getD .other

/-- The fields of a request before they are checked; `none` stands for a field that is not there. -/
structure Candidate where
  a : Option Content
  b : Option Content
  numericType : Option Content
  operator : Option Content
deriving DecidableEq, Repr

namespace Candidate

/-- An operand is an integer, a float or a text. -/
def operand (name : String) : Option Content → Except (List Issue) Operand
  | none => .error [⟨.missing, [name]⟩]
  | some (.int n) => .ok (.int n)
  | some (.float x) => .ok (.float x)
  | some (.text s) => .ok (.text s)
  | some _ =>
    .error [⟨.integer, [name, "int"]⟩, ⟨.number, [name, "float"]⟩, ⟨.text, [name, "str"]⟩]

/-- The type may be left out or be null; otherwise it is one of the names. -/
def type : Option Content → Except (List Issue) (Option NumericType)
  | none | some .null => .ok none
  | some (.text s) =>
    match NumericType.ofName? s with
    | some type => .ok (some type)
    | none => .error [⟨.numericType, ["numeric_type"]⟩]
  | some _ => .error [⟨.numericType, ["numeric_type"]⟩]

/-- The operator may be left out; otherwise it is one of the names. -/
def operatorName : Option Content → Except (List Issue) Operator
  | none => .ok .quotient
  | some (.text s) =>
    match Operator.ofName? s with
    | some operator => .ok operator
    | none => .error [⟨.operator, ["operator"]⟩]
  | some _ => .error [⟨.operator, ["operator"]⟩]

end Candidate

/-- The issues of a check that failed. -/
def issuesOf {α : Type} : Except (List Issue) α → List Issue
  | .ok _ => []
  | .error issues => issues

namespace Candidate

/-- Checks all fields. The issues of all of them are reported in the order of the fields. -/
def validate (candidate : Candidate) : Except (List Issue) Request :=
  let a := operand "a" candidate.a
  let b := operand "b" candidate.b
  let type := type candidate.numericType
  let operator := operatorName candidate.operator
  match a, b, type, operator with
  | .ok a, .ok b, .ok type, .ok operator => .ok ⟨a, b, type, operator⟩
  | _, _, _, _ => .error (issuesOf a ++ issuesOf b ++ issuesOf type ++ issuesOf operator)

/-- The candidate that named values make. Values of other names do not count. -/
def ofValues (fields : String → Option Value) : Candidate :=
  ⟨(fields "a").map Value.content, (fields "b").map Value.content,
   (fields "numeric_type").map Value.content, (fields "operator").map Value.content⟩

def ofJson (body : Json) : Candidate :=
  ⟨(body.field? "a").map Json.content, (body.field? "b").map Json.content,
   (body.field? "numeric_type").map Json.content, (body.field? "operator").map Json.content⟩

end Candidate

end ZeroGuard
