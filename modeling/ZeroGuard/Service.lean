import ZeroGuard.Number.Quotient
import ZeroGuard.Log.Record
import ZeroGuard.Number.Exact
import ZeroGuard.Operand

namespace ZeroGuard

structure Request where
  a : Operand
  b : Operand
  numericType : Option NumericType
  operator : Operator
deriving DecidableEq, Repr

structure Response where
  present : Bool
  value : Option String
  numericType : NumericType
  operator : Operator
deriving DecidableEq, Repr

/-- A call of the service: how it ended, and the records that it left. It ends with a response or a
failure, or a fault leaves it. -/
structure Run where
  outcome : Except Fault (Except Failure Response)
  records : List Log.Record

/-- Faults of a division that are reported as an arithmetic failure. -/
def FaultKind.isArithmetic : FaultKind → Bool
  | .overflow | .zeroDivision | .decimalInvalid | .decimalOverflow | .decimalZeroDivision => true
  | _ => false

namespace Number

/-- Whether a number compares equal to the integer 0. -/
def isZero (n : Number) : Except Fault Bool :=
  n.equal (.int 0)

/-- The quotient, or nothing when the divisor is zero. -/
def safeDivide (op : Operator) (a b : Number) : Except Fault (Option Number) :=
  guarded isZero (divide op) a b

end Number

namespace Service

def logger : String := "app.services.service_divide"

def record (level : Log.Level) (message : Except Fault String) : Log.Record :=
  ⟨level, logger, message, none⟩

/-- What is logged of a division that failed. Writing the operands may itself fail. -/
def failureMessage (type : NumericType) (op : Operator) (a b : Number) (fault : Fault) :
    Except Fault String := do
  let dividend ← a.text
  let divisor ← b.text
  .ok ("Arithmetic failure for " ++ dividend ++ " " ++ op.name ++ " " ++ divisor ++ " (" ++
    type.name ++ "): " ++ fault.message)

/-- What is logged of a division that was carried out. -/
def resultMessage (response : Response) (a b : Number) : Except Fault String := do
  let dividend ← a.text
  let divisor ← b.text
  .ok (dividend ++ " " ++ response.operator.name ++ " " ++ divisor ++ " (" ++
    response.numericType.name ++ ") -> present=" ++ Number.boolText response.present ++
    " value=" ++ response.value.getD "None")

def rejected (failure : Failure) : Run :=
  ⟨.ok (.error failure), [record .warning (.ok ("Operand rejected: " ++ failure.message))]⟩

/-- Answers with a quotient that the guard let through, or with none. -/
def respond (type : NumericType) (op : Operator) (a b : Number) (quotient : Option Number) : Run :=
  match quotient.mapM Number.text with
  | .error fault => ⟨.error fault, []⟩
  | .ok value =>
    let response : Response := ⟨value.isSome, value, type, op⟩
    ⟨.ok (.ok response), [record .debug (resultMessage response a b)]⟩

/-- Divides converted operands. A fault that is not arithmetic leaves the service. -/
def divideNumbers (type : NumericType) (op : Operator) (a b : Number) : Run :=
  match a.safeDivide op b with
  | .ok quotient => respond type op a b quotient
  | .error fault =>
    if fault.kind.isArithmetic then
      let message := type.name ++ " " ++ op.name ++ " failed: " ++ fault.message
      ⟨.ok (.error ⟨.arithmeticFailure, message⟩),
        [record .warning (failureMessage type op a b fault)]⟩
    else ⟨.error fault, []⟩

/-- Converts an operand and goes on with it, unless it is refused. -/
def withOperand (type : NumericType) (raw : Operand) (next : Number → Run) : Run :=
  match parseOperand type raw with
  | .error fault => ⟨.error fault, []⟩
  | .ok (.error failure) => rejected failure
  | .ok (.ok number) => next number

/-- Runs a request. `default` is the type of a request that names none. -/
def divide (default : NumericType) (request : Request) : Run :=
  let type := request.numericType.getD default
  withOperand type request.a fun a =>
    withOperand type request.b fun b =>
      divideNumbers type request.operator a b

end Service

end ZeroGuard
