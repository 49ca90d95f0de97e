import ZeroGuard.Issue
import ZeroGuard.Json.Basic
import ZeroGuard.Operand

namespace ZeroGuard.Http

/-- Why the application gives up on a request: an exception that nothing in it handles. -/
inductive Escape
  | fault (fault : Fault)
  /-- The settings could not be loaded. -/
  | settings
  /-- The answer holds a number that JSON cannot write. -/
  | number
  /-- The answer holds a text that has no encoding. -/
  | encoding
  /-- The result of the division is no response. -/
  | response
  /-- The error of the division is no failure. -/
  | failure

inductive Body
  | json (document : Json)
  | text (s : String)
  /-- An account of an escape with its way through the program, as a page of markup or as plain text.
  Nothing is said of its wording. -/
  | account (escape : Escape) (markup : Bool)

structure Answer where
  status : Nat
  allow : Option String
  location : Option String
  contentType : Option String
  body : Body
  /-- The escape that was answered, which goes on to the server. -/
  escape : Option Escape

def Answer.json (status : Nat) (document : Json) : Answer :=
  ⟨status, none, none, some "application/json", .json document, none⟩

/-- An answer that carries a single message. -/
def Answer.detail (status : Nat) (message : String) : Answer :=
  .json status (.object [("detail", .text message)])

/-- Whether a text has another one in it. -/
def hasPart (part : List Char) : List Char → Bool
  | [] => part.isEmpty
  | c :: rest => part.isPrefixOf (c :: rest) || hasPart part rest

/-- The answer to an escape. An application that is built for debugging gives an account of it, in
markup if the request accepts that; any other application keeps it to itself. -/
def Answer.ofEscape (debug : Bool) (accept : Option String) (escape : Escape) : Answer :=
  let markup := debug && hasPart "text/html".toList (accept.getD "").toList
  ⟨500, none, none, some (if markup then "text/html; charset=utf-8" else "text/plain; charset=utf-8"),
    if debug then .account escape markup else .text "Internal Server Error", some escape⟩

def Answer.redirect (location : String) : Answer :=
  ⟨307, none, some location, none, .text "", none⟩

def Answer.notAllowed (allow : String) : Answer :=
  { Answer.detail 405 "Method Not Allowed" with allow := some allow }

def Answer.notFound : Answer :=
  .detail 404 "Not Found"

/-- The status of a failure; a code that is none of them counts as an internal error. -/
def failureStatus : Option FailureCode → Nat
  | some .invalidOperand => 422
  | some .arithmeticFailure => 400
  | none => 500

def failureCode? (name : String) : Option FailureCode :=
  [FailureCode.invalidOperand, .arithmeticFailure].find? fun code => code.name = name

/-- One thing that is wrong with a request, with the input that it was found in. -/
structure Complaint where
  kind : String
  location : List Json
  message : String
  input : Json
  context : Option (String × String)

def Complaint.document (complaint : Complaint) : Json :=
  .object ([("type", .text complaint.kind), ("loc", .array complaint.location),
    ("msg", .text complaint.message), ("input", complaint.input)] ++
    (complaint.context.map fun entry =>
      ("ctx", Json.object [(entry.1, .text entry.2)])).toList)

/-- What the handling of a request comes to: an answer, or an escape. -/
abbrev Reply := Except Escape Answer

/-- The answer that is sent in the end. -/
def Reply.settle (debug : Bool) (accept : Option String) : Reply → Answer
  | .ok answer => answer
  | .error escape => .ofEscape debug accept escape

/-- Refuses a request. The inputs are sent back, which fails if one holds a number that JSON cannot
write, or else a text that has no encoding. -/
def refuse (complaints : List Complaint) : Reply :=
  if complaints.any fun complaint => !complaint.input.isFinite then .error .number
  else if complaints.any fun complaint => !complaint.input.isEncodable then .error .encoding
  else .ok (.json 422 (.object [("detail", .array (complaints.map Complaint.document))]))

end ZeroGuard.Http
