import ZeroGuard.Issue
import ZeroGuard.Json.Basic
import ZeroGuard.Log.Record

namespace ZeroGuard

structure Settings where
  appTitle : String
  appVersion : String
  appDescription : String
  environment : String
  debug : Bool
  logLevel : String
  logFormat : Log.LineFormat
  defaultNumericType : NumericType
deriving DecidableEq, Repr

namespace Settings

/-- The settings where nothing is set. -/
def default : Settings where
  appTitle := "Safe Divide API"
  appVersion := "0.1.0"
  appDescription := "Zero-safe division backend (FastAPI)"
  environment := "local"
  debug := false
  logLevel := "INFO"
  logFormat := .text
  defaultNumericType := .float

/-- Words for truth values, in lower case. -/
def truthWords : List (String × Bool) :=
  [("0", false), ("off", false), ("f", false), ("false", false), ("n", false), ("no", false),
   ("1", true), ("on", true), ("t", true), ("true", true), ("y", true), ("yes", true)]

/-- The integer 0 or 1 as a truth value. -/
def truthOfInt (n : Int) : Except IssueKind Bool :=
  if n = 0 then .ok false else if n = 1 then .ok true else .error .truthText

/-- The integer that a double is equal to, if it is one within a signed word. -/
def wordOfDouble? : Double → Option Int
  | .finite negative rank =>
    let units := Binary.signedUnits (f := .double) negative rank
    let one : Int := twoPow Format.double.scale
    let whole := units / one
    if units % one = 0 ∧ -wordBound < whole ∧ whole < wordBound then some whole else none
  | _ => none

/-- A truth value may be written as a word in any case or as the number 0 or 1. -/
def checkTruth : Json → Except IssueKind Bool
  | .bool b => .ok b
  | .text s =>
    match truthWords.find? (·.1 = String.ofList (s.toList.map Char.toLower)) with
    | some (_, b) => .ok b
    | none => .error .truthText
  | .int n => if -wordBound ≤ n ∧ n < wordBound then truthOfInt n else .error .truth
  | .float x =>
    match wordOfDouble? x with
    | some n => truthOfInt n
    | none => .error .truth
  | _ => .error .truth

def checkText : Json → Except IssueKind String
  | .text s => .ok s
  | _ => .error .text

def checkLogFormat (raw : Json) : Except IssueKind Log.LineFormat :=
  let refused := IssueKind.choice (alternatives (Log.LineFormat.all.map Log.LineFormat.name))
  match raw with
  | .text s =>
    match Log.LineFormat.all.find? fun format => format.name = s with
    | some format => .ok format
    | none => .error refused
  | _ => .error refused

def checkNumericType : Json → Except IssueKind NumericType
  | .text s =>
    match NumericType.ofName? s with
    | some type => .ok type
    | none => .error .numericType
  | _ => .error .numericType

/-- Checks a field if it is set, and takes the default otherwise. -/
def checkField {α : Type} (name : String) (check : Json → Except IssueKind α) (default : α)
    (raw : Option Json) : Except (List Issue) α :=
  match raw with
  | none => .ok default
  | some value =>
    match check value with
    | .ok checked => .ok checked
    | .error kind => .error [⟨kind, [name]⟩]

/-- Runs a check whose issues are added to those of the checks before it. -/
def alongside {α β : Type} (f : Except (List Issue) (α → β)) (x : Except (List Issue) α) :
    Except (List Issue) β :=
  match f, x with
  | .ok f, .ok x => .ok (f x)
  | .ok _, .error issues => .error issues
  | .error issues, .ok _ => .error issues
  | .error first, .error second => .error (first ++ second)

/-- The settings that raw values make. Each field is checked by itself, and all issues are reported
in the order of the fields. -/
def validate (raw : String → Option Json) : Except (List Issue) Settings :=
  let text (name : String) (fallback : String) := checkField name checkText fallback (raw name)
  let start : Except (List Issue) _ := .ok Settings.mk
  let appTitle := alongside start (text "app_title" default.appTitle)
  let appVersion := alongside appTitle (text "app_version" default.appVersion)
  let appDescription := alongside appVersion (text "app_description" default.appDescription)
  let environment := alongside appDescription (text "environment" default.environment)
  let debug := alongside environment (checkField "debug" checkTruth default.debug (raw "debug"))
  let logLevel := alongside debug (text "log_level" default.logLevel)
  let logFormat := alongside logLevel
    (checkField "log_format" checkLogFormat default.logFormat (raw "log_format"))
  alongside logFormat (checkField "default_numeric_type" checkNumericType
    default.defaultNumericType (raw "default_numeric_type"))

end Settings

end ZeroGuard
