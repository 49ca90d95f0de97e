import ZeroGuard.Settings.Basic
import ZeroGuard.Settings.Dotenv

namespace ZeroGuard

/-- The surroundings of the process that settings are read from. -/
structure Surroundings where
  /-- Variables in the order in which they were set. -/
  bindings : List (String × String)
  /-- The text of the file with variables, if there is one. -/
  dotenv : Option String
deriving DecidableEq, Repr

namespace Surroundings

def empty : Surroundings := ⟨[], none⟩

/-- Sets or removes a variable. One that is set already keeps its place. -/
def setVariable (name : String) (value : Option String) (s : Surroundings) : Surroundings :=
  match value with
  | none => ⟨s.bindings.filter (·.1 ≠ name), s.dotenv⟩
  | some text =>
    if s.bindings.any (·.1 = name) then
      ⟨s.bindings.map fun entry => if entry.1 = name then (name, text) else entry, s.dotenv⟩
    else ⟨s.bindings ++ [(name, text)], s.dotenv⟩

end Surroundings

namespace Settings

/-- Lower case of ASCII letters. No other character has a lower case that occurs in a name here. -/
def lowerName (name : String) : String :=
  String.ofList (name.toList.map Char.toLower)

/-- The variable that a field is read from, in lower case. -/
def variableName (field : String) : String :=
  "safediv_" ++ field

/-- The last variable whose name is a given one up to case. -/
def findVariable {α : Type} (entries : List (String × α)) (name : String) : Option α :=
  (entries.reverse.find? fun entry => lowerName entry.1 = name).map (·.2)

/-- The raw value of a field among arguments, environment and file. -/
def source (arguments : List (String × Json)) (environment : List (String × String))
    (file : Dotenv.Bindings) (field : String) : Option Json :=
  let argument := (arguments.reverse.find? (·.1 = field)).map (·.2)
  let inherited := (findVariable environment (variableName field)).map Json.text
  let binding := (findVariable file (variableName field)).join.map Json.text
  argument.or (inherited.or binding)

/-- Whether the arguments leave the file of variables to be read. -/
def readsFile (arguments : List (String × Json)) : Bool :=
  match (arguments.reverse.find? (·.1 = "_env_file")).map (·.2) with
  | none => true
  | some (Json.text path) => path = ".env"
  | some _ => false

/-- Loads settings. An argument `_env_file` says which file is read instead of the usual one. -/
def load (arguments : List (String × Json)) (s : Surroundings) : Except (List Issue) Settings :=
  let file := if readsFile arguments then s.dotenv.map (Dotenv.parse s.bindings) else none
  validate (source arguments s.bindings (file.getD []))

end Settings

end ZeroGuard
