import ZeroGuard.Fault

namespace ZeroGuard.Log

/-- How important a record is: a number, and the name by which lines show it. -/
structure Level where
  name : String
  number : Nat
deriving DecidableEq, Repr

namespace Level

def debug : Level := ⟨"DEBUG", 10⟩

def info : Level := ⟨"INFO", 20⟩

def warning : Level := ⟨"WARNING", 30⟩

def error : Level := ⟨"ERROR", 40⟩

def critical : Level := ⟨"CRITICAL", 50⟩

/-- The levels in use, from the least important on. A record of someone else may have another. -/
def all : List Level := [debug, info, warning, error, critical]

def ofName? (name : String) : Option Level :=
  all.find? fun level => level.name = name

end Level

/-- How log lines are written. -/
inductive LineFormat
  | text
  | json
deriving DecidableEq, Repr

namespace LineFormat

def all : List LineFormat := [text, json]

def name : LineFormat → String
  | text => "text"
  | json => "json"

/-- The format that a name asks for. Any name but that of JSON means text. -/
def ofName (name : String) : LineFormat :=
  if name = json.name then json else text

end LineFormat

/-- A record of something that happened. Its message is made only when the record is put out, and that
may fail. Lone surrogates in its texts are the characters of `isSurrogate`. -/
structure Record where
  level : Level
  logger : String
  message : Except Fault String
  /-- The text of the exception that the record reports. -/
  exception : Option String

end ZeroGuard.Log
