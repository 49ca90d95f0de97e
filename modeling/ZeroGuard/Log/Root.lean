import ZeroGuard.Json.Basic
import ZeroGuard.Log.Record

namespace ZeroGuard

/-- Characters beyond ASCII whose capital form is ASCII: the sharp s, the dotless i, the long s, and
the ligatures of Latin letters. -/
def capitalForms : List (Char × List Char) :=
  [('ß', ['S', 'S']), ('ı', ['I']), ('ſ', ['S']), ('ﬀ', ['F', 'F']), ('ﬁ', ['F', 'I']),
   ('ﬂ', ['F', 'L']), ('ﬃ', ['F', 'F', 'I']), ('ﬄ', ['F', 'F', 'L']), ('ﬅ', ['S', 'T']),
   ('ﬆ', ['S', 'T'])]

/-- The capital form of a character, or the character itself where that form is not ASCII. -/
def capitalChar (c : Char) : List Char :=
  (capitalForms.lookup c).getD [c.toUpper]

def capitals (text : String) : String :=
  String.ofList (text.toList.flatMap capitalChar)

namespace Log

inductive Handler
  /-- The handler that `Root.setup` installs. -/
  | installed (format : LineFormat)
  /-- A handler of someone else, known by its mark. -/
  | foreign (mark : Nat)
deriving DecidableEq, Repr

def Handler.isForeign : Handler → Bool
  | foreign _ => true
  | installed _ => false

structure Root where
  level : Nat
  handlers : List Handler
deriving DecidableEq, Repr

/-- The words that name a level number, in capitals. -/
def levelNames : List (String × Nat) :=
  [("CRITICAL", 50), ("FATAL", 50), ("ERROR", 40), ("WARNING", 30), ("WARN", 30), ("INFO", 20),
   ("DEBUG", 10), ("NOTSET", 0)]

/-- Words that are taken by something other than a level, with the fault of using them as one. -/
def reservedNames : List (String × Fault) :=
  [("BASIC_FORMAT", .unknownLevel "'%(levelname)s:%(name)s:%(message)s'"),
   ("_STYLES", .invalidLevel ("\x7b'%': (<class 'logging.PercentStyle'>, " ++
      "'%(levelname)s:%(name)s:%(message)s'), '\x7b': (<class 'logging.StrFormatStyle'>, " ++
      "'\x7blevelname\x7d:\x7bname\x7d:\x7bmessage\x7d'), " ++
      "'$': (<class 'logging.StringTemplateStyle'>, " ++
      "'$\x7blevelname\x7d:$\x7bname\x7d:$\x7bmessage\x7d')\x7d"))]

/-- The number of a level name in any case. A name that means nothing counts as `INFO`. -/
def levelNumber (name : String) : Except Fault Nat :=
  match levelNames.lookup (capitals name), reservedNames.lookup (capitals name) with
  | some number, _ => .ok number
  | none, some fault => .error fault
  | none, none => .ok Level.info.number

/-- A message with the text of an exception on the lines behind it. -/
def withException (line : String) : Option String → String
  | none => line
  | some exception => if line.endsWith "\n" then line ++ exception else line ++ "\n" ++ exception

/-- A record as a line of text. -/
def textLine (stamp : String) (record : Record) (message : String) : String :=
  withException (stamp ++ " " ++ record.level.name ++ " " ++ record.logger ++ ": " ++ message)
    record.exception

/-- A record as a JSON object. -/
def jsonDocument (stamp : String) (record : Record) (message : String) : Json :=
  .object ([("timestamp", .text stamp), ("level", .text record.level.name),
    ("logger", .text record.logger), ("message", .text message)] ++
    (record.exception.map fun exception => ("exception", Json.text exception)).toList)

def jsonLine (stamp : String) (record : Record) (message : String) : String :=
  (jsonDocument stamp record message).write

/-- A record as a line of a format. -/
def LineFormat.line (stamp : String) (record : Record) (message : String) : LineFormat → String
  | text => textLine stamp record message
  | json => jsonLine stamp record message

/-- One thing that the log puts out on the error stream. -/
inductive Entry
  | written (text : String)
  /-- A complaint of the logging library about a record whose message it cannot make. It takes up many
  lines, which name no level and no logger; here it is known by the fault. -/
  | complaint (fault : Fault)

/-- What a record is put out as, where its message makes a line. -/
def Record.entry (line : String → String) (record : Record) : Entry :=
  match record.message with
  | .ok message => .written (line message ++ "\n")
  | .error fault => .complaint fault

/-- What a handler puts out of a record. That of someone else is not followed. -/
def Handler.write (stamp : String) (record : Record) : Handler → List Entry
  | installed format => [record.entry (format.line stamp record)]
  | foreign _ => []

namespace Root

/-- A log that nobody has set up: warnings pass, and there is no handler. -/
def initial : Root := ⟨Level.warning.number, []⟩

/-- Adds a handler behind all others, unless it is there already. -/
def addForeign (mark : Nat) (root : Root) : Root :=
  if Handler.foreign mark ∈ root.handlers then root
  else ⟨root.level, root.handlers ++ [.foreign mark]⟩

/-- Installs a handler behind all others in place of the one installed before, then sets the level.
A fault of the level leaves the handler installed and the level as it was. -/
def setup (level format : String) (root : Root) : Root × Option Fault :=
  let handlers := root.handlers.filter Handler.isForeign ++ [.installed (.ofName format)]
  match levelNumber level with
  | .ok number => (⟨number, handlers⟩, none)
  | .error fault => (⟨root.level, handlers⟩, some fault)

/-- Whether a record is important enough to be handled. -/
def passes (root : Root) (record : Record) : Bool :=
  root.level ≤ record.level.number

/-- What the log puts out of a record. Where there is no handler at all, warnings and worse are shown
without decoration. -/
def write (stamp : String) (root : Root) (record : Record) : List Entry :=
  if root.passes record then
    if root.handlers.isEmpty then
      if Level.warning.number ≤ record.level.number then
        [record.entry fun message => withException message record.exception]
      else []
    else root.handlers.flatMap (Handler.write stamp record)
  else []

end Root

end Log

end ZeroGuard
