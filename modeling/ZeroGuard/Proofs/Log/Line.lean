import Mathlib.Data.List.Forall2
import ZeroGuard.Log.Template
import ZeroGuard.Proofs.Json.ReadBack
import ZeroGuard.Proofs.Log.Root

namespace ZeroGuard.Log

section

variable (stamp : String) (record : Record) (message : String)

/-- The texts of a line under their names. -/
def lineFields : List (String × String) :=
  [("timestamp", stamp), ("level", record.level.name), ("logger", record.logger),
    ("message", message)] ++
    (record.exception.map fun exception => ("exception", exception)).toList

theorem jsonDocument_eq : jsonDocument stamp record message =
    .object (Json.textFields (lineFields stamp record message)) := by
  unfold jsonDocument lineFields
  cases record.exception <;> rfl

theorem names_lineFields : (lineFields stamp record message).map (·.1) =
    ["timestamp", "level", "logger", "message"] ++
      if record.exception.isSome then ["exception"] else [] := by
  unfold lineFields
  cases record.exception <;> rfl

theorem nodup_names_lineFields : ((lineFields stamp record message).map (·.1)).Nodup := by
  rw [names_lineFields]
  cases record.exception.isSome <;> decide

theorem read_jsonLine : Json.read (jsonLine stamp record message) =
    .ok (.object (Json.textFields (lineFields stamp record message))) := by
  rw [jsonLine, jsonDocument_eq]
  exact Json.read_write_textFields (by simp [lineFields]) (nodup_names_lineFields ..)

theorem space_le_of_jsonLine {c : Char} (written : c ∈ (jsonLine stamp record message).toList) :
    0x20 ≤ c.toNat := by
  rw [jsonLine, jsonDocument_eq] at written
  exact Json.space_le_of_write written

/-- What a line has to show of a record in a format. In text it is the time, the level, the logger and
the message, and the text of an exception begins on a line of its own. In JSON there is no break, and
the line is read as the object of these texts. -/
inductive Shows : LineFormat → String → Prop
  | plain {head : String} :
      head = stamp ++ " " ++ record.level.name ++ " " ++ record.logger ++ ": " ++ message →
      record.exception = none → Shows .text head
  | traced {head gap exception : String} :
      head = stamp ++ " " ++ record.level.name ++ " " ++ record.logger ++ ": " ++ message →
      gap = (if head.endsWith "\n" then "" else "\n") → record.exception = some exception →
      Shows .text (head ++ gap ++ exception)
  | document {line : String} : (∀ c ∈ line.toList, 0x20 ≤ c.toNat) →
      Json.read line = .ok (.object (Json.textFields (lineFields stamp record message))) →
      Shows .json line

theorem withException_some (line exception : String) :
    withException line (some exception) =
      line ++ (if line.endsWith "\n" then "" else "\n") ++ exception := by
  rw [withException]
  split_ifs
  · rw [String.append_empty]
  · rfl

theorem shows_line (format : LineFormat) :
    Shows stamp record message format (format.line stamp record message) := by
  cases format with
  | text =>
    unfold LineFormat.line textLine
    cases raised : record.exception with
    | none => exact .plain rfl raised
    | some exception =>
      rw [withException_some]
      exact .traced rfl rfl raised
  | json =>
    exact .document (fun c => space_le_of_jsonLine stamp record message) (read_jsonLine ..)

end

/-- What a handler has to put out of a record: a line that shows it, or a complaint if there is no
message that could be shown. -/
inductive Puts (stamp : String) (format : LineFormat) (record : Record) : Entry → Prop
  | line {message line : String} : record.message = .ok message →
      Shows stamp record message format line → Puts stamp format record (.written (line ++ "\n"))
  | complaint {fault : Fault} : record.message = .error fault →
      Puts stamp format record (.complaint fault)

theorem puts_entry (stamp : String) (format : LineFormat) (record : Record) :
    Puts stamp format record (record.entry (format.line stamp record)) := by
  unfold Record.entry
  cases made : record.message with
  | ok message => exact .line made (shows_line stamp record message format)
  | error fault => exact .complaint made

/-- Of a record without an exception only one line of text can be put out. -/
theorem Puts.eq_of_text {stamp message : String} {record : Record} {entry : Entry}
    (puts : Puts stamp .text record entry) (formatted : record.message = .ok message)
    (calm : record.exception = none) :
    entry = .written (stamp ++ " " ++ record.level.name ++ " " ++ record.logger ++ ": " ++ message ++
      "\n") := by
  cases puts with
  | complaint failed => cases formatted.symm.trans failed
  | line made shows =>
    cases formatted.symm.trans made
    cases shows with
    | plain head => rw [head]
    | traced _ _ raised => cases calm.symm.trans raised

/-- A JSON handler writes a record as one line, and the line is read as an object of the texts of the
record, lone surrogates (`isSurrogate`) included. -/
theorem json_line_reads_back (stamp : String) {message : String} {record : Record}
    (formatted : record.message = .ok message) :
    let line := jsonLine stamp record message
    (∀ root : Root, root.handlers.filterMap Handler.format? = [.json] →
      root.level ≤ record.level.number →
        root.write stamp record = [.written (line ++ "\n")]) ∧
    (∀ c ∈ line.toList, 0x20 ≤ c.toNat) ∧
    ∃ fields, Json.read line = .ok (.object fields) ∧
      fields.map (·.1) = ["timestamp", "level", "logger", "message"] ++
        (if record.exception.isSome then ["exception"] else []) ∧
      (Json.object fields).field? "timestamp" = some (.text stamp) ∧
      (Json.object fields).field? "level" = some (.text record.level.name) ∧
      (Json.object fields).field? "logger" = some (.text record.logger) ∧
      (Json.object fields).field? "message" = some (.text message) ∧
      (Json.object fields).field? "exception" = record.exception.map .text := by
  intro line
  have read := read_jsonLine stamp record message
  refine ⟨fun root installed passes => ?_, fun c => space_le_of_jsonLine stamp record message, _,
    read, ?_, ?_⟩
  · rw [Root.write_of_installed stamp installed (decide_eq_true passes), Record.entry, formatted]
    rfl
  · rw [← names_lineFields stamp record message, Json.textFields, List.map_map]
    rfl
  · unfold lineFields
    cases record.exception with
    | none => exact ⟨rfl, rfl, rfl, rfl, rfl⟩
    | some exception => exact ⟨rfl, rfl, rfl, rfl, rfl⟩

/-- A level of its own, a message with quotes, a break and a control character that a template makes
of its arguments, and an exception of two lines. -/
theorem json_line_of_broken_texts :
    let message := Template.format "%s at %r\n\u0001" [.text "a \"b\"\\", .text "\t"]
    let record : Record := ⟨⟨"Level 35", 35⟩, "app\r", message, some "ValueError: \u0085\nbelow"⟩
    ∃ line fields, (⟨30, [.foreign 1, .installed .json]⟩ : Root).write "noon" record =
        [.written (line ++ "\n")] ∧
      '\n' ∉ line.toList ∧ Json.read line = .ok (.object fields) ∧
      (Json.object fields).field? "level" = some (.text "Level 35") ∧
      (Json.object fields).field? "message" = some (.text "a \"b\"\\ at '\\t'\n\u0001") ∧
      (Json.object fields).field? "exception" = some (.text "ValueError: \u0085\nbelow") := by
  intro message record
  have formatted : record.message = .ok "a \"b\"\\ at '\\t'\n\u0001" := by decide +kernel
  obtain ⟨written, visible, fields, read, -, -, level, -, shown, exception⟩ :=
    json_line_reads_back "noon" formatted
  refine ⟨_, fields, written _ rfl (by decide), fun broken => ?_, read, level, shown, exception⟩
  exact absurd (visible '\n' broken) (by decide)

end ZeroGuard.Log
