import Mathlib.Data.List.Nodup
import ZeroGuard.Proofs.Outcome
import ZeroGuard.Settings.Load

namespace ZeroGuard.Settings

inductive Field
  | appTitle
  | appVersion
  | appDescription
  | environment
  | debug
  | logLevel
  | logFormat
  | defaultNumericType
deriving DecidableEq

namespace Field

def name : Field → String
  | appTitle => "app_title"
  | appVersion => "app_version"
  | appDescription => "app_description"
  | environment => "environment"
  | debug => "debug"
  | logLevel => "log_level"
  | logFormat => "log_format"
  | defaultNumericType => "default_numeric_type"

/-- What a field holds. -/
abbrev Content : Field → Type
  | debug => Bool
  | logFormat => Log.LineFormat
  | defaultNumericType => NumericType
  | _ => String

def content (settings : Settings) : (field : Field) → field.Content
  | appTitle => settings.appTitle
  | appVersion => settings.appVersion
  | appDescription => settings.appDescription
  | environment => settings.environment
  | debug => settings.debug
  | logLevel => settings.logLevel
  | logFormat => settings.logFormat
  | defaultNumericType => settings.defaultNumericType

def check : (field : Field) → Json → Except IssueKind field.Content
  | appTitle | appVersion | appDescription | environment | logLevel => checkText
  | debug => checkTruth
  | logFormat => checkLogFormat
  | defaultNumericType => checkNumericType

/-- What a field makes of its raw value, and of none: a value that passes the check of the field, or
the default. -/
inductive Takes (field : Field) : Option Json → field.Content → Prop
  | checked {value : Json} {content : field.Content} : field.check value = .ok content →
      Takes field (some value) content
  | default : Takes field none (field.content Settings.default)

/-- A field takes one content at most. -/
theorem Takes.unique {field : Field} {raw : Option Json} {content other : field.Content}
    (takes : field.Takes raw content) (takesOther : field.Takes raw other) : other = content := by
  cases takes with
  | checked run =>
    cases takesOther with
    | checked runOther => exact Except.ok.inj (runOther.symm.trans run)
  | default =>
    cases takesOther with
    | default => rfl

end Field

/-- Settings by the contents of their fields. -/
def ofContents (contents : (field : Field) → field.Content) : Settings where
  appTitle := contents .appTitle
  appVersion := contents .appVersion
  appDescription := contents .appDescription
  environment := contents .environment
  debug := contents .debug
  logLevel := contents .logLevel
  logFormat := contents .logFormat
  defaultNumericType := contents .defaultNumericType

theorem content_ofContents (contents : (field : Field) → field.Content) (field : Field) :
    field.content (ofContents contents) = contents field := by
  cases field <;> rfl

theorem alongside_eq_ok_iff {α β : Type} {f : Except (List Issue) (α → β)}
    {x : Except (List Issue) α} {result : β} :
    alongside f x = .ok result ↔ ∃ g value, f = .ok g ∧ x = .ok value ∧ g value = result := by
  cases f <;> cases x <;> simp [alongside]

theorem checkField_none {α : Type} (name : String) (check : Json → Except IssueKind α)
    (fallback : α) : checkField name check fallback none = .ok fallback := rfl

theorem checkField_some_eq_ok_iff {α : Type} {name : String} {check : Json → Except IssueKind α}
    {fallback content : α} {value : Json} :
    checkField name check fallback (some value) = .ok content ↔ check value = .ok content := by
  cases checked : check value <;> simp [checkField, checked]

/-- A field read from its raw value. -/
def Field.read (raw : String → Option Json) (field : Field) :
    Except (List Issue) field.Content :=
  checkField field.name field.check (field.content default) (raw field.name)

theorem Field.read_eq_ok_iff {raw : String → Option Json} {field : Field}
    {content : field.Content} :
    field.read raw = .ok content ↔ field.Takes (raw field.name) content := by
  rw [read]
  cases raw field.name with
  | none =>
    rw [checkField_none, Except.ok.injEq]
    exact ⟨fun same => same ▸ .default, fun | .default => rfl⟩
  | some value =>
    rw [checkField_some_eq_ok_iff]
    exact ⟨.checked, fun | .checked run => run⟩

/-- Settings are read field after field. -/
theorem validate_eq (raw : String → Option Json) :
    validate raw =
      alongside (alongside (alongside (alongside (alongside (alongside (alongside (alongside
        (.ok Settings.mk) (Field.appTitle.read raw)) (Field.appVersion.read raw))
        (Field.appDescription.read raw)) (Field.environment.read raw)) (Field.debug.read raw))
        (Field.logLevel.read raw)) (Field.logFormat.read raw))
        (Field.defaultNumericType.read raw) := rfl

theorem validate_eq_ok_iff {raw : String → Option Json} {settings : Settings} :
    validate raw = .ok settings ↔
      ∀ field : Field, field.read raw = .ok (field.content settings) := by
  simp only [validate_eq, alongside_eq_ok_iff, Except.ok.injEq]
  constructor
  · rintro ⟨_, _, ⟨_, _, ⟨_, _, ⟨_, _, ⟨_, _, ⟨_, _, ⟨_, _, ⟨_, _, rfl, _, rfl⟩, _, rfl⟩, _, rfl⟩,
      _, rfl⟩, _, rfl⟩, _, rfl⟩, _, rfl⟩, _, rfl⟩ field
    cases field <;> assumption
  · intro reads
    exact ⟨_, _, ⟨_, _, ⟨_, _, ⟨_, _, ⟨_, _, ⟨_, _, ⟨_, _, ⟨_, _, rfl, reads .appTitle, rfl⟩,
      reads .appVersion, rfl⟩, reads .appDescription, rfl⟩, reads .environment, rfl⟩,
      reads .debug, rfl⟩, reads .logLevel, rfl⟩, reads .logFormat, rfl⟩,
      reads .defaultNumericType, rfl⟩

/-- Settings are valid exactly if each field takes its raw value. -/
theorem validate_takes_iff {raw : String → Option Json} {settings : Settings} :
    validate raw = .ok settings ↔
      ∀ field : Field, field.Takes (raw field.name) (field.content settings) :=
  validate_eq_ok_iff.trans (forall_congr' fun _ => Field.read_eq_ok_iff)

theorem exists_validate_iff {raw : String → Option Json} :
    (∃ settings, validate raw = .ok settings) ↔
      ∀ field : Field, ∃ content, field.Takes (raw field.name) content := by
  constructor
  · rintro ⟨settings, valid⟩ field
    exact ⟨_, validate_takes_iff.mp valid field⟩
  · intro each
    choose contents takes using each
    refine ⟨ofContents contents, validate_takes_iff.mpr fun field => ?_⟩
    rw [content_ofContents]
    exact takes field

/-- No raw value but those of the fields is looked at. -/
theorem validate_congr {raw other : String → Option Json}
    (agree : ∀ field : Field, raw field.name = other field.name) : validate raw = validate other := by
  have same : ∀ field : Field, field.read raw = field.read other := by
    intro field
    rw [Field.read, agree field, Field.read]
  simp only [validate_eq, same]

end ZeroGuard.Settings
