import ZeroGuard.Proofs.Settings.Dotenv
import ZeroGuard.Proofs.Settings.Field

namespace ZeroGuard

namespace Surroundings

/-- The lines of the file that set a variable. -/
def lines (s : Surroundings) : List (String × Option String) :=
  (s.dotenv.map Dotenv.assignments).getD []

/-- The variables of the file. -/
def file (s : Surroundings) : Dotenv.Bindings :=
  (s.dotenv.map (Dotenv.parse s.bindings)).getD []

/-- A name that the file refers to. -/
def Refers (s : Surroundings) (name : String) : Prop :=
  ∃ line ∈ s.lines, Dotenv.LineRefers line name

theorem file_eq (s : Surroundings) :
    s.file = s.lines.foldl (Dotenv.assign s.bindings) [] := by
  unfold file lines
  cases s.dotenv with
  | none => rfl
  | some text => exact Dotenv.parse_eq s.bindings text

/-- What is left of the file's variables is told by what is left of its lines and of the
environment. -/
theorem keep_file (s : Surroundings) (kept : String → Bool)
    (refers : ∀ name, s.Refers name → kept name = true) :
    Dotenv.keep kept s.file =
      (Dotenv.keep kept s.lines).foldl (Dotenv.assign (Dotenv.keep kept s.bindings)) [] := by
  rw [file_eq]
  exact Dotenv.keep_assign_all (fun line member name refersTo => refers name ⟨line, member, refersTo⟩)
    s.bindings []

end Surroundings

namespace Settings

/-- Entries no two of which have names that are equal up to case. -/
def Unclashing {α : Type} (entries : List (String × α)) : Prop :=
  (entries.map fun entry => lowerName entry.1).Nodup

instance {α : Type} (entries : List (String × α)) : Decidable (Unclashing entries) :=
  inferInstanceAs (Decidable (List.Nodup _))

/-- The raw value that the first source has for a field: an argument, else a variable of the
environment, else a variable of the file that has a value, else none. Case does not count in the names
of variables. -/
inductive Wins (arguments : List (String × Json)) (environment : List (String × String))
    (file : Dotenv.Bindings) (field : String) : Option Json → Prop
  | argument {value : Json} : (field, value) ∈ arguments →
      Wins arguments environment file field (some value)
  | inherited {name text : String} : (∀ entry ∈ arguments, entry.1 ≠ field) →
      (name, text) ∈ environment → lowerName name = variableName field →
      Wins arguments environment file field (some (.text text))
  | binding {name text : String} : (∀ entry ∈ arguments, entry.1 ≠ field) →
      (∀ entry ∈ environment, lowerName entry.1 ≠ variableName field) →
      (name, some text) ∈ file → lowerName name = variableName field →
      Wins arguments environment file field (some (.text text))
  | default : (∀ entry ∈ arguments, entry.1 ≠ field) →
      (∀ entry ∈ environment, lowerName entry.1 ≠ variableName field) →
      (∀ name text, (name, some text) ∈ file → lowerName name ≠ variableName field) →
      Wins arguments environment file field none

section Search

variable {α : Type} (key : String → String) {entries others : List (String × α)} {wanted : String}
  {value : α}

/-- The value of the last entry with a key. -/
def lastValue (key : String → String) (entries : List (String × α)) (wanted : String) : Option α :=
  (entries.reverse.find? fun entry => key entry.1 = wanted).map (·.2)

/-- If keys are distinct, the last entry with a key is the only one. -/
theorem lastValue_eq_some_iff (distinct : (entries.map fun entry => key entry.1).Nodup) :
    lastValue key entries wanted = some value ↔
      ∃ name, (name, value) ∈ entries ∧ key name = wanted := by
  rw [lastValue, Option.map_eq_some_iff]
  constructor
  · rintro ⟨⟨name, value⟩, found, rfl⟩
    exact ⟨name, List.mem_reverse.mp (List.mem_of_find?_eq_some found),
      by simpa using List.find?_some found⟩
  · rintro ⟨name, member, same⟩
    have there : (entries.reverse.find? fun entry => key entry.1 = wanted).isSome = true :=
      List.find?_isSome.mpr ⟨(name, value), List.mem_reverse.mpr member, by simpa using same⟩
    obtain ⟨other, found⟩ := Option.isSome_iff_exists.mp there
    have otherMember := List.mem_reverse.mp (List.mem_of_find?_eq_some found)
    have otherSame : key other.1 = wanted := by simpa using List.find?_some found
    have only := List.inj_on_of_nodup_map distinct otherMember member (otherSame.trans same.symm)
    exact ⟨other, found, by rw [only]⟩

theorem lastValue_eq_none_iff :
    lastValue key entries wanted = none ↔ ∀ entry ∈ entries, key entry.1 ≠ wanted := by
  simp [lastValue]

/-- Entries with other keys do not matter. -/
theorem lastValue_congr (same : (others.filter fun entry => key entry.1 = wanted) =
    entries.filter fun entry => key entry.1 = wanted) :
    lastValue key others wanted = lastValue key entries wanted := by
  have own : ∀ entries : List (String × α), lastValue key entries wanted =
      lastValue key (entries.filter fun entry => key entry.1 = wanted) wanted := by
    intro entries
    rw [lastValue, lastValue, ← List.filter_reverse, List.find?_filter]
    simp
  rw [own others, same, ← own entries]

end Search

theorem source_eq (arguments : List (String × Json)) (environment : List (String × String))
    (file : Dotenv.Bindings) (field : String) :
    source arguments environment file field =
      (lastValue id arguments field).or
        (((lastValue lowerName environment (variableName field)).map Json.text).or
          ((lastValue lowerName file (variableName field)).join.map Json.text)) := rfl

section Wins

variable {arguments : List (String × Json)} {environment : List (String × String)}
  {file : Dotenv.Bindings} {field : String} {raw : Option Json}
  (keywords : (arguments.map Prod.fst).Nodup) (distinct : Unclashing environment)
  (distinctFile : Unclashing file)
include keywords distinct distinctFile

theorem wins_source : Wins arguments environment file field
    (source arguments environment file field) := by
  rw [source_eq]
  cases argument : lastValue id arguments field with
  | some value =>
    obtain ⟨_, member, rfl⟩ := (lastValue_eq_some_iff id keywords).mp argument
    exact .argument member
  | none =>
    have noArgument := (lastValue_eq_none_iff id).mp argument
    cases inherited : lastValue lowerName environment (variableName field) with
    | some text =>
      obtain ⟨name, member, same⟩ := (lastValue_eq_some_iff lowerName distinct).mp inherited
      exact .inherited noArgument member same
    | none =>
      have noVariable := (lastValue_eq_none_iff lowerName).mp inherited
      cases binding : (lastValue lowerName file (variableName field)).join with
      | some text =>
        obtain ⟨name, member, same⟩ :=
          (lastValue_eq_some_iff lowerName distinctFile).mp (Option.join_eq_some_iff.mp binding)
        exact .binding noArgument noVariable member same
      | none =>
        refine .default noArgument noVariable fun name text member same => ?_
        have found := (lastValue_eq_some_iff lowerName distinctFile).mpr ⟨name, member, same⟩
        rw [found] at binding
        cases binding

theorem Wins.source_eq (wins : Wins arguments environment file field raw) :
    source arguments environment file field = raw := by
  rw [Settings.source_eq]
  cases wins with
  | argument member =>
    rw [(lastValue_eq_some_iff id keywords).mpr ⟨_, member, id_eq field⟩]
    rfl
  | inherited noArgument member same =>
    rw [(lastValue_eq_none_iff id).mpr noArgument,
      (lastValue_eq_some_iff lowerName distinct).mpr ⟨_, member, same⟩]
    rfl
  | binding noArgument noVariable member same =>
    rw [(lastValue_eq_none_iff id).mpr noArgument, (lastValue_eq_none_iff lowerName).mpr noVariable,
      (lastValue_eq_some_iff lowerName distinctFile).mpr ⟨_, member, same⟩]
    rfl
  | default noArgument noVariable unset =>
    rw [(lastValue_eq_none_iff id).mpr noArgument, (lastValue_eq_none_iff lowerName).mpr noVariable]
    cases binding : (lastValue lowerName file (variableName field)).join with
    | none => rfl
    | some text =>
      obtain ⟨name, member, same⟩ :=
        (lastValue_eq_some_iff lowerName distinctFile).mp (Option.join_eq_some_iff.mp binding)
      exact absurd same (unset name text member)

/-- Exactly one raw value wins a field. -/
theorem wins_iff : Wins arguments environment file field raw ↔
    raw = source arguments environment file field :=
  ⟨fun wins => (wins.source_eq keywords distinct distinctFile).symm,
    fun same => same ▸ wins_source keywords distinct distinctFile⟩

end Wins

/-- Arguments none of whose names begins with an underscore. -/
def Public (arguments : List (String × Json)) : Prop :=
  ∀ entry ∈ arguments, entry.1.toList.head? ≠ some '_'

instance (arguments : List (String × Json)) : Decidable (Public arguments) :=
  inferInstanceAs (Decidable (∀ entry ∈ arguments, _))

variable {arguments others : List (String × Json)} {s t : Surroundings} {field : Field}

theorem load_eq (given : Public arguments) :
    load arguments s = validate (source arguments s.bindings s.file) := by
  have usual : readsFile arguments = true := by
    have absent : arguments.reverse.find? (·.1 = "_env_file") = none := by
      rw [List.find?_eq_none]
      intro entry member same
      refine given entry (List.mem_reverse.mp member) ?_
      rw [of_decide_eq_true same]
      rfl
    rw [readsFile, absent]
    rfl
  rw [load, usual, if_pos rfl]
  rfl

/-- Arguments and surroundings with the same entries for a field, in each source. -/
structure SameSources (field : Field) (arguments others : List (String × Json))
    (s t : Surroundings) : Prop where
  arguments : (others.filter fun entry => entry.1 = field.name) =
    arguments.filter fun entry => entry.1 = field.name
  environment : (t.bindings.filter fun entry => lowerName entry.1 = variableName field.name) =
    s.bindings.filter fun entry => lowerName entry.1 = variableName field.name
  file : (t.file.filter fun entry => lowerName entry.1 = variableName field.name) =
    s.file.filter fun entry => lowerName entry.1 = variableName field.name

theorem SameSources.source_eq (same : SameSources field arguments others s t) :
    source others t.bindings t.file field.name =
      source arguments s.bindings s.file field.name := by
  rw [Settings.source_eq, Settings.source_eq, lastValue_congr id same.arguments,
    lastValue_congr lowerName same.environment, lastValue_congr lowerName same.file]

/-- Surroundings with the same entries under the names that are kept, which are at least the names of
fields and those to which either file refers. -/
structure SameKept (kept : String → Bool) (s t : Surroundings) : Prop where
  fields : ∀ name (field : Field), lowerName name = variableName field.name → kept name = true
  references : ∀ name, s.Refers name ∨ t.Refers name → kept name = true
  bindings : Dotenv.keep kept t.bindings = Dotenv.keep kept s.bindings
  lines : Dotenv.keep kept t.lines = Dotenv.keep kept s.lines

section SameKept

variable {kept : String → Bool}

theorem SameKept.file (same : SameKept kept s t) :
    Dotenv.keep kept t.file = Dotenv.keep kept s.file := by
  have left := s.keep_file kept fun name refers => same.references name (.inl refers)
  have right := t.keep_file kept fun name refers => same.references name (.inr refers)
  rw [left, right, same.bindings, same.lines]

/-- The entries of a field are kept. -/
theorem filter_keep {α : Type} {wanted : String}
    (own : ∀ name, lowerName name = wanted → kept name = true) (entries : List (String × α)) :
    ((Dotenv.keep kept entries).filter fun entry => lowerName entry.1 = wanted) =
      entries.filter fun entry => lowerName entry.1 = wanted := by
  rw [Dotenv.keep, List.filter_filter]
  refine List.filter_congr fun entry _ => ?_
  by_cases same : lowerName entry.1 = wanted
  · simp [same, own entry.1 same]
  · simp [same]

theorem SameKept.sameSources (same : SameKept kept s t)
    (given : ∀ field : Field, (others.filter fun entry => entry.1 = field.name) =
      arguments.filter fun entry => entry.1 = field.name) (field : Field) :
    SameSources field arguments others s t := by
  have own := fun name => same.fields name field
  refine ⟨given field, ?_, ?_⟩
  · rw [← filter_keep own t.bindings, same.bindings, filter_keep own]
  · rw [← filter_keep own t.file, same.file, filter_keep own]

/-- A variable that is not kept can be set or removed. -/
theorem keep_setVariable {name : String} (dropped : kept name = false) (value : Option String)
    (s : Surroundings) :
    Dotenv.keep kept (s.setVariable name value).bindings = Dotenv.keep kept s.bindings := by
  cases value with
  | none =>
    rw [Surroundings.setVariable, Dotenv.keep, List.filter_filter]
    refine List.filter_congr fun entry _ => ?_
    by_cases same : entry.1 = name
    · simp [same, dropped]
    · simp [same]
  | some text =>
    rw [Surroundings.setVariable]
    split_ifs
    · dsimp only
      induction s.bindings with
      | nil => rfl
      | cons entry rest ih =>
        rw [List.map_cons, Dotenv.keep_cons, Dotenv.keep_cons, ih]
        by_cases same : entry.1 = name
        · simp [same, dropped]
        · simp [same]
    · simp [Dotenv.keep, dropped]

/-- Setting or removing a variable makes no difference if it is not that of a field and the file does
not refer to it. -/
theorem sameKept_setVariable {name : String} (value : Option String)
    (other : ∀ field : Field, lowerName name ≠ variableName field.name) (unread : ¬ s.Refers name) :
    SameKept (fun key => key ≠ name) s (s.setVariable name value) := by
  have dotenv : (s.setVariable name value).dotenv = s.dotenv := by
    cases value with
    | none => rfl
    | some text =>
      rw [Surroundings.setVariable]
      split_ifs <;> rfl
  have lines : (s.setVariable name value).lines = s.lines := by
    rw [Surroundings.lines, dotenv, Surroundings.lines]
  refine ⟨?_, ?_, keep_setVariable (by simp) value s, by rw [lines]⟩
  · intro key field own
    have different : key ≠ name := fun same => other field (same ▸ own)
    exact decide_eq_true different
  · intro key refers
    have refers : s.Refers key := by
      rcases refers with refers | refers
      · exact refers
      · rwa [Surroundings.Refers, lines] at refers
    have different : key ≠ name := fun same => unread (same ▸ refers)
    exact decide_eq_true different

/-- What is not kept makes no difference. -/
theorem SameKept.load_eq (same : SameKept kept s t) (given : Public arguments)
    (givenOther : Public others)
    (keywords : ∀ field : Field, (others.filter fun entry => entry.1 = field.name) =
      arguments.filter fun entry => entry.1 = field.name) :
    load others t = load arguments s := by
  rw [Settings.load_eq given, Settings.load_eq givenOther]
  exact validate_congr fun field => (same.sameSources keywords field).source_eq

end SameKept

/-- Settings load exactly if each field takes the raw value that wins it, and there is exactly one.
Whatever else the sources hold, a field of settings that load takes the same raw value from sources
with the same entries for it. And the outcome as a whole stays what it is when arguments, variables of
the environment and lines of the file change that neither name a field nor are referred to in the
file. -/
theorem load_resolves_by_field (arguments : List (String × Json)) (s : Surroundings)
    (given : Public arguments) (keywords : (arguments.map Prod.fst).Nodup)
    (environment : Unclashing s.bindings) (file : Unclashing s.file) :
    (∀ field : Field, ∃! raw, Wins arguments s.bindings s.file field.name raw) ∧
    (∀ settings, load arguments s = .ok settings ↔
      ∀ (field : Field) raw, Wins arguments s.bindings s.file field.name raw →
        field.Takes raw (field.content settings)) ∧
    ((∃ settings, load arguments s = .ok settings) ↔
      ∀ (field : Field) raw, Wins arguments s.bindings s.file field.name raw →
        ∃ content, field.Takes raw content) ∧
    (∀ field others t settings, Public others → SameSources field arguments others s t →
      load others t = .ok settings →
        (∀ raw, Wins arguments s.bindings s.file field.name raw →
          field.Takes raw (field.content settings)) ∧
        ∀ own, load arguments s = .ok own → field.content settings = field.content own) ∧
    (∀ kept others t, Public others → SameKept kept s t →
      (∀ field : Field, (others.filter fun entry => entry.1 = field.name) =
        arguments.filter fun entry => entry.1 = field.name) →
      load others t = load arguments s) ∧
    (∀ name value, (∀ field : Field, lowerName name ≠ variableName field.name) →
      ¬ s.Refers name → load arguments (s.setVariable name value) = load arguments s) := by
  have wins : ∀ {field : Field} {raw}, Wins arguments s.bindings s.file field.name raw ↔
      raw = source arguments s.bindings s.file field.name :=
    wins_iff keywords environment file
  have valid : ∀ {settings}, load arguments s = .ok settings ↔ ∀ field : Field,
      field.Takes (source arguments s.bindings s.file field.name) (field.content settings) := by
    intro settings
    rw [load_eq given]
    exact validate_takes_iff
  refine ⟨?unique, ?valid, ?succeeds, ?own, ?frame, ?unrelated⟩
  case unique =>
    intro field
    exact ⟨_, wins.mpr rfl, fun raw => wins.mp⟩
  case valid =>
    intro settings
    simp only [wins, forall_eq]
    exact valid
  case succeeds =>
    simp only [wins, forall_eq, load_eq given]
    exact exists_validate_iff
  case own =>
    intro field others t settings givenOther same loads
    rw [load_eq givenOther] at loads
    have takes := validate_takes_iff.mp loads field
    rw [same.source_eq] at takes
    refine ⟨fun raw winner => wins.mp winner ▸ takes, ?_⟩
    intro own loadsOwn
    exact (valid.mp loadsOwn field).unique takes
  case frame =>
    intro kept others t givenOther same keywords
    exact same.load_eq given givenOther keywords
  case unrelated =>
    intro name value other unread
    exact (sameKept_setVariable value other unread).load_eq given given fun _ => rfl

/-- The argument wins over a variable that is no truth value, the environment over the file, and a
line without a value sets nothing. -/
theorem load_resolves_by_field_layered :
    let arguments : List (String × Json) := [("debug", .bool true)]
    let s : Surroundings := ⟨[("SafeDiv_Debug", "maybe"), ("SAFEDIV_LOG_LEVEL", "WARNING")],
      some "STAGE=dev\nSAFEDIV_ENVIRONMENT=$\x7bSTAGE\x7d\nSAFEDIV_LOG_LEVEL=DEBUG\nSAFEDIV_DEBUG"⟩
    (∃! raw, Wins arguments s.bindings s.file "debug" raw) ∧
    load arguments s =
      .ok { default with debug := true, logLevel := "WARNING", environment := "dev" } ∧
    load arguments (s.setVariable "DEBUG" (some "maybe")) = load arguments s := by
  intro arguments s
  have lines : s.lines = [("STAGE", some "dev"), ("SAFEDIV_ENVIRONMENT", some "$\x7bSTAGE\x7d"),
      ("SAFEDIV_LOG_LEVEL", some "DEBUG"), ("SAFEDIV_DEBUG", none)] := by decide +kernel
  have unread : ¬ s.Refers "DEBUG" := by
    rintro ⟨line, member, raw, same, refers⟩
    rw [lines] at member
    simp only [List.mem_cons, List.not_mem_nil, or_false] at member
    rcases member with rfl | rfl | rfl | rfl <;> cases same <;>
      simp [Dotenv.refers_cons_iff, Dotenv.referenceAt?, Dotenv.readReference?] at refers
  have other : ∀ field : Field, lowerName "DEBUG" ≠ variableName field.name := by
    intro field
    cases field <;> decide
  obtain ⟨winner, -, -, -, -, unrelated⟩ := load_resolves_by_field arguments s (by decide)
    (by decide) (by decide +kernel) (by decide +kernel)
  exact ⟨winner .debug, by decide +kernel, unrelated "DEBUG" (some "maybe") other unread⟩

end Settings

end ZeroGuard
