import ZeroGuard.Proofs.Session.Step

namespace ZeroGuard

namespace Log

/-- The standard names of levels, in capitals, and their numbers. -/
inductive Standard : String → Nat → Prop
  | critical : Standard "CRITICAL" 50
  | fatal : Standard "FATAL" 50
  | error : Standard "ERROR" 40
  | warning : Standard "WARNING" 30
  | warn : Standard "WARN" 30
  | info : Standard "INFO" 20
  | debug : Standard "DEBUG" 10
  | notset : Standard "NOTSET" 0

/-- The words in capitals that mean something other than a level, and the kind of fault that they
cause. -/
inductive Taken : String → FaultKind → Prop
  | format : Taken "BASIC_FORMAT" .value
  | styles : Taken "_STYLES" .type

variable {word : String} {number : Nat} {fault : Fault} {before : Nat}

theorem levelNames_lookup_iff : levelNames.lookup word = some number ↔ Standard word number := by
  constructor
  · intro found
    obtain ⟨front, back, split, -⟩ := List.lookup_eq_some_iff.mp found
    have member : (word, number) ∈ levelNames := by simp [split]
    simp only [levelNames, List.mem_cons, Prod.mk.injEq, List.not_mem_nil, or_false] at member
    rcases member with ⟨rfl, rfl⟩ | ⟨rfl, rfl⟩ | ⟨rfl, rfl⟩ | ⟨rfl, rfl⟩ | ⟨rfl, rfl⟩ | ⟨rfl, rfl⟩ |
      ⟨rfl, rfl⟩ | ⟨rfl, rfl⟩ <;> constructor
  · rintro (_ | _) <;> rfl

theorem taken_of_lookup (found : reservedNames.lookup word = some fault) : Taken word fault.kind := by
  obtain ⟨front, back, split, -⟩ := List.lookup_eq_some_iff.mp found
  have member : (word, fault) ∈ reservedNames := by simp [split]
  simp only [reservedNames, List.mem_cons, Prod.mk.injEq, List.not_mem_nil, or_false] at member
  rcases member with ⟨rfl, rfl⟩ | ⟨rfl, rfl⟩
  · exact .format
  · exact .styles

theorem not_taken_of_lookup (missing : reservedNames.lookup word = none) (kind : FaultKind) :
    ¬ Taken word kind := by
  rintro (_ | _) <;> cases missing

/-- The level that a word asks for: that of a standard name in any case, and `INFO` for every other
word. -/
inductive Asked (word : String) : Nat → Prop
  | standard {number : Nat} : Standard (capitals word) number → Asked word number
  | unknown : (∀ number, ¬ Standard (capitals word) number) → Asked word Level.info.number

theorem Standard.not_taken {kind : FaultKind} (standard : Standard word number) :
    ¬ Taken word kind := by
  intro taken
  have found := levelNames_lookup_iff.mpr standard
  cases taken <;> cases found

/-- What a log comes to that is asked to take its level from a word: its level, and a fault if there
is one. -/
inductive Settles (word : String) (before : Nat) : Nat → Option Fault → Prop
  | asked {number : Nat} : Asked word number → (∀ kind, ¬ Taken (capitals word) kind) →
      Settles word before number none
  | taken {fault : Fault} : Taken (capitals word) fault.kind → Settles word before before (some fault)

theorem Root.setup_settles (word format : String) (root : Root) :
    Settles word root.level (root.setup word format).1.level (root.setup word format).2 := by
  cases named : levelNames.lookup (capitals word) with
  | some number =>
    have run : levelNumber word = .ok number := by simp only [levelNumber, named]
    have standard := levelNames_lookup_iff.mp named
    simp only [setup, run]
    exact .asked (.standard standard) fun _ => standard.not_taken
  | none =>
    cases taken : reservedNames.lookup (capitals word) with
    | some fault =>
      have run : levelNumber word = .error fault := by simp only [levelNumber, named, taken]
      simp only [setup, run]
      exact .taken (taken_of_lookup taken)
    | none =>
      have run : levelNumber word = .ok Level.info.number := by
        simp only [levelNumber, named, taken]
      have unnamed : ∀ number, ¬ Standard (capitals word) number := by
        intro number standard
        rw [levelNames_lookup_iff.mpr standard] at named
        cases named
      simp only [setup, run]
      exact .asked (.unknown unnamed) (not_taken_of_lookup taken)

theorem Settles.asked_iff {level : Nat} {fault : Option Fault}
    (settles : Settles word before level fault) :
    fault = none ∧ Asked word level ↔ ∀ kind, ¬ Taken (capitals word) kind := by
  cases settles with
  | asked asked free => exact iff_of_true ⟨rfl, asked⟩ free
  | taken taken => exact iff_of_false nofun fun free => free _ taken

end Log

namespace App

/-- The words by which a log can be set up and an application can start, and what the other words
do. -/
theorem level_follows_word_iff (word format : String) (root : Log.Root) :
    let setup := root.setup word format
    (setup.2 = none ∧ Log.Asked word setup.1.level ↔ ∀ kind, ¬ Log.Taken (capitals word) kind) ∧
    (∀ fault, setup.2 = some fault →
      Log.Taken (capitals word) fault.kind ∧ setup.1.level = root.level) ∧
    ∀ (app : App) (stamp : String) (loaded : Loaded), app.getSettings.1 = .ok loaded →
      loaded.settings.logLevel = word →
        let started := app.start stamp
        started.2.2 = none ∧ Log.Asked word started.1.log.level ↔
          ∀ kind, ¬ Log.Taken (capitals word) kind := by
  intro setup
  have settles := root.setup_settles word format
  refine ⟨settles.asked_iff, fun fault failed => ?_, ?_⟩
  · have stopped : Log.Settles word root.level setup.1.level (some fault) := failed ▸ settles
    generalize setup.1.level = level at stopped ⊢
    cases stopped with
    | taken taken => exact ⟨taken, rfl⟩
  · rintro app stamp loaded seen rfl
    have started := app.log.setup_settles loaded.settings.logLevel loaded.settings.logFormat.name
    rw [start_of_ok stamp seen]
    simpa only [Option.map_eq_none_iff] using started.asked_iff

/-- A start with a long s in the name of a level. It goes on with all records. -/
theorem long_s_is_followed :
    let app := App.initial.setVariable "SAFEDIV_LOG_LEVEL" (some "notſet")
    ((app.start "noon").2.2 = none ∧ Log.Asked "notſet" (app.start "noon").1.log.level) ∧
      (app.start "noon").1.log.level = 0 := by
  intro app
  have seen : app.getSettings.1 = .ok ⟨0, { Settings.default with logLevel := "notſet" }⟩ := by
    decide +kernel
  have free : ∀ kind, ¬ Log.Taken (capitals "notſet") kind :=
    Log.not_taken_of_lookup (by decide +kernel)
  have follows := (level_follows_word_iff "notſet" "text" .initial).2.2 app "noon" _ seen rfl
  exact ⟨follows.mpr free, by decide +kernel⟩

/-- Not every word can be asked for: this one stops the set-up of a log that nobody has set up. -/
theorem word_of_format_stops_setup :
    ¬ ∀ (word format : String) (root : Log.Root), (root.setup word format).2 = none := by
  intro settled
  have stopped : (Log.Root.initial.setup "basic_format" "text").2 ≠ none := by decide +kernel
  exact stopped (settled "basic_format" "text" .initial)

end App

end ZeroGuard
