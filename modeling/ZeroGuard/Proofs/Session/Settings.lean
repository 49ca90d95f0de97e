import ZeroGuard.Proofs.Session.Step

namespace ZeroGuard

/-- What a reader has seen, and the surroundings in which it did. -/
structure Reading where
  surroundings : Surroundings
  seen : Except (List Issue) Loaded

/-- Readers that agree: some that fail to load, each in its own surroundings, and after them all
that see the settings which the first of them loads. -/
inductive Coherent : List Reading → Prop
  | nil : Coherent []
  | failed {reading issues rest} : Settings.load [] reading.surroundings = .error issues →
      reading.seen = .error issues → Coherent rest → Coherent (reading :: rest)
  | loaded {reading} {loaded : Loaded} {rest} :
      Settings.load [] reading.surroundings = .ok loaded.settings →
      (∀ later ∈ reading :: rest, later.seen = .ok loaded) → Coherent (reading :: rest)

namespace App

variable {app : App} {action : Action} {loaded : Loaded} {actions : List Action}

/-- What the readers among some actions see. -/
def readings : List Action → App → List Reading
  | [], _ => []
  | action :: rest, app =>
    let later := (app.after action).readings rest
    if action.reads then ⟨app.surroundings, app.getSettings.1⟩ :: later else later

theorem readings_of_reads (reads : action.reads = true) :
    app.readings (action :: actions) =
      ⟨app.surroundings, app.getSettings.1⟩ :: (app.after action).readings actions :=
  if_pos reads

theorem readings_of_not_reads (unread : action.reads = false) :
    app.readings (action :: actions) = (app.after action).readings actions :=
  if_neg (by rw [unread]; exact Bool.false_ne_true)

/-- Settings that are kept are seen by all until they are cleared. -/
theorem readings_of_kept (kept : app.cache = some loaded) (unbroken : .clearSettings ∉ actions) :
    ∀ reading ∈ app.readings actions, reading.seen = .ok loaded := by
  induction actions generalizing app with
  | nil => exact nofun
  | cons action rest ih =>
    obtain ⟨notClear, unbroken⟩ := not_or.mp (mt List.mem_cons.mpr unbroken)
    have read := getSettings_of_kept kept
    cases reads : action.reads with
    | true =>
      have still : (app.after action).cache = some loaded := by
        rw [(after_of_reads app reads).1, read, kept]
      rw [readings_of_reads reads, read]
      intro reading member
      rcases List.mem_cons.mp member with rfl | member
      · rfl
      · exact ih still unbroken reading member
    | false =>
      have still := (after_of_not_reads app reads (Ne.symm notClear)).1.trans kept
      rw [readings_of_not_reads reads]
      exact ih still unbroken

theorem readings_coherent (empty : app.cache = none) (unbroken : .clearSettings ∉ actions) :
    Coherent (app.readings actions) := by
  induction actions generalizing app with
  | nil => exact .nil
  | cons action rest ih =>
    obtain ⟨notClear, unbroken⟩ := not_or.mp (mt List.mem_cons.mpr unbroken)
    cases reads : action.reads with
    | true =>
      rw [readings_of_reads reads]
      cases run : Settings.load [] app.surroundings with
      | error issues =>
        have read := getSettings_of_error empty run
        have still : (app.after action).cache = none := by
          rw [(after_of_reads app reads).1, read, empty]
        rw [read]
        exact .failed run rfl (ih still unbroken)
      | ok settings =>
        have read := getSettings_of_ok empty run
        have kept : (app.after action).cache = some ⟨app.loads, settings⟩ := by
          rw [(after_of_reads app reads).1, read]
        rw [read]
        refine .loaded run (List.forall_mem_cons.mpr ⟨rfl, readings_of_kept kept unbroken⟩)
    | false =>
      have still := (after_of_not_reads app reads (Ne.symm notClear)).1.trans empty
      rw [readings_of_not_reads reads]
      exact ih still unbroken

/-- The settings that are kept have a number from `low` on, which is that of a load. -/
structure Numbered (low : Nat) (app : App) : Prop where
  loads : low ≤ app.loads
  kept : ∀ loaded, app.cache = some loaded → low ≤ loaded.serial ∧ loaded.serial < app.loads

variable {low : Nat}

theorem Numbered.getSettings (numbered : Numbered low app) :
    Numbered low app.getSettings.2 ∧ app.loads ≤ app.getSettings.2.loads ∧
      ∀ loaded, app.getSettings.1 = .ok loaded →
        low ≤ loaded.serial ∧ loaded.serial < app.getSettings.2.loads := by
  have bound := numbered.loads
  cases cache : app.cache with
  | some kept =>
    rw [getSettings_of_kept cache]
    refine ⟨numbered, Nat.le_refl _, ?_⟩
    intro loaded same
    cases same
    exact numbered.kept kept cache
  | none =>
    cases run : Settings.load [] app.surroundings with
    | error issues =>
      rw [getSettings_of_error cache run]
      exact ⟨numbered, Nat.le_refl _, nofun⟩
    | ok settings =>
      have fresh : low ≤ app.loads ∧ app.loads < app.loads + 1 := by omega
      rw [getSettings_of_ok cache run]
      refine ⟨⟨Nat.le_succ_of_le bound, ?_⟩, Nat.le_succ _, ?_⟩
      · intro loaded same
        cases same
        exact fresh
      · intro loaded same
        cases same
        exact fresh

theorem Numbered.after (numbered : Numbered low app) (action : Action) :
    Numbered low (app.after action) ∧ app.loads ≤ (app.after action).loads := by
  cases reads : action.reads with
  | true =>
    obtain ⟨next, more, -⟩ := numbered.getSettings
    obtain ⟨cache, loads⟩ := after_of_reads app reads
    refine ⟨⟨?_, ?_⟩, ?_⟩
    · rw [loads]
      exact next.loads
    · rw [cache, loads]
      exact next.kept
    · rw [loads]
      exact more
  | false =>
    by_cases clear : action = .clearSettings
    · subst clear
      exact ⟨⟨numbered.loads, nofun⟩, Nat.le_refl _⟩
    · obtain ⟨cache, loads⟩ := after_of_not_reads app reads clear
      refine ⟨⟨?_, ?_⟩, ?_⟩
      · rw [loads]
        exact numbered.loads
      · rw [cache, loads]
        exact numbered.kept
      · exact Nat.le_of_eq loads.symm

theorem Numbered.run (numbered : Numbered low app) (actions : List Action) :
    Numbered low (app.run actions) ∧ app.loads ≤ (app.run actions).loads := by
  induction actions generalizing app with
  | nil => exact ⟨numbered, Nat.le_refl _⟩
  | cons action rest ih =>
    obtain ⟨next, more⟩ := numbered.after action
    obtain ⟨last, most⟩ := ih next
    exact ⟨last, Nat.le_trans more most⟩

/-- All settings that are seen come from loads between the start and the end. -/
theorem Numbered.readings (numbered : Numbered low app) (actions : List Action) :
    ∀ reading ∈ app.readings actions, ∀ loaded, reading.seen = .ok loaded →
      low ≤ loaded.serial ∧ loaded.serial < (app.run actions).loads := by
  induction actions generalizing app with
  | nil => exact nofun
  | cons action rest ih =>
    obtain ⟨next, -⟩ := numbered.after action
    cases reads : action.reads with
    | true =>
      rw [readings_of_reads reads]
      intro reading member loaded seen
      rcases List.mem_cons.mp member with rfl | member
      · obtain ⟨-, -, numbers⟩ := numbered.getSettings
        obtain ⟨least, most⟩ := numbers loaded seen
        obtain ⟨-, more⟩ := next.run rest
        rw [(after_of_reads app reads).2] at more
        exact ⟨least, Nat.lt_of_lt_of_le most more⟩
      · exact ih next reading member loaded seen
    | false =>
      rw [readings_of_not_reads reads]
      exact ih next

/-- What comes of a reader that sees certain settings. -/
inductive Observes (app : App) (loaded : Loaded) : Action → Outcome → Prop
  | get : Observes app loaded .getSettings (.settings (.ok loaded))
  | divide (stamp request) : Observes app loaded (.divide stamp none request)
      (app.act (.divide stamp (some loaded.settings) request)).1
  | serve (stamp perform message) : Observes app loaded (.serve stamp none perform message)
      (app.act (.serve stamp (some loaded.settings) perform message)).1
  | create : Observes app loaded .create (.described (.ok (describe loaded.settings)))
  | start (stamp) {log fault} :
      app.log.setup loaded.settings.logLevel loaded.settings.logFormat.name = (log, fault) →
      Observes app loaded (.start stamp) (.started
        (if fault.isSome then [] else log.write stamp (startRecord loaded.settings))
        (fault.map .log))

theorem act_observes (reads : action.reads = true) (seen : app.getSettings.1 = .ok loaded) :
    Observes app loaded action (app.act action).1 := by
  cases action with
  | getSettings =>
    rw [act, Prod.map_fst, seen]
    exact .get
  | create =>
    rw [act, Prod.map_fst, create_eq, seen]
    exact .create
  | divide stamp given request =>
    cases given with
    | none =>
      have outcome : (app.act (.divide stamp none request)).1 =
          (app.act (.divide stamp (some loaded.settings) request)).1 := by
        rw [act, act, Prod.map_fst, Prod.map_fst, divide_none, seen]
        rfl
      rw [outcome]
      exact .divide stamp request
    | some settings => cases reads
  | serve stamp given perform message =>
    cases given with
    | none =>
      have outcome : (app.act (.serve stamp none perform message)).1 =
          (app.act (.serve stamp (some loaded.settings) perform message)).1 := by
        rw [act, act, Prod.map_fst, Prod.map_fst, Http.serve_none, Http.serve_some, seen]
        rfl
      rw [outcome]
      exact .serve stamp perform message
    | some settings => cases reads
  | start stamp =>
    have outcome := start_of_ok stamp seen
    simp only [act, outcome]
    exact .start stamp rfl
  | _ => cases reads

/-- An action that is no reader comes to the same whatever settings are kept. -/
theorem act_of_not_reads (unread : action.reads = false) (cache : Option Loaded) :
    ({ app with cache := cache }.act action).1 = (app.act action).1 := by
  cases action with
  | getSettings | create | start => cases unread
  | divide stamp given request =>
    cases given with
    | none => cases unread
    | some settings => rfl
  | serve stamp given perform message =>
    rw [act, act, Prod.map_fst, Prod.map_fst]
    cases given with
    | none =>
      have handled := Http.handleWith_of_not_asks perform message unread
        ({ app with cache := cache }.getSettings.1.map Loaded.settings)
        (app.getSettings.1.map Loaded.settings)
      rw [Http.serve_none, Http.serve_none, Http.serveWith, Http.serveWith, handled]
      rfl
    | some settings =>
      rw [Http.serve_some, Http.serve_some]
      rfl
  | _ => rfl

theorem run_cache_of_opened (empty : app.cache = none)
    (opened : actions = [] ∨ actions.getLast? = some .clearSettings) :
    (app.run actions).cache = none := by
  rcases opened with rfl | last
  · exact empty
  · obtain ⟨before, rfl⟩ := List.getLast?_eq_some_iff.mp last
    rw [run, List.foldl_append]
    rfl

/-- Readers between two clearings of a session that starts with nothing loaded. The settings that
they see are new, and what comes of a reader is told by what it sees. Whatever is no reader, like
settings that are loaded for one use, comes to the same whether settings are kept or not. -/
theorem settings_coherent_between_clears (app : App) (empty : app.cache = none)
    (before segment : List Action)
    (opened : before = [] ∨ before.getLast? = some .clearSettings)
    (unbroken : Action.clearSettings ∉ segment) :
    let reached := app.run before
    Coherent (reached.readings segment) ∧
    (∀ earlier ∈ app.readings before, ∀ later ∈ reached.readings segment, ∀ old new,
      earlier.seen = .ok old → later.seen = .ok new → old.serial ≠ new.serial) ∧
    (∀ current action loaded, action.reads = true → current.getSettings.1 = .ok loaded →
      Observes current loaded action (current.act action).1) ∧
    (∀ (current : App) action cache, action.reads = false →
      ({ current with cache := cache }.act action).1 = (current.act action).1) ∧
    (∀ (current : App) arguments, current.act (.loadSettings arguments) =
      (.loaded (Settings.load arguments current.surroundings), current)) := by
  have cleared := run_cache_of_opened empty opened
  refine ⟨readings_coherent cleared unbroken, ?_, ?_, ?_, ?_⟩
  · intro earlier first later second old new seenOld seenNew
    have start : Numbered 0 app := ⟨Nat.zero_le _, fun loaded kept => nomatch empty ▸ kept⟩
    have middle : Numbered (app.run before).loads (app.run before) :=
      ⟨Nat.le_refl _, fun loaded kept => nomatch cleared ▸ kept⟩
    have most := (start.readings before earlier first old seenOld).2
    have least := (middle.readings segment later second new seenNew).1
    omega
  · intro current action loaded reads seen
    exact act_observes reads seen
  · intro current action cache unread
    exact act_of_not_reads unread cache
  · intro current arguments
    rfl

/-- The first reader fails, the second one loads from the file, and the third one sees the same
although the file is gone. -/
theorem settings_coherent_after_failure :
    let before : List Action := [.getSettings, .clearSettings]
    let segment : List Action := [.setVariable "SAFEDIV_DEBUG" (some "maybe"), .create,
      .setVariable "SAFEDIV_DEBUG" none, .setDotenv (some "SAFEDIV_ENVIRONMENT=dev"), .create,
      .setDotenv none, .getSettings]
    let readings := (App.initial.run before).readings segment
    Coherent readings ∧ readings.map (fun reading =>
      reading.seen.toOption.map fun loaded => (loaded.serial, loaded.settings.environment)) =
        [none, some (1, "dev"), some (1, "dev")] := by
  refine ⟨?_, by decide +kernel⟩
  exact (settings_coherent_between_clears .initial rfl [.getSettings, .clearSettings] _ (.inr rfl)
    (by simp)).1

end App

end ZeroGuard
