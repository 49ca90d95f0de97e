import ZeroGuard.Proofs.Log.Root
import ZeroGuard.Session

namespace ZeroGuard

namespace App

variable {app : App} {loaded : Loaded} {issues : List Issue} {settings : Settings}

theorem getSettings_of_kept (kept : app.cache = some loaded) :
    app.getSettings = (.ok loaded, app) := by
  simp only [getSettings, kept]

theorem getSettings_of_error (empty : app.cache = none)
    (failed : Settings.load [] app.surroundings = .error issues) :
    app.getSettings = (.error issues, app) := by
  simp only [getSettings, empty, failed]

theorem getSettings_of_ok (empty : app.cache = none)
    (run : Settings.load [] app.surroundings = .ok settings) :
    app.getSettings = (.ok ⟨app.loads, settings⟩,
      { app with cache := some ⟨app.loads, settings⟩, loads := app.loads + 1 }) := by
  simp only [getSettings, empty, run]

@[simp] theorem getSettings_log (app : App) : app.getSettings.2.log = app.log := by
  unfold getSettings
  split
  · rfl
  · split <;> rfl

theorem divide_none (request : Request) (app : App) :
    app.divide none request = (app.getSettings.1.map fun loaded =>
      Service.divide loaded.settings.defaultNumericType request, app.getSettings.2) := by
  unfold divide
  rcases app.getSettings with ⟨_ | loaded, after⟩ <;> rfl

theorem create_eq (app : App) :
    app.create = (app.getSettings.1.map fun loaded => describe loaded.settings,
      app.getSettings.2) := by
  unfold create
  rcases app.getSettings with ⟨_ | loaded, after⟩ <;> rfl

theorem start_of_error (stamp : String) (failed : app.getSettings.1 = .error issues) :
    app.start stamp = (app.getSettings.2, [], some (.settings issues)) := by
  unfold start
  generalize app.getSettings = read at failed ⊢
  obtain ⟨seen, after⟩ := read
  cases failed
  rfl

/-- A fault of the log ends a start before anything is written. -/
theorem start_of_ok (stamp : String) (seen : app.getSettings.1 = .ok loaded) :
    let setup := app.log.setup loaded.settings.logLevel loaded.settings.logFormat.name
    app.start stamp = ({ app.getSettings.2 with log := setup.1 },
      if setup.2.isSome then [] else setup.1.write stamp (startRecord loaded.settings),
      setup.2.map .log) := by
  rw [← getSettings_log app]
  unfold start
  generalize app.getSettings = read at seen ⊢
  obtain ⟨_, after⟩ := read
  cases seen
  dsimp only
  rcases after.log.setup loaded.settings.logLevel loaded.settings.logFormat.name with
    ⟨log, _ | fault⟩ <;> rfl

end App

namespace Http

variable (perform : NumericType → Request → Served) (message : Message)

/-- Whether a request comes to the point where settings are asked for. -/
def asksSettings (message : Message) : Bool :=
  match route message with
  | .ok .health => true
  | .ok .divide => (readPayload message).isOk
  | .error _ => false

/-- What the handling of a request comes to, given the settings that it reads. -/
def handleWith (settings : Except (List Issue) Settings) : Served :=
  match route message with
  | .error answer => ⟨.ok answer, []⟩
  | .ok .health => ⟨serveHealth settings, []⟩
  | .ok .divide =>
    match readPayload message with
    | .error reply => ⟨reply, []⟩
    | .ok payload => serveDivide settings perform payload

/-- What comes of a request in an application, given the settings that it reads. -/
def serveWith (debug : Bool) (settings : Except (List Issue) Settings) : Exchange :=
  (handleWith perform message settings).settle debug message.accept

theorem handle_none (app : App) : handle none perform message app =
    (handleWith perform message (app.getSettings.1.map Loaded.settings),
      if asksSettings message then app.getSettings.2 else app) := by
  unfold handle handleWith asksSettings
  rcases route message with answer | _ | _
  · rfl
  · rcases readPayload message with reply | payload <;> rfl
  · rfl

theorem handle_some (settings : Settings) (app : App) :
    handle (some settings) perform message app =
      (handleWith perform message (.ok settings), app) := by
  unfold handle handleWith
  rcases route message with answer | _ | _
  · rfl
  · rcases readPayload message with reply | payload <;> rfl
  · rfl

theorem serve_none (app : App) : serve none perform message app =
    (serveWith perform message app.debug (app.getSettings.1.map Loaded.settings),
      if asksSettings message then app.getSettings.2 else app) := by
  rw [serve, handle_none]
  rfl

theorem serve_some (settings : Settings) (app : App) :
    serve (some settings) perform message app =
      (serveWith perform message app.debug (.ok settings), app) := by
  rw [serve, handle_some]
  rfl

theorem handleWith_of_not_asks (unread : asksSettings message = false)
    (first second : Except (List Issue) Settings) :
    handleWith perform message first = handleWith perform message second := by
  unfold asksSettings at unread
  unfold handleWith
  generalize route message = routed at unread ⊢
  rcases routed with answer | _ | _
  · rfl
  · dsimp only at unread ⊢
    generalize readPayload message = read at unread ⊢
    rcases read with reply | payload
    · rfl
    · cases unread
  · cases unread

end Http

/-- Whether an action reads the settings of the application. -/
def Action.reads : Action → Bool
  | getSettings | create | start _ | divide _ none _ => true
  | serve _ none _ message => Http.asksSettings message
  | _ => false

/-- What an action asks of the log of an application. -/
def Action.logEvent? (app : App) : Action → Option Log.Event
  | setupLog level format => some (.setup level format)
  | start _ => app.getSettings.1.toOption.map fun loaded =>
      .setup loaded.settings.logLevel loaded.settings.logFormat.name
  | addForeign mark => some (.foreign mark)
  | _ => none

namespace App

variable {action : Action}

theorem after_create (app : App) : app.after .create = app.create.2 := by
  rw [after, act, Prod.map_snd, id_eq]

theorem after_divide (stamp : String) (given : Option Settings) (request : Request) (app : App) :
    app.after (.divide stamp given request) = (app.divide given request).2 := by
  rw [after, act, Prod.map_snd, id_eq]

theorem after_serve (stamp : String) (given : Option Settings)
    (perform : NumericType → Request → Http.Served) (message : Http.Message) (app : App) :
    app.after (.serve stamp given perform message) = (Http.serve given perform message app).2 := by
  rw [after, act, Prod.map_snd, id_eq]

theorem after_start (stamp : String) (app : App) : app.after (.start stamp) = (app.start stamp).1 := by
  rw [after, act]

/-- A reader leaves what reading the settings leaves, whatever it does to the log. -/
theorem after_of_reads (app : App) (reads : action.reads = true) :
    (app.after action).cache = app.getSettings.2.cache ∧
      (app.after action).loads = app.getSettings.2.loads := by
  have same : ∃ log, app.after action = { app.getSettings.2 with log := log } := by
    cases action with
    | getSettings => exact ⟨app.getSettings.2.log, rfl⟩
    | create =>
      rw [after_create, create_eq]
      exact ⟨app.getSettings.2.log, rfl⟩
    | divide stamp given request =>
      cases given with
      | none =>
        rw [after_divide, divide_none]
        exact ⟨app.getSettings.2.log, rfl⟩
      | some settings => cases reads
    | serve stamp given perform message =>
      cases given with
      | none =>
        have asks : Http.asksSettings message = true := reads
        rw [after_serve, Http.serve_none, if_pos asks]
        exact ⟨app.getSettings.2.log, rfl⟩
      | some settings => cases reads
    | start stamp =>
      cases seen : app.getSettings.1 with
      | error issues =>
        rw [after_start, start_of_error stamp seen]
        exact ⟨app.getSettings.2.log, rfl⟩
      | ok loaded =>
        rw [after_start, start_of_ok stamp seen]
        exact ⟨_, rfl⟩
    | _ => cases reads
  obtain ⟨log, same⟩ := same
  rw [same]
  exact ⟨rfl, rfl⟩

theorem after_of_not_reads (app : App) (unread : action.reads = false)
    (kept : action ≠ .clearSettings) :
    (app.after action).cache = app.cache ∧ (app.after action).loads = app.loads := by
  cases action with
  | clearSettings => exact absurd rfl kept
  | getSettings | create | start => cases unread
  | divide stamp given request =>
    cases given with
    | none => cases unread
    | some settings => exact ⟨rfl, rfl⟩
  | serve stamp given perform message =>
    have same : app.after (.serve stamp given perform message) = app := by
      cases given with
      | none =>
        have asks : Http.asksSettings message = false := unread
        rw [after_serve, Http.serve_none, asks]
        rfl
      | some settings => rw [after_serve, Http.serve_some]
    rw [same]
    exact ⟨rfl, rfl⟩
  | setupLog level format => simp only [after, act, and_self]
  | _ => exact ⟨rfl, rfl⟩

theorem after_log (action : Action) (app : App) :
    (app.after action).log = (action.logEvent? app).elim app.log app.log.apply := by
  have kept := getSettings_log app
  cases action with
  | getSettings => exact kept
  | create =>
    rw [after_create, create_eq, kept]
    rfl
  | divide stamp given request =>
    cases given with
    | none =>
      rw [after_divide, divide_none, kept]
      rfl
    | some settings => rfl
  | serve stamp given perform message =>
    cases given with
    | none =>
      rw [after_serve, Http.serve_none]
      dsimp only
      split_ifs
      · exact kept
      · rfl
    | some settings =>
      rw [after_serve, Http.serve_some]
      rfl
  | start stamp =>
    cases seen : app.getSettings.1 with
    | error issues =>
      rw [after_start, start_of_error stamp seen, Action.logEvent?, seen]
      exact kept
    | ok loaded =>
      rw [after_start, start_of_ok stamp seen, Action.logEvent?, seen]
      rfl
  | _ => rfl

end App

end ZeroGuard
