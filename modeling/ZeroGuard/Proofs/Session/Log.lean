import ZeroGuard.Proofs.Log.Line
import ZeroGuard.Proofs.Session.Step

namespace ZeroGuard

/-- The records that an action leaves: those of its division, or its own. A start leaves one if it comes
to its end. -/
def Action.records (app : App) : Action → List Log.Record
  | divide _ given request =>
    match (app.divide given request).1 with
    | .error _ => []
    | .ok run => run.records
  | serve _ given perform message => (Http.serve given perform message app).1.records
  | start _ =>
    match app.getSettings.1 with
    | .error _ => []
    | .ok loaded =>
      match Log.levelNumber loaded.settings.logLevel with
      | .error _ => []
      | .ok _ => [App.startRecord loaded.settings]
  | emit _ record => [record]
  | _ => []

/-- The time that the lines of an action show. -/
def Action.stamp : Action → String
  | divide stamp _ _ | serve stamp _ _ _ | start stamp | emit stamp _ => stamp
  | _ => ""

def Outcome.output : Outcome → List Log.Entry
  | divided _ output | answered _ output | started output _ | emitted output => output
  | _ => []

namespace App

variable {app : App}

/-- What some actions in a row ask of the log. -/
def logEvents : List Action → App → List Log.Event
  | [], _ => []
  | action :: rest, app => (action.logEvent? app).toList ++ (app.after action).logEvents rest

theorem run_log (actions : List Action) (app : App) :
    (app.run actions).log = app.log.replay (app.logEvents actions) := by
  induction actions generalizing app with
  | nil => rfl
  | cons action rest ih =>
    have later : (app.run (action :: rest)).log =
        (app.after action).log.replay ((app.after action).logEvents rest) := ih (app.after action)
    rw [later, after_log, logEvents, Log.Root.replay, Log.Root.replay, List.foldl_append]
    cases action.logEvent? app <;> rfl

theorem logEvents_concat (actions : List Action) (action : Action) (app : App) :
    app.logEvents (actions ++ [action]) =
      app.logEvents actions ++ (action.logEvent? (app.run actions)).toList := by
  induction actions generalizing app with
  | nil => exact List.append_nil _
  | cons first rest ih =>
    rw [List.cons_append, logEvents, ih, logEvents, List.append_assoc]
    rfl

/-- A call that stops with a fault has installed its handler all the same. -/
theorem after_setup {action : Action} {level format : String}
    (asks : action.logEvent? app = some (.setup level format)) :
    (app.after action).log.handlers.getLast? = some (.installed (.ofName format)) := by
  rw [after_log, asks, Option.elim_some, Log.Root.apply, Log.Root.setup_handlers,
    List.getLast?_concat]

/-- An action puts out its records by the log that it leaves: a start sets up the log before it
announces itself, and no other action with records asks anything of the log. -/
theorem act_output (action : Action) (app : App) :
    (app.act action).1.output =
      (action.records app).flatMap ((app.after action).log.write action.stamp) := by
  cases action with
  | divide stamp given request =>
    rw [after_log, Action.records]
    cases called : (app.divide given request).1 with
    | error issues => simp only [act, Prod.map, called]; rfl
    | ok run => simp only [act, Prod.map, called]; rfl
  | serve stamp given perform message => rw [after_log]; rfl
  | start stamp =>
    cases seen : app.getSettings.1 with
    | error issues => simp only [act, Action.records, start_of_error stamp seen, seen]; rfl
    | ok loaded =>
      simp only [act, after_start, start_of_ok stamp seen, Action.records, seen]
      have fault_iff := Log.Root.setup_fault_iff loaded.settings.logLevel
        loaded.settings.logFormat.name app.log
      cases number : Log.levelNumber loaded.settings.logLevel with
      | error fault =>
        simp only [(fault_iff fault).mpr number, Option.isSome_some, if_true, Outcome.output,
          List.flatMap_nil]
      | ok level =>
        have none : (app.log.setup loaded.settings.logLevel
            loaded.settings.logFormat.name).2 = none := by
          rw [Option.eq_none_iff_forall_ne_some]
          intro fault stopped
          cases number.symm.trans ((fault_iff fault).mp stopped)
        simp only [none, Option.isSome_none, Bool.false_eq_true, if_false, Outcome.output,
          List.flatMap_cons, List.flatMap_nil, List.append_nil, Action.stamp]
  | emit stamp record => rfl
  | _ => rfl

/-- Handlers and level over a whole session that starts without handlers, and what the log puts out of
the records that an action leaves: one entry for each that passes the level, which shows the record. -/
theorem log_follows_session (app : App) (bare : app.log.handlers = []) (actions : List Action) :
    let events := app.logEvents actions
    let reached := app.run actions
    Log.Root.Follows app.log.level events reached.log ∧
    (reached.log.handlers.filterMap Log.Handler.format?).length =
      (if events.filterMap Log.Event.call? = [] then 0 else 1) ∧
    (∀ action level format, action.logEvent? reached = some (.setup level format) →
      ∃ form, (reached.after action).log.handlers.getLast? = some (.installed form) ∧
        (form = .json ↔ format = "json")) ∧
    (∀ level format fault, (reached.act (.setupLog level format)).1 = .levelSet (some fault) ↔
      Log.levelNumber level = .error fault) ∧
    ∀ action : Action,
      let log := (reached.after action).log
      let events := events ++ (action.logEvent? reached).toList
      events.filterMap Log.Event.call? ≠ [] →
        ∃ form, log.handlers.filterMap Log.Handler.format? = [form] ∧
          List.Forall₂ (Log.Puts action.stamp form)
            ((action.records reached).filter fun record => log.level ≤ record.level.number)
            (reached.act action).1.output := by
  intro events reached
  have follows (actions : List Action) :
      Log.Root.Follows app.log.level (app.logEvents actions) (app.run actions).log := by
    rw [run_log]
    exact Log.Root.replay_follows bare _
  refine ⟨follows actions, (follows actions).count_installed, ?_, ?_, ?_⟩
  · intro action level format asks
    exact ⟨_, after_setup asks, Log.LineFormat.ofName_eq_json_iff⟩
  · intro level format fault
    rw [← Log.Root.setup_fault_iff level format reached.log]
    exact ⟨fun same => Outcome.levelSet.inj same, fun same => congrArg Outcome.levelSet same⟩
  · intro action log events called
    have next : app.logEvents (actions ++ [action]) = events := logEvents_concat actions action app
    have after : app.run (actions ++ [action]) = reached.after action := by
      rw [run, List.foldl_append]
      rfl
    have count := (follows (actions ++ [action])).count_installed
    rw [next, after, if_neg called, List.length_eq_one_iff] at count
    obtain ⟨form, one⟩ := count
    refine ⟨form, one, ?_⟩
    rw [act_output, Log.Root.flatMap_write action.stamp _ one, List.forall₂_map_right_iff]
    exact List.forall₂_same.mpr fun record _ => Log.puts_entry action.stamp form record

/-- The second call stops with a fault: its handler is there, and the level is still that of the
first. What is put out then is one line in the form of the second. -/
theorem log_follows_failed_setup :
    let late : Log.Record := ⟨.debug, "app", .ok "late", none⟩
    let reached := App.initial.run [.addForeign 7, .setupLog "debug" "json", .addForeign 7,
      .setupLog "basic_format" "text", .addForeign 3]
    reached.log.handlers.filterMap Log.Handler.format? = [.text] ∧
      reached.log.handlers.filterMap Log.Handler.mark? = [7, 3] ∧ reached.log.level = 10 ∧
      (reached.act (.emit "noon" late)).1.output = [.written "noon DEBUG app: late\n"] := by
  intro late reached
  obtain ⟨follows, -, -, -, puts⟩ := log_follows_session .initial rfl [.addForeign 7,
    .setupLog "debug" "json", .addForeign 7, .setupLog "basic_format" "text", .addForeign 3]
  have installed : reached.log.handlers.filterMap Log.Handler.format? = [.text] :=
    follows.installed.trans (by decide +kernel)
  have level : reached.log.level = 10 := follows.level.trans (by decide +kernel)
  refine ⟨installed, follows.foreign.trans (by decide +kernel), level, ?_⟩
  obtain ⟨form, one, shown⟩ := puts (.emit "noon" late) (by decide +kernel)
  obtain rfl := List.singleton_inj.mp (installed.symm.trans one)
  have passing : [late].filter (fun record => reached.log.level ≤ record.level.number) = [late] := by
    rw [level]
    rfl
  have single : List.Forall₂ (Log.Puts "noon" .text) [late]
      (reached.act (.emit "noon" late)).1.output := passing ▸ shown
  obtain ⟨entry, others, puts, nothing, output⟩ := List.forall₂_cons_left_iff.mp single
  rw [output, List.forall₂_nil_left_iff.mp nothing, puts.eq_of_text rfl rfl]
  rfl

end App

end ZeroGuard
