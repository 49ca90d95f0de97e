import ZeroGuard.Http.Serve

namespace ZeroGuard

/-- What can be done to an application. A stamp is the time that its log lines show. Where settings
may be given and are not, those of the application are asked for. -/
inductive Action
  | setVariable (name : String) (value : Option String)
  | setDotenv (text : Option String)
  | clearSettings
  | getSettings
  | loadSettings (arguments : List (String × Json))
  | divide (stamp : String) (given : Option Settings) (request : Request)
  | serve (stamp : String) (given : Option Settings)
      (perform : NumericType → Request → Http.Served) (message : Http.Message)
  | create
  | start (stamp : String)
  | setupLog (level format : String)
  | addForeign (mark : Nat)
  | emit (stamp : String) (record : Log.Record)

/-- What comes of an action. An output is what the log puts out in its course. -/
inductive Outcome
  | changed
  | settings (seen : Except (List Issue) Loaded)
  | loaded (settings : Except (List Issue) Settings)
  | divided (run : Except (List Issue) Run) (output : List Log.Entry)
  | answered (answer : Http.Answer) (output : List Log.Entry)
  | described (description : Except (List Issue) App.Description)
  | started (output : List Log.Entry) (fault : Option App.StartFault)
  | levelSet (fault : Option Fault)
  | emitted (output : List Log.Entry)

namespace App

/-- The records that a call of the service leaves. -/
def recordsOf : Except (List Issue) Run → List Log.Record
  | .ok run => run.records
  | .error _ => []

/-- What the log puts out of records that come one after another. -/
def output (stamp : String) (records : List Log.Record) (app : App) : List Log.Entry :=
  records.flatMap (app.log.write stamp)

def act (action : Action) (app : App) : Outcome × App :=
  match action with
  | .setVariable name value => (.changed, app.setVariable name value)
  | .setDotenv text => (.changed, app.setDotenv text)
  | .clearSettings => (.changed, app.clearSettings)
  | .getSettings => app.getSettings.map .settings id
  | .loadSettings arguments => (.loaded (app.loadSettings arguments), app)
  | .divide stamp given request =>
    (app.divide given request).map (fun run => .divided run (app.output stamp (recordsOf run))) id
  | .serve stamp given perform message =>
    (Http.serve given perform message app).map
      (fun exchange => .answered exchange.answer (app.output stamp exchange.records)) id
  | .create => app.create.map .described id
  | .start stamp =>
    let started := app.start stamp
    (.started started.2.1 started.2.2, started.1)
  | .setupLog level format =>
    let setup := app.log.setup level format
    (.levelSet setup.2, { app with log := setup.1 })
  | .addForeign mark => (.changed, { app with log := app.log.addForeign mark })
  | .emit stamp record => (.emitted (app.output stamp [record]), app)

/-- The application after an action. -/
def after (action : Action) (app : App) : App :=
  (app.act action).2

/-- The application after some actions in a row. -/
def run (actions : List Action) (app : App) : App :=
  actions.foldl (fun app action => app.after action) app

end App

end ZeroGuard
