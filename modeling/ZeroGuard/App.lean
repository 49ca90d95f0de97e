import ZeroGuard.Log.Root
import ZeroGuard.Service
import ZeroGuard.Settings.Load

namespace ZeroGuard

/-- Settings with the number of the load that made them. -/
structure Loaded where
  serial : Nat
  settings : Settings
deriving DecidableEq, Repr

/-- A process with the application that it serves. Settings that it has loaded are kept until they are
cleared, so that every reader in between sees the same. -/
structure App where
  surroundings : Surroundings
  cache : Option Loaded
  /-- How many loads have succeeded. -/
  loads : Nat
  log : Log.Root
  /-- Whether the application that is served was built for debugging. -/
  debug : Bool

namespace App

def initial : App := ⟨.empty, none, 0, .initial, false⟩

def setVariable (name : String) (value : Option String) (app : App) : App :=
  { app with surroundings := app.surroundings.setVariable name value }

def setDotenv (text : Option String) (app : App) : App :=
  { app with surroundings := ⟨app.surroundings.bindings, text⟩ }

def clearSettings (app : App) : App :=
  { app with cache := none }

/-- The settings as every reader sees them: those that are kept, or else freshly loaded ones. A load
that fails keeps nothing. -/
def getSettings (app : App) : Except (List Issue) Loaded × App :=
  match app.cache with
  | some loaded => (.ok loaded, app)
  | none =>
    match Settings.load [] app.surroundings with
    | .error issues => (.error issues, app)
    | .ok settings =>
      let loaded : Loaded := ⟨app.loads, settings⟩
      (.ok loaded, { app with cache := some loaded, loads := app.loads + 1 })

/-- Settings for one use, which are neither taken from nor put into the cache. -/
def loadSettings (arguments : List (String × Json)) (app : App) : Except (List Issue) Settings :=
  Settings.load arguments app.surroundings

/-- Divides with given settings, or else with those of the application. -/
def divide (given : Option Settings) (request : Request) (app : App) :
    Except (List Issue) Run × App :=
  match given with
  | some settings => (.ok (Service.divide settings.defaultNumericType request), app)
  | none =>
    match app.getSettings with
    | (.error issues, app) => (.error issues, app)
    | (.ok loaded, app) =>
      (.ok (Service.divide loaded.settings.defaultNumericType request), app)

/-- What the application says about itself. -/
structure Description where
  title : String
  description : String
  version : String
  debug : Bool
  /-- The paths with their methods. -/
  paths : List (String × List String)

def describe (settings : Settings) : Description where
  title := settings.appTitle
  description := settings.appDescription
  version := settings.appVersion
  debug := settings.debug
  paths := [("/divide", ["post"]), ("/health/", ["get"])]

/-- Builds the application from its settings. -/
def create (app : App) : Except (List Issue) Description × App :=
  match app.getSettings with
  | (.error issues, app) => (.error issues, app)
  | (.ok loaded, app) => (.ok (describe loaded.settings), app)

/-- The process once it has come up, which is when the application that it serves is built. -/
def launch (surroundings : Surroundings) : Except (List Issue) App :=
  let created := { initial with surroundings := surroundings }.create
  created.1.map fun description => { created.2 with debug := description.debug }

/-- Why a start did not come to its end. -/
inductive StartFault
  | settings (issues : List Issue)
  | log (fault : Fault)

def startRecord (settings : Settings) : Log.Record :=
  ⟨.info, "app.main", .ok ("Starting " ++ settings.appTitle ++ " " ++ settings.appVersion ++
    " (environment=" ++ settings.environment ++ ")"), none⟩

/-- Starts the application: reads its settings, sets up the log by them and announces itself. The
entries are what the log puts out. -/
def start (stamp : String) (app : App) : App × List Log.Entry × Option StartFault :=
  match app.getSettings with
  | (.error issues, app) => (app, [], some (.settings issues))
  | (.ok loaded, app) =>
    match app.log.setup loaded.settings.logLevel loaded.settings.logFormat.name with
    | (log, some fault) => ({ app with log := log }, [], some (.log fault))
    | (log, none) =>
      ({ app with log := log }, log.write stamp (startRecord loaded.settings), none)

end App

end ZeroGuard
