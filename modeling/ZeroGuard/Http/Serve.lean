import ZeroGuard.App
import ZeroGuard.Candidate
import ZeroGuard.Http.Route
import ZeroGuard.Json.Reader
import ZeroGuard.Text.Blank

namespace ZeroGuard.Http

/-- Whether a content type announces JSON: `application/json` or `application/` with a suffix
`+json`, in any case and with any parameters. -/
def isJsonType (contentType : String) : Bool :=
  let kind := (trimBoth isBlank (contentType.toList.takeWhile (· ≠ ';'))).map Char.toLower
  let main := kind.takeWhile (· ≠ '/')
  let sub := (kind.dropWhile (· ≠ '/')).drop 1
  kind.count '/' = 1 && main = "application".toList &&
    (sub = "json".toList || "+json".toList.isSuffixOf sub)

/-- What a request brings in its body. -/
inductive Payload
  | absent
  | document (body : Json)
  /-- A body that is not announced as JSON. -/
  | raw (body : String)

/-- The complaint about a body that is not JSON, with the place of the problem. -/
def malformedBody (problem : Json.Problem) (position : Nat) : Reply :=
  refuse [⟨"json_invalid", [.text "body", .int position], "JSON decode error", .object [],
    some ("error", problem.message)⟩]

/-- Reads the body. A problem of JSON is refused at its place; a body that is JSON but cannot be
held is a bad request. -/
def readPayload (message : Message) : Except Reply Payload :=
  match message.body with
  | none => .ok .absent
  | some body =>
    if body.isEmpty then .ok .absent
    else if isJsonType (message.contentType.getD "") then
      let chars := withoutMark body.toList
      match Json.readChars? message.depth chars with
      | .ok .null => .ok .absent
      | .ok document => .ok (.document document)
      | .error (.malformed problem rest) =>
        .error (malformedBody problem (chars.length - rest.length))
      | .error _ => .error (.ok (.detail 400 "There was an error parsing the body"))
    else .ok (.raw body)

/-- A complaint about the body as a whole. -/
def bodyComplaint (kind : IssueKind) (input : Json) : Complaint :=
  ⟨kind.name, [.text "body"], kind.message, input, none⟩

/-- A complaint about a field. What is missing is missing from the whole body. -/
def fieldComplaint (body : Json) (issue : Issue) : Complaint :=
  let input := match issue.kind with
    | .missing => body
    | _ => (issue.location.head?.bind fun name => body.field? name).getD .null
  let context := match issue.kind with
    | .choice expected => some ("expected", expected)
    | _ => none
  let location := .text "body" :: issue.location.map Json.text
  ⟨issue.kind.name, location, issue.kind.message, input, context⟩

/-- The request that a payload makes. -/
def checkPayload : Payload → Except Reply Request
  | .absent => .error (refuse [bodyComplaint .missing .null])
  | .raw body => .error (refuse [bodyComplaint .fields (.text body)])
  | .document (.object fields) =>
    let body := Json.object fields
    match (Candidate.ofJson body).validate with
    | .ok request => .ok request
    | .error issues => .error (refuse (issues.map (fieldComplaint body)))
  | .document body => .error (refuse [bodyComplaint .fields body])

def responseDocument (response : Response) : Json :=
  .object [("present", .bool response.present),
    ("value", (response.value.map Json.text).getD .null),
    ("numeric_type", .text response.numericType.name), ("operator", .text response.operator.name)]

/-- The reply to what the service made of a request. -/
def answerOutcome : Except Fault (Except Failure Response) → Reply
  | .ok (.ok response) => .ok (.json 200 (responseDocument response))
  | .ok (.error failure) => .ok (.detail (failureStatus (some failure.code)) failure.message)
  | .error fault => .error (.fault fault)

/-- The reply to a value that stands in for the result of the service. -/
def answerValue : Value → Reply
  | .ok _ => .error .response
  | .err _ => .error .failure
  | _ => .ok (.detail 500 "Unexpected result type from divide.")

/-- A request that has been handled, with the records that it has left. -/
structure Served where
  reply : Reply
  records : List Log.Record

/-- Answers a request by the division service. -/
def perform (default : NumericType) (request : Request) : Served :=
  let run := Service.divide default request
  ⟨answerOutcome run.outcome, run.records⟩

/-- Serves a division. `settings` are asked for once the body has been read, and before it is
checked; `perform` is what answers the request. -/
def serveDivide (settings : Except (List Issue) Settings)
    (perform : NumericType → Request → Served) (payload : Payload) : Served :=
  match settings with
  | .error _ => ⟨.error .settings, []⟩
  | .ok settings =>
    match checkPayload payload with
    | .error reply => ⟨reply, []⟩
    | .ok request => perform settings.defaultNumericType request

def healthDocument (settings : Settings) : Json :=
  .object [("status", .text "ok"), ("app_version", .text settings.appVersion),
    ("environment", .text settings.environment)]

def serveHealth : Except (List Issue) Settings → Reply
  | .error _ => .error .settings
  | .ok settings => .ok (.json 200 (healthDocument settings))

/-- Handles a request with settings from `given`, or else with those of the application. -/
def handle (given : Option Settings) (perform : NumericType → Request → Served)
    (message : Message) (app : App) : Served × App :=
  let settings : Except (List Issue) Settings × App :=
    match given with
    | some settings => (.ok settings, app)
    | none =>
      let (loaded, after) := app.getSettings
      (loaded.map Loaded.settings, after)
  match route message with
  | .error answer => (⟨.ok answer, []⟩, app)
  | .ok .health => (⟨serveHealth settings.1, []⟩, settings.2)
  | .ok .divide =>
    match readPayload message with
    | .error reply => (⟨reply, []⟩, app)
    | .ok payload => (serveDivide settings.1 perform payload, settings.2)

/-- What comes of a request: the answer that is sent, and the records that were left for it. -/
structure Exchange where
  answer : Answer
  records : List Log.Record

def Served.settle (debug : Bool) (accept : Option String) (served : Served) : Exchange :=
  ⟨served.reply.settle debug accept, served.records⟩

/-- Serves a request. Whether an escape is accounted for was settled when the application was built,
and does not depend on `given`. -/
def serve (given : Option Settings) (perform : NumericType → Request → Served) (message : Message)
    (app : App) : Exchange × App :=
  (handle given perform message app).map (Served.settle app.debug message.accept) id

end ZeroGuard.Http
