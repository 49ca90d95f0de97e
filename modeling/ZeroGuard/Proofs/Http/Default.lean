import ZeroGuard.Proofs.Http.Grammar
import ZeroGuard.Proofs.Session.Step

namespace ZeroGuard

theorem App.getSettings_again (app : App) : app.getSettings.2.getSettings.1 = app.getSettings.1 := by
  cases cache : app.cache with
  | some loaded =>
    have read := getSettings_of_kept cache
    rw [read, read]
  | none =>
    cases run : Settings.load [] app.surroundings with
    | error issues =>
      have read := getSettings_of_error cache run
      rw [read, read]
    | ok settings =>
      rw [getSettings_of_ok cache run]
      exact congrArg Prod.fst (getSettings_of_kept rfl)

@[simp] theorem App.getSettings_debug (app : App) : app.getSettings.2.debug = app.debug := by
  unfold getSettings
  split
  · rfl
  · split <;> rfl

/-- A process comes up with the settings that its surroundings give, and keeps them. -/
theorem App.launch_of_load {surroundings : Surroundings} {settings : Settings}
    (run : Settings.load [] surroundings = .ok settings) :
    launch surroundings = .ok ⟨surroundings, some ⟨0, settings⟩, 1, .initial, settings.debug⟩ := by
  have read : ({ initial with surroundings := surroundings } : App).getSettings = (.ok ⟨0, settings⟩,
      ⟨surroundings, some ⟨0, settings⟩, 1, .initial, false⟩) := getSettings_of_ok rfl run
  rw [launch, create_eq, read]
  rfl

theorem App.launch_ok {surroundings : Surroundings} {process : App}
    (launched : launch surroundings = .ok process) :
    ∃ settings, Settings.load [] surroundings = .ok settings ∧ process.debug = settings.debug ∧
      process.getSettings.1 = .ok ⟨0, settings⟩ := by
  cases run : Settings.load [] surroundings with
  | error issues =>
    have read : ({ initial with surroundings := surroundings } : App).getSettings =
        (.error issues, _) := getSettings_of_error rfl run
    rw [launch, create_eq, read] at launched
    cases launched
  | ok settings =>
    rw [launch_of_load run] at launched
    cases launched
    exact ⟨settings, rfl, rfl, rfl⟩

/-- A call reads the type of the request and the default only through the type that they come to. -/
theorem Service.divide_congr {default other : NumericType} {request : Request}
    {type : Option NumericType} (same : request.numericType.getD default = type.getD other) :
    divide default request = divide other { request with numericType := type } := by
  simp only [divide, same]

namespace Http

variable {app app' : App} {given given' : Option Settings} {settings other : Settings}
  {message : Message} {body named : Json} {request : Request} {type : NumericType}
  {debug debug' : Bool} {accept : Option String}

theorem Supplied.divide (supplied : Supplied app given settings) (request : Request) :
    (app.divide given request).1 = .ok (Service.divide settings.defaultNumericType request) := by
  cases supplied with
  | given => rfl
  | kept seen =>
    rw [App.divide_none, seen]
    rfl

theorem Supplied.exchange (supplied : Supplied app given settings)
    (perform : NumericType → Request → Served) (message : Message) :
    (serve given perform message app).1 = serveWith perform message app.debug (.ok settings) := by
  cases supplied with
  | given => rw [serve_some]
  | kept seen =>
    rw [serve_none, seen]
    rfl

/-- Serving a request leaves the settings that the next one is served with. -/
theorem Supplied.after (supplied : Supplied app given settings)
    (perform : NumericType → Request → Served) (message : Message) :
    Supplied (serve given perform message app).2 given settings := by
  cases supplied with
  | given => exact .given settings
  | kept seen =>
    rw [serve_none]
    dsimp only
    split_ifs
    · exact .kept ((App.getSettings_again app).trans seen)
    · exact .kept seen

theorem debug_serve (given : Option Settings) (perform : NumericType → Request → Served)
    (message : Message) (app : App) : (serve given perform message app).2.debug = app.debug := by
  cases given with
  | some settings => rw [serve_some]
  | none =>
    rw [serve_none]
    dsimp only
    split_ifs
    · exact App.getSettings_debug app
    · rfl

theorem handleWith_divide (posted : message.method = "POST") (path : message.path = "/divide")
    (perform : NumericType → Request → Served) (settings : Settings) :
    handleWith perform message (.ok settings) =
      match readPayload message >>= checkPayload with
      | .error reply => ⟨reply, []⟩
      | .ok request => perform settings.defaultNumericType request := by
  rw [handleWith, route_divide posted path]
  rcases readPayload message with reply | payload
  · rfl
  · rfl

/-- Replies to a request with whatever is made of the whole run of the service. -/
def performWith (observe : Run → Reply) (default : NumericType) (request : Request) : Served :=
  let run := Service.divide default request
  ⟨observe run, run.records⟩

theorem perform_eq : perform = performWith fun run => answerOutcome run.outcome := rfl

/-- What is sent and what is left in the log if a request comes to a run of the service. -/
def exchangeOf (debug : Bool) (accept : Option String) (observe : Run → Reply) (run : Run) :
    Exchange :=
  ⟨(observe run).settle debug accept, run.records⟩

/-- A process that has just come up is served with the settings of its surroundings. -/
theorem Supplied.launched (surroundings : Surroundings) (settings : Settings) :
    Supplied ⟨surroundings, some ⟨0, settings⟩, 1, .initial, settings.debug⟩ none settings :=
  have seen : App.getSettings ⟨surroundings, some ⟨0, settings⟩, 1, .initial, settings.debug⟩ =
      (.ok ⟨0, settings⟩, _) := App.getSettings_of_kept rfl
  .kept (congrArg Prod.fst seen)

/-- A message that posts a document to be divided. -/
structure Posts (message : Message) (body : Json) : Prop where
  method : message.method = "POST"
  path : message.path = "/divide"
  decoded : readPayload message = .ok (.document body)

theorem Supplied.exchange_posted (supplied : Supplied app given settings)
    (posts : Posts message body) (valid : checkPayload (.document body) = .ok request)
    (observe : Run → Reply) :
    (serve given (performWith observe) message app).1 = exchangeOf app.debug message.accept observe
      (Service.divide settings.defaultNumericType request) := by
  rw [supplied.exchange, serveWith, handleWith_divide posts.method posts.path, posts.decoded]
  simp only [bind, Except.bind, valid]
  rfl

/-- A document without a type, and the same one with a type. -/
structure NamedAs (type : NumericType) (body named : Json) : Prop where
  a : named.field? "a" = body.field? "a"
  b : named.field? "b" = body.field? "b"
  operator : named.field? "operator" = body.field? "operator"
  unnamed : body.field? "numeric_type" = none ∨ body.field? "numeric_type" = some .null
  name : named.field? "numeric_type" = some (.text type.name)

theorem NamedAs.valid (version : NamedAs type body named)
    (valid : checkPayload (.document body) = .ok request) :
    request.numericType = none ∧
      checkPayload (.document named) = .ok { request with numericType := some type } := by
  rw [checkPayload_document_iff, Candidate.validate_ofJson_iff] at valid ⊢
  obtain ⟨first, second, names, performs⟩ := valid
  have unnamed : request.numericType = none := by
    generalize request.numericType = type at names ⊢
    rcases version.unnamed with absent | null
    · rw [absent] at names
      cases names
      rfl
    · rw [null] at names
      cases names
      rfl
  refine ⟨unnamed, version.a.trans first, version.b.trans second, ?_, ?_⟩
  · rw [version.name]
    exact .name type
  · rw [version.operator]
    exact performs

/-- What two applications make of one message. It is the same, but for the account of an escape where
one of them alone was built for debugging. -/
inductive Matches (debug debug' : Bool) : Exchange → Exchange → Prop
  | same (exchange : Exchange) : Matches debug debug' exchange exchange
  | escaped (accept : Option String) (escape : Escape) (records : List Log.Record) :
      debug ≠ debug' → Matches debug debug' ⟨.ofEscape debug accept escape, records⟩
        ⟨.ofEscape debug' accept escape, records⟩

theorem Matches.eq {exchange exchange' : Exchange} (same : debug = debug')
    (found : Matches debug debug' exchange exchange') : exchange = exchange' := by
  cases found with
  | same => rfl
  | escaped accept escape records differ => exact absurd same differ

theorem settle_matches (debug debug' : Bool) (accept : Option String) (served : Served) :
    Matches debug debug' (served.settle debug accept) (served.settle debug' accept) := by
  obtain ⟨escape | answer, records⟩ := served
  · by_cases same : debug = debug'
    · subst same
      exact .same _
    · exact .escaped accept escape records same
  · exact .same _

/-- What comes of messages one after another. -/
def exchanges (given : Option Settings) (perform : NumericType → Request → Served) :
    List Message → App → List Exchange
  | [], _ => []
  | message :: rest, app =>
    let served := serve given perform message app
    served.1 :: exchanges given perform rest served.2

/-- The default type is all that a division reads of the settings, and it is the same before every
message. -/
theorem exchanges_match (first : Supplied app given settings) (second : Supplied app' given' other)
    (same : settings.defaultNumericType = other.defaultNumericType)
    (perform : NumericType → Request → Served) (messages : List Message)
    (posted : ∀ message ∈ messages, message.method = "POST" ∧ message.path = "/divide") :
    List.Forall₂ (Matches app.debug app'.debug) (exchanges given perform messages app)
      (exchanges given' perform messages app') := by
  induction messages generalizing app app' with
  | nil => exact .nil
  | cons message rest ih =>
    obtain ⟨method, path⟩ := posted message List.mem_cons_self
    have handled : handleWith perform message (.ok settings) =
        handleWith perform message (.ok other) := by
      rw [handleWith_divide method path, handleWith_divide method path, same]
    have later := ih (first.after perform message) (second.after perform message)
      fun message member => posted message (List.mem_cons_of_mem _ member)
    rw [debug_serve, debug_serve] at later
    refine .cons ?_ later
    rw [first.exchange, second.exchange, serveWith, serveWith, handled]
    exact settle_matches ..

/-- A type that is left out stands for the default, in calls of the service and in bodies that are
posted, and beside a type that is named no setting counts. Processes with equal defaults answer alike,
but for the account of an escape, which only those give that were built for debugging. -/
theorem default_type_is_explicit (first : Supplied app given settings)
    (second : Supplied app' given' other) :
    (∀ a b operator, ∃ run, (app.divide given ⟨a, b, none, operator⟩).1 = .ok run ∧
      (app'.divide given' ⟨a, b, some settings.defaultNumericType, operator⟩).1 = .ok run) ∧
    (∀ a b type operator, ∃ run, (app.divide given ⟨a, b, some type, operator⟩).1 = .ok run ∧
      (app'.divide given' ⟨a, b, some type, operator⟩).1 = .ok run) ∧
    (∀ message body message' named request, Posts message body → Posts message' named →
      checkPayload (.document body) = .ok request →
      NamedAs settings.defaultNumericType body named →
      ∃ run, ∀ observe,
        (serve given (performWith observe) message app).1 =
          exchangeOf app.debug message.accept observe run ∧
        (serve given' (performWith observe) message' app').1 =
          exchangeOf app'.debug message'.accept observe run) ∧
    (∀ message body request type, Posts message body →
      checkPayload (.document body) = .ok request → request.numericType = some type →
      ∃ run, ∀ observe,
        (serve given (performWith observe) message app).1 =
          exchangeOf app.debug message.accept observe run ∧
        (serve given' (performWith observe) message app').1 =
          exchangeOf app'.debug message.accept observe run) ∧
    (settings.defaultNumericType = other.defaultNumericType → ∀ observe messages,
      (∀ message ∈ messages, message.method = "POST" ∧ message.path = "/divide") →
      List.Forall₂ (Matches app.debug app'.debug)
          (exchanges given (performWith observe) messages app)
          (exchanges given' (performWith observe) messages app') ∧
        (app.debug = app'.debug → exchanges given (performWith observe) messages app =
          exchanges given' (performWith observe) messages app')) ∧
    ∀ surroundings process, App.launch surroundings = .ok process →
      ∃ resolved, Settings.load [] surroundings = .ok resolved ∧
        process.debug = resolved.debug ∧ Supplied process none resolved := by
  refine ⟨?_, ?_, ?_, ?_, ?_, ?_⟩
  · intro a b operator
    exact ⟨_, first.divide _, second.divide _⟩
  · intro a b type operator
    exact ⟨_, first.divide _, second.divide _⟩
  · intro message body message' named request posts posts' valid version
    obtain ⟨unnamed, valid'⟩ := version.valid valid
    refine ⟨_, fun observe => ⟨first.exchange_posted posts valid observe, ?_⟩⟩
    have effective : request.numericType.getD settings.defaultNumericType =
        (some settings.defaultNumericType).getD other.defaultNumericType := by
      rw [unnamed, Option.getD_none, Option.getD_some]
    rw [second.exchange_posted posts' valid' observe, ← Service.divide_congr effective]
  · intro message body request type posts valid names
    refine ⟨_, fun observe => ⟨first.exchange_posted posts valid observe, ?_⟩⟩
    have effective : request.numericType.getD settings.defaultNumericType =
        request.numericType.getD other.defaultNumericType := by
      rw [names, Option.getD_some, Option.getD_some]
    rw [second.exchange_posted posts valid observe, ← Service.divide_congr effective]
  · intro same observe messages posted
    have found := exchanges_match first second same (performWith observe) messages posted
    refine ⟨found, fun debug => ?_⟩
    rw [← List.forall₂_eq_eq_eq]
    exact found.imp fun _ _ => Matches.eq debug
  · intro surroundings process launched
    obtain ⟨resolved, run, debug, seen⟩ := App.launch_ok launched
    exact ⟨resolved, run, debug, .kept seen⟩

/-- Two processes that take their default from different sources and differ in other settings. -/
theorem same_answers_of_same_default :
    let message : Message := ⟨"POST", "/divide", "localhost", none, some "application/json", none,
      some "\x7b\"a\": -7, \"b\": \"2\"\x7d", 900⟩
    let terse : Surroundings := ⟨[("SAFEDIV_DEFAULT_NUMERIC_TYPE", "fraction")], none⟩
    let verbose : Surroundings := ⟨[("SAFEDIV_DEBUG", "yes")],
      some "SAFEDIV_DEFAULT_NUMERIC_TYPE=fraction\nSAFEDIV_LOG_LEVEL=DEBUG"⟩
    ∃ process process', App.launch terse = .ok process ∧ App.launch verbose = .ok process' ∧
      List.Forall₂ (Matches false true) (exchanges none perform [message, message] process)
        (exchanges none perform [message, message] process') ∧
      (exchanges none perform [message, message] process).map (·.answer.status) = [200, 200] := by
  intro message terse verbose
  let settings : Settings := { Settings.default with defaultNumericType := .fraction }
  have first : (Settings.load [] terse).toOption = some settings := by decide +kernel
  have second : (Settings.load [] verbose).toOption =
      some { settings with debug := true, logLevel := "DEBUG" } := by decide +kernel
  refine ⟨_, _, App.launch_of_load (toOption_eq_some_iff.mp first),
    App.launch_of_load (toOption_eq_some_iff.mp second), ?_, by decide +kernel⟩
  have explicit := default_type_is_explicit (.launched terse settings)
    (.launched verbose { settings with debug := true, logLevel := "DEBUG" })
  rw [perform_eq]
  refine (explicit.2.2.2.2.1 rfl _ [message, message] ?_).1
  intro posted member
  obtain rfl : posted = message := by simpa using member
  exact ⟨rfl, by decide⟩

/-- A quotient with too many digits, asked of two processes that differ in whether they were built for
debugging. Both fail, and one of them shows how. -/
theorem debugging_shows_in_answer :
    let message : Message := ⟨"POST", "/divide", "localhost", none, some "application/json", none,
      some "\x7b\"a\": \"1e4300\", \"b\": 1, \"numeric_type\": \"fraction\"\x7d", 900⟩
    ∃ process process' settings settings',
      App.launch .empty = .ok process ∧ Supplied process none settings ∧
      App.launch ⟨[("SAFEDIV_DEBUG", "1")], none⟩ = .ok process' ∧
      Supplied process' none settings' ∧
      settings.defaultNumericType = settings'.defaultNumericType ∧
      (readPayload message >>= checkPayload).isOk = true ∧
      (serve none perform message process).1.answer ≠
        (serve none perform message process').1.answer := by
  intro message
  have quiet : (Settings.load [] .empty).toOption = some .default := by decide +kernel
  have verbose : (Settings.load [] ⟨[("SAFEDIV_DEBUG", "1")], none⟩).toOption =
      some { Settings.default with debug := true } := by decide +kernel
  refine ⟨_, _, _, _, App.launch_of_load (toOption_eq_some_iff.mp quiet),
    .launched _ _, App.launch_of_load (toOption_eq_some_iff.mp verbose),
    .launched _ _, rfl, by decide +kernel, ?_⟩
  let accounts (answer : Answer) : Bool :=
    match answer.body with
    | .account _ _ => true
    | _ => false
  intro same
  have shown := congrArg accounts same
  revert shown
  decide +kernel

end Http

end ZeroGuard
