import ZeroGuard.Http.Serve
import ZeroGuard.Proofs.Candidate
import ZeroGuard.Proofs.Json.Short
import ZeroGuard.Proofs.Service.Escape

namespace ZeroGuard

theorem Json.Short.operand {raw : Operand} (short : raw.json.Short) : raw.Short := by
  rintro n rfl
  cases short with
  | int bound => exact bound

namespace Http

variable {given : Option Settings} {app : App} {message : Message} {settings : Settings}
  {payload : Payload} {request : Request}

/-- The settings that requests are served with: those that are given, or else those of the
application. -/
inductive Supplied (app : App) : Option Settings → Settings → Prop
  | given (settings : Settings) : Supplied app (some settings) settings
  | kept {loaded : Loaded} : app.getSettings.1 = .ok loaded → Supplied app none loaded.settings

theorem readPayload_short {document : Json} (decoded : readPayload message = .ok (.document document)) :
    document.Short := by
  simp only [readPayload] at decoded
  split at decoded
  · cases decoded
  · split at decoded
    · cases decoded
    · split at decoded
      · split at decoded
        · cases decoded
        · rename_i found
          cases decoded
          exact Json.readChars?_short found
        · cases decoded
        · cases decoded
      · cases decoded

/-- Only a document with fields makes a request. -/
theorem checkPayload_ok (valid : checkPayload payload = .ok request) :
    ∃ body, payload = .document body ∧ (Candidate.ofJson body).validate = .ok request := by
  unfold checkPayload at valid
  split at valid
  · cases valid
  · cases valid
  · rename_i fields
    refine ⟨_, rfl, ?_⟩
    dsimp only at valid
    split at valid
    · rename_i found
      cases valid
      exact found
    · cases valid
  · cases valid

theorem operands_short (decoded : readPayload message = .ok payload)
    (valid : checkPayload payload = .ok request) : request.a.Short ∧ request.b.Short := by
  obtain ⟨body, rfl, validated⟩ := checkPayload_ok valid
  obtain ⟨first, second, -, -⟩ := Candidate.validate_ofJson_iff.mp validated
  have short := readPayload_short decoded
  exact ⟨(short.field? first).operand, (short.field? second).operand⟩

theorem route_divide (posted : message.method = "POST") (path : message.path = "/divide") :
    route message = .ok .divide := by
  have found : Endpoint.ofPath? "/divide" = some .divide := by decide
  rw [route, path, found]
  exact if_pos posted

theorem handle_divide (posted : message.method = "POST") (path : message.path = "/divide")
    (supplied : Supplied app given settings) (decoded : readPayload message = .ok payload)
    (valid : checkPayload payload = .ok request) (perform : NumericType → Request → Served) :
    (handle given perform message app).1 = perform settings.defaultNumericType request := by
  have run : serveDivide (.ok settings) perform payload =
      perform settings.defaultNumericType request := by
    simp only [serveDivide, valid]
  cases supplied with
  | given => simp only [handle, route_divide posted path, decoded, run]
  | kept loaded => simp only [handle, route_divide posted path, decoded, loaded, Except.map, run]

theorem settle_status_iff (debug : Bool) (accept : Option String)
    (outcome : Except Fault (Except Failure Response)) :
    ((answerOutcome outcome).settle debug accept).status = 500 ↔
      ∃ fault, outcome = .error fault := by
  rcases outcome with fault | ⟨⟨_ | _, _⟩⟩ | response
  · exact iff_of_true rfl ⟨fault, rfl⟩
  all_goals
    exact iff_of_false (by simp [answerOutcome, Reply.settle, Answer.detail, Answer.json,
      failureStatus]) nofun

/-- A posted division is answered with the end of the service's call, and its status tells which
end that was. -/
theorem serve_refines_service (posted : message.method = "POST") (path : message.path = "/divide")
    (supplied : Supplied app given settings) (decoded : readPayload message = .ok payload)
    (valid : checkPayload payload = .ok request) :
    let answer := (serve given perform message app).1.answer
    let outcome := (Service.divide settings.defaultNumericType request).outcome
    (∀ response, outcome = .ok (.ok response) → answer = .json 200 (.object
      [("present", .bool response.present), ("value", (response.value.map Json.text).getD .null),
       ("numeric_type", .text response.numericType.name),
       ("operator", .text response.operator.name)])) ∧
    (∀ message, outcome = .ok (.error ⟨.invalidOperand, message⟩) →
      answer = .json 422 (.object [("detail", .text message)])) ∧
    (∀ message, outcome = .ok (.error ⟨.arithmeticFailure, message⟩) →
      answer = .json 400 (.object [("detail", .text message)])) ∧
    (answer.status = 500 ↔ ∃ fault, outcome = .error fault) ∧
    (request.numericType.getD settings.defaultNumericType ≠ .fraction →
      answer.status = 200 ∨ answer.status = 400 ∨ answer.status = 422) := by
  dsimp only
  rw [serve, Prod.map_fst, handle_divide posted path supplied decoded valid, Served.settle, perform]
  obtain ⟨shortA, shortB⟩ := operands_short decoded valid
  refine ⟨?_, ?_, ?_, settle_status_iff _ _ _, ?_⟩
  · intro response ended
    rw [ended]
    rfl
  · intro message ended
    rw [ended]
    rfl
  · intro message ended
    rw [ended]
    rfl
  · intro notFraction
    rcases ended : (Service.divide settings.defaultNumericType request).outcome with
      fault | ⟨⟨_ | _, _⟩⟩ | response
    · exact absurd (Service.outcome_error_of_short shortA shortB ended) notFraction
    · exact .inr (.inr rfl)
    · exact .inr (.inl rfl)
    · exact .inl rfl

/-- The type that the request leaves out is taken from the settings. -/
theorem serve_floored_integers :
    (serve (some { Settings.default with defaultNumericType := .int }) perform
      ⟨"POST", "/divide", "localhost", none, some "application/json", none,
        some "\x7b\"a\": -7, \"b\": \"2\", \"operator\": \"floordiv\"\x7d", 900⟩ .initial).1.answer =
      .json 200 (.object [("present", .bool true), ("value", .text "-4"),
        ("numeric_type", .text "int"), ("operator", .text "floordiv")]) := by
  have accepted : (readPayload ⟨"POST", "/divide", "localhost", none, some "application/json", none,
        some "\x7b\"a\": -7, \"b\": \"2\", \"operator\": \"floordiv\"\x7d", 900⟩ >>=
      checkPayload).toOption = some ⟨.int (-7), .text "2", none, .floor⟩ := by
    decide +kernel
  obtain ⟨_, decoded, valid⟩ := bind_eq_ok_iff.mp (toOption_eq_some_iff.mp accepted)
  exact (serve_refines_service rfl (by decide) (.given _) decoded valid).1
    ⟨true, some "-4", .int, .floor⟩ (by decide +kernel)

end Http

end ZeroGuard
