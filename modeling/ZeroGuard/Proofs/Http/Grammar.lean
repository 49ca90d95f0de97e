import ZeroGuard.Proofs.Http.Division

namespace ZeroGuard.Http

theorem checkPayload_document_iff {body : Json} {request : Request} :
    checkPayload (.document body) = .ok request ↔
      (Candidate.ofJson body).validate = .ok request := by
  constructor
  · intro valid
    obtain ⟨_, same, validated⟩ := checkPayload_ok valid
    cases same
    exact validated
  · intro validated
    have first := (Candidate.validate_ofJson_iff.mp validated).1
    cases body with
    | object fields => simp only [checkPayload, validated]
    | _ => cases first

/-- The grammar of requests, of which fields of other names are no part. -/
theorem accepts_exactly_grammar :
    (∀ (fields : String → Option Value) (request : Request),
      (Candidate.ofValues fields).validate = .ok request ↔
        (∃ value, fields "a" = some value ∧ value.TakenAs request.a) ∧
        (∃ value, fields "b" = some value ∧ value.TakenAs request.b) ∧
        Candidate.NamesType .none .text (fields "numeric_type") request.numericType ∧
        Candidate.NamesOperator .text (fields "operator") request.operator) ∧
    (∀ (body : Json) (request : Request),
      checkPayload (.document body) = .ok request ↔
        body.field? "a" = some request.a.json ∧ body.field? "b" = some request.b.json ∧
        Candidate.NamesType .null .text (body.field? "numeric_type") request.numericType ∧
        Candidate.NamesOperator .text (body.field? "operator") request.operator) := by
  refine ⟨fun fields request => Candidate.validate_ofValues_iff, fun body request => ?_⟩
  rw [checkPayload_document_iff, Candidate.validate_ofJson_iff]

/-- A word of 64 bits is let in as a float, which may be another number. -/
theorem accepts_rounded_word :
    let fields : String → Option Value := fun name =>
      if name = "a" then some (.number 0 (.int64 9007199254740993))
      else if name = "b" then some (.number 1 (.int 1)) else none
    (Candidate.ofValues fields).validate =
        .ok ⟨.float (.ofInt 9007199254740993), .int 1, none, .quotient⟩ ∧
      Operand.floatToInt? (.ofInt 9007199254740993) = some 9007199254740992 := by
  decide +kernel

end ZeroGuard.Http
