import ZeroGuard.Proofs.Decimal.Range
import ZeroGuard.Proofs.Rational
import ZeroGuard.Proofs.Service.Guard

namespace ZeroGuard.Service

/-- A text is an operand of a type that is converted to a number, or, for an integer among the
rationals, to that integer over one. -/
inductive ReadsBack (text : String) : NumericType → Number → Prop
  | decimal {d : Decimal} : parseOperand .decimal (.text text) = .ok (.ok (.decimal d)) →
      ReadsBack text .decimal (.decimal d)
  | rational {q : Rat} : parseOperand .fraction (.text text) = .ok (.ok (.rational q)) →
      ReadsBack text .fraction (.rational q)
  | integer {n : Int} : parseOperand .fraction (.text text) = .ok (.ok (.rational n)) →
      ReadsBack text .fraction (.int n)

variable {type : NumericType} {request : Request} {quotient : Number} {text : String}

theorem divRational_cases {op : Operator} {a b : Rat}
    (run : Number.divRational op a b = .ok quotient) :
    (∃ q, quotient = .rational q) ∨ ∃ n, quotient = .int n := by
  cases op with
  | quotient =>
    simp only [Number.divRational] at run
    split_ifs at run
    cases run
    exact .inl ⟨_, rfl⟩
  | floor =>
    simp only [Number.divRational, Number.divInt] at run
    split_ifs at run
    cases run
    exact .inr ⟨_, rfl⟩

theorem Yields.readsBack (yields : Yields type request quotient)
    (exact : type = .decimal ∨ type = .fraction) (written : quotient.text = .ok text) :
    ReadsBack text type quotient := by
  obtain ⟨first, second, -, divided⟩ := yields
  rcases exact with rfl | rfl
  · obtain ⟨a, -, rfl⟩ := map_eq_ok_iff.mp first
    obtain ⟨b, -, rfl⟩ := map_eq_ok_iff.mp second
    rw [Number.divide_decimal] at divided
    obtain ⟨d, run, rfl⟩ := map_eq_ok_iff.mp divided
    cases written
    have read := Decimal.readDecimal_text (Decimal.divide_inRange run)
    refine .decimal (parseOperand_ok_iff.mpr ?_)
    simp only [Operand.convert, Operand.toDecimal, read, Except.map]
  · obtain ⟨a, -, rfl⟩ := map_eq_ok_iff.mp first
    obtain ⟨b, -, rfl⟩ := map_eq_ok_iff.mp second
    rw [Number.divide_rational] at divided
    rcases divRational_cases divided with ⟨q, rfl⟩ | ⟨n, rfl⟩
    · have read := Rational.readRational_text written
      refine .rational (parseOperand_ok_iff.mpr ?_)
      simp only [Operand.convert, Operand.toRational, read, Except.map]
    · have read := Rational.readRational_integerText written
      refine .integer (parseOperand_ok_iff.mpr ?_)
      simp only [Operand.convert, Operand.toRational, read, Except.map]

/-- The text of a response in an exact type is the quotient that the guarded division produced, and
it is read back as that quotient. -/
theorem exact_quotient_reads_back (settings : Settings) (request : Request) (response : Response)
    (exact : request.numericType.getD settings.defaultNumericType = .decimal ∨
      request.numericType.getD settings.defaultNumericType = .fraction)
    (answered : (divide settings.defaultNumericType request).outcome = .ok (.ok response))
    (present : response.present = true) :
    let type := request.numericType.getD settings.defaultNumericType
    ∃ a b quotient text, request.a.convert type = .ok a ∧ request.b.convert type = .ok b ∧
      a.safeDivide request.operator b = .ok (some quotient) ∧ response.value = some text ∧
      ReadsBack text type quotient := by
  have course := (divide_eq_iff settings.defaultNumericType request _).mp rfl
  rcases course.response_cases answered with ⟨-, rfl⟩ | ⟨quotient, text, yields, written, rfl⟩
  · cases present
  · obtain ⟨first, second, nonzero, divided⟩ := id yields
    have guarded : _ = (Number.divide request.operator _ _).map some :=
      Number.safeDivide_of_not_vanishes (Operand.convert_has first)
        (Operand.convert_has second) nonzero
    rw [divided] at guarded
    exact ⟨_, _, quotient, text, first, second, guarded, rfl, yields.readsBack exact written⟩

theorem reads_back_small_quotient :
    let request : Request := ⟨.text "-1e-7", .int 8, some .decimal, .quotient⟩
    (divide .float request).outcome =
        .ok (.ok ⟨true, some "-1.25E-8", .decimal, .quotient⟩) ∧
      ∃ a b quotient text, request.a.convert .decimal = .ok a ∧
        request.b.convert .decimal = .ok b ∧ a.safeDivide .quotient b = .ok (some quotient) ∧
        some "-1.25E-8" = some text ∧ ReadsBack text .decimal quotient := by
  have answered : (divide .float ⟨.text "-1e-7", .int 8, some .decimal, .quotient⟩).outcome =
      .ok (.ok ⟨true, some "-1.25E-8", .decimal, .quotient⟩) := by decide +kernel
  exact ⟨answered, exact_quotient_reads_back .default _ _ (.inl rfl) answered rfl⟩

end ZeroGuard.Service
