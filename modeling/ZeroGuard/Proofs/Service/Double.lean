import ZeroGuard.Proofs.Binary.Layout
import ZeroGuard.Proofs.Service.Guard

namespace ZeroGuard.Service

variable {op : Operator} {settings : Settings} {request : Request} {raw x y : Operand}

theorem parseOperand_float64_iff {x : Double} :
    parseOperand .float64 raw = .ok (.ok (.float64 x)) ↔
      parseOperand .float raw = .ok (.ok (.float x)) := by
  rw [parseOperand_ok_iff, parseOperand_ok_iff, Operand.convert_float64]
  simp only [Operand.convert, map_eq_ok_iff, Number.float64.injEq, Number.float.injEq]

/-- Two outcomes that only the name of the type tells apart, the first one for doubles of fixed
width and the second one for plain doubles. -/
inductive Alike (op : Operator) :
    Except Fault (Except Failure Response) → Except Fault (Except Failure Response) → Prop
  | escape (fault : Fault) : Alike op (.error fault) (.error fault)
  | failure (shown reason : String) : Alike op
      (.ok (.error (refusal shown NumericType.float64.name reason)))
      (.ok (.error (refusal shown NumericType.float.name reason)))
  | answer (present : Bool) (value : Option String) : Alike op
      (.ok (.ok ⟨present, value, .float64, op⟩)) (.ok (.ok ⟨present, value, .float, op⟩))

theorem alike_refused (op : Operator) (raw : Operand) (cause : Fault) :
    Alike op (refused .float64 raw cause).outcome (refused .float raw cause).outcome := by
  rw [refused_outcome, refused_outcome]
  cases raw.shown with
  | error fault => exact .escape fault
  | ok shown => exact .failure shown cause.message

/-- An operand is refused in both types or in neither, and what follows depends on one double. -/
theorem alike_withOperand (raw : Operand) {next also : Number → Run}
    (alike : ∀ x, Alike op (next (.float64 x)).outcome (also (.float x)).outcome) :
    Alike op (withOperand .float64 raw next).outcome (withOperand .float raw also).outcome := by
  cases run : raw.toDouble with
  | error cause =>
    obtain ⟨plain, -, fixed⟩ := Operand.convert_of_toDouble_error run
    rw [withOperand_of_error fixed, withOperand_of_error plain]
    exact alike_refused op raw cause
  | ok x =>
    obtain ⟨plain, -, fixed⟩ := Operand.convert_of_toDouble run
    rw [withOperand_of_ok fixed, withOperand_of_ok plain]
    exact alike x

/-- By a divisor that is not zero both types have one quotient, floored in two ways, and one text of it,
laid out in two ways. -/
theorem alike_divideNumbers (op : Operator) (x y : Double) :
    Alike op (divideNumbers .float64 op (.float64 x) (.float64 y)).outcome
      (divideNumbers .float op (.float x) (.float y)).outcome := by
  by_cases zero : ∃ negative, y = .zero negative
  · have fixed : (Number.float64 y).Vanishes := zero
    have plain : (Number.float y).Vanishes := zero
    rw [divideNumbers_of_vanishes (.float64 x) fixed, divideNumbers_of_vanishes (.float x) plain]
    exact .answer false none
  · have nonzero : y.isZero = false :=
      Bool.eq_false_iff.mpr fun same => zero ((Binary.isZero_iff Number.double_nonempty y).mp same)
    have fixed := Number.divide_float64 op x y
    have plain := (Number.divide_float op x y).trans (Number.divDouble_eq op x nonzero)
    rw [divideNumbers_of_ok (.float64 x) (.float64 y) zero fixed,
      divideNumbers_of_ok (.float x) (.float y) zero plain,
      respond_some_outcome, respond_some_outcome, Number.text_float64]
    exact .answer true ((Number.quotientOf op x y).text .double)

theorem Sends.divide_eq {type : NumericType} (sends : Sends settings request type op x y) :
    divide settings.defaultNumericType request =
      withOperand type x fun a => withOperand type y fun b => divideNumbers type op a b := by
  rw [divide, sends.effective, sends.operator, sends.dividend, sends.divisor]

/-- Both types read the same operands as the same doubles and answer alike to every two of them, though
each has its own way to convert an operand, to floor a quotient and to write it. Texts with lone
surrogates (`isSurrogate`) are refused by both. -/
theorem float64_interchangeable_with_float :
    (∀ raw x, parseOperand .float64 raw = .ok (.ok (.float64 x)) ↔
      parseOperand .float raw = .ok (.ok (.float x))) ∧
    ∀ settings others request other op x y, Sends settings request .float64 op x y →
      Sends others other .float op x y →
      Alike op (divide settings.defaultNumericType request).outcome
        (divide others.defaultNumericType other).outcome := by
  refine ⟨fun raw x => parseOperand_float64_iff, ?_⟩
  intro settings others request other op x y sends also
  rw [sends.divide_eq, also.divide_eq]
  refine alike_withOperand x fun dividend => alike_withOperand y fun divisor => ?_
  exact alike_divideNumbers op dividend divisor

/-- A text with a null character behind it is refused alike, and so is an integer beyond the doubles
that is the divisor of a text with blanks around it. -/
theorem float64_refuses_like_float :
    let request (type : NumericType) : Request := ⟨.text "7\u0000", .int 2, some type, .floor⟩
    let other (type : NumericType) : Request := ⟨.text " -7_0 ", .int (2 ^ 1024), some type, .quotient⟩
    Alike .floor (divide .float (request .float64)).outcome
        (divide .float (request .float)).outcome ∧
      Alike .quotient (divide .float (other .float64)).outcome
        (divide .float (other .float)).outcome := by
  intro request other
  have alike := float64_interchangeable_with_float.2 .default .default
  exact ⟨alike (request .float64) (request .float) _ _ _ ⟨rfl, rfl, rfl, rfl⟩ ⟨rfl, rfl, rfl, rfl⟩,
    alike (other .float64) (other .float) _ _ _ ⟨rfl, rfl, rfl, rfl⟩ ⟨rfl, rfl, rfl, rfl⟩⟩

end ZeroGuard.Service
