import ZeroGuard.Proofs.Number.Division
import ZeroGuard.Proofs.Value.Guard

namespace ZeroGuard

/-- A computation that stops because its operands have no such operator. -/
def FailsByType {α : Type} (run : Except Fault α) : Prop :=
  ∃ fault, run = .error fault ∧ fault.kind = .type

theorem FaultKind.ne_type_of_isArithmetic {kind : FaultKind} (arithmetic : kind.isArithmetic = true) :
    kind ≠ .type := by
  rintro rfl
  cases arithmetic

namespace Number

/-- Two numbers of one kind. -/
inductive SameKind : Number → Number → Prop
  | bool (a b : Bool) : SameKind (.bool a) (.bool b)
  | int (m n : Int) : SameKind (.int m) (.int n)
  | float (x y : Double) : SameKind (.float x) (.float y)
  | complex (z w : Complex) : SameKind (.complex z) (.complex w)
  | decimal (c d : Decimal) : SameKind (.decimal c) (.decimal d)
  | rational (p q : Rat) : SameKind (.rational p) (.rational q)
  | float32 (x y : Single) : SameKind (.float32 x) (.float32 y)
  | float64 (x y : Double) : SameKind (.float64 x) (.float64 y)
  | int8 (m n : Int8) : SameKind (.int8 m) (.int8 n)
  | int64 (m n : Int64) : SameKind (.int64 m) (.int64 n)

variable {op : Operator} {a b : Number}

/-- The kinds have different names. -/
theorem sameKind_of_kindName (same : a.kindName = b.kindName) : SameKind a b := by
  cases a <;> cases b <;> simp [kindName] at same <;> constructor

/-- Numbers of all kinds have a quotient, and all but the complex ones a floored one. -/
def Supports (op : Operator) (n : Number) : Prop :=
  ∀ z, n = .complex z → op = .quotient

theorem SameKind.divide_error (same : SameKind a b) (supported : a.Supports op)
    (nonzero : ¬ b.Vanishes) {fault : Fault} (failed : divide op a b = .error fault) :
    fault.kind.isArithmetic = true := by
  cases same with
  | bool a b =>
    -- Truth values are divided as the integers 0 and 1.
    have nonzero : ¬ (Number.int b.toInt).Vanishes := (vanishes_ofBool (.bool b)).not.mpr nonzero
    exact divide_error_arithmetic (.int a.toInt) (.int b.toInt) nonzero failed
  | int m n => exact divide_error_arithmetic (.int m) (.int n) nonzero failed
  | float x y => exact divide_error_arithmetic (.float x) (.float y) nonzero failed
  | decimal c d => exact divide_error_arithmetic (.decimal c) (.decimal d) nonzero failed
  | rational p q => exact divide_error_arithmetic (.fraction p) (.fraction q) nonzero failed
  | float32 x y => exact divide_error_arithmetic (.float32 x) (.float32 y) nonzero failed
  | float64 x y => exact divide_error_arithmetic (.float64 x) (.float64 y) nonzero failed
  | int64 m n => exact divide_error_arithmetic (.int64 m) (.int64 n) nonzero failed
  | complex z w =>
    obtain rfl := supported z rfl
    have run : divide .quotient (.complex z) (.complex w) = divComplex .quotient z w := rfl
    rw [run, divComplex] at failed
    split_ifs at failed
    cases failed
    rfl
  | int8 m n => cases op <;> cases failed

theorem divide_complex_floor (z w : Complex) :
    FailsByType (divide .floor (.complex z) (.complex w)) :=
  ⟨_, rfl, rfl⟩

end Number

namespace Value

variable {op : Operator} {a b : Value}

/-- A value that is no number is not equal to zero and has no quotient. -/
theorem isZero_of_not_number (other : ∀ mark n, b ≠ number mark n) : b.isZero = .ok false := by
  cases b with
  | number mark n => exact absurd rfl (other mark n)
  | _ => rfl

theorem divideFault_kind (op : Operator) (a b : Value) : (divideFault op a b).kind = .type := by
  unfold divideFault
  split <;> rfl

theorem divide_of_not_number (op : Operator) (a : Value) (other : ∀ mark n, b ≠ number mark n) :
    a.divide op b = .error (divideFault op a b) := by
  cases b with
  | number mark n => exact absurd rfl (other mark n)
  | _ => cases a <;> rfl

theorem supports_number_iff (op : Operator) (mark : Nat) (n : Number) :
    (number mark n).supports op = true ↔ n.Supports op := by
  cases n with
  | complex z => simp [supports, Number.Supports]
  | _ => exact iff_of_true rfl nofun

/-- Two values of one kind are both numbers, or neither is. -/
theorem numbers_or_not (same : a.kindName = b.kindName) :
    (∃ m n x y, a = number m x ∧ b = number n y ∧ x.SameKind y) ∨
      (∀ op, a.supports op = false) ∧ ∀ mark n, b ≠ number mark n := by
  cases a with
  | number m x =>
    cases b with
    | number n y => exact .inl ⟨m, n, x, y, rfl, rfl, Number.sameKind_of_kindName same⟩
    | _ => cases x <;> exact absurd same (by simp [kindName, Number.kindName])
  | _ =>
    refine .inr ⟨fun _ => rfl, ?_⟩
    rintro mark n rfl
    cases n <;> exact absurd same (by simp [kindName, Number.kindName])

/-- What the guard leaves: a quotient or none, or an arithmetic fault. -/
inductive Settled : Except Fault (Option Number) → Prop
  | absent : Settled (.ok .none)
  | quotient (q : Number) : Settled (.ok (.some q))
  | arithmetic {fault : Fault} : fault.kind.isArithmetic = true → Settled (.error fault)

theorem Settled.not_failsByType {outcome : Except Fault (Option Number)} (settled : Settled outcome) :
    ¬ FailsByType outcome := by
  rintro ⟨fault, rfl, byType⟩
  cases settled with
  | arithmetic arithmetic => exact FaultKind.ne_type_of_isArithmetic arithmetic byType

theorem settled_of_supports (same : a.kindName = b.kindName) (supported : a.supports op = true) :
    Settled (a.safeDivide op b) := by
  obtain ⟨m, n, x, y, rfl, rfl, kinds⟩ | ⟨unsupported, -⟩ := numbers_or_not same
  · rw [supports_number_iff] at supported
    rw [safeDivide_number]
    cases run : x.safeDivide op y with
    | ok quotient =>
      cases quotient with
      | none => exact .absent
      | some q => exact .quotient q
    | error fault =>
      obtain compared | ⟨compared, divided⟩ := (guarded_error_iff _ _ x y fault).mp run
      · obtain rfl := Number.isZero_error compared
        exact .arithmetic rfl
      · have nonzero : ¬ y.Vanishes := fun zero => by
          rw [Number.isZero_eq_true_iff.mpr zero] at compared
          cases compared
        exact .arithmetic (kinds.divide_error supported nonzero divided)
  · rw [unsupported op] at supported
    cases supported

/-- The operator that is missing is met only behind the comparison with zero. -/
theorem failsByType_iff (same : a.kindName = b.kindName) :
    FailsByType (a.safeDivide op b) ↔ a.supports op = false ∧ b.isZero = .ok false := by
  constructor
  · intro fails
    have unsupported : a.supports op = false :=
      Bool.eq_false_iff.mpr fun supported => (settled_of_supports same supported).not_failsByType fails
    refine ⟨unsupported, ?_⟩
    obtain ⟨fault, stopped, byType⟩ := fails
    obtain compared | ⟨compared, -⟩ := (guarded_error_iff _ _ a b fault).mp stopped
    · obtain ⟨m, n, x, y, rfl, rfl, -⟩ | ⟨-, other⟩ := numbers_or_not same
      · rw [isZero_number] at compared
        obtain rfl := Number.isZero_error compared
        cases byType
      · exact isZero_of_not_number other
    · exact compared
  · rintro ⟨unsupported, compared⟩
    have divided : FailsByType (a.divide op b) := by
      obtain ⟨m, n, x, y, rfl, rfl, kinds⟩ | ⟨-, other⟩ := numbers_or_not same
      · cases kinds with
        | complex z w =>
          cases op with
          | quotient => cases unsupported
          | floor => exact Number.divide_complex_floor z w
        | _ => cases unsupported
      · exact ⟨_, divide_of_not_number op a other, divideFault_kind op a b⟩
    obtain ⟨fault, stopped, byType⟩ := divided
    exact ⟨fault, (guarded_error_iff _ _ a b fault).mpr (.inr ⟨compared, stopped⟩), byType⟩

/-- Division of two values of one kind. Without a quotient for the kind it always stops for want of
one; without a floored quotient it does so unless the divisor is zero; and with one it ends. -/
theorem type_fault_exactly_without_support (a b : Value) (same : a.kindName = b.kindName) :
    (FailsByType (a.safeDivide .quotient b) ↔ a.supports .quotient = false) ∧
    (FailsByType (a.safeDivide .floor b) ↔ a.supports .floor = false ∧ b.isZero = .ok false) ∧
    ∀ op, a.supports op = true → Settled (a.safeDivide op b) := by
  refine ⟨?_, failsByType_iff same, fun op => settled_of_supports same⟩
  rw [failsByType_iff same, and_iff_left_iff_imp]
  intro unsupported
  obtain ⟨m, n, x, y, rfl, rfl, kinds⟩ | ⟨-, other⟩ := numbers_or_not same
  · cases kinds <;> cases unsupported
  · exact isZero_of_not_number other

/-- Complex numbers, the one kind with a quotient and no floored one: by zero nothing comes of
either, by a NaN the floored one fails, and a text fails beside an empty one. -/
theorem complex_floored_only_by_zero :
    let z := number 0 (.complex ⟨.nan, .infinite true⟩)
    let zero := number 1 (.complex ⟨.zero true, .zero false⟩)
    FailsByType (z.safeDivide .floor z) ∧ ¬ FailsByType (z.safeDivide .floor zero) ∧
    Settled (z.safeDivide .quotient z) ∧ FailsByType ((text "1").safeDivide .quotient (text "")) := by
  intro z zero
  obtain ⟨-, floored, settled⟩ := type_fault_exactly_without_support z z rfl
  obtain ⟨-, byZero, -⟩ := type_fault_exactly_without_support z zero rfl
  obtain ⟨texts, -⟩ := type_fault_exactly_without_support (text "1") (text "") rfl
  refine ⟨floored.mpr ⟨rfl, by decide +kernel⟩, ?_, settled _ rfl, texts.mpr rfl⟩
  rw [byZero]
  rintro ⟨-, compared⟩
  have vanishes : zero.isZero = .ok true := by decide +kernel
  rw [vanishes] at compared
  cases compared

end Value

end ZeroGuard
