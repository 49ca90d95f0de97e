import ZeroGuard.Proofs.Binary.Underflow
import ZeroGuard.Proofs.Guard
import ZeroGuard.Service
import ZeroGuard.Value.Quotient

namespace ZeroGuard

/-- The faults of a division by zero, those of the decimals among them. -/
def Fault.ByZero (fault : Fault) : Prop :=
  fault.kind = .zeroDivision ∨ fault = .signal .zeroDivisor ∨ fault = .signal .undefined

/-- A computation that stops because of a division by zero. -/
def FailsByZero {α : Type} (run : Except Fault α) : Prop :=
  ∃ fault, run = .error fault ∧ fault.ByZero

section FailsByZero

variable {α β : Type} {run : Except Fault α}

@[simp] theorem not_failsByZero_ok (value : α) : ¬ FailsByZero (.ok value : Except Fault α) := by
  rintro ⟨_, stopped, _⟩
  cases stopped

@[simp] theorem failsByZero_error (fault : Fault) :
    FailsByZero (.error fault : Except Fault α) ↔ fault.ByZero := by
  simp [FailsByZero]

@[simp] theorem failsByZero_map (f : α → β) : FailsByZero (run.map f) ↔ FailsByZero run := by
  simp only [FailsByZero, map_eq_error_iff]

@[simp] theorem failsByZero_bind (next : α → Except Fault β) :
    FailsByZero (run >>= next) ↔
      FailsByZero run ∨ ∃ value, run = .ok value ∧ FailsByZero (next value) := by
  cases run <;> simp [bind, Except.bind]

end FailsByZero

namespace Number

variable (op : Operator)

@[simp] theorem not_failsByZero_finiteOr {range : Fault} (other : ¬ range.ByZero) (x : Double) :
    ¬ FailsByZero (finiteOr range x) := by
  rintro ⟨fault, stopped, byZero⟩
  obtain ⟨rfl, -⟩ := (finiteOr_error_iff range fault x).mp stopped
  exact other byZero

theorem not_byZero_doubleRange : ¬ Fault.doubleRange.ByZero := by
  simp [Fault.ByZero, Fault.kind]

theorem not_byZero_quotientRange : ¬ Fault.quotientRange.ByZero := by
  simp [Fault.ByZero, Fault.kind]

theorem not_byZero_unsupported (left right : String) :
    ¬ (Fault.unsupported op left right).ByZero := by
  simp [Fault.ByZero, Fault.kind]

@[simp] theorem not_failsByZero_intToDouble (n : Int) : ¬ FailsByZero (intToDouble n) :=
  not_failsByZero_finiteOr not_byZero_doubleRange _

@[simp] theorem not_failsByZero_intRatio (a b : Int) : ¬ FailsByZero (intRatio a b) :=
  not_failsByZero_finiteOr not_byZero_quotientRange _

@[simp] theorem not_failsByZero_rationalToDouble (q : Rat) : ¬ FailsByZero (rationalToDouble q) :=
  not_failsByZero_intRatio _ _

theorem byZero_zeroDivisor (operation : String) : (Fault.zeroDivisor operation).ByZero := .inl rfl

@[simp] theorem failsByZero_divInt (a b : Int) : FailsByZero (divInt op a b) ↔ b = 0 := by
  cases op <;> by_cases zero : b = 0 <;> simp [divInt, zero, byZero_zeroDivisor]

@[simp] theorem failsByZero_divRational (a b : Rat) : FailsByZero (divRational op a b) ↔ b = 0 := by
  by_cases zero : b = 0
  · refine iff_of_true ?_ zero
    subst zero
    cases op with
    | quotient => exact ⟨_, rfl, .inl rfl⟩
    | floor => simp [divRational]
  · refine iff_of_false ?_ zero
    obtain ⟨q, run⟩ := divRational_ok op a zero
    simp [run]

@[simp] theorem failsByZero_divDouble (x y : Double) :
    FailsByZero (divDouble op x y) ↔ y.isZero = true := by
  cases op <;> cases zero : y.isZero <;> simp [divDouble, zero, byZero_zeroDivisor]

@[simp] theorem failsByZero_divComplex (z w : Complex) :
    FailsByZero (divComplex op z w) ↔ op = .quotient ∧ w.isZero = true := by
  cases op with
  | quotient => cases zero : w.isZero <;> simp [divComplex, zero, byZero_zeroDivisor]
  | floor => simp [divComplex, unsupported, not_byZero_unsupported]

theorem isZero_of_failsByZero_divDecimal {a b : Decimal} (fails : FailsByZero (divDecimal op a b)) :
    b.isZero = true := by
  obtain ⟨fault, stopped, byZero⟩ := fails
  rw [show divDecimal op a b = (a.divide op b).map decimal by cases op <;> rfl,
    map_eq_error_iff] at stopped
  obtain ⟨cause, rfl, signals⟩ := Decimal.divide_error_signal stopped
  cases signals with
  | zeroDivisor zero => exact zero
  | undefined zero => exact zero
  | _ => simp [Fault.ByZero, Fault.kind] at byZero

@[simp] theorem isZero_ofDouble (x : Double) : (Complex.ofDouble x).isZero = x.isZero := by
  have part : (Binary.zero false : Double).isZero = true :=
    (Binary.isZero_iff double_nonempty _).mpr ⟨false, rfl⟩
  simp [Complex.ofDouble, Complex.isZero, part]

/-- The divisors that are not zero but become zero when they are brought to the kind of the
dividend. The least positive double is `2 ^ -1074`, and its half is rounded to zero. -/
inductive Underflows : Operator → Number → Number → Prop
  | float (op : Operator) (x : Double) {q : ℚ} : q ≠ 0 → |q| ≤ 1 / 2 ^ 1075 →
      Underflows op (.float x) (.rational q)
  | complex (z : Complex) {q : ℚ} : q ≠ 0 → |q| ≤ 1 / 2 ^ 1075 →
      Underflows .quotient (.complex z) (.rational q)

variable {op} {a b : Number}

theorem Underflows.dividePlain (underflows : Underflows op a b) :
    ∃ result, dividePlain? op a b = some result ∧ FailsByZero result := by
  cases underflows with
  | float _ x nonzero tiny =>
    have zero := (rationalToDouble_isZero_iff _).mpr tiny
    exact ⟨_, rfl, by simpa using zero⟩
  | complex z nonzero tiny =>
    have zero := (rationalToDouble_isZero_iff _).mpr tiny
    exact ⟨_, rfl, by simpa using zero⟩

theorem quotientOnly_eq_some {run result : Except Fault Number}
    (found : quotientOnly op run = some result) : op = .quotient ∧ run = result := by
  cases op with
  | quotient => exact ⟨rfl, Option.some.inj found⟩
  | floor => cases found

variable {result : Except Fault Number}

theorem not_failsByZero_of_int {n : Int} (nonzero : n ≠ 0)
    (found : dividePlain? op a (.int n) = some result) : ¬ FailsByZero result := by
  have kept := (intToDouble_isZero_iff n).not.mpr nonzero
  cases a with
  | int m =>
    obtain rfl := Option.some.inj found
    simpa using nonzero
  | rational p =>
    obtain rfl := Option.some.inj found
    simpa using nonzero
  | float x =>
    obtain rfl := Option.some.inj found
    simpa using kept
  | complex z =>
    obtain ⟨rfl, rfl⟩ := quotientOnly_eq_some found
    simpa using kept
  | decimal c =>
    obtain rfl := Option.some.inj found
    intro fails
    have zero := isZero_of_failsByZero_divDecimal op fails
    exact nonzero (Int.natAbs_eq_zero.mp (beq_iff_eq.mp zero))
  | _ => cases found

theorem not_failsByZero_of_float {y : Double} (nonzero : y.isZero = false)
    (found : dividePlain? op a (.float y) = some result) : ¬ FailsByZero result := by
  cases a with
  | int m =>
    obtain rfl := Option.some.inj found
    simp [nonzero]
  | rational p =>
    obtain rfl := Option.some.inj found
    simp [nonzero]
  | float x =>
    obtain rfl := Option.some.inj found
    simp [nonzero]
  | complex z =>
    obtain ⟨rfl, rfl⟩ := quotientOnly_eq_some found
    simp [nonzero]
  | _ => cases found

theorem not_failsByZero_of_complex {w : Complex} (nonzero : w.isZero = false)
    (found : dividePlain? op a (.complex w) = some result) : ¬ FailsByZero result := by
  cases a with
  | int m =>
    obtain ⟨rfl, rfl⟩ := quotientOnly_eq_some found
    simp [nonzero]
  | rational p =>
    obtain rfl := Option.some.inj found
    simp [nonzero]
  | float x =>
    obtain ⟨rfl, rfl⟩ := quotientOnly_eq_some found
    simp [nonzero]
  | complex z =>
    obtain ⟨rfl, rfl⟩ := quotientOnly_eq_some found
    simp [nonzero]
  | _ => cases found

theorem not_failsByZero_of_decimal {d : Decimal} (nonzero : d.isZero = false)
    (found : dividePlain? op a (.decimal d) = some result) : ¬ FailsByZero result := by
  intro fails
  cases a with
  | int m =>
    obtain rfl := Option.some.inj found
    exact absurd (isZero_of_failsByZero_divDecimal op fails) (by simp [nonzero])
  | decimal c =>
    obtain rfl := Option.some.inj found
    exact absurd (isZero_of_failsByZero_divDecimal op fails) (by simp [nonzero])
  | _ => cases found

/-- A rational is the one divisor that the conversion to a double can make zero. -/
theorem underflows_of_rational {q : ℚ} (nonzero : q ≠ 0)
    (found : dividePlain? op a (.rational q) = some result) (fails : FailsByZero result) :
    Underflows op a (.rational q) := by
  have made := (rationalToDouble_isZero_iff q).mp
  cases a with
  | int m =>
    obtain rfl := Option.some.inj found
    exact absurd ((failsByZero_divRational op _ q).mp fails) nonzero
  | rational p =>
    obtain rfl := Option.some.inj found
    exact absurd ((failsByZero_divRational op p q).mp fails) nonzero
  | float x =>
    obtain rfl := Option.some.inj found
    exact .float op x nonzero (made (by simpa using fails))
  | complex z =>
    obtain rfl := Option.some.inj found
    simp only [failsByZero_bind, not_failsByZero_rationalToDouble, false_or, failsByZero_divComplex,
      isZero_ofDouble] at fails
    obtain ⟨x, converted, rfl, zero⟩ := fails
    exact .complex z nonzero (made ⟨x, converted, zero⟩)
  | _ => cases found

/-- A zero divisor is met after the comparison only where converting it has made it zero. -/
theorem dividePlain_failsByZero_iff (nonzero : ¬ b.Vanishes)
    (found : dividePlain? op a b = some result) : FailsByZero result ↔ Underflows op a b := by
  constructor
  · intro fails
    cases b with
    | int n => exact absurd fails (not_failsByZero_of_int nonzero found)
    | float y =>
      have nonzero := (Binary.isZero_iff double_nonempty y).not.mpr nonzero
      exact absurd fails (not_failsByZero_of_float (Bool.eq_false_iff.mpr nonzero) found)
    | complex w =>
      have nonzero : w.isZero = false := by
        rw [Complex.isZero, Bool.eq_false_iff, Ne, Bool.and_eq_true,
          Binary.isZero_iff double_nonempty, Binary.isZero_iff double_nonempty]
        exact nonzero
      exact absurd fails (not_failsByZero_of_complex nonzero found)
    | decimal d =>
      have nonzero := (Decimal.isZero_iff d).not.mpr nonzero
      exact absurd fails (not_failsByZero_of_decimal (Bool.eq_false_iff.mpr nonzero) found)
    | rational q => exact underflows_of_rational nonzero found fails
    | _ => cases a <;> cases found
  · intro underflows
    obtain ⟨_, run, fails⟩ := underflows.dividePlain
    rw [found] at run
    exact Option.some.inj run ▸ fails

theorem vanishes_ofBool (n : Number) : n.ofBool.Vanishes ↔ n.Vanishes := by
  cases n with
  | bool b => cases b <;> simp [ofBool, Vanishes]
  | _ => exact Iff.rfl

/-- A truth value is neither a dividend nor a divisor of a division that underflows. -/
theorem underflows_ofBool_iff : Underflows op a.ofBool b.ofBool ↔ Underflows op a b := by
  constructor
  · intro underflows
    cases a <;> cases b <;> first | exact underflows | cases underflows
  · intro underflows
    cases underflows with
    | float op x nonzero tiny => exact .float op x nonzero tiny
    | complex z nonzero tiny => exact .complex z nonzero tiny

theorem divide_failsByZero_iff (plainA : a.hasFixedWidth = false) (plainB : b.hasFixedWidth = false)
    (nonzero : ¬ b.Vanishes) : FailsByZero (divide op a b) ↔ Underflows op a b := by
  have run : divide op a b = (dividePlain? op a.ofBool b.ofBool).getD (unsupported op a b) := by
    rw [divide, plainA, plainB]
    rfl
  rw [run, ← underflows_ofBool_iff]
  cases found : dividePlain? op a.ofBool b.ofBool with
  | some result => exact dividePlain_failsByZero_iff ((vanishes_ofBool b).not.mpr nonzero) found
  | none =>
    refine iff_of_false ?_ fun underflows => ?_
    · simp [unsupported, not_byZero_unsupported]
    · obtain ⟨_, some, _⟩ := underflows.dividePlain
      rw [found] at some
      cases some

theorem Underflows.kindName_ne (underflows : Underflows op a b) : a.kindName ≠ b.kindName := by
  cases underflows <;> simp [kindName]

theorem Underflows.not_vanishes (underflows : Underflows op a b) : ¬ b.Vanishes := by
  cases underflows with
  | float _ _ nonzero _ => exact nonzero
  | complex _ nonzero _ => exact nonzero

theorem safeDivide_failsByZero_iff (plainA : a.hasFixedWidth = false)
    (plainB : b.hasFixedWidth = false) :
    FailsByZero (a.safeDivide op b) ↔ Underflows op a b := by
  constructor
  · rintro ⟨fault, stopped, byZero⟩
    obtain compared | ⟨compared, divided⟩ := (guarded_error_iff _ _ a b fault).mp stopped
    -- The comparison itself stops only for a signaling NaN.
    · obtain rfl := isZero_error compared
      simp [Fault.ByZero, Fault.kind] at byZero
    · have nonzero : ¬ b.Vanishes := fun zero => by
        rw [isZero_eq_true_iff.mpr zero] at compared
        cases compared
      exact (divide_failsByZero_iff plainA plainB nonzero).mp ⟨fault, divided, byZero⟩
  · intro underflows
    have nonzero := underflows.not_vanishes
    have quiet : b.isSignaling = false := by cases underflows <;> rfl
    have compared : b.isZero = .ok false := (isZero_iff quiet false).mpr (by simpa using nonzero)
    obtain ⟨fault, divided, byZero⟩ := (divide_failsByZero_iff plainA plainB nonzero).mpr underflows
    exact ⟨fault, (guarded_error_iff _ _ a b fault).mpr (.inr ⟨compared, divided⟩), byZero⟩

end Number

namespace Value

theorem isZero_number (mark : Nat) (n : Number) : (number mark n).isZero = n.isZero := by
  simp [isZero, Number.isZero, equal, equalAs]

theorem safeDivide_number (op : Operator) (m n : Nat) (a b : Number) :
    (number m a).safeDivide op (number n b) = a.safeDivide op b := by
  rw [safeDivide, guarded, isZero_number]
  rfl

/-- The guarded division with its steps noted. -/
def notedDivide (op : Operator) (a b : Value) : Except Fault (Option Number) × List GuardStep :=
  (guarded (fun b => noting .comparison b.isZero) (fun a b => noting .division (a.divide op b))
    a b).run []

/-- The guard on two numbers of plain kinds: when it divides, when there is no quotient, which
faults it has, and that none of them is a division by zero unless the divisor underflows, which it
does only beside a number of another kind. -/
theorem safeDivide_guards_zero (op : Operator) (m n : Nat) (a b : Number)
    (plainA : a.hasFixedWidth = false) (plainB : b.hasFixedWidth = false) :
    let dividend := number m a
    let divisor := number n b
    let outcome := dividend.safeDivide op divisor
    notedDivide op dividend divisor = (outcome, guardSteps divisor.isZero) ∧
    (outcome = .ok .none ↔ b.Vanishes) ∧
    (∀ fault, outcome = .error fault ↔ divisor.isZero = .error fault ∨
      divisor.isZero = .ok false ∧ dividend.divide op divisor = .error fault) ∧
    (a.kindName = b.kindName → ¬ FailsByZero outcome) ∧
    (FailsByZero outcome ↔ Number.Underflows op a b) := by
  intro dividend divisor outcome
  have same : outcome = a.safeDivide op b := safeDivide_number op m n a b
  have underflow : FailsByZero outcome ↔ Number.Underflows op a b := by
    rw [same]
    exact Number.safeDivide_failsByZero_iff plainA plainB
  refine ⟨guarded_noting isZero (divide op) dividend divisor, ?_,
    guarded_error_iff isZero (divide op) dividend divisor, ?_, underflow⟩
  · rw [same, ← Number.isZero_eq_true_iff]
    exact guarded_eq_none_iff _ _ a b
  · intro kinds fails
    exact (underflow.mp fails).kindName_ne kinds

/-- Half the least positive double under the guard: the one division by zero that it lets through. -/
theorem safeDivide_by_half_unit :
    FailsByZero ((number 0 (.float (.zero false))).safeDivide .floor
      (number 1 (.rational (1 / 2 ^ 1075)))) := by
  have guards := safeDivide_guards_zero .floor 0 1 (.float (.zero false))
    (.rational (1 / 2 ^ 1075)) rfl rfl
  refine guards.2.2.2.2.mpr (.float _ _ (by positivity) ?_)
  rw [abs_of_pos (by positivity)]

end Value

end ZeroGuard
