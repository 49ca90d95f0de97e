import ZeroGuard.Operand
import ZeroGuard.Proofs.Binary.FloorDiv
import ZeroGuard.Proofs.Binary.Overflow
import ZeroGuard.Proofs.Decimal.Failure
import ZeroGuard.Proofs.Number.Zero
import ZeroGuard.Proofs.Outcome

namespace ZeroGuard

/-- The numbers of each numeric type. -/
inductive NumericType.Has : NumericType → Number → Prop
  | int (n : Int) : Has .int (.int n)
  | float (x : Double) : Has .float (.float x)
  | decimal (d : Decimal) : Has .decimal (.decimal d)
  | fraction (q : Rat) : Has .fraction (.rational q)
  | float32 (x : Single) : Has .float32 (.float32 x)
  | float64 (x : Double) : Has .float64 (.float64 x)
  | int64 (n : Int64) : Has .int64 (.int64 n)

/-- The first ratio that is rounded to an infinity lies halfway from the last finite double to the
next power of two. -/
theorem Format.double_overflow :
    Format.double.overflowUnits / 2 ^ Format.double.scale = 2 ^ 1024 - 2 ^ 970 := by
  have shape : Format.double.overflowUnits = (2 ^ 53 - 1 / 2) * 2 ^ 2045 := rfl
  have binade : (2 : ℚ) ^ 2045 = 2 * 2 ^ 970 * 2 ^ 1074 := by rw [← pow_succ', ← pow_add]
  have last : (2 : ℚ) ^ 1024 = 2 ^ 53 * 2 * 2 ^ 970 := by rw [← pow_succ, ← pow_add]
  have scale : Format.double.scale = 1074 := rfl
  rw [shape, binade, last, scale, div_eq_iff (by positivity)]
  generalize (2 : ℚ) ^ 970 = half
  generalize (2 : ℚ) ^ 1074 = unit
  ring

namespace Number

theorem finiteOr_error_iff (range fault : Fault) (x : Double) :
    finiteOr range x = .error fault ↔ fault = range ∧ ∃ negative, x = .infinite negative := by
  cases x <;> simp [finiteOr, eq_comm]

theorem finiteOr_eq_ok_iff (range : Fault) (x y : Double) :
    finiteOr range x = .ok y ↔ (¬ ∃ negative, x = .infinite negative) ∧ y = x := by
  cases x <;> simp [finiteOr, eq_comm]

theorem intToDouble_error {n : Int} {fault : Fault} (failed : intToDouble n = .error fault) :
    fault = .doubleRange := by
  rw [intToDouble, finiteOr_error_iff] at failed
  exact failed.1

theorem abs_ratio (a b : Int) : |(a : ℚ) / b| = (a.natAbs : ℚ) / b.natAbs := by
  rw [abs_div, Nat.cast_natAbs, Nat.cast_natAbs, Int.cast_abs, Int.cast_abs]

theorem abs_rational (q : ℚ) : |q| = (q.num.natAbs : ℚ) / q.den := by
  have ratio := abs_ratio q.num q.den
  rwa [Int.cast_natCast, Rat.num_div_den, Int.natAbs_natCast] at ratio

theorem intRatio_error_iff (a : Int) {b : Int} (nonzero : b ≠ 0) (fault : Fault) :
    intRatio a b = .error fault ↔
      fault = .quotientRange ∧ 2 ^ 1024 - 2 ^ 970 ≤ |(a : ℚ) / b| := by
  rw [intRatio, finiteOr_error_iff, Binary.ofRatio_infinite_iff (by decide) _ _
    (Int.natAbs_pos.mpr nonzero), Format.double_overflow, abs_ratio]

@[simp] theorem divide_int (op : Operator) (a b : Int) :
    divide op (.int a) (.int b) = divInt op a b := rfl

@[simp] theorem divide_float (op : Operator) (x y : Double) :
    divide op (.float x) (.float y) = divDouble op x y := rfl

@[simp] theorem divide_decimal (op : Operator) (a b : Decimal) :
    divide op (.decimal a) (.decimal b) = (a.divide op b).map .decimal := by
  cases op <;> rfl

@[simp] theorem divide_rational (op : Operator) (a b : Rat) :
    divide op (.rational a) (.rational b) = divRational op a b := rfl

@[simp] theorem divide_float32 (op : Operator) (x y : Single) :
    divide op (.float32 x) (.float32 y) = .ok (.float32 (quotientOf op x y)) := by
  cases op <;> rfl

@[simp] theorem divide_float64 (op : Operator) (x y : Double) :
    divide op (.float64 x) (.float64 y) = .ok (.float64 (quotientOf op x y)) := by
  cases op <;> rfl

@[simp] theorem divide_int64 (op : Operator) (m n : Int64) :
    divide op (.int64 m) (.int64 n) = divWord op m n := by
  cases op <;> rfl

/-- The divisions that fail although the divisor is not zero. -/
inductive DivisionFails : NumericType → Operator → Number → Number → Prop
  | int {a b : Int} : 2 ^ 1024 - 2 ^ 970 ≤ |(a : ℚ) / b| →
      DivisionFails .int .quotient (.int a) (.int b)
  | decimal {op : Operator} {a b : Decimal} : a.Fails op b →
      DivisionFails .decimal op (.decimal a) (.decimal b)

variable {type : NumericType} {op : Operator} {a b : Number}

theorem DivisionFails.type_cases (fails : DivisionFails type op a b) :
    type = .int ∧ op = .quotient ∨ type = .decimal := by
  cases fails with
  | int => exact .inl ⟨rfl, rfl⟩
  | decimal => exact .inr rfl

theorem divInt_quotient_error_iff (a : Int) {b : Int} (nonzero : b ≠ 0) :
    (∃ fault, divInt .quotient a b = .error fault) ↔ 2 ^ 1024 - 2 ^ 970 ≤ |(a : ℚ) / b| := by
  simp only [divInt, if_neg nonzero, map_eq_error_iff, intRatio_error_iff a nonzero, exists_eq_left]

/-- Division of plain doubles differs from that in the fixed format only for a zero divisor. -/
theorem divDouble_eq (op : Operator) (x : Double) {y : Double} (nonzero : y.isZero = false) :
    divDouble op x y = .ok (.float (quotientOf op x y)) := by
  cases op with
  | quotient => simp [divDouble, quotientOf, nonzero]
  | floor => simp [divDouble, quotientOf, nonzero, Binary.fixedFloorDiv_eq x nonzero]

theorem divRational_ok (op : Operator) (a : Rat) {b : Rat} (nonzero : b ≠ 0) :
    ∃ q, divRational op a b = .ok q := by
  cases op with
  | quotient => exact ⟨_, if_neg nonzero⟩
  | floor =>
    have denominator : (a.den : Int) * b.num ≠ 0 :=
      mul_ne_zero (by exact_mod_cast a.den_nz) (Rat.num_ne_zero.mpr nonzero)
    exact ⟨_, if_neg denominator⟩

/-- A quotient of words is a word or a double, and both can be written. -/
theorem divWord_text (op : Operator) (m n : Int64) :
    ∃ q text, divWord op m n = .ok q ∧ q.text = .ok text := by
  cases op with
  | quotient => exact ⟨_, _, rfl, rfl⟩
  | floor => exact ⟨_, _, rfl, rfl⟩

/-- A divisor that is not zero leaves only two types in which a division can fail. -/
theorem divide_error_iff (hasA : type.Has a) (hasB : type.Has b) (nonzero : ¬ b.Vanishes) :
    (∃ fault, divide op a b = .error fault) ↔ DivisionFails type op a b := by
  have unfailing : (∃ q, divide op a b = .ok q) → type ≠ .int → type ≠ .decimal →
      ((∃ fault, divide op a b = .error fault) ↔ DivisionFails type op a b) := by
    rintro ⟨q, run⟩ notInt notDecimal
    refine iff_of_false (by simp [run]) ?_
    rintro (_ | _)
    · exact notInt rfl
    · exact notDecimal rfl
  cases hasA <;> cases hasB
  case int.int m n =>
    cases op with
    | quotient =>
      rw [divide_int, divInt_quotient_error_iff m nonzero]
      exact ⟨.int, fun | .int large => large⟩
    | floor =>
      refine iff_of_false ?_ nofun
      simp [divInt, if_neg (show n ≠ 0 from nonzero)]
  case decimal.decimal c d =>
    have nonzero : d.isZero = false :=
      Bool.eq_false_iff.mpr fun zero => nonzero ((Decimal.isZero_iff d).mp zero)
    simp only [divide_decimal, map_eq_error_iff, Decimal.divide_error_iff op nonzero]
    exact ⟨.decimal, fun | .decimal fails => fails⟩
  case float.float x y =>
    have nonzero : y.isZero = false :=
      Bool.eq_false_iff.mpr fun zero => nonzero ((Binary.isZero_iff double_nonempty y).mp zero)
    exact unfailing ⟨_, divDouble_eq op x nonzero⟩ nofun nofun
  case fraction.fraction p q =>
    exact unfailing (divide_rational op p q ▸ divRational_ok op p nonzero) nofun nofun
  case float32.float32 x y => exact unfailing ⟨_, divide_float32 op x y⟩ nofun nofun
  case float64.float64 x y => exact unfailing ⟨_, divide_float64 op x y⟩ nofun nofun
  case int64.int64 m n =>
    obtain ⟨q, -, run, -⟩ := divWord_text op m n
    exact unfailing ⟨q, (divide_int64 op m n).trans run⟩ nofun nofun

/-- The faults of a division by a divisor that is not zero. -/
theorem divide_error_cases (hasA : type.Has a) (hasB : type.Has b) (nonzero : ¬ b.Vanishes)
    {fault : Fault} (failed : divide op a b = .error fault) :
    fault = .quotientRange ∨ ∃ cause, fault = .signal cause := by
  cases (divide_error_iff hasA hasB nonzero).mp ⟨fault, failed⟩ with
  | @int m n large =>
    have run : divInt .quotient m n = (intRatio m n).map float := if_neg nonzero
    rw [divide_int, run, map_eq_error_iff, intRatio_error_iff m nonzero] at failed
    exact .inl failed.1
  | decimal fails =>
    rw [divide_decimal, map_eq_error_iff] at failed
    obtain ⟨cause, signal, -⟩ := Decimal.divide_error_signal failed
    exact .inr ⟨cause, signal⟩

theorem divide_error_arithmetic (hasA : type.Has a) (hasB : type.Has b) (nonzero : ¬ b.Vanishes)
    {fault : Fault} (failed : divide op a b = .error fault) : fault.kind.isArithmetic = true := by
  rcases divide_error_cases hasA hasB nonzero failed with rfl | ⟨cause, rfl⟩
  · rfl
  · cases cause <;> rfl

end Number

end ZeroGuard
