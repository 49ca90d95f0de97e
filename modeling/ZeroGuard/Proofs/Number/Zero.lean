import ZeroGuard.Proofs.Power
import ZeroGuard.Service

namespace ZeroGuard

namespace Format

theorem nearestRank_zero (f : Format) (d : Nat) : f.nearestRank 0 d = 0 := by
  simp [nearestRank, roundDiv]

theorem units_eq_zero_iff (f : Format) (rank : Nat) : f.units rank = 0 ↔ rank = 0 := by
  have split := Nat.div_add_mod rank (twoPow f.fractionBits)
  have power := twoPow_pos f.fractionBits
  simp only [units]
  split_ifs with first
  · rw [first, Nat.mul_zero, Nat.zero_add] at split
    rw [split]
  · have positive := twoPow_pos (rank / twoPow f.fractionBits - 1)
    refine iff_of_false (Nat.mul_pos (by omega) positive).ne' ?_
    rintro rfl
    exact first (Nat.zero_div _)

end Format

namespace Binary

variable {f g : Format}

theorem ofUnits_zero (negative : Bool) (d : Nat) :
    (ofUnits negative 0 d : Binary f) = .zero negative := by
  simp only [zero, ofUnits, f.nearestRank_zero]

theorem zero_eq (nonempty : 0 < f.size) (negative : Bool) :
    (zero negative : Binary f) = .finite negative ⟨0, nonempty⟩ := by
  simp [zero, ofUnits, f.nearestRank_zero, nonempty]

theorem ofInt_zero : (ofInt 0 : Binary f) = .zero false := by
  simp only [ofInt, ofRatio, Int.natAbs_zero, Nat.zero_mul, ofUnits_zero]
  rfl

theorem convert_zero (nonempty : 0 < f.size) (negative : Bool) :
    (convert (zero negative : Binary f) : Binary g) = .zero negative := by
  have none : f.units 0 = 0 := (f.units_eq_zero_iff 0).mpr rfl
  simp only [zero_eq nonempty, convert, ofRatio, none, Nat.zero_mul, ofUnits_zero]

theorem isZero_iff (nonempty : 0 < f.size) (x : Binary f) :
    x.isZero = true ↔ ∃ negative, x = .zero negative := by
  simp only [zero_eq nonempty]
  cases x with
  | nan => simp [isZero]
  | infinite negative => simp [isZero]
  | finite negative rank => simp [isZero, Fin.ext_iff]

end Binary

theorem ExactValue.ofRatio_eq_zero_iff (negative : Bool) (n d : Nat) (twos fives : Int) :
    ExactValue.ofRatio negative n d twos fives = .zero ↔ n = 0 := by
  rcases Nat.eq_zero_or_pos n with rfl | positive
  · simp [ExactValue.ofRatio]
  · refine iff_of_false ?_ positive.ne'
    have rest : 0 < (stripFactor 5 (searchBits n) (stripFactor 2 (searchBits n) n).1).1 :=
      stripFactor_pos 5 _ (stripFactor_pos 2 _ positive)
    intro same
    simp only [ExactValue.ofRatio, if_neg positive.ne', ExactValue.zero, ExactValue.mk.injEq] at same
    have common := Nat.div_gcd_pos_of_pos_left
      (stripFactor 5 (searchBits d) (stripFactor 2 (searchBits d) d).1).1 rest
    omega

theorem Decimal.isZero_iff (d : Decimal) :
    d.isZero = true ↔ ∃ negative exponent, d = .finite negative 0 exponent := by
  cases d <;> simp [Decimal.isZero]

namespace Number

/-- The zeros of each kind. A float has one of either sign, and a decimal one of either sign for
every exponent. -/
def Vanishes : Number → Prop
  | bool b => b = false
  | int n => n = 0
  | float x | float64 x => ∃ negative, x = .zero negative
  | complex z => (∃ negative, z.re = .zero negative) ∧ ∃ negative, z.im = .zero negative
  | decimal d => ∃ negative exponent, d = .finite negative 0 exponent
  | rational q => q = 0
  | float32 x => ∃ negative, x = .zero negative
  | int8 n => n.toInt = 0
  | int64 n => n.toInt = 0

theorem ofInt_eq_zero_iff (n : Int) : Magnitude.ofInt n = .value .zero ↔ n = 0 := by
  simp [Magnitude.ofInt, ExactValue.ofRatio_eq_zero_iff]

theorem ofBinary?_eq_zero_iff {f : Format} (nonempty : 0 < f.size) (x : Binary f) :
    Magnitude.ofBinary? x = some (.value .zero) ↔ ∃ negative, x = .zero negative := by
  rw [← Binary.isZero_iff nonempty]
  cases x with
  | nan => simp [Magnitude.ofBinary?, Binary.isZero]
  | infinite negative => simp [Magnitude.ofBinary?, Binary.isZero]
  | finite negative rank =>
    simp [Magnitude.ofBinary?, Binary.isZero, ExactValue.ofRatio_eq_zero_iff, f.units_eq_zero_iff]

theorem ofDecimal?_eq_zero_iff (d : Decimal) : Magnitude.ofDecimal? d = some (.value .zero) ↔
    ∃ negative exponent, d = .finite negative 0 exponent := by
  cases d <;> simp [Magnitude.ofDecimal?, ExactValue.ofRatio_eq_zero_iff]

theorem double_nonempty : 0 < Format.double.size := by decide

theorem single_nonempty : 0 < Format.single.size := by decide

/-- A number is worth zero only if it is a zero of its kind. -/
theorem magnitudes?_eq_zero_iff (n : Number) :
    n.magnitudes? = some (.value .zero, .value .zero) ↔ n.Vanishes := by
  have origin : Magnitude.ofInt 0 = .value .zero := (ofInt_eq_zero_iff 0).mpr rfl
  cases n with
  | bool b => cases b <;> simp [magnitudes?, Vanishes, ofInt_eq_zero_iff]
  | int n => simp [magnitudes?, Vanishes, ofInt_eq_zero_iff]
  | float x | float64 x =>
    rw [Vanishes, ← ofBinary?_eq_zero_iff double_nonempty]
    cases found : Magnitude.ofBinary? x <;> simp [magnitudes?, found, origin]
  | complex z =>
    rw [Vanishes, ← ofBinary?_eq_zero_iff double_nonempty, ← ofBinary?_eq_zero_iff double_nonempty]
    cases re : Magnitude.ofBinary? z.re <;> cases im : Magnitude.ofBinary? z.im <;>
      simp [magnitudes?, re, im]
  | decimal d =>
    rw [Vanishes, ← ofDecimal?_eq_zero_iff]
    cases found : Magnitude.ofDecimal? d <;> simp [magnitudes?, found, origin]
  | rational q => simp [magnitudes?, Vanishes, Magnitude.ofRat, origin, ExactValue.ofRatio_eq_zero_iff]
  | float32 x =>
    rw [Vanishes, ← ofBinary?_eq_zero_iff single_nonempty]
    cases found : Magnitude.ofBinary? x <;> simp [magnitudes?, found, origin]
  | int8 n | int64 n => simp [magnitudes?, Vanishes, ofInt_eq_zero_iff]

theorem intToDouble_zero : intToDouble 0 = .ok (.zero false) := by
  rw [intToDouble, Binary.ofInt_zero, Binary.zero_eq double_nonempty]
  rfl

/-- The integer 0 stays a zero when it is rounded to the kind of the number beside it. -/
theorem roundedBeside_zero (n : Number) :
    ∃ origin, roundedBeside n (.int 0) = .ok origin ∧ origin.Vanishes := by
  cases n
  case float64 =>
    refine ⟨.float64 (.zero false), ?_, false, rfl⟩
    simp only [roundedBeside, intToDouble_zero]
    rfl
  case float32 =>
    refine ⟨.float32 (.zero false), ?_, false, rfl⟩
    simp only [roundedBeside, intToDouble_zero]
    exact congrArg (fun x => Except.ok (float32 x)) (Binary.convert_zero double_nonempty false)
  all_goals exact ⟨.int 0, rfl, rfl⟩

theorem isZero_of_signaling {n : Number} (signaling : n.isSignaling = true) :
    n.isZero = .error (.signal .invalid) := by
  simp [isZero, equal, signaling, isImaginary]

/-- A comparison with zero that is made at all tells exactly the zeros. -/
theorem isZero_iff {n : Number} (quiet : n.isSignaling = false) (zero : Bool) :
    n.isZero = .ok zero ↔ (zero = true ↔ n.Vanishes) := by
  obtain ⟨origin, rounded, vanishes⟩ := roundedBeside_zero n
  have plain : roundedBeside (.int 0) n = .ok n := by cases n <;> rfl
  have worth := (magnitudes?_eq_zero_iff origin).mpr vanishes
  have same : n.sameValue origin = true ↔ n.Vanishes := by
    rw [← magnitudes?_eq_zero_iff]
    cases found : n.magnitudes? <;> simp [sameValue, worth, found]
  have run : n.isZero = .ok (n.sameValue origin) := by
    simp only [isZero, equal, quiet, plain, rounded]
    rfl
  rw [run, Except.ok.injEq, ← same]
  cases zero <;> simp

theorem isSignaling_of_vanishes {n : Number} (zero : n.Vanishes) : n.isSignaling = false := by
  cases n with
  | decimal d =>
    obtain ⟨negative, exponent, rfl⟩ := zero
    rfl
  | _ => rfl

theorem isZero_eq_true_iff {n : Number} : n.isZero = .ok true ↔ n.Vanishes := by
  cases loud : n.isSignaling with
  | false => simp [isZero_iff loud]
  | true =>
    refine iff_of_false (by simp [isZero_of_signaling loud]) fun zero => ?_
    rw [isSignaling_of_vanishes zero] at loud
    cases loud

theorem isZero_error {n : Number} {fault : Fault} (stopped : n.isZero = .error fault) :
    fault = .signal .invalid := by
  cases loud : n.isSignaling with
  | true =>
    rw [isZero_of_signaling loud] at stopped
    exact (Except.error.inj stopped).symm
  | false =>
    by_cases zero : n.Vanishes
    · rw [isZero_eq_true_iff.mpr zero] at stopped
      cases stopped
    · rw [(isZero_iff loud false).mpr (iff_of_false nofun zero)] at stopped
      cases stopped

end Number

end ZeroGuard
