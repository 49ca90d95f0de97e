import ZeroGuard.Binary.Arithmetic

namespace ZeroGuard.Binary

variable {f : Format} {x y : Binary f}

theorem isNegative_ofUnits (negative : Bool) (n d : Nat) :
    (ofUnits negative n d : Binary f).isNegative = negative := by
  simp only [ofUnits]
  split <;> rfl

theorem isNaN_ofUnits (negative : Bool) (n d : Nat) :
    (ofUnits negative n d : Binary f).isNaN = false := by
  simp only [ofUnits]
  split <;> rfl

@[simp] theorem sub_nan (x : Binary f) : x.sub nan = nan := by
  cases x <;> rfl

/-- The quotient of finite numbers by a divisor that is not zero is never a NaN. -/
theorem div_finite {a b : Bool} {r s : Fin f.size} (nonzero : (finite b s).isZero = false) :
    (finite a r).div (finite b s) = ofRatio (a != b) (f.units r) (f.units s) :=
  if_neg (by simpa [isZero] using nonzero)

/-- The sign of a quotient that is a number. A zero divisor has none to give. -/
theorem isNegative_div (nonzero : y.isZero = false) (number : (x.div y).isNaN = false) :
    (x.div y).isNegative = (x.isNegative != y.isNegative) := by
  cases x with
  | nan => cases number
  | infinite a =>
    cases y with
    | nan | infinite => cases number
    | finite b s => rfl
  | finite a r =>
    cases y with
    | nan => cases number
    | infinite b => exact isNegative_ofUnits ..
    | finite b s =>
      rw [div_finite nonzero]
      exact isNegative_ofUnits ..

/-- Where there is no quotient there is no remainder either. -/
theorem rem_eq_nan (nonzero : y.isZero = false) (none : (x.div y).isNaN = true) :
    x.rem y = nan := by
  cases x with
  | nan => rfl
  | infinite a => cases y <;> rfl
  | finite a r =>
    cases y with
    | nan => rfl
    | infinite b =>
      have number : ((finite a r).div (infinite b)).isNaN = false := isNaN_ofUnits ..
      rw [number] at none
      cases none
    | finite b s =>
      rw [div_finite nonzero, ofRatio, isNaN_ofUnits] at none
      cases none

/-- The two ways to a floored quotient meet unless the divisor is zero. They give a zero quotient its
sign in different ways: one takes that of the plain quotient, and one makes it of the operands'. -/
theorem fixedFloorDiv_eq (x : Binary f) (nonzero : y.isZero = false) :
    x.fixedFloorDiv y = x.floorDiv y := by
  have carried (quotient other : Binary f) :
      (if (x.rem y).isZero then (quotient, zero y.isNegative)
        else if lt y (zero false) != lt (x.rem y) (zero false) then (other, (x.rem y).add y)
        else (quotient, x.rem y)).1 =
      if !(x.rem y).isZero && (lt y (zero false) != lt (x.rem y) (zero false)) then other
        else quotient := by
    cases (x.rem y).isZero <;> cases lt y (zero false) != lt (x.rem y) (zero false) <;> rfl
  simp only [fixedFloorDiv, nonzero, Bool.false_eq_true, if_false, divMod, floorDiv, carried]
  cases number : (x.div y).isNaN with
  | false => rw [isNegative_div nonzero number]
  | true =>
    -- there is no quotient that could be a zero
    have none : ∀ b : Bool, (if b then (nan : Binary f).sub one else nan) = nan := by
      intro b
      cases b <;> rfl
    have nanDiv : (nan : Binary f).div y = nan := rfl
    simp only [rem_eq_nan nonzero number, sub_nan, nanDiv, none, isZero, Bool.false_eq_true, if_false]

end ZeroGuard.Binary
