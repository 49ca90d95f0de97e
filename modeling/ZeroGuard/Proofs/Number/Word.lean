import ZeroGuard.Operand
import ZeroGuard.Proofs.Binary.Exact
import ZeroGuard.Proofs.Number.Floor
import ZeroGuard.Proofs.Number.Nearest

namespace ZeroGuard

/-- The integers that are words. -/
def FitsWord (n : ℤ) : Prop :=
  -2 ^ 63 ≤ n ∧ n < 2 ^ 63

variable {a b n : ℤ} {w : Int64}

theorem fitsWord_toInt (w : Int64) : FitsWord w.toInt :=
  ⟨w.le_toInt, w.toInt_lt⟩

theorem FitsWord.toInt_ofInt (fits : FitsWord n) : (Int64.ofInt n).toInt = n :=
  Int64.toInt_ofInt_of_le fits.1 fits.2

theorem FitsWord.natAbs_le (fits : FitsWord n) : n.natAbs ≤ 2 ^ 63 := by
  obtain ⟨lower, upper⟩ := fits
  omega

namespace Number

theorem intToWord_eq_ok_iff : intToWord n = .ok w ↔ w.toInt = n := by
  have bound : wordBound = 2 ^ 63 := rfl
  rw [intToWord, bound]
  split_ifs with fits
  · rw [Except.ok.injEq, ← Int64.toInt_inj, FitsWord.toInt_ofInt fits, eq_comm]
  · refine iff_of_false nofun ?_
    rintro rfl
    exact fits (fitsWord_toInt w)

end Number

theorem Operand.convert_int64_iff {raw : Operand} :
    raw.convert .int64 = .ok (.int64 w) ↔ raw.convert .int = .ok (.int w.toInt) := by
  constructor
  · intro converted
    obtain ⟨n, read, rest⟩ := bind_eq_ok_iff.mp converted
    obtain ⟨_, word, same⟩ := bind_eq_ok_iff.mp rest
    cases same
    rw [Number.intToWord_eq_ok_iff.mp word]
    exact map_eq_ok_iff.mpr ⟨n, read, rfl⟩
  · intro converted
    obtain ⟨n, read, same⟩ := map_eq_ok_iff.mp converted
    have word : Number.intToWord n = .ok w := Number.intToWord_eq_ok_iff.mpr (Number.int.inj same).symm
    exact bind_eq_ok_iff.mpr ⟨n, read, bind_eq_ok_iff.mpr ⟨w, word, rfl⟩⟩

/-- Of the quotients of words only that of the least by minus one is beyond them. -/
theorem FitsWord.fdiv (fits : FitsWord a) (nonzero : b ≠ 0) (other : ¬ (a = -2 ^ 63 ∧ b = -1)) :
    FitsWord (a.fdiv b) := by
  have large := fits.natAbs_le
  obtain ⟨lower, upper⟩ := fits
  by_cases upright : b = 1
  · rw [upright, Int.fdiv_one]
    exact ⟨lower, upper⟩
  by_cases negated : b = -1
  · have quotient : -a = a.fdiv (-1) :=
      (flooredQuotient_iff (by decide)).mp ⟨0, by ring, .inr ⟨by decide, le_rfl⟩⟩
    rw [negated, ← quotient]
    constructor <;> omega
  -- Any other divisor halves the magnitude, which makes room for the step of the floor.
  · have half : a.natAbs / b.natAbs ≤ 2 ^ 62 :=
      Nat.div_le_of_le_mul (large.trans (Nat.mul_le_mul_right (2 ^ 62) (by omega : 2 ≤ b.natAbs)))
    have bounded := natAbs_fdiv_le a nonzero
    constructor <;> omega

/-- A magnitude of a word, or one more than the greatest word, is short enough to be written. -/
theorem lt_digits_of_le {n : Nat} (bounded : n ≤ 2 ^ 63) : n < 10 ^ 4300 :=
  calc n ≤ 2 ^ 63 := bounded
    _ ≤ 10 ^ 63 := Nat.pow_le_pow_left (by decide) 63
    _ < 10 ^ 4300 := pow_lt_pow_right₀ (by decide) (by decide)

namespace Number

theorem divWord_floor (v : Int64) (nonzero : w.toInt ≠ 0) :
    divWord .floor v w = .ok (.int64 (Int64.ofInt (v.toInt.fdiv w.toInt))) := by
  rw [divWord, wordQuotient, if_neg nonzero]

/-- A double holds every integer of 53 binary digits. -/
theorem isFinite_ofInt (small : |n| ≤ 2 ^ 53) : (.ofInt n : Double).isFinite = true := by
  have within := abs_ratio_lt 53 (b := 1) small (by decide) one_ne_zero
  rw [abs_ratio, ← Format.double_overflow] at within
  exact Binary.ofRatio_isFinite (by decide) _ _ one_pos within

theorem divWord_quotient {v : Int64} (dividend : |v.toInt| ≤ 2 ^ 53) (divisor : |w.toInt| ≤ 2 ^ 53)
    (nonzero : w.toInt ≠ 0) :
    divWord .quotient v w = .ok (.float64 (.ofRatio (decide (v.toInt < 0) != decide (w.toInt < 0))
      v.toInt.natAbs w.toInt.natAbs)) := by
  have digits : ∀ n : ℤ, |n| ≤ 2 ^ 53 → n.natAbs ≤ 2 ^ (Format.double.fractionBits + 1) := by
    intro n small
    rw [Int.abs_eq_natAbs] at small
    exact_mod_cast small
  rw [divWord, Binary.div_ofInt (digits _ dividend) (digits _ divisor) (isFinite_ofInt dividend)
    (isFinite_ofInt divisor) nonzero]

end Number

end ZeroGuard
