import Mathlib.Tactic.Ring
import ZeroGuard.Integer
import ZeroGuard.Proofs.Outcome
import ZeroGuard.Proofs.Power

namespace ZeroGuard

theorem isAsciiDigit_value {c : Char} (digit : isAsciiDigit c = true) :
    c.toNat - '0'.toNat < 10 := by
  rw [isAsciiDigit, Bool.and_eq_true, decide_eq_true_iff, decide_eq_true_iff] at digit
  have last : c.toNat ≤ '9'.toNat := digit.2
  have code : '9'.toNat = '0'.toNat + 9 := rfl
  omega

theorem foldl_digits_lt (digits : List Char) (all : ∀ c ∈ digits, isAsciiDigit c = true)
    (value : Nat) : digits.foldl (fun value c => 10 * value + (c.toNat - '0'.toNat)) value <
      (value + 1) * 10 ^ digits.length := by
  induction digits generalizing value with
  | nil => simp
  | cons c rest ih =>
    have digit := isAsciiDigit_value (all c List.mem_cons_self)
    have later := ih (fun d member => all d (List.mem_cons_of_mem c member))
      (10 * value + (c.toNat - '0'.toNat))
    rw [List.foldl_cons, List.length_cons, pow_succ', ← mul_assoc]
    exact lt_of_lt_of_le later (Nat.mul_le_mul_right _ (by omega))

theorem digitsValue_lt {digits : List Char} (all : ∀ c ∈ digits, isAsciiDigit c = true) :
    digitsValue digits < 10 ^ digits.length := by
  simpa [digitsValue] using foldl_digits_lt digits all 0

theorem readDigits_lt {digits : List Char} {n : Nat} (all : ∀ c ∈ digits, isAsciiDigit c = true)
    (run : readDigits digits = .ok n) : n < 10 ^ 4300 := by
  rw [readDigits] at run
  split_ifs at run with few
  cases run
  rw [digitLimit] at few
  exact (digitsValue_lt all).trans_le (pow_le_pow_right₀ (by decide) few)

theorem digitTail_digits (text : List Char) :
    ∀ c ∈ (digitTail text).1, isAsciiDigit c = true := by
  fun_induction digitTail text with
  | case1 => simp
  | case2 c digit => simpa using digit
  | case3 c _ => simp
  | case4 c d rest digit more ih => exact List.forall_mem_cons.mpr ⟨digit, ih⟩
  | case5 c d rest _ digit more ih => exact List.forall_mem_cons.mpr ⟨digit.2, ih⟩
  | case6 => simp

theorem digitGroup_digits (text : List Char) :
    ∀ c ∈ (digitGroup text).1, isAsciiDigit c = true := by
  cases text with
  | nil => simp [digitGroup]
  | cons c rest =>
    simp only [digitGroup]
    split_ifs with digit
    · exact List.forall_mem_cons.mpr ⟨digit, digitTail_digits rest⟩
    · simp

theorem natAbs_signed (negative : Bool) (n : Nat) :
    (if negative = true then -(n : Int) else n).natAbs = n := by
  cases negative <;> simp

theorem readInteger_lt {text : String} {n : Int} (run : readInteger text = .ok n) :
    n.natAbs < 10 ^ 4300 := by
  simp only [readInteger] at run
  split at run
  · cases run
  · cases run
  · rename_i digits rest _ _ found
    have all := digitGroup_digits (splitSign ((asciiNumeral text.toList).dropWhile isAsciiBlank)).2
    rw [found] at all
    obtain ⟨magnitude, read, run⟩ := bind_eq_ok_iff.mp run
    split at run
    · cases run
      rw [natAbs_signed]
      exact readDigits_lt all read
    · cases run

end ZeroGuard
