import ZeroGuard.Decimal.Basic
import ZeroGuard.Proofs.Integer

namespace ZeroGuard

/-- A character that stays what and where it is when a numeral is prepared for reading. -/
def IsPlain (c : Char) : Prop :=
  isBlank c = false ∧ c ≠ '_' ∧ asciiDigit c = c ∧ c.toNat < 0x80

instance : DecidablePred IsPlain := fun c =>
  inferInstanceAs (Decidable (isBlank c = false ∧ c ≠ '_' ∧ asciiDigit c = c ∧ c.toNat < 0x80))

variable {digits rest text : List Char} {c : Char}

theorem isPlain_of_all (plain : text.all (fun c => IsPlain c) = true) : ∀ c ∈ text, IsPlain c :=
  fun c member => of_decide_eq_true (List.all_eq_true.mp plain c member)

theorem mem_of_all {chars marks : List Char} (all : chars.all marks.contains = true) :
    ∀ c ∈ chars, c ∈ marks :=
  fun c member => List.contains_iff_mem.mp (List.all_eq_true.mp all c member)

theorem isAsciiDigit_eq_ofNat (digit : isAsciiDigit c = true) :
    ∃ value : Fin 10, c = Char.ofNat ('0'.toNat + value) := by
  have small := isAsciiDigit_value digit
  have zero : '0'.toNat ≤ c.toNat := by
    rw [isAsciiDigit, Bool.and_eq_true, decide_eq_true_iff, decide_eq_true_iff] at digit
    exact digit.1
  refine ⟨⟨c.toNat - '0'.toNat, small⟩, ?_⟩
  rw [Nat.add_sub_cancel' zero, Char.ofNat_toNat]

theorem isPlain_of_isAsciiDigit (digit : isAsciiDigit c = true) : IsPlain c := by
  have all : ∀ value : Fin 10, IsPlain (Char.ofNat ('0'.toNat + value)) := by decide
  obtain ⟨value, rfl⟩ := isAsciiDigit_eq_ofNat digit
  exact all value

theorem toLower_of_isAsciiDigit (digit : isAsciiDigit c = true) : c.toLower = c := by
  have all : ∀ value : Fin 10, (Char.ofNat ('0'.toNat + value)).toLower =
      Char.ofNat ('0'.toNat + value) := by decide
  obtain ⟨value, rfl⟩ := isAsciiDigit_eq_ofNat digit
  exact all value

theorem digitValue?_lt {value : Nat} (found : digitValue? c = some value) : value < 10 := by
  obtain ⟨base, -, inside⟩ := List.exists_of_findSome?_eq_some found
  split_ifs at inside with bounds
  obtain rfl := Option.some.inj inside
  omega

/-- What is no digit stands for itself. -/
theorem eq_of_asciiDigit_eq {d : Char} (other : isAsciiDigit d = false) (same : asciiDigit c = d) :
    c = d := by
  have digits : ∀ value < 10, isAsciiDigit (Nat.digitChar value) = true := by decide
  unfold asciiDigit at same
  split at same
  · rename_i found
    rw [← same, digits _ (digitValue?_lt found)] at other
    cases other
  · exact same

theorem isDecimalDigit_of_isAsciiDigit (digit : isAsciiDigit c = true) : isDecimalDigit c = true := by
  have all : ∀ value : Fin 10, isDecimalDigit (Char.ofNat ('0'.toNat + value)) = true := by decide
  obtain ⟨value, rfl⟩ := isAsciiDigit_eq_ofNat digit
  exact all value

theorem isDecimalDigit_of_asciiDigit (digit : isAsciiDigit (asciiDigit c) = true) :
    isDecimalDigit c = true := by
  unfold asciiDigit at digit
  split at digit
  · rename_i found
    rw [isDecimalDigit, found]
    rfl
  · exact isDecimalDigit_of_isAsciiDigit digit

theorem asciiDigit_ne_underscore (other : c ≠ '_') : asciiDigit c ≠ '_' :=
  fun same => other (eq_of_asciiDigit_eq rfl same)

theorem map_eq_self {f : Char → Char} (fixed : ∀ c ∈ text, f c = c) : text.map f = text := by
  rw [List.map_congr_left fixed, List.map_id']

theorem dropWhile_eq_self {outer : Char → Bool} (none : ∀ c ∈ text, outer c = false) :
    text.dropWhile outer = text := by
  cases text with
  | nil => rfl
  | cons c rest => exact List.dropWhile_cons_of_neg (by simp [none c List.mem_cons_self])

theorem trimBoth_eq_self {outer : Char → Bool} (none : ∀ c ∈ text, outer c = false) :
    trimBoth outer text = text := by
  have reversed : ∀ c ∈ text.reverse, outer c = false := by simpa using none
  rw [trimBoth, dropWhile_eq_self none, dropWhile_eq_self reversed, List.reverse_reverse]

theorem infix_trimBoth (outer : Char → Bool) (text : List Char) : trimBoth outer text <:+: text := by
  have front : trimBoth outer text <+: text.dropWhile outer := by
    rw [← List.reverse_suffix, trimBoth, List.reverse_reverse]
    exact List.dropWhile_suffix outer
  exact front.isInfix.trans (List.dropWhile_suffix outer).isInfix

theorem toList_repr (n : Nat) : (Nat.repr n).toList = Nat.toDigits 10 n := by
  rw [Nat.repr_eq_ofList_toDigits, String.toList_ofList]

theorem repr_digits (n : Nat) : ∀ c ∈ (Nat.repr n).toList, isAsciiDigit c = true := by
  intro c member
  rw [toList_repr] at member
  exact Nat.isDigit_of_mem_toDigits (by decide) (by decide) member

theorem repr_ne_nil (n : Nat) : (Nat.repr n).toList ≠ [] := by
  rw [toList_repr]
  exact Nat.toDigits_ne_nil

theorem digitsValue_repr (n : Nat) : digitsValue (Nat.repr n).toList = n := by
  rw [toList_repr, digitsValue, ← Nat.ofDigitChars_eq_foldl, Nat.ofDigitChars_ten_toDigits]

theorem digitsValue_zeros_append (count : Nat) (digits : List Char) :
    digitsValue (List.replicate count '0' ++ digits) = digitsValue digits := by
  rw [digitsValue, ← Nat.ofDigitChars_eq_foldl, Nat.ofDigitChars_append,
    Nat.ofDigitChars_replicate_zero, Nat.mul_zero, Nat.ofDigitChars_eq_foldl, ← digitsValue]

theorem foldl_digits_eq (digits : List Char) (value : Nat) :
    digits.foldl (fun value c => 10 * value + (c.toNat - '0'.toNat)) value =
      value * 10 ^ digits.length + digitsValue digits := by
  induction digits generalizing value with
  | nil => simp [digitsValue]
  | cons c rest ih =>
    have first := ih (10 * 0 + (c.toNat - '0'.toNat))
    rw [digitsValue, List.foldl_cons, List.foldl_cons, ih, first, List.length_cons, pow_succ]
    ring

theorem digitsValue_append (front back : List Char) :
    digitsValue (front ++ back) = digitsValue front * 10 ^ back.length + digitsValue back := by
  rw [digitsValue, List.foldl_append, foldl_digits_eq back, ← digitsValue]

theorem digitsValue_append_zeros (digits : List Char) (count : Nat) :
    digitsValue (digits ++ List.replicate count '0') = digitsValue digits * 10 ^ count := by
  have none : digitsValue (List.replicate count '0') = 0 := by
    simpa [digitsValue] using digitsValue_zeros_append count []
  rw [digitsValue_append, none, Nat.add_zero, List.length_replicate]

theorem readDigits_eq_ok_iff {value : Nat} :
    readDigits digits = .ok value ↔ digits.length ≤ digitLimit ∧ value = digitsValue digits := by
  rw [readDigits]
  split_ifs with few
  · rw [Except.ok.injEq, eq_comm, and_iff_right few]
  · simp [few]

theorem readDigits_eq_ok {value : Nat} (read : readDigits digits = .ok value) :
    value = digitsValue digits :=
  (readDigits_eq_ok_iff.mp read).2

theorem readDigits_repr {n : Nat} (short : n < 10 ^ 4300) :
    readDigits (Nat.repr n).toList = .ok n := by
  have few := (Nat.length_toDigits_le_iff (by decide) (by decide)).mpr short
  rw [← toList_repr] at few
  rw [readDigits, digitLimit, if_pos few, digitsValue_repr]

/-- A text in front of which a row of digits comes to its end. -/
def EndsDigits (rest : List Char) : Prop :=
  ∀ c ∈ rest.head?, isAsciiDigit c = false ∧ c ≠ '_'

theorem digitTail_append (all : ∀ c ∈ digits, isAsciiDigit c = true) (ends : EndsDigits rest) :
    digitTail (digits ++ rest) = (digits, rest) := by
  induction digits with
  | nil =>
    rcases rest with _ | ⟨c, _ | ⟨d, rest⟩⟩
    · rfl
    · have stop := ends c rfl
      simp [digitTail, stop.1]
    · have stop := ends c rfl
      simp [digitTail, stop.1, stop.2]
  | cons c digits ih =>
    have digit := all c List.mem_cons_self
    have later := ih fun d member => all d (List.mem_cons_of_mem c member)
    rw [List.cons_append]
    cases behind : digits ++ rest with
    | nil =>
      rw [List.append_eq_nil_iff] at behind
      simp [digitTail, digit, behind]
    | cons d others =>
      rw [behind] at later
      simp [digitTail, digit, later]

theorem digitGroup_append (all : ∀ c ∈ digits, isAsciiDigit c = true) (ends : EndsDigits rest) :
    digitGroup (digits ++ rest) = (digits, rest) := by
  cases digits with
  | nil =>
    cases rest with
    | nil => rfl
    | cons c rest => simp [digitGroup, (ends c rfl).1]
  | cons c digits =>
    have later := digitTail_append (fun d member => all d (List.mem_cons_of_mem c member)) ends
    simp [digitGroup, all c List.mem_cons_self, later]

theorem digitGroup_eq_self (all : ∀ c ∈ digits, isAsciiDigit c = true) :
    digitGroup digits = (digits, []) := by
  have none : EndsDigits [] := nofun
  simpa only [List.append_nil] using digitGroup_append all none

end ZeroGuard
