import Mathlib.Data.Int.Order.Basic
import ZeroGuard.Decimal.Reader
import ZeroGuard.Proofs.Text.Numeral

namespace ZeroGuard

namespace Numeral

/-- Digits behind a point, which is left out where there are none. -/
def pointed (fraction : List Char) : List Char :=
  if fraction = [] then [] else '.' :: fraction

theorem writesSign_signChars (negative : Bool) :
    WritesSign negative (Decimal.signChars negative) := by
  cases negative
  · exact .absent
  · exact .minus

theorem writesFraction_pointed (fraction : List Char) :
    WritesFraction fraction (pointed fraction) := by
  rw [pointed]
  split_ifs with none
  · exact none ▸ .absent
  · exact .point fraction

/-- A numeral whose digits are written in a row, with a point behind the first `point` of them. -/
theorem scan?_take (negative : Bool) {digits powers tail : List Char} {point : Nat} {below : Bool}
    (positive : 0 < point) (within : point ≤ digits.length) (all : ∀ c ∈ digits, isAsciiDigit c = true)
    (writes : WritesExponent below powers tail) (power : ∀ c ∈ powers, isAsciiDigit c = true) :
    ∃ numeral, scan? (Decimal.signChars negative ++
        (digits.take point ++ (pointed (digits.drop point) ++ tail))) = some numeral ∧
      numeral.negative = negative ∧ numeral.coefficient = digitsValue digits ∧
      numeral.scale = (if below then -(digitsValue powers : Int) else digitsValue powers) -
        (digits.length - point) := by
  have nonempty : digits ≠ [] := List.ne_nil_of_length_pos (by omega)
  have spelled : SpelledBy ⟨negative, digits.take point, digits.drop point, below, powers⟩
      (Decimal.signChars negative ++ (digits.take point ++ (pointed (digits.drop point) ++ tail))) := by
    refine ⟨?_, by simpa using nonempty, _, _, _, writesSign_signChars negative,
      writesFraction_pointed _, writes, rfl⟩
    rw [List.take_append_drop]
    exact List.forall_mem_append.mpr ⟨all, power⟩
  refine ⟨_, spelled.scan?, rfl, ?_, ?_⟩
  · rw [coefficient, List.take_append_drop]
  · rw [scale, List.length_drop, Nat.cast_sub within]
    rfl

/-- The exponent behind the letter, which is always written with a sign. -/
theorem writesExponent_signed {letter : Char} (known : letter = 'e' ∨ letter = 'E') (negative : Bool)
    {digits : List Char} (nonempty : digits ≠ []) :
    WritesExponent negative digits (letter :: (if negative then '-' else '+') :: digits) := by
  cases negative
  · exact .letter known .plus nonempty
  · exact .letter known .minus nonempty

/-- A numeral with one digit before the point and an exponent. -/
theorem scan?_scientific (negative : Bool) {digits powers : List Char} {letter : Char}
    (nonempty : digits ≠ []) (all : ∀ c ∈ digits, isAsciiDigit c = true)
    (known : letter = 'e' ∨ letter = 'E') {power : Int} (several : powers ≠ [])
    (each : ∀ c ∈ powers, isAsciiDigit c = true) (magnitude : digitsValue powers = power.natAbs) :
    ∃ numeral, scan? (Decimal.signChars negative ++ (digits.take 1 ++
        (if digits.length ≤ 1 then [] else '.' :: digits.drop 1) ++
        letter :: (if power < 0 then '-' else '+') :: powers)) = some numeral ∧
      numeral.negative = negative ∧ numeral.coefficient = digitsValue digits ∧
      numeral.scale = power - (digits.length - 1) := by
  have tail := writesExponent_signed known (power < 0) several
  have point : pointed (digits.drop 1) = if digits.length ≤ 1 then [] else '.' :: digits.drop 1 := by
    simp only [pointed, List.drop_eq_nil_iff]
  simp only [decide_eq_true_eq] at tail
  obtain ⟨numeral, scanned, sign, same, scale⟩ := scan?_take negative
    Nat.one_pos (List.length_pos_of_ne_nil nonempty) all tail each
  rw [point] at scanned
  refine ⟨numeral, by simpa only [List.append_assoc] using scanned, sign, same, ?_⟩
  simp only [decide_eq_true_eq, magnitude] at scale
  split_ifs at scale <;> omega

end Numeral

namespace Decimal

variable {coefficient : Nat} {exponent : Int}

/-- Zeros are filled in where all digits stand behind the point. -/
theorem scan?_leadingZeros (negative : Bool) {digits : List Char} (nonempty : digits ≠ [])
    (all : ∀ c ∈ digits, isAsciiDigit c = true) (count : Nat) :
    ∃ numeral, Numeral.scan? (signChars negative ++
        '0' :: '.' :: (List.replicate count '0' ++ digits)) = some numeral ∧
      numeral.negative = negative ∧ numeral.coefficient = digitsValue digits ∧
      numeral.scale = -((count : Int) + digits.length) := by
  have filled : ∀ c ∈ '0' :: (List.replicate count '0' ++ digits), isAsciiDigit c = true := by
    rw [List.forall_mem_cons, List.forall_mem_append]
    exact ⟨rfl, List.forall_mem_replicate.mpr (.inr rfl), all⟩
  obtain ⟨numeral, scanned, sign, value, scale⟩ := Numeral.scan?_take negative
    Nat.one_pos (by simp) filled .absent nofun
  refine ⟨numeral, by simpa [Numeral.pointed, nonempty] using scanned, sign, ?_, ?_⟩
  · rw [value]
    exact digitsValue_zeros_append (count + 1) digits
  · simpa [digitsValue] using scale

/-- The text of a finite decimal is a numeral with the coefficient and the exponent for its scale. -/
theorem scan?_finiteChars (negative : Bool) (coefficient : Nat) (exponent : Int) :
    ∃ numeral, Numeral.scan? (signChars negative ++ finiteChars coefficient exponent) =
        some numeral ∧
      numeral.negative = negative ∧ numeral.coefficient = coefficient ∧
      numeral.scale = exponent := by
  have all := repr_digits coefficient
  have value := digitsValue_repr coefficient
  have nonempty := repr_ne_nil coefficient
  unfold finiteChars
  generalize (Nat.repr coefficient).toList = digits at all value nonempty
  have positive := List.length_pos_of_ne_nil nonempty
  dsimp only
  by_cases plain : exponent ≤ 0 ∧ -6 < exponent + digits.length
  · rw [if_pos plain]
    split_ifs with leading whole
    · obtain ⟨numeral, scanned, sign, same, scale⟩ :=
        scan?_leadingZeros negative nonempty all (-(exponent + digits.length)).toNat
      exact ⟨numeral, scanned, sign, same.trans value, by omega⟩
    · obtain ⟨numeral, scanned, sign, same, scale⟩ := Numeral.scan?_take negative
        positive le_rfl all .absent nofun
      refine ⟨numeral, by simpa [Numeral.pointed] using scanned, sign, same.trans value, ?_⟩
      simpa [digitsValue, whole] using scale
    · have before : (exponent + digits.length).toNat < digits.length := by omega
      have behind : digits.drop (exponent + digits.length).toNat ≠ [] := by simpa using before
      obtain ⟨numeral, scanned, sign, same, scale⟩ := Numeral.scan?_take negative
        (by omega) before.le all .absent nofun
      refine ⟨numeral, by simpa [Numeral.pointed, behind] using scanned, sign, same.trans value, ?_⟩
      simp [digitsValue] at scale
      omega
  · rw [if_neg plain]
    obtain ⟨numeral, scanned, sign, same, scale⟩ :=
      Numeral.scan?_scientific negative nonempty all (.inr rfl)
        (repr_ne_nil (exponent + digits.length - 1).natAbs) (repr_digits _) (digitsValue_repr _)
    exact ⟨numeral, scanned, sign, same.trans value, by omega⟩

theorem isPlain_repr (n : Nat) : ∀ c ∈ (Nat.repr n).toList, IsPlain c :=
  fun c member => isPlain_of_isAsciiDigit (repr_digits n c member)

theorem isPlain_signChars (negative : Bool) : ∀ c ∈ signChars negative, IsPlain c :=
  isPlain_of_all (by cases negative <;> decide)

/-- The characters beside digits in the texts of decimals. -/
def marks : List Char :=
  ['.', 'E', '-', '+', 'I', 'n', 'f', 'i', 't', 'y', 's', 'N', 'a']

section Chars

variable {p : Char → Prop} (digit : ∀ c, isAsciiDigit c = true → p c) (mark : ∀ c ∈ marks, p c)
include digit mark

/-- What holds of digits and marks holds of every character in the text of a finite decimal. -/
theorem forall_finiteChars (coefficient : Nat) (exponent : Int) :
    ∀ c ∈ finiteChars coefficient exponent, p c := by
  have written : ∀ n, ∀ c ∈ (Nat.repr n).toList, p c :=
    fun n c member => digit c (repr_digits n c member)
  have all := written coefficient
  unfold finiteChars
  generalize (Nat.repr coefficient).toList = digits at all
  have front : ∀ count, ∀ c ∈ digits.take count, p c :=
    fun count c member => all c (List.mem_of_mem_take member)
  have back : ∀ count, ∀ c ∈ digits.drop count, p c :=
    fun count c member => all c (List.mem_of_mem_drop member)
  have zeros : ∀ count, ∀ c ∈ List.replicate count '0', p c :=
    fun _ => List.forall_mem_replicate.mpr (.inr (digit '0' rfl))
  have point : p '.' := mark '.' (by decide)
  have letter : p 'E' := mark 'E' (by decide)
  have sign : ∀ power : Int, p (if power < 0 then '-' else '+') := by
    intro power
    split_ifs
    · exact mark '-' (by decide)
    · exact mark '+' (by decide)
  dsimp only
  by_cases plain : exponent ≤ 0 ∧ -6 < exponent + digits.length
  · rw [if_pos plain]
    split_ifs
    · simp only [List.forall_mem_cons, List.forall_mem_append]
      exact ⟨digit '0' rfl, point, zeros _, all⟩
    · exact all
    · simp only [List.forall_mem_cons, List.forall_mem_append]
      exact ⟨front _, point, back _⟩
  · rw [if_neg plain]
    simp only [List.forall_mem_append, List.forall_mem_cons]
    refine ⟨⟨front 1, ?_⟩, letter, sign _, written _⟩
    split_ifs
    · exact nofun
    · exact List.forall_mem_cons.mpr ⟨point, back 1⟩

theorem forall_chars (d : Decimal) : ∀ c ∈ d.chars, p c := by
  have word : ∀ chars : List Char, chars.all marks.contains = true → ∀ c ∈ chars, p c :=
    fun chars all c member => mark c (mem_of_all all c member)
  have sign : ∀ negative, ∀ c ∈ signChars negative, p c :=
    fun negative => word _ (by cases negative <;> decide)
  cases d with
  | finite negative coefficient exponent =>
    exact List.forall_mem_append.mpr
      ⟨sign negative, forall_finiteChars digit mark coefficient exponent⟩
  | infinite negative =>
    exact List.forall_mem_append.mpr ⟨sign negative, word "Infinity".toList (by decide)⟩
  | nan negative signaling payload =>
    simp only [chars, List.forall_mem_append]
    refine ⟨⟨⟨sign negative, ?_⟩, word ['N', 'a', 'N'] (by decide)⟩, ?_⟩
    · exact word _ (by cases signaling <;> decide)
    · split_ifs
      · exact nofun
      · exact fun c member => digit c (repr_digits payload c member)

end Chars

/-- Whether a reader accepts the exponent of a decimal. -/
def InRange : Decimal → Prop
  | finite _ coefficient exponent => inRange coefficient exponent = true
  | _ => True

theorem isPlain_chars (d : Decimal) : ∀ c ∈ d.chars, IsPlain c :=
  forall_chars (fun _ => isPlain_of_isAsciiDigit) (isPlain_of_all (by decide)) d

theorem plainForm_eq_self {text : List Char} (plain : ∀ c ∈ text, IsPlain c) :
    plainForm text = text := by
  have kept : text.filter (· ≠ '_') = text :=
    List.filter_eq_self.mpr fun c member => decide_eq_true (plain c member).2.1
  rw [plainForm, trimBoth_eq_self fun c member => (plain c member).1, kept,
    map_eq_self fun c member => (plain c member).2.2.1]

/-- A numeral is none of the words. -/
theorem ofPlainForm_of_scan? {text : List Char} {numeral : Numeral}
    (scanned : Numeral.scan? text = some numeral) : ofPlainForm text = ofNumeral numeral := by
  obtain ⟨c, rest, lower, head⟩ := Numeral.lower_of_scan? scanned
  simp only [ofPlainForm, lower]
  split
  case h_5 => rw [scanned]
  all_goals
    rename_i same
    rw [(List.cons.inj same).1] at head
    exact absurd head (by decide)

theorem ofPlainForm_finite {negative : Bool} (inside : inRange coefficient exponent = true) :
    ofPlainForm (signChars negative ++ finiteChars coefficient exponent) =
      .ok (finite negative coefficient exponent) := by
  obtain ⟨numeral, scanned, sign, value, scale⟩ :=
    scan?_finiteChars negative coefficient exponent
  rw [ofPlainForm_of_scan? scanned, ofNumeral, sign, value, scale, if_pos inside]

theorem ofPlainForm_nan (negative signaling : Bool) (digits : List Char)
    (all : ∀ c ∈ digits, isAsciiDigit c = true) :
    ofPlainForm (signChars negative ++ (if signaling then ['s'] else []) ++ ['N', 'a', 'N'] ++
      digits) = .ok (nan negative signaling (digitsValue digits)) := by
  have lower := map_eq_self fun c member => toLower_of_isAsciiDigit (all c member)
  have payload : readPayload negative signaling digits =
      .ok (nan negative signaling (digitsValue digits)) := by
    rw [readPayload, if_pos (List.all_eq_true.mpr all)]
  have letters : 'N'.toLower = 'n' ∧ 'a'.toLower = 'a' ∧ 's'.toLower = 's' := by decide
  cases negative <;> cases signaling <;>
    simp [ofPlainForm, signChars, splitSign, letters, lower, payload]

theorem readDecimal_text {d : Decimal} (inside : d.InRange) : readDecimal d.text = .ok d := by
  rw [readDecimal, text, String.toList_ofList, plainForm_eq_self (isPlain_chars d)]
  cases d with
  | finite negative coefficient exponent => exact ofPlainForm_finite inside
  | infinite negative => cases negative <;> rfl
  | nan negative signaling payload =>
    rw [chars]
    by_cases none : payload = 0
    · rw [if_pos none, ofPlainForm_nan negative signaling [] nofun, none]
      rfl
    · rw [if_neg none, ofPlainForm_nan negative signaling _ (repr_digits payload), digitsValue_repr]

end Decimal

end ZeroGuard
