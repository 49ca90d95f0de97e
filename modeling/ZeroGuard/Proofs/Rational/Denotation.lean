import Mathlib.Data.List.TakeWhile
import ZeroGuard.Proofs.Binary.Nearest
import ZeroGuard.Proofs.Decimal.Failure
import ZeroGuard.Proofs.Decimal.Spelling

namespace ZeroGuard

namespace Rational

/-- Both ways of preparing a text leave the same characters but for underscores. -/
theorem withoutUnderscores_plainForm (text : List Char) :
    withoutUnderscores (plainForm text) = Decimal.plainForm text := by
  have kept : ((fun c : Char => decide (c ≠ '_')) ∘ asciiDigit) = fun c => decide (c ≠ '_') := by
    funext c
    by_cases underscore : c = '_'
    · rw [underscore]
      rfl
    · simp [asciiDigit_ne_underscore underscore, underscore]
  rw [withoutUnderscores, plainForm, List.filter_map, kept, Decimal.plainForm]

variable {negative : Bool} {above below text : List Char} {q : ℚ}

/-- Underscores aside, a text is the blanks in front of it and what is left behind them. -/
theorem dropWhile_blanks (text : List Char) :
    ∃ blanks, (∀ c ∈ blanks, isBlank c = true) ∧
      withoutUnderscores text = blanks ++ withoutUnderscores (text.dropWhile isBlank) := by
  have blank : ∀ c ∈ text.takeWhile isBlank, isBlank c = true := fun _ => List.mem_takeWhile_imp
  have plain : '_' ∉ text.takeWhile isBlank := fun member => by cases blank '_' member
  refine ⟨text.takeWhile isBlank, blank, ?_⟩
  conv_lhs => rw [← List.takeWhile_append_dropWhile (p := isBlank) (l := text)]
  rw [withoutUnderscores, List.filter_append, ← withoutUnderscores, withoutUnderscores_eq_self plain,
    withoutUnderscores]

theorem fractionSpelledBy_of_scan? (scanned : scanFraction? text = some (negative, above, below)) :
    FractionSpelledBy negative above below (withoutUnderscores text) := by
  obtain ⟨sign, writes, signed⟩ := Numeral.splitSign_writes text
  have front := digitGroup_split (splitSign text).2
  have digits := digitGroup_digits (splitSign text).2
  simp only [scanFraction?] at scanned
  split at scanned
  · rename_i digit others behind found
    obtain ⟨before, beforeBlank, reached⟩ := dropWhile_blanks behind
    split at scanned
    · rename_i rest same
      obtain ⟨between, betweenBlank, passed⟩ := dropWhile_blanks rest
      have back := digitGroup_split (rest.dropWhile isBlank)
      have more := digitGroup_digits (rest.dropWhile isBlank)
      have slash : withoutUnderscores ('/' :: rest) = '/' :: withoutUnderscores rest := rfl
      split at scanned
      · rename_i first later row
        cases scanned
        rw [found] at front digits
        rw [row] at back more
        refine ⟨digits, more, List.cons_ne_nil _ _, List.cons_ne_nil _ _, sign, before, between,
          writes, beforeBlank, betweenBlank, ?_⟩
        have below : withoutUnderscores (rest.dropWhile isBlank) = first :: later :=
          back.symm.trans (List.append_nil _)
        rw [← signed, ← front, reached, same, slash, passed, below]
      · cases scanned
    · cases scanned
  · cases scanned

theorem scanFraction?_of_scan? {numeral : Numeral} (scanned : Numeral.scan? text = some numeral) :
    scanFraction? text = none := by
  have spelled := Numeral.spelledBy_of_scan? scanned
  cases found : scanFraction? text with
  | none => rfl
  | some parts =>
    have fraction := fractionSpelledBy_of_scan? found
    cases (scanFraction?_of_numeral spelled).symm.trans fraction.scan?

/-- The value of a fraction of two rows of digits. -/
def fractionValue (negative : Bool) (above below : List Char) : ℚ :=
  (if negative then -1 else 1) * digitsValue above / digitsValue below

theorem signed_cast (negative : Bool) (n : Nat) :
    ((if negative then -(n : Int) else n : Int) : ℚ) = (if negative then -1 else 1) * n := by
  cases negative <;> simp

theorem ofFraction_eq_ok (read : ofFraction negative above below = .ok q) :
    digitsValue below ≠ 0 ∧ q = fractionValue negative above below := by
  obtain ⟨numerator, readAbove, rest⟩ := bind_eq_ok_iff.mp read
  obtain ⟨denominator, readBelow, rest⟩ := bind_eq_ok_iff.mp rest
  obtain rfl := readDigits_eq_ok readAbove
  obtain rfl := readDigits_eq_ok readBelow
  dsimp only at rest
  by_cases zero : digitsValue below = 0
  · rw [if_pos zero] at rest
    cases rest
  · rw [if_neg zero] at rest
    obtain rfl := Except.ok.inj rest
    rw [Rat.mkRat_eq_div, signed_cast, fractionValue]
    exact ⟨zero, rfl⟩

/-- The parts of a numeral are read one by one, and put together they are its value. -/
theorem ofNumeral_eq_ok {numeral : Numeral} (read : ofNumeral numeral = .ok q) :
    q = (Decimal.finite numeral.negative numeral.coefficient numeral.scale).value := by
  obtain ⟨whole, readWhole, rest⟩ := bind_eq_ok_iff.mp read
  obtain ⟨fraction, readFraction, rest⟩ := bind_eq_ok_iff.mp rest
  obtain ⟨_, -, rest⟩ := bind_eq_ok_iff.mp rest
  obtain rfl := Except.ok.inj rest
  obtain rfl := readDigits_eq_ok readWhole
  obtain rfl := readDigits_eq_ok readFraction
  have digits : digitsValue numeral.whole * tenPow numeral.fraction.length +
      digitsValue numeral.fraction = numeral.coefficient :=
    (digitsValue_append numeral.whole numeral.fraction).symm
  have scaled := scaled_ratio numeral.coefficient (tenPow numeral.fraction.length)
    numeral.writtenExponent
  rw [digits, Rat.mkRat_eq_div, Int.cast_mul, signed_cast, Int.cast_natCast, mul_assoc,
    ← Nat.cast_mul, mul_div_assoc, scaled, Decimal.value, Numeral.scale, zpow_sub₀ (by norm_num),
    zpow_natCast, tenPow_eq, Nat.cast_pow, Nat.cast_ofNat]
  ring

end Rational

theorem Binary.value_eq_signedUnits {f : Format} (negative : Bool) (rank : Fin f.size) :
    (Binary.finite negative rank : Binary f).value =
      Binary.signedUnits (f := f) negative rank / (twoPow f.scale : ℤ) := by
  rw [Binary.signedUnits, Rational.signed_cast, Binary.value, twoPow_eq, Int.cast_natCast, Nat.cast_pow,
    Nat.cast_ofNat]

namespace Operand

/-- The rational that an operand denotes. What a text spells, blanks and underscores aside, is a
numeral or a fraction. -/
inductive Denotes : Operand → ℚ → Prop
  | int (n : Int) : Denotes (.int n) n
  | float {x : Double} : x.isFinite = true → Denotes (.float x) x.value
  | numeral {s : String} {d : Decimal} : Decimal.SpelledBy (Decimal.plainForm s.toList) d →
      Denotes (.text s) d.value
  | fraction {s : String} {negative : Bool} {above below : List Char} :
      Rational.FractionSpelledBy negative above below (Decimal.plainForm s.toList) →
      digitsValue below ≠ 0 →
      Denotes (.text s) (Rational.fractionValue negative above below)

variable {raw : Operand} {p q : ℚ}

theorem Denotes.unique (denotes : raw.Denotes p) (also : raw.Denotes q) : p = q := by
  cases denotes with
  | int n =>
    cases also
    rfl
  | float finite =>
    cases also
    rfl
  | numeral spelled =>
    obtain ⟨numeral, spells, rfl⟩ := spelled
    cases also with
    | numeral other =>
      obtain ⟨_, respells, rfl⟩ := other
      rw [spells.unique respells]
    | fraction other => cases (Rational.scanFraction?_of_numeral spells).symm.trans other.scan?
  | fraction spelled =>
    -- A numeral has no slash behind its first digits, so that no text spells both.
    cases also with
    | numeral other =>
      obtain ⟨_, spells, -⟩ := other
      cases (Rational.scanFraction?_of_numeral spells).symm.trans spelled.scan?
    | fraction other =>
      cases spelled.scan?.symm.trans other.scan?
      rfl

theorem denotes_of_readRational {s : String} (read : readRational s = .ok q) :
    (Operand.text s).Denotes q := by
  have plain := Rational.withoutUnderscores_plainForm s.toList
  simp only [readRational] at read
  split at read
  · rename_i scanned
    obtain ⟨nonzero, rfl⟩ := Rational.ofFraction_eq_ok read
    exact .fraction (plain ▸ Rational.fractionSpelledBy_of_scan? scanned) nonzero
  · split at read
    · rename_i numeral scanned
      rw [Rational.ofNumeral_eq_ok read]
      exact .numeral ⟨numeral, plain ▸ Numeral.spelledBy_of_scan? scanned, rfl⟩
    · cases read

example : readRational "\u3000-1_4 /\t6" = .ok (-7 / 3) := by decide +kernel

theorem toRational_float {x : Double} (finite : x.isFinite = true) :
    (float x).toRational = .ok x.value := by
  cases x with
  | nan => cases finite
  | infinite => cases finite
  | finite negative rank =>
    rw [Binary.value_eq_signedUnits, Int.cast_natCast, ← Rat.mkRat_eq_div]
    rfl

theorem denotes_of_toRational (converted : raw.toRational = .ok q) : raw.Denotes q := by
  cases raw with
  | int n =>
    cases converted
    exact .int n
  | text s => exact denotes_of_readRational converted
  | float x =>
    cases x with
    | nan => cases converted
    | infinite => cases converted
    | finite negative rank =>
      have read := toRational_float (rfl : (Binary.finite negative rank : Double).isFinite = true)
      cases read.symm.trans converted
      exact .float rfl

/-- An operand that is converted to a rational denotes that one and no other. -/
theorem denotes_iff_of_convert (converted : raw.convert .fraction = .ok (.rational q)) :
    raw.Denotes p ↔ p = q := by
  obtain ⟨_, read, same⟩ := map_eq_ok_iff.mp converted
  cases same
  have denotes := denotes_of_toRational read
  constructor
  · exact fun other => other.unique denotes
  · rintro rfl
    exact denotes

end Operand

end ZeroGuard
