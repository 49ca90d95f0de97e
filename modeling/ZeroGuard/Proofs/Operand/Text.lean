import ZeroGuard.Proofs.Operand
import ZeroGuard.Proofs.Rational.Denotation

namespace ZeroGuard

/-- A text whose exponent, if it spells a numeral, is within a range that a decimal surely has. -/
def ExponentWithin (bound : ℤ) (text : List Char) : Prop :=
  ∀ numeral : Numeral, numeral.SpelledBy (Decimal.plainForm text) → |numeral.writtenExponent| ≤ bound

/-- A text in which no row of digits, of whatever script, is longer than a limit. -/
def RowsWithin (limit : Nat) (text : List Char) : Prop :=
  ∀ row, row <:+: text → (∀ c ∈ row, isDecimalDigit c = true) → row.length ≤ limit

variable {text row : List Char} {c : Char} {numeral : Numeral}

theorem Decimal.mem_of_mem_plainForm (other : isAsciiDigit c = false) (member : c ∈ plainForm text) :
    c ∈ text := by
  rw [plainForm, List.mem_map] at member
  obtain ⟨d, inside, same⟩ := member
  rw [eq_of_asciiDigit_eq other same] at inside
  exact (infix_trimBoth isBlank text).subset (List.mem_of_mem_filter inside)

/-- A row of ASCII digits in the form that is read stands for a row of digits in the text. -/
theorem RowsWithin.plainForm {limit : Nat} (within : RowsWithin limit text)
    (inside : row <:+: Rational.plainForm text) (all : ∀ c ∈ row, isAsciiDigit c = true) :
    row.length ≤ limit := by
  obtain ⟨front, back, split⟩ := inside
  rw [Rational.plainForm, List.append_assoc] at split
  obtain ⟨_, rest, whole, -, split⟩ := List.map_eq_append_iff.mp split.symm
  obtain ⟨origin, _, same, rfl, -⟩ := List.map_eq_append_iff.mp split
  rw [List.length_map]
  refine within origin ?_ fun c member => ?_
  · refine List.IsInfix.trans ?_ (infix_trimBoth isBlank text)
    rw [whole, same, ← List.append_assoc]
    exact ⟨_, _, rfl⟩
  · exact isDecimalDigit_of_asciiDigit (all _ (List.mem_map_of_mem member))

namespace Numeral

theorem SpelledBy.rows (spelled : numeral.SpelledBy text) :
    numeral.whole <:+: text ∧ numeral.fraction <:+: text ∧ numeral.exponent <:+: text := by
  obtain ⟨negative, whole, digits, below, powers⟩ := numeral
  obtain ⟨-, -, sign, fraction, exponent, -, writesFraction, writesExponent, rfl⟩ := spelled
  dsimp only at writesFraction writesExponent ⊢
  have back : digits <:+: fraction := by
    cases writesFraction with
    | point => exact (List.suffix_cons _ _).isInfix
    | absent => exact List.infix_rfl
  have last : powers <:+: exponent := by
    cases writesExponent with
    | letter => exact ((List.suffix_append _ _).trans (List.suffix_cons _ _)).isInfix
    | absent => exact List.infix_rfl
  refine ⟨⟨sign, fraction ++ exponent, List.append_assoc _ _ _⟩, back.trans ?_, last.trans ?_⟩
  · exact ⟨sign ++ whole, exponent, by simp only [List.append_assoc]⟩
  · exact ⟨sign ++ whole ++ fraction, [], by simp only [List.append_assoc, List.append_nil]⟩

theorem SpelledBy.digitCount_le (spelled : numeral.SpelledBy text) :
    digitCount numeral.coefficient ≤ numeral.whole.length + numeral.fraction.length := by
  have nonempty := List.length_pos_of_ne_nil spelled.nonempty
  have small : numeral.coefficient < 10 ^ (numeral.whole ++ numeral.fraction).length :=
    digitsValue_lt fun c member => spelled.digits c (List.mem_append_left _ member)
  rw [← List.length_append]
  exact digitCount_le_of_lt nonempty small

/-- Rows within the limit of a rational and a modest exponent are well within the range of a decimal. -/
theorem SpelledBy.inRange (spelled : numeral.SpelledBy text) (whole : numeral.whole.length ≤ digitLimit)
    (fraction : numeral.fraction.length ≤ digitLimit) (modest : |numeral.writtenExponent| ≤ 10 ^ 17) :
    Decimal.inRange numeral.coefficient numeral.scale = true := by
  have digits := spelled.digitCount_le
  obtain ⟨lower, upper⟩ := abs_le.mp modest
  rw [Decimal.inRange, decide_eq_true_eq, scale]
  simp only [Decimal.exponentMin, Decimal.exponentMax, digitLimit] at *
  omega

end Numeral

namespace Rational

variable {q : ℚ}

theorem rows_of_ofNumeral (read : ofNumeral numeral = .ok q) :
    numeral.whole.length ≤ digitLimit ∧ numeral.fraction.length ≤ digitLimit := by
  obtain ⟨_, whole, rest⟩ := bind_eq_ok_iff.mp read
  obtain ⟨_, fraction, -⟩ := bind_eq_ok_iff.mp rest
  exact ⟨(readDigits_eq_ok_iff.mp whole).1, (readDigits_eq_ok_iff.mp fraction).1⟩

theorem ofNumeral_of_rows (whole : numeral.whole.length ≤ digitLimit)
    (fraction : numeral.fraction.length ≤ digitLimit)
    (exponent : numeral.exponent.length ≤ digitLimit) :
    ofNumeral numeral =
      .ok (Decimal.finite numeral.negative numeral.coefficient numeral.scale).value := by
  have short : ∀ {digits}, digits.length ≤ digitLimit → readDigits digits = .ok (digitsValue digits) :=
    fun few => readDigits_eq_ok_iff.mpr ⟨few, rfl⟩
  have read : ∃ q, ofNumeral numeral = .ok q := by
    rw [ofNumeral, short whole, short fraction, short exponent]
    exact ⟨_, rfl⟩
  obtain ⟨q, read⟩ := read
  rw [read, ofNumeral_eq_ok read]

end Rational

/-- What is read as a rational is the same number as a decimal, if it has no slash and its exponent is
not beyond a decimal. -/
theorem readDecimal_of_readRational {s : String} {q : ℚ} (slashless : '/' ∉ s.toList)
    (modest : ExponentWithin (10 ^ 17) s.toList) (read : readRational s = .ok q) :
    ∃ negative coefficient exponent,
      readDecimal s = .ok (.finite negative coefficient exponent) ∧
      (Decimal.finite negative coefficient exponent).value = q := by
  have plain := Rational.withoutUnderscores_plainForm s.toList
  simp only [readRational] at read
  split at read
  · rename_i scanned
    have spelled := Rational.fractionSpelledBy_of_scan? scanned
    rw [plain] at spelled
    obtain ⟨sign, front, back, -, -, -, parts⟩ := spelled.parts
    have slash : '/' ∈ Decimal.plainForm s.toList := by
      rw [parts]
      simp
    exact absurd (Decimal.mem_of_mem_plainForm rfl slash) slashless
  · split at read
    · rename_i numeral scanned
      have spelled := Numeral.spelledBy_of_scan? scanned
      rw [plain] at spelled
      obtain ⟨whole, fraction⟩ := Rational.rows_of_ofNumeral read
      have inside := spelled.inRange whole fraction (modest numeral spelled)
      refine ⟨_, _, _, ?_, (Rational.ofNumeral_eq_ok read).symm⟩
      rw [readDecimal, Decimal.ofPlainForm_of_scan? spelled.scan?, Decimal.ofNumeral, if_pos inside]
    · cases read

/-- What is read as a finite decimal is the same number as a rational, if it has no underscore, which
a decimal may have anywhere, and no row of digits is too long. -/
theorem readRational_of_readDecimal {s : String} {negative : Bool} {coefficient : Nat} {exponent : ℤ}
    (plain : '_' ∉ s.toList) (within : RowsWithin 4300 s.toList)
    (read : readDecimal s = .ok (.finite negative coefficient exponent)) :
    readRational s = .ok (Decimal.finite negative coefficient exponent).value := by
  have unmarked : '_' ∉ Rational.plainForm s.toList := by
    rw [Rational.plainForm, List.mem_map]
    rintro ⟨c, member, same⟩
    rw [eq_of_asciiDigit_eq rfl same] at member
    exact plain ((infix_trimBoth isBlank s.toList).subset member)
  have form := Rational.withoutUnderscores_plainForm s.toList
  rw [withoutUnderscores_eq_self unmarked] at form
  obtain ⟨numeral, spelled, same⟩ :=
    Decimal.spelledBy_of_ofPlainForm (Decimal.underscore_not_mem_plainForm _) read
  rw [← form] at spelled
  obtain ⟨whole, fraction, powers⟩ := spelled.rows
  have digits := spelled.digits
  simp only [List.forall_mem_append] at digits
  obtain ⟨⟨wholeDigits, fractionDigits⟩, powerDigits⟩ := digits
  have short := Rational.ofNumeral_of_rows (within.plainForm whole wholeDigits)
    (within.plainForm fraction fractionDigits) (within.plainForm powers powerDigits)
  simp only [readRational, Rational.scanFraction?_of_numeral spelled, spelled.scan?, same, short]

/-- Rationals and decimals are the same numbers in the texts that both can read. No such text has a
lone surrogate in it: the characters of `isSurrogate` are neither digits nor blanks. -/
theorem text_same_rational_and_decimal (s : String) :
    ('/' ∉ s.toList → ExponentWithin (10 ^ 17) s.toList → ∀ number,
      parseOperand .fraction (.text s) = .ok (.ok number) →
      ∃ negative coefficient exponent,
        parseOperand .decimal (.text s) =
          .ok (.ok (.decimal (.finite negative coefficient exponent))) ∧
        number = .rational (Decimal.finite negative coefficient exponent).value) ∧
    ('_' ∉ s.toList → RowsWithin 4300 s.toList → ∀ negative coefficient exponent,
      parseOperand .decimal (.text s) =
        .ok (.ok (.decimal (.finite negative coefficient exponent))) →
      parseOperand .fraction (.text s) =
        .ok (.ok (.rational (Decimal.finite negative coefficient exponent).value))) := by
  simp only [parseOperand_ok_iff]
  constructor
  · intro slashless modest number converted
    obtain ⟨q, read, rfl⟩ := map_eq_ok_iff.mp converted
    obtain ⟨negative, coefficient, exponent, also, rfl⟩ :=
      readDecimal_of_readRational slashless modest read
    exact ⟨negative, coefficient, exponent, map_eq_ok_iff.mpr ⟨_, also, rfl⟩, rfl⟩
  · intro plain within negative coefficient exponent converted
    obtain ⟨_, read, same⟩ := map_eq_ok_iff.mp converted
    cases same
    exact map_eq_ok_iff.mpr ⟨_, readRational_of_readDecimal plain within read, rfl⟩

/-- Full-width digits between wide blanks, with underscores in all three rows of digits, and Arabic
digits with none behind the point. -/
theorem scripts_same_rational_and_decimal :
    (∃ negative coefficient exponent,
      parseOperand .decimal (.text "\u3000-１_0.5_0e-0_3\u2003") =
        .ok (.ok (.decimal (.finite negative coefficient exponent))) ∧
      Number.rational (-21 / 2000) =
        .rational (Decimal.finite negative coefficient exponent).value) ∧
    parseOperand .fraction (.text "\t٣.E+٠2") =
      .ok (.ok (.rational (Decimal.finite false 3 2).value)) := by
  have modest : ExponentWithin (10 ^ 17) "\u3000-１_0.5_0e-0_3\u2003".toList := by
    intro numeral spelled
    have found : Numeral.scan? (Decimal.plainForm "\u3000-１_0.5_0e-0_3\u2003".toList) =
        some ⟨true, ['1', '0'], ['5', '0'], true, ['0', '3']⟩ := by decide +kernel
    obtain rfl := Option.some.inj (spelled.scan?.symm.trans found)
    decide
  have within : RowsWithin 4300 "\t٣.E+٠2".toList :=
    fun _ inside _ => inside.length_le.trans (by decide)
  obtain ⟨forward, -⟩ := text_same_rational_and_decimal "\u3000-１_0.5_0e-0_3\u2003"
  obtain ⟨-, backward⟩ := text_same_rational_and_decimal "\t٣.E+٠2"
  exact ⟨forward (by decide) modest _ (by decide +kernel),
    backward (by decide) within false 3 2 (by decide +kernel)⟩

end ZeroGuard
