import ZeroGuard.Proofs.Binary.Text
import ZeroGuard.Proofs.Decimal.Spelling
import ZeroGuard.Proofs.Operand.Text

namespace ZeroGuard

/-- What is left of a text between its blanks, where it is read as an integer. -/
structure IntegerForm (s : String) (n : ℤ) (core : List Char) (negative : Bool) (digits : List Char) :
    Prop where
  form : trimBoth isAsciiBlank (asciiNumeral s.toList) = core
  same : Rational.plainForm s.toList = core
  scanned : Numeral.scan? core = some ⟨negative, digits, [], false, []⟩
  short : digits.length ≤ digitLimit
  value : n = if negative then -(digitsValue digits : ℤ) else digitsValue digits

/-- A sign and one row of digits are a numeral, also with underscores in the row. -/
theorem Numeral.scan?_row {negative : Bool} {sign row digits : List Char}
    (writes : WritesSign negative sign) (all : ∀ c ∈ row, isAsciiDigit c = true ∨ c = '_')
    (group : digitGroup row = (digits, [])) (nonempty : digits ≠ []) :
    scan? (sign ++ row) = some ⟨negative, digits, [], false, []⟩ := by
  have unsigned : ∀ c ∈ row.head?, c ≠ '-' ∧ c ≠ '+' := by
    intro c head
    rcases all c (List.mem_of_mem_head? head) with digit | rfl
    · constructor <;> rintro rfl <;> cases digit
    · decide
  have signed := splitSign_of_writes writes unsigned
  have some : (digits.isEmpty && ([] : List Char).isEmpty) = false := by simpa using nonempty
  simp only [scan?, signed, group, scanFraction, some, Bool.false_eq_true, if_false, scanExponent?,
    Option.map_some]

theorem Numeral.coefficient_row (negative : Bool) (digits : List Char) :
    (⟨negative, digits, [], false, []⟩ : Numeral).coefficient = digitsValue digits := by
  rw [coefficient, List.append_nil]

theorem integerForm_of_readInteger {s : String} {n : ℤ} (read : readInteger s = .ok n) :
    ∃ core negative digits, IntegerForm s n core negative digits := by
  have signed := Numeral.splitSign_append ((asciiNumeral s.toList).dropWhile isAsciiBlank)
  simp only [readInteger] at read
  generalize splitSign ((asciiNumeral s.toList).dropWhile isAsciiBlank) = parts at signed read
  obtain ⟨sign, writes, signed⟩ := signed
  obtain ⟨row, front, group, all⟩ := digitGroup_front parts.2
  split at read
  · cases read
  · cases read
  rename_i digits blanks some _ found
  rw [found] at front group
  obtain ⟨_, few, rest⟩ := bind_eq_ok_iff.mp read
  obtain ⟨short, rfl⟩ := readDigits_eq_ok_iff.mp few
  by_cases blank : blanks.all isAsciiBlank = true
  · rw [if_pos blank] at rest
    have scanned := Numeral.scan?_row writes all group some
    have solid := isSolid_of_scan? scanned
    have form : trimBoth isAsciiBlank (asciiNumeral s.toList) = sign ++ row := by
      rw [front, ← List.append_assoc] at signed
      exact trimBoth_eq_of_split signed (fun c member => isAsciiBlank_eq_false (solid c member).1)
        (List.all_eq_true.mp blank)
    have same : Rational.plainForm s.toList = sign ++ row :=
      (plainForm_of_solid (form ▸ solid)).trans form
    exact ⟨_, _, digits, form, same, scanned, short, (Except.ok.inj rest).symm⟩
  · rw [if_neg blank] at rest
    cases rest

namespace IntegerForm

variable {s : String} {n : ℤ} {core digits : List Char} {negative : Bool}
  (integer : IntegerForm s n core negative digits)
include integer

theorem readRational_eq : readRational s = .ok n := by
  obtain ⟨-, same, scanned, short, value⟩ := integer
  have few : readDigits digits = .ok (digitsValue digits) := readDigits_eq_ok_iff.mpr ⟨short, rfl⟩
  simp only [readRational, same, Rational.scanFraction?_of_scan? scanned, scanned]
  rw [Rational.ofNumeral_whole negative few, ← value]

theorem value_decimal : (Decimal.finite negative (digitsValue digits) 0).value = n := by
  rw [integer.value, Decimal.value, Rational.signed_cast, zpow_zero, mul_one]

theorem readDecimal_eq : readDecimal s = .ok (.finite negative (digitsValue digits) 0) := by
  obtain ⟨-, same, scanned, short, -⟩ := integer
  have spelled := Numeral.spelledBy_of_scan? scanned
  rw [← same, Rational.withoutUnderscores_plainForm] at spelled
  have inside := spelled.inRange short (Nat.zero_le _) (by simp [Numeral.writtenExponent, digitsValue])
  rw [readDecimal, Decimal.ofPlainForm_of_scan? spelled.scan?, Decimal.ofNumeral, if_pos inside,
    Numeral.coefficient_row]
  rfl

theorem readDouble_eq : readDouble s = .ok (.ofDecimal negative (digitsValue digits) 0) := by
  rw [readDouble, integer.form, Binary.ofChars?_of_scan? integer.scanned, Numeral.coefficient_row]
  rfl

end IntegerForm

section Written

variable {n : ℤ}

theorem Decimal.text_ofInt (n : ℤ) : (ofInt n).text = integerText n := by
  rw [text, chars_ofInt, String.ofList_toList]

theorem readInteger_integerText (short : n.natAbs < 10 ^ 4300) : readInteger (integerText n) = .ok n := by
  have plain := Rational.isPlain_integerText n
  have solid := dropWhile_eq_self fun c member => isAsciiBlank_eq_false (plain c member).1
  have digits := repr_digits n.natAbs
  have few := readDigits_repr short
  have nonempty := repr_ne_nil n.natAbs
  have signed := Numeral.splitSign_of_writes (Numeral.writesSign_signChars (n < 0))
    (Numeral.unsigned_of_digits [] nonempty digits)
  have group := digitGroup_eq_self digits
  rw [List.append_nil, ← integerText_toList] at signed
  simp only [readInteger, asciiNumeral_eq_self plain, solid, signed, group, few, bind, Except.bind,
    List.all_nil, if_true, signed_natAbs]

theorem readDecimal_integerText (short : n.natAbs < 10 ^ 4300) :
    readDecimal (integerText n) = .ok (.ofInt n) := by
  have digits := digitCount_le_of_lt (by decide) short
  have inside : Decimal.inRange n.natAbs 0 = true := by
    clear short
    rw [Decimal.inRange, decide_eq_true_eq]
    simp only [Decimal.exponentMin, Decimal.exponentMax]
    omega
  rw [← Decimal.text_ofInt]
  exact Decimal.readDecimal_text (d := .ofInt n) inside

theorem readDouble_integerText (n : ℤ) : readDouble (integerText n) = .ok (.ofInt n) := by
  have read := readDouble_plain (Decimal.isPlain_chars (.ofInt n))
    (Binary.ofChars?_finiteChars (n < 0) n.natAbs 0)
  have whole : (n.natAbs : ℚ) / (1 : Nat) = n.natAbs * 10 ^ (0 : ℤ) := by simp
  rw [Binary.ofDecimal_eq one_pos (by decide +kernel) (by decide) whole] at read
  rw [← Decimal.text_ofInt]
  exact read

/-- The numeric types of binary numbers. -/
def NumericType.IsBinary (type : NumericType) : Prop :=
  type = .float ∨ type = .float32 ∨ type = .float64

/-- Within the doubles an integer and its text are converted alike. -/
theorem convert_integerText (short : n.natAbs < 10 ^ 4300) {type : NumericType}
    (within : type.IsBinary → |(n : ℚ)| < 2 ^ 1024 - 2 ^ 970) :
    (Operand.text (integerText n)).convert type = (Operand.int n).convert type := by
  have double : type.IsBinary → readDouble (integerText n) = Number.intToDouble n := by
    intro binary
    have finite : (Binary.ofInt n : Double).isFinite = true := by
      refine (Binary.rounded_ofInt n).isFinite (by decide) ?_
      rw [Format.double_overflow]
      exact within binary
    rw [readDouble_integerText, eq_comm, Number.intToDouble, Number.finiteOr_eq_ok_iff]
    refine ⟨?_, rfl⟩
    rintro ⟨negative, infinite⟩
    rw [infinite] at finite
    cases finite
  cases type with
  | int => simp only [Operand.convert, Operand.toInt, readInteger_integerText short]
  | int64 => simp only [Operand.convert, Operand.toInt, readInteger_integerText short]
  | decimal => simp only [Operand.convert, Operand.toDecimal, readDecimal_integerText short]
  | fraction =>
    have written : writeInteger n = .ok (integerText n) :=
      if_pos ((isWritable_iff n).mpr short)
    simp only [Operand.convert, Operand.toRational, Rational.readRational_integerText written]
  | float => simp only [Operand.convert, Operand.toDouble, double (.inl rfl)]
  | float32 => simp only [Operand.convert_float32, Operand.toDouble, double (.inr (.inl rfl))]
  | float64 => simp only [Operand.convert_float64, Operand.toDouble, double (.inr (.inr rfl))]

/-- The text of an integer beyond the doubles is an infinity. -/
theorem readDouble_beyond (beyond : 2 ^ 1024 - 2 ^ 970 ≤ |(n : ℚ)|) :
    readDouble (integerText n) = .ok (.infinite (n < 0)) := by
  rw [← Format.double_overflow] at beyond
  have infinite := ((Binary.rounded_ofInt n).infinite_iff (by decide)).mpr beyond
  rw [readDouble_integerText, infinite]
  simp only [Int.cast_lt_zero]

theorem intToDouble_beyond (beyond : 2 ^ 1024 - 2 ^ 970 ≤ |(n : ℚ)|) :
    Number.intToDouble n = .error .doubleRange := by
  rw [← Format.double_overflow] at beyond
  have infinite := ((Binary.rounded_ofInt n).infinite_iff (by decide)).mpr beyond
  rw [Number.intToDouble, Number.finiteOr_error_iff]
  exact ⟨rfl, _, infinite⟩

theorem short_int (short : n.natAbs < 10 ^ 4300) : (Operand.int n).Short := by
  rintro _ ⟨⟩
  exact short

/-- Two operands that come to the same number in a type, or both have none. -/
def SameConversion (type : NumericType) (raw other : Operand) : Prop :=
  (∃ number, parseOperand type raw = .ok (.ok number) ∧
    parseOperand type other = .ok (.ok number)) ∨ raw.Refused type ∧ other.Refused type

theorem sameConversion_of_convert {type : NumericType} {raw other : Operand} (short : raw.Short)
    (also : other.Short) (same : other.convert type = raw.convert type) :
    SameConversion type raw other := by
  cases converted : raw.convert type with
  | ok number =>
    rw [converted] at same
    exact .inl ⟨number, parseOperand_ok_iff.mpr converted, parseOperand_ok_iff.mpr same⟩
  | error fault =>
    rw [converted] at same
    exact .inr ⟨short.refused converted, also.refused same⟩

theorem refused_beyond (short : n.natAbs < 10 ^ 4300) (beyond : 2 ^ 1024 - 2 ^ 970 ≤ |(n : ℚ)|)
    {type : NumericType} (binary : type.IsBinary) : (Operand.int n).Refused type := by
  have unread : (Operand.int n).toDouble = .error .doubleRange := by
    rw [Operand.toDouble, intToDouble_beyond beyond]
  have failed : (Operand.int n).convert type = .error .doubleRange := by
    obtain ⟨plain, single, double⟩ := Operand.convert_of_toDouble_error unread
    rcases binary with rfl | rfl | rfl
    · exact plain
    · exact single
    · exact double
  exact (short_int short).refused failed

/-- Where a text is read as an integer, every other reader finds that integer. -/
theorem same_integer_of_text {s : String}
    (converted : parseOperand .int (.text s) = .ok (.ok (.int n))) :
    parseOperand .fraction (.text s) = .ok (.ok (.rational n)) ∧
    (∃ negative coefficient,
      parseOperand .decimal (.text s) = .ok (.ok (.decimal (.finite negative coefficient 0))) ∧
      (Decimal.finite negative coefficient 0).value = n) ∧
    ∃ x, Binary.IsNearest n x ∧ parseOperand .float (.text s) = .ok (.ok (.float x)) ∧
      parseOperand .float64 (.text s) = .ok (.ok (.float64 x)) := by
  simp only [parseOperand_ok_iff] at converted ⊢
  obtain ⟨_, read, same⟩ := map_eq_ok_iff.mp converted
  cases same
  obtain ⟨core, negative, digits, integer⟩ := integerForm_of_readInteger read
  have rounded : Binary.Rounded (n : ℚ) (.ofDecimal negative (digitsValue digits) 0 : Double) := by
    rw [← integer.value_decimal]
    exact Binary.rounded_ofDecimal (by decide +kernel) (by decide) negative (digitsValue digits) 0
  have found : (Operand.text s).toDouble = .ok _ := integer.readDouble_eq
  obtain ⟨plain, -, fixed⟩ := Operand.convert_of_toDouble found
  refine ⟨?_, ⟨negative, digitsValue digits, ?_, integer.value_decimal⟩, _, rounded.isNearest, plain,
    fixed⟩
  · exact map_eq_ok_iff.mpr ⟨_, integer.readRational_eq, rfl⟩
  · exact map_eq_ok_iff.mpr ⟨_, integer.readDecimal_eq, rfl⟩

end Written

/-- A text that is an integer is the same integer to every reader, and an integer is converted like its
text, but for the binary types, in which an integer beyond the doubles is refused and its text is an
infinity. A text with a character of `isSurrogate`, a lone surrogate, is no integer. -/
theorem integer_texts_same_in_every_type :
    (∀ (s : String) (n : ℤ), parseOperand .int (.text s) = .ok (.ok (.int n)) →
      parseOperand .fraction (.text s) = .ok (.ok (.rational n)) ∧
      (∃ negative coefficient,
        parseOperand .decimal (.text s) = .ok (.ok (.decimal (.finite negative coefficient 0))) ∧
        (Decimal.finite negative coefficient 0).value = n) ∧
      ∃ x, Binary.IsNearest n x ∧ parseOperand .float (.text s) = .ok (.ok (.float x)) ∧
        parseOperand .float64 (.text s) = .ok (.ok (.float64 x))) ∧
    ∀ n : ℤ, n.natAbs < 10 ^ 4300 →
      (∀ type : NumericType, (type.IsBinary → |(n : ℚ)| < 2 ^ 1024 - 2 ^ 970) →
        SameConversion type (.int n) (.text (integerText n))) ∧
      (2 ^ 1024 - 2 ^ 970 ≤ |(n : ℚ)| →
        (∀ type : NumericType, type.IsBinary → (Operand.int n).Refused type) ∧
        parseOperand .float (.text (integerText n)) = .ok (.ok (.float (.infinite (n < 0)))) ∧
        parseOperand .float32 (.text (integerText n)) = .ok (.ok (.float32 (.infinite (n < 0)))) ∧
        parseOperand .float64 (.text (integerText n)) = .ok (.ok (.float64 (.infinite (n < 0))))) := by
  refine ⟨fun s n converted => same_integer_of_text converted, fun n short => ⟨?_, fun beyond => ?_⟩⟩
  · intro type within
    exact sameConversion_of_convert (short_int short) nofun (convert_integerText short within)
  · have read : (Operand.text (integerText n)).toDouble = .ok (.infinite (n < 0)) :=
      readDouble_beyond beyond
    simp only [parseOperand_ok_iff]
    exact ⟨fun type => refused_beyond short beyond, Operand.convert_of_toDouble read⟩

/-- Arabic digits behind a wide blank, the first integer that is no word, and the first power of two
that is no double. -/
theorem powers_of_two_in_every_type :
    parseOperand .fraction (.text "\u00a0-٣_0\n") = .ok (.ok (.rational (-30))) ∧
    SameConversion .int64 (.int (2 ^ 63)) (.text (integerText (2 ^ 63))) ∧
    (Operand.int (2 ^ 1024)).Refused .float32 ∧
    parseOperand .float32 (.text (integerText (2 ^ 1024))) =
      .ok (.ok (.float32 (.infinite false))) := by
  have beyond : (2 ^ 1024 - 2 ^ 970 : ℚ) ≤ |((2 ^ 1024 : ℤ) : ℚ)| := by
    rw [Int.cast_pow, Int.cast_ofNat, abs_of_pos (by positivity)]
    exact sub_le_self _ (by positivity)
  obtain ⟨texts, integers⟩ := integer_texts_same_in_every_type
  obtain ⟨same, -⟩ := integers (2 ^ 63) (by decide +kernel)
  obtain ⟨-, apart⟩ := integers (2 ^ 1024) (by decide +kernel)
  obtain ⟨refused, -, infinite, -⟩ := apart beyond
  rw [decide_eq_false (not_lt.mpr (by positivity : (0 : ℤ) ≤ 2 ^ 1024))] at infinite
  have read := (texts "\u00a0-٣_0\n" (-30) (by decide +kernel)).1
  rw [Int.cast_neg, Int.cast_ofNat] at read
  exact ⟨read, same .int64 (by rintro (⟨⟨⟩⟩ | ⟨⟨⟩⟩ | ⟨⟨⟩⟩)), refused .float32 (.inr (.inl rfl)), infinite⟩

end ZeroGuard
