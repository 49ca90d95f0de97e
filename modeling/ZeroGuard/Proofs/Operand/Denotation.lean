import ZeroGuard.Proofs.Operand.Float
import ZeroGuard.Proofs.Operand.Integer

namespace ZeroGuard

/-- A text with an n in it, in either case. -/
def Lettered (text : List Char) : Prop :=
  'n' ∈ text ∨ 'N' ∈ text

variable {text : List Char} {c : Char}

theorem not_lettered_of_forall (none : ∀ c ∈ text, c ≠ 'n' ∧ c ≠ 'N') : ¬ Lettered text := by
  rintro (lower | upper)
  · exact (none 'n' lower).1 rfl
  · exact (none 'N' upper).2 rfl

theorem ne_n_of_isAsciiDigit (digit : isAsciiDigit c = true) : c ≠ 'n' ∧ c ≠ 'N' := by
  constructor <;> rintro rfl <;> cases digit

theorem ne_n_of_isBlank (blank : isBlank c = true) : c ≠ 'n' ∧ c ≠ 'N' := by
  constructor <;> rintro rfl <;> cases blank

theorem Numeral.SpelledBy.not_lettered {numeral : Numeral} (spelled : numeral.SpelledBy text) :
    ¬ Lettered text :=
  not_lettered_of_forall (spelled.forall (fun _ => ne_n_of_isAsciiDigit) (by simp))

theorem Rational.FractionSpelledBy.not_lettered {negative : Bool} {above below : List Char}
    (spelled : FractionSpelledBy negative above below text) : ¬ Lettered text := by
  obtain ⟨aboveDigits, belowDigits, -, -, sign, front, back, writes, frontBlank, backBlank, rfl⟩ :=
    spelled
  have signs : ∀ c ∈ sign, c ≠ 'n' ∧ c ≠ 'N' := by cases writes <;> simp
  refine not_lettered_of_forall ?_
  simp only [List.forall_mem_append, List.forall_mem_cons]
  exact ⟨signs, fun c member => ne_n_of_isAsciiDigit (aboveDigits c member),
    fun c member => ne_n_of_isBlank (frontBlank c member), by decide,
    fun c member => ne_n_of_isBlank (backBlank c member),
    fun c member => ne_n_of_isAsciiDigit (belowDigits c member)⟩

theorem Operand.Denotes.not_lettered {s : String} {q : ℚ} (denotes : (Operand.text s).Denotes q) :
    ¬ Lettered (Decimal.plainForm s.toList) := by
  cases denotes with
  | numeral spelled =>
    obtain ⟨_, spells, -⟩ := spelled
    exact spells.not_lettered
  | fraction spelled => exact spelled.not_lettered

theorem eq_of_toLower_eq (lower : c.toLower = 'n') : c = 'n' ∨ c = 'N' := by
  have all : ∀ code : Fin 0x80, (Char.ofNat code).toLower = 'n' →
      Char.ofNat code = 'n' ∨ Char.ofNat code = 'N' := by decide
  by_cases ascii : c.toNat < 0x80
  · have small := all ⟨c.toNat, ascii⟩
    rw [Char.ofNat_toNat] at small
    exact small lower
  · unfold Char.toLower at lower
    split_ifs at lower with capital
    · exact absurd (capital.2.trans_lt (by decide)) ascii
    · exact .inl lower

theorem lettered_of_lower (word : 'n' ∈ (splitSign text).2.map Char.toLower) : Lettered text := by
  obtain ⟨sign, -, split⟩ := Numeral.splitSign_append text
  obtain ⟨c, member, lower⟩ := List.mem_map.mp word
  have inside : c ∈ text := by
    rw [split]
    exact List.mem_append_right sign member
  rcases eq_of_toLower_eq lower with rfl | rfl
  · exact .inl inside
  · exact .inr inside

theorem Decimal.finite_or_lettered {d : Decimal} (read : ofPlainForm text = .ok d) :
    (∃ negative coefficient exponent, d = finite negative coefficient exponent) ∨ Lettered text := by
  simp only [ofPlainForm] at read
  split at read
  case h_5 =>
    split at read
    · rw [ofNumeral] at read
      split_ifs at read
      exact .inl ⟨_, _, _, (Except.ok.inj read).symm⟩
    · cases read
  all_goals
    rename_i word
    exact .inr (lettered_of_lower (by rw [word]; simp))

theorem Binary.scanned_or_lettered {f : Format} {x : Binary f} (read : ofChars? text = some x) :
    (∃ numeral, Numeral.scan? text = some numeral ∧
      x = ofDecimal numeral.negative numeral.coefficient numeral.scale) ∨ Lettered text := by
  simp only [ofChars?] at read
  split at read
  · rename_i named
    refine .inr (lettered_of_lower ?_)
    rw [ofName?] at named
    split_ifs at named with infinity nan
    · rcases infinity with word | word <;>
        · rw [word]
          decide
    · rw [nan]
      decide
  · obtain ⟨numeral, scanned, same⟩ := Option.map_eq_some_iff.mp read
    exact .inl ⟨numeral, scanned, same.symm⟩

/-- A character of the ASCII form that neither a blank nor a digit nor an unknown character has become. -/
theorem mem_of_mem_foldNumeral (plain : IsPlain c) (other : isAsciiDigit c = false) (known : c ≠ '?')
    (member : c ∈ foldNumeral text) : c ∈ text := by
  have digits : ∀ value < 10, isAsciiDigit (Nat.digitChar value) = true := by decide
  induction text with
  | nil => exact member
  | cons d rest ih =>
    have later : c ∈ foldNumeral rest → c ∈ d :: rest :=
      fun member => List.mem_cons_of_mem d (ih member)
    rw [foldNumeral] at member
    split_ifs at member with ascii blank
    · rcases List.mem_cons.mp member with rfl | member
      · exact List.mem_cons_self
      · exact later member
    · rcases List.mem_cons.mp member with rfl | member
      · cases plain.1
      · exact later member
    · cases found : digitValue? d with
      | some value =>
        rw [found] at member
        rcases List.mem_cons.mp member with rfl | member
        · rw [digits value (digitValue?_lt found)] at other
          cases other
        · exact later member
      | none =>
        rw [found] at member
        exact absurd (List.mem_singleton.mp member) known

theorem mem_plainForm_of_mem (plain : IsPlain c) (other : isAsciiDigit c = false) (known : c ≠ '?')
    (member : c ∈ trimBoth isAsciiBlank (asciiNumeral text)) : c ∈ Decimal.plainForm text := by
  have folded : c ∈ asciiNumeral text := (infix_trimBoth isAsciiBlank _).subset member
  have inside : c ∈ text := by
    rw [asciiNumeral] at folded
    split_ifs at folded
    · exact folded
    · exact mem_of_mem_foldNumeral plain other known folded
  obtain ⟨solid, unmarked, digit, -⟩ := plain
  have ends : isBlank c = true ∨ c ∈ trimBoth isBlank text := mem_trimBoth_or inside
  rcases ends with blank | kept
  · rw [solid] at blank
    cases blank
  · exact List.mem_map.mpr ⟨c, List.mem_filter.mpr ⟨kept, decide_eq_true unmarked⟩, digit⟩

theorem lettered_plainForm (lettered : Lettered (trimBoth isAsciiBlank (asciiNumeral text))) :
    Lettered (Decimal.plainForm text) := by
  rcases lettered with lower | upper
  · exact .inl (mem_plainForm_of_mem (by decide) rfl (by decide) lower)
  · exact .inr (mem_plainForm_of_mem (by decide) rfl (by decide) upper)

namespace Operand

variable {raw : Operand} {q : ℚ}

theorem denotes_of_toInt {n : ℤ} (converted : raw.toInt = .ok n) : raw.Denotes n := by
  cases raw with
  | int m =>
    cases converted
    exact .int n
  | float x =>
    simp only [toInt] at converted
    split at converted
    · rename_i found
      obtain ⟨finite, value⟩ := floatToInt?_eq_some_iff.mp found
      obtain rfl := Except.ok.inj converted
      rw [← value]
      exact .float finite
    · cases converted
  | text s =>
    obtain ⟨_, _, _, integer⟩ := integerForm_of_readInteger converted
    exact denotes_of_readRational integer.readRational_eq

/-- A double is the rounding of what the operand denotes. -/
theorem rounded_of_toDouble {x : Double} (converted : raw.toDouble = .ok x) (denotes : raw.Denotes q) :
    Binary.Rounded q x := by
  cases raw with
  | int n =>
    cases denotes
    rw [toDouble, Number.intToDouble, Number.finiteOr_eq_ok_iff] at converted
    rw [converted.2]
    exact Binary.rounded_ofInt n
  | float y =>
    cases converted
    cases denotes with
    | float finite => exact Binary.rounded_value finite
  | text s =>
    simp only [toDouble, readDouble] at converted
    split at converted
    · rename_i read
      cases converted
      rcases Binary.scanned_or_lettered read with ⟨numeral, scanned, rfl⟩ | lettered
      · have form := plainForm_of_solid (isSolid_of_scan? scanned)
        have spelled := Numeral.spelledBy_of_scan? scanned
        rw [← form, Rational.withoutUnderscores_plainForm] at spelled
        rw [denotes.unique (.numeral ⟨numeral, spelled, rfl⟩)]
        exact Binary.rounded_ofDecimal (by decide +kernel) (by decide) _ _ _
      · exact absurd (lettered_plainForm lettered) denotes.not_lettered
    · cases converted

theorem decimal_value_eq_zero_iff (negative : Bool) (coefficient : Nat) (exponent : ℤ) :
    (Decimal.finite negative coefficient exponent).value = 0 ↔ coefficient = 0 := by
  have power := (ten_zpow_pos exponent).ne'
  cases negative <;> simp [Decimal.value, power]

theorem binary_value_eq_zero_iff {f : Format} (negative : Bool) (rank : Fin f.size) :
    (Binary.finite negative rank : Binary f).value = 0 ↔ rank.val = 0 := by
  cases negative <;> simp [Binary.value, f.units_eq_zero_iff]

/-- What denotes a number becomes a finite decimal, which is a zero only if that number is. A float is
the one operand that may denote another number than its decimal. -/
theorem zero_of_toDecimal {d : Decimal} (converted : raw.toDecimal = .ok d) (denotes : raw.Denotes q) :
    ∃ negative coefficient exponent, d = .finite negative coefficient exponent ∧
      (coefficient = 0 ↔ q = 0) := by
  cases raw with
  | int n =>
    cases denotes
    cases converted
    exact ⟨n < 0, n.natAbs, 0, rfl, by simp⟩
  | float x =>
    cases denotes with
    | float finite =>
      cases x with
      | nan => cases finite
      | infinite => cases finite
      | finite negative rank =>
        obtain ⟨numeral, fills, read⟩ := Binary.readDecimal_finite negative rank
        cases read.symm.trans converted
        refine ⟨_, _, _, rfl, ?_⟩
        rw [Binary.coefficient_eq_zero_iff (by decide) (by decide) fills, binary_value_eq_zero_iff]
  | text s =>
    rcases Decimal.finite_or_lettered converted with ⟨negative, coefficient, exponent, rfl⟩ | lettered
    · have spelled :=
        Decimal.spelledBy_of_ofPlainForm (Decimal.underscore_not_mem_plainForm _) converted
      rw [denotes.unique (.numeral spelled)]
      exact ⟨_, _, _, rfl, (decimal_value_eq_zero_iff negative coefficient exponent).symm⟩
    · exact absurd lettered denotes.not_lettered

end Operand

end ZeroGuard
