import ZeroGuard.Operand
import ZeroGuard.Proofs.Number.Text
import ZeroGuard.Proofs.Rational
import ZeroGuard.Proofs.Text.Numeral

namespace ZeroGuard

namespace Decimal

variable {negative : Bool} {coefficient : Nat} {exponent : Int} {text : List Char}

/-- A finite decimal that has the sign, the digits and the scale of the numeral which a text spells. -/
def SpelledBy (text : List Char) (d : Decimal) : Prop :=
  ∃ numeral : Numeral, numeral.SpelledBy text ∧
    d = finite numeral.negative numeral.coefficient numeral.scale

theorem underscore_not_mem_plainForm (text : List Char) : '_' ∉ plainForm text := by
  rw [plainForm, List.mem_map]
  rintro ⟨c, member, same⟩
  have other : c ≠ '_' := of_decide_eq_true (List.mem_filter.mp member).2
  exact asciiDigit_ne_underscore other same

theorem spelledBy_of_ofPlainForm (plain : '_' ∉ text)
    (read : ofPlainForm text = .ok (finite negative coefficient exponent)) :
    SpelledBy text (finite negative coefficient exponent) := by
  simp only [ofPlainForm] at read
  split at read
  case h_1 | h_2 => cases read
  case h_3 | h_4 =>
    rw [readPayload] at read
    split_ifs at read
    cases read
  case h_5 =>
    split at read
    · rename_i numeral scanned
      rw [ofNumeral] at read
      split_ifs at read
      exact ⟨numeral, Numeral.spelledBy_of_scan?_plain plain scanned, (Except.ok.inj read).symm⟩
    · cases read

/-- The text of a finite decimal, whichever its exponent, spells that decimal. -/
theorem spelledBy_chars (negative : Bool) (coefficient : Nat) (exponent : Int) :
    SpelledBy (finite negative coefficient exponent).chars (finite negative coefficient exponent) := by
  have plain : '_' ∉ (finite negative coefficient exponent).chars :=
    fun member => (isPlain_chars _ '_' member).2.1 rfl
  obtain ⟨numeral, scanned, rfl, rfl, rfl⟩ := scan?_finiteChars negative coefficient exponent
  exact ⟨numeral, Numeral.spelledBy_of_scan?_plain plain scanned, rfl⟩

/-- A decimal without an exponent is written as an integer, but for the sign of zero. -/
theorem chars_whole (negative : Bool) (n : Nat) :
    (finite negative n 0).chars = signChars negative ++ (Nat.repr n).toList := by
  have some := List.length_pos_of_ne_nil (repr_ne_nil n)
  unfold chars finiteChars
  dsimp only
  rw [if_pos (by omega), if_neg (by omega), if_pos rfl]

theorem chars_ofInt (n : Int) : (ofInt n).chars = (integerText n).toList := by
  rw [integerText_toList, ofInt, chars_whole]

end Decimal

theorem Binary.isPlain_chars {f : Format} (style : FloatStyle) (x : Binary f) :
    ∀ c ∈ x.chars style, IsPlain c :=
  forall_chars (fun _ => isPlain_of_isAsciiDigit) (isPlain_of_all (by decide)) style x

namespace Operand

/-- The text by which an operand is sent: a text without blanks around it and underscores and with
ASCII digits, or else the text that shows the number. -/
def written : Operand → List Char
  | int n => (integerText n).toList
  | float x => (x.text .double).toList
  | text s => Decimal.plainForm s.toList

/-- Nothing is rounded on the way to a decimal. -/
theorem spelledBy_written {raw : Operand} {negative : Bool} {coefficient : Nat} {exponent : Int}
    (converted : raw.toDecimal = .ok (.finite negative coefficient exponent)) :
    Decimal.SpelledBy raw.written (.finite negative coefficient exponent) := by
  cases raw with
  | int n =>
    have spelled := Decimal.spelledBy_chars (n < 0) n.natAbs 0
    have same : Decimal.ofInt n = .finite negative coefficient exponent := Except.ok.inj converted
    rw [← same, written, ← Decimal.chars_ofInt]
    exact spelled
  | float x =>
    have plain := Binary.isPlain_chars .double x
    have whole : Decimal.plainForm (x.text .double).toList = (x.text .double).toList := by
      rw [Binary.text, String.toList_ofList, Decimal.plainForm_eq_self plain]
    rw [written, ← whole]
    exact Decimal.spelledBy_of_ofPlainForm (Decimal.underscore_not_mem_plainForm _) converted
  | text s =>
    exact Decimal.spelledBy_of_ofPlainForm (Decimal.underscore_not_mem_plainForm _) converted

end Operand

end ZeroGuard
