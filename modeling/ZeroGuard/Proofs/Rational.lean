import ZeroGuard.Proofs.Decimal.Text
import ZeroGuard.Proofs.Number.Length

namespace ZeroGuard

theorem integerText_toList (n : Int) :
    (integerText n).toList = Decimal.signChars (n < 0) ++ (Nat.repr n.natAbs).toList := by
  rw [integerText]
  split_ifs with negative
  · rw [String.toList_append, decide_eq_true negative]
    rfl
  · rw [decide_eq_false negative]
    rfl

theorem integerText_natCast (n : Nat) : integerText n = Nat.repr n :=
  if_neg (by omega)

theorem integerText_neg_natCast {n : Nat} (positive : 0 < n) :
    integerText (-(n : Int)) = "-" ++ Nat.repr n := by
  rw [integerText, if_pos (by omega), Int.natAbs_neg, Int.natAbs_natCast]

/-- What can be written has few enough digits to be read again. -/
theorem writeInteger_eq_ok {n : Int} {text : String} (written : writeInteger n = .ok text) :
    text = integerText n ∧ readDigits (Nat.repr n.natAbs).toList = .ok n.natAbs := by
  rw [writeInteger] at written
  split_ifs at written with short
  rw [isWritable_iff] at short
  exact ⟨(Except.ok.inj written).symm, readDigits_repr short⟩

theorem signed_natAbs (n : Int) :
    (if decide (n < 0) then -(n.natAbs : Int) else n.natAbs) = n := by
  simp only [decide_eq_true_iff]
  split_ifs <;> omega

namespace Rational

theorem plainForm_eq_self {text : List Char} (plain : ∀ c ∈ text, IsPlain c) :
    plainForm text = text := by
  rw [plainForm, trimBoth_eq_self fun c member => (plain c member).1,
    map_eq_self fun c member => (plain c member).2.2.1]

theorem isPlain_integerText (n : Int) : ∀ c ∈ (integerText n).toList, IsPlain c := by
  rw [integerText_toList]
  exact List.forall_mem_append.mpr ⟨Decimal.isPlain_signChars _, Decimal.isPlain_repr _⟩

/-- A text that is a fraction of two rows of digits behind a sign. Only next to the slash it has
blanks. -/
structure FractionSpelledBy (negative : Bool) (above below text : List Char) : Prop where
  aboveDigits : ∀ c ∈ above, isAsciiDigit c = true
  belowDigits : ∀ c ∈ below, isAsciiDigit c = true
  aboveSome : above ≠ []
  belowSome : below ≠ []
  parts : ∃ sign front back, Numeral.WritesSign negative sign ∧ (∀ c ∈ front, isBlank c = true) ∧
    (∀ c ∈ back, isBlank c = true) ∧ text = sign ++ (above ++ (front ++ '/' :: (back ++ below)))

variable {negative : Bool} {above below blanks text : List Char}

/-- A row of digits ends where a slash follows, or blanks in front of one. -/
theorem endsDigits_slash (blank : ∀ c ∈ blanks, isBlank c = true) (rest : List Char) :
    EndsDigits (blanks ++ '/' :: rest) := by
  cases blanks with
  | nil =>
    rintro c same
    cases same
    decide
  | cons d others =>
    rintro c same
    cases same
    have outer := blank d List.mem_cons_self
    constructor
    · by_contra digit
      rw [(isPlain_of_isAsciiDigit (Bool.of_not_eq_false digit)).1] at outer
      cases outer
    · rintro rfl
      cases outer

theorem dropWhile_blanks_digits (blank : ∀ c ∈ blanks, isBlank c = true)
    (digits : ∀ c ∈ below, isAsciiDigit c = true) : (blanks ++ below).dropWhile isBlank = below := by
  rw [List.dropWhile_append_of_pos blank]
  exact dropWhile_eq_self fun c member => (isPlain_of_isAsciiDigit (digits c member)).1

theorem FractionSpelledBy.scan? (spelled : FractionSpelledBy negative above below text) :
    scanFraction? text = some (negative, above, below) := by
  obtain ⟨aboveDigits, belowDigits, aboveSome, belowSome, sign, front, back, writes, frontBlank,
    backBlank, rfl⟩ := spelled
  have unsigned := Numeral.unsigned_of_digits (front ++ '/' :: (back ++ below)) aboveSome aboveDigits
  have signed := Numeral.splitSign_of_writes writes unsigned
  have first := digitGroup_append aboveDigits (endsDigits_slash frontBlank (back ++ below))
  have slash : (front ++ '/' :: (back ++ below)).dropWhile isBlank = '/' :: (back ++ below) :=
    List.dropWhile_append_of_pos frontBlank
  have second := dropWhile_blanks_digits backBlank belowDigits
  have row := digitGroup_eq_self belowDigits
  obtain ⟨_, _, rfl⟩ := List.exists_cons_of_ne_nil aboveSome
  obtain ⟨_, _, rfl⟩ := List.exists_cons_of_ne_nil belowSome
  simp only [scanFraction?, signed, first, slash, second, row]

/-- A numeral is no fraction, for it has no slash behind its first digits. -/
theorem scanFraction?_of_numeral {numeral : Numeral} (spelled : numeral.SpelledBy text) :
    scanFraction? text = none := by
  have slashless : ∀ c ∈ text, c ≠ '/' :=
    spelled.forall (fun c digit same => by rw [same] at digit; cases digit) (by simp)
  obtain ⟨digits, nonempty, sign, fraction, exponent, writesSign, writesFraction, writesExponent,
    rfl⟩ := spelled
  have whole : ∀ c ∈ numeral.whole, isAsciiDigit c = true := fun c member => digits c (by simp [member])
  have unsigned := Numeral.unsigned_of_writes exponent writesFraction whole nonempty
  have signed := Numeral.splitSign_of_writes writesSign unsigned
  have first := digitGroup_append whole (Numeral.endsDigits_of_writes writesFraction writesExponent)
  simp only [scanFraction?, signed, first]
  split
  · rename_i same
    obtain ⟨-, rfl⟩ := Prod.mk.inj same
    split
    · rename_i rest reached
      have inside : '/' ∈ fraction ++ exponent := by
        refine (List.dropWhile_sublist isBlank).subset ?_
        rw [reached]
        exact List.mem_cons_self
      exact absurd rfl (slashless '/' (List.mem_append_right _ (List.mem_append_right _ inside)))
    · rfl
  · rfl

theorem spelledBy_integerText (n : Int) :
    Numeral.SpelledBy ⟨n < 0, (Nat.repr n.natAbs).toList, [], false, []⟩ (integerText n).toList := by
  refine ⟨by simpa using repr_digits n.natAbs, by simp, _, [], [],
    Numeral.writesSign_signChars _, .absent, .absent, ?_⟩
  rw [integerText_toList, List.append_nil, List.append_nil]

theorem ofNumeral_whole (negative : Bool) (short : readDigits above = .ok (digitsValue above)) :
    ofNumeral ⟨negative, above, [], false, []⟩ =
      .ok ((if negative then -(digitsValue above : Int) else digitsValue above : Int) : Rat) := by
  have none : readDigits [] = .ok 0 := rfl
  simp only [ofNumeral, short, none, bind, Except.bind]
  cases negative <;> simp [Numeral.writtenExponent, digitsValue, Rat.mkRat_one]

theorem readRational_integerText {n : Int} {text : String} (written : writeInteger n = .ok text) :
    readRational text = .ok n := by
  obtain ⟨rfl, short⟩ := writeInteger_eq_ok written
  have plain := plainForm_eq_self (isPlain_integerText n)
  have spelled := spelledBy_integerText n
  have value := digitsValue_repr n.natAbs
  simp only [readRational, plain, scanFraction?_of_numeral spelled, spelled.scan?]
  rw [ofNumeral_whole _ (short.trans (by rw [value])), value, signed_natAbs]

theorem fraction_toList (n : Int) (d : Nat) :
    (integerText n ++ "/" ++ integerText d).toList =
      Decimal.signChars (n < 0) ++ ((Nat.repr n.natAbs).toList ++ '/' :: (Nat.repr d).toList) := by
  rw [String.toList_append, String.toList_append, integerText_toList, integerText_natCast]
  simp

theorem fractionSpelledBy_text (n : Int) (d : Nat) :
    FractionSpelledBy (n < 0) (Nat.repr n.natAbs).toList (Nat.repr d).toList
      (integerText n ++ "/" ++ integerText d).toList :=
  ⟨repr_digits _, repr_digits _, repr_ne_nil _, repr_ne_nil _, _, [], [],
    Numeral.writesSign_signChars _, nofun, nofun, fraction_toList n d⟩

theorem isPlain_fraction (n : Int) (d : Nat) :
    ∀ c ∈ (integerText n ++ "/" ++ integerText d).toList, IsPlain c := by
  have slash : IsPlain '/' := by decide
  rw [fraction_toList]
  simp only [List.forall_mem_append, List.forall_mem_cons]
  exact ⟨Decimal.isPlain_signChars _, Decimal.isPlain_repr _, slash, Decimal.isPlain_repr _⟩

theorem readRational_text {q : Rat} {text : String} (written : Rational.text q = .ok text) :
    readRational text = .ok q := by
  obtain ⟨numerator, above, rest⟩ := bind_eq_ok_iff.mp written
  split_ifs at rest with whole
  · cases rest
    rw [readRational_integerText above, Rat.coe_int_num_of_den_eq_one whole]
  · obtain ⟨denominator, below, same⟩ := bind_eq_ok_iff.mp rest
    cases same
    obtain ⟨rfl, aboveShort⟩ := writeInteger_eq_ok above
    obtain ⟨rfl, belowShort⟩ := writeInteger_eq_ok below
    have plain := plainForm_eq_self (isPlain_fraction q.num q.den)
    have scanned := (fractionSpelledBy_text q.num q.den).scan?
    rw [Int.natAbs_natCast] at belowShort
    simp only [readRational, plain, scanned, ofFraction, aboveShort, belowShort, bind, Except.bind,
      signed_natAbs, if_neg q.den_nz, Rat.mkRat_self]

end Rational

end ZeroGuard
