import ZeroGuard.Proofs.Binary.Shortest
import ZeroGuard.Proofs.Decimal.Text
import ZeroGuard.Proofs.Text.Folded

namespace ZeroGuard

/-- Zeros are filled in where all digits stand before the point. The zero behind the point is one digit
more of the same row. -/
theorem Numeral.scan?_trailingZeros (negative : Bool) {digits : List Char} (nonempty : digits ≠ [])
    (all : ∀ c ∈ digits, isAsciiDigit c = true) (count : Nat) :
    ∃ numeral, scan? (Decimal.signChars negative ++
        (digits ++ List.replicate count '0' ++ ['.', '0'])) = some numeral ∧
      numeral.negative = negative ∧ numeral.coefficient = digitsValue digits * 10 ^ (count + 1) ∧
      numeral.scale = -1 := by
  have row : digits ++ List.replicate count '0' ++ ['0'] =
      digits ++ List.replicate (count + 1) '0' := by
    rw [List.replicate_succ', List.append_assoc]
  have filled : ∀ c ∈ digits ++ List.replicate count '0' ++ ['0'], isAsciiDigit c = true := by
    rw [row]
    exact List.forall_mem_append.mpr ⟨all, List.forall_mem_replicate.mpr (.inr rfl)⟩
  have positive := List.length_pos_of_ne_nil (List.append_ne_nil_of_left_ne_nil nonempty
    (List.replicate count '0'))
  have length : (digits ++ List.replicate count '0' ++ ['0']).length =
      (digits ++ List.replicate count '0').length + 1 := List.length_append
  obtain ⟨numeral, scanned, sign, same, scale⟩ :=
    scan?_take negative positive (by omega) filled .absent nofun
  rw [List.take_left, List.drop_left, List.append_nil] at scanned
  refine ⟨numeral, scanned, sign, ?_, ?_⟩
  · rw [same, row, digitsValue_append_zeros]
  · rw [scale, length]
    simp [digitsValue]

/-- A numeral of the sign and the digits of a decimal. Where the digits end before the point, zeros
follow up to the first place behind it. -/
structure Numeral.Fills (numeral : Numeral) (negative : Bool) (coefficient : Nat) (exponent : Int) :
    Prop where
  sign : numeral.negative = negative
  zeros : ∃ count : Nat, numeral.coefficient = coefficient * 10 ^ count ∧
    numeral.scale = exponent - count ∧ (count = 0 ∨ numeral.scale = -1)

theorem Numeral.Fills.value {numeral : Numeral} {negative : Bool} {coefficient : Nat} {exponent : Int}
    (fills : numeral.Fills negative coefficient exponent) :
    (numeral.coefficient : ℚ) * 10 ^ numeral.scale = coefficient * 10 ^ exponent := by
  obtain ⟨-, count, digits, scale, -⟩ := fills
  rw [digits, scale, Nat.cast_mul, Nat.cast_pow, Nat.cast_ofNat, zpow_sub₀ (by norm_num), zpow_natCast,
    mul_assoc, mul_div_cancel₀ _ (by positivity)]

/-- No digit of a shortest decimal stands behind the last one of the exact value. -/
theorem Format.neg_scale_le_shortest (f : Format) (rank : Nat) :
    -(f.scale : ℤ) ≤ (f.shortest rank).exponent := by
  rw [shortest]
  split_ifs
  · exact neg_nonpos.mpr (Int.natCast_nonneg _)
  · dsimp only
    omega

namespace FloatStyle

open Decimal (signChars)

variable {style : FloatStyle} {digits : List Char}

theorem scan?_positional (pointZero : style.pointZero = true) (negative : Bool) (nonempty : digits ≠ [])
    (all : ∀ c ∈ digits, isAsciiDigit c = true) (place : Int) :
    ∃ numeral, Numeral.scan? (signChars negative ++ style.positional digits place) = some numeral ∧
      numeral.Fills negative (digitsValue digits) (place - digits.length) := by
  unfold positional
  split_ifs with leading short
  · obtain ⟨numeral, scanned, sign, same, scale⟩ :=
      Decimal.scan?_leadingZeros negative nonempty all (-place).toNat
    exact ⟨numeral, scanned, sign, 0, by rw [same, pow_zero, mul_one], by omega, .inl rfl⟩
  · obtain ⟨numeral, scanned, sign, same, scale⟩ :=
      Numeral.scan?_trailingZeros negative nonempty all (place.toNat - digits.length)
    exact ⟨numeral, scanned, sign, _, same, by omega, .inr scale⟩
  · have before : place.toNat < digits.length := by omega
    have behind : digits.drop place.toNat ≠ [] := by simpa using before
    obtain ⟨numeral, scanned, sign, same, scale⟩ := Numeral.scan?_take negative
      (by omega) before.le all .absent nofun
    refine ⟨numeral, by simpa [Numeral.pointed, behind] using scanned, sign, 0,
      by rw [same, pow_zero, mul_one], ?_, .inl rfl⟩
    simp [digitsValue] at scale
    omega

theorem scan?_scientific (negative : Bool) (nonempty : digits ≠ [])
    (all : ∀ c ∈ digits, isAsciiDigit c = true) (place : Int) :
    ∃ numeral, Numeral.scan? (signChars negative ++ scientific digits place) = some numeral ∧
      numeral.Fills negative (digitsValue digits) (place - digits.length) := by
  have written := repr_digits (place - 1).natAbs
  have some := repr_ne_nil (place - 1).natAbs
  have value := digitsValue_repr (place - 1).natAbs
  rw [toList_repr] at written some value
  have each : ∀ count, ∀ c ∈ List.replicate count '0' ++ Nat.toDigits 10 (place - 1).natAbs,
      isAsciiDigit c = true :=
    fun _ => List.forall_mem_append.mpr ⟨List.forall_mem_replicate.mpr (.inr rfl), written⟩
  obtain ⟨numeral, scanned, sign, same, scale⟩ := Numeral.scan?_scientific negative nonempty all
    (.inl rfl) (List.append_ne_nil_of_right_ne_nil _ some) (each _)
    ((digitsValue_zeros_append _ _).trans value)
  exact ⟨numeral, scanned, sign, 0, by rw [same, pow_zero, mul_one], by omega, .inl rfl⟩

end FloatStyle

namespace Binary

variable {f : Format}

theorem chars_finite (style : FloatStyle) (negative : Bool) (rank : Fin f.size) :
    (finite negative rank : Binary f).chars style = Decimal.signChars negative ++
      if isPositional (f := f) style (f.units rank)
          ((Nat.toDigits 10 (f.shortest rank).coefficient).length + (f.shortest rank).exponent) then
        style.positional (Nat.toDigits 10 (f.shortest rank).coefficient)
          ((Nat.toDigits 10 (f.shortest rank).coefficient).length + (f.shortest rank).exponent)
      else
        FloatStyle.scientific (Nat.toDigits 10 (f.shortest rank).coefficient)
          ((Nat.toDigits 10 (f.shortest rank).coefficient).length + (f.shortest rank).exponent) :=
  rfl

/-- In whichever layout, the text of a finite number is a numeral of its shortest decimal. -/
theorem scan?_chars {style : FloatStyle} (pointZero : style.pointZero = true) (negative : Bool)
    (rank : Fin f.size) :
    ∃ numeral, Numeral.scan? ((finite negative rank : Binary f).chars style) = some numeral ∧
      numeral.Fills negative (f.shortest rank).coefficient (f.shortest rank).exponent := by
  have digits := repr_digits (f.shortest rank).coefficient
  have nonempty := repr_ne_nil (f.shortest rank).coefficient
  have value := digitsValue_repr (f.shortest rank).coefficient
  have exponent := add_sub_cancel_left
    ((Nat.toDigits 10 (f.shortest rank).coefficient).length : ℤ) (f.shortest rank).exponent
  rw [toList_repr] at digits nonempty value
  rw [chars_finite]
  generalize ((Nat.toDigits 10 (f.shortest rank).coefficient).length : ℤ) +
    (f.shortest rank).exponent = place at exponent
  by_cases layout : isPositional (f := f) style (f.units rank) place = true
  · obtain ⟨numeral, scanned, fills⟩ :=
      FloatStyle.scan?_positional pointZero negative nonempty digits place
    rw [value, exponent] at fills
    exact ⟨numeral, by rw [if_pos layout, scanned], fills⟩
  · obtain ⟨numeral, scanned, fills⟩ := FloatStyle.scan?_scientific negative nonempty digits place
    rw [value, exponent] at fills
    exact ⟨numeral, by rw [if_neg layout, scanned], fills⟩

/-- What the text of a number spells is rounded to that number. -/
theorem ofDecimal_of_fills (several : 0 < f.fractionBits) (binades : 2 ≤ f.binades) {negative : Bool}
    {rank : Fin f.size} {numeral : Numeral}
    (fills : numeral.Fills negative (f.shortest rank).coefficient (f.shortest rank).exponent) :
    (ofDecimal negative numeral.coefficient numeral.scale : Binary f) = .finite negative rank := by
  rw [ofDecimal_congr (Nat.zero_lt_of_lt rank.isLt) binades fills.value]
  exact ofDecimal_shortest several binades negative rank

/-- A decimal that is rounded to a finite number has no digit far to the left of the point. -/
theorem magnitude_lt_of_ofDecimal {negative sign : Bool} {coefficient : Nat} {exponent : Int}
    {rank : Fin f.size} (nonzero : coefficient ≠ 0)
    (rounds : (ofDecimal negative coefficient exponent : Binary f) = .finite sign rank) :
    digitCount coefficient + exponent < f.fractionBits + f.binades + 1 := by
  by_contra beyond
  rw [ofDecimal, if_neg nonzero, if_pos (not_lt.mp beyond)] at rounds
  cases rounds

/-- Only zero is written with no other digit. -/
theorem coefficient_eq_zero_iff (several : 0 < f.fractionBits) (binades : 2 ≤ f.binades)
    {negative : Bool} {rank : Fin f.size} {numeral : Numeral}
    (fills : numeral.Fills negative (f.shortest rank).coefficient (f.shortest rank).exponent) :
    numeral.coefficient = 0 ↔ rank.val = 0 := by
  constructor
  · intro none
    have rounds := ofDecimal_of_fills several binades fills
    rw [none, ofDecimal, if_pos rfl, zero_eq (Nat.zero_lt_of_lt rank.isLt), finite.injEq] at rounds
    exact congrArg Fin.val rounds.2.symm
  · intro first
    obtain ⟨-, count, digits, -⟩ := fills
    rw [digits, first, Format.shortest, if_pos rfl, Nat.zero_mul]

/-- The decimal that a double is shown as is within the exponents that a reader accepts. -/
theorem inRange_of_fills {negative : Bool} {rank : Fin Format.double.size} {numeral : Numeral}
    (fills : numeral.Fills negative (Format.double.shortest rank).coefficient
      (Format.double.shortest rank).exponent) :
    Decimal.inRange numeral.coefficient numeral.scale = true := by
  have least := Format.double.neg_scale_le_shortest rank
  have bits : Format.double.fractionBits = 52 ∧ Format.double.binades = 2047 ∧
      Format.double.scale = 1074 := ⟨rfl, rfl, rfl⟩
  have zero := coefficient_eq_zero_iff (by decide) (by decide) fills
  have rounds := ofDecimal_of_fills (by decide) (by decide) fills
  obtain ⟨-, count, -, scale, filled⟩ := fills
  rw [Decimal.inRange, decide_eq_true_eq]
  simp only [Decimal.exponentMin, Decimal.exponentMax]
  by_cases none : numeral.coefficient = 0
  · rw [zero.mp none, Format.shortest, if_pos rfl] at scale least
    rw [none, digitCount_eq_log, Nat.log_zero_right]
    dsimp only at scale
    omega
  · have bounded := magnitude_lt_of_ofDecimal none rounds
    omega

variable {text : List Char} {numeral : Numeral}

/-- A numeral is no name of an infinity or a NaN. -/
theorem ofChars?_of_scan? (scanned : Numeral.scan? text = some numeral) :
    (ofChars? text : Option (Binary f)) =
      some (ofDecimal numeral.negative numeral.coefficient numeral.scale) := by
  obtain ⟨c, rest, lower, head⟩ := Numeral.lower_of_scan? scanned
  have unnamed : (ofName? ((splitSign text).2.map Char.toLower) : Option (Bool → Binary f)) = none := by
    rw [lower, ofName?, if_neg, if_neg]
    · rintro ⟨⟩
      exact absurd head (by decide)
    · rintro (⟨⟨⟩⟩ | ⟨⟨⟩⟩) <;> exact absurd head (by decide)
  simp only [ofChars?, unnamed, scanned, Option.map_some]

theorem ofChars?_finiteChars (negative : Bool) (coefficient : Nat) (exponent : Int) :
    (ofChars? (Decimal.finite negative coefficient exponent).chars : Option (Binary f)) =
      some (ofDecimal negative coefficient exponent) := by
  obtain ⟨numeral, scanned, rfl, rfl, rfl⟩ :=
    Decimal.scan?_finiteChars negative coefficient exponent
  exact ofChars?_of_scan? scanned

end Binary

theorem readDouble_plain {text : List Char} {x : Double} (plain : ∀ c ∈ text, IsPlain c)
    (read : Binary.ofChars? text = some x) : readDouble (String.ofList text) = .ok x := by
  have solid := trimBoth_eq_self fun c member => isAsciiBlank_eq_false (plain c member).1
  rw [readDouble, String.toList_ofList, asciiNumeral_eq_self plain, solid, read]

end ZeroGuard
