import ZeroGuard.Fault
import ZeroGuard.Proofs.Text.Digits

namespace ZeroGuard

/-- Control characters, and the two separators that break a line. -/
def isControl (c : Char) : Bool :=
  c.toNat ≤ 0x1f || (0x7f ≤ c.toNat && c.toNat ≤ 0x9f) || c.toNat == 0x2028 || c.toNat == 0x2029

/-- A text without control characters and line breaks. -/
def Clean (text : String) : Prop :=
  ∀ c ∈ text.toList, isControl c = false

variable {c quote : Char} {s t : String}

@[simp] theorem clean_append : Clean (s ++ t) ↔ Clean s ∧ Clean t := by
  rw [Clean, String.toList_append, List.forall_mem_append]
  rfl

theorem Clean.append (left : Clean s) (right : Clean t) : Clean (s ++ t) :=
  clean_append.mpr ⟨left, right⟩

theorem clean_ofList {chars : List Char} :
    Clean (String.ofList chars) ↔ ∀ c ∈ chars, isControl c = false := by
  rw [Clean, String.toList_ofList]

/-- For literals, whose characters are tested one by one. -/
theorem isControl_of_all {chars : List Char} (all : (chars.all fun c => !isControl c) = true) :
    ∀ c ∈ chars, isControl c = false := by
  simpa using all

theorem clean_of_all {chars : List Char} (all : (chars.all fun c => !isControl c) = true) :
    Clean (String.ofList chars) :=
  clean_ofList.mpr (isControl_of_all all)

theorem isControl_of_isAsciiDigit (digit : isAsciiDigit c = true) : isControl c = false := by
  have all : ∀ value : Fin 10, isControl (Char.ofNat ('0'.toNat + value)) = false := by decide
  obtain ⟨value, rfl⟩ := isAsciiDigit_eq_ofNat digit
  exact all value

/-- Everything that breaks a line is among the ranges that are not printable. -/
theorem isControl_of_isPrintable (printable : isPrintable c = true) : isControl c = false := by
  have outside : ∀ range ∈ unprintableRanges, ¬ (range.1 ≤ c.toNat ∧ c.toNat ≤ range.2) := by
    simpa [isPrintable] using printable
  have low := outside (0x0, 0x1f) (by decide +kernel)
  have high := outside (0x7f, 0xa0) (by decide +kernel)
  have separators := outside (0x2028, 0x202f) (by decide +kernel)
  simp only [isControl, Bool.or_eq_false_iff, Bool.and_eq_false_iff, decide_eq_false_iff_not,
    beq_eq_false_iff_ne]
  omega

theorem isControl_digitChar (value : Nat) : isControl (Nat.digitChar value) = false := by
  have all : ∀ digit : Fin 16, isControl (Nat.digitChar digit) = false := by decide
  by_cases single : value < 16
  · exact all ⟨value, single⟩
  · rw [Nat.digitChar_eq_star.mpr (Nat.le_of_not_lt single)]
    decide

theorem isControl_toDigits {base : Nat} (large : 1 < base) (n : Nat) :
    ∀ c ∈ Nat.toDigits base n, isControl c = false := by
  induction n using Nat.strongRecOn with
  | ind n ih =>
    by_cases single : n < base
    · rw [Nat.toDigits_of_lt_base single, List.forall_mem_singleton]
      exact isControl_digitChar n
    · have reached : base ≤ n := Nat.le_of_not_lt single
      have less : n / base < n := Nat.div_lt_self (by omega) large
      rw [Nat.toDigits_of_base_le large reached, List.forall_mem_append, List.forall_mem_singleton]
      exact ⟨ih _ less, isControl_digitChar _⟩

theorem isControl_hexDigits (width value : Nat) :
    ∀ c ∈ hexDigits width value, isControl c = false := by
  rw [hexDigits, List.forall_mem_append]
  exact ⟨List.forall_mem_replicate.mpr (.inr (by decide)), isControl_toDigits (by decide) value⟩

theorem isControl_hexEscape (c : Char) : ∀ d ∈ hexEscape c, isControl d = false := by
  have digits := fun width => isControl_hexDigits width (charCode c)
  unfold hexEscape
  dsimp only
  split_ifs
  all_goals exact List.forall_mem_cons.mpr ⟨rfl, List.forall_mem_cons.mpr ⟨rfl, digits _⟩⟩

theorem isControl_quoteChar (mark : isControl quote = false) (c : Char) :
    ∀ d ∈ quoteChar quote c, isControl d = false := by
  unfold quoteChar
  split_ifs with escaped tab feed back printable
  · have kept : isControl c = false := by
      rcases escaped with rfl | rfl
      · exact mark
      · decide
    exact List.forall_mem_cons.mpr ⟨rfl, List.forall_mem_singleton.mpr kept⟩
  · exact isControl_of_all rfl
  · exact isControl_of_all rfl
  · exact isControl_of_all rfl
  · exact List.forall_mem_singleton.mpr (isControl_of_isPrintable printable)
  · exact isControl_hexEscape c

theorem isControl_quotedChars (text : List Char) :
    ∀ c ∈ quotedChars text, isControl c = false := by
  have mark : isControl (quoteMark text) = false := by
    unfold quoteMark
    split_ifs <;> rfl
  rw [quotedChars, List.cons_append, List.forall_mem_cons, List.forall_mem_append,
    List.forall_mem_singleton]
  refine ⟨mark, fun c member => ?_, mark⟩
  obtain ⟨d, -, written⟩ := List.mem_flatMap.mp member
  exact isControl_quoteChar mark d c written

theorem clean_quoted (text : String) : Clean (quoted text) :=
  clean_ofList.mpr (isControl_quotedChars text.toList)

theorem clean_shownText (text : String) : Clean (shownText text) :=
  clean_ofList.mpr fun c member => clean_quoted text c (List.mem_of_mem_take member)

theorem clean_repr (n : Nat) : Clean (Nat.repr n) :=
  fun c member => isControl_of_isAsciiDigit (repr_digits n c member)

theorem clean_integerText (n : Int) : Clean (integerText n) := by
  rw [integerText]
  split_ifs
  · exact .append (clean_of_all rfl) (clean_repr _)
  · exact clean_repr _

theorem clean_intercalate {texts : List String} (separator : Clean s)
    (all : ∀ text ∈ texts, Clean text) : Clean (s.intercalate texts) := by
  induction texts with
  | nil => exact nofun
  | cons first rest ih =>
    have here := all first List.mem_cons_self
    have later := ih fun text member => all text (List.mem_cons_of_mem first member)
    cases rest with
    | nil => rwa [String.intercalate_singleton]
    | cons second others =>
      rw [String.intercalate_cons_cons, clean_append, clean_append]
      exact ⟨⟨here, separator⟩, later⟩

theorem clean_extentsText (extents : List Nat) : Clean (extentsText extents) := by
  unfold extentsText
  split
  · exact .append (.append (clean_of_all rfl) (clean_repr _)) (clean_of_all rfl)
  · refine .append (.append (clean_of_all rfl) (clean_intercalate (clean_of_all rfl) ?_))
      (clean_of_all rfl)
    intro text member
    obtain ⟨extent, -, rfl⟩ := List.mem_map.mp member
    exact clean_repr extent

theorem Operator.clean_name (op : Operator) : Clean op.name := by
  cases op <;> exact clean_of_all rfl

theorem Operator.clean_symbol (op : Operator) : Clean op.symbol := by
  cases op <;> exact clean_of_all rfl

theorem Operator.clean_itemwiseName (op : Operator) : Clean op.itemwiseName := by
  cases op <;> exact clean_of_all rfl

theorem DecimalSignal.clean_name (cause : DecimalSignal) : Clean cause.name := by
  cases cause <;> exact clean_of_all rfl

namespace Fault

/-- The texts that a fault carries and shows as they are. -/
def texts : Fault → List String
  | integerText shown | floatText shown | rationalText shown | notIntegral shown
  | infinityInteger shown | nanInteger shown | unexpectedOption shown | unknownLevel shown
  | invalidLevel shown => [shown]
  | widthRange shown width => [shown, width]
  | decimalPart problem => [problem]
  | notConvertible message => [message]
  | zeroDivisor operation => [operation]
  | unsupported _ left right => [left, right]
  | missingAttribute kind field => [kind, field]
  | _ => []

/-- No message breaks a line by a text of its own. -/
theorem clean_message {fault : Fault} (texts : ∀ text ∈ fault.texts, Clean text) :
    Clean fault.message := by
  have first : ∀ {text rest}, fault.texts = text :: rest → Clean text := by
    intro text rest carried
    exact texts text (carried ▸ List.mem_cons_self)
  have second : ∀ {text other}, fault.texts = [text, other] → Clean other := by
    intro text other carried
    exact texts other (carried ▸ List.mem_cons_of_mem text List.mem_cons_self)
  cases fault with
  | wordRange | doubleRange | infinityRatio | nanRatio | signalingDouble | sizeRange
  | quotientRange | manyTruths | noSubtype | template => exact clean_of_all rfl
  | integerTooLong | emptyTruth => exact .append (clean_of_all rfl) (clean_of_all rfl)
  | decimalPart | notConvertible => exact first rfl
  | integerText | floatText | rationalText | unexpectedOption | unknownLevel | invalidLevel =>
    exact .append (clean_of_all rfl) (first rfl)
  | notIntegral | zeroDivisor => exact .append (first rfl) (clean_of_all rfl)
  | infinityInteger | nanInteger =>
    exact .append (.append (clean_of_all rfl) (first rfl)) (clean_of_all rfl)
  | textTooLong digits =>
    exact .append (.append (clean_of_all rfl) (clean_repr digits)) (clean_of_all rfl)
  | zeroDenominator numerator =>
    exact .append (.append (clean_of_all rfl) (clean_integerText numerator)) (clean_of_all rfl)
  | signal cause =>
    exact .append (.append (clean_of_all rfl) cause.clean_name) (clean_of_all rfl)
  | widthRange =>
    exact .append (.append (.append (clean_of_all rfl) (first rfl)) (clean_of_all rfl)) (second rfl)
  | unsupported op =>
    exact .append (.append (.append (.append (.append (.append (clean_of_all rfl) op.clean_symbol)
      (clean_of_all rfl)) (first rfl)) (clean_of_all rfl)) (second rfl)) (clean_of_all rfl)
  | notItemwise op =>
    exact .append (.append (.append (clean_of_all rfl) op.clean_itemwiseName) (clean_of_all rfl))
      (clean_of_all rfl)
  | ragged extents =>
    exact .append (.append (.append (.append (.append (clean_of_all rfl) (clean_of_all rfl))
      (clean_repr _)) (clean_of_all rfl)) (clean_extentsText extents)) (clean_of_all rfl)
  | missingKey key => exact clean_quoted key
  | missingAttribute =>
    exact .append (.append (.append (.append (clean_of_all rfl) (first rfl)) (clean_of_all rfl))
      (second rfl)) (clean_of_all rfl)
  | frozenAssign field | frozenDelete field =>
    exact .append (clean_of_all rfl) (clean_quoted field)

end Fault

end ZeroGuard
