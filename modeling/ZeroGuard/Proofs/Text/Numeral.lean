import ZeroGuard.Proofs.Text.Digits

namespace ZeroGuard

namespace Numeral

/-- A sign, where plus can be left out. -/
inductive WritesSign : Bool → List Char → Prop
  | minus : WritesSign true ['-']
  | plus : WritesSign false ['+']
  | absent : WritesSign false []

/-- Digits behind a point; where there are none, the point can be left out. -/
inductive WritesFraction : List Char → List Char → Prop
  | point (digits : List Char) : WritesFraction digits ('.' :: digits)
  | absent : WritesFraction [] []

/-- A letter, a sign and at least one digit, or nothing at all. -/
inductive WritesExponent : Bool → List Char → List Char → Prop
  | letter {c : Char} {negative : Bool} {sign digits : List Char} : c = 'e' ∨ c = 'E' →
      WritesSign negative sign → digits ≠ [] →
      WritesExponent negative digits (c :: (sign ++ digits))
  | absent : WritesExponent false [] []

/-- A text that is a numeral, with all of its digits where the text has them. -/
structure SpelledBy (numeral : Numeral) (text : List Char) : Prop where
  digits : ∀ c ∈ numeral.whole ++ numeral.fraction ++ numeral.exponent, isAsciiDigit c = true
  nonempty : numeral.whole ++ numeral.fraction ≠ []
  parts : ∃ sign fraction exponent, WritesSign numeral.negative sign ∧
    WritesFraction numeral.fraction fraction ∧
    WritesExponent numeral.exponentNegative numeral.exponent exponent ∧
    text = sign ++ (numeral.whole ++ (fraction ++ exponent))

end Numeral

/-- A text without its underscores. -/
def withoutUnderscores (text : List Char) : List Char :=
  text.filter (· ≠ '_')

variable {text digits rest : List Char} {c : Char}

theorem withoutUnderscores_cons (other : c ≠ '_') (rest : List Char) :
    withoutUnderscores (c :: rest) = c :: withoutUnderscores rest :=
  List.filter_cons_of_pos (decide_eq_true other)

theorem withoutUnderscores_eq_self (plain : '_' ∉ text) : withoutUnderscores text = text :=
  List.filter_eq_self.mpr fun _ member => decide_eq_true fun same => plain (same ▸ member)

theorem ne_underscore_of_isAsciiDigit (digit : isAsciiDigit c = true) : c ≠ '_' :=
  (isPlain_of_isAsciiDigit digit).2.1

theorem digitTail_split (text : List Char) :
    (digitTail text).1 ++ withoutUnderscores (digitTail text).2 = withoutUnderscores text := by
  fun_induction digitTail text with
  | case1 => rfl
  | case2 c digit => exact (withoutUnderscores_cons (ne_underscore_of_isAsciiDigit digit) []).symm
  | case3 => rfl
  | case4 c d rest digit more ih =>
    rw [withoutUnderscores_cons (ne_underscore_of_isAsciiDigit digit), ← ih, List.cons_append]
  | case5 c d rest _ underscore more ih =>
    have dropped : withoutUnderscores (c :: d :: rest) = withoutUnderscores (d :: rest) :=
      List.filter_cons_of_neg (by simp [underscore.1])
    rw [dropped, withoutUnderscores_cons (ne_underscore_of_isAsciiDigit underscore.2), ← ih,
      List.cons_append]
  | case6 => rfl

theorem digitGroup_split (text : List Char) :
    (digitGroup text).1 ++ withoutUnderscores (digitGroup text).2 = withoutUnderscores text := by
  cases text with
  | nil => rfl
  | cons c rest =>
    simp only [digitGroup]
    split_ifs with digit
    · rw [withoutUnderscores_cons (ne_underscore_of_isAsciiDigit digit), ← digitTail_split rest,
        List.cons_append]
    · rfl

/-- The characters that a row of digits takes off the front of a text are that row by themselves. -/
theorem digitTail_front (text : List Char) :
    ∃ row, text = row ++ (digitTail text).2 ∧ digitTail row = ((digitTail text).1, []) ∧
      ∀ c ∈ row, isAsciiDigit c = true ∨ c = '_' := by
  fun_induction digitTail text with
  | case1 => exact ⟨[], rfl, rfl, by simp⟩
  | case2 c digit => exact ⟨[c], rfl, by rw [digitTail, if_pos digit], by simp [digit]⟩
  | case3 c _ => exact ⟨[], rfl, rfl, by simp⟩
  | case4 c d rest digit more ih =>
    obtain ⟨row, split, alone, all⟩ := ih
    refine ⟨c :: row, by rw [List.cons_append, ← split], ?_, List.forall_mem_cons.mpr ⟨.inl digit, all⟩⟩
    cases row with
    | nil =>
      obtain ⟨none, -⟩ := Prod.mk.inj alone
      rw [digitTail, if_pos digit, ← none]
    | cons e others => simp only [digitTail, if_pos digit, alone, more]
  | case5 c d rest other underscore more ih =>
    obtain ⟨row, split, alone, all⟩ := ih
    refine ⟨c :: d :: row, by rw [List.cons_append, List.cons_append, ← split], ?_,
      List.forall_mem_cons.mpr ⟨.inr underscore.1, List.forall_mem_cons.mpr ⟨.inl underscore.2, all⟩⟩⟩
    rw [digitTail, if_neg other, if_pos underscore, alone]
  | case6 => exact ⟨[], rfl, rfl, by simp⟩

theorem digitGroup_front (text : List Char) :
    ∃ row, text = row ++ (digitGroup text).2 ∧ digitGroup row = ((digitGroup text).1, []) ∧
      ∀ c ∈ row, isAsciiDigit c = true ∨ c = '_' := by
  cases text with
  | nil => exact ⟨[], rfl, rfl, by simp⟩
  | cons c rest =>
    by_cases digit : isAsciiDigit c = true
    · have group : ∀ rest, digitGroup (c :: rest) = (c :: (digitTail rest).1, (digitTail rest).2) :=
        fun _ => if_pos digit
      obtain ⟨row, split, alone, all⟩ := digitTail_front rest
      rw [group]
      refine ⟨c :: row, by rw [List.cons_append, ← split], ?_,
        List.forall_mem_cons.mpr ⟨.inl digit, all⟩⟩
      rw [group, alone]
    · have group : digitGroup (c :: rest) = ([], c :: rest) := if_neg digit
      rw [group]
      exact ⟨[], rfl, rfl, by simp⟩

namespace Numeral

theorem splitSign_append (text : List Char) :
    ∃ sign, WritesSign (splitSign text).1 sign ∧ text = sign ++ (splitSign text).2 := by
  unfold splitSign
  split
  · exact ⟨_, .minus, rfl⟩
  · exact ⟨_, .plus, rfl⟩
  · exact ⟨_, .absent, rfl⟩

theorem withoutUnderscores_of_writesSign {negative : Bool} {sign : List Char}
    (writes : WritesSign negative sign) : withoutUnderscores sign = sign := by
  cases writes <;> rfl

theorem splitSign_writes (text : List Char) :
    ∃ sign, WritesSign (splitSign text).1 sign ∧
      sign ++ withoutUnderscores (splitSign text).2 = withoutUnderscores text := by
  obtain ⟨sign, writes, split⟩ := splitSign_append text
  have whole : withoutUnderscores (sign ++ (splitSign text).2) =
      withoutUnderscores sign ++ withoutUnderscores (splitSign text).2 := List.filter_append _ _
  rw [← split, withoutUnderscores_of_writesSign writes] at whole
  exact ⟨sign, writes, whole.symm⟩

theorem scanFraction_writes (text : List Char) :
    ∃ fraction, WritesFraction (scanFraction text).1 fraction ∧
      fraction ++ withoutUnderscores (scanFraction text).2 = withoutUnderscores text ∧
      ∀ c ∈ (scanFraction text).1, isAsciiDigit c = true := by
  unfold scanFraction
  split
  · rename_i rest
    have point : withoutUnderscores ('.' :: rest) = '.' :: withoutUnderscores rest := rfl
    refine ⟨_, .point _, ?_, digitGroup_digits rest⟩
    rw [point, ← digitGroup_split rest, List.cons_append]
  · exact ⟨_, .absent, rfl, nofun⟩

theorem scanExponent?_writes {exponent : Bool × List Char}
    (scanned : scanExponent? text = some exponent) :
    WritesExponent exponent.1 exponent.2 (withoutUnderscores text) ∧
      ∀ c ∈ exponent.2, isAsciiDigit c = true := by
  cases text with
  | nil =>
    obtain rfl := Option.some.inj scanned
    exact ⟨.absent, nofun⟩
  | cons c rest =>
    obtain ⟨sign, writes, whole⟩ := splitSign_writes rest
    have group := digitGroup_split (splitSign rest).2
    have all := digitGroup_digits (splitSign rest).2
    simp only [scanExponent?] at scanned
    split_ifs at scanned with letter
    have other : c ≠ '_' := by
      rintro rfl
      exact absurd letter (by decide)
    split at scanned
    · rename_i digit digits found
      obtain rfl := Option.some.inj scanned
      rw [found] at group all
      have row : withoutUnderscores (splitSign rest).2 = digit :: digits :=
        group.symm.trans (List.append_nil _)
      rw [withoutUnderscores_cons other, ← whole, row]
      exact ⟨.letter letter writes (List.cons_ne_nil digit digits), all⟩
    · cases scanned

/-- The scanner reads a text as it is spelled. -/
theorem spelledBy_of_scan? {numeral : Numeral} (scanned : scan? text = some numeral) :
    numeral.SpelledBy (withoutUnderscores text) := by
  obtain ⟨sign, writesSign, signed⟩ := splitSign_writes text
  have front := digitGroup_split (splitSign text).2
  obtain ⟨fraction, writesFraction, behind, decimals⟩ :=
    scanFraction_writes (digitGroup (splitSign text).2).2
  simp only [scan?] at scanned
  split_ifs at scanned with none
  obtain ⟨exponent, read, rfl⟩ := Option.map_eq_some_iff.mp scanned
  obtain ⟨writesExponent, powers⟩ := scanExponent?_writes read
  refine ⟨?_, ?_, sign, fraction, _, writesSign, writesFraction, writesExponent, ?_⟩
  · intro c member
    rcases List.mem_append.mp member with member | power
    · rcases List.mem_append.mp member with digit | decimal
      · exact digitGroup_digits _ c digit
      · exact decimals c decimal
    · exact powers c power
  · intro empty
    rw [Bool.and_eq_true, List.isEmpty_iff, List.isEmpty_iff] at none
    exact none (List.append_eq_nil_iff.mp empty)
  · rw [behind, front, signed]

theorem spelledBy_of_scan?_plain (plain : '_' ∉ text) {numeral : Numeral}
    (scanned : scan? text = some numeral) : numeral.SpelledBy text := by
  have spelled := spelledBy_of_scan? scanned
  rwa [withoutUnderscores_eq_self plain] at spelled

/-- A sign is split off a text that does not start with another one. -/
theorem splitSign_of_writes {negative : Bool} {sign : List Char} (writes : WritesSign negative sign)
    (unsigned : ∀ c ∈ rest.head?, c ≠ '-' ∧ c ≠ '+') :
    splitSign (sign ++ rest) = (negative, rest) := by
  cases writes with
  | minus => rfl
  | plus => rfl
  | absent =>
    rw [List.nil_append]
    unfold splitSign
    split
    · exact absurd rfl (unsigned '-' rfl).1
    · exact absurd rfl (unsigned '+' rfl).2
    · rfl

theorem unsigned_of_digits (rest : List Char) (nonempty : digits ≠ [])
    (all : ∀ c ∈ digits, isAsciiDigit c = true) :
    ∀ c ∈ (digits ++ rest).head?, c ≠ '-' ∧ c ≠ '+' := by
  obtain ⟨first, others, rfl⟩ := List.exists_cons_of_ne_nil nonempty
  have digit := all first List.mem_cons_self
  rintro c same
  obtain rfl := Option.some.inj same
  constructor <;> rintro rfl <;> cases digit

theorem scanExponent?_of_writes {negative : Bool} {exponent : List Char}
    (writes : WritesExponent negative digits exponent)
    (all : ∀ c ∈ digits, isAsciiDigit c = true) :
    scanExponent? exponent = some (negative, digits) := by
  cases writes with
  | absent => rfl
  | @letter c _ sign _ letter writesSign nonempty =>
    have unsigned := unsigned_of_digits [] nonempty all
    rw [List.append_nil] at unsigned
    have signed := splitSign_of_writes writesSign unsigned
    have group := digitGroup_eq_self all
    obtain ⟨_, _, rfl⟩ := List.exists_cons_of_ne_nil nonempty
    simp only [scanExponent?, if_pos letter, signed, group]

/-- What an exponent starts with belongs neither to a row of digits nor to a fraction. -/
theorem head_of_writesExponent {negative : Bool} {exponent : List Char}
    (writes : WritesExponent negative digits exponent) :
    EndsDigits exponent ∧ exponent.head? ≠ some '.' := by
  cases writes with
  | absent => exact ⟨nofun, nofun⟩
  | letter letter =>
    rcases letter with rfl | rfl
    · exact ⟨by rintro c same; cases same; decide, by simp⟩
    · exact ⟨by rintro c same; cases same; decide, by simp⟩

theorem scanFraction_of_writes {fraction : List Char} (writes : WritesFraction digits fraction)
    (all : ∀ c ∈ digits, isAsciiDigit c = true) (ends : EndsDigits rest)
    (unpointed : rest.head? ≠ some '.') : scanFraction (fraction ++ rest) = (digits, rest) := by
  cases writes with
  | point => exact digitGroup_append all ends
  | absent =>
    rw [List.nil_append]
    unfold scanFraction
    split
    · exact absurd rfl unpointed
    · rfl

theorem endsDigits_of_writes {negative : Bool} {fraction exponent powers : List Char}
    (writes : WritesFraction digits fraction)
    (writesExponent : WritesExponent negative powers exponent) :
    EndsDigits (fraction ++ exponent) := by
  cases writes with
  | point =>
    rintro c same
    cases same
    decide
  | absent => exact (head_of_writesExponent writesExponent).1

/-- Behind the sign of a numeral there is a digit or a point. -/
theorem unsigned_of_writes (rest : List Char) {whole fraction : List Char}
    (writes : WritesFraction digits fraction)
    (all : ∀ c ∈ whole, isAsciiDigit c = true) (nonempty : whole ++ digits ≠ []) :
    ∀ c ∈ (whole ++ (fraction ++ rest)).head?, c ≠ '-' ∧ c ≠ '+' := by
  by_cases none : whole = []
  · subst none
    cases writes with
    | point =>
      rintro c same
      cases same
      decide
    | absent => exact absurd rfl nonempty
  · exact unsigned_of_digits _ none all

/-- The scanner finds the numeral that a text spells. -/
theorem SpelledBy.scan? {numeral : Numeral} (spelled : numeral.SpelledBy text) :
    scan? text = some numeral := by
  obtain ⟨digits, nonempty, sign, fraction, exponent, writesSign, writesFraction, writesExponent,
    rfl⟩ := spelled
  simp only [List.forall_mem_append] at digits
  obtain ⟨⟨whole, decimals⟩, powers⟩ := digits
  obtain ⟨ends, unpointed⟩ := head_of_writesExponent writesExponent
  have signed := splitSign_of_writes writesSign
    (unsigned_of_writes exponent writesFraction whole nonempty)
  have front := digitGroup_append whole (endsDigits_of_writes writesFraction writesExponent)
  have behind := scanFraction_of_writes writesFraction decimals ends unpointed
  have last := scanExponent?_of_writes writesExponent powers
  have some : (numeral.whole.isEmpty && numeral.fraction.isEmpty) = false := by
    rw [Bool.eq_false_iff, Ne, Bool.and_eq_true, List.isEmpty_iff, List.isEmpty_iff,
      ← List.append_eq_nil_iff]
    exact nonempty
  simp only [Numeral.scan?, signed, front, behind, last, some, Bool.false_eq_true, if_false,
    Option.map_some]

theorem SpelledBy.unique {numeral other : Numeral} (spelled : numeral.SpelledBy text)
    (also : other.SpelledBy text) : numeral = other :=
  Option.some.inj (spelled.scan?.symm.trans also.scan?)

/-- A numeral starts with a digit or a point behind its sign. -/
theorem head_of_scan? {numeral : Numeral} (scanned : scan? text = some numeral) :
    ∃ c rest, (splitSign text).2 = c :: rest ∧ (isAsciiDigit c = true ∨ c = '.') := by
  simp only [scan?] at scanned
  split_ifs at scanned with none
  cases behind : (splitSign text).2 with
  | nil =>
    rw [behind] at none
    exact absurd rfl none
  | cons c rest =>
    refine ⟨c, rest, rfl, ?_⟩
    by_cases digit : isAsciiDigit c = true
    · exact .inl digit
    · have group : digitGroup (c :: rest) = ([], c :: rest) := if_neg digit
      rw [behind, group] at none
      by_cases point : c = '.'
      · exact .inr point
      · have fraction : scanFraction (c :: rest) = ([], c :: rest) := by
          unfold scanFraction
          split
          · rename_i same
            exact absurd (List.cons.inj same).1 point
          · rfl
        rw [fraction] at none
        exact absurd rfl none

/-- No letter stands there, so that a numeral is no word. -/
theorem lower_of_scan? {numeral : Numeral} (scanned : scan? text = some numeral) :
    ∃ c rest, (splitSign text).2.map Char.toLower = c :: rest ∧
      (isAsciiDigit c = true ∨ c = '.') := by
  obtain ⟨c, rest, signed, head⟩ := head_of_scan? scanned
  refine ⟨c, rest.map Char.toLower, ?_, head⟩
  rw [signed, List.map_cons]
  rcases head with digit | rfl
  · rw [toLower_of_isAsciiDigit digit]
  · rfl

/-- What holds of digits and marks holds of every character of a numeral. -/
theorem SpelledBy.forall {p : Char → Prop} {numeral : Numeral} (spelled : numeral.SpelledBy text)
    (digit : ∀ c, isAsciiDigit c = true → p c) (mark : ∀ c ∈ ['-', '+', '.', 'e', 'E'], p c) :
    ∀ c ∈ text, p c := by
  obtain ⟨negative, whole, fraction, below, powers⟩ := numeral
  obtain ⟨digits, -, sign, point, exponent, writesSign, writesFraction, writesExponent, rfl⟩ :=
    spelled
  simp only [List.forall_mem_append] at digits
  dsimp only at writesSign writesFraction writesExponent
  obtain ⟨⟨front, back⟩, tail⟩ := digits
  have signs : ∀ {negative sign}, WritesSign negative sign → ∀ c ∈ sign, p c := by
    intro negative sign writes
    cases writes with
    | minus => simpa using mark '-' (by decide)
    | plus => simpa using mark '+' (by decide)
    | absent => exact nofun
  simp only [List.forall_mem_append]
  refine ⟨signs writesSign, fun c member => digit c (front c member), ?_, ?_⟩
  · cases writesFraction with
    | point =>
      exact List.forall_mem_cons.mpr
        ⟨mark '.' (by decide), fun c member => digit c (back c member)⟩
    | absent => exact nofun
  · cases writesExponent with
    | letter letter writes =>
      simp only [List.forall_mem_cons, List.forall_mem_append]
      refine ⟨?_, signs writes, fun c member => digit c (tail c member)⟩
      rcases letter with rfl | rfl
      · exact mark 'e' (by decide)
      · exact mark 'E' (by decide)
    | absent => exact nofun

end Numeral

end ZeroGuard
