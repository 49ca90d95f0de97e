import ZeroGuard.Number.Basic
import ZeroGuard.Proofs.Decimal.Text
import ZeroGuard.Proofs.Outcome
import ZeroGuard.Proofs.Text.Clean

namespace ZeroGuard

namespace FloatStyle

variable {p : Char → Prop} {digits : List Char}

theorem forall_positional (style : FloatStyle) (all : ∀ c ∈ digits, p c) (zero : p '0')
    (point : p '.') (place : Int) : ∀ c ∈ style.positional digits place, p c := by
  have zeros : ∀ count, ∀ c ∈ List.replicate count '0', p c :=
    fun _ => List.forall_mem_replicate.mpr (.inr zero)
  unfold positional
  split_ifs
  · simp only [List.forall_mem_cons, List.forall_mem_append]
    exact ⟨zero, point, zeros _, all⟩
  · simp only [List.forall_mem_cons, List.forall_mem_append]
    exact ⟨⟨all, zeros _⟩, point, zero, nofun⟩
  · simp only [List.append_nil, List.forall_mem_append]
    exact ⟨all, zeros _⟩
  · simp only [List.forall_mem_cons, List.forall_mem_append]
    exact ⟨fun c member => all c (List.mem_of_mem_take member), point,
      fun c member => all c (List.mem_of_mem_drop member)⟩

theorem forall_scientific (all : ∀ c ∈ digits, p c) (written : ∀ n, ∀ c ∈ Nat.toDigits 10 n, p c)
    (zero : p '0') (marks : ∀ c ∈ ['.', 'e', '-', '+'], p c) (place : Int) :
    ∀ c ∈ scientific digits place, p c := by
  have zeros : ∀ count, ∀ c ∈ List.replicate count '0', p c :=
    fun _ => List.forall_mem_replicate.mpr (.inr zero)
  have sign : p (if place - 1 < 0 then '-' else '+') := by
    split_ifs
    · exact marks '-' (by decide)
    · exact marks '+' (by decide)
  simp only [scientific, List.forall_mem_cons, List.forall_mem_append]
  refine ⟨⟨fun c member => all c (List.mem_of_mem_take member), ?_⟩, marks 'e' (by decide), sign,
    zeros _, written _⟩
  split_ifs
  · exact nofun
  · exact List.forall_mem_cons.mpr ⟨marks '.' (by decide),
      fun c member => all c (List.mem_of_mem_drop member)⟩

end FloatStyle

namespace Binary

variable {f : Format}

/-- The characters beside digits in the texts of binary numbers. -/
def marks : List Char :=
  ['.', 'e', '-', '+', 'i', 'n', 'f', 'a']

/-- What holds of digits and marks holds of every character in the text of a binary number. -/
theorem forall_chars {p : Char → Prop} (digit : ∀ c, isAsciiDigit c = true → p c)
    (mark : ∀ c ∈ marks, p c) (style : FloatStyle) (x : Binary f) : ∀ c ∈ x.chars style, p c := by
  have word : ∀ chars : List Char, chars.all marks.contains = true → ∀ c ∈ chars, p c :=
    fun chars all c member => mark c (mem_of_all all c member)
  have written : ∀ n, ∀ c ∈ Nat.toDigits 10 n, p c :=
    fun n c member => digit c (Nat.isDigit_of_mem_toDigits (by decide) (by decide) member)
  cases x with
  | nan => exact word ['n', 'a', 'n'] (by decide)
  | infinite negative =>
    rw [chars]
    exact word _ (by cases negative <;> decide)
  | finite negative rank =>
    rw [chars, List.forall_mem_append]
    refine ⟨word _ (by cases negative <;> decide), ?_⟩
    split_ifs
    · exact style.forall_positional (written _) (digit '0' rfl) (mark '.' (by decide)) _
    · exact FloatStyle.forall_scientific (written _) written (digit '0' rfl)
        (word _ (by decide)) _

theorem clean_text (style : FloatStyle) (x : Binary f) : Clean (x.text style) :=
  clean_ofList.mpr (x.forall_chars (fun _ => isControl_of_isAsciiDigit)
    (isControl_of_all rfl) style)

end Binary

theorem Decimal.clean_text (d : Decimal) : Clean d.text :=
  clean_ofList.mpr (d.forall_chars (fun _ => isControl_of_isAsciiDigit)
    (isControl_of_all rfl))

theorem Complex.clean_text (z : Complex) : Clean z.text := by
  have part : Clean (signedPart z.im) := by
    unfold signedPart
    split_ifs
    · exact z.im.clean_text _
    · exact .append (clean_of_all rfl) (z.im.clean_text _)
  unfold text
  split_ifs
  · exact .append (z.im.clean_text _) (clean_of_all rfl)
  · exact .append (.append (.append (clean_of_all rfl) (z.re.clean_text _)) part)
      (clean_of_all rfl)

variable {text : String}

theorem clean_of_writeInteger {n : Int} (written : writeInteger n = .ok text) : Clean text := by
  rw [writeInteger] at written
  split_ifs at written
  cases written
  exact clean_integerText n

theorem Rational.clean_of_text {q : Rat} (written : Rational.text q = .ok text) : Clean text := by
  rw [Rational.text] at written
  obtain ⟨numerator, above, written⟩ := bind_eq_ok_iff.mp written
  split_ifs at written
  · cases written
    exact clean_of_writeInteger above
  · obtain ⟨denominator, below, written⟩ := bind_eq_ok_iff.mp written
    cases written
    exact .append (.append (clean_of_writeInteger above) (clean_of_all rfl))
      (clean_of_writeInteger below)

theorem Number.clean_of_text {n : Number} (written : n.text = .ok text) : Clean text := by
  cases n with
  | bool b => cases b <;> cases written <;> exact clean_of_all rfl
  | int n => exact clean_of_writeInteger written
  | float x | float64 x | float32 x =>
    cases written
    exact x.clean_text _
  | complex z =>
    cases written
    exact z.clean_text
  | decimal d =>
    cases written
    exact d.clean_text
  | rational q => exact Rational.clean_of_text written
  | int8 n | int64 n =>
    cases written
    exact clean_integerText _

end ZeroGuard
