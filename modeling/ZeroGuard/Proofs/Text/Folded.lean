import Mathlib.Data.List.Forall2
import Mathlib.Data.List.TakeWhile
import ZeroGuard.Integer
import ZeroGuard.Proofs.Text.Numeral
import ZeroGuard.Rational

namespace ZeroGuard

/-- A character of the ASCII form that stands neither for a blank nor for something unknown. -/
def IsSolid (c : Char) : Prop :=
  isBlank c = false ∧ c ≠ '?'

instance : DecidablePred IsSolid := fun c =>
  inferInstanceAs (Decidable (isBlank c = false ∧ c ≠ '?'))

/-- What folding keeps of a character: whether it is blank, and otherwise its ASCII digit. -/
def Folds (c d : Char) : Prop :=
  isBlank c = isAsciiBlank d ∧ (isBlank c = false → asciiDigit c = d)

variable {text : List Char} {c d : Char}

theorem isAsciiBlank_eq_false (solid : isBlank c = false) : isAsciiBlank c = false := by
  simp only [isBlank, blankRanges, List.any_cons, Bool.or_eq_false_iff, Bool.and_eq_false_iff,
    decide_eq_false_iff_not] at solid
  simp only [isAsciiBlank, Bool.or_eq_false_iff, Bool.and_eq_false_iff, beq_eq_false_iff_ne,
    decide_eq_false_iff_not]
  omega

theorem asciiNumeral_eq_self (plain : ∀ c ∈ text, IsPlain c) : asciiNumeral text = text :=
  if_pos (List.all_eq_true.mpr fun c member => decide_eq_true (plain c member).2.2.2)

theorem isSolid_of_isAsciiDigit (digit : isAsciiDigit c = true) : IsSolid c := by
  refine ⟨(isPlain_of_isAsciiDigit digit).1, ?_⟩
  rintro rfl
  cases digit

theorem isSolid_of_all (solid : text.all (fun c => IsSolid c) = true) : ∀ c ∈ text, IsSolid c :=
  fun c member => of_decide_eq_true (List.all_eq_true.mp solid c member)

/-- Nothing else stands in a numeral. -/
theorem isSolid_of_scan? {numeral : Numeral} (scanned : Numeral.scan? text = some numeral) :
    ∀ c ∈ text, IsSolid c := by
  intro c member
  by_cases underscore : c = '_'
  · rw [underscore]
    decide
  · have spelled := Numeral.spelledBy_of_scan? scanned
    exact spelled.forall (fun _ => isSolid_of_isAsciiDigit) (isSolid_of_all (by decide)) c
      (List.mem_filter.mpr ⟨member, decide_eq_true underscore⟩)

theorem asciiDigit_of_lt (ascii : c.toNat < 0x80) : asciiDigit c = c := by
  have all : ∀ code : Fin 0x80, asciiDigit (Char.ofNat code) = Char.ofNat code := by decide
  simpa [Char.ofNat_toNat] using all ⟨c.toNat, ascii⟩

theorem folds_of_lt (ascii : c.toNat < 0x80) (readable : isAsciiBlank c = true ∨ IsSolid c) :
    Folds c c := by
  refine ⟨?_, fun _ => asciiDigit_of_lt ascii⟩
  rcases readable with blank | ⟨solid, -⟩
  · rw [blank]
    by_contra solid
    rw [isAsciiBlank_eq_false (Bool.eq_false_iff.mpr solid)] at blank
    cases blank
  · rw [solid, isAsciiBlank_eq_false solid]

theorem folds_foldNumeral (readable : ∀ d ∈ foldNumeral text, isAsciiBlank d = true ∨ IsSolid d) :
    List.Forall₂ Folds text (foldNumeral text) := by
  induction text with
  | nil => exact .nil
  | cons c rest ih =>
    have digits : ∀ value < 10, isAsciiBlank (Nat.digitChar value) = false := by decide
    rw [foldNumeral] at readable ⊢
    split_ifs at readable ⊢ with ascii blank
    · obtain ⟨first, others⟩ := List.forall_mem_cons.mp readable
      exact .cons (folds_of_lt (by omega) first) (ih others)
    · obtain ⟨-, others⟩ := List.forall_mem_cons.mp readable
      exact .cons ⟨blank.trans rfl, fun solid => absurd blank (by simp [solid])⟩ (ih others)
    · have solid := Bool.eq_false_iff.mpr blank
      cases found : digitValue? c with
      | some value =>
        rw [found] at readable
        obtain ⟨-, others⟩ := List.forall_mem_cons.mp readable
        refine .cons ⟨?_, fun _ => ?_⟩ (ih others)
        · rw [solid, digits value (digitValue?_lt found)]
        · rw [asciiDigit, found]
      | none =>
        rw [found] at readable
        rcases readable '?' List.mem_cons_self with space | ⟨-, known⟩
        · cases space
        · exact absurd rfl known

theorem folds_asciiNumeral (readable : ∀ d ∈ asciiNumeral text, isAsciiBlank d = true ∨ IsSolid d) :
    List.Forall₂ Folds text (asciiNumeral text) := by
  rw [asciiNumeral] at readable ⊢
  split_ifs at readable ⊢ with ascii
  · refine List.forall₂_same.mpr fun c member => folds_of_lt ?_ (readable c member)
    exact of_decide_eq_true (List.all_eq_true.mp ascii c member)
  · exact folds_foldNumeral readable

section Trim

variable {R : Char → Char → Prop} {outer other : Char → Bool} {s t : List Char}

theorem forall₂_dropWhile (agree : ∀ c d, R c d → outer c = other d) (related : List.Forall₂ R s t) :
    List.Forall₂ R (s.dropWhile outer) (t.dropWhile other) := by
  induction related with
  | nil => exact .nil
  | @cons c d s t first rest ih =>
    rw [List.dropWhile_cons, List.dropWhile_cons, agree c d first]
    split
    · exact ih
    · exact .cons first rest

theorem forall₂_trimBoth (agree : ∀ c d, R c d → outer c = other d) (related : List.Forall₂ R s t) :
    List.Forall₂ R (trimBoth outer s) (trimBoth other t) :=
  List.forall₂_reverse_iff.mpr
    (forall₂_dropWhile agree (List.forall₂_reverse_iff.mpr (forall₂_dropWhile agree related)))

theorem mem_dropWhile_or (member : c ∈ s) : outer c = true ∨ c ∈ s.dropWhile outer := by
  rw [← List.takeWhile_append_dropWhile (p := outer) (l := s), List.mem_append] at member
  exact member.imp_left List.mem_takeWhile_imp

theorem mem_trimBoth_or (member : c ∈ s) : outer c = true ∨ c ∈ trimBoth outer s := by
  rcases mem_dropWhile_or member with front | rest
  · exact .inl front
  · rw [trimBoth, List.mem_reverse]
    exact mem_dropWhile_or (List.mem_reverse.mpr rest)

/-- What is between the blanks in front and those behind is left. -/
theorem trimBoth_eq_of_split {core blanks : List Char} (split : s.dropWhile outer = core ++ blanks)
    (inner : ∀ c ∈ core, outer c = false) (blank : ∀ c ∈ blanks, outer c = true) :
    trimBoth outer s = core := by
  have behind : ∀ c ∈ blanks.reverse, outer c = true := by simpa using blank
  have within : ∀ c ∈ core.reverse, outer c = false := by simpa using inner
  rw [trimBoth, split, List.reverse_append, List.dropWhile_append_of_pos behind,
    dropWhile_eq_self within, List.reverse_reverse]

end Trim

/-- Where the ASCII form has only solid characters between the blanks at its ends, it is what a reader of
rationals starts from. -/
theorem plainForm_of_solid (solid : ∀ c ∈ trimBoth isAsciiBlank (asciiNumeral text), IsSolid c) :
    Rational.plainForm text = trimBoth isAsciiBlank (asciiNumeral text) := by
  have readable : ∀ d ∈ asciiNumeral text, isAsciiBlank d = true ∨ IsSolid d :=
    fun d member => (mem_trimBoth_or member).imp_right (solid d)
  have related := forall₂_trimBoth (fun _ _ folds => folds.1) (folds_asciiNumeral readable)
  have reversed : List.Forall₂ (fun d c => IsSolid d ∧ Folds c d)
      (trimBoth isAsciiBlank (asciiNumeral text)) (trimBoth isBlank text) :=
    (List.forall₂_and_left _ _).mpr ⟨solid, List.Forall₂.flip related⟩
  have digits : List.Forall₂ (fun c d => asciiDigit c = d) (trimBoth isBlank text)
      (trimBoth isAsciiBlank (asciiNumeral text)) := by
    refine List.Forall₂.flip (reversed.imp fun d c pair => ?_)
    obtain ⟨⟨nonblank, -⟩, same, digit⟩ := pair
    exact digit (same.trans (isAsciiBlank_eq_false nonblank))
  rw [Rational.plainForm, ← List.forall₂_eq_eq_eq]
  exact List.forall₂_map_left_iff.mpr digits

end ZeroGuard
