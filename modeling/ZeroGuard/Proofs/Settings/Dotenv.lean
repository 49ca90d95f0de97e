import Mathlib.Tactic.SplitIfs
import ZeroGuard.Settings.Dotenv

namespace ZeroGuard.Dotenv

/-- The lines of a file that set a variable, with the references in them. -/
def assignments (text : String) : List (String × Option String) :=
  let input := unifyLines (withoutMark text.toList)
  readLines (input.length + 1) input

/-- The variables after a line. -/
def assign (environment : List (String × String)) (bound : Bindings)
    (line : String × Option String) : Bindings :=
  put line.1 (line.2.map fun raw =>
    String.ofList (substitute (resolve environment bound) raw.length raw.toList)) bound

theorem parse_eq (environment : List (String × String)) (text : String) :
    parse environment text = (assignments text).foldl (assign environment) [] := rfl

/-- The reference that a text begins with. -/
def referenceAt? : List Char → Option Reference
  | '$' :: '\x7b' :: inner => readReference? inner
  | _ => none

/-- The names that a text refers to, from left to right. -/
inductive Refers : List Char → String → Prop
  | here {input : List Char} {found : Reference} : referenceAt? input = some found →
      Refers input found.name
  | behind {input : List Char} {found : Reference} {name : String} :
      referenceAt? input = some found → Refers found.rest name → Refers input name
  | later {c : Char} {rest : List Char} {name : String} : referenceAt? (c :: rest) = none →
      Refers rest name → Refers (c :: rest) name

@[simp] theorem not_refers_nil (name : String) : ¬ Refers [] name := by
  intro refers
  cases refers with
  | here reference => cases reference
  | behind reference _ => cases reference

theorem refers_cons_iff {c : Char} {rest : List Char} {name : String} :
    Refers (c :: rest) name ↔
      match referenceAt? (c :: rest) with
      | some found => name = found.name ∨ Refers found.rest name
      | none => Refers rest name := by
  cases reference : referenceAt? (c :: rest) with
  | some found =>
    constructor
    · intro refers
      cases refers with
      | here same => exact .inl (by rw [Option.some.inj (reference.symm.trans same)])
      | behind same refers => exact .inr (Option.some.inj (reference.symm.trans same) ▸ refers)
      | later none _ => cases none.symm.trans reference
    · rintro (rfl | refers)
      · exact .here reference
      · exact .behind reference refers
  | none =>
    constructor
    · intro refers
      cases refers with
      | here same => cases reference.symm.trans same
      | behind same _ => cases reference.symm.trans same
      | later _ refers => exact refers
    · exact .later reference

theorem substitute_cons (lookup : String → Option String) (bound : Nat) (c : Char)
    (rest : List Char) :
    substitute lookup (bound + 1) (c :: rest) =
      match referenceAt? (c :: rest) with
      | some found =>
        ((lookup found.name).getD found.fallback).toList ++ substitute lookup bound found.rest
      | none => c :: substitute lookup bound rest := by
  by_cases begins : ∃ inner, c = '$' ∧ rest = '\x7b' :: inner
  · obtain ⟨inner, rfl, rfl⟩ := begins
    rfl
  · have none : referenceAt? (c :: rest) = none := by
      unfold referenceAt?
      split
      next inner same =>
        obtain ⟨rfl, rfl⟩ := List.cons.inj same
        exact absurd ⟨inner, rfl, rfl⟩ begins
      next => rfl
    rw [none, substitute]
    rintro inner rfl rfl
    exact begins ⟨inner, rfl, rfl⟩

/-- Only the names that a text refers to are looked up. -/
theorem substitute_congr {lookup other : String → Option String} (bound : Nat) {input : List Char}
    (agree : ∀ name, Refers input name → lookup name = other name) :
    substitute lookup bound input = substitute other bound input := by
  induction bound generalizing input with
  | zero => rfl
  | succ bound ih =>
    cases input with
    | nil => rfl
    | cons c rest =>
      rw [substitute_cons, substitute_cons]
      cases reference : referenceAt? (c :: rest) with
      | some found =>
        have behind := ih fun name refers => agree name (.behind reference refers)
        simp only [agree _ (.here reference), behind]
      | none =>
        have later := ih fun name refers => agree name (.later reference refers)
        simp only [later]

/-- A name that a line refers to. -/
def LineRefers (line : String × Option String) (name : String) : Prop :=
  ∃ raw, line.2 = some raw ∧ Refers raw.toList name

section Kept

variable {α : Type} (kept : String → Bool)

/-- The entries whose names are kept. -/
def keep (entries : List (String × α)) : List (String × α) :=
  entries.filter fun entry => kept entry.1

variable {kept} {name : String}

@[simp] theorem keep_nil : keep kept ([] : List (String × α)) = [] := rfl

@[simp] theorem keep_cons (entry : String × α) (rest : List (String × α)) :
    keep kept (entry :: rest) = if kept entry.1 then entry :: keep kept rest else keep kept rest :=
  List.filter_cons

theorem lookup_keep (keeps : kept name = true) (entries : List (String × α)) :
    (keep kept entries).lookup name = entries.lookup name := by
  induction entries with
  | nil => rfl
  | cons entry rest ih =>
    obtain ⟨key, value⟩ := entry
    by_cases same : name = key
    · subst same
      simp [keeps]
    · have other : (name == key) = false := beq_false_of_ne same
      rw [keep_cons]
      split_ifs <;> simpa [List.lookup_cons, other] using ih

/-- A variable that is set is kept or left out by its name. -/
theorem keep_put (name : String) (value : Option String) (bound : Bindings) :
    keep kept (put name value bound) =
      if kept name then put name value (keep kept bound) else keep kept bound := by
  induction bound with
  | nil => simp [put]
  | cons entry rest ih =>
    obtain ⟨key, old⟩ := entry
    by_cases same : key = name
    · subst same
      cases keeps : kept key <;> simp [put, keeps]
    · rw [put, if_neg same, keep_cons, keep_cons, ih]
      cases kept key <;> cases kept name <;> simp [put, same]

theorem resolve_keep (keeps : kept name = true) (environment : List (String × String))
    (bound : Bindings) :
    resolve (keep kept environment) (keep kept bound) name = resolve environment bound name := by
  rw [resolve, resolve, lookup_keep keeps, lookup_keep keeps]

variable {line : String × Option String} {lines : List (String × Option String)}

theorem keep_assign (refers : ∀ name, LineRefers line name → kept name = true)
    (environment : List (String × String)) (bound : Bindings) :
    keep kept (assign environment bound line) =
      if kept line.1 then assign (keep kept environment) (keep kept bound) line
      else keep kept bound := by
  obtain ⟨name, value⟩ := line
  rw [assign, keep_put, assign]
  cases value with
  | none => rfl
  | some raw =>
    have same := substitute_congr raw.length fun name refersTo =>
      resolve_keep (refers name ⟨raw, rfl, refersTo⟩) environment bound
    simp only [Option.map_some, same]

/-- All lines: leaving names out before reading or after comes to the same. -/
theorem keep_assign_all (refers : ∀ line ∈ lines, ∀ name, LineRefers line name → kept name = true)
    (environment : List (String × String)) (bound : Bindings) :
    keep kept (lines.foldl (assign environment) bound) =
      (keep kept lines).foldl (assign (keep kept environment)) (keep kept bound) := by
  induction lines generalizing bound with
  | nil => rfl
  | cons line rest ih =>
    obtain ⟨first, others⟩ := List.forall_mem_cons.mp refers
    rw [List.foldl_cons, ih others, keep_assign first]
    rw [keep_cons]
    split_ifs <;> rfl

end Kept

end ZeroGuard.Dotenv
