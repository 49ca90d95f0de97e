import ZeroGuard.Proofs.Number.Worth
import ZeroGuard.Variant

namespace ZeroGuard

/-- What a value means: the values themselves, with numbers by the worth of their parts. -/
inductive Meaning
  | none
  | text (s : String)
  | number (re im : Worth)
  | list (items : List Meaning)
  | some (content : Meaning)
  | nothing
  | ok (content : Meaning)
  | err (content : Meaning)

namespace Value

/-- Values without NaNs, and without numbers of a fixed width. -/
inductive Definite : Value → Prop
  | none : Definite .none
  | text (s : String) : Definite (.text s)
  | number (mark : Nat) {n : Number} : n.isDefinite = true → Definite (.number mark n)
  | list {items : List Value} : (∀ item ∈ items, Definite item) → Definite (.list items)
  | some {value : Value} : Definite value → Definite (.some value)
  | nothing : Definite .nothing
  | ok {value : Value} : Definite value → Definite (.ok value)
  | err {value : Value} : Definite value → Definite (.err value)

/-- What a value means. -/
inductive Means : Value → Meaning → Prop
  | none : Means .none .none
  | text (s : String) : Means (.text s) (.text s)
  | number (mark : Nat) {n : Number} {v w : Worth} : n.HasParts v w →
      Means (.number mark n) (.number v w)
  | list {items : List Value} {meanings : List Meaning} : List.Forall₂ Means items meanings →
      Means (.list items) (.list meanings)
  | some {value : Value} {meaning : Meaning} : Means value meaning →
      Means (.some value) (.some meaning)
  | nothing : Means .nothing .nothing
  | ok {value : Value} {meaning : Meaning} : Means value meaning → Means (.ok value) (.ok meaning)
  | err {value : Value} {meaning : Meaning} : Means value meaning → Means (.err value) (.err meaning)

/-- Induction over a value and everything inside it. -/
@[elab_as_elim]
theorem nested_induction {motive : Value → Prop} (none : motive .none)
    (text : ∀ s, motive (.text s)) (number : ∀ mark n, motive (.number mark n))
    (list : ∀ items, (∀ item ∈ items, motive item) → motive (.list items))
    (some : ∀ value, motive value → motive (.some value)) (nothing : motive .nothing)
    (ok : ∀ value, motive value → motive (.ok value))
    (err : ∀ value, motive value → motive (.err value)) (value : Value) : motive value :=
  @Value.rec motive (fun items => ∀ item ∈ items, motive item) none text number list some nothing ok
    err nofun (fun _ _ first rest => List.forall_mem_cons.mpr ⟨first, rest⟩) value

theorem exists_forall₂_means {items : List Value}
    (each : ∀ item ∈ items, ∃ meaning, item.Means meaning) :
    ∃ meanings, List.Forall₂ Means items meanings := by
  induction items with
  | nil => exact ⟨[], .nil⟩
  | cons item rest ih =>
    obtain ⟨⟨first, means⟩, others⟩ := List.forall_mem_cons.mp each
    obtain ⟨meanings, all⟩ := ih others
    exact ⟨first :: meanings, .cons means all⟩

/-- Every definite value means something. -/
theorem Definite.means {value : Value} (definite : value.Definite) :
    ∃ meaning, value.Means meaning := by
  induction definite with
  | none => exact ⟨_, .none⟩
  | text s => exact ⟨_, .text s⟩
  | number mark number =>
    obtain ⟨v, w, parts⟩ := Number.exists_hasParts number
    exact ⟨_, .number mark parts⟩
  | list _ each =>
    obtain ⟨meanings, all⟩ := exists_forall₂_means each
    exact ⟨_, .list all⟩
  | some _ inner =>
    obtain ⟨meaning, means⟩ := inner
    exact ⟨_, .some means⟩
  | nothing => exact ⟨_, .nothing⟩
  | ok _ inner =>
    obtain ⟨meaning, means⟩ := inner
    exact ⟨_, .ok means⟩
  | err _ inner =>
    obtain ⟨meaning, means⟩ := inner
    exact ⟨_, .err means⟩

end Value

section Decides

variable {run other : Except Fault Bool} {p q : Prop}

theorem decides_true (holds : p) : Decides (.ok true) p :=
  ⟨true, rfl, iff_of_true rfl holds⟩

theorem decides_false (fails : ¬ p) : Decides (.ok false) p :=
  ⟨false, rfl, iff_of_false Bool.false_ne_true fails⟩

theorem Decides.congr (decides : Decides run p) (same : p ↔ q) : Decides run q := by
  obtain ⟨outcome, ended, tells⟩ := decides
  exact ⟨outcome, ended, tells.trans same⟩

theorem Decides.eq_true_iff (decides : Decides run p) : run = .ok true ↔ p := by
  obtain ⟨outcome, rfl, tells⟩ := decides
  rw [Except.ok.injEq, tells]

end Decides

namespace Value

variable {a b : Value} {x y : Meaning} {as bs : List Value} {xs ys : List Meaning}

/-- Lists of one length are compared item by item. -/
theorem equalAll_decides (first : List.Forall₂ Means as xs) (second : List.Forall₂ Means bs ys)
    (length : as.length = bs.length)
    (items : ∀ a ∈ as, ∀ b x y, Means a x → Means b y → Decides (equalAs true a b) (x = y)) :
    Decides (equalAll as bs) (xs = ys) := by
  induction first generalizing bs ys with
  | nil =>
    cases second with
    | nil => exact decides_true rfl
    | cons => cases length
  | cons mean rest ih =>
    cases second with
    | nil => cases length
    | cons also others =>
      obtain ⟨item, items⟩ := List.forall_mem_cons.mp items
      obtain ⟨same, compared, tells⟩ := item _ _ _ mean also
      have rest := ih others (Nat.succ.inj length) items
      rw [equalAll, compared, List.cons.injEq, ← tells]
      cases same with
      | true => exact rest.congr (by simp)
      | false => exact decides_false (by simp)

/-- A number of a plain kind is not compared with the items of a list. -/
theorem equalList_of_plain {n : Number} (plain : n.hasFixedWidth = false) (items : Value) :
    equalList n items = .ok false := by
  rw [equalList, plain]
  rfl

/-- A number that is one and the same object has the same parts, so that the marks do not matter. -/
theorem equalAs_number_decides {n n' : Number} {v w v' w' : Worth} (parts : n.HasParts v w)
    (also : n'.HasParts v' w') (inside : Bool) (mark mark' : Nat) :
    Decides (equalAs inside (number mark n) (number mark' n')) (v = v' ∧ w = w') := by
  rw [equalAs]
  split_ifs with object
  · obtain ⟨-, -, rfl⟩ := object
    exact decides_true (parts.unique also)
  · exact parts.equal_decides also

/-- Values that have a meaning are equal if they mean the same, inside a container or not. -/
theorem Means.equalAs_decides (first : a.Means x) (second : b.Means y) (inside : Bool) :
    Decides (equalAs inside a b) (x = y) := by
  induction a using nested_induction generalizing b x y inside with
  | none =>
    cases first
    cases second with
    | none => exact decides_true rfl
    | _ => exact decides_false nofun
  | text s =>
    cases first
    cases second with
    | text t => exact ⟨_, rfl, by simp⟩
    | _ => exact decides_false nofun
  | number mark n =>
    cases first with
    | number _ parts =>
      cases second with
      | number _ also => exact (equalAs_number_decides parts also inside _ _).congr (by simp)
      | list =>
        rw [equalAs, equalList_of_plain parts.plain.1]
        exact decides_false nofun
      | _ => exact decides_false nofun
  | list items ih =>
    cases first with
    | list means =>
      cases second with
      | list also =>
        rw [equalAs, Meaning.list.injEq]
        split_ifs with length
        · refine equalAll_decides means also length fun a member b x y mean meanB => ?_
          exact ih a member mean meanB true
        · refine decides_false ?_
          rintro rfl
          exact length (means.length_eq.trans also.length_eq.symm)
      | number _ parts =>
        rw [equalAs, equalList_of_plain parts.plain.1]
        exact decides_false nofun
      | _ => exact decides_false nofun
  | some value ih =>
    cases first with
    | some mean =>
      cases second with
      | some also => exact (ih mean also true).congr (by simp)
      | _ => exact decides_false nofun
  | nothing =>
    cases first
    cases second with
    | nothing => exact decides_true rfl
    | _ => exact decides_false nofun
  | ok value ih =>
    cases first with
    | ok mean =>
      cases second with
      | ok also => exact (ih mean also true).congr (by simp)
      | _ => exact decides_false nofun
  | err value ih =>
    cases first with
    | err mean =>
      cases second with
      | err also => exact (ih mean also true).congr (by simp)
      | _ => exact decides_false nofun

/-- Two variants of one class with equal contents. -/
inductive SameVariant : Value → Value → Prop
  | some {a b : Value} : a.equal b = .ok true → SameVariant (.some a) (.some b)
  | nothing : SameVariant .nothing .nothing
  | ok {a b : Value} : a.equal b = .ok true → SameVariant (.ok a) (.ok b)
  | err {a b : Value} : a.equal b = .ok true → SameVariant (.err a) (.err b)

theorem Means.equal_iff (first : a.Means x) (second : b.Means y) : a.equal b = .ok true ↔ x = y :=
  (first.equalAs_decides second false).eq_true_iff

theorem equal_iff_sameVariant (first : a.Definite) (second : b.Definite)
    (variant : a.isVariant = true) : a.equal b = .ok true ↔ SameVariant a b := by
  obtain ⟨x, first⟩ := first.means
  obtain ⟨y, second⟩ := second.means
  rw [first.equal_iff second]
  cases first with
  | some mean =>
    cases second with
    | some also =>
      rw [Meaning.some.injEq, ← mean.equal_iff also]
      exact ⟨.some, fun | .some same => same⟩
    | _ => exact iff_of_false nofun nofun
  | nothing =>
    cases second with
    | nothing => exact iff_of_true rfl .nothing
    | _ => exact iff_of_false nofun nofun
  | ok mean =>
    cases second with
    | ok also =>
      rw [Meaning.ok.injEq, ← mean.equal_iff also]
      exact ⟨.ok, fun | .ok same => same⟩
    | _ => exact iff_of_false nofun nofun
  | err mean =>
    cases second with
    | err also =>
      rw [Meaning.err.injEq, ← mean.equal_iff also]
      exact ⟨.err, fun | .err same => same⟩
    | _ => exact iff_of_false nofun nofun
  | _ => cases variant

/-- Equality of definite values always comes to an end and is an equivalence. A variant is equal to
variants of its class with equal contents only, and real numbers of any two kinds are equal exactly if
they are worth the same. -/
theorem equality_is_equivalence :
    (∀ a b : Value, a.Definite → b.Definite → ∃ same, a.equal b = .ok same) ∧
    Equivalence (fun a b : { value : Value // value.Definite } => a.1.equal b.1 = .ok true) ∧
    (∀ a b : Value, a.Definite → b.Definite → a.isVariant = true →
      (a.equal b = .ok true ↔ SameVariant a b)) ∧
    ∀ mark mark' (a b : Number) v w, a.IsWorth v → b.IsWorth w →
      ((number mark a).equal (number mark' b) = .ok true ↔ v = w) := by
  refine ⟨?_, ⟨?_, ?_, ?_⟩, fun a b => equal_iff_sameVariant, ?_⟩
  · intro a b definite also
    obtain ⟨x, first⟩ := definite.means
    obtain ⟨y, second⟩ := also.means
    obtain ⟨same, compared, -⟩ := first.equalAs_decides second false
    exact ⟨same, compared⟩
  · rintro ⟨a, definite⟩
    obtain ⟨x, first⟩ := definite.means
    exact (first.equal_iff first).mpr rfl
  · rintro ⟨a, definite⟩ ⟨b, also⟩ equal
    obtain ⟨x, first⟩ := definite.means
    obtain ⟨y, second⟩ := also.means
    exact (second.equal_iff first).mpr ((first.equal_iff second).mp equal).symm
  · rintro ⟨a, definite⟩ ⟨b, also⟩ ⟨c, too⟩ equal equalToo
    obtain ⟨x, first⟩ := definite.means
    obtain ⟨y, second⟩ := also.means
    obtain ⟨z, third⟩ := too.means
    have same := ((first.equal_iff second).mp equal).trans ((second.equal_iff third).mp equalToo)
    exact (first.equal_iff third).mpr same
  · intro mark mark' a b v w worth also
    have compared := equalAs_number_decides (.real worth) (.real also) false mark mark'
    exact compared.eq_true_iff.trans (and_iff_left rfl)

/-- A half is the same as a float, a decimal and a rational, also as options; a tenth as a float is
another number than a tenth as a decimal. -/
theorem halves_equal_tenths_not :
    let half := some (number 0 (.float (.ofRatio false 1 2)))
    let decimal := some (number 1 (.decimal (.finite false 50 (-2))))
    let rational := some (number 2 (.rational (1 / 2)))
    let tenth : Double := .ofRatio false 1 10
    let tenths := some (number 4 (.decimal (.finite false 1 (-1))))
    half.equal decimal = .ok true ∧ half.equal rational = .ok true ∧
      (some (number 3 (.float tenth))).equal tenths = .ok false ∧ tenth.value ≠ 1 / 10 := by
  intro half decimal rational tenth tenths
  obtain ⟨-, equivalence, -, worths⟩ := equality_is_equivalence
  have first : half.equal decimal = .ok true := by decide +kernel
  have second : decimal.equal rational = .ok true := by decide +kernel
  have definite : half.Definite ∧ decimal.Definite ∧ rational.Definite :=
    ⟨.some (.number 0 (by decide +kernel)), .some (.number 1 rfl), .some (.number 2 rfl)⟩
  obtain ⟨definiteHalf, definiteDecimal, definiteRational⟩ := definite
  have third := @equivalence.trans ⟨half, definiteHalf⟩ ⟨decimal, definiteDecimal⟩
    ⟨rational, definiteRational⟩ first second
  refine ⟨first, third, by decide +kernel, fun exact => ?_⟩
  have different : (number 3 (.float tenth)).equal (number 4 (.decimal (.finite false 1 (-1)))) =
      .ok false := by decide +kernel
  have same := (worths 3 4 (.float tenth) (.decimal (.finite false 1 (-1))) _ _
    (.float (Binary.isWorth_of_isFinite (by decide +kernel))) (.decimal (.finite ..))).mpr (by
      rw [exact]
      norm_num [Decimal.value])
  rw [different] at same
  cases same

end Value

end ZeroGuard
