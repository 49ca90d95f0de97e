import ZeroGuard.Candidate
import ZeroGuard.Proofs.Value.Double

namespace ZeroGuard

/-- Where every item is found by its own label, an item is found by that label only. -/
theorem find?_label_iff {α : Type} {items : List α} {label : α → String}
    (known : ∀ item, items.find? (fun other => label other = label item) = some item)
    {name : String} {item : α} :
    items.find? (fun other => label other = name) = some item ↔ name = label item := by
  constructor
  · intro found
    have same := List.find?_some found
    exact (of_decide_eq_true same).symm
  · rintro rfl
    exact known item

theorem NumericType.ofName?_eq_some_iff {name : String} {type : NumericType} :
    ofName? name = some type ↔ name = type.name :=
  find?_label_iff fun type => by cases type <;> rfl

theorem Operator.ofName?_eq_some_iff {name : String} {operator : Operator} :
    ofName? name = some operator ↔ name = operator.name :=
  find?_label_iff fun operator => by cases operator <;> rfl

/-- An operand as the content of a field. -/
def Operand.content : Operand → Content
  | int n => .int n
  | float x => .float x
  | text s => .text s

theorem Operand.content_injective : Function.Injective Operand.content := by
  intro first second same
  cases first <;> cases second <;> cases same <;> rfl

namespace Candidate

section Names

variable {α β : Type}

/-- What a field says about the numeric type, among values with a null and texts. -/
inductive NamesType (null : α) (text : String → α) : Option α → Option NumericType → Prop
  | absent : NamesType null text none none
  | null : NamesType null text (some null) none
  | name (type : NumericType) : NamesType null text (some (text type.name)) (some type)

/-- What a field says about the operator, among values with texts. -/
inductive NamesOperator (text : String → α) : Option α → Operator → Prop
  | absent : NamesOperator text none .quotient
  | name (operator : Operator) : NamesOperator text (some (text operator.name)) operator

variable {content : α → β} {null : α} {text : String → α} {null' : β} {text' : String → β}
  {found : Option α}

theorem namesType_map_iff (nulls : ∀ value, content value = null' ↔ value = null)
    (texts : ∀ value s, content value = text' s ↔ value = text s) {type : Option NumericType} :
    NamesType null' text' (found.map content) type ↔ NamesType null text found type := by
  constructor
  · intro names
    cases found with
    | none =>
      cases names
      exact .absent
    | some value =>
      generalize same : content value = held at names
      rw [Option.map_some, same] at names
      cases names with
      | null => exact (nulls value).mp same ▸ .null
      | name type => exact (texts value _).mp same ▸ .name type
  · intro names
    cases names with
    | absent => exact .absent
    | null => exact (nulls null).mpr rfl ▸ .null
    | name type =>
      rw [Option.map_some, (texts _ type.name).mpr rfl]
      exact .name type

theorem namesOperator_map_iff (texts : ∀ value s, content value = text' s ↔ value = text s)
    {operator : Operator} :
    NamesOperator text' (found.map content) operator ↔ NamesOperator text found operator := by
  constructor
  · intro names
    cases found with
    | none =>
      cases names
      exact .absent
    | some value =>
      generalize same : content value = held at names
      rw [Option.map_some, same] at names
      cases names with
      | name operator => exact (texts value _).mp same ▸ .name operator
  · intro names
    cases names with
    | absent => exact .absent
    | name operator =>
      rw [Option.map_some, (texts _ operator.name).mpr rfl]
      exact .name operator

end Names

variable {candidate : Candidate} {request : Request} {name : String} {found : Option Content}

theorem operand_eq_ok_iff {raw : Operand} :
    operand name found = .ok raw ↔ found = some raw.content := by
  constructor
  · intro taken
    unfold operand at taken
    split at taken <;> cases taken <;> rfl
  · rintro rfl
    cases raw <;> rfl

theorem type_eq_ok_iff {type : Option NumericType} :
    Candidate.type found = .ok type ↔ NamesType .null .text found type := by
  constructor
  · intro taken
    unfold Candidate.type at taken
    split at taken
    · cases taken
      exact .absent
    · cases taken
      exact .null
    · split at taken
      · rename_i known
        cases taken
        rw [NumericType.ofName?_eq_some_iff.mp known]
        exact .name _
      · cases taken
    · cases taken
  · intro names
    cases names with
    | absent => rfl
    | null => rfl
    | name type =>
      have known := NumericType.ofName?_eq_some_iff.mpr (Eq.refl type.name)
      simp only [Candidate.type, known]

theorem operatorName_eq_ok_iff {operator : Operator} :
    operatorName found = .ok operator ↔ NamesOperator .text found operator := by
  constructor
  · intro taken
    unfold operatorName at taken
    split at taken
    · cases taken
      exact .absent
    · split at taken
      · rename_i known
        cases taken
        rw [Operator.ofName?_eq_some_iff.mp known]
        exact .name _
      · cases taken
    · cases taken
  · intro names
    cases names with
    | absent => rfl
    | name operator =>
      have known := Operator.ofName?_eq_some_iff.mpr (Eq.refl operator.name)
      simp only [operatorName, known]

theorem validate_eq_ok_iff :
    candidate.validate = .ok request ↔
      candidate.a = some request.a.content ∧ candidate.b = some request.b.content ∧
      NamesType .null .text candidate.numericType request.numericType ∧
      NamesOperator .text candidate.operator request.operator := by
  constructor
  · intro valid
    simp only [validate] at valid
    split at valid
    · rename_i a b type operator
      cases valid
      exact ⟨operand_eq_ok_iff.mp a, operand_eq_ok_iff.mp b, type_eq_ok_iff.mp type,
        operatorName_eq_ok_iff.mp operator⟩
    · cases valid
  · rintro ⟨first, second, names, performs⟩
    have a : operand "a" candidate.a = .ok request.a := operand_eq_ok_iff.mpr first
    have b : operand "b" candidate.b = .ok request.b := operand_eq_ok_iff.mpr second
    have type := type_eq_ok_iff.mpr names
    have operator := operatorName_eq_ok_iff.mpr performs
    simp only [validate, a, b, type, operator]

end Candidate

namespace Value

/-- The operand that a value is taken as: itself, or the double that a number of another kind counts
as. -/
inductive TakenAs : Value → Operand → Prop
  | int (mark n) : TakenAs (.number mark (.int n)) (.int n)
  | float (mark x) : TakenAs (.number mark (.float x)) (.float x)
  | text (s) : TakenAs (.text s) (.text s)
  | rounded {value x} : HasDouble value x → TakenAs value (.float x)

variable {value : Value} {raw : Operand} {x : Double} {s : String}

theorem content_of_hasDouble (has : value.HasDouble x) : value.content = .float x := by
  have run := toDouble_eq_ok_iff.mpr has
  unfold content
  split
  · cases has
  · cases has
  · cases has
  · cases has
  · rw [run]
    rfl

theorem TakenAs.content (taken : value.TakenAs raw) : value.content = raw.content := by
  cases taken with
  | int | float | text => rfl
  | rounded has => exact content_of_hasDouble has

theorem content_cases (value : Value) :
    value = .none ∨ (∃ raw, value.TakenAs raw) ∨ value.content = .other := by
  unfold content
  split
  · exact .inl rfl
  · exact .inr (.inl ⟨_, .int _ _⟩)
  · exact .inr (.inl ⟨_, .float _ _⟩)
  · exact .inr (.inl ⟨_, .text _⟩)
  · cases run : value.toDouble with
    | ok x => exact .inr (.inl ⟨_, .rounded (toDouble_eq_ok_iff.mp run)⟩)
    | error fault => exact .inr (.inr rfl)

theorem content_operand_iff : value.content = raw.content ↔ value.TakenAs raw := by
  constructor
  · intro same
    rcases content_cases value with rfl | ⟨other, taken⟩ | refused
    · cases raw <;> cases same
    · rw [taken.content] at same
      exact Operand.content_injective same ▸ taken
    · rw [refused] at same
      cases raw <;> cases same
  · exact TakenAs.content

theorem content_null_iff : value.content = .null ↔ value = .none := by
  constructor
  · intro null
    rcases content_cases value with none | ⟨raw, taken⟩ | refused
    · exact none
    · rw [taken.content] at null
      cases raw <;> cases null
    · rw [refused] at null
      cases null
  · rintro rfl
    rfl

theorem content_text_iff : value.content = .text s ↔ value = .text s := by
  have texts : Operand.content (.text s) = .text s := rfl
  rw [← texts, content_operand_iff]
  constructor
  · intro taken
    cases taken
    rfl
  · rintro rfl
    exact .text s

end Value

theorem Json.content_null_iff {document : Json} : document.content = .null ↔ document = .null := by
  cases document <;> simp [content]

theorem Json.content_text_iff {document : Json} {s : String} :
    document.content = .text s ↔ document = .text s := by
  cases document <;> simp [content]

/-- An operand as a document. -/
def Operand.json : Operand → Json
  | int n => .int n
  | float x => .float x
  | text s => .text s

theorem Json.content_operand_iff {document : Json} {raw : Operand} :
    document.content = raw.content ↔ document = raw.json := by
  cases document <;> cases raw <;> simp [content, Operand.content, Operand.json]

namespace Candidate

variable {request : Request}

theorem validate_ofValues_iff {fields : String → Option Value} :
    (ofValues fields).validate = .ok request ↔
      (∃ value, fields "a" = some value ∧ value.TakenAs request.a) ∧
      (∃ value, fields "b" = some value ∧ value.TakenAs request.b) ∧
      NamesType .none .text (fields "numeric_type") request.numericType ∧
      NamesOperator .text (fields "operator") request.operator := by
  rw [validate_eq_ok_iff, ofValues,
    namesType_map_iff (fun _ => Value.content_null_iff) fun _ _ => Value.content_text_iff,
    namesOperator_map_iff fun _ _ => Value.content_text_iff]
  simp only [Option.map_eq_some_iff, Value.content_operand_iff]

theorem validate_ofJson_iff {body : Json} :
    (ofJson body).validate = .ok request ↔
      body.field? "a" = some request.a.json ∧ body.field? "b" = some request.b.json ∧
      NamesType .null .text (body.field? "numeric_type") request.numericType ∧
      NamesOperator .text (body.field? "operator") request.operator := by
  rw [validate_eq_ok_iff, ofJson,
    namesType_map_iff (fun _ => Json.content_null_iff) fun _ _ => Json.content_text_iff,
    namesOperator_map_iff fun _ _ => Json.content_text_iff]
  simp only [Option.map_eq_some_iff, Json.content_operand_iff, exists_eq_right]

end Candidate

end ZeroGuard
