import Mathlib.Data.List.TakeWhile
import ZeroGuard.Json.Reader
import ZeroGuard.Proofs.Integer

namespace ZeroGuard.Json

/-- The documents all of whose integers can be written. -/
inductive Short : Json → Prop
  | null : Short null
  | bool (b : Bool) : Short (bool b)
  | int {n : Int} : n.natAbs < 10 ^ 4300 → Short (int n)
  | float (x : Double) : Short (float x)
  | text (s : String) : Short (text s)
  | array {items : List Json} : (∀ item ∈ items, Short item) → Short (array items)
  | object {fields : List (String × Json)} : (∀ field ∈ fields, Short field.2) →
      Short (object fields)

/-- Readers that return only such documents. -/
def ReadsShort (read : List Char → Except ReadError (Json × List Char)) : Prop :=
  ∀ {input rest document}, read input = .ok (document, rest) → document.Short

variable {read : List Char → Except ReadError (Json × List Char)} {input rest : List Char}
  {document : Json}

theorem scanWhole?_digits {whole : List Char} (scanned : scanWhole? input = some (whole, rest)) :
    ∀ c ∈ whole, isAsciiDigit c = true := by
  cases input with
  | nil => cases scanned
  | cons c more =>
    simp only [scanWhole?] at scanned
    split_ifs at scanned with zero digit
    · cases scanned
      simp [isAsciiDigit]
    · cases scanned
      exact List.forall_mem_cons.mpr ⟨digit, fun d member => List.mem_takeWhile_imp member⟩

theorem scanNumber?_digits {scanned : ScannedNumber} (found : scanNumber? input = some scanned) :
    ∀ c ∈ scanned.whole, isAsciiDigit c = true := by
  simp only [scanNumber?, Option.bind_eq_bind, Option.bind_eq_some_iff, Option.some.injEq] at found
  obtain ⟨⟨whole, rest⟩, first, rfl⟩ := found
  exact scanWhole?_digits first

theorem value_short {scanned : ScannedNumber} (all : ∀ c ∈ scanned.whole, isAsciiDigit c = true)
    (valued : scanned.value = .ok document) : document.Short := by
  rw [ScannedNumber.value] at valued
  split at valued
  · split at valued
    · rename_i magnitude read
      cases valued
      refine .int ?_
      rw [natAbs_signed]
      exact readDigits_lt all read
    · cases valued
  · cases valued
    exact .float _

theorem words_short : ∀ entry ∈ words, entry.2.Short := by
  simp only [words, List.forall_mem_cons, List.not_mem_nil, false_implies, implies_true, and_true]
  exact ⟨.null, .bool true, .bool false, .float _, .float _, .float _⟩

theorem readScalar_short : ReadsShort readScalar := by
  intro input rest document run
  unfold readScalar at run
  split at run
  · obtain ⟨_, -, same⟩ := map_eq_ok_iff.mp run
    cases same
    exact .text _
  · split at run
    · rename_i word value found
      cases run
      exact words_short _ (List.mem_of_find?_eq_some found)
    · split at run
      · rename_i scanned found
        obtain ⟨value, valued, same⟩ := map_eq_ok_iff.mp run
        cases same
        exact value_short (scanNumber?_digits found) valued
      · cases run

theorem readItems_short (reads : ReadsShort read) {bound : Nat} {items : List Json}
    (run : readItems read bound input = .ok (items, rest)) : ∀ item ∈ items, item.Short := by
  induction bound generalizing input items rest with
  | zero => cases run
  | succ bound ih =>
    obtain ⟨⟨item, behind⟩, first, run⟩ := bind_eq_ok_iff.mp run
    have short := reads first
    dsimp only at run
    split at run
    · cases run
      exact List.forall_mem_singleton.mpr short
    · obtain ⟨⟨later, _⟩, more, run⟩ := bind_eq_ok_iff.mp run
      cases run
      exact List.forall_mem_cons.mpr ⟨short, ih more⟩
    · cases run

theorem readField_short (reads : ReadsShort read) {field : String × Json}
    (run : readField read input = .ok (field, rest)) : field.2.Short := by
  unfold readField at run
  split at run
  · obtain ⟨⟨name, behind⟩, -, run⟩ := bind_eq_ok_iff.mp run
    dsimp only at run
    split at run
    · obtain ⟨⟨value, _⟩, valued, run⟩ := bind_eq_ok_iff.mp run
      cases run
      exact reads valued
    · cases run
  · cases run

theorem readFields_short (reads : ReadsShort read) {bound : Nat} {fields : List (String × Json)}
    (run : readFields read bound input = .ok (fields, rest)) :
    ∀ field ∈ fields, field.2.Short := by
  induction bound generalizing input fields rest with
  | zero => cases run
  | succ bound ih =>
    obtain ⟨⟨field, behind⟩, first, run⟩ := bind_eq_ok_iff.mp run
    have short := readField_short reads first
    dsimp only at run
    split at run
    · cases run
      exact List.forall_mem_singleton.mpr short
    · obtain ⟨⟨later, _⟩, more, run⟩ := bind_eq_ok_iff.mp run
      cases run
      exact List.forall_mem_cons.mpr ⟨short, ih more⟩
    · cases run

theorem putField_short {name : String} {value : Json} (short : value.Short)
    {fields : List (String × Json)} (all : ∀ field ∈ fields, field.2.Short) :
    ∀ field ∈ putField name value fields, field.2.Short := by
  induction fields with
  | nil => exact List.forall_mem_singleton.mpr short
  | cons field rest ih =>
    obtain ⟨first, later⟩ := List.forall_mem_cons.mp all
    rw [putField]
    split_ifs
    · exact List.forall_mem_cons.mpr ⟨short, later⟩
    · exact List.forall_mem_cons.mpr ⟨first, ih later⟩

theorem mergeFields_short {fields : List (String × Json)} (all : ∀ field ∈ fields, field.2.Short) :
    ∀ field ∈ mergeFields fields, field.2.Short := by
  have merge : ∀ merged : List (String × Json), (∀ field ∈ merged, field.2.Short) →
      ∀ field ∈ fields.foldl (fun merged field => putField field.1 field.2 merged) merged,
        field.2.Short := by
    induction fields with
    | nil => exact fun _ before => before
    | cons field rest ih =>
      obtain ⟨first, later⟩ := List.forall_mem_cons.mp all
      exact fun _ before => ih later _ (putField_short first before)
  exact merge [] (by simp)

/-- The containers of one more level are built from what the reader of the level below returns. -/
theorem readValue_short (depth : Nat) : ReadsShort (readValue depth) := by
  induction depth with
  | zero =>
    intro input rest document run
    unfold readValue at run
    split at run
    · cases run
    · cases run
    · exact readScalar_short run
  | succ depth ih =>
    intro input rest document run
    unfold readValue at run
    split at run
    · split at run
      · cases run
        exact .array (by simp)
      · obtain ⟨_, items, same⟩ := map_eq_ok_iff.mp run
        cases same
        exact .array (readItems_short ih items)
    · split at run
      · cases run
        exact .object (by simp)
      · obtain ⟨_, fields, same⟩ := map_eq_ok_iff.mp run
        cases same
        exact .object (mergeFields_short (readFields_short ih fields))
    · exact readScalar_short run

theorem readChars?_short {depth : Nat} (run : readChars? depth input = .ok document) :
    document.Short := by
  obtain ⟨⟨found, behind⟩, valued, run⟩ := bind_eq_ok_iff.mp run
  dsimp only at run
  split at run
  · cases run
    exact readValue_short depth valued
  · cases run

theorem Short.field? (short : document.Short) {name : String} {value : Json}
    (found : document.field? name = some value) : value.Short := by
  cases short with
  | object all =>
    obtain ⟨field, among, rfl⟩ := Option.map_eq_some_iff.mp found
    exact all field (List.mem_reverse.mp (List.mem_of_find?_eq_some among))
  | _ => cases found

end ZeroGuard.Json
