import ZeroGuard.Json.Reader
import ZeroGuard.Proofs.Outcome
import ZeroGuard.Proofs.Text.Clean

namespace ZeroGuard.Json

variable {c : Char} {rest : List Char}

/-- The digits that a control character has in its escape. -/
theorem hexCode?_hexDigits (control : c.toNat < 0x20) : ∃ d₁ d₂ d₃ d₄,
    hexDigits 4 c.toNat = [d₁, d₂, d₃, d₄] ∧ hexCode? d₁ d₂ d₃ d₄ = some c.toNat := by
  have all : ∀ code : Fin 0x20, ∃ d₁ d₂ d₃ d₄,
      hexDigits 4 code = [d₁, d₂, d₃, d₄] ∧ hexCode? d₁ d₂ d₃ d₄ = some code.val := by
    intro code
    refine ⟨(hexDigits 4 code)[0]!, (hexDigits 4 code)[1]!, (hexDigits 4 code)[2]!,
      (hexDigits 4 code)[3]!, ?_⟩
    revert code
    decide
  exact all ⟨c.toNat, control⟩

theorem codeChar_toNat (control : c.toNat < 0x20) :
    isHighSurrogate c.toNat = false ∧ codeChar c.toNat = c := by
  have high : isHighSurrogate c.toNat = false := by
    simp only [isHighSurrogate, Bool.and_eq_false_iff, decide_eq_false_iff_not]
    omega
  have low : isLowSurrogate c.toNat = false := by
    simp only [isLowSurrogate, Bool.and_eq_false_iff, decide_eq_false_iff_not]
    omega
  refine ⟨high, ?_⟩
  rw [codeChar, high, low]
  exact Char.ofNat_toNat c

/-- What is written for one character is read as that character. An escape with digits is read only
in front of a further character, and in quotes there is one. -/
theorem readChars_escape (opened : List Char) (bound : Nat) (c next : Char) (rest : List Char) :
    readChars opened (bound + 1) (escape c ++ next :: rest) =
      consText c (readChars opened bound (next :: rest)) := by
  unfold escape
  split_ifs with quote slash feed back tab erase form control
  · subst quote
    rfl
  · subst slash
    rfl
  · subst feed
    rfl
  · subst back
    rfl
  · subst tab
    rfl
  · obtain rfl : c = Char.ofNat 0x8 := by rw [← erase, Char.ofNat_toNat]
    rfl
  · obtain rfl : c = Char.ofNat 0xc := by rw [← form, Char.ofNat_toNat]
    rfl
  · obtain ⟨d₁, d₂, d₃, d₄, digits, code⟩ := hexCode?_hexDigits control
    obtain ⟨high, same⟩ := codeChar_toNat control
    rw [digits]
    simp only [List.cons_append, List.nil_append, readChars]
    rw [code]
    simp [high, same]
  · simp only [List.cons_append, List.nil_append, readChars, if_neg quote, if_neg control,
      if_pos (show c ≠ '\\' from slash)]

/-- The bound is enough if it counts the characters of the text and the closing quote. -/
theorem readChars_quoted (opened : List Char) {bound : Nat} (s rest : List Char)
    (enough : s.length < bound) :
    readChars opened bound (s.flatMap escape ++ '"' :: rest) = .ok (s, rest) := by
  induction s generalizing bound with
  | nil =>
    obtain ⟨bound, rfl⟩ := Nat.exists_eq_add_of_lt enough
    rfl
  | cons c s ih =>
    obtain ⟨bound, rfl⟩ : ∃ more, bound = more + 1 := Nat.exists_eq_succ_of_ne_zero (by omega)
    have further : ∃ next more, s.flatMap escape ++ '"' :: rest = next :: more :=
      List.exists_cons_of_ne_nil (by simp)
    have fewer : s.length < bound := Nat.lt_of_succ_lt_succ enough
    have read := ih fewer
    obtain ⟨next, more, same⟩ := further
    rw [same] at read
    rw [List.flatMap_cons, List.append_assoc, same, readChars_escape, read]
    rfl

theorem escape_ne_nil (c : Char) : escape c ≠ [] := by
  unfold escape
  split_ifs <;> exact List.cons_ne_nil _ _

theorem length_le_escaped (s : List Char) : s.length ≤ (s.flatMap escape).length := by
  induction s with
  | nil => exact Nat.zero_le _
  | cons c s ih =>
    have one : 0 < (escape c).length := List.length_pos_iff.mpr (escape_ne_nil c)
    rw [List.flatMap_cons, List.length_append, List.length_cons]
    omega

theorem readText_quoted (s : String) (rest : List Char) :
    readText (s.toList.flatMap escape ++ '"' :: rest) = .ok (s, rest) := by
  have long := length_le_escaped s.toList
  rw [readText, readChars_quoted, Except.map, String.ofList_toList]
  rw [List.length_append, List.length_cons]
  omega

theorem quotedText_append (s : String) (rest : List Char) :
    quotedText s ++ rest = '"' :: (s.toList.flatMap escape ++ '"' :: rest) := by
  rw [quotedText, List.append_assoc]
  rfl

/-- The fields of an object of texts. -/
def textFields (fields : List (String × String)) : List (String × Json) :=
  fields.map fun field => (field.1, text field.2)

theorem readValue_quoted (depth : Nat) (s : String) (rest : List Char) :
    readValue depth (quotedText s ++ rest) = .ok (text s, rest) := by
  have read : readScalar (quotedText s ++ rest) = .ok (text s, rest) := by
    rw [quotedText_append, readScalar, readText_quoted]
    rfl
  rw [← read, quotedText_append]
  cases depth <;> rfl

theorem readField_quoted (depth : Nat) (name value : String) (rest : List Char) :
    readField (readValue depth) (quotedText name ++ ':' :: ' ' :: (quotedText value ++ rest)) =
      .ok ((name, text value), rest) := by
  have colon : skipBlanks (':' :: ' ' :: (quotedText value ++ rest)) =
      ':' :: ' ' :: (quotedText value ++ rest) := rfl
  have quote : skipBlanks (' ' :: (quotedText value ++ rest)) = quotedText value ++ rest := rfl
  rw [quotedText_append]
  simp only [readField, readText_quoted, bind, Except.bind, colon, quote, readValue_quoted]

theorem fieldChars_cons (name value : String) (later : List (String × String)) :
    fieldChars (textFields ((name, value) :: later)) =
      quotedText name ++ ':' :: ' ' :: (quotedText value ++
        if later = [] then [] else ',' :: ' ' :: fieldChars (textFields later)) := by
  cases later <;> simp [textFields, fieldChars, chars]

/-- The first name opens with a quote. -/
theorem exists_fieldChars_eq {fields : List (String × String)} (nonempty : fields ≠ []) :
    ∃ more, fieldChars (textFields fields) = '"' :: more := by
  cases fields with
  | nil => exact absurd rfl nonempty
  | cons field later =>
    obtain ⟨name, value⟩ := field
    exact ⟨_, by rw [fieldChars_cons, quotedText_append]⟩

/-- The bound is enough if it counts the fields. -/
theorem readFields_textFields (depth : Nat) {bound : Nat} {fields : List (String × String)}
    (nonempty : fields ≠ []) (enough : fields.length ≤ bound) (rest : List Char) :
    readFields (readValue depth) bound (fieldChars (textFields fields) ++ '\x7d' :: rest) =
      .ok (textFields fields, rest) := by
  induction fields generalizing bound with
  | nil => exact absurd rfl nonempty
  | cons field later ih =>
    obtain ⟨name, value⟩ := field
    obtain ⟨bound, rfl⟩ : ∃ more, bound = more + 1 :=
      Nat.exists_eq_succ_of_ne_zero (Nat.ne_zero_of_lt enough)
    rw [fieldChars_cons]
    by_cases last : later = []
    · subst last
      simp only [if_true, List.append_assoc, List.cons_append, List.nil_append, readFields,
        readField_quoted, bind, Except.bind]
      rfl
    · obtain ⟨more, front⟩ := exists_fieldChars_eq last
      have comma : ∀ tail, skipBlanks (',' :: tail) = ',' :: tail := fun _ => rfl
      have blank : skipBlanks (' ' :: (fieldChars (textFields later) ++ '\x7d' :: rest)) =
          fieldChars (textFields later) ++ '\x7d' :: rest := by
        rw [front]
        rfl
      have fewer : later.length ≤ bound := Nat.le_of_succ_le_succ enough
      have read := ih last fewer
      simp only [if_neg last, List.append_assoc, List.cons_append, readFields, readField_quoted,
        bind, Except.bind, comma, blank, read]
      rfl

theorem putField_of_notMem {name : String} (value : Json) {fields : List (String × Json)}
    (fresh : name ∉ fields.map (·.1)) : putField name value fields = fields ++ [(name, value)] := by
  induction fields with
  | nil => rfl
  | cons field later ih =>
    obtain ⟨key, old⟩ := field
    simp only [List.map_cons, List.mem_cons, not_or] at fresh
    rw [putField, if_neg (Ne.symm fresh.1), ih fresh.2, List.cons_append]

/-- Fields of different names stay as they are. -/
theorem mergeFields_of_nodup {fields : List (String × Json)} (distinct : (fields.map (·.1)).Nodup) :
    mergeFields fields = fields := by
  have merge : ∀ merged : List (String × Json), ((merged ++ fields).map (·.1)).Nodup →
      fields.foldl (fun merged field => putField field.1 field.2 merged) merged =
        merged ++ fields := by
    clear distinct
    induction fields with
    | nil => exact fun merged _ => (List.append_nil merged).symm
    | cons field later ih =>
      intro merged distinct
      have fresh : field.1 ∉ merged.map (·.1) := by
        rw [List.map_append, List.nodup_append'] at distinct
        exact fun member => distinct.2.2 member (by simp)
      have step := ih (merged ++ [field])
      rw [List.append_assoc] at step
      rw [List.foldl_cons, putField_of_notMem field.2 fresh]
      exact step distinct
  exact merge [] distinct

theorem length_le_fieldChars (fields : List (String × String)) :
    fields.length ≤ (fieldChars (textFields fields)).length := by
  induction fields with
  | nil => exact Nat.zero_le _
  | cons field later ih =>
    obtain ⟨name, value⟩ := field
    rw [fieldChars_cons]
    by_cases last : later = []
    · subst last
      simp only [List.length_append, List.length_cons, List.length_nil]
      omega
    · simp only [if_neg last, List.length_append, List.length_cons]
      omega

theorem readValue_object (depth : Nat) (more : List Char) :
    readValue (depth + 1) ('\x7b' :: '"' :: more) =
      (readFields (readValue depth) (('"' :: more).length + 1) ('"' :: more)).map fun done =>
        (object (mergeFields done.1), done.2) := rfl

/-- An object of texts under different names is read as it was written. -/
theorem read_write_textFields {fields : List (String × String)} (nonempty : fields ≠ [])
    (distinct : (fields.map (·.1)).Nodup) :
    read (write (object (textFields fields))) = .ok (object (textFields fields)) := by
  have names : ((textFields fields).map (·.1)).Nodup := by
    rw [textFields, List.map_map]
    exact distinct
  obtain ⟨more, front⟩ := exists_fieldChars_eq nonempty
  have shape : (write (object (textFields fields))).toList =
      '\x7b' :: '"' :: (more ++ ['\x7d']) := by
    rw [write, String.toList_ofList, chars, front]
    rfl
  have value (depth : Nat) : readValue (depth + 1) ('\x7b' :: '"' :: (more ++ ['\x7d'])) =
      .ok (object (textFields fields), []) := by
    have bound : fields.length ≤ ('"' :: (more ++ ['\x7d'])).length + 1 := by
      have long := length_le_fieldChars fields
      rw [front] at long
      simp only [List.length_cons, List.length_append] at long ⊢
      omega
    have fieldsRead := readFields_textFields depth nonempty bound []
    rw [front, List.cons_append] at fieldsRead
    rw [readValue_object, fieldsRead, Except.map, mergeFields_of_nodup names]
  have blank : skipBlanks ('\x7b' :: '"' :: (more ++ ['\x7d'])) =
      '\x7b' :: '"' :: (more ++ ['\x7d']) := rfl
  have long : (write (object (textFields fields))).length = (more ++ ['\x7d']).length + 1 + 1 := by
    rw [← String.length_toList, shape, List.length_cons, List.length_cons]
  simp only [read, long, shape, readChars?, blank, value, bind, Except.bind]
  rfl

theorem space_le_of_isControl (visible : isControl c = false) : 0x20 ≤ c.toNat := by
  simp only [isControl, Bool.or_eq_false_iff, decide_eq_false_iff_not] at visible
  omega

theorem space_le_of_escape {d : Char} (written : d ∈ escape c) : 0x20 ≤ d.toNat := by
  have pair {letter : Char} (visible : 0x20 ≤ letter.toNat) :
      ∀ e ∈ ['\\', letter], 0x20 ≤ e.toNat := by
    intro e member
    rcases List.mem_pair.mp member with rfl | rfl
    · decide
    · exact visible
  unfold escape at written
  split_ifs at written with quote slash feed back tab erase form control
  iterate 7 exact pair (by decide) d written
  · have front : ['\\', 'u'] ++ hexDigits 4 c.toNat = '\\' :: 'u' :: hexDigits 4 c.toNat := rfl
    rw [← front, List.mem_append] at written
    rcases written with mark | digit
    · exact pair (by decide) d mark
    · exact space_le_of_isControl (isControl_hexDigits 4 c.toNat d digit)
  · rw [List.mem_singleton.mp written]
    exact Nat.le_of_not_lt control

theorem space_le_of_quotedText {s : String} (written : c ∈ quotedText s) : 0x20 ≤ c.toNat := by
  rw [quotedText, List.cons_append, List.mem_cons, List.mem_append, List.mem_singleton,
    List.mem_flatMap] at written
  rcases written with rfl | ⟨d, -, escaped⟩ | rfl
  · decide
  · exact space_le_of_escape escaped
  · decide

theorem space_le_of_fieldChars {fields : List (String × String)}
    (written : c ∈ fieldChars (textFields fields)) : 0x20 ≤ c.toNat := by
  induction fields with
  | nil => cases written
  | cons field later ih =>
    obtain ⟨name, value⟩ := field
    rw [fieldChars_cons] at written
    simp only [List.mem_append, List.mem_cons] at written
    rcases written with key | rfl | rfl | shown | more
    · exact space_le_of_quotedText key
    · decide
    · decide
    · exact space_le_of_quotedText shown
    · split_ifs at more with last
      · cases more
      · simp only [List.mem_cons] at more
        rcases more with rfl | rfl | more
        · decide
        · decide
        · exact ih more

theorem space_le_of_write {fields : List (String × String)}
    (written : c ∈ (write (object (textFields fields))).toList) : 0x20 ≤ c.toNat := by
  rw [write, String.toList_ofList, chars, List.cons_append, List.mem_cons, List.mem_append,
    List.mem_singleton] at written
  rcases written with rfl | inside | rfl
  · decide
  · exact space_le_of_fieldChars inside
  · decide

end ZeroGuard.Json
