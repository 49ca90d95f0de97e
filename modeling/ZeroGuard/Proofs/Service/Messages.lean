import ZeroGuard.Proofs.Log.Root
import ZeroGuard.Proofs.Number.Text
import ZeroGuard.Proofs.Service.Course
import ZeroGuard.Settings.Basic

namespace ZeroGuard

variable {type : NumericType} {raw : Operand} {text : String} {fault : Fault}

theorem NumericType.clean_name (type : NumericType) : Clean type.name := by
  cases type <;> exact clean_of_all rfl

theorem Number.clean_boolText (b : Bool) : Clean (boolText b) := by
  cases b <;> exact clean_of_all rfl

theorem Operand.ConversionFault.clean_message (cause : raw.ConversionFault fault) :
    Clean fault.message := by
  apply Fault.clean_message
  cases cause with
  | integerText => exact List.forall_mem_singleton.mpr (clean_shownText _)
  | floatText | rationalText => exact List.forall_mem_singleton.mpr (clean_quoted _)
  | @notIntegral x => exact List.forall_mem_singleton.mpr (x.clean_text _)
  | _ => exact nofun

theorem Operand.clean_of_shown (shown : raw.shown = .ok text) : Clean text := by
  cases raw with
  | int n => exact clean_of_writeInteger shown
  | float x =>
    cases shown
    exact x.clean_text _
  | text s =>
    cases shown
    exact clean_quoted s

theorem clean_refusal (cause : raw.ConversionFault fault) (shown : raw.shown = .ok text)
    (type : NumericType) : Clean (refusal text type.name fault.message).message := by
  simp only [refusal, clean_append, and_assoc]
  exact ⟨clean_of_all rfl, Operand.clean_of_shown shown, clean_of_all rfl, type.clean_name,
    clean_of_all rfl, cause.clean_message⟩

theorem clean_of_parseOperand {failure : Failure}
    (refused : parseOperand type raw = .ok (.error failure)) : Clean failure.message := by
  cases converted : raw.convert type with
  | ok number =>
    rw [parseOperand_ok_iff.mpr converted] at refused
    cases refused
  | error cause =>
    rw [parseOperand_of_error converted] at refused
    obtain ⟨text, shown, same⟩ := map_eq_ok_iff.mp refused
    cases same
    exact clean_refusal (Operand.convert_error converted) shown type

namespace Log

variable {stamp message : String} {record : Record}

/-- One line, with a break at its end and none before it. -/
def OneLine (text : String) : Prop :=
  ∃ line, Clean line ∧ text = line ++ "\n"

theorem oneLine_textLine (time : Clean stamp) (level : Clean record.level.name)
    (logger : Clean record.logger) (plain : record.exception = none) (clean : Clean message) :
    OneLine (textLine stamp record message ++ "\n") := by
  refine ⟨_, ?_, rfl⟩
  simp only [textLine, plain, withException, clean_append, and_assoc]
  exact ⟨time, clean_of_all rfl, level, clean_of_all rfl, logger, clean_of_all rfl, clean⟩

end Log

namespace Service

variable {op : Operator} {a b : Number} {request : Request} {run : Run}

/-- Both operands have values in the type, but one of them has too many digits to be written. -/
def OperandTooLong (type : NumericType) (request : Request) : Prop :=
  ∃ a b, request.a.convert type = .ok a ∧ request.b.convert type = .ok b ∧
    (a.TooLong ∨ b.TooLong)

theorem operandTooLong_iff (first : request.a.convert type = .ok a)
    (second : request.b.convert type = .ok b) :
    OperandTooLong type request ↔ a.TooLong ∨ b.TooLong := by
  constructor
  · rintro ⟨c, d, found, converted, long⟩
    cases found.symm.trans first
    cases converted.symm.trans second
    exact long
  · intro long
    exact ⟨a, b, first, second, long⟩

theorem shown_pair_error_iff {message : String → String → String} :
    (∃ fault, (do let dividend ← a.text; let divisor ← b.text; .ok (message dividend divisor)) =
      Except.error fault) ↔ a.TooLong ∨ b.TooLong := by
  have long : ∀ n : Number, n.TooLong ↔ ∃ fault, n.text = .error fault := by
    simp [Number.text_error_iff]
  rw [long, long]
  cases a.text with
  | error cause => exact iff_of_true ⟨cause, rfl⟩ (.inl ⟨cause, rfl⟩)
  | ok dividend =>
    cases b.text with
    | error cause => exact iff_of_true ⟨cause, rfl⟩ (.inr ⟨cause, rfl⟩)
    | ok divisor => exact iff_of_false nofun (by rintro (⟨_, ⟨⟩⟩ | ⟨_, ⟨⟩⟩))

theorem clean_failureMessage {cause : Fault} (clean : Clean cause.message)
    (written : failureMessage type op a b cause = .ok text) : Clean text := by
  obtain ⟨dividend, first, written⟩ := bind_eq_ok_iff.mp written
  obtain ⟨divisor, second, written⟩ := bind_eq_ok_iff.mp written
  cases written
  simp only [clean_append, and_assoc]
  exact ⟨clean_of_all rfl, Number.clean_of_text first, clean_of_all rfl, op.clean_name,
    clean_of_all rfl, Number.clean_of_text second, clean_of_all rfl, type.clean_name,
    clean_of_all rfl, clean⟩

theorem clean_resultMessage {response : Response} (value : Clean (response.value.getD "None"))
    (written : resultMessage response a b = .ok text) : Clean text := by
  obtain ⟨dividend, first, written⟩ := bind_eq_ok_iff.mp written
  obtain ⟨divisor, second, written⟩ := bind_eq_ok_iff.mp written
  cases written
  simp only [clean_append, and_assoc]
  exact ⟨Number.clean_of_text first, clean_of_all rfl, response.operator.clean_name,
    clean_of_all rfl, Number.clean_of_text second, clean_of_all rfl,
    response.numericType.clean_name, clean_of_all rfl, Number.clean_boolText _, clean_of_all rfl,
    value⟩

/-- How a call ends and what it leaves in the log: nothing if a fault leaves it, and otherwise one
record, which is lost exactly if an operand is too long. No message breaks its line. -/
inductive Logs (type : NumericType) (request : Request) : Run → Prop
  | nothing {fault : Fault} : Logs type request ⟨.error fault, []⟩
  | record {outcome : Except Failure Response} {level : Log.Level}
      {message : Except Fault String} : Clean level.name →
      (∀ failure, outcome = .error failure → Clean failure.message) →
      (∀ text, message = .ok text → Clean text) →
      ((∃ fault, message = .error fault) ↔ OperandTooLong type request) →
      Logs type request ⟨.ok outcome, [record level message]⟩

theorem logs_refused {cause : Fault} (failed : raw.convert type = .error cause)
    (unconverted : ¬ OperandTooLong type request) : Logs type request (refused type raw cause) := by
  unfold refused
  split
  · exact .nothing
  · rename_i shown written
    have clean := clean_refusal (Operand.convert_error failed) written type
    refine .record (clean_of_all rfl) ?_ ?_ (iff_of_false nofun unconverted)
    · rintro failure ⟨⟩
      exact clean
    · rintro text ⟨⟩
      exact .append (clean_of_all rfl) clean

theorem logs_respond {quotient : Option Number} (first : request.a.convert type = .ok a)
    (second : request.b.convert type = .ok b) :
    Logs type request (respond type op a b quotient) := by
  unfold respond
  split
  · exact .nothing
  · rename_i value written
    have clean : Clean (value.getD "None") := by
      cases quotient with
      | none =>
        cases written
        exact clean_of_all rfl
      | some number =>
        rw [Option.mapM_some] at written
        obtain ⟨text, shown, rfl⟩ := map_eq_ok_iff.mp written
        exact Number.clean_of_text shown
    exact .record (clean_of_all rfl) nofun (fun text => clean_resultMessage clean)
      (shown_pair_error_iff.trans (operandTooLong_iff first second).symm)

theorem logs_failed {cause : Fault} (first : request.a.convert type = .ok a)
    (second : request.b.convert type = .ok b) (nonzero : ¬ b.Vanishes)
    (run : a.divide op b = .error cause) : Logs type request (failed type op a b cause) := by
  have clean : Clean cause.message := by
    apply Fault.clean_message
    rcases Number.divide_error_cases (Operand.convert_has first) (Operand.convert_has second)
      nonzero run with rfl | ⟨signal, rfl⟩
    · exact nofun
    · exact nofun
  refine .record (clean_of_all rfl) ?_ (fun text => clean_failureMessage clean)
    (shown_pair_error_iff.trans (operandTooLong_iff first second).symm)
  rintro failure ⟨⟩
  simp only [clean_append, and_assoc]
  exact ⟨type.clean_name, clean_of_all rfl, op.clean_name, clean_of_all rfl, clean⟩

theorem Course.logs (course : Course type request run) : Logs type request run := by
  cases course with
  | refusedFirst first =>
    exact logs_refused first fun ⟨_, _, found, _⟩ => nomatch first.symm.trans found
  | refusedSecond _ second =>
    exact logs_refused second fun ⟨_, _, _, found, _⟩ => nomatch second.symm.trans found
  | absent first second => exact logs_respond first second
  | present first second => exact logs_respond first second
  | failed first second nonzero failed => exact logs_failed first second nonzero failed

theorem Logs.clean_failure (logs : Logs type request run) {failure : Failure}
    (ended : run.outcome = .ok (.error failure)) : Clean failure.message := by
  cases logs with
  | nothing => cases ended
  | record _ clean => exact clean failure (Except.ok.inj ended)

theorem Logs.clean_record (logs : Logs type request run) {record : Log.Record} {message : String}
    (logged : record ∈ run.records) (written : record.message = .ok message) : Clean message := by
  cases logs with
  | nothing => cases logged
  | record _ _ clean =>
    cases List.mem_singleton.mp logged
    exact clean message written

/-- A record that passes is written on one line of its own, or it is lost to a complaint. -/
theorem Logs.output {root : Log.Root} {stamp : String} (logs : Logs type request run)
    (installed : root.handlers.filterMap Log.Handler.format? = [.text]) (time : Clean stamp)
    {record : Log.Record} (logged : record ∈ run.records)
    (passes : root.level ≤ record.level.number) :
    let output := run.records.flatMap (root.write stamp)
    (¬ OperandTooLong type request → ∃ text, output = [.written text] ∧ Log.OneLine text) ∧
      (OperandTooLong type request → ∃ fault, output = [.complaint fault]) := by
  cases logs with
  | nothing => cases logged
  | @record _ _ message level failure clean lost =>
    cases List.mem_singleton.mp logged
    have written := Log.Root.write_of_installed stamp installed (decide_eq_true passes)
    simp only [List.flatMap_cons, List.flatMap_nil, List.append_nil, written]
    cases message with
    | error fault =>
      have long := lost.mp ⟨fault, rfl⟩
      exact ⟨fun short => absurd long short, fun _ => ⟨fault, rfl⟩⟩
    | ok message =>
      have short := mt lost.mpr (by rintro ⟨_, ⟨⟩⟩)
      refine ⟨fun _ => ⟨_, rfl, ?_⟩, fun long => absurd long short⟩
      exact Log.oneLine_textLine time level (clean_of_all rfl) rfl (clean message rfl)

/-- No failure and no record has a control character or a line break in its message, so that a call
whose record passes takes up one line. Only for an operand too long there is no line, and the logging
library complains instead. The characters of `isSurrogate`, lone surrogates in an operand, are escaped
like all that is not printable. -/
theorem messages_on_one_line (settings : Settings) (request : Request) :
    let type := request.numericType.getD settings.defaultNumericType
    let run := divide settings.defaultNumericType request
    (∀ type raw failure, parseOperand type raw = .ok (.error failure) → Clean failure.message) ∧
    (∀ failure, run.outcome = .ok (.error failure) → Clean failure.message) ∧
    (∀ record ∈ run.records, ∀ message, record.message = .ok message → Clean message) ∧
    ∀ (root : Log.Root) (stamp : String),
      root.handlers.filterMap Log.Handler.format? = [.text] → Clean stamp →
      ∀ record ∈ run.records, root.level ≤ record.level.number →
        let output := run.records.flatMap (root.write stamp)
        (¬ OperandTooLong type request → ∃ text, output = [.written text] ∧ Log.OneLine text) ∧
          (OperandTooLong type request → ∃ fault, output = [.complaint fault]) := by
  intro type run
  have logs : Logs type request run := ((divide_eq_iff _ request _).mp rfl).logs
  refine ⟨fun type raw failure => clean_of_parseOperand, ?_, ?_, ?_⟩
  · exact fun failure => logs.clean_failure
  · exact fun record logged message => logs.clean_record logged
  · intro root stamp installed time record logged passes
    exact logs.output installed time logged passes

/-- A line break in an operand forges no line of the log. -/
theorem forged_line_is_quoted :
    let request : Request := ⟨.text "1\nERROR forged\u2028", .int 1, some .float32, .quotient⟩
    ∃ text, (divide .float request).records.flatMap
      ((⟨0, [.foreign 1, .installed .text]⟩ : Log.Root).write "noon") = [.written text] ∧
        Log.OneLine text := by
  intro request
  have one : (divide .float request).records.length = 1 := by decide +kernel
  obtain ⟨record, logged⟩ := List.length_eq_one_iff.mp one
  have refused : (request.a.convert .float32).toOption = none := by decide +kernel
  have member : record ∈ (divide .float request).records := logged ▸ List.mem_singleton_self record
  refine ((messages_on_one_line .default request).2.2.2 ⟨0, [.foreign 1, .installed .text]⟩ "noon"
    rfl (clean_of_all rfl) record member (Nat.zero_le _)).1 ?_
  rintro ⟨a, b, converted, -⟩
  have converted : request.a.convert .float32 = .ok a := converted
  rw [converted] at refused
  cases refused

/-- A dividend of one digit more than can be written: the call fails, and what is put out of its
warning is no line. -/
theorem long_operand_leaves_no_line :
    let run := divide .float ⟨.int (10 ^ 4300), .int 3, some .int, .quotient⟩
    let root : Log.Root := ⟨10, [.installed .text]⟩
    (run.records.any fun record => record.level = .warning ∧ root.passes record = true) = true ∧
      ¬ ∃ text, run.records.flatMap (root.write "noon") = [.written text] := by
  refine ⟨by decide +kernel, ?_⟩
  rintro ⟨text, output⟩
  have complains : ((divide .float ⟨.int (10 ^ 4300), .int 3, some .int, .quotient⟩).records.flatMap
      ((⟨10, [.installed .text]⟩ : Log.Root).write "noon")).all fun entry =>
        match entry with
        | .written _ => false
        | .complaint _ => true := by
    decide +kernel
  rw [output] at complains
  cases complains

end Service

end ZeroGuard
