import ZeroGuard.Proofs.Service.Report
import ZeroGuard.Proofs.Session.Step

namespace ZeroGuard

/-- What a call of the service comes to, if an action is one. A call without settings raises when
there are none to be loaded. -/
def Action.call? (app : App) : Action → Option (Except (List Issue) Run)
  | divide _ given request => some (app.divide given request).1
  | _ => none

namespace App

/-- What a call returns, unless it raises. -/
def returned? : Except (List Issue) Run → Option (Except Failure Response)
  | .ok ⟨.ok result, _⟩ => some result
  | _ => none

/-- What the calls among some actions come to. -/
def calls : List Action → App → List (Except (List Issue) Run)
  | [], _ => []
  | action :: rest, app => (action.call? app).toList ++ (app.after action).calls rest

/-- A call returns and leaves the record that reports it, or it raises and leaves none. -/
inductive Accounted : Except (List Issue) Run → Prop
  | returned {call : Except (List Issue) Run} {result : Except Failure Response}
      {record : Log.Record} : returned? call = some result → recordsOf call = [record] →
      Service.Reports result record → Accounted call
  | raised {call : Except (List Issue) Run} : returned? call = none → recordsOf call = [] →
      Accounted call

variable {app : App} {action : Action} {call : Except (List Issue) Run}

theorem accounted_of_leaves {run : Run} (leaves : Service.Leaves run) : Accounted (.ok run) := by
  cases leaves with
  | nothing => exact .raised rfl rfl
  | report reports => exact .returned rfl rfl reports

theorem accounted_divide (given : Option Settings) (request : Request) (app : App) :
    Accounted (app.divide given request).1 := by
  have leaves : ∀ default, Service.Leaves (Service.divide default request) :=
    fun default => ((Service.divide_eq_iff default request _).mp rfl).leaves
  cases given with
  | some settings => exact accounted_of_leaves (leaves _)
  | none =>
    rw [divide_none]
    cases app.getSettings.1 with
    | error issues => exact .raised rfl rfl
    | ok loaded => exact accounted_of_leaves (leaves _)

theorem accounted_of_call (called : action.call? app = some call) : Accounted call := by
  cases action with
  | divide stamp given request =>
    cases called
    exact accounted_divide given request app
  | _ => cases called

theorem accounted_calls (actions : List Action) (app : App) :
    ∀ call ∈ app.calls actions, Accounted call := by
  induction actions generalizing app with
  | nil => exact nofun
  | cons action rest ih =>
    intro call member
    rcases List.mem_append.mp member with now | later
    · exact accounted_of_call (Option.mem_toList.mp now)
    · exact ih (app.after action) call later

/-- Records and results go in step. A call that raises drops out of both. -/
theorem forall₂_reports {calls : List (Except (List Issue) Run)}
    (accounted : ∀ call ∈ calls, Accounted call) :
    List.Forall₂ Service.Reports (calls.filterMap returned?) (calls.flatMap recordsOf) := by
  induction calls with
  | nil => exact .nil
  | cons call rest ih =>
    obtain ⟨now, later⟩ := List.forall_mem_cons.mp accounted
    cases now with
    | returned result record reports =>
      rw [List.filterMap_cons_some result, List.flatMap_cons, record]
      exact .cons reports (ih later)
    | raised nothing none =>
      rw [List.filterMap_cons_none nothing, List.flatMap_cons, none]
      exact ih later

theorem getSettings_with_log (app : App) (log : Log.Root) :
    ({ app with log := log } : App).getSettings.1 = app.getSettings.1 := by
  unfold getSettings
  cases app.cache with
  | some loaded => rfl
  | none => cases Settings.load [] app.surroundings <;> rfl

theorem divide_with_log (given : Option Settings) (request : Request) (app : App)
    (log : Log.Root) :
    (({ app with log := log } : App).divide given request).1 = (app.divide given request).1 := by
  cases given with
  | some settings => rfl
  | none => rw [divide_none, divide_none, getSettings_with_log]

/-- The results and the records of a session, the operand that a call answers for, and what a record
that is lost leaves as it is: the result is told without it, and without the log. -/
theorem calls_leave_reports :
    (∀ (actions : List Action) (app : App),
      (∀ call ∈ app.calls actions, Accounted call) ∧
        List.Forall₂ Service.Reports ((app.calls actions).filterMap returned?)
          ((app.calls actions).flatMap recordsOf)) ∧
    (∀ (default : NumericType) (request : Request),
      let type := request.numericType.getD default
      let run := Service.divide default request
      (∀ cause, request.a.convert type = .error cause →
        ∃ ending, Service.EndsAt type request.a ending ∧
          ∀ b, Service.divide default { request with b := b } = ending) ∧
      (∀ a cause, request.a.convert type = .ok a → request.b.convert type = .error cause →
        Service.EndsAt type request.b run) ∧
      ∀ a b, request.a.convert type = .ok a → request.b.convert type = .ok b →
        run.outcome = Service.verdict type request.operator (a.safeDivide request.operator b) ∧
          ∀ record ∈ run.records,
            (∃ fault, record.message = .error fault) ↔ a.TooLong ∨ b.TooLong) ∧
    ∀ (app : App) (log : Log.Root) (given : Option Settings) (request : Request),
      (({ app with log := log } : App).divide given request).1 = (app.divide given request).1 := by
  refine ⟨fun actions app => ?_, fun default request => ?_, fun app log given request => ?_⟩
  · have accounted := accounted_calls actions app
    exact ⟨accounted, forall₂_reports accounted⟩
  · intro type run
    have course : Service.Course type request run := (Service.divide_eq_iff _ request _).mp rfl
    refine ⟨fun cause failed => ?_, fun a cause first failed => ?_, fun a b first second => ?_⟩
    · refine ⟨_, Service.endsAt_refused failed, fun b => ?_⟩
      have course : Service.Course type { request with b := b }
          (Service.refused type request.a cause) := .refusedFirst failed
      exact course.divide_eq
    · have ended : run = Service.refused type request.b cause :=
        (Service.Course.refusedSecond first failed).divide_eq
      exact ended ▸ Service.endsAt_refused failed
    · refine ⟨course.outcome_eq_verdict first second, fun record logged => ?_⟩
      rw [course.logs.lost_iff logged, Service.operandTooLong_iff first second]
  · exact divide_with_log given request app log

/-- Of five calls two raise, one for want of settings and one with an operand that it cannot show.
The third one answers for its dividend, and the record of the fifth one is lost. -/
theorem five_calls_leave_three_reports :
    let ask (a b : Operand) : Action := .divide "noon" (some .default) ⟨a, b, none, .quotient⟩
    let actions : List Action := [ask (.int 6) (.int 0), .setVariable "SAFEDIV_DEBUG" (some "maybe"),
      .divide "noon" none ⟨.int 1, .int 2, none, .quotient⟩, ask (.text "six") (.int 0),
      ask (.int (10 ^ 4300)) (.text "two"),
      .divide "noon" (some .default) ⟨.int (10 ^ 4300), .int 0, some .int, .quotient⟩]
    let calls := App.initial.calls actions
    List.Forall₂ Service.Reports (calls.filterMap returned?) (calls.flatMap recordsOf) ∧
      calls.map (fun call => (recordsOf call).map fun record =>
        (record.level, record.message.toOption.isSome)) =
        [[(.debug, true)], [], [(.warning, true)], [], [(.debug, false)]] ∧
      ∃ ending, Service.EndsAt .float (.text "six") ending ∧
        ∀ b, Service.divide .float ⟨.text "six", b, none, .quotient⟩ = ending := by
  refine ⟨(calls_leave_reports.1 _ _).2, by decide +kernel, ?_⟩
  obtain ⟨cause, failed⟩ : ∃ cause, (Operand.text "six").convert .float = .error cause :=
    ⟨_, rfl⟩
  exact (calls_leave_reports.2.1 .float ⟨.text "six", .int 0, none, .quotient⟩).1 cause failed

end App

end ZeroGuard
