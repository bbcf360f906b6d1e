import ArenaLang.Proofs.Following

namespace ArenaLang

def Act.failure? : Act → Option Mishap
  | .failed mishap => some mishap
  | _ => none

def Act.report? : Act → Option Mishap
  | .reported mishap => some mishap
  | _ => none

def failures (acts : List Act) : List Mishap := acts.filterMap Act.failure?

def reports (acts : List Act) : List Mishap := acts.filterMap Act.report?

theorem failures_append (acts more : List Act) : failures (acts ++ more) = failures acts ++ failures more :=
  List.filterMap_append

theorem reports_append (acts more : List Act) : reports (acts ++ more) = reports acts ++ reports more :=
  List.filterMap_append

/-! ## Reports owed -/

namespace Course

variable {κ ι : Type} {owed : List Mishap} {course : Course κ} {left : κ → List Mishap}

/-- Whether a course reports, in order, what was owed before and what goes wrong on it, but for what
is left owed at its end. -/
def Settles (owed : List Mishap) (course : Course κ) (left : κ → List Mishap) : Prop :=
  ∀ k, course.ending = some k → owed ++ failures course.acts = reports course.acts ++ left k

theorem Settles.pure {k : κ} (same : owed = left k) : Settles owed (pure k) left := by
  intro j ends
  cases ends
  exact (List.append_nil owed).trans same

theorem Settles.tooDeep : Settles owed (tooDeep : Course κ) left := by
  intro k ends
  cases ends

theorem Settles.bind {next : κ → Course ι} {last : ι → List Mishap} (first : Settles owed course left)
    (second : ∀ k, Settles (left k) (next k) last) : Settles owed (course >>= next) last := by
  intro j ends
  cases reached : course.ending with
  | none =>
      rw [bind_of_none reached] at ends
      cases ends
  | some k =>
      rw [bind_of_some reached] at ends ⊢
      calc owed ++ failures (course.acts ++ (next k).acts)
        _ = owed ++ failures course.acts ++ failures (next k).acts := by
            rw [failures_append, List.append_assoc]
        _ = reports course.acts ++ (left k ++ failures (next k).acts) := by
            rw [first k reached, List.append_assoc]
        _ = reports (course.acts ++ (next k).acts) ++ last j := by
            rw [second k j ends, reports_append, List.append_assoc]

theorem Settles.take {act : Act} (fine : act.failure? = none) (silent : act.report? = none) :
    Settles owed (take act) fun _ => owed := by
  intro _ _
  simp [Course.take, failures, reports, fine, silent]

theorem Settles.failed (mishap : Mishap) : Settles [] (Course.take (.failed mishap)) fun _ => [mishap] :=
  fun _ _ => rfl

theorem Settles.reported (mishap : Mishap) : Settles [mishap] (Course.take (.reported mishap)) fun _ => [] :=
  fun _ _ => rfl

end Course

def owes : Except Abort Unit → List Mishap
  | .ok () => []
  | .error abort => [.failed abort.error]

namespace Definitions

open Course

variable {definitions : Definitions} {way : Way}

theorem fail_settles (abort : Abort) : Settles [] (fail abort) owes :=
  (Settles.failed (.failed abort.error)).bind fun _ => .pure rfl

theorem courseOfCall_settles (entering : ∀ function, Settles [] (way function) owes) (name : String) (count : Nat)
    {arguments : Course Unit} (settled : Settles [] arguments fun _ => []) :
    Settles [] (definitions.courseOfCall way name count arguments) owes := by
  unfold courseOfCall
  cases definitions.resolve name with
  | none => exact fail_settles _
  | some callee =>
      apply (Settles.take rfl rfl).bind
      intro _
      cases callee with
      | native handler =>
          apply settled.bind
          intro _
          exact (Settles.take rfl rfl).bind fun _ => .pure rfl
      | declared function =>
          show Settles [] (if _ then _ else _) owes
          split
          · exact settled.bind fun _ => entering function
          · exact fail_settles _

mutual

theorem courseOf_settles (entering : ∀ function, Settles [] (way function) owes) (bound : List String) (e : Expr) :
    Settles [] (definitions.courseOf way bound e) fun _ => [] := by
  cases e with
  | number n => exact .pure rfl
  | text s => exact .pure rfl
  | «variable» name =>
      unfold courseOf
      split
      · exact .pure rfl
      · exact (Settles.failed _).bind fun _ => .reported _
  | call function arguments =>
      unfold courseOf
      apply (courseOfCall_settles entering function _ (arguments_settle entering bound arguments)).bind
      intro outcome
      cases outcome with
      | ok _ => exact .pure rfl
      | error abort => exact .reported _

theorem arguments_settle (entering : ∀ function, Settles [] (way function) owes) (bound : List String)
    (arguments : List Expr) :
    Settles []
      (do
        Course.take (.listed arguments.length)
        definitions.courseOfAll way bound arguments)
      fun _ => [] :=
  (Settles.take rfl rfl).bind fun _ => courseOfAll_settles entering bound arguments

theorem courseOfAll_settles (entering : ∀ function, Settles [] (way function) owes) (bound : List String)
    (expressions : List Expr) : Settles [] (definitions.courseOfAll way bound expressions) fun _ => [] := by
  cases expressions with
  | nil => exact .pure rfl
  | cons e rest =>
      unfold courseOfAll
      exact (courseOf_settles entering bound e).bind fun _ => courseOfAll_settles entering bound rest

end

theorem courseOfBody_settles (entering : ∀ function, Settles [] (way function) owes) (bound : List String)
    (statements : List Stmt) : Settles [] (definitions.courseOfBody way bound statements) owes := by
  induction statements with
  | nil => exact .pure rfl
  | cons statement rest ih =>
      cases statement with
      | ret result =>
          cases result with
          | none => exact .pure rfl
          | some e => exact (courseOf_settles entering bound e).bind fun _ => .pure rfl
      | declare name params body => exact fail_settles _
      | call function arguments =>
          apply (courseOfCall_settles entering function _ (arguments_settle entering bound arguments)).bind
          intro outcome
          -- An aborted call ends the body, so what it owes is owed still and nothing follows.
          cases outcome with
          | ok _ => exact ih
          | error abort => exact .pure rfl

theorem courseWithin_settles (definitions : Definitions) (depth : Nat) (function : Declaration) :
    Settles [] (definitions.courseWithin depth function) owes := by
  induction depth generalizing function with
  | zero => exact .tooDeep
  | succ depth ih => exact (Settles.take rfl rfl).bind fun _ => courseOfBody_settles ih _ _

theorem course_settles (definitions : Definitions) : Settles [] definitions.course owes :=
  courseOfCall_settles (definitions.courseWithin_settles _) _ _ (.take rfl rfl)

end Definitions

/-! ## Runs -/

def exitFailures : Outcome → List Mishap
  | .ok (.number _) | .error _ => []
  | .ok value => [.failed (.exitKind "main" value.kind)]

theorem failures_of_verdict {acts : List Act} {outcome : Outcome} {k : Except Abort Unit} (foretold : Foretold outcome k)
    (settled : failures acts = reports acts ++ owes k) :
    failures acts ++ exitFailures outcome = reports acts ++ closingReports outcome.verdict := by
  rw [settled, List.append_assoc]
  congr 1
  cases foretold with
  | ok value => cases value <;> rfl
  | error abort => cases abort <;> rfl

/-- Every failure in a program that is executed has one report, in the order of the failures and with
its own message: a failure on the course of the run has it there, unless it ends the run, and then the
report comes last. What was written and reported before a failure is kept. -/
theorem failures_reported_once {σ : Type} [Writer σ] {definitions : Definitions} {interpreter after : Interpreter σ}
    {success : Bool} (serves : interpreter.Serves definitions) (ended : interpreter.execute = (.ok success, after)) :
    let acts := definitions.course.acts
    let start : World σ := ⟨interpreter.machine.output, []⟩
    ∃ outcome result world,
      definitions.callEntryPointBy (definitions.enter definitions.functions.length) start = some (outcome, world) ∧
      interpreter.run.1 = .ok result ∧
      World.Goes definitions.natives acts start world ∧
      interpreter.machine.Shows after.machine
        ⟨(Writer.flush world.output).2,
          world.events ++ (Writer.flushWarnings world.output).map .reported ++ World.exits result ++
            (closingReports result).map Mishap.event⟩ ∧
      failures acts ++ exitFailures outcome = reports acts ++ closingReports result ∧
      ∀ front mishap back, acts = front ++ .failed mishap :: back → ∃ before,
        World.Goes definitions.natives front start before ∧
          World.Goes definitions.natives (.failed mishap :: back) before world ∧
          World.Keeps definitions.natives before world := by
  intro acts start
  obtain ⟨result, ran, running, _, same⟩ := Interpreter.execute_ended ended
  obtain ⟨outcome, k, world, ending, foretold, verdict, called, took⟩ := Interpreter.run_took serves running
  refine ⟨outcome, result, world, called, by rw [running], took.goes, ?_, ?_, ?_⟩
  · have shows := took.shows.closed result
    rw [World.concluded_eq, World.closed_eq] at shows
    cases same
    exact shows
  · have settled := definitions.course_settles k ending
    cases verdict
    exact failures_of_verdict foretold settled
  · intro front mishap back split
    have goes := took.goes
    rw [show definitions.course.acts = front ++ .failed mishap :: back from split] at goes
    obtain ⟨before, first, rest⟩ := goes.split
    exact ⟨before, first, rest, .of_goes rest⟩

def Program.failing : Program :=
  [.declare "main" [] [.ret (some (.call "outer" [.call "outer" [], .call "missing" []]))],
    .declare "outer" ["a", "b"] [.call "inner" [.variable "ghost"]],
    .declare "inner" ["c"] [.declare "local" [] []]]

theorem failures_reported_once_failing :
    let definitions := Program.failing.definitions .empty
    let acts := definitions.course.acts
    ∃ interpreter after,
      Interpreter.create .small OutputStream.unbounded .collecting .empty .failing = .ok interpreter ∧
      interpreter.execute = (.ok false, after) ∧
      after.machine.sink.recorded =
        ["function 'outer' expects 2 argument(s), got 0", "unresolved function 'missing'", "undefined variable 'ghost'",
          "function 'local' is declared inside a body; declarations are only valid at the top level",
          "function 'main' must return a number, got nothing"].map Diagnostic.error ∧
      failures acts =
        [.failed (.arity "outer" 2 0), .failed (.unresolved "missing"), .unbound "ghost", .failed (.nested "local")] ∧
      ∃ outcome result world, interpreter.run.1 = .ok result ∧
        World.Goes definitions.natives acts ⟨interpreter.machine.output, []⟩ world ∧
        failures acts ++ exitFailures outcome = reports acts ++ closingReports result := by
  intro definitions acts
  have works : (Interpreter.create .small OutputStream.unbounded .collecting .empty .failing).toOption.any
      (fun interpreter =>
        interpreter.execute.1 = .ok false ∧
          interpreter.execute.2.machine.sink.recorded =
            ["function 'outer' expects 2 argument(s), got 0", "unresolved function 'missing'",
              "undefined variable 'ghost'",
              "function 'local' is declared inside a body; declarations are only valid at the top level",
              "function 'main' must return a number, got nothing"].map Diagnostic.error) = true := by
    decide +kernel
  have sound := (Memory.create_holds System.paged_sound Memory.small_created).sound
  obtain ⟨interpreter, created, ended, recorded⟩ := exists_ok_of_any works
  have ran : interpreter.execute = (.ok false, interpreter.execute.2) := Prod.ext ended rfl
  obtain ⟨outcome, result, world, _, running, goes, _, once, _⟩ :=
    failures_reported_once (Interpreter.create_serves sound created) ran
  exact ⟨interpreter, _, created, ran, recorded, by decide +kernel, outcome, result, world, running, goes, once⟩

end ArenaLang
