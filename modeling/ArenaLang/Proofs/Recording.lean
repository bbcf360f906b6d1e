import ArenaLang.Proofs.Logging

namespace ArenaLang

theorem Memory.eq_of_log {memory other : Memory} (arena : memory.arena = other.arena)
    (log : memory.log = other.log) : memory = other := by
  cases memory
  cases other
  cases arena
  cases log
  rfl

/-! ## Two machines -/

structure Machine.Paired {σ : Type} (start beginning machine another : Machine σ) : Prop where
  arena : machine.memory.arena = another.memory.arena
  output : machine.output = another.output
  logged : ∃ events, start.Logged machine events ∧ beginning.Logged another events

namespace Machine.Paired

variable {σ : Type} {start beginning machine another after behind : Machine σ} {events : List Event}

theorem refl (arena : machine.memory.arena = another.memory.arena) (output : machine.output = another.output) :
    Paired machine another machine another :=
  ⟨arena, output, [], .refl machine, .refl another⟩

theorem append (paired : Paired start beginning machine another) (arena : after.memory.arena = behind.memory.arena)
    (output : after.output = behind.output) (logged : machine.Logged after events)
    (further : another.Logged behind events) : Paired start beginning after behind := by
  obtain ⟨before, first, second⟩ := paired.logged
  exact ⟨arena, output, before ++ events, first.trans logged, second.trans further⟩

theorem reported (paired : Paired start beginning machine another) (d : Diagnostic) :
    Paired start beginning (machine.reported d) (another.reported d) :=
  paired.append paired.arena paired.output (.reported d) (.reported d)

theorem closed (paired : Paired start beginning machine another) (verdict : Except RunError Int) :
    Paired start beginning (machine.closed verdict) (another.closed verdict) := by
  cases verdict with
  | ok exitCode => exact paired
  | error error => exact paired.reported _

theorem memory_eq (paired : Paired start beginning machine another) (same : start.memory.log = beginning.memory.log) :
    machine.memory = another.memory := by
  obtain ⟨events, first, second⟩ := paired.logged
  have log : machine.memory.log = another.memory.log := by
    rw [← Array.toList_inj, first.log, second.log, same]
  exact Memory.eq_of_log paired.arena log

variable [Writer σ]

theorem lasts (natives : Registry) : Machine.Lasts natives (fun _ => False) (Paired start beginning) where
  memory {_ step} appends := by
    intro machine another paired _
    obtain ⟨answer, carved, events, steps⟩ := Logged.onMemory appends machine.memory.arena
    obtain ⟨later, stepped, arena, output, logged⟩ := steps machine rfl
    obtain ⟨last, followed, place, written, further⟩ := steps another paired.arena.symm
    rw [stepped, followed]
    exact ⟨rfl, paired.append (arena.trans place.symm) (output.trans (paired.output.trans written.symm)) logged further⟩
  report d := fun machine another paired _ => ⟨rfl, paired.reported d⟩
  perform {native} _ args := by
    intro machine another paired _
    have logged := Logged.performed (native.handler args) machine
    have further := Logged.performed (native.handler args) another
    rw [← paired.output] at further
    refine ⟨?_, paired.append ?_ ?_ logged further⟩
    · rw [RunM.perform_apply, RunM.perform_apply, paired.output]
    · rw [RunM.perform_apply, RunM.perform_apply, reportedAll_arena, reportedAll_arena]
      exact paired.arena
    · rw [RunM.perform_apply, RunM.perform_apply, reportedAll_output, reportedAll_output, paired.output]

theorem concluded (paired : Paired start beginning machine another) (verdict : Except RunError Int) :
    Paired start beginning (machine.concluded verdict) (another.concluded verdict) := by
  have logged := Logged.concluded machine verdict
  have further := Logged.concluded another verdict
  rw [← paired.output] at further
  refine paired.append ?_ ?_ logged further
  · rw [concluded_arena, concluded_arena]
    exact paired.arena
  · rw [concluded_output, concluded_output, paired.output]

end Machine.Paired

/-! ## Two interpreters -/

namespace Interpreter

variable {σ : Type} [Writer σ]

inductive Call where
  | run
  | execute

inductive Answer where
  | ran (result : Except Stop (Except RunError Int))
  | executed (success : Except Stop Bool)

def perform (interpreter : Interpreter σ) : Call → Answer × Interpreter σ
  | .run => (.ran interpreter.run.1, interpreter.run.2)
  | .execute => (.executed interpreter.execute.1, interpreter.execute.2)

def performAll (interpreter : Interpreter σ) : List Call → List Answer × Interpreter σ
  | [] => ([], interpreter)
  | call :: rest =>
      let (answer, next) := interpreter.perform call
      let (answers, last) := next.performAll rest
      (answer :: answers, last)

structure Paired (start beginning : Machine σ) (first second : Interpreter σ) : Prop where
  code : first.code = second.code
  exitCode : first.exitCode = second.exitCode
  machines : start.Paired beginning first.machine second.machine

variable {start beginning : Machine σ} {first second : Interpreter σ}

theorem Paired.run (paired : Paired start beginning first second) :
    first.run.1 = second.run.1 ∧ Paired start beginning first.run.2 second.run.2 := by
  obtain ⟨same, machines⟩ := Code.callEntryPoint_lockstep (Machine.Paired.lasts first.code.natives)
    first.code.functions.length first.machine second.machine paired.machines fun _ never => never.elim
  rw [run_eq, run_eq, ← paired.code]
  generalize first.code.callEntryPoint _ first.machine = called at same machines ⊢
  generalize first.code.callEntryPoint _ second.machine = other at same machines ⊢
  rcases called with ⟨answer, machine⟩
  rcases other with ⟨reply, another⟩
  obtain rfl : answer = reply := same
  cases answer with
  | error stop => exact ⟨rfl, rfl, rfl, machines⟩
  | ok outcome => exact ⟨rfl, rfl, rfl, machines.concluded outcome.verdict⟩

theorem Paired.execute (paired : Paired start beginning first second) :
    first.execute.1 = second.execute.1 ∧ Paired start beginning first.execute.2 second.execute.2 := by
  obtain ⟨same, after⟩ := paired.run
  rw [execute_eq, execute_eq]
  generalize first.run = running at same after ⊢
  generalize second.run = other at same after ⊢
  rcases running with ⟨answer, ran⟩
  rcases other with ⟨reply, another⟩
  obtain rfl : answer = reply := same
  cases answer with
  | error stop => exact ⟨rfl, after⟩
  | ok result => exact ⟨rfl, after.code, after.exitCode, after.machines.closed result⟩

theorem Paired.perform (paired : Paired start beginning first second) (call : Call) :
    (first.perform call).1 = (second.perform call).1 ∧
      Paired start beginning (first.perform call).2 (second.perform call).2 := by
  cases call with
  | run => exact ⟨congrArg Answer.ran paired.run.1, paired.run.2⟩
  | execute => exact ⟨congrArg Answer.executed paired.execute.1, paired.execute.2⟩

theorem Paired.performAll (paired : Paired start beginning first second) (calls : List Call) :
    (first.performAll calls).1 = (second.performAll calls).1 ∧
      Paired start beginning (first.performAll calls).2 (second.performAll calls).2 := by
  induction calls generalizing first second with
  | nil => exact ⟨rfl, paired⟩
  | cons call rest ih =>
      obtain ⟨answer, next⟩ := paired.perform call
      obtain ⟨answers, last⟩ := ih next
      simp only [Interpreter.performAll, answer, answers]
      exact ⟨trivial, last⟩

end Interpreter

/-! ## What is kept -/

def Severity.level : Severity → Level
  | .error => .error
  | .warning => .warn
  | .info => .info

/-- Whether a sink kept what events show down to the level of infos: the same texts with the levels of
their severities, in the same order. -/
structure Sink.Records (sink : Sink) (events : List Event) : Prop where
  shown : sink.recorded.map (fun d => (d.severity.level, d.message, [])) =
    (events.filter (Level.info.shows ·.level)).map fun event => (event.level, event.message, event.fields)
  messages : ∀ severity,
    sink.messages severity = (events.filter (·.level = severity.level)).map Event.message

theorem Event.level_reported (d : Diagnostic) : (Event.reported d).level = d.severity.level := by
  rcases d with ⟨_ | _ | _, message⟩ <;> rfl

theorem Severity.shows_level (severity : Severity) : Level.info.shows severity.level = true := by
  cases severity <;> rfl

theorem Severity.level_inj {severity other : Severity} : severity.level = other.level ↔ severity = other := by
  cases severity <;> cases other <;> decide

theorem Event.reported_or_low (event : Event) :
    (∃ d, event = .reported d) ∨ event.diagnostic? = none ∧ Level.info.shows event.level = false := by
  cases event with
  | reported d => exact .inl ⟨d, rfl⟩
  | _ => exact .inr ⟨rfl, rfl⟩

theorem Event.filter_shown (events : List Event) :
    events.filter (Level.info.shows ·.level) = (events.filterMap Event.diagnostic?).map .reported := by
  induction events with
  | nil => rfl
  | cons event rest ih =>
      rcases event.reported_or_low with ⟨d, rfl⟩ | ⟨none, low⟩
      · have shown : Level.info.shows (Event.reported d).level = true := by rw [level_reported, d.severity.shows_level]
        rw [List.filter_cons, if_pos shown, ih]
        rfl
      · have hidden : ¬Level.info.shows event.level = true := by rw [low]; decide
        rw [List.filter_cons, if_neg hidden, List.filterMap_cons_none none, ih]

theorem Event.filter_level (severity : Severity) (events : List Event) :
    events.filter (·.level = severity.level) =
      ((events.filterMap Event.diagnostic?).filter (·.severity == severity)).map .reported := by
  have shown (event : Event) (same : event.level = severity.level) : Level.info.shows event.level := by
    rw [same, severity.shows_level]
  have level (d : Diagnostic) : decide ((Event.reported d).level = severity.level) = (d.severity == severity) := by
    rw [level_reported, Bool.beq_eq_decide_eq]
    exact decide_eq_decide.mpr Severity.level_inj
  have both : events.filter (·.level = severity.level) =
      (events.filter (Level.info.shows ·.level)).filter (·.level = severity.level) := by
    rw [List.filter_filter]
    apply List.filter_congr
    intro event _
    grind
  rw [both, filter_shown, List.filter_map]
  congr 2
  funext d
  exact level d

theorem Sink.records_of_recorded {sink : Sink} {events : List Event}
    (recorded : sink.recorded = events.filterMap Event.diagnostic?) : sink.Records events := by
  constructor
  · rw [recorded, Event.filter_shown, List.map_map]
    apply List.map_congr_left
    intro d _
    rw [Function.comp_apply, Event.level_reported]
    rfl
  · intro severity
    rw [messages, recorded, Event.filter_level, List.map_map]
    rfl

theorem Sink.recordAll_passing (diagnostics : List Diagnostic) : Sink.passing.recordAll diagnostics = .passing := by
  induction diagnostics with
  | nil => rfl
  | cons d rest ih => exact ih

theorem Sink.recorded_recordAll (diagnostics : List Diagnostic) (kept : Array Diagnostic) :
    ((Sink.recording kept).recordAll diagnostics).recorded = kept.toList ++ diagnostics := by
  induction diagnostics generalizing kept with
  | nil => exact (List.append_nil _).symm
  | cons d rest ih =>
      have next := ih (kept.push d)
      rw [Array.toList_push, List.append_assoc] at next
      exact next

/-! ## Runs with either sink -/

theorem Interpreter.create_sinks {σ : Type} {memory : Memory} {output : σ} {natives : Registry} {program : Program}
    (sink other : Sink) :
    create memory output other natives program = (create memory output sink natives program).map fun interpreter =>
      { interpreter with machine := { interpreter.machine with sink := other } } := by
  unfold create
  rcases (record program natives).run memory with ⟨failure | code, after⟩ <;> rfl

theorem Interpreter.sink_of_create {σ : Type} {memory : Memory} {output : σ} {natives : Registry} {program : Program}
    {sink : Sink} {interpreter : Interpreter σ}
    (created : create memory output sink natives program = .ok interpreter) : interpreter.machine.sink = sink := by
  rw [create] at created
  split at created
  · cases created
    rfl
  · cases created

/-- Whatever an interpreter is called for, it answers the same over a sink that records and over one
that does not, and leaves the same output, exit code, arena and log; and what was recorded is what was
logged of errors, warnings and infos. -/
theorem sinks_only_record {σ : Type} [Writer σ] (memory : Memory) (output : σ) (natives : Registry)
    (program : Program) :
    (∀ failure, Interpreter.create memory output .passing natives program = .error failure ↔
        Interpreter.create memory output .collecting natives program = .error failure) ∧
      ∀ (plain keeping : Interpreter σ) (calls : List Interpreter.Call),
        Interpreter.create memory output .passing natives program = .ok plain →
        Interpreter.create memory output .collecting natives program = .ok keeping →
        let first := plain.performAll calls
        let second := keeping.performAll calls
        first.1 = second.1 ∧ first.2.code = second.2.code ∧ first.2.exitCode = second.2.exitCode ∧
          first.2.machine.output = second.2.machine.output ∧ first.2.machine.memory = second.2.machine.memory ∧
          first.2.machine.sink = .passing ∧
          ∃ events, second.2.machine.memory.log.toList = keeping.machine.memory.log.toList ++ events ∧
            second.2.machine.sink.Records events := by
  have other := @Interpreter.create_sinks σ memory output natives program .passing .collecting
  constructor
  · intro failure
    rw [other]
    cases Interpreter.create memory output .passing natives program <;> simp [Except.map]
  · intro plain keeping calls created made
    rw [other, created] at made
    obtain rfl := Except.ok.inj made
    have paired : Interpreter.Paired plain.machine { plain.machine with sink := .collecting } plain
        { plain with machine := { plain.machine with sink := .collecting } } := ⟨rfl, rfl, .refl rfl rfl⟩
    obtain ⟨answers, after⟩ := paired.performAll calls
    obtain ⟨events, logged, further⟩ := after.machines.logged
    refine ⟨answers, after.code, after.exitCode, after.machines.output, after.machines.memory_eq rfl, ?_, events,
      further.log, Sink.records_of_recorded ?_⟩
    · rw [logged.sink, Interpreter.sink_of_create created, Sink.recordAll_passing]
    · rw [further.sink]
      exact Sink.recorded_recordAll _ #[]

/-- A variable that is not there, a text that is, a result that is no number and a flush that fails. -/
theorem sinks_only_record_mixed :
    let program : Program :=
      [.declare "main" [] [.call "print" [.variable "x"], .ret (some (.call "echo" [.text "a"]))],
        .declare "echo" ["s"] [.call "print" [.variable "s"], .ret (some (.variable "s"))]]
    let broken : OutputStream := { OutputStream.unbounded with reason := "closed", flushFailures := 1 }
    ∃ plain keeping, Interpreter.create .small broken .passing .standard program = .ok plain ∧
      Interpreter.create .small broken .collecting .standard program = .ok keeping ∧
      (keeping.performAll [.execute, .run]).2.machine.sink.messages .error =
        ["undefined variable 'x'", "print expects a string argument: expected string, found nothing",
          "function 'main' must return a number, got string", "undefined variable 'x'",
          "print expects a string argument: expected string, found nothing"] ∧
      (keeping.performAll [.execute, .run]).2.machine.sink.messages .warning = ["failed to flush output: closed"] ∧
      (plain.performAll [.execute, .run]).1 = (keeping.performAll [.execute, .run]).1 ∧
      (plain.performAll [.execute, .run]).2.machine.memory = (keeping.performAll [.execute, .run]).2.machine.memory ∧
      ∃ events, (keeping.performAll [.execute, .run]).2.machine.memory.log.toList =
          keeping.machine.memory.log.toList ++ events ∧
        (keeping.performAll [.execute, .run]).2.machine.sink.Records events := by
  intro program broken
  have works : ((Interpreter.create .small broken .collecting .standard program).toOption.map fun keeping =>
      ((keeping.performAll [.execute, .run]).2.machine.sink.messages .error,
        (keeping.performAll [.execute, .run]).2.machine.sink.messages .warning)) =
      some (["undefined variable 'x'", "print expects a string argument: expected string, found nothing",
          "function 'main' must return a number, got string", "undefined variable 'x'",
          "print expects a string argument: expected string, found nothing"],
        ["failed to flush output: closed"]) := by
    decide +kernel
  clear_value program broken
  obtain ⟨failures, same⟩ := sinks_only_record .small broken .standard program
  cases made : Interpreter.create .small broken .collecting .standard program with
  | error failure => simp [made, Except.toOption] at works
  | ok keeping =>
      cases created : Interpreter.create .small broken .passing .standard program with
      | error failure => cases made.symm.trans ((failures failure).mp created)
      | ok plain =>
          rw [made, Except.toOption, Option.map_some, Option.some.injEq, Prod.mk.injEq] at works
          obtain ⟨answers, _, _, _, memory, _, records⟩ := same plain keeping [.execute, .run] created made
          exact ⟨plain, keeping, rfl, rfl, works.1, works.2, answers, memory, records⟩

end ArenaLang
