import ArenaLang.Proofs.Logging
import ArenaLang.Proofs.Printing

namespace ArenaLang

def Diagnostic.ofWriting (d : Diagnostic) : Bool :=
  d.severity = .error ∧ " failed to write output: ".toList <:+: d.message.toList

/-- Whether a handler has the same value over two writers, and reports the same but for failures of
writing, whichever attempts and flushes these take, refuse or fail. -/
def Handler.Contained (failure : Diagnostic → Bool) (σ τ : Type) [Writer σ] [Writer τ] (handler : Handler) : Prop :=
  ∀ (args : Args) (output : σ) (other : τ),
    ((handler args).run output).value = ((handler args).run other).value ∧
      ((handler args).run output).reported.filter (!failure ·) =
        ((handler args).run other).reported.filter (!failure ·)

/-! ## Native functions that only report failures -/

theorem Diagnostic.ofWriting_error (name reason : String) :
    ofWriting (.error (name ++ " failed to write output: " ++ reason)) = true := by
  have part : " failed to write output: ".toList <:+:
      (name ++ " failed to write output: " ++ reason).toList :=
    ⟨name.toList, reason.toList, by simp⟩
  exact decide_eq_true ⟨rfl, part⟩

namespace Script

variable {failure : Diagnostic → Bool} {value : Value} {reported : List Diagnostic}
  {next : Except String Unit → Script}

def Settles (failure : Diagnostic → Bool) (value : Value) (reported : List Diagnostic) (script : Script) : Prop :=
  ∀ (σ : Type) [Writer σ] (output : σ),
    (script.run output).value = value ∧ (script.run output).reported.filter (!failure ·) = reported

theorem Settles.fail (message : String) :
    (fail message).Settles failure .nothing ([Diagnostic.error message].filter (!failure ·)) :=
  fun _ _ _ => ⟨rfl, rfl⟩

theorem Settles.failed {message : String} (fails : failure (.error message) = true) :
    (Script.fail message).Settles failure .nothing [] :=
  fun _ _ _ => ⟨rfl, by simp [Script.fail, run, fails]⟩

theorem Settles.flush (settles : ∀ answer, (next answer).Settles failure value reported) :
    (Script.flush next).Settles failure value reported :=
  fun _ _ _ => settles _ _ _

theorem Settles.writeAll (settles : ∀ answer, (next answer).Settles failure value reported) (bytes : List UInt8) :
    (writeAll bytes next).Settles failure value reported := by
  intro σ _ output
  fun_induction Script.writeAll bytes next generalizing output with
  | case1 => exact settles _ σ output
  | case2 byte rest ih =>
      rw [run]
      rcases Writer.offer (byte :: rest) output with ⟨count | reason, after⟩
      · cases count with
        | zero => exact settles _ σ after
        | succ count => exact ih count after
      · exact settles _ σ after

theorem Settles.writeLine (settles : ∀ answer, (next answer).Settles failure value reported) (text : String) :
    (writeLine text next).Settles failure value reported := by
  apply Settles.writeAll
  intro answer
  cases answer with
  | error reason => exact settles _
  | ok _ => exact .writeAll settles _

end Script

namespace Native

variable {failure : Diagnostic → Bool} {σ τ : Type} [Writer σ] [Writer τ]

theorem contained_of_settles {handler : Handler}
    (settles : ∀ args, ∃ value reported, (handler args).Settles failure value reported) :
    Handler.Contained failure σ τ handler := by
  intro args output other
  obtain ⟨value, reported, settled⟩ := settles args
  exact ⟨(settled σ output).1.trans (settled τ other).1.symm, (settled σ output).2.trans (settled τ other).2.symm⟩

theorem print_contained (covers : ∀ d : Diagnostic, d.ofWriting → failure d) : Handler.Contained failure σ τ print := by
  apply contained_of_settles
  intro args
  unfold print
  split
  · exact ⟨_, _, .fail _⟩
  · split
    · exact ⟨_, _, .fail _⟩
    · refine ⟨.nothing, [], .writeLine ?_ _⟩
      intro answer
      cases answer with
      | error reason => exact .failed (covers _ (Diagnostic.ofWriting_error _ reason))
      | ok _ => exact fun _ _ _ => ⟨rfl, rfl⟩

theorem prompt_contained (covers : ∀ d : Diagnostic, d.ofWriting → failure d) :
    Handler.Contained failure σ τ prompt := by
  apply contained_of_settles
  intro args
  unfold prompt
  split
  · exact ⟨_, _, .fail _⟩
  · refine ⟨.nothing, [], .writeAll ?_ _⟩
    intro answer
    cases answer with
    | error reason => exact .failed (covers _ (Diagnostic.ofWriting_error _ reason))
    | ok _ =>
        apply Script.Settles.flush
        intro answer
        cases answer with
        | error reason => exact .failed (covers _ (Diagnostic.ofWriting_error _ reason))
        | ok _ => exact fun _ _ _ => ⟨rfl, rfl⟩

end Native

/-! ## What is left without the reports of failures -/

def Event.reports (failure : Diagnostic → Bool) : Event → Bool
  | .reported d => failure d
  | _ => false

def Event.without (failure : Diagnostic → Bool) (events : List Event) : List Event :=
  events.filter (!·.reports failure)

theorem Event.without_append (failure : Diagnostic → Bool) (events more : List Event) :
    without failure (events ++ more) = without failure events ++ without failure more := List.filter_append ..

theorem Event.without_reported (failure : Diagnostic → Bool) (diagnostics : List Diagnostic) :
    without failure (diagnostics.map .reported) = (diagnostics.filter (!failure ·)).map .reported := List.filter_map

/-! ## Two machines -/

structure Machine.Abreast {σ τ : Type} (failure : Diagnostic → Bool) (start : Machine σ) (beginning : Machine τ)
    (machine : Machine σ) (another : Machine τ) : Prop where
  arena : machine.memory.arena = another.memory.arena
  logged : ∃ events others, start.Logged machine events ∧ beginning.Logged another others ∧
    Event.without failure events = Event.without failure others

namespace Machine.Abreast

variable {σ τ : Type} {failure : Diagnostic → Bool} {start machine after : Machine σ}
  {beginning another behind : Machine τ} {events others : List Event}

theorem append (abreast : Abreast failure start beginning machine another)
    (same : after.memory.arena = behind.memory.arena) (logged : machine.Logged after events)
    (further : another.Logged behind others) (alike : Event.without failure events = Event.without failure others) :
    Abreast failure start beginning after behind := by
  obtain ⟨before, earlier, first, second, equal⟩ := abreast.logged
  refine ⟨same, before ++ events, earlier ++ others, first.trans logged, second.trans further, ?_⟩
  rw [Event.without_append, Event.without_append, equal, alike]

theorem memory {α : Type} {step : MemoryM α} (appends : step.Appends) :
    RunM.Lockstep (fun _ => False) (Abreast failure start beginning) (RunM.onMemory step) (RunM.onMemory step) := by
  intro machine another abreast _
  obtain ⟨answer, carved, events, steps⟩ := Logged.onMemory appends machine.memory.arena
  obtain ⟨later, stepped, arena, _, logged⟩ := steps machine rfl
  obtain ⟨last, followed, place, _, further⟩ := steps another abreast.arena.symm
  rw [stepped, followed]
  exact ⟨rfl, abreast.append (arena.trans place.symm) logged further rfl⟩

variable [Writer σ] [Writer τ] {natives : Registry}

theorem lasts (contained : ∀ native ∈ natives.entries, native.handler.Contained failure σ τ) :
    Machine.Lasts natives (fun _ => False) (Abreast failure start beginning) where
  memory := memory
  report d := fun machine another abreast _ => ⟨rfl, abreast.append abreast.arena (.reported d) (.reported d) rfl⟩
  perform {native} registered args := by
    intro machine another abreast _
    obtain ⟨value, reported⟩ := contained native registered args machine.output another.output
    refine ⟨?_, abreast.append ?_ (.performed _ machine) (.performed _ another) ?_⟩
    · rw [RunM.perform_apply, RunM.perform_apply]
      exact congrArg Except.ok value
    · rw [RunM.perform_apply, RunM.perform_apply, reportedAll_arena, reportedAll_arena]
      exact abreast.arena
    · rw [Event.without_reported, Event.without_reported, reported]

end Machine.Abreast

/-! ## Two runs -/

def Diagnostic.OfFlush (warnings : List Diagnostic) : Prop :=
  warnings = [] ∨ ∃ reason, warnings = [.warning ("failed to flush output: " ++ reason)]

theorem Writer.flushWarnings_ofFlush {σ : Type} [Writer σ] (output : σ) :
    Diagnostic.OfFlush (flushWarnings output) := by
  unfold flushWarnings
  split
  · exact .inl rfl
  · exact .inr ⟨_, rfl⟩

theorem Interpreter.create_alike {σ τ : Type} {memory : Memory} {natives : Registry} {program : Program} {output : σ}
    {other : τ} {sink collector : Sink} {first : Interpreter σ} {second : Interpreter τ}
    (created : create memory output sink natives program = .ok first)
    (made : create memory other collector natives program = .ok second) :
    first.code = second.code ∧ first.machine.memory = second.machine.memory := by
  rw [create] at created made
  split at created
  · rename_i code after recorded
    rw [recorded] at made
    cases created
    cases made
    exact ⟨rfl, rfl⟩
  · cases created

/-- Runs over any two writers, of one program with one arena, where native functions only report
failures of writing, as `print` does: they end alike, with one exit code and one arena, and log the
same and report the same, in the same order, but for those reports and the warning of a flush. -/
theorem output_failures_are_contained {σ τ : Type} [Writer σ] [Writer τ] {first : Interpreter σ}
    {second : Interpreter τ} {failure : Diagnostic → Bool} (code : first.code = second.code)
    (arena : first.machine.memory.arena = second.machine.memory.arena)
    (contained : ∀ native ∈ first.code.natives.entries, native.handler.Contained failure σ τ) :
    ((∀ d : Diagnostic, d.ofWriting → failure d) → Native.print.Contained failure σ τ) ∧
      first.run.1 = second.run.1 ∧ first.run.2.exitCode = second.run.2.exitCode ∧
      first.run.2.code = second.run.2.code ∧
      first.run.2.machine.memory.arena = second.run.2.machine.memory.arena ∧
      ∃ events others warnings cautions ending,
        first.machine.Logged first.run.2.machine (events ++ warnings.map .reported ++ ending) ∧
        second.machine.Logged second.run.2.machine (others ++ cautions.map .reported ++ ending) ∧
        Event.without failure events = Event.without failure others ∧
        Diagnostic.OfFlush warnings ∧ Diagnostic.OfFlush cautions := by
  refine ⟨Native.print_contained, ?_⟩
  -- Both runs conclude alike: the warning of a flush comes behind all that is compared.
  have start : Machine.Abreast failure first.machine second.machine first.machine second.machine :=
    ⟨arena, [], [], .refl _, .refl _, rfl⟩
  obtain ⟨same, abreast⟩ := Code.callEntryPoint_lockstep (Machine.Abreast.lasts contained) first.code.functions.length
    first.machine second.machine start fun _ never => never.elim
  rw [Interpreter.run_eq, Interpreter.run_eq, ← code]
  generalize first.code.callEntryPoint _ first.machine = called at same abreast ⊢
  generalize first.code.callEntryPoint _ second.machine = other at same abreast ⊢
  rcases called with ⟨answer, machine⟩
  rcases other with ⟨reply, another⟩
  obtain rfl : answer = reply := same
  obtain ⟨events, others, logged, further, alike⟩ := abreast.logged
  cases answer with
  | error stop =>
      refine ⟨rfl, rfl, rfl, abreast.arena, events, others, [], [], [], ?_, ?_, alike, .inl rfl, .inl rfl⟩
      · simpa using logged
      · simpa using further
  | ok outcome =>
      refine ⟨rfl, rfl, rfl, ?_, events, others, Writer.flushWarnings machine.output,
        Writer.flushWarnings another.output, World.exits outcome.verdict, ?_, ?_, alike,
        Writer.flushWarnings_ofFlush _, Writer.flushWarnings_ofFlush _⟩
      · rw [Machine.concluded_arena, Machine.concluded_arena]
        exact abreast.arena
      · rw [List.append_assoc]
        exact logged.trans (.concluded machine _)
      · rw [List.append_assoc]
        exact further.trans (.concluded another _)

/-- A writer that has room for two bytes and fails to flush, beside one that takes everything. -/
theorem output_failures_are_contained_full :
    let natives := Registry.standard.register "prompt" Native.prompt
    let program : Program :=
      [.declare "main" [] [.call "prompt" [.text "a"], .call "print" [.text "bc"], .ret (some (.number .zero))]]
    let full : OutputStream := { OutputStream.unbounded with limit := some 2, reason := "full", flushFailures := 2 }
    ∃ first second, Interpreter.create .small OutputStream.unbounded .collecting natives program = .ok first ∧
      Interpreter.create .small full .collecting natives program = .ok second ∧
      first.run.2.machine.sink.recorded = [] ∧
      second.run.2.machine.sink.recorded =
        [.error "prompt failed to write output: full", .error "print failed to write output: full",
          .warning "failed to flush output: full"] ∧
      (∀ native ∈ first.code.natives.entries,
        native.handler.Contained Diagnostic.ofWriting OutputStream OutputStream) ∧
      first.run.1 = .ok (.ok 0) ∧ first.run.1 = second.run.1 ∧ first.run.2.exitCode = second.run.2.exitCode ∧
      first.run.2.machine.memory.arena = second.run.2.machine.memory.arena := by
  intro natives program full
  have works : (Interpreter.create .small OutputStream.unbounded .collecting natives program).toOption.any
      (fun first => first.run.1 = .ok (.ok 0) ∧ first.run.2.machine.sink.recorded = []) = true := by
    decide +kernel
  have worksFull : (Interpreter.create .small full .collecting natives program).toOption.any
      (fun second => second.run.2.machine.sink.recorded =
        [.error "prompt failed to write output: full", .error "print failed to write output: full",
          .warning "failed to flush output: full"]) = true := by
    decide +kernel
  obtain ⟨first, created, ended, silent⟩ := exists_ok_of_any works
  obtain ⟨second, made, recorded⟩ := exists_ok_of_any worksFull
  obtain ⟨code, memory⟩ := Interpreter.create_alike created made
  have sound := (Memory.create_holds System.paged_sound Memory.small_created).sound
  obtain ⟨_, stands, _⟩ := Interpreter.create_serves sound created
  have registered : ∀ native ∈ first.code.natives.entries,
      native.handler.Contained Diagnostic.ofWriting OutputStream OutputStream := by
    rw [stands.natives]
    intro native member
    rcases List.mem_pair.mp member with rfl | rfl
    · exact Native.print_contained fun _ => id
    · exact Native.prompt_contained fun _ => id
  obtain ⟨_, result, exitCode, _, arena, _⟩ :=
    output_failures_are_contained code (congrArg Memory.arena memory) registered
  exact ⟨first, second, created, made, silent, recorded, registered, ended, result, exitCode, arena⟩

end ArenaLang
