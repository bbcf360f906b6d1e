import ArenaLang.Proofs.Accepting
import ArenaLang.Proofs.Following

namespace ArenaLang

namespace Interpreter

variable {σ : Type} [Writer σ] {definitions : Definitions} {created current after : Interpreter σ}
  {results : List (Except RunError Int)} {result : Except RunError Int}

inductive Advances (current : Interpreter σ) (result : Except RunError Int) : Interpreter σ → Prop
  | run {after : Interpreter σ} (ended : current.run = (.ok result, after)) : Advances current result after
  | execute {success : Bool} {ran after : Interpreter σ} (running : current.run = (.ok result, ran))
      (ended : current.execute = (.ok success, after)) : Advances current result after

inductive History (created : Interpreter σ) : List (Except RunError Int) → Interpreter σ → Prop
  | created : History created [] created
  | advance {results : List (Except RunError Int)} {result : Except RunError Int} {current after : Interpreter σ}
      (history : History created results current) (advances : current.Advances result after) :
      History created (results ++ [result]) after

/-! ## One run -/

/-- How a run concludes: what it wrote and logged before was settled by the call of the entry point;
then the output is flushed, which may be warned of, and an exit code is logged last. That flush comes
once, behind all uses that native functions make of the output, and is the only one unless they flush
themselves. -/
structure Concludes (definitions : Definitions) (current : Interpreter σ) (result : Except RunError Int)
    (after : Interpreter σ) (world : World σ) (accesses : List Access) : Prop where
  called : definitions.callEntryPoint definitions.functions.length ⟨current.machine.output, []⟩ = some (result, world)
  accessed : definitions.natives.Accesses accesses current.machine.output world.output
  output : after.machine.output = Writer.through (accesses ++ [.flush]) current.machine.output
  flushes : definitions.natives.Unflushing → List.count Access.flush (accesses ++ [.flush]) = 1
  shows : current.machine.Shows after.machine
    ⟨(Writer.flush world.output).2,
      world.events ++ (Writer.flushWarnings world.output).map .reported ++ World.exits result⟩
  exitCode : after.exitCode = result.toOption

theorem Concludes.shows_of_flushed {world : World σ} {accesses : List Access}
    (concludes : Concludes definitions current result after world accesses)
    (flushes : (Writer.flush world.output).1 = .ok ()) :
    current.machine.Shows after.machine ⟨after.machine.output, world.events ++ World.exits result⟩ := by
  have silent : Writer.flushWarnings world.output = [] := by rw [Writer.flushWarnings, flushes]
  have output : after.machine.output = (Writer.flush world.output).2 := concludes.shows.output
  have shows := concludes.shows
  rw [silent, List.map_nil, List.append_nil, ← output] at shows
  exact shows

theorem run_concludes (serves : current.Serves definitions) (ended : current.run = (.ok result, after)) :
    ∃ world accesses, Concludes definitions current result after world accesses := by
  obtain ⟨outcome, k, world, _, _, verdict, reference, took⟩ := run_took serves ended
  obtain ⟨_, _, _, _, same⟩ := run_ended ended
  obtain ⟨accesses, accessed⟩ := (World.Keeps.of_goes took.goes).output
  have shows := took.shows
  rw [World.concluded_eq] at shows
  refine ⟨world, accesses, ?_, accessed, ?_, ?_, shows, by rw [same]⟩
  · rw [Definitions.callEntryPoint_eq, WorldM.bind_apply, reference, Option.bind_some, verdict]
    rfl
  -- The flush of the run itself comes behind what native functions did to the output.
  · rw [shows.output, Writer.through_append, ← accessed.through]
    rfl
  · intro unflushing
    rw [List.count_append, List.count_eq_zero.mpr (accessed.not_flush unflushing)]
    rfl

structure Closes (result : Except RunError Int) (ran : Interpreter σ) (success : Bool) (after : Interpreter σ) :
    Prop where
  success_iff : success = true ↔ ∃ exitCode, result = .ok exitCode
  shows : ∀ {start : Machine σ} {world : World σ}, start.Shows ran.machine world →
    start.Shows after.machine ⟨world.output, world.events ++ (closingReports result).map Mishap.event⟩
  exitCode : after.exitCode = ran.exitCode

theorem execute_closes {success : Bool} (ended : current.execute = (.ok success, after)) :
    ∃ result ran, current.run = (.ok result, ran) ∧ Closes result ran success after := by
  obtain ⟨result, ran, running, answer, same⟩ := execute_ended ended
  cases same
  refine ⟨result, ran, running, ?_, fun shows => ?_, rfl⟩
  · cases result <;> simp [answer, Except.toOption]
  · rw [← World.closed_eq]
    exact shows.closed result

theorem run_fixed {accepts : σ → Prop} {bytes : σ → List UInt8} (accepting : Writer.Accepting accepts bytes)
    (definitions : Definitions) (flushes : Writer.Steady accepts ∨ definitions.natives.Unflushing) :
    ∃ result written events, ∀ (current after : Interpreter σ) (other : Except RunError Int),
      current.Serves definitions → accepts current.machine.output → current.run = (.ok other, after) →
      other = result ∧ ∃ world accesses, Concludes definitions current result after world accesses ∧
        world.events = events ∧ accepts after.machine.output ∧ bytes after.machine.output = bytes current.machine.output ++ written := by
  cases Definitions.callEntryPoint_fixed (Registry.fixed accepting flushes) definitions.functions.length with
  | never none =>
      refine ⟨.ok 0, [], [], fun current after other serves ok ended => ?_⟩
      obtain ⟨world, accesses, concludes⟩ := run_concludes serves ended
      have called := concludes.called
      rw [none _ ok] at called
      cases called
  | always result written events does =>
      refine ⟨result, written, events, fun current after other serves ok ended => ?_⟩
      obtain ⟨world, accesses, concludes⟩ := run_concludes serves ended
      obtain ⟨later, called, still, all⟩ := does ⟨current.machine.output, []⟩ ok
      have same := concludes.called
      rw [called, Option.some.injEq, Prod.mk.injEq] at same
      obtain ⟨rfl, rfl⟩ := same
      have flushed := accepting.flush later still
      have output : after.machine.output = (Writer.flush later).2 := concludes.shows.output
      rw [← output] at flushed
      exact ⟨rfl, _, accesses, concludes, List.nil_append events, flushed.1, flushed.2.trans all⟩

/-! ## All runs -/

theorem Advances.ran (advances : current.Advances result after) :
    ∃ ran, current.run = (.ok result, ran) ∧ after.code = current.code ∧ after.exitCode = result.toOption ∧
      after.machine.output = ran.machine.output := by
  cases advances with
  | run ended =>
      obtain ⟨_, _, _, _, same⟩ := run_ended ended
      exact ⟨after, ended, by rw [same], by rw [same], rfl⟩
  | @execute success ran _ running ended =>
      obtain ⟨_, _, again, _, closed⟩ := execute_ended ended
      rw [running] at again
      cases again
      obtain ⟨_, _, _, _, same⟩ := run_ended running
      have output : (ran.machine.closed result).output = ran.machine.output := by cases result <;> rfl
      exact ⟨ran, running, by rw [closed, same], by rw [closed, same], by rw [closed, output]⟩

theorem Advances.serves (serves : current.Serves definitions) (advances : current.Advances result after) :
    after.Serves definitions := by
  cases advances with
  | run ended => exact run_serves serves ended
  | execute running ended => exact execute_serves serves ended

namespace History

theorem serves (serves : created.Serves definitions) (history : created.History results current) :
    current.Serves definitions := by
  induction history with
  | created => exact serves
  | advance history advances ih => exact advances.serves ih

theorem code (history : created.History results current) : current.code = created.code := by
  induction history with
  | created => rfl
  | advance history advances ih =>
      obtain ⟨_, _, code, _⟩ := advances.ran
      exact code.trans ih

theorem exitCode (fresh : created.exitCode = none) (history : created.History results current) :
    current.exitCode = results.getLast?.bind Except.toOption := by
  cases history with
  | created => exact fresh
  | advance history advances =>
      obtain ⟨_, _, _, exitCode, _⟩ := advances.ran
      rw [exitCode, List.getLast?_concat]
      rfl

theorem output {holds : σ → Prop} (history : created.History results current) (start : holds created.machine.output)
    (step : ∀ results current result after, created.History results current → holds current.machine.output →
      current.run = (.ok result, after) → holds after.machine.output) : holds current.machine.output := by
  induction history with
  | created => exact start
  | advance history advances ih =>
      obtain ⟨_, ended, _, _, output⟩ := advances.ran
      rw [output]
      exact step _ _ _ _ history ih ended

theorem results_eq {fixed : Except RunError Int} (history : created.History results current)
    (step : ∀ results current result after, created.History results current →
      current.run = (.ok result, after) → result = fixed) : ∀ earlier ∈ results, earlier = fixed := by
  induction history with
  | created => simp
  | advance history advances ih =>
      obtain ⟨_, ended, _⟩ := advances.ran
      intro earlier member
      rcases List.mem_append.mp member with before | last
      · exact ih earlier before
      · exact (List.mem_singleton.mp last).trans (step _ _ _ _ history ended)

end History

end Interpreter

/-- After any runs and executions, an interpreter has the functions and natives it was made with, and
the exit code of its last run, if that had one. Each further run flushes once, behind all the program
wrote and reported; each further execution reports an error last. Over a writer that accepts
everything, all runs have the same result, write the same and log the same: native functions that
flush could tell runs apart only by the answers to that. -/
theorem life_cycle {σ : Type} [Writer σ] {memory : Memory} {output : σ} {sink : Sink} {natives : Registry}
    {program : Program} {created : Interpreter σ} (sound : memory.Sound)
    (made : Interpreter.create memory output sink natives program = .ok created) :
    (∀ results current, created.History results current →
      current.exitCode = results.getLast?.bind Except.toOption ∧
      current.code = created.code ∧ current.code.natives = natives ∧
      (current.functions current.machine.memory).1 = .ok program.declarations ∧
      (∀ result after, current.run = (.ok result, after) →
        ∃ world accesses, Interpreter.Concludes (program.definitions natives) current result after world accesses) ∧
      ∀ success after, current.execute = (.ok success, after) →
        ∃ result ran, current.run = (.ok result, ran) ∧ Interpreter.Closes result ran success after) ∧
    ∀ accepts bytes, Writer.Accepting accepts bytes → accepts output →
      (Writer.Steady accepts ∨ natives.Unflushing) →
      ∃ result written events, ∀ results current, created.History results current →
        (∀ earlier ∈ results, earlier = result) ∧
        ∀ other after, current.run = (.ok other, after) → other = result ∧
          bytes after.machine.output = bytes current.machine.output ++ written ∧
          ∃ world accesses,
            Interpreter.Concludes (program.definitions natives) current result after world accesses ∧
            world.events = events ∧
            ((Writer.flush world.output).1 = .ok () →
              current.machine.Shows after.machine ⟨after.machine.output, events ++ World.exits result⟩) := by
  have serves := Interpreter.create_serves sound made
  obtain ⟨fresh, start⟩ := Interpreter.create_fresh made
  constructor
  · intro results current history
    have serving := history.serves serves
    have ⟨table, stands, holds⟩ := serving
    have table : current.functions current.machine.memory = (.ok program.declarations, current.machine.memory) :=
      stands.functions.loads _ holds
    exact ⟨history.exitCode fresh, history.code, stands.natives, by rw [table],
      fun _ _ ended => Interpreter.run_concludes serving ended, fun _ _ ended => Interpreter.execute_closes ended⟩
  · intro accepts bytes accepting ok flushes
    obtain ⟨result, written, events, fixed⟩ :=
      Interpreter.run_fixed accepting (program.definitions natives) flushes
    refine ⟨result, written, events, ?_⟩
    have accepted {results : List (Except RunError Int)} {current : Interpreter σ}
        (history : created.History results current) : accepts current.machine.output := by
      apply history.output (start.symm ▸ ok)
      intro _ current _ after history ok ended
      obtain ⟨_, _, _, _, _, still, _⟩ := fixed current after _ (history.serves serves) ok ended
      exact still
    intro results current history
    constructor
    · apply history.results_eq
      intro _ current _ after history ended
      exact (fixed current after _ (history.serves serves) (accepted history) ended).1
    · intro other after ended
      obtain ⟨same, world, accesses, concludes, logged, _, all⟩ :=
        fixed current after other (history.serves serves) (accepted history) ended
      exact ⟨same, all, world, accesses, concludes, logged, fun flushes => logged ▸ concludes.shows_of_flushed flushes⟩

/-- Two of four flushes are made by a native function, and the first three of them fail. -/
theorem life_cycle_twice :
    let natives := Registry.standard.register "prompt" Native.prompt
    let program : Program := [.declare "main" [] [.call "prompt" [.text "a"], .ret (some (.number .zero))]]
    let failing : OutputStream := { OutputStream.unbounded with flushFailures := 3, reason := "closed" }
    (∃ created current, Memory.small.Sound ∧ Interpreter.create .small failing .collecting natives program = .ok created ∧
      created.History [.ok 0, .ok 0] current ∧ current.exitCode = some 0 ∧ current.code = created.code ∧
      current.machine.output.flushFailures = 0 ∧
      current.machine.sink.recorded =
        [.error "prompt failed to write output: closed", .warning "failed to flush output: closed",
          .error "prompt failed to write output: closed"] ∧
      ∀ result after, current.run = (.ok result, after) →
        ∃ world accesses, Interpreter.Concludes (program.definitions natives) current result after world accesses) ∧
    ∃ created current, Interpreter.create .small OutputStream.unbounded .collecting natives program = .ok created ∧
      created.History [.ok 0, .ok 0] current ∧ current.machine.output.written.toList = utf8 "aa" ∧
      ∃ result, ∀ results later, created.History results later → ∀ earlier ∈ results, earlier = result := by
  intro natives program failing
  have sound := (Memory.create_holds System.paged_sound Memory.small_created).sound
  have twice {created : Interpreter OutputStream} (first : created.run.1 = .ok (.ok 0))
      (second : created.run.2.run.1 = .ok (.ok 0)) (success : created.run.2.execute.1 = .ok true) :
      created.History ([.ok 0] ++ [.ok 0]) created.run.2.execute.2 :=
    .advance (.advance .created (.run (Prod.ext first rfl))) (.execute (Prod.ext second rfl) (Prod.ext success rfl))
  constructor
  · have works : (Interpreter.create .small failing .collecting natives program).toOption.any (fun created =>
        created.run.1 = .ok (.ok 0) ∧ created.run.2.run.1 = .ok (.ok 0) ∧ created.run.2.execute.1 = .ok true ∧
          created.run.2.execute.2.machine.output.flushFailures = 0 ∧
          created.run.2.execute.2.machine.sink.recorded =
            [.error "prompt failed to write output: closed", .warning "failed to flush output: closed",
              .error "prompt failed to write output: closed"]) = true := by
      decide +kernel
    obtain ⟨created, made, first, second, success, flushes, recorded⟩ := exists_ok_of_any works
    have history := twice first second success
    obtain ⟨exitCode, code, _, _, concludes, _⟩ := (life_cycle sound made).1 _ _ history
    exact ⟨created, _, sound, made, history, exitCode, code, flushes, recorded, concludes⟩
  · have works : (Interpreter.create .small OutputStream.unbounded .collecting natives program).toOption.any
        (fun created =>
          created.run.1 = .ok (.ok 0) ∧ created.run.2.run.1 = .ok (.ok 0) ∧ created.run.2.execute.1 = .ok true ∧
            created.run.2.execute.2.machine.output.written.toList = utf8 "aa") = true := by
      decide +kernel
    obtain ⟨created, made, first, second, success, written⟩ := exists_ok_of_any works
    obtain ⟨result, _, _, same⟩ :=
      (life_cycle sound made).2 _ _ OutputStream.accepting ⟨rfl, rfl, rfl, rfl, rfl, rfl⟩ (.inl OutputStream.steady)
    exact ⟨created, _, made, twice first second success, written, result,
      fun results later history => (same _ _ history).1⟩

end ArenaLang
