import ArenaLang.Proofs.Transparency

namespace ArenaLang

def Code.callEntryPoint {σ : Type} [Writer σ] (code : Code) (enter : Code.Entry σ) : RunM σ Outcome :=
  code.call enter entryPoint 0 (argumentBuffer 0)

def Definitions.callEntryPointBy {σ : Type} [Writer σ] (definitions : Definitions) (enter : Definitions.Entry σ) :
    WorldM σ Outcome :=
  definitions.call enter Code.entryPoint 0 (pure [])

def Outcome.verdict : Outcome → Except RunError Int
  | .error error => .error error
  | .ok value =>
      match value.number? with
      | .ok n => .ok n.toExitCode
      | .error mismatch => .error (.exitKind Code.entryPoint mismatch.found)

theorem Definitions.callEntryPoint_eq {σ : Type} [Writer σ] (definitions : Definitions) (depth : Nat) :
    definitions.callEntryPoint (σ := σ) depth = do
      return Outcome.verdict (← definitions.callEntryPointBy (definitions.enter depth)) := by
  unfold callEntryPoint callEntryPointBy
  congr 1
  funext outcome
  cases outcome with
  | error error => rfl
  | ok value => cases number : value.number? <;> simp only [Outcome.verdict, number]

namespace Machine

variable {σ : Type}

def noted (event : Event) (machine : Machine σ) : Machine σ :=
  { machine with memory := { machine.memory with log := machine.memory.log.push event } }

def reported (d : Diagnostic) (machine : Machine σ) : Machine σ :=
  { machine.noted (.reported d) with sink := machine.sink.record d }

def reportedAll (diagnostics : List Diagnostic) (machine : Machine σ) : Machine σ :=
  diagnostics.foldl (fun machine d => machine.reported d) machine

theorem reportedAll_arena (diagnostics : List Diagnostic) (machine : Machine σ) :
    (machine.reportedAll diagnostics).memory.arena = machine.memory.arena := by
  induction diagnostics generalizing machine with
  | nil => rfl
  | cons d rest ih => exact ih (machine.reported d)

theorem reportedAll_output (diagnostics : List Diagnostic) (machine : Machine σ) :
    (machine.reportedAll diagnostics).output = machine.output := by
  induction diagnostics generalizing machine with
  | nil => rfl
  | cons d rest ih => exact ih (machine.reported d)

def closed (verdict : Except RunError Int) (machine : Machine σ) : Machine σ :=
  match verdict with
  | .ok _ => machine
  | .error error => machine.reported (.error error.message)

theorem closed_arena (verdict : Except RunError Int) (machine : Machine σ) :
    (machine.closed verdict).memory.arena = machine.memory.arena := by
  cases verdict <;> rfl

variable [Writer σ]

def flushed (machine : Machine σ) : Machine σ :=
  match Writer.flush machine.output with
  | (.ok (), output) => { machine with output }
  | (.error reason, output) => reported (.warning ("failed to flush output: " ++ reason)) { machine with output }

def concluded (verdict : Except RunError Int) (machine : Machine σ) : Machine σ :=
  match verdict with
  | .ok exitCode => machine.flushed.noted (.exited exitCode)
  | .error _ => machine.flushed

theorem flushed_arena (machine : Machine σ) : machine.flushed.memory.arena = machine.memory.arena := by
  unfold flushed
  split <;> rfl

@[simp] theorem concluded_arena (verdict : Except RunError Int) (machine : Machine σ) :
    (machine.concluded verdict).memory.arena = machine.memory.arena := by
  cases verdict <;> exact machine.flushed_arena

theorem flushed_output (machine : Machine σ) : machine.flushed.output = (Writer.flush machine.output).2 := by
  unfold flushed
  rcases Writer.flush machine.output with ⟨_ | _, output⟩ <;> rfl

theorem concluded_output (verdict : Except RunError Int) (machine : Machine σ) :
    (machine.concluded verdict).output = (Writer.flush machine.output).2 := by
  cases verdict <;> exact machine.flushed_output

end Machine

theorem RunM.reportAll_apply {σ : Type} (diagnostics : List Diagnostic) (machine : Machine σ) :
    RunM.reportAll diagnostics machine = (.ok (), machine.reportedAll diagnostics) := by
  induction diagnostics generalizing machine with
  | nil => rfl
  | cons d rest ih => exact ih (machine.reported d)

theorem RunM.perform_apply {σ : Type} [Writer σ] (script : Script) (machine : Machine σ) :
    RunM.perform script machine =
      let performance := script.run machine.output
      (.ok performance.value, { machine with output := performance.output }.reportedAll performance.reported) := by
  let performance := script.run machine.output
  show (do RunM.reportAll performance.reported; return performance.value : RunM σ Value)
    { machine with output := performance.output } = _
  rw [RunM.bind_apply, RunM.reportAll_apply]
  rfl

def Writer.flushWarnings {σ : Type} [Writer σ] (output : σ) : List Diagnostic :=
  match (Writer.flush output).1 with
  | .ok () => []
  | .error reason => [.warning ("failed to flush output: " ++ reason)]

namespace World

variable {σ : Type}

def closed (verdict : Except RunError Int) (world : World σ) : World σ :=
  match verdict with
  | .ok _ => world
  | .error error => world.noted (.reported (.error error.message))

variable [Writer σ]

def flushed (world : World σ) : World σ :=
  match Writer.flush world.output with
  | (.ok (), output) => { world with output }
  | (.error reason, output) => noted (.reported (.warning ("failed to flush output: " ++ reason))) { world with output }

def exits : Except RunError Int → List Event
  | .ok exitCode => [.exited exitCode]
  | .error _ => []

def concluded (verdict : Except RunError Int) (world : World σ) : World σ :=
  match verdict with
  | .ok exitCode => world.flushed.noted (.exited exitCode)
  | .error _ => world.flushed

theorem flushed_eq (world : World σ) :
    world.flushed =
      ⟨(Writer.flush world.output).2, world.events ++ (Writer.flushWarnings world.output).map .reported⟩ := by
  rw [flushed, Writer.flushWarnings]
  rcases Writer.flush world.output with ⟨answer, output⟩
  cases answer with
  | ok _ => exact congrArg _ (List.append_nil _).symm
  | error reason => rfl

theorem concluded_eq (verdict : Except RunError Int) (world : World σ) :
    world.concluded verdict =
      ⟨(Writer.flush world.output).2,
        world.events ++ (Writer.flushWarnings world.output).map .reported ++ exits verdict⟩ := by
  cases verdict with
  | ok exitCode => rw [concluded, flushed_eq]; rfl
  | error error => rw [concluded, flushed_eq, exits, List.append_nil]

end World

namespace Machine.Shows

variable {σ : Type} [Writer σ] {start machine : Machine σ} {world : World σ}

theorem flushed (shows : start.Shows machine world) : start.Shows machine.flushed world.flushed := by
  unfold Machine.flushed World.flushed
  rw [← shows.output]
  rcases Writer.flush machine.output with ⟨answer, output⟩
  have delivered : start.Shows { machine with output } { world with output } := ⟨rfl, shows.events, shows.sink⟩
  cases answer with
  | ok _ => exact delivered
  | error reason => exact delivered.report

theorem concluded (shows : start.Shows machine world) (verdict : Except RunError Int) :
    start.Shows (machine.concluded verdict) (world.concluded verdict) := by
  cases verdict with
  | ok exitCode => exact shows.flushed.note rfl rfl
  | error error => exact shows.flushed

omit [Writer σ] in
theorem closed (shows : start.Shows machine world) (verdict : Except RunError Int) :
    start.Shows (machine.closed verdict) (world.closed verdict) := by
  cases verdict with
  | ok exitCode => exact shows
  | error error => exact shows.report

end Machine.Shows

theorem exists_ok_of_bind {ε α β : Type} {result : Except ε α} {next : α → Option β}
    (works : (result.toOption.bind next).isSome) : ∃ a, result = .ok a ∧ (next a).isSome := by
  cases result with
  | error failure => cases works
  | ok a => exact ⟨a, rfl, works⟩

theorem exists_ok_of_any {ε α : Type} {result : Except ε α} {holds : α → Prop} [DecidablePred holds]
    (works : result.toOption.any (holds ·) = true) : ∃ a, result = .ok a ∧ holds a := by
  cases result with
  | error failure => cases works
  | ok a => exact ⟨a, rfl, of_decide_eq_true works⟩

theorem Machine.Shows.start {σ : Type} (machine : Machine σ) : machine.Shows machine ⟨machine.output, []⟩ :=
  ⟨rfl, by rw [List.append_nil], rfl⟩

/-- A call of the entry point shows what the reference says, and leaves whatever the memory holds. -/
theorem Code.callEntryPoint_ended_beside {σ : Type} [Writer σ] {code : Code} {definitions : Definitions}
    {table frame : Ledger} {machine after : Machine σ} {depth : Nat} {outcome : Outcome}
    (stands : code.Stands definitions table) (holds : machine.memory.Holds (table ++ frame))
    (called : code.callEntryPoint (code.enter depth) machine = (.ok outcome, after)) :
    ∃ world, definitions.callEntryPointBy (definitions.enter depth) ⟨machine.output, []⟩ = some (outcome, world) ∧
      machine.Shows after world ∧ after.memory.Holds (table ++ frame) := by
  have ends := callEntryPoint_agree stands (enter_agree stands depth) frame machine _ holds (.start machine)
  rw [← callEntryPoint, called] at ends
  generalize reached :
    definitions.call (definitions.enter depth) entryPoint 0 (pure []) ⟨machine.output, []⟩ = ending at ends
  cases ends with
  | done given held shows =>
      obtain ⟨rfl, rfl⟩ := given
      exact ⟨_, reached, shows, held⟩

theorem Code.callEntryPoint_ended {σ : Type} [Writer σ] {code : Code} {definitions : Definitions} {table : Ledger}
    {machine after : Machine σ} {depth : Nat} {outcome : Outcome} (stands : code.Stands definitions table)
    (holds : machine.memory.Holds table)
    (called : code.callEntryPoint (code.enter depth) machine = (.ok outcome, after)) :
    ∃ world, definitions.callEntryPointBy (definitions.enter depth) ⟨machine.output, []⟩ = some (outcome, world) ∧
      machine.Shows after world ∧ after.memory.Holds table := by
  rw [← List.append_nil table] at holds
  have ended := callEntryPoint_ended_beside stands holds called
  rwa [List.append_nil] at ended

namespace Interpreter

variable {σ : Type} [Writer σ]

open RunM

theorem flush_apply (machine : Machine σ) : flush machine = (.ok (), machine.flushed) := by
  simp only [flush, Machine.flushed, bind_apply, get_apply, set_apply]
  rcases Writer.flush machine.output with ⟨_ | _, output⟩ <;> rfl

theorem runWithin_apply (depth : Nat) (code : Code) (machine : Machine σ) :
    runWithin depth code machine =
      match code.callEntryPoint (code.enter depth) machine with
      | (.ok outcome, after) => (.ok outcome.verdict, after.concluded outcome.verdict)
      | (.error stop, after) => (.error stop, after) := by
  simp only [runWithin, Code.runWithin, Code.callEntryPoint, bind_apply]
  rcases code.call (code.enter depth) Code.entryPoint 0 (Code.argumentBuffer 0) machine with
    ⟨stop | error | value, after⟩
  · rfl
  · simp only [Outcome.verdict, Machine.concluded, pure_apply, flush_apply]
  · cases number : value.number? with
    | ok n =>
        simp only [Outcome.verdict, number, Machine.concluded, pure_apply, flush_apply]
        rfl
    | error mismatch => simp only [Outcome.verdict, number, Machine.concluded, pure_apply, flush_apply]

variable {definitions : Definitions} {interpreter after : Interpreter σ}

theorem run_eq (interpreter : Interpreter σ) :
    interpreter.run =
      match interpreter.code.callEntryPoint (interpreter.code.enter interpreter.code.functions.length)
        interpreter.machine with
      | (.ok outcome, machine) =>
          (.ok outcome.verdict,
            ⟨interpreter.code, machine.concluded outcome.verdict, outcome.verdict.toOption⟩)
      | (.error stop, machine) => (.error stop, ⟨interpreter.code, machine, none⟩) := by
  simp only [run, ExceptT.run, runWithin_apply]
  rcases interpreter.code.callEntryPoint (interpreter.code.enter interpreter.code.functions.length)
    interpreter.machine with ⟨stop | outcome, machine⟩
  · rfl
  · simp only
    generalize outcome.verdict = result
    cases result <;> rfl

theorem run_ended {result : Except RunError Int} (ended : interpreter.run = (.ok result, after)) :
    ∃ outcome machine, outcome.verdict = result ∧
      interpreter.code.callEntryPoint (interpreter.code.enter interpreter.code.functions.length)
        interpreter.machine = (.ok outcome, machine) ∧
      after = ⟨interpreter.code, machine.concluded result, result.toOption⟩ := by
  rw [run_eq] at ended
  rcases called : interpreter.code.callEntryPoint
    (interpreter.code.enter interpreter.code.functions.length) interpreter.machine with ⟨stop | outcome, machine⟩
  · rw [called] at ended
    cases ended
  · rw [called] at ended
    cases ended
    exact ⟨outcome, machine, rfl, rfl, rfl⟩

theorem execute_eq (interpreter : Interpreter σ) :
    interpreter.execute =
      match interpreter.run with
      | (.ok result, ran) => (.ok result.toOption.isSome, { ran with machine := ran.machine.closed result })
      | (.error stop, ran) => (.error stop, ran) := by
  rw [execute]
  rcases interpreter.run with ⟨stop | error | exitCode, ran⟩ <;> rfl

theorem execute_ended {success : Bool} (ended : interpreter.execute = (.ok success, after)) :
    ∃ result ran, interpreter.run = (.ok result, ran) ∧ success = result.toOption.isSome ∧
      after = { ran with machine := ran.machine.closed result } := by
  rw [execute_eq] at ended
  rcases running : interpreter.run with ⟨stop | result, ran⟩
  · rw [running] at ended
    cases ended
  · rw [running] at ended
    cases ended
    exact ⟨result, ran, rfl, rfl, rfl⟩

/-- Whether an interpreter has the functions of some definitions in its memory. -/
def Serves (interpreter : Interpreter σ) (definitions : Definitions) : Prop :=
  ∃ table, interpreter.code.Stands definitions table ∧ interpreter.machine.memory.Holds table

omit [Writer σ] in
theorem create_serves {memory : Memory} {output : σ} {sink : Sink} {natives : Registry} {program : Program}
    (sound : memory.Sound) (created : create memory output sink natives program = .ok interpreter) :
    interpreter.Serves (program.definitions natives) := by
  obtain ⟨table, stands, holds, _⟩ := create_stands (Memory.Holds.of_sound sound) created
  rw [List.append_nil] at holds
  exact ⟨table, stands, holds⟩

omit [Writer σ] in
theorem create_fresh {memory : Memory} {output : σ} {sink : Sink} {natives : Registry} {program : Program}
    (created : create memory output sink natives program = .ok interpreter) :
    interpreter.exitCode = none ∧ interpreter.machine.output = output := by
  rw [create] at created
  split at created
  · cases created
    exact ⟨rfl, rfl⟩
  · cases created

theorem run_holds {result : Except RunError Int} {table frame : Ledger}
    (stands : interpreter.code.Stands definitions table)
    (holds : interpreter.machine.memory.Holds (table ++ frame)) (ended : interpreter.run = (.ok result, after)) :
    after.machine.memory.Holds (table ++ frame) := by
  obtain ⟨outcome, machine, rfl, called, rfl⟩ := run_ended ended
  obtain ⟨_, _, _, held⟩ := Code.callEntryPoint_ended_beside stands holds called
  exact held.of_arena_eq (machine.concluded_arena _)

theorem run_serves {result : Except RunError Int} (serves : interpreter.Serves definitions)
    (ended : interpreter.run = (.ok result, after)) : after.Serves definitions := by
  obtain ⟨table, stands, holds⟩ := serves
  rw [← List.append_nil table] at holds
  have held := run_holds stands holds ended
  obtain ⟨_, _, _, _, rfl⟩ := run_ended ended
  rw [List.append_nil] at held
  exact ⟨table, stands, held⟩

theorem execute_serves {success : Bool} (serves : interpreter.Serves definitions)
    (ended : interpreter.execute = (.ok success, after)) : after.Serves definitions := by
  obtain ⟨result, ran, running, _, same⟩ := execute_ended ended
  obtain ⟨table, stands, holds⟩ := run_serves serves running
  cases same
  exact ⟨table, stands, holds.of_arena_eq (ran.machine.closed_arena result)⟩

end Interpreter

end ArenaLang
