import ArenaLang.Native.Print
import ArenaLang.OutputStream
import ArenaLang.Proofs.Evaluation
import ArenaLang.Proofs.Nesting
import ArenaLang.Proofs.StoredPrograms

namespace ArenaLang

theorem Memory.Holds.of_sound {memory : Memory} (sound : memory.Sound) : memory.Holds [] :=
  ⟨sound, by simp, .nil⟩

/-- Lays a program out in the arena of its run, and reads it from there, or leaves it elsewhere. -/
def Program.prepare (program : Program) (shared : Bool) : MemoryM (Program × Option StoredProgram) :=
  if shared then do
    let stored ← program.store
    return (← stored.load, some stored)
  else return (program, none)

inductive StoredProgram.Tree (program : Program) : Option StoredProgram → Ledger → Prop
  | elsewhere : Tree program none []
  | shared {stored : StoredProgram} {ledger : Ledger} (stands : stored.Stands program ledger) :
      Tree program (some stored) ledger

open MemoryM (Triple)

theorem Program.prepare_triple (program : Program) (shared : Bool) :
    Triple [] (program.prepare shared) fun prepared ledger =>
      prepared.1 = program ∧ StoredProgram.Tree program prepared.2 ledger := by
  unfold Program.prepare
  cases shared with
  | false => exact .pure ⟨rfl, .elsewhere⟩
  | true =>
      apply Triple.bind (Program.store_triple program)
      intro stored ledger stands
      apply Triple.bind stands.loads.triple
      rintro _ _ ⟨rfl, rfl⟩
      exact .pure ⟨rfl, .shared stands⟩

namespace Interpreter

variable {σ : Type} {memory : Memory} {ledger : Ledger} {output : σ} {sink : Sink} {natives : Registry}
  {program : Program} {interpreter : Interpreter σ}

theorem create_stands (holds : memory.Holds ledger)
    (created : create memory output sink natives program = .ok interpreter) :
    ∃ table, interpreter.code.Stands (program.definitions natives) table ∧
      interpreter.machine.memory.Holds (table ++ ledger) ∧
      (⟨memory, output, sink⟩ : Machine σ).Shows interpreter.machine (program.world natives output) := by
  have outcome := Buffer.pushAll_triple Buffer.empty_stands program.declarations ledger memory holds
  simp only [create, ExceptT.run, record, MemoryM.bind_apply] at created
  generalize (Buffer.empty.pushAll program.declarations) memory = result at outcome created
  cases outcome with
  | refused _ _ => cases created
  | @done functions after table evolves stands held =>
      cases created
      have length : functions.length = program.declarations.length := stands.length_eq
      have start : (⟨memory, output, sink⟩ : Machine σ).Shows ⟨after, output, sink⟩ ⟨output, []⟩ :=
        ⟨rfl, by rw [evolves.log_ofRun, List.append_nil], rfl⟩
      refine ⟨table, ⟨stands, rfl⟩, held.of_arena_eq rfl, ?_⟩
      rw [Program.world, ← length]
      exact start.note rfl rfl

variable [Writer σ] {start : Machine σ} {definitions : Definitions} {table : Ledger} {world : World σ}

theorem run_endsLike (stands : interpreter.code.Stands definitions table)
    (holds : interpreter.machine.memory.Holds (table ++ ledger)) (shows : start.Shows interpreter.machine world) :
    RunM.EndsLike start ledger (fun a b _ => a = b) (interpreter.run.1, interpreter.run.2.machine)
      (definitions.runWithin definitions.functions.length world) := by
  have ends := ((runWithin_agree stands definitions.functions.length).imp fun _ _ given same =>
    ⟨given, same.1, .refl _⟩) ledger interpreter.machine world holds shows
  simp only [run, ExceptT.run, stands.functions.length_eq]
  generalize runWithin definitions.functions.length interpreter.code interpreter.machine = result at ends ⊢
  rcases result with ⟨stop | error | exitCode, machine⟩
  · exact ends
  · exact ends
  · exact ends

end Interpreter

/-- A run that is not refused memory shows what the reference says, whatever the arena is like, and
if it reads its program from the arena, the program is still there behind it. -/
theorem run_shows_reference {σ : Type} [Writer σ] {before memory : Memory} {program given : Program}
    {shared : Bool} {tree : Option StoredProgram} {output : σ} {sink : Sink} {natives : Registry}
    {interpreter : Interpreter σ} (sound : before.Sound)
    (prepared : program.prepare shared before = (.ok (given, tree), memory))
    (created : Interpreter.create memory output sink natives given = .ok interpreter)
    (accepted : ∀ refusal, interpreter.run.1 ≠ .error (.memory (.refused refusal))) :
    (∀ result world,
      (interpreter.run.1 = .ok result ∧
          (⟨memory, output, sink⟩ : Machine σ).Shows interpreter.run.2.machine world) ↔
        program.Ends natives output result world) ∧
      ∀ stored ∈ tree, (stored.load interpreter.run.2.machine.memory).1 = .ok program := by
  have outcome := Program.prepare_triple program shared [] before (Memory.Holds.of_sound sound)
  rw [prepared] at outcome
  obtain @⟨_, _, ledger, _, ⟨same, laid⟩, holds⟩ := outcome
  cases same
  rw [List.append_nil] at holds
  obtain ⟨table, stands, held, shows⟩ := Interpreter.create_stands holds created
  have ends := Interpreter.run_endsLike stands held shows
  constructor
  · intro result world
    rw [Program.ends_iff]
    exact ends.shows_iff accepted result world
  · intro stored member
    cases laid with
    | elsewhere => cases member
    | shared intact =>
        cases member
        rw [intact.loads _ ends.holds]

/-- A program that lies in the small arena of its own run, which grows under it. -/
theorem run_shows_reference_shared :
    let program : Program := [.declare "main" [] [.call "print" [.text "a"], .ret (some (.variable "x"))]]
    ∃ given tree memory interpreter, Memory.small.Sound ∧
      program.prepare true .small = (.ok (given, tree), memory) ∧
      Interpreter.create memory OutputStream.unbounded .collecting .standard given = .ok interpreter ∧
      interpreter.run.1 = .ok (.error (.exitKind "main" .nothing)) ∧
      interpreter.run.2.machine.output.written.toList = utf8 "a\n" ∧
      interpreter.run.2.machine.sink.recorded = [.error "undefined variable 'x'"] ∧
      (∀ refusal, interpreter.run.1 ≠ .error (.memory (.refused refusal))) ∧
      (∀ result world,
        (interpreter.run.1 = .ok result ∧
            (⟨memory, .unbounded, .collecting⟩ : Machine OutputStream).Shows interpreter.run.2.machine world) ↔
          program.Ends .standard .unbounded result world) ∧
        ∀ stored ∈ tree, (stored.load interpreter.run.2.machine.memory).1 = .ok program := by
  intro program
  have works : ((program.prepare true .small).1.toOption.bind fun laid =>
      (Interpreter.create (program.prepare true .small).2 OutputStream.unbounded .collecting .standard
        laid.1).toOption.map fun interpreter =>
          (interpreter.run.1, interpreter.run.2.machine.output.written.toList,
            interpreter.run.2.machine.sink.recorded)) =
      some (.ok (.error (.exitKind "main" .nothing)), utf8 "a\n", [.error "undefined variable 'x'"]) := by
    decide +kernel
  have sound := (Memory.create_holds System.paged_sound Memory.small_created).sound
  rcases prepared : program.prepare true .small with ⟨failure | ⟨given, tree⟩, memory⟩
  · rw [prepared] at works
    cases works
  · rw [prepared, Except.toOption, Option.bind_some] at works
    cases created : Interpreter.create memory OutputStream.unbounded .collecting .standard given with
    | error failure =>
        rw [created] at works
        cases works
    | ok interpreter =>
        simp only [created, Except.toOption, Option.map_some, Option.some.injEq, Prod.mk.injEq] at works
        obtain ⟨ended, written, recorded⟩ := works
        have accepted : ∀ refusal, interpreter.run.1 ≠ .error (.memory (.refused refusal)) := by
          intro refusal refused
          rw [refused] at ended
          cases ended
        exact ⟨given, tree, memory, interpreter, sound, rfl, created, ended, written, recorded, accepted,
          run_shows_reference sound prepared created accepted⟩

end ArenaLang
