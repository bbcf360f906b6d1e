import ArenaLang.Code

namespace ArenaLang

structure Interpreter (σ : Type) where
  code : Code
  machine : Machine σ
  exitCode : Option Int

namespace Interpreter

variable {σ : Type}

def record (program : Program) (natives : Registry) : MemoryM Code := do
  let functions ← Buffer.empty.pushAll program.declarations
  MemoryM.note (.initialized functions.length natives.size)
  return ⟨functions, natives⟩

def create (memory : Memory) (output : σ) (sink : Sink) (natives : Registry) (program : Program) :
    Except Failure (Interpreter σ) :=
  match (record program natives).run memory with
  | (.ok code, memory) => .ok ⟨code, ⟨memory, output, sink⟩, none⟩
  | (.error failure, _) => .error failure

def functions (interpreter : Interpreter σ) : MemoryM (List Declaration) :=
  interpreter.code.functions.toList

variable [Writer σ]

def flush : RunM σ Unit := do
  let machine ← get
  let (answer, output) := Writer.flush machine.output
  set { machine with output }
  match answer with
  | .ok () => return
  | .error reason => RunM.report (.warning ("failed to flush output: " ++ reason))

def runWithin (depth : Nat) (code : Code) : RunM σ (Except RunError Int) := do
  let result ← code.runWithin depth
  flush
  if let .ok exitCode := result then RunM.note (.exited exitCode)
  return result

def run (interpreter : Interpreter σ) : Except Stop (Except RunError Int) × Interpreter σ :=
  let code := interpreter.code
  match (runWithin code.functions.length code).run interpreter.machine with
  | (.ok (.ok exitCode), machine) => (.ok (.ok exitCode), ⟨code, machine, some exitCode⟩)
  | (.ok (.error error), machine) => (.ok (.error error), ⟨code, machine, none⟩)
  | (.error stop, machine) => (.error stop, ⟨code, machine, none⟩)

def execute (interpreter : Interpreter σ) : Except Stop Bool × Interpreter σ :=
  match interpreter.run with
  | (.ok (.ok _), interpreter) => (.ok true, interpreter)
  | (.ok (.error error), interpreter) =>
      let (_, machine) := (RunM.report (.error error.message)).run interpreter.machine
      (.ok false, { interpreter with machine })
  | (.error stop, interpreter) => (.error stop, interpreter)

end Interpreter

end ArenaLang
