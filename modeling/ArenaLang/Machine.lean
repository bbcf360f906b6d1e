import ArenaLang.RunError
import ArenaLang.Native.Registry
import ArenaLang.Scope
import ArenaLang.Sink

namespace ArenaLang

inductive Stop where
  | memory (failure : Failure)
  | nestedTooDeep
deriving DecidableEq

structure Machine (σ : Type) where
  memory : Memory
  output : σ
  sink : Sink

abbrev RunM (σ : Type) := ExceptT Stop (StateM (Machine σ))

namespace RunM

variable {σ : Type}

def onMemory {α : Type} (step : MemoryM α) : RunM σ α := fun machine =>
  match step machine.memory with
  | (.ok a, memory) => (.ok a, { machine with memory })
  | (.error failure, memory) => (.error (.memory failure), { machine with memory })

def note (event : Event) : RunM σ Unit := onMemory (MemoryM.note event)

def report (d : Diagnostic) : RunM σ Unit :=
  modify fun machine =>
    let (sink, log) := machine.sink.deliver d machine.memory.log
    { machine with memory := { machine.memory with log }, sink }

def reportAll : List Diagnostic → RunM σ Unit
  | [] => pure ()
  | d :: rest => do
      report d
      reportAll rest

def perform [Writer σ] (script : Script) : RunM σ Value := do
  let performance := script.run (← get).output
  modify fun machine => { machine with output := performance.output }
  reportAll performance.reported
  return performance.value

end RunM

end ArenaLang
