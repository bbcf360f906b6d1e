import ArenaLang.Machine

/-!
# Evaluation

A name is looked up among the native functions and then among the declared ones. Arguments are
evaluated from left to right in the caller's scope into a buffer of just their number; a declared
function is then entered with a scope of its own that binds its parameters. An expression always
has a value: what is wrong in it is reported, and the value is nothing. A statement that goes wrong
ends the body, and so the calls around it up to the next expression.

Evaluation takes as a parameter how a declared function is entered. `Code.enter` is that function
for a given depth of nesting, by recursion on the depth.
-/

namespace ArenaLang

abbrev Outcome := Except RunError Value

structure Code where
  functions : Buffer Declaration
  natives : Registry

inductive Callee where
  | native (handler : Handler)
  | declared (function : Declaration)

namespace Code

variable {σ : Type}

open RunM

def lookup? (name : String) (code : Code) : MemoryM (Option Declaration) :=
  return (← code.functions.toList).find? (·.name == name)

def resolve (name : String) (code : Code) : RunM σ (Option Callee) :=
  match code.natives.lookup? name with
  | some native => pure (some (.native native.handler))
  | none => return (← onMemory (code.lookup? name)).map .declared

abbrev Entry (σ : Type) := Declaration → List Value → RunM σ Outcome

def argumentBuffer (count : Nat) : RunM σ (Buffer Value) := onMemory (Buffer.withCapacity count)

def recover (d : Diagnostic) : RunM σ Value := do
  report d
  return .nothing

variable [Writer σ]

/-- Calls a function by name, with a number of arguments that are evaluated once it is known what is
called and, for a declared function, that it takes so many. -/
def call (code : Code) (enter : Entry σ) (name : String) (count : Nat)
    (arguments : RunM σ (Buffer Value)) : RunM σ Outcome := do
  match ← code.resolve name with
  | none => return .error (.unresolved name)
  | some callee =>
      note (.called name count)
      match callee with
      | .native handler =>
          let values ← onMemory (← arguments).toList
          return .ok (← perform (handler ⟨name, values⟩))
      | .declared function =>
          if function.arity = count then
            enter function (← onMemory (← arguments).toList)
          else return .error (.arity function.name function.arity count)

mutual

def evaluate (code : Code) (enter : Entry σ) (scope : Scope) : Expr → RunM σ Value
  | .number n => pure (.number n)
  | .text s => pure (.text s)
  | .variable name => do
      match ← onMemory (scope.lookup? name) with
      | some value => return value
      | none => recover (.error ("undefined variable '" ++ name ++ "'"))
  | .call function arguments => do
      match ← code.call enter function arguments.length do
        code.evaluateAll enter scope arguments (← argumentBuffer arguments.length) with
      | .ok value => return value
      | .error error => recover (.error error.message)

def evaluateAll (code : Code) (enter : Entry σ) (scope : Scope) :
    List Expr → Buffer Value → RunM σ (Buffer Value)
  | [], buffer => pure buffer
  | e :: rest, buffer => do
      let value ← code.evaluate enter scope e
      code.evaluateAll enter scope rest (← onMemory (buffer.push value))

end

def execute (code : Code) (enter : Entry σ) (scope : Scope) :
    Stmt → RunM σ (Except RunError Scope)
  | .ret none => return .ok { scope with halted := true }
  | .ret (some e) => do
      let result ← code.evaluate enter scope e
      return .ok { scope with halted := true, result }
  | .call function arguments => do
      match ← code.call enter function arguments.length do
        code.evaluateAll enter scope arguments (← argumentBuffer arguments.length) with
      | .ok _ => return .ok scope
      | .error error => return .error error
  | .declare name _ _ => return .error (.nested name)

def executeAll (code : Code) (enter : Entry σ) (scope : Scope) :
    List Stmt → RunM σ (Except RunError Scope)
  | [] => return .ok scope
  | statement :: rest => do
      match ← code.execute enter scope statement with
      | .error error => return .error error
      | .ok scope => if scope.halted then return .ok scope else code.executeAll enter scope rest

/-- One activation of a function, in which calls enter other functions as they are said to. -/
def activate (code : Code) (nested : Entry σ) : Entry σ := fun function values => do
  let scope ← onMemory (Scope.empty.bindAll (function.params.zip values))
  match ← code.executeAll nested scope function.body with
  | .ok scope => return .ok scope.result
  | .error error => return .error error

def enter (code : Code) : Nat → Entry σ
  | 0 => fun _ _ => throw .nestedTooDeep
  | depth + 1 => code.activate (code.enter depth)

def entryPoint : String := "main"

def runWithin (code : Code) (depth : Nat) : RunM σ (Except RunError Int) := do
  match ← code.call (code.enter depth) entryPoint 0 (argumentBuffer 0) with
  | .error error => return .error error
  | .ok value =>
      match value.number? with
      | .ok n => return .ok n.toExitCode
      | .error mismatch => return .error (.exitKind entryPoint mismatch.found)

end Code

end ArenaLang
