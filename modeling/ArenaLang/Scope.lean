import ArenaLang.Arena.Buffer

namespace ArenaLang

structure Scope where
  bindings : Buffer Binding
  result : Value
  halted : Bool

namespace Scope

def empty : Scope := ⟨.empty, .nothing, false⟩

def bind (name : String) (value : Value) (scope : Scope) : MemoryM Scope :=
  return { scope with bindings := ← scope.bindings.push ⟨name, value⟩ }

def bindAll : List (String × Value) → Scope → MemoryM Scope
  | [], scope => pure scope
  | (name, value) :: rest, scope => do (← scope.bind name value).bindAll rest

def toList (scope : Scope) : MemoryM (List Binding) := scope.bindings.toList

def lookup? (name : String) (scope : Scope) : MemoryM (Option Value) :=
  return ((← scope.toList).find? (·.name == name)).map Binding.value

end Scope

end ArenaLang
