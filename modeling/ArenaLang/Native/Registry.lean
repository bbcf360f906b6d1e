import ArenaLang.Native.Script

namespace ArenaLang

structure Args where
  name : String
  values : List Value

def Args.value (args : Args) (index : Nat) : Value := args.values.getD index .nothing

abbrev Handler := Args → Script

structure Native where
  name : String
  handler : Handler

structure Registry where
  entries : List Native

namespace Registry

def empty : Registry := ⟨[]⟩

def register (name : String) (handler : Handler) (registry : Registry) : Registry :=
  ⟨registry.entries ++ [⟨name, handler⟩]⟩

def lookup? (name : String) (registry : Registry) : Option Native :=
  registry.entries.find? (·.name == name)

def size (registry : Registry) : Nat := registry.entries.length

def isEmpty (registry : Registry) : Bool := registry.entries.isEmpty

def names (registry : Registry) : List String := registry.entries.map Native.name

def inspect (registry : Registry) : String :=
  let entry (name : String) : String :=
    "Builtin \x7b name: " ++ Text.quoted name ++ " \x7d"
  "BuiltinRegistry \x7b entries: [" ++ ", ".intercalate (registry.names.map entry) ++ "] \x7d"

end Registry

end ArenaLang
