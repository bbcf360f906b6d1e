import ArenaLang.Value

namespace ArenaLang

inductive RunError where
  | unresolved (name : String)
  | arity (name : String) (expected found : Nat)
  | nested (name : String)
  | exitKind (name : String) (found : Kind)
deriving DecidableEq

def RunError.message : RunError → String
  | .unresolved name => "unresolved function '" ++ name ++ "'"
  | .arity name expected found =>
      "function '" ++ name ++ "' expects " ++ toString expected ++ " argument(s), got " ++
        toString found
  | .nested name =>
      "function '" ++ name ++
        "' is declared inside a body; declarations are only valid at the top level"
  | .exitKind name found =>
      "function '" ++ name ++ "' must return a number, got " ++ found.name

end ArenaLang
