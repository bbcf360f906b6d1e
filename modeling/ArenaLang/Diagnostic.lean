namespace ArenaLang

inductive Severity where
  | error
  | warning
  | info
deriving DecidableEq

def Severity.name : Severity → String
  | .error => "error"
  | .warning => "warning"
  | .info => "info"

structure Diagnostic where
  severity : Severity
  message : String
deriving DecidableEq

namespace Diagnostic

def error (message : String) : Diagnostic := ⟨.error, message⟩

def warning (message : String) : Diagnostic := ⟨.warning, message⟩

def info (message : String) : Diagnostic := ⟨.info, message⟩

def display (d : Diagnostic) : String := d.severity.name ++ ": " ++ d.message

end Diagnostic

end ArenaLang
