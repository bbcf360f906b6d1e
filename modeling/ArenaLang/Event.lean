import ArenaLang.Diagnostic

namespace ArenaLang

inductive Level where
  | error
  | warn
  | info
  | debug
  | trace
deriving DecidableEq

namespace Level

def name : Level → String
  | .error => "ERROR"
  | .warn => "WARN"
  | .info => "INFO"
  | .debug => "DEBUG"
  | .trace => "TRACE"

def rank : Level → Nat
  | .error => 0
  | .warn => 1
  | .info => 2
  | .debug => 3
  | .trace => 4

def shows (kept event : Level) : Bool := event.rank ≤ kept.rank

end Level

inductive Event where
  | arenaCreated (capacity : Nat)
  | arenaGrew (size capacity regions : Nat)
  | blockReclaimed (size cursor : Nat)
  | arenaReleased (regions capacity used : Nat)
  | bufferGrew (oldCapacity newCapacity length : Nat)
  | initialized (functions natives : Nat)
  | called (function : String) (arguments : Nat)
  | exited (code : Int)
  | reported (diagnostic : Diagnostic)
deriving DecidableEq

inductive Field where
  | number (n : Int)
  | text (s : String)
deriving DecidableEq

namespace Event

def level : Event → Level
  | .arenaCreated .. | .arenaReleased .. | .initialized .. | .exited .. => .debug
  | .arenaGrew .. | .blockReclaimed .. | .bufferGrew .. | .called .. => .trace
  | .reported ⟨.error, _⟩ => .error
  | .reported ⟨.warning, _⟩ => .warn
  | .reported ⟨.info, _⟩ => .info

def message : Event → String
  | .arenaCreated .. => "arena created"
  | .arenaGrew .. => "arena grew"
  | .blockReclaimed .. => "arena reclaimed block"
  | .arenaReleased .. => "arena released"
  | .bufferGrew .. => "ArenaVec grew"
  | .initialized .. => "interpreter initialized"
  | .called .. => "call"
  | .exited .. => "program exited"
  | .reported d => d.message

def fields : Event → List (String × Field)
  | .arenaCreated capacity => [("capacity", .number capacity)]
  | .arenaGrew size capacity regions =>
      [("size", .number size), ("capacity", .number capacity), ("regions", .number regions)]
  | .blockReclaimed size cursor => [("size", .number size), ("cursor", .number cursor)]
  | .arenaReleased regions capacity used =>
      [("regions", .number regions), ("capacity", .number capacity), ("used", .number used)]
  | .bufferGrew oldCapacity newCapacity length =>
      [("old_cap", .number oldCapacity), ("new_cap", .number newCapacity), ("len", .number length)]
  | .initialized functions natives =>
      [("functions", .number functions), ("builtins", .number natives)]
  | .called function arguments => [("function", .text function), ("args", .number arguments)]
  | .exited code => [("code", .number code)]
  | .reported _ => []

end Event

abbrev Log := Array Event

namespace Log

def shownAt (level : Level) (log : Log) : List Event := log.toList.filter (level.shows ·.level)

end Log

end ArenaLang
