import ArenaLang.Event

namespace ArenaLang

inductive Sink where
  | passing
  | recording (diagnostics : Array Diagnostic)

namespace Sink

def collecting : Sink := .recording #[]

def record (d : Diagnostic) : Sink → Sink
  | .passing => .passing
  | .recording diagnostics => .recording (diagnostics.push d)

def recorded : Sink → List Diagnostic
  | .passing => []
  | .recording diagnostics => diagnostics.toList

def isEmpty (sink : Sink) : Bool := sink.recorded.isEmpty

def messages (severity : Severity) (sink : Sink) : List String :=
  (sink.recorded.filter (·.severity == severity)).map Diagnostic.message

def deliver (d : Diagnostic) (sink : Sink) (log : Log) : Sink × Log :=
  (sink.record d, log.push (.reported d))

end Sink

end ArenaLang
