import ArenaLang.Value
import ArenaLang.Diagnostic
import ArenaLang.Writer

/-!
# Scripts

What a native function does is a script: it uses the program's output and goes on as that answers,
reports diagnostics, and ends with a value. A script knows nothing of the writer it is run over, and
it comes to an end whatever the writer answers: a function that may never return has none.
-/

namespace ArenaLang

inductive Script where
  | done (value : Value)
  /-- Makes one attempt to write. -/
  | attempt (bytes : List UInt8) (next : Attempt → Script)
  /-- Attempts to write until it is answered. -/
  | offer (bytes : List UInt8) (next : Answer → Script)
  | flush (next : Except String Unit → Script)
  | report (diagnostic : Diagnostic) (next : Script)

structure Performance (σ : Type) where
  value : Value
  output : σ
  reported : List Diagnostic

namespace Script

variable {σ : Type} [Writer σ]

def run : Script → σ → Performance σ
  | .done value, output => ⟨value, output, []⟩
  | .attempt bytes next, output =>
      let (attempted, output) := Writer.write bytes output
      run (next attempted) output
  | .offer bytes next, output =>
      let (answer, output) := Writer.offer bytes output
      run (next answer) output
  | .flush next, output =>
      let (answer, output) := Writer.flush output
      run (next answer) output
  | .report diagnostic next, output =>
      let performance := run next output
      { performance with reported := diagnostic :: performance.reported }

def nothingAccepted : String := "failed to write whole buffer"

/-- Offers what is left again and again until all is accepted, an answer is a failure, or nothing is
accepted. -/
def writeAll (bytes : List UInt8) (next : Except String Unit → Script) : Script :=
  match bytes with
  | [] => next (.ok ())
  | byte :: rest =>
      .offer (byte :: rest) fun
        | .failed reason => next (.error reason)
        | .accepted 0 => next (.error nothingAccepted)
        | .accepted (count + 1) => writeAll (rest.drop count) next
termination_by bytes.length
decreasing_by simp only [List.length_drop, List.length_cons]; omega

def writeText (text : String) (next : Except String Unit → Script) : Script :=
  writeAll (utf8 text) next

def writeLine (text : String) (next : Except String Unit → Script) : Script :=
  writeText text fun
    | .error reason => next (.error reason)
    | .ok () => writeText "\n" next

def fail (message : String) : Script := .report (.error message) (.done .nothing)

end Script

end ArenaLang
