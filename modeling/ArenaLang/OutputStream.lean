import ArenaLang.Writer

namespace ArenaLang

structure OutputStream where
  /-- Keeps all bytes until a flush; the bounds below then do not matter. -/
  buffered : Bool
  limit : Option Nat
  chunk : Option Nat
  interrupts : Nat
  /-- A full stream accepts nothing instead of failing. -/
  acceptsNothing : Bool
  reason : String
  flushFailures : Nat
  kept : Array UInt8
  written : Array UInt8

namespace OutputStream

def unbounded : OutputStream where
  buffered := false
  limit := none
  chunk := none
  interrupts := 0
  acceptsNothing := false
  reason := ""
  flushFailures := 0
  kept := #[]
  written := #[]

def capacityFor (offered : Nat) (stream : OutputStream) : Option Nat :=
  match stream.limit with
  | none => some (min offered (stream.chunk.getD offered))
  | some limit =>
      let room := limit - stream.written.size
      if room = 0 then none else some (min (min offered room) (stream.chunk.getD offered))

def answer (bytes : List UInt8) (stream : OutputStream) : Answer × OutputStream :=
  match stream.capacityFor bytes.length with
  | none => (if stream.acceptsNothing then .accepted 0 else .failed stream.reason, stream)
  | some count => (.accepted count, { stream with written := stream.written ++ bytes.take count })

def write (bytes : List UInt8) (stream : OutputStream) : Attempt × OutputStream :=
  if stream.buffered then
    (.answered (.accepted bytes.length), { stream with kept := stream.kept ++ bytes })
  else
    match stream.interrupts with
    | interrupts + 1 => (.interrupted "operation interrupted", { stream with interrupts })
    | 0 =>
        let (answer, stream) := stream.answer bytes
        (.answered answer, stream)

def flush (stream : OutputStream) : Except String Unit × OutputStream :=
  match stream.flushFailures with
  | 0 => (.ok (), { stream with kept := #[], written := stream.written ++ stream.kept })
  | failures + 1 => (.error stream.reason, { stream with flushFailures := failures })

instance : Writer OutputStream where
  write := write
  flush := flush
  patience _ stream := stream.interrupts
  patience_lt := by
    intro bytes stream reason after interrupted
    unfold write at interrupted
    split at interrupted
    · cases interrupted
    · split at interrupted
      · rename_i interrupts counted
        cases interrupted
        exact counted ▸ Nat.lt_succ_self interrupts
      · cases interrupted

end OutputStream

end ArenaLang
