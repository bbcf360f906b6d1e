/-!
# Writers

A writer takes bytes and keeps or passes them on. All that can be done with one comes down to two
methods: an attempt to write some bytes, and a flush, which asks it to deliver what it still keeps.
An attempt that is interrupted took nothing and may be made again. No writer interrupts the same
attempt for ever, as `patience` bounds.
-/

namespace ArenaLang

inductive Answer where
  | accepted (count : Nat)
  | failed (reason : String)
deriving DecidableEq

inductive Attempt where
  | answered (answer : Answer)
  | interrupted (reason : String)
deriving DecidableEq

class Writer (σ : Type) where
  write : List UInt8 → σ → Attempt × σ
  flush : σ → Except String Unit × σ
  patience : List UInt8 → σ → Nat
  patience_lt : ∀ {bytes output reason after},
    write bytes output = (.interrupted reason, after) → patience bytes after < patience bytes output

def Writer.offer {σ : Type} [Writer σ] (bytes : List UInt8) (output : σ) : Answer × σ :=
  match _ : write bytes output with
  | (.answered answer, after) => (answer, after)
  | (.interrupted _, after) => offer bytes after
termination_by patience bytes output
decreasing_by exact patience_lt ‹_›

def utf8 (s : String) : List UInt8 := s.toUTF8.data.toList

end ArenaLang
