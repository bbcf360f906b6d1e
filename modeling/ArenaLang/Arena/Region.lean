import ArenaLang.Layout
import ArenaLang.Arena.Tape

namespace ArenaLang

/-- What the code relies on without testing for it. In a well-formed arena no fault ever occurs. -/
inductive Fault where
  | belowRegion
  | addressOverflow
  | rewindPastStart
  | growthTooSmall
  | roomLeft
  | behindBuffer
  | unreadable
deriving DecidableEq

structure Region where
  base : Nat
  capacity : Nat
  cursor : Nat
  tape : Tape

namespace Region

def alignment : Nat := 16

def fresh (base capacity : Nat) : Region := ⟨base, capacity, 0, .empty⟩

def remaining (region : Region) : Nat := region.capacity - region.cursor

def address (start distance : Nat) : Except Fault Nat :=
  match Word.add? start distance with
  | some sum => .ok sum
  | none => .error .addressOverflow

def carve (layout : Layout) (region : Region) : Except Fault (Option (Nat × Region)) :=
  match Word.add? region.base region.cursor with
  | none => .ok none
  | some current =>
      match Word.roundUp? current layout.align with
      | none => .ok none
      | some aligned =>
          if aligned < region.base then .error .belowRegion
          else
            let offset := aligned - region.base
            match Word.add? offset layout.size with
            | none => .ok none
            | some behind =>
                if region.capacity < behind then .ok none
                else .ok (some (offset, { region with cursor := behind }))

def contains (offset : Nat) (region : Region) : Except Fault Bool := do
  let start ← address region.base offset
  let behind ← address region.base region.capacity
  return start < behind

def endsAtCursor (offset size : Nat) (region : Region) : Except Fault Bool := do
  let start ← address region.base offset
  let behind ← address start size
  let current ← address region.base region.cursor
  return behind = current

def rewind (size : Nat) (region : Region) : Except Fault Region :=
  if region.cursor < size then .error .rewindPastStart
  else .ok { region with cursor := region.cursor - size }

def reclaim? (offset size : Nat) (region : Region) : Except Fault (Option Region) := do
  if ← region.contains offset then
    if ← region.endsAtCursor offset size then
      return some (← region.rewind size)
  return none

def write (offset : Nat) (cells : List Cell) (region : Region) : Region :=
  { region with tape := region.tape.write offset cells }

def read (offset count : Nat) (region : Region) : List Cell := region.tape.read offset count

end Region

end ArenaLang
