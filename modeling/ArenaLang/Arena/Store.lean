import ArenaLang.Arena.Allocate
import ArenaLang.Arena.Storable
import ArenaLang.Writer

namespace ArenaLang.MemoryM

variable {α : Type} [Storable α]

def store (a : α) : MemoryM Place := do
  let place ← allocate (Storable.layoutOf α)
  write place (Storable.encode a)
  return place

/-- Puts values into memory in a row. Even a row of none is carved. -/
def storeAll (elements : List α) : MemoryM Slice := do
  match (Storable.layoutOf α).array? elements.length with
  | none => refuse (.tooLarge (elements.length * Storable.widthOf α))
  | some layout =>
      let place ← allocate layout
      write place (Storable.encodeAll elements)
      return ⟨some place, elements.length⟩

def storeText (s : String) : MemoryM Slice := storeAll (utf8 s)

def readSlice (width : Nat) (slice : Slice) : MemoryM (List Cell) :=
  match slice.place with
  | none => pure []
  | some place => read place (slice.length * width)

def found {β : Type} : Option β → MemoryM β
  | some b => pure b
  | none => throw (.faulty .unreadable)

def load (α : Type) [Storable α] (place : Place) : MemoryM α := do
  found (Storable.decode? (← read place (Storable.widthOf α)))

def loadAll (α : Type) [Storable α] (slice : Slice) : MemoryM (List α) := do
  found (Storable.decodeAll? slice.length (← readSlice (Storable.widthOf α) slice))

def loadText (slice : Slice) : MemoryM String := do
  let bytes ← loadAll UInt8 slice
  found (String.fromUTF8? ⟨bytes.toArray⟩)

end ArenaLang.MemoryM
