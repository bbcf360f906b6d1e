import ArenaLang.Arena.Store

namespace ArenaLang

structure Buffer (α : Type) where
  place : Option Place
  length : Nat
  capacity : Nat

namespace Buffer

variable {α : Type} [Storable α]

def empty : Buffer α where
  place := none
  length := 0
  capacity := if Storable.widthOf α = 0 then Word.greatest else 0

def isEmpty (buffer : Buffer α) : Bool := buffer.length = 0

def toSlice (buffer : Buffer α) : Slice := ⟨buffer.place, buffer.length⟩

def overflow (capacity : Nat) : Refusal := .tooLarge (Word.mulClamped capacity 8)

def leastCapacity : Nat := 4

def nextCapacity (capacity : Nat) : Except Refusal Nat :=
  match Word.mul? capacity 2 with
  | none => .error (overflow capacity)
  | some doubled => .ok (max doubled leastCapacity)

def doubleUntil (required capacity : Nat) (positive : 0 < capacity) : Except Refusal Nat :=
  if capacity < required then
    if capacity * 2 < Word.limit then
      doubleUntil required (capacity * 2) (Nat.mul_pos positive (by decide))
    else .error (overflow capacity)
  else .ok capacity
termination_by required - capacity

theorem nextCapacity_pos {capacity next : Nat} (h : nextCapacity capacity = .ok next) : 0 < next := by
  unfold nextCapacity leastCapacity at h
  split at h <;> cases h
  omega

def capacityFor (required capacity : Nat) : Except Refusal Nat :=
  match h : nextCapacity capacity with
  | .error refusal => .error refusal
  | .ok next => doubleUntil required next (nextCapacity_pos h)

def blockLayout (α : Type) [Storable α] (capacity : Nat) : Except Refusal Layout :=
  match (Storable.layoutOf α).array? capacity with
  | none => .error (overflow capacity)
  | some layout => .ok layout

def ofRefusal {β : Type} : Except Refusal β → MemoryM β
  | .ok b => pure b
  | .error refusal => MemoryM.refuse refusal

def expect (condition : Bool) (fault : Fault) : MemoryM Unit :=
  if condition then pure () else throw (.faulty fault)

def grow (capacity : Nat) (buffer : Buffer α) : MemoryM (Buffer α) := do
  expect (buffer.capacity < capacity) .growthTooSmall
  let old ← ofRefusal (blockLayout α buffer.capacity)
  let new ← ofRefusal (blockLayout α capacity)
  let place ← MemoryM.reallocate buffer.place old new.size
  MemoryM.note (.bufferGrew buffer.capacity capacity buffer.length)
  return { buffer with place := some place, capacity }

def withCapacity (capacity : Nat) : MemoryM (Buffer α) :=
  if (empty : Buffer α).capacity < capacity then (empty : Buffer α).grow capacity
  else pure empty

def growByOne (buffer : Buffer α) : MemoryM (Buffer α) := do
  expect (buffer.length = buffer.capacity) .roomLeft
  buffer.grow (← ofRefusal (nextCapacity buffer.capacity))

def fill (elements : List α) (buffer : Buffer α) : MemoryM (Buffer α) := do
  expect (buffer.length + elements.length ≤ buffer.capacity) .behindBuffer
  match buffer.place with
  | none => pure ()
  | some place =>
      MemoryM.write ⟨place.region, place.offset + buffer.length * Storable.widthOf α⟩
        (Storable.encodeAll elements)
  return { buffer with length := buffer.length + elements.length }

def push (a : α) (buffer : Buffer α) : MemoryM (Buffer α) := do
  let roomy ← if buffer.length = buffer.capacity then buffer.growByOne else pure buffer
  roomy.fill [a]

def reserve (additional : Nat) (buffer : Buffer α) : MemoryM (Buffer α) :=
  match Word.add? buffer.length additional with
  | none => MemoryM.refuse (overflow Word.greatest)
  | some required => do
      if required ≤ buffer.capacity then return buffer
      buffer.grow (← ofRefusal (capacityFor required buffer.capacity))

def extend (elements : List α) (buffer : Buffer α) : MemoryM (Buffer α) := do
  (← buffer.reserve elements.length).fill elements

def pushAll : List α → Buffer α → MemoryM (Buffer α)
  | [], buffer => pure buffer
  | a :: rest, buffer => do (← buffer.push a).pushAll rest

def toList (buffer : Buffer α) : MemoryM (List α) := MemoryM.loadAll α buffer.toSlice

def get? (index : Nat) (buffer : Buffer α) : MemoryM (Option α) := return (← buffer.toList)[index]?

end Buffer

end ArenaLang
