import ArenaLang.Proofs.Refusal
import ArenaLang.Proofs.Storing
import Mathlib.Data.List.ReduceOption

namespace ArenaLang

inductive Operation : Type 1 where
  | allocate (layout : Layout)
  | store {α : Type} [Storable α] (a : α)
  | storeAll {α : Type} [Storable α] (elements : List α)
  | storeText (s : String)
  | write (number offset : Nat) (cells : List Cell)
  | read (number : Nat)
  | reallocate (number size : Nat)
  /-- Reallocates a block of no bytes that never had a place. -/
  | reallocateEmpty (layout : Layout) (empty : layout.size = 0) (size : Nat)

inductive Reply where
  | made (number : Nat)
  | written
  | cells (cells : List Cell)
  | refused (refusal : Refusal)
  /-- The operation breaks the rules and is not carried out. -/
  | misused
  | faulty (fault : Fault)

def Reply.ofFailure : Failure → Reply
  | .refused refusal => .refused refusal
  | .faulty fault => .faulty fault

structure Client where
  memory : Memory
  blocks : List (Option Block)

namespace Block

def allocated (layout : Layout) : MemoryM Block := return ⟨← MemoryM.allocate layout, layout⟩

def stored {α : Type} [Storable α] (a : α) : MemoryM Block :=
  return ⟨← MemoryM.store a, Storable.layoutOf α⟩

def storedAll {α : Type} [Storable α] (elements : List α) : MemoryM Block := do
  let slice ← MemoryM.storeAll elements
  match slice.place, (Storable.layoutOf α).array? slice.length with
  | some place, some layout => return ⟨place, layout⟩
  | _, _ => throw (.faulty .unreadable)

def moved (old : Option Place) (layout : Layout) (size : Nat) : MemoryM Block := do
  let place ← MemoryM.reallocate old layout size
  match layout.resize? size with
  | some resized => return ⟨place, resized⟩
  | none => throw (.faulty .unreadable)

end Block

namespace Client

def start (memory : Memory) : Client := ⟨memory, []⟩

def block? (number : Nat) (client : Client) : Option Block := client.blocks[number]?.join

def live (client : Client) : List Block := client.blocks.reduceOption

def finish {α : Type} (client : Client) (answer : α → Reply) (blocks : α → List (Option Block)) :
    Except Failure α × Memory → Reply × Client
  | (.ok a, memory) => (answer a, ⟨memory, blocks a⟩)
  | (.error failure, memory) => (.ofFailure failure, ⟨memory, client.blocks⟩)

def add (client : Client) (kept : List (Option Block)) : Except Failure Block × Memory → Reply × Client :=
  client.finish (fun _ => .made client.blocks.length) fun block => kept ++ [some block]

def perform (client : Client) : Operation → Reply × Client
  | .allocate layout => client.add client.blocks (Block.allocated layout client.memory)
  | @Operation.store _ _ a => client.add client.blocks (Block.stored a client.memory)
  | @Operation.storeAll _ _ elements => client.add client.blocks (Block.storedAll elements client.memory)
  | .storeText s => client.add client.blocks (Block.storedAll (utf8 s) client.memory)
  | .write number offset cells =>
      match client.block? number with
      | none => (.misused, client)
      | some block =>
          if offset + cells.length ≤ block.layout.size then
            client.finish (fun _ => .written) (fun _ => client.blocks)
              (MemoryM.write ⟨block.place.region, block.place.offset + offset⟩ cells client.memory)
          else (.misused, client)
  | .read number =>
      match client.block? number with
      | none => (.misused, client)
      | some block =>
          client.finish .cells (fun _ => client.blocks)
            (MemoryM.read block.place block.layout.size client.memory)
  | .reallocate number size =>
      match client.block? number with
      | none => (.misused, client)
      | some block =>
          client.add (client.blocks.set number none)
            (Block.moved (some block.place) block.layout size client.memory)
  | .reallocateEmpty layout _ size =>
      client.add client.blocks (Block.moved none layout size client.memory)

def run (client : Client) : List Operation → List Reply × Client
  | [] => ([], client)
  | operation :: rest =>
      let (answer, client) := client.perform operation
      let (answers, client) := client.run rest
      (answer :: answers, client)

end Client

/-! ## Making blocks -/

namespace Block

open MemoryM

theorem allocated_triple (layout : Layout) :
    Triple [] (allocated layout) fun block ledger =>
      ∃ cells, ledger = [⟨block, cells⟩] ∧ block.layout = layout := by
  apply Triple.bind (allocate_triple layout)
  rintro place _ ⟨cells, rfl⟩
  exact .pure ⟨cells, rfl, rfl⟩

theorem stored_triple {α : Type} [Storable α] (a : α) :
    Triple [] (stored a) fun block ledger => ledger = [⟨block, Storable.encode a⟩] := by
  apply Triple.bind (store_triple a)
  rintro place _ rfl
  exact .pure rfl

theorem storedAll_triple {α : Type} [Storable α] (elements : List α) :
    Triple [] (storedAll elements) fun block ledger =>
      ledger = [⟨block, Storable.encodeAll elements⟩] := by
  apply Triple.bind (storeAll_triple elements)
  rintro slice ledger ⟨found⟩
  simp only [found]
  exact .pure rfl

theorem moved_triple (entry : Entry) (size : Nat) :
    Triple [entry] (moved (some entry.place) entry.layout size) fun block ledger =>
      ∃ cells, ledger = [⟨block, cells⟩] ∧ block.layout.size = size ∧
        cells.take (min entry.layout.size size) = entry.cells.take (min entry.layout.size size) := by
  apply Triple.bind (reallocate_triple entry size)
  rintro place _ ⟨layout, cells, found, rfl, kept⟩
  simp only [found]
  exact .pure ⟨cells, rfl, (Layout.resize?_eq_some found).1, kept⟩

theorem moved_none_triple (layout : Layout) (size : Nat) :
    Triple [] (moved none layout size) fun block ledger =>
      ∃ cells, ledger = [⟨block, cells⟩] ∧ block.layout.size = size := by
  apply Triple.bind (reallocate_none_triple layout size)
  rintro place _ ⟨resized, cells, found, rfl⟩
  simp only [found]
  exact .pure ⟨cells, rfl, (Layout.resize?_eq_some found).1⟩

theorem moved_atomic (old : Option Place) (layout : Layout) (size : Nat) :
    Atomic (moved old layout size) := by
  apply (reallocate_atomic old layout size).then_steady
  intro place
  cases layout.resize? size with
  | none => exact .faulty _
  | some resized => exact .pure _

end Block

end ArenaLang
