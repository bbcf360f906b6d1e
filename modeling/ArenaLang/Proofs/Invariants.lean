import ArenaLang.Proofs.IndependentLists

namespace ArenaLang

namespace MemoryM

variable {α β : Type} {invariant : Memory → Prop} {step : MemoryM α} {next : α → MemoryM β}

def Preserves (invariant : Memory → Prop) (step : MemoryM α) : Prop :=
  ∀ memory, invariant memory → invariant (step memory).2

theorem Still.preserves (still : Still step) : Preserves invariant step := by
  intro memory holds
  rw [still memory]
  exact holds

theorem Still.throw (failure : Failure) : Still (throw failure : MemoryM α) := fun _ => rfl

theorem Preserves.pure (a : α) : Preserves invariant (Pure.pure a : MemoryM α) := (Still.pure a).preserves

theorem Preserves.bind (first : Preserves invariant step) (second : ∀ a, Preserves invariant (next a)) :
    Preserves invariant (step >>= next) := by
  intro memory holds
  have kept := first memory holds
  rw [bind_apply]
  rcases done : step memory with ⟨failure | a, after⟩
  · rw [done] at kept
    exact kept
  · rw [done] at kept
    exact second a after kept

theorem Preserves.after {memory after : Memory} {result : Except Failure α} (kept : Preserves invariant step)
    (holds : invariant memory) (done : step memory = (result, after)) : invariant after := by
  have last := kept memory holds
  rw [done] at last
  exact last

theorem read_still (place : Place) (count : Nat) : Still (read place count) := by
  intro memory
  rw [read, bind_ok (regions_apply memory)]
  cases memory.arena.regions[place.region]? with
  | none => rfl
  | some region => rfl

end MemoryM

open MemoryM

structure Memory.BlockInvariant (invariant : Memory → Prop) : Prop where
  allocate (layout : Layout) : Preserves invariant (allocate layout)
  write (place : Place) (cells : List Cell) : Preserves invariant (write place cells)
  reclaim (place : Place) (size : Nat) : Preserves invariant (reclaim place size)

namespace Memory.BlockInvariant

variable {invariant : Memory → Prop}

theorem reallocate (steps : BlockInvariant invariant) (old : Option Place) (layout : Layout) (size : Nat) :
    Preserves invariant (MemoryM.reallocate old layout size) := by
  unfold MemoryM.reallocate
  cases layout.resize? size with
  | none => exact (Still.refuse _).preserves
  | some resized =>
      apply (steps.allocate resized).bind
      intro new
      cases old with
      | none => exact .pure _
      | some place =>
          have release : Preserves invariant (if 0 < layout.size then do
              MemoryM.reclaim place layout.size
              return new
            else return new) := by
            split
            · exact (steps.reclaim _ _).bind fun _ => .pure _
            · exact .pure _
          simp only
          split
          · exact (read_still _ _).preserves.bind fun _ => (steps.write _ _).bind fun _ => release
          · exact release

section

variable {α : Type} [Storable α]

theorem store (steps : BlockInvariant invariant) (a : α) : Preserves invariant (MemoryM.store a) :=
  (steps.allocate _).bind fun _ => (steps.write _ _).bind fun _ => .pure _

theorem storeAll (steps : BlockInvariant invariant) (elements : List α) : Preserves invariant (MemoryM.storeAll elements) := by
  unfold MemoryM.storeAll
  cases (Storable.layoutOf α).array? elements.length with
  | none => exact (Still.refuse _).preserves
  | some layout => exact (steps.allocate layout).bind fun _ => (steps.write _ _).bind fun _ => .pure _

theorem stored (steps : BlockInvariant invariant) (a : α) : Preserves invariant (Block.stored a) :=
  (steps.store a).bind fun _ => .pure _

theorem storedAll (steps : BlockInvariant invariant) (elements : List α) :
    Preserves invariant (Block.storedAll elements) := by
  apply (steps.storeAll elements).bind
  intro slice
  split
  · exact .pure _
  · exact (Still.throw _).preserves

end

/-! ## The client -/

theorem moved (steps : BlockInvariant invariant) (old : Option Place) (layout : Layout) (size : Nat) :
    Preserves invariant (Block.moved old layout size) := by
  apply (steps.reallocate old layout size).bind
  intro place
  cases layout.resize? size with
  | none => exact (Still.throw _).preserves
  | some resized => exact .pure _

theorem finish {α : Type} {action : MemoryM α} (kept : Preserves invariant action) {client : Client}
    (holds : invariant client.memory) (answer : α → Reply) (blocks : α → List (Option Block)) :
    invariant (client.finish answer blocks (action client.memory)).2.memory := by
  rcases done : action client.memory with ⟨failure | a, memory⟩
  · exact kept.after holds done
  · exact kept.after holds done

theorem perform (steps : BlockInvariant invariant) {client : Client} (holds : invariant client.memory)
    (operation : Operation) : invariant (client.perform operation).2.memory := by
  cases operation with
  | allocate layout => exact finish ((steps.allocate layout).bind fun _ => .pure _) holds _ _
  | store a => exact finish (steps.stored a) holds _ _
  | storeAll elements => exact finish (steps.storedAll elements) holds _ _
  | storeText s => exact finish (steps.storedAll (utf8 s)) holds _ _
  | write number offset cells =>
      rw [Client.perform]
      split
      · exact holds
      · split
        · exact finish (steps.write _ _) holds _ _
        · exact holds
  | read number =>
      rw [Client.perform]
      split
      · exact holds
      · exact finish (read_still _ _).preserves holds _ _
  | reallocate number size =>
      rw [Client.perform]
      split
      · exact holds
      · exact finish (steps.moved _ _ _) holds _ _
  | reallocateEmpty layout empty size => exact finish (steps.moved none layout size) holds _ _

end Memory.BlockInvariant

structure Memory.Invariant (invariant : Memory → Prop) : Prop where
  allocate (layout : Layout) : Preserves invariant (allocate layout)
  write (place : Place) (cells : List Cell) : Preserves invariant (write place cells)
  reclaim (place : Place) (size : Nat) : Preserves invariant (reclaim place size)
  bufferGrew (old new length : Nat) : Preserves invariant (note (.bufferGrew old new length))

namespace Memory.Invariant

variable {invariant : Memory → Prop}

theorem blocks (steps : Invariant invariant) : BlockInvariant invariant := ⟨steps.allocate, steps.write, steps.reclaim⟩

section

variable {α : Type} [Storable α]

/-! ## Buffers -/

theorem grow (steps : Invariant invariant) (capacity : Nat) (buffer : Buffer α) :
    Preserves invariant (buffer.grow capacity) := by
  refine (Buffer.Still.expect _ _).preserves.bind ?_
  intro _
  refine (Buffer.Still.ofRefusal _).preserves.bind ?_
  intro old
  refine (Buffer.Still.ofRefusal _).preserves.bind ?_
  intro new
  apply (steps.blocks.reallocate _ _ _).bind
  intro place
  exact (steps.bufferGrew _ _ _).bind fun _ => .pure _

theorem withCapacity (steps : Invariant invariant) (capacity : Nat) :
    Preserves invariant (Buffer.withCapacity capacity : MemoryM (Buffer α)) := by
  unfold Buffer.withCapacity
  split
  · exact steps.grow capacity .empty
  · exact .pure _

theorem fill (steps : Invariant invariant) (elements : List α) (buffer : Buffer α) :
    Preserves invariant (buffer.fill elements) := by
  refine (Buffer.Still.expect _ _).preserves.bind ?_
  intro _
  cases buffer.place with
  | none => exact .pure _
  | some place => exact (steps.write _ _).bind fun _ => .pure _

theorem push (steps : Invariant invariant) (a : α) (buffer : Buffer α) : Preserves invariant (buffer.push a) := by
  unfold Buffer.push
  split
  · have grown : Preserves invariant buffer.growByOne := by
      refine (Buffer.Still.expect _ _).preserves.bind ?_
      intro _
      exact (Buffer.Still.ofRefusal _).preserves.bind fun capacity => steps.grow capacity buffer
    exact grown.bind fun roomy => steps.fill [a] roomy
  · exact steps.fill [a] buffer

theorem reserve (steps : Invariant invariant) (additional : Nat) (buffer : Buffer α) :
    Preserves invariant (buffer.reserve additional) := by
  unfold Buffer.reserve
  cases Word.add? buffer.length additional with
  | none => exact (Still.refuse _).preserves
  | some required =>
      simp only
      split
      · exact .pure _
      · exact (Buffer.Still.ofRefusal _).preserves.bind fun capacity => steps.grow capacity buffer

theorem action (steps : Invariant invariant) (buffer : Buffer α) (action : Buffer.Action α) :
    Preserves invariant (action.run buffer) := by
  cases action with
  | push a => exact steps.push a buffer
  | extend elements => exact (steps.reserve _ buffer).bind fun roomy => steps.fill elements roomy
  | reserve additional => exact steps.reserve additional buffer

end

/-! ## The host -/

theorem settle {α : Type} {step : MemoryM α} (kept : Preserves invariant step) {host : Host}
    (holds : invariant host.client.memory) (holdings : α → List Holding) :
    invariant (host.settle step holdings).client.memory := by
  unfold Host.settle
  rcases done : step host.client.memory with ⟨failure | a, memory⟩
  · exact kept.after holds done
  · exact kept.after holds done

variable {host next : Host}

theorem step (steps : Invariant invariant) (step : Host.Step host next) (holds : invariant host.client.memory) :
    invariant next.client.memory := by
  cases step with
  | foreign operation => exact steps.blocks.perform holds operation
  | created => exact holds
  | sized capacity => exact settle (steps.withCapacity capacity) holds _
  | @acted α _ number buffer appended held action => exact settle (steps.action buffer action) holds _
  | entered => exact holds
  | @bound number scope bindings held name value =>
      have binds : Preserves invariant (scope.bind name value) := (steps.push _ _).bind fun _ => .pure _
      exact settle binds holds _
  | frozen held => exact holds

theorem reaches (steps : Invariant invariant) (reaches : Host.Reaches host next)
    (holds : invariant host.client.memory) : invariant next.client.memory := by
  induction reaches with
  | refl => exact holds
  | tail _ last ih => exact steps.step last ih

end Memory.Invariant

end ArenaLang
