import ArenaLang.Proofs.Bookkeeping

namespace ArenaLang

open MemoryM

def Event.isGrowth : Event → Bool
  | .bufferGrew .. => true
  | _ => false

namespace Memory

def growths (memory : Memory) : List Event := memory.log.toList.filter Event.isGrowth

variable {memory after : Memory}

theorem growths_push {event : Event} (log : after.log = memory.log.push event) :
    after.growths = memory.growths ++ [event].filter Event.isGrowth := by
  rw [growths, log, Array.toList_push, List.filter_append]
  rfl

theorem Changes.growths (changes : memory.Changes after) : after.growths = memory.growths := by
  cases changes with
  | silent => rfl
  | grew size fresh => exact (growths_push rfl).trans (List.append_nil _)
  | rewound => exact (growths_push rfl).trans (List.append_nil _)

theorem growths_invariant (growths : List Event) : BlockInvariant fun memory => memory.growths = growths where
  allocate layout memory same := (Changes.allocate memory layout).growths.trans same
  write place cells memory same := (Changes.write memory place cells).growths.trans same
  reclaim place size memory same := (Changes.reclaim memory place size).growths.trans same

end Memory

namespace Buffer

/-- Events that lead from one capacity to another: each starts from what the one before came to, with
no more elements than there was room for. -/
inductive Chain : Nat → List Event → Nat → Prop
  | nil (capacity : Nat) : Chain capacity [] capacity
  | cons {old new length last : Nat} {events : List Event} (room : length ≤ old) (larger : old < new)
      (rest : Chain new events last) : Chain old (.bufferGrew old new length :: events) last

theorem Chain.append {first middle last : Nat} {events more : List Event} (chain : Chain first events middle)
    (further : Chain middle more last) : Chain first (events ++ more) last := by
  induction chain with
  | nil => exact further
  | cons room larger _ ih => exact .cons room larger (ih further)

variable {α : Type} [Storable α]

inductive Grows (buffer : Buffer α) (spare : Nat) (memory : Memory) : Except Failure (Buffer α) × Memory → Prop
  | done {next : Buffer α} {after : Memory} {events : List Event} (room : next.length + spare ≤ next.capacity)
      (logged : after.growths = memory.growths ++ events) (chain : Chain buffer.capacity events next.capacity) :
      Grows buffer spare memory (.ok next, after)
  | failed {failure : Failure} {after : Memory} (logged : after.growths = memory.growths) :
      Grows buffer spare memory (.error failure, after)

variable {buffer : Buffer α} {spare capacity : Nat} {memory : Memory}

omit [Storable α] in
theorem Grows.unchanged (room : buffer.length + spare ≤ buffer.capacity) (memory : Memory) :
    buffer.Grows spare memory (.ok buffer, memory) := .done room (List.append_nil _).symm (.nil _)

omit [Storable α] in
theorem Grows.mono {fewer : Nat} {result : Except Failure (Buffer α) × Memory}
    (grows : buffer.Grows spare memory result) (le : fewer ≤ spare) : buffer.Grows fewer memory result := by
  cases grows with
  | done room logged chain => exact .done (Nat.le_trans (Nat.add_le_add_left le _) room) logged chain
  | failed logged => exact .failed logged

theorem grow_grows (full : buffer.length ≤ buffer.capacity) (enough : buffer.length + spare ≤ capacity)
    (memory : Memory) : buffer.Grows spare memory (buffer.grow capacity memory) := by
  by_cases larger : buffer.capacity < capacity
  · rw [grow, bind_ok (expect_of (decide_eq_true larger) _ memory)]
    cases blockLayout α buffer.capacity with
    | error refusal => exact .failed rfl
    | ok old =>
        cases blockLayout α capacity with
        | error refusal => exact .failed rfl
        | ok new =>
            have quiet := (Memory.growths_invariant memory.growths).reallocate buffer.place old new.size memory rfl
            change buffer.Grows spare memory ((reallocate buffer.place old new.size >>= fun place => do
              note (.bufferGrew buffer.capacity capacity buffer.length)
              return { buffer with place := some place, capacity }) memory)
            rcases moving : reallocate buffer.place old new.size memory with ⟨failure | place, moved⟩
            · rw [moving] at quiet
              rw [bind_error moving]
              exact .failed quiet
            · rw [moving] at quiet
              rw [bind_ok moving]
              exact .done enough ((Memory.growths_push rfl).trans (quiet ▸ rfl)) (.cons full larger (.nil _))
  · rw [grow, decide_eq_false larger]
    exact .failed rfl

theorem growByOne_grows (full : buffer.length = buffer.capacity) (memory : Memory) :
    buffer.Grows 1 memory (buffer.growByOne memory) := by
  rw [growByOne_of_full full]
  cases made : nextCapacity buffer.capacity with
  | error refusal => exact .failed rfl
  | ok next =>
      have larger := lt_of_nextCapacity made
      exact grow_grows (Nat.le_of_eq full) (by omega) memory

theorem reserve_grows (room : buffer.length ≤ buffer.capacity) (additional : Nat) (memory : Memory) :
    buffer.Grows additional memory (buffer.reserve additional memory) := by
  unfold reserve
  cases sum : Word.add? buffer.length additional with
  | none => exact .failed rfl
  | some required =>
      obtain ⟨_, rfl⟩ := Word.add?_eq_some_iff.mp sum
      by_cases enough : buffer.length + additional ≤ buffer.capacity
      · simp only [if_pos enough]
        exact .unchanged enough memory
      · simp only [if_neg enough]
        cases made : capacityFor (buffer.length + additional) buffer.capacity with
        | error refusal => exact .failed rfl
        | ok capacity => exact grow_grows room (le_of_capacityFor made) memory

theorem Grows.fill {elements : List α} {step : MemoryM (Buffer α)}
    (grows : buffer.Grows elements.length memory (step memory)) :
    buffer.Grows 0 memory ((step >>= fun roomy => roomy.fill elements) memory) := by
  rw [bind_apply]
  generalize step memory = result at grows ⊢
  cases grows with
  | failed logged => exact .failed logged
  | @done next after events room logged chain =>
      obtain ⟨last, filled, _, log⟩ := fill_of_room room after
      simp only [filled]
      have same : last.growths = after.growths := by rw [Memory.growths, log, Memory.growths]
      exact .done room (same.trans logged) chain

theorem action_grows (room : buffer.length ≤ buffer.capacity) (action : Action α) (memory : Memory) :
    buffer.Grows 0 memory (action.run buffer memory) := by
  cases action with
  | push a =>
      rw [Action.run, push]
      split
      · rename_i full
        exact (growByOne_grows full memory).fill
      · rename_i notFull
        have enough : buffer.length + [a].length ≤ buffer.capacity := Nat.lt_of_le_of_ne room notFull
        have roomy : buffer.Grows [a].length memory ((pure buffer : MemoryM (Buffer α)) memory) :=
          .unchanged enough memory
        exact roomy.fill
  | extend elements => exact (reserve_grows room elements.length memory).fill
  | reserve additional => exact (reserve_grows room additional memory).mono (Nat.zero_le _)

theorem withCapacity_grows (capacity : Nat) (memory : Memory) :
    (empty : Buffer α).Grows 0 memory (withCapacity capacity memory) := by
  unfold withCapacity
  split
  · exact grow_grows (Nat.zero_le _) (Nat.zero_le _) memory
  · exact .unchanged (Nat.zero_le _) memory

end Buffer

end ArenaLang
