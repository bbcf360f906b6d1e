import ArenaLang.Proofs.Chains

namespace ArenaLang

open MemoryM

structure Watched : Type 1 where
  {α : Type}
  [storable : Storable α]
  buffer : Buffer α
  growths : List Event

instance (watched : Watched) : Storable watched.α := watched.storable

structure Scene : Type 1 where
  memory : Memory
  watched : List Watched

def Memory.growthsUntil (memory after : Memory) : List Event := after.growths.drop memory.growths.length

namespace Scene

def start (memory : Memory) : Scene := ⟨memory, []⟩

/-- What is done in a scene: something that concerns no buffer that is watched, a new buffer, or an
action on one; what fails may have changed the memory. -/
inductive Step (apart : Memory → Memory → Prop) (scene : Scene) : Scene → Prop
  | apart {after : Memory} (step : apart scene.memory after) : Step apart scene { scene with memory := after }
  | created {α : Type} [Storable α] :
      Step apart scene { scene with watched := scene.watched ++ [⟨(Buffer.empty : Buffer α), []⟩] }
  | sized {α : Type} [Storable α] {capacity : Nat} {buffer : Buffer α} {after : Memory}
      (done : Buffer.withCapacity capacity scene.memory = (.ok buffer, after)) :
      Step apart scene ⟨after, scene.watched ++ [⟨buffer, scene.memory.growthsUntil after⟩]⟩
  | unsized {α : Type} [Storable α] {capacity : Nat} {failure : Failure} {after : Memory}
      (failed : (Buffer.withCapacity capacity : MemoryM (Buffer α)) scene.memory = (.error failure, after)) :
      Step apart scene { scene with memory := after }
  | acted {α : Type} [Storable α] {number : Nat} {buffer next : Buffer α} {growths : List Event}
      {action : Buffer.Action α} {after : Memory} (held : scene.watched[number]? = some ⟨buffer, growths⟩)
      (done : action.run buffer scene.memory = (.ok next, after)) :
      Step apart scene ⟨after, scene.watched.set number ⟨next, growths ++ scene.memory.growthsUntil after⟩⟩
  | failed {α : Type} [Storable α] {number : Nat} {buffer : Buffer α} {growths : List Event}
      {action : Buffer.Action α} {failure : Failure} {after : Memory}
      (held : scene.watched[number]? = some ⟨buffer, growths⟩)
      (failed : action.run buffer scene.memory = (.error failure, after)) :
      Step apart scene ⟨after, scene.watched.set number ⟨buffer, growths ++ scene.memory.growthsUntil after⟩⟩

abbrev Reaches (apart : Memory → Memory → Prop) : Scene → Scene → Prop := Relation.ReflTransGen (Step apart)

end Scene

def Memory.Quiet (memory after : Memory) : Prop := memory.Step after ∧ after.growths = memory.growths

namespace Memory

variable {memory after : Memory}

theorem Quiet.noted {event : Event} (other : event.ofRegions = false) (quiet : event.isGrowth = false) :
    memory.Quiet (note event memory).2 := by
  refine ⟨.noted other, (growths_push rfl).trans ?_⟩
  rw [List.filter_cons_of_neg (Bool.eq_false_iff.mp quiet), List.filter_nil, List.append_nil]

end Memory

namespace Scene

variable {scene next start : Scene} {apart : Memory → Memory → Prop}

theorem Reaches.blocks (start : Scene) (watched : List Watched) :
    Memory.BlockInvariant fun memory => start.Reaches Memory.Quiet ⟨memory, watched⟩ where
  allocate layout memory reached :=
    reached.tail (.apart ⟨.allocated layout, (Memory.Changes.allocate memory layout).growths⟩)
  write place cells memory reached :=
    reached.tail (.apart ⟨.written place cells, (Memory.Changes.write memory place cells).growths⟩)
  reclaim place size memory reached :=
    reached.tail (.apart ⟨.reclaimed place size, (Memory.Changes.reclaim memory place size).growths⟩)

theorem Step.memory (sound : ∀ {memory after}, apart memory after → memory.Reaches after)
    (step : Step apart scene next) : scene.memory.Reaches next.memory := by
  have steps := Memory.Reaches.invariant scene.memory
  cases step with
  | apart step => exact sound step
  | created => exact .refl
  | sized done => exact (steps.withCapacity _).after .refl done
  | unsized failed => exact (steps.withCapacity _).after .refl failed
  | acted _ done => exact (steps.action _ _).after .refl done
  | failed _ failed => exact (steps.action _ _).after .refl failed

theorem Reaches.memory (sound : ∀ {memory after}, apart memory after → memory.Reaches after)
    (reaches : start.Reaches apart scene) : start.memory.Reaches scene.memory := by
  induction reaches with
  | refl => exact .refl
  | tail _ last ih => exact ih.trans (last.memory sound)

end Scene

/-! ## What the lists come to -/

structure Watched.Chained (watched : Watched) : Prop where
  room : watched.buffer.length ≤ watched.buffer.capacity
  chain : Buffer.Chain (Buffer.empty : Buffer watched.α).capacity watched.growths watched.buffer.capacity

/-- Whether every event of growth is on the list of one buffer, in the order of the log, and the lists lead
to the capacities of the buffers. -/
structure Scene.Attributes (scene : Scene) : Prop where
  chained : ∀ watched ∈ scene.watched, watched.Chained
  ordered : ∀ watched ∈ scene.watched, watched.growths.Sublist scene.memory.growths
  complete : (scene.watched.flatMap Watched.growths).Perm scene.memory.growths

theorem flatMap_set_perm {α : Type*} {β : Type} {f : α → List β} {elements : List α} {number : Nat} {a other : α}
    {more : List β} (held : elements[number]? = some a) (longer : f other = f a ++ more) :
    ((elements.set number other).flatMap f).Perm (elements.flatMap f ++ more) := by
  have found : (elements.map f)[number]? = some (f a) := by rw [List.getElem?_map, held, Option.map_some]
  rw [List.flatMap_def, List.flatMap_def, List.map_set, longer]
  have others := (flatten_perm found).symm.append_right more
  rw [List.append_assoc] at others
  apply (flatten_set found _).trans
  rw [List.append_assoc]
  exact (List.perm_append_comm.append_left _).trans others

theorem Memory.growthsUntil_eq {memory after : Memory} {events : List Event}
    (logged : after.growths = memory.growths ++ events) : memory.growthsUntil after = events := by
  rw [growthsUntil, logged, List.drop_left]

namespace Scene.Attributes

variable {scene next : Scene}

theorem add (attributes : scene.Attributes) {watched : Watched} {after : Memory} (chained : watched.Chained)
    (logged : after.growths = scene.memory.growths ++ watched.growths) :
    Attributes ⟨after, scene.watched ++ [watched]⟩ := by
  refine ⟨?_, ?_, ?_⟩
  · intro other member
    rcases List.mem_append.mp member with before | new
    · exact attributes.chained other before
    · exact List.mem_singleton.mp new ▸ chained
  · intro other member
    simp only [logged]
    rcases List.mem_append.mp member with before | new
    · exact List.sublist_append_of_sublist_left (attributes.ordered other before)
    · exact List.mem_singleton.mp new ▸ List.sublist_append_right _ _
  · simp only [logged, List.flatMap_append, List.flatMap_singleton]
    exact attributes.complete.append_right _

theorem change (attributes : scene.Attributes) {number : Nat} {watched other : Watched} {after : Memory}
    {events : List Event} (held : scene.watched[number]? = some watched) (chained : other.Chained)
    (growths : other.growths = watched.growths ++ events)
    (logged : after.growths = scene.memory.growths ++ events) :
    Attributes ⟨after, scene.watched.set number other⟩ := by
  refine ⟨?_, ?_, ?_⟩
  · intro third member
    rcases List.mem_or_eq_of_mem_set member with before | rfl
    · exact attributes.chained third before
    · exact chained
  · intro third member
    simp only [logged]
    rcases List.mem_or_eq_of_mem_set member with before | rfl
    · exact List.sublist_append_of_sublist_left (attributes.ordered third before)
    · rw [growths]
      exact (attributes.ordered watched (List.mem_of_getElem? held)).append (.refl events)
  · simp only [logged]
    exact (flatMap_set_perm held growths).trans (attributes.complete.append_right events)

theorem quiet (attributes : scene.Attributes) {after : Memory} (logged : after.growths = scene.memory.growths) :
    Attributes { scene with memory := after } := by
  refine ⟨attributes.chained, ?_, ?_⟩
  · simp only [logged]
    exact attributes.ordered
  · simp only [logged]
    exact attributes.complete

theorem act (attributes : scene.Attributes) {α : Type} [Storable α] {number : Nat} {buffer : Buffer α}
    {growths : List Event} {action : Buffer.Action α} {result : Except Failure (Buffer α) × Memory}
    (held : scene.watched[number]? = some ⟨buffer, growths⟩) (ends : action.run buffer scene.memory = result) :
    Attributes ⟨result.2, scene.watched.set number
      ⟨result.1.toOption.getD buffer, growths ++ scene.memory.growthsUntil result.2⟩⟩ := by
  have before := attributes.chained _ (List.mem_of_getElem? held)
  have grows := Buffer.action_grows before.room action scene.memory
  rw [ends] at grows
  cases grows with
  | done room logged chain =>
      rw [Memory.growthsUntil_eq logged]
      exact attributes.change held ⟨room, before.chain.append chain⟩ rfl logged
  | failed logged =>
      -- A failed action logged no growth, though it may have changed the memory.
      have none : _ = _ ++ [] := logged.trans (List.append_nil _).symm
      rw [Memory.growthsUntil_eq none]
      exact attributes.change held ⟨before.room, before.chain.append (.nil _)⟩ rfl none

theorem step (attributes : scene.Attributes) (step : Step Memory.Quiet scene next) : next.Attributes := by
  cases step with
  | apart quiet => exact attributes.quiet quiet.2
  | created => exact attributes.add ⟨Nat.zero_le _, .nil _⟩ (List.append_nil _).symm
  | @sized α _ capacity buffer after done =>
      have grows := @Buffer.withCapacity_grows α _ capacity scene.memory
      rw [done] at grows
      cases grows with
      | done room logged chain =>
          rw [Memory.growthsUntil_eq logged]
          exact attributes.add ⟨room, chain⟩ logged
  | @unsized α _ capacity failure after failed =>
      have grows := @Buffer.withCapacity_grows α _ capacity scene.memory
      rw [failed] at grows
      cases grows with
      | failed logged => exact attributes.quiet logged
  | acted held done => exact attributes.act held done
  | failed held failed => exact attributes.act held failed

end Scene.Attributes

end ArenaLang
