import ArenaLang.Proofs.Attempts
import ArenaLang.Proofs.Representation

namespace ArenaLang

open MemoryM

/-! ## Regions -/

def Region.addresses (region : Region) : List Nat := List.range' region.base region.capacity

theorem Region.mem_addresses {region : Region} {address : Nat} :
    address ∈ region.addresses ↔ region.base ≤ address ∧ address < region.base + region.capacity :=
  List.mem_range'_1

theorem ApartInSpace.sum_capacity_lt {chain : List Region} (apart : ApartInSpace chain)
    (sound : ∀ region ∈ chain, region.Sound) : (chain.map Region.capacity).sum < Word.limit := by
  have distinct : (chain.flatMap Region.addresses).Nodup := by
    refine List.nodup_flatMap.mpr ⟨fun region _ => List.nodup_range', ?_⟩
    refine apart.imp fun {region other} away => ?_
    intro address one two
    have here := Region.mem_addresses.mp one
    have there := Region.mem_addresses.mp two
    omega
  have inside : chain.flatMap Region.addresses ⊆ List.range (Word.limit - 1) := by
    intro address member
    obtain ⟨region, listed, here⟩ := List.mem_flatMap.mp member
    have inSpace := (sound region listed).inSpace
    have bounds := Region.mem_addresses.mp here
    exact List.mem_range.mpr (by omega)
  have bound := (List.subperm_of_subset distinct inside).length_le
  have lengths : (chain.flatMap Region.addresses).length = (chain.map Region.capacity).sum := by
    simp only [List.length_flatMap, Region.addresses, List.length_range']
  have positive : 0 < Word.limit := by decide
  rw [lengths, List.length_range] at bound
  omega

/-! ## Buffers -/

namespace MemoryM

variable {α β : Type} {step : MemoryM α} {next : α → MemoryM β} {given : α → Prop} {last : β → Prop}

def Yields (given : α → Prop) (step : MemoryM α) : Prop := ∀ memory a, (step memory).1 = .ok a → given a

theorem Yields.pure {a : α} (holds : given a) : Yields given (pure a) := by
  intro memory b answered
  cases answered
  exact holds

theorem Yields.throw (failure : Failure) : Yields given (throw failure) := by
  intro memory a answered
  cases answered

theorem Yields.bind (first : Yields given step) (second : ∀ a, given a → Yields last (next a)) :
    Yields last (step >>= next) := by
  intro memory b answered
  rcases stepped : step memory with ⟨failure | a, after⟩
  · rw [bind_error stepped] at answered
    cases answered
  · rw [bind_ok stepped] at answered
    exact second a (first memory a (by rw [stepped])) after b answered

theorem Yields.behind (second : ∀ a, Yields last (next a)) : Yields last (step >>= next) :=
  have any : Yields (fun _ => True) step := fun _ _ _ => trivial
  any.bind fun a _ => second a

end MemoryM

namespace Buffer

variable {α : Type}

structure Counted (buffer : Buffer α) : Prop where
  room : buffer.length ≤ buffer.capacity
  word : buffer.capacity < Word.limit

theorem ofRefusal_yields {β : Type} (result : Except Refusal β) : Yields (fun b => result = .ok b) (ofRefusal result) := by
  cases result with
  | ok b => exact .pure rfl
  | error refusal => exact .throw _

theorem expect_yields (condition : Bool) (fault : Fault) : Yields (fun _ => condition = true) (expect condition fault) := by
  cases condition with
  | true => exact .pure rfl
  | false => exact .throw _

theorem nextCapacity_lt {capacity next : Nat} (made : nextCapacity capacity = .ok next) : next < Word.limit := by
  have few : leastCapacity < Word.limit := by decide
  unfold nextCapacity Word.mul? at made
  grind

theorem doubleUntil_lt {required capacity : Nat} {positive : 0 < capacity} {last : Nat} (word : capacity < Word.limit)
    (made : doubleUntil required capacity positive = .ok last) : last < Word.limit := by
  fun_induction doubleUntil required capacity positive with
  | case1 capacity positive below small ih => exact ih small made
  | case2 => cases made
  | case3 capacity positive enough =>
      cases made
      exact word

theorem capacityFor_lt {required capacity next : Nat} (made : capacityFor required capacity = .ok next) :
    next < Word.limit := by
  unfold capacityFor at made
  split at made
  · cases made
  · exact doubleUntil_lt (nextCapacity_lt ‹_›) made

variable [Storable α] {buffer : Buffer α}

theorem empty_counted : (empty : Buffer α).Counted := by
  refine ⟨Nat.zero_le _, ?_⟩
  have words : Word.greatest < Word.limit ∧ 0 < Word.limit := by decide
  unfold empty
  split
  · exact words.1
  · exact words.2

theorem grow_counted (counted : buffer.Counted) {capacity : Nat} (word : capacity < Word.limit) :
    Yields Counted (buffer.grow capacity) := by
  refine (expect_yields _ _).bind ?_
  intro _ larger
  refine Yields.behind ?_
  intro old
  refine Yields.behind ?_
  intro new
  refine Yields.behind ?_
  intro place
  refine Yields.behind ?_
  intro _
  exact .pure ⟨Nat.le_trans counted.room (Nat.le_of_lt (of_decide_eq_true larger)), word⟩

theorem fill_counted (word : buffer.capacity < Word.limit) (elements : List α) :
    Yields Counted (buffer.fill elements) := by
  refine (expect_yields _ _).bind ?_
  intro _ room
  have fits : buffer.length + elements.length ≤ buffer.capacity := of_decide_eq_true room
  cases buffer.place with
  | none => exact .pure ⟨fits, word⟩
  | some place => exact Yields.behind fun _ => .pure ⟨fits, word⟩

theorem withCapacity_counted {capacity : Nat} (word : capacity < Word.limit) :
    Yields Counted (withCapacity capacity : MemoryM (Buffer α)) := by
  unfold withCapacity
  split
  · exact grow_counted empty_counted word
  · exact .pure empty_counted

theorem push_counted (counted : buffer.Counted) (a : α) : Yields Counted (buffer.push a) := by
  unfold push
  split
  · have grown : Yields Counted buffer.growByOne := by
      refine Yields.behind ?_
      intro _
      refine (ofRefusal_yields _).bind ?_
      intro capacity made
      exact grow_counted counted (nextCapacity_lt made)
    exact grown.bind fun roomy fits => fill_counted fits.word [a]
  · exact fill_counted counted.word [a]

theorem reserve_counted (counted : buffer.Counted) (additional : Nat) : Yields Counted (buffer.reserve additional) := by
  unfold reserve
  cases Word.add? buffer.length additional with
  | none => exact .throw _
  | some required =>
      simp only
      split
      · exact .pure counted
      · refine (ofRefusal_yields _).bind ?_
        intro capacity made
        exact grow_counted counted (capacityFor_lt made)

theorem action_counted (counted : buffer.Counted) (action : Action α) : Yields Counted (action.run buffer) := by
  cases action with
  | push a => exact push_counted counted a
  | extend elements => exact (reserve_counted counted _).bind fun roomy fits => fill_counted fits.word elements
  | reserve additional => exact reserve_counted counted additional

theorem Stands.bytes_le {elements : List α} {ledger : Ledger} (stands : buffer.Stands elements ledger) :
    buffer.capacity * Storable.widthOf α ≤ Layout.bound := by
  cases stands with
  | unplaced _ _ _ empty => exact empty ▸ Nat.zero_le _
  | @placed place layout _ _ _ _ found =>
      have bounded := layout.bounded
      rw [(Layout.array?_eq_some found).1] at bounded
      exact Nat.le_trans (Nat.le_add_right _ _) bounded

end Buffer

/-! ## The host -/

def Holding.InSpace : Holding → Prop
  | @Holding.vector α _ buffer _ => buffer.capacity * Storable.widthOf α ≤ Layout.bound
  | .scope activation _ => activation.bindings.capacity * Storable.widthOf Binding ≤ Layout.bound
  | @Holding.slice α _ row _ => row.length * Storable.widthOf α ≤ Layout.bound

def Holding.Counted : Holding → Prop
  | @Holding.vector _ _ buffer _ => buffer.Counted
  | .scope activation _ => activation.bindings.Counted
  | @Holding.slice _ _ row _ => row.length < Word.limit

theorem Holding.Stands.inSpace {holding : Holding} {ledger : Ledger} (stands : holding.Stands ledger) :
    holding.InSpace := by
  cases holding with
  | vector buffer appended => exact Buffer.Stands.bytes_le stands
  | scope scope bound => exact Buffer.Stands.bytes_le stands
  | slice slice contents =>
      obtain ⟨buffer, rfl, stands⟩ := stands
      have room : buffer.length ≤ buffer.capacity := stands.length_eq ▸ stands.room
      exact Nat.le_trans (Nat.mul_le_mul_right _ room) stands.bytes_le

namespace Host

variable {host next : Host}

/-- Whether a vector was asked for that holds more elements than a word can say. -/
def Overasks (host next : Host) : Prop :=
  ∃ (α : Type) (_ : Storable α) (capacity : Nat), Word.limit ≤ capacity ∧
    next = host.settle (Buffer.withCapacity capacity) fun buffer : Buffer α => host.holdings ++ [.vector buffer []]

def Counted (host : Host) : Prop := ∀ holding ∈ host.holdings, holding.Counted

theorem Counted.add {holding : Holding} (counted : host.Counted) (more : holding.Counted) :
    ∀ other ∈ host.holdings ++ [holding], other.Counted := by
  intro other member
  rcases List.mem_append.mp member with before | last
  · exact counted other before
  · exact List.mem_singleton.mp last ▸ more

theorem Counted.set {holding : Holding} (counted : host.Counted) (changed : holding.Counted) (number : Nat) :
    ∀ other ∈ host.holdings.set number holding, other.Counted := by
  intro other member
  rcases List.mem_or_eq_of_mem_set member with before | same
  · exact counted other before
  · exact same ▸ changed

theorem Counted.settle {α : Type} {step : MemoryM α} {given : α → Prop} {kept : α → List Holding}
    (counted : host.Counted) (yields : Yields given step)
    (after : ∀ a, given a → ∀ holding ∈ kept a, holding.Counted) : (host.settle step kept).Counted := by
  unfold Host.settle
  rcases stepped : step host.client.memory with ⟨failure | a, memory⟩
  · exact counted
  · exact after a (yields host.client.memory a (by rw [stepped]))

theorem Step.counted (counted : host.Counted) (step : Step host next) : next.Counted ∨ host.Overasks next := by
  cases step with
  | foreign operation => exact .inl counted
  | created => exact .inl (counted.add Buffer.empty_counted)
  | @sized α _ capacity =>
      by_cases word : capacity < Word.limit
      · exact .inl (counted.settle (Buffer.withCapacity_counted word) fun buffer fits => counted.add fits)
      · exact .inr ⟨α, _, capacity, Nat.not_lt.mp word, rfl⟩
  | @acted α _ number buffer appended held action =>
      have fits : buffer.Counted := counted _ (List.mem_of_getElem? held)
      refine .inl (counted.settle (Buffer.action_counted fits action) fun next more => ?_)
      have changed : (Holding.vector next (appended ++ action.appends)).Counted := more
      exact counted.set changed number
  | entered => exact .inl (counted.add Buffer.empty_counted)
  | @bound number scope bindings held name value =>
      have fits : scope.bindings.Counted := counted _ (List.mem_of_getElem? held)
      have binds : Yields (fun next : Scope => next.bindings.Counted) (scope.bind name value) :=
        (Buffer.push_counted fits _).bind fun _ more => .pure more
      refine .inl (counted.settle binds fun next more => ?_)
      have changed : (Holding.scope next (bindings ++ [⟨name, value⟩])).Counted := more
      exact counted.set changed number
  | @frozen α _ number buffer appended held =>
      have fits : buffer.Counted := counted _ (List.mem_of_getElem? held)
      have length : (@Holding.slice α _ buffer.toSlice appended).Counted := Nat.lt_of_le_of_lt fits.room fits.word
      exact .inl (counted.set length number)

theorem Reaches.counted (reaches : Reaches host next) (counted : host.Counted) :
    next.Counted ∨ ∃ before after, Reaches host before ∧ before.Overasks after ∧ Reaches after next := by
  induction reaches with
  | refl => exact .inl counted
  | tail reaches step ih =>
      rcases ih with fits | ⟨before, after, earlier, overasks, later⟩
      · rcases step.counted fits with more | overasks
        · exact .inl more
        · exact .inr ⟨_, _, reaches, overasks, .refl⟩
      · exact .inr ⟨before, after, earlier, overasks, later.tail step⟩

/-- What an arena relies on without testing for it, where a host has come to. -/
structure Safe (host : Host) : Prop where
  filled : ∀ region ∈ host.client.memory.arena.regions, region.cursor ≤ region.capacity
  inSpace : ∀ region ∈ host.client.memory.arena.regions, region.base + region.capacity < Word.limit
  sums : ApartInSpace host.client.memory.arena.regions →
    host.client.memory.arena.stats.used ≤ host.client.memory.arena.stats.capacity ∧
      host.client.memory.arena.stats.capacity < Word.limit
  kept : ∀ holding ∈ host.holdings, holding.InSpace ∧ holding.Reads host.client.memory
  attempts : ∀ {α : Type} {step : MemoryM α}, host.Attempt step →
    (∃ a, (step host.client.memory).1 = .ok a) ∨
      (∃ size, (step host.client.memory).1 = .error (.refused (.tooLarge size))) ∨
      ∃ capacity, (step host.client.memory).1 = .error (.refused (.outOfMemory capacity))
  operations : ∀ operation fault, (host.client.perform operation).1 ≠ .faulty fault

theorem Sound.safe (sound : host.Sound) : host.Safe := by
  have never {α : Type} {step : MemoryM α} (attempt : host.Attempt step) := attempt.not_faulty sound
  obtain ⟨slots, store, ledgers, keeps⟩ := sound
  have regions := keeps.agrees.holds.sound.regions
  have represents := keeps.agrees.holds.represents
  refine ⟨represents.filled, fun region member => (regions region member).inSpace, ?_, ?_, ?_, ?_⟩
  · intro apart
    refine ⟨represents.used, ?_⟩
    rw [Arena.capacity_eq_sum]
    exact apart.sum_capacity_lt regions
  · intro holding member
    obtain ⟨number, held⟩ := List.mem_iff_getElem?.mp member
    obtain ⟨ledger, found, stands, _⟩ := forall₂_getElem? keeps.standing held
    exact ⟨stands.inSpace, stands.reads (keeps.agrees.holds.right.perm (flatten_perm found))⟩
  · intro α step attempt
    rcases answered : (step host.client.memory).1 with ((_ | _) | fault) | a
    · exact .inr (.inr ⟨_, rfl⟩)
    · exact .inr (.inl ⟨_, rfl⟩)
    · exact absurd answered (never attempt fault)
    · exact .inl ⟨a, rfl⟩
  · intro operation fault faulty
    obtain ⟨_, _, step, _⟩ := Client.perform_refines keeps.agrees operation
    rw [faulty] at step
    cases step

end Host

/-- Nothing that an arena does in any state that a host reaches can fault: no cursor is moved in
front of its region, no address leaves the address space, no buffer grows to less or is written
behind its end. All that an attempt can fail by is a size that is too large and memory that the
system refuses. The counts of all vectors are words, if none is asked for that holds more. -/
theorem attempts_never_fault {system : System} {options : Options} {request : Nat} {memory : Memory} {host : Host}
    (sound : system.Sound) (created : Memory.create system options request = .ok memory)
    (reaches : (Host.start memory).Reaches host) :
    host.Safe ∧
      (host.Counted ∨ ∃ before after,
        (Host.start memory).Reaches before ∧ before.Overasks after ∧ after.Reaches host) :=
  ⟨(reaches.sound (Host.start_sound (Memory.create_holds sound created))).safe,
    reaches.counted fun _ member => absurd member List.not_mem_nil⟩

/-- A vector that has moved once behind a block, in an arena of one region. -/
theorem attempts_never_fault_moved :
    System.paged.Sound ∧ Memory.create .paged ⟨64⟩ 0 = .ok .small ∧
      ∃ host, (Host.start .small).Reaches host ∧ host.holdings.length = 1 ∧ host.Safe := by
  have sized := Relation.ReflTransGen.single (@Host.Step.sized (Host.start .small) UInt16 _ 1)
  have pushed := sized.tail (@Host.Step.acted _ UInt16 _ 0 ⟨some ⟨0, 0⟩, 0, 1⟩ [] rfl (.push 7))
  have foreign := pushed.tail (Host.Step.foreign (.storeText "abc"))
  have reaches := foreign.tail (@Host.Step.acted _ UInt16 _ 0 ⟨some ⟨0, 0⟩, 1, 1⟩ [7] rfl (.push 8))
  exact ⟨System.paged_sound, Memory.small_created, _, reaches, rfl,
    (attempts_never_fault System.paged_sound Memory.small_created reaches).1⟩

end ArenaLang
