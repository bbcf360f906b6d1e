import ArenaLang.Proofs.PrivateBlocks
import Mathlib.Data.List.Nodup

namespace ArenaLang

/-! ## Counting -/

def Block.bytes (block : Block) : List (Nat × Nat) :=
  (List.range' block.place.offset block.layout.size).map fun offset => (block.place.region, offset)

theorem Block.length_bytes (block : Block) : block.bytes.length = block.layout.size := by
  rw [bytes, List.length_map, List.length_range']

theorem Block.mem_bytes {block : Block} {index offset : Nat} :
    (index, offset) ∈ block.bytes ↔ index = block.place.region ∧ block.place.offset ≤ offset ∧
      offset < block.place.offset + block.layout.size := by
  simp only [bytes, List.mem_map, List.mem_range'_1, Prod.mk.injEq]
  constructor
  · rintro ⟨_, bounds, rfl, rfl⟩
    exact ⟨rfl, bounds⟩
  · rintro ⟨rfl, bounds⟩
    exact ⟨offset, bounds, rfl, rfl⟩

theorem Block.nodup_bytes (block : Block) : block.bytes.Nodup := by
  apply List.Nodup.map _ List.nodup_range'
  intro offset other same
  exact (Prod.mk.inj same).2

theorem Block.Apart.disjoint {block other : Block} (apart : block.Apart other) :
    block.bytes.Disjoint other.bytes := by
  rintro ⟨index, offset⟩ one two
  have here := Block.mem_bytes.mp one
  have there := Block.mem_bytes.mp two
  unfold Apart at apart
  omega

def carvedBytes (chain : List Region) : List (Nat × Nat) :=
  chain.zipIdx.flatMap fun numbered => (List.range numbered.1.cursor).map fun offset => (numbered.2, offset)

theorem length_carvedBytes (chain : List Region) : (carvedBytes chain).length = (chain.map Region.cursor).sum := by
  have cursors : chain.zipIdx.map (fun numbered => numbered.1.cursor) = chain.map Region.cursor := by
    rw [← List.zipIdx_map_fst 0 chain, List.map_map, List.zipIdx_map_fst]
    rfl
  simp only [carvedBytes, List.length_flatMap, List.length_map, List.length_range, cursors]

theorem Arena.used_eq_sum (arena : Arena) :
    arena.stats.used = (arena.regions.map Region.cursor).sum := List.sum_eq_foldr.symm

theorem Arena.capacity_eq_sum (arena : Arena) :
    arena.stats.capacity = (arena.regions.map Region.capacity).sum := List.sum_eq_foldr.symm

theorem mem_carvedBytes {chain : List Region} {index offset : Nat} {region : Region}
    (held : chain[index]? = some region) (carved : offset < region.cursor) :
    (index, offset) ∈ carvedBytes chain := by
  apply List.mem_flatMap.mpr
  refine ⟨(region, index), List.mem_zipIdx_iff_getElem?.mpr held, ?_⟩
  exact List.mem_map.mpr ⟨offset, List.mem_range.mpr carved, rfl⟩

theorem Entry.KeptBy.bytes_subset {chain : List Region} {entry : Entry} (kept : entry.KeptBy chain) :
    entry.bytes ⊆ carvedBytes chain := by
  obtain ⟨region, found, keeps⟩ := kept
  rintro ⟨index, offset⟩ member
  obtain ⟨rfl, lower, upper⟩ := Block.mem_bytes.mp member
  have reserved := keeps.reserved (by omega)
  exact mem_carvedBytes found (by omega)

theorem Memory.Holds.sum_sizes_le {memory : Memory} {ledger : Ledger} (holds : memory.Holds ledger) :
    (ledger.map (·.layout.size)).sum ≤ memory.arena.stats.used := by
  have distinct : (ledger.flatMap (·.bytes)).Nodup := by
    refine List.nodup_flatMap.mpr ⟨fun entry _ => entry.nodup_bytes, ?_⟩
    exact holds.apart.imp fun apart => apart.disjoint
  have inside : ledger.flatMap (·.bytes) ⊆ carvedBytes memory.arena.regions := by
    intro byte member
    obtain ⟨entry, listed, here⟩ := List.mem_flatMap.mp member
    exact (holds.kept entry listed).bytes_subset here
  -- Distinct bytes among the carved ones are no more than those.
  have bound := (List.subperm_of_subset distinct inside).length_le
  rw [length_carvedBytes, ← Arena.used_eq_sum, List.length_flatMap] at bound
  simp only [Block.length_bytes] at bound
  exact bound

theorem sum_cursor_add_sum_remaining {chain : List Region} (sound : ∀ region ∈ chain, region.Sound) :
    (chain.map Region.cursor).sum + (chain.map Region.remaining).sum = (chain.map Region.capacity).sum := by
  induction chain with
  | nil => rfl
  | cons region rest ih =>
      have tail := ih fun other member => sound other (List.mem_cons_of_mem _ member)
      have filled := (sound region List.mem_cons_self).filled
      simp only [List.map_cons, List.sum_cons, Region.remaining]
      omega

/-! ## The invariant -/

def Region.Covers (region : Region) (address size : Nat) : Prop :=
  region.base ≤ address ∧ address + size ≤ region.base + region.cursor

def ApartInSpace (chain : List Region) : Prop :=
  chain.Pairwise fun region other =>
    region.base + region.capacity ≤ other.base ∨ other.base + other.capacity ≤ region.base

/-- A block starts at a multiple of its alignment and lies in front of the cursor of its region, and
of no other one. -/
def Block.Placed (chain : List Region) (block : Block) : Prop :=
  ∃ region, chain[block.place.region]? = some region ∧
    block.layout.align ∣ region.base + block.place.offset ∧
    block.place.offset + block.layout.size ≤ region.cursor ∧
    (ApartInSpace chain → ∀ index other, chain[index]? = some other →
      (other.Covers (region.base + block.place.offset) block.layout.size ↔ index = block.place.region))

structure Memory.Represents (memory : Memory) (blocks : List Block) : Prop where
  filled : ∀ region ∈ memory.arena.regions, region.cursor ≤ region.capacity
  placed : ∀ block ∈ blocks, 0 < block.layout.size → block.Placed memory.arena.regions
  apart : blocks.Pairwise Block.Apart
  sizes : (blocks.map (·.layout.size)).sum ≤ memory.arena.stats.used
  used : memory.arena.stats.used ≤ memory.arena.stats.capacity
  free : memory.arena.stats.capacity - memory.arena.stats.used = memory.arena.remaining.sum

theorem Entry.KeptBy.placed {chain : List Region} {entry : Entry}
    (sound : ∀ region ∈ chain, region.Sound) (kept : entry.KeptBy chain)
    (positive : 0 < entry.layout.size) : entry.toBlock.Placed chain := by
  obtain ⟨region, found, keeps⟩ := kept
  have reserved := keeps.reserved positive
  refine ⟨region, found, keeps.aligned, reserved, ?_⟩
  intro apart index other held
  constructor
  · intro covers
    by_contra elsewhere
    have filled := (sound region (List.mem_of_getElem? found)).filled
    have otherFilled := (sound other (List.mem_of_getElem? held)).filled
    obtain ⟨bound, rfl⟩ := List.getElem?_eq_some_iff.mp found
    obtain ⟨otherBound, rfl⟩ := List.getElem?_eq_some_iff.mp held
    unfold Region.Covers at covers
    rcases Nat.lt_or_gt_of_ne elsewhere with before | behind
    · have disjoint := List.pairwise_iff_getElem.mp apart _ _ otherBound bound before
      omega
    · have disjoint := List.pairwise_iff_getElem.mp apart _ _ bound otherBound behind
      omega
  · rintro rfl
    rw [found, Option.some.injEq] at held
    subst held
    unfold Region.Covers
    omega

theorem Memory.Holds.represents {memory : Memory} {ledger : Ledger} (holds : memory.Holds ledger) :
    memory.Represents (ledger.map Entry.toBlock) := by
  have counted := sum_cursor_add_sum_remaining holds.sound.regions
  refine ⟨fun region member => (holds.sound.regions region member).filled, ?_,
    List.pairwise_map.mpr holds.apart, ?_, ?_, ?_⟩
  · intro block member positive
    obtain ⟨entry, listed, rfl⟩ := List.mem_map.mp member
    exact (holds.kept entry listed).placed holds.sound.regions positive
  · simpa only [List.map_map, Function.comp_def] using holds.sum_sizes_le
  · rw [Arena.used_eq_sum, Arena.capacity_eq_sum]
    omega
  · rw [Arena.used_eq_sum, Arena.capacity_eq_sum, Arena.remaining]
    omega

theorem Client.Agrees.live_eq {client : Client} {slots : List (Option Entry)} {store : PrivateStore}
    {frame : Ledger} (agrees : client.Agrees slots store frame) :
    client.live = slots.reduceOption.map Entry.toBlock := by
  rw [Client.live, agrees.blocks, List.reduceOption_map]

theorem Client.run_evolves {client : Client} {slots : List (Option Entry)} {store : PrivateStore}
    {frame : Ledger} (agrees : client.Agrees slots store frame) (operations : List Operation) :
    client.memory.Evolves (client.run operations).2.memory := by
  induction operations generalizing client slots store with
  | nil => exact .refl _
  | cons operation rest ih =>
      obtain ⟨slots, next, _, agrees, evolves⟩ := perform_refines agrees operation
      exact evolves.trans (ih agrees)

/-- In every state that a client reaches, the arena represents the client's live blocks, and
whatever the client does next, the regions stay in the chain where they are. -/
theorem represents_live_blocks {system : System} {options : Options} {request : Nat} {memory : Memory}
    (sound : system.Sound) (created : Memory.create system options request = .ok memory)
    (operations : List Operation) :
    let client := ((Client.start memory).run operations).2
    client.memory.Represents client.live ∧
      ∀ more, client.memory.arena.regions.map Region.extent <+:
        (client.run more).2.memory.arena.regions.map Region.extent := by
  intro client
  have start := Client.start_agrees (Memory.create_holds sound created)
  obtain ⟨slots, store, _, agrees⟩ := Client.run_refines start operations
  constructor
  · rw [agrees.live_eq]
    have holds := agrees.holds
    rw [List.append_nil] at holds
    exact holds.represents
  · intro more
    exact (Client.run_evolves agrees more).chain

/-- A block moves to a second region, its old bytes are carved again, and blocks of no bytes come
between. -/
theorem represents_live_blocks_reuse :
    System.spaced.Sound ∧ Memory.create .spaced ⟨64⟩ 0 = .ok .spread ∧
      let client := ((Client.start .spread).run [.storeText "abcde", .reallocate 0 128, .storeAll [(7 : UInt64)],
        .storeText "", .reallocate 2 64]).2
      client.live.map Block.place = [⟨1, 0⟩, ⟨0, 8⟩, ⟨2, 0⟩] ∧ ApartInSpace client.memory.arena.regions ∧
        client.memory.Represents client.live ∧
        ∀ more, client.memory.arena.regions.map Region.extent <+:
          (client.run more).2.memory.arena.regions.map Region.extent := by
  refine ⟨System.spaced_sound, Memory.spread_created, by decide +kernel, ?_,
    represents_live_blocks System.spaced_sound Memory.spread_created _⟩
  unfold ApartInSpace
  decide +kernel

end ArenaLang
