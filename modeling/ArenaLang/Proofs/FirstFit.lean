import ArenaLang.Proofs.Growth

namespace ArenaLang

open MemoryM

structure Memory.FirstFits (system : System) (options : Options) (memory : Memory) (layout : Layout) : Prop where
  rounded : ∀ region : Region,
    IsLeast {offset | region.cursor ≤ offset ∧ layout.align ∣ region.base + offset} (region.nextOffset layout)
  room : (∃ region ∈ memory.arena.regions, region.Fits layout) →
    ∃ index region, memory.arena.regions[index]? = some region ∧ region.Fits layout ∧
      (∀ earlier < index, ∀ other, memory.arena.regions[earlier]? = some other → ¬other.Fits layout) ∧
      allocate layout memory = (.ok ⟨index, region.nextOffset layout⟩,
        memory.withRegions (memory.arena.regions.set index (region.carved layout)))
  provided : memory.Full layout → ∀ base,
    system.provides? memory.arena.regions.length (options.growth layout) = some base →
      allocate layout memory =
        (.ok ⟨memory.arena.regions.length, (Region.fresh base (options.growth layout)).nextOffset layout⟩,
          memory.added layout (.fresh base (options.growth layout)))
  tooLarge : memory.Full layout → Layout.of? (options.growth layout) Region.alignment = none →
    allocate layout memory = (.error (.refused (.tooLarge (options.growth layout))), memory)
  refused : memory.Full layout → ∀ whole, Layout.of? (options.growth layout) Region.alignment = some whole →
    system.place? memory.arena.regions.length whole.size = none →
    allocate layout memory = (.error (.refused (.outOfMemory (options.growth layout))), memory)
  enough : ∀ base, Region.alignment ∣ base → (Region.fresh base (options.growth layout)).Fits layout

theorem Memory.Provided.firstFits {system : System} {options : Options} {memory : Memory}
    (provided : memory.Provided system options) (layout : Layout) : memory.FirstFits system options layout := by
  obtain ⟨sound, rfl, rfl, _⟩ := provided
  refine ⟨fun region => region.isLeast_nextOffset layout, allocate_of_room sound, ?_, ?_, ?_, ?_⟩
  · intro full base placed
    rw [allocate_of_full sound full, grow_of_provided sound placed]
  · intro full none
    have refused : memory.arena.system.provides? memory.arena.regions.length (memory.arena.options.growth layout) =
        Option.none := by
      rw [System.provides?, none, Option.bind_none]
    rw [allocate_of_full sound full, grow_of_refused refused, Refusal.ofCapacity_of_none none]
  · intro full whole found unplaced
    have refused : memory.arena.system.provides? memory.arena.regions.length (memory.arena.options.growth layout) =
        none := by
      rw [System.provides?, found, Option.bind_some, unplaced]
    rw [allocate_of_full sound full, grow_of_refused refused, Refusal.ofCapacity_of_some found]
  · intro base aligned
    exact Options.growth_fits _ layout aligned

/-- In every state that a host reaches, a block goes to the first region with room at the first
aligned offset, or else to a new region at the end of the chain; nothing else changes. -/
theorem blocks_go_to_first_fit {system : System} {options : Options} {request : Nat} {memory : Memory}
    {host : Host} (sound : system.Sound) (created : Memory.create system options request = .ok memory)
    (reaches : (Host.start memory).Reaches host) (layout : Layout) :
    host.client.memory.FirstFits system options layout :=
  (reaches.provided sound created).firstFits layout

/-- A block of stricter alignment than any region has, in an arena of two regions. -/
theorem blocks_go_to_first_fit_padded :
    System.paged.Sound ∧ Memory.create .paged ⟨64⟩ 0 = .ok .small ∧
      ∃ (host : Host) (layout : Layout), (Host.start .small).Reaches host ∧ layout.align = 64 ∧
        host.client.memory.arena.remaining = [4, 56] ∧ host.client.memory.FirstFits .paged ⟨64⟩ layout := by
  have first := Relation.ReflTransGen.single
    (@Host.Step.foreign (Host.start .small) (.storeAll (List.replicate 60 (7 : UInt8))))
  have second := first.tail (Host.Step.foreign (.store (7 : UInt64)))
  refine ⟨System.paged_sound, Memory.small_created, _, ⟨8, 64, ⟨6, rfl⟩, by decide⟩, second, rfl, rfl, ?_⟩
  exact blocks_go_to_first_fit System.paged_sound Memory.small_created second _

end ArenaLang
