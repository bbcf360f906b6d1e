import ArenaLang.Proofs.Allocation

/-!
# Ledgers

A ledger lists blocks with the cells that they contain. `Memory.Holds` says that a memory has all
blocks of a ledger in store: each lies in a region in front of the cursor, contains what the ledger
says, and shares no cell with another. Each operation on an arena has a law here that says what it
does to the ledger; the entries that it does not concern are the same before and after.
-/

namespace ArenaLang

def patch (offset : Nat) (new cells : List Cell) : List Cell :=
  cells.take offset ++ new ++ cells.drop (offset + new.length)

namespace Tape

theorem read_part (tape : Tape) {start offset size count : Nat} (fits : offset + count ≤ size) :
    ((tape.read start size).drop offset).take count = tape.read (start + offset) count := by
  apply List.ext_getElem?
  intro index
  rw [List.getElem?_take, List.getElem?_drop, getElem?_read, getElem?_read]
  grind

theorem read_write_inside (tape : Tape) {start offset size : Nat} {cells : List Cell}
    (fits : offset + cells.length ≤ size) :
    (tape.write (start + offset) cells).read start size = patch offset cells (tape.read start size) := by
  apply List.ext_getElem?
  intro index
  simp only [patch, List.append_assoc, List.getElem?_append, List.length_take, length_read,
    List.getElem?_take, List.getElem?_drop, getElem?_read, get_write]
  grind

end Tape

structure Block where
  place : Place
  layout : Layout

def Block.Apart (block other : Block) : Prop :=
  block.layout.size = 0 ∨ other.layout.size = 0 ∨ block.place.region ≠ other.place.region ∨
    block.place.offset + block.layout.size ≤ other.place.offset ∨
    other.place.offset + other.layout.size ≤ block.place.offset

theorem Block.Apart.symm {block other : Block} (apart : block.Apart other) : other.Apart block := by
  unfold Block.Apart at apart ⊢
  omega

structure Entry extends Block where
  cells : List Cell

abbrev Ledger := List Entry

def Entry.patch (offset : Nat) (cells : List Cell) (entry : Entry) : Entry :=
  { entry with cells := ArenaLang.patch offset cells entry.cells }

structure Region.Keeps (region : Region) (entry : Entry) : Prop where
  aligned : entry.layout.align ∣ region.base + entry.place.offset
  inRegion : entry.place.offset + entry.layout.size ≤ region.capacity
  reserved : 0 < entry.layout.size → entry.place.offset + entry.layout.size ≤ region.cursor
  contents : region.read entry.place.offset entry.layout.size = entry.cells

def Entry.KeptBy (chain : List Region) (entry : Entry) : Prop :=
  ∃ region, chain[entry.place.region]? = some region ∧ region.Keeps entry

structure Memory.Holds (memory : Memory) (ledger : Ledger) : Prop where
  sound : memory.Sound
  kept : ∀ entry ∈ ledger, entry.KeptBy memory.arena.regions
  apart : ledger.Pairwise fun entry other => entry.toBlock.Apart other.toBlock

theorem Memory.create_holds {system : System} {options : Options} {request : Nat} {memory : Memory}
    (sound : system.Sound) (created : create system options request = .ok memory) : memory.Holds [] := by
  unfold create at created
  simp only [bind, Except.bind] at created
  split at created
  · cases created
  · rename_i made
    cases created
    refine ⟨⟨sound, ?_⟩, by simp, .nil⟩
    intro region member
    rw [List.mem_singleton.mp member]
    exact (Arena.newRegion_sound sound made).1

def Memory.small : Memory where
  arena := ⟨.paged, ⟨64⟩, [.fresh System.pageSize 64]⟩
  log := #[.arenaCreated 64]

theorem Memory.small_created : create .paged ⟨64⟩ 0 = .ok .small := rfl

def Memory.spread : Memory where
  arena := ⟨.spaced, ⟨64⟩, [.fresh System.refusedFrom 64]⟩
  log := #[.arenaCreated 64]

theorem Memory.spread_created : create .spaced ⟨64⟩ 0 = .ok .spread := rfl

theorem Region.Keeps.length {region : Region} {entry : Entry} (keeps : region.Keeps entry) :
    entry.cells.length = entry.layout.size := by
  rw [← keeps.contents, Region.read, Tape.length_read]

namespace Memory.Holds

variable {memory : Memory} {ledger : Ledger} {entry : Entry}

theorem perm {other : Ledger} (holds : memory.Holds ledger) (same : ledger.Perm other) :
    memory.Holds other :=
  ⟨holds.sound, fun entry member => holds.kept entry (same.mem_iff.mpr member),
    holds.apart.perm same fun apart => apart.symm⟩

theorem sublist {part : Ledger} (holds : memory.Holds ledger) (sublist : part.Sublist ledger) :
    memory.Holds part :=
  ⟨holds.sound, fun entry member => holds.kept entry (sublist.subset member), holds.apart.sublist sublist⟩

theorem tail (holds : memory.Holds (entry :: ledger)) : memory.Holds ledger :=
  holds.sublist (List.sublist_cons_self entry ledger)

theorem right {first : Ledger} (holds : memory.Holds (first ++ ledger)) : memory.Holds ledger :=
  holds.sublist (List.sublist_append_right first ledger)

theorem left {rest : Ledger} (holds : memory.Holds (ledger ++ rest)) : memory.Holds ledger :=
  holds.sublist (List.sublist_append_left ledger rest)

theorem head (holds : memory.Holds (entry :: ledger)) : entry.KeptBy memory.arena.regions :=
  holds.kept entry List.mem_cons_self

theorem length (holds : memory.Holds (entry :: ledger)) : entry.cells.length = entry.layout.size := by
  obtain ⟨region, _, keeps⟩ := holds.head
  exact keeps.length

theorem of_arena_eq {after : Memory} (holds : memory.Holds ledger) (same : after.arena = memory.arena) :
    after.Holds ledger :=
  ⟨⟨same ▸ holds.sound.system, same ▸ holds.sound.regions⟩, same ▸ holds.kept, holds.apart⟩

theorem set {index : Nat} {region other : Region} (holds : memory.Holds ledger)
    (held : memory.arena.regions[index]? = some region) (sound : other.Sound)
    (keeps : ∀ entry ∈ ledger, entry.place.region = index → region.Keeps entry → other.Keeps entry) :
    (memory.withRegions (memory.arena.regions.set index other)).Holds ledger := by
  refine ⟨⟨holds.sound.system, ?_⟩, ?_, holds.apart⟩
  · intro third member
    cases List.mem_or_eq_of_mem_set member with
    | inl member => exact holds.sound.regions third member
    | inr same => exact same ▸ sound
  · intro entry member
    obtain ⟨third, found, kept⟩ := holds.kept entry member
    by_cases here : entry.place.region = index
    · rw [here, held, Option.some.injEq] at found
      subst found
      have bound := (List.getElem?_eq_some_iff.mp held).1
      exact ⟨other, by simp [Memory.withRegions, here, bound], keeps entry member here kept⟩
    · refine ⟨third, ?_, kept⟩
      simpa [Memory.withRegions, List.getElem?_set_ne (Ne.symm here)] using found

theorem append {fresh : Region} (holds : memory.Holds ledger) (sound : fresh.Sound) :
    (memory.withRegions (memory.arena.regions ++ [fresh])).Holds ledger := by
  refine ⟨⟨holds.sound.system, ?_⟩, ?_, holds.apart⟩
  · intro region member
    cases List.mem_append.mp member with
    | inl member => exact holds.sound.regions region member
    | inr member => exact List.mem_singleton.mp member ▸ sound
  · intro entry member
    obtain ⟨region, found, kept⟩ := holds.kept entry member
    exact ⟨region, List.getElem?_append_left (List.getElem?_eq_some_iff.mp found).1 ▸ found, kept⟩

end Memory.Holds

/-! ## Carving -/

theorem Region.Keeps.carved {region : Region} {entry : Entry} {layout : Layout}
    (keeps : region.Keeps entry) : (region.carved layout).Keeps entry := by
  refine ⟨keeps.aligned, keeps.inRegion, ?_, keeps.contents⟩
  intro positive
  have reserved := keeps.reserved positive
  have above := region.cursor_le_nextOffset layout
  simp only [Region.carved]
  omega

def Region.carvedEntry (index : Nat) (layout : Layout) (region : Region) : Entry where
  place := ⟨index, region.nextOffset layout⟩
  layout := layout
  cells := region.read (region.nextOffset layout) layout.size

theorem Region.keeps_carvedEntry {region : Region} {index : Nat} {layout : Layout}
    (fits : region.Fits layout) : (region.carved layout).Keeps (region.carvedEntry index layout) :=
  ⟨region.nextOffset_aligned layout, fits, fun _ => Nat.le_refl _, rfl⟩

theorem Region.carvedEntry_apart {region : Region} {index : Nat} {layout : Layout} {entry : Entry}
    (keeps : entry.place.region = index → region.Keeps entry) :
    (region.carvedEntry index layout).toBlock.Apart entry.toBlock := by
  have above := region.cursor_le_nextOffset layout
  simp only [Block.Apart, Region.carvedEntry]
  by_cases here : entry.place.region = index
  · have reserved := (keeps here).reserved
    omega
  · exact .inr (.inr (.inl (Ne.symm here)))

namespace Memory.Holds

variable {memory after : Memory} {ledger : Ledger} {layout : Layout} {place : Place}

theorem carve {index : Nat} {region : Region} (holds : memory.Holds ledger)
    (held : memory.arena.regions[index]? = some region) (fits : region.Fits layout) :
    (memory.withRegions (memory.arena.regions.set index (region.carved layout))).Holds
      (region.carvedEntry index layout :: ledger) := by
  have soundness := (holds.sound.regions region (List.mem_of_getElem? held)).carved fits
  have rest := holds.set held soundness fun entry _ _ keeps => keeps.carved
  have bound := (List.getElem?_eq_some_iff.mp held).1
  refine ⟨rest.sound, ?_, List.pairwise_cons.mpr ⟨?_, rest.apart⟩⟩
  · intro entry member
    cases List.mem_cons.mp member with
    | inl same =>
        subst same
        exact ⟨_, by simp [Memory.withRegions, Region.carvedEntry, bound], region.keeps_carvedEntry fits⟩
    | inr member => exact rest.kept entry member
  · intro entry member
    apply Region.carvedEntry_apart
    intro here
    obtain ⟨other, found, keeps⟩ := holds.kept entry member
    rw [here, held, Option.some.injEq] at found
    exact found ▸ keeps

theorem allocated (holds : memory.Holds ledger) (outcome : memory.Allocates layout (.ok place, after)) :
    ∃ cells, after.Holds (⟨⟨place, layout⟩, cells⟩ :: ledger) := by
  cases outcome with
  | carved held fits _ => exact ⟨_, holds.carve held fits⟩
  | @grown fresh request _ _ made fits =>
      have sound := (Arena.newRegion_sound holds.sound.system made).1
      have held : (memory.arena.regions ++ [fresh])[memory.arena.regions.length]? = some fresh := by simp
      have carved := (holds.append sound).carve held fits
      refine ⟨_, carved.of_arena_eq ?_⟩
      simp [Memory.withRegions]

end Memory.Holds

/-! ## Reading and writing -/

theorem MemoryM.write_apply (place : Place) (cells : List Cell) (memory : Memory) :
    MemoryM.write place cells memory = (.ok (),
      memory.withRegions (memory.arena.regions.modify place.region (·.write place.offset cells))) := rfl

theorem modify_eq_set {α : Type} (change : α → α) {elements : List α} {index : Nat} {a : α}
    (held : elements[index]? = some a) : elements.modify index change = elements.set index (change a) := by
  have : Inhabited α := ⟨a⟩
  rw [List.modify_eq_set, held, Option.getD_some]

theorem Region.Keeps.patched {region : Region} {entry : Entry} {offset : Nat} {cells : List Cell}
    (keeps : region.Keeps entry) (fits : offset + cells.length ≤ entry.layout.size) :
    (region.write (entry.place.offset + offset) cells).Keeps (entry.patch offset cells) := by
  refine ⟨keeps.aligned, keeps.inRegion, keeps.reserved, ?_⟩
  simp only [Entry.patch, Region.read, Region.write, Tape.read_write_inside _ fits, ← keeps.contents]

theorem Region.Keeps.unwritten {region : Region} {entry other : Entry} {offset : Nat} {cells : List Cell}
    (here : other.place.region = entry.place.region) (apart : entry.toBlock.Apart other.toBlock)
    (fits : offset + cells.length ≤ entry.layout.size) (keeps : region.Keeps other) :
    (region.write (entry.place.offset + offset) cells).Keeps other := by
  refine ⟨keeps.aligned, keeps.inRegion, keeps.reserved, ?_⟩
  rw [← keeps.contents]
  by_cases empty : other.layout.size = 0
  · simp [Region.read, empty, Tape.read]
  · by_cases blank : cells = []
    · simp [Region.read, Region.write, blank, Tape.write]
    · have positive := List.length_pos_iff.mpr blank
      apply Tape.read_write_apart
      unfold Block.Apart at apart
      omega

namespace Memory.Holds

variable {memory : Memory} {ledger : Ledger} {entry : Entry}

theorem read (holds : memory.Holds (entry :: ledger)) {offset count : Nat}
    (fits : offset + count ≤ entry.layout.size) :
    MemoryM.read ⟨entry.place.region, entry.place.offset + offset⟩ count memory =
      (.ok ((entry.cells.drop offset).take count), memory) := by
  obtain ⟨region, found, keeps⟩ := holds.head
  rw [MemoryM.read, MemoryM.bind_ok (MemoryM.regions_apply memory), found, ← keeps.contents,
    Region.read, Tape.read_part _ fits]
  rfl

theorem read_all (holds : memory.Holds (entry :: ledger)) :
    MemoryM.read entry.place entry.layout.size memory = (.ok entry.cells, memory) := by
  have fits : 0 + entry.layout.size ≤ entry.layout.size := by omega
  have whole := holds.read fits
  rwa [List.drop_zero, ← holds.length, List.take_length, holds.length] at whole

theorem write (holds : memory.Holds (entry :: ledger)) {offset : Nat} {cells : List Cell}
    (fits : offset + cells.length ≤ entry.layout.size) :
    (memory.withRegions (memory.arena.regions.modify entry.place.region
      (·.write (entry.place.offset + offset) cells))).Holds (entry.patch offset cells :: ledger) := by
  obtain ⟨region, found, keeps⟩ := holds.head
  have bound := (List.getElem?_eq_some_iff.mp found).1
  have written := (holds.sound.regions region (List.mem_of_getElem? found)).write
    (entry.place.offset + offset) cells
  rw [modify_eq_set _ found]
  obtain ⟨others, apart⟩ := List.pairwise_cons.mp holds.apart
  have rest := holds.tail.set found written fun other member here kept =>
    kept.unwritten here (others other member) fits
  refine ⟨rest.sound, ?_, List.pairwise_cons.mpr ⟨others, rest.apart⟩⟩
  intro other member
  cases List.mem_cons.mp member with
  | inl same =>
      subst same
      exact ⟨region.write (entry.place.offset + offset) cells,
        by simp [Memory.withRegions, Entry.patch, bound], keeps.patched fits⟩
  | inr member => exact rest.kept other member

end Memory.Holds

/-! ## Giving back -/

theorem Region.Keeps.rewound {region : Region} {entry other : Entry}
    (last : entry.place.offset + entry.layout.size = region.cursor) (positive : 0 < entry.layout.size)
    (here : other.place.region = entry.place.region) (apart : entry.toBlock.Apart other.toBlock)
    (keeps : region.Keeps other) : { region with cursor := entry.place.offset : Region }.Keeps other := by
  refine ⟨keeps.aligned, keeps.inRegion, ?_, keeps.contents⟩
  intro filled
  have reserved := keeps.reserved filled
  unfold Block.Apart at apart
  simp only
  omega

def Memory.reclaimed (block : Block) (memory : Memory) : Memory :=
  match memory.arena.regions[block.place.region]? with
  | none => memory
  | some region =>
      if 0 < block.layout.size ∧ block.place.offset + block.layout.size = region.cursor then
        { memory.withRegions (memory.arena.regions.set block.place.region
            { region with cursor := block.place.offset }) with
          log := memory.log.push (.blockReclaimed block.layout.size block.place.offset) }
      else memory

namespace Memory.Holds

variable {memory : Memory} {ledger : Ledger} {entry : Entry}

theorem reclaimed (holds : memory.Holds (entry :: ledger)) :
    (memory.reclaimed entry.toBlock).Holds ledger := by
  obtain ⟨region, found, keeps⟩ := holds.head
  have sound := holds.sound.regions region (List.mem_of_getElem? found)
  unfold Memory.reclaimed
  simp only [found]
  split
  · rename_i given
    obtain ⟨positive, last⟩ := given
    have rewound : { region with cursor := entry.place.offset : Region }.Sound :=
      ⟨sound.aligned, sound.inSpace, Nat.le_trans (Nat.le_add_right _ _) keeps.inRegion⟩
    have kept : (memory.withRegions (memory.arena.regions.set entry.place.region
        { region with cursor := entry.place.offset })).Holds ledger := by
      apply holds.tail.set found rewound
      -- No block of the region lies behind the last one, so the cursor stays behind all others.
      intro other member here kept
      exact kept.rewound last positive here ((List.pairwise_cons.mp holds.apart).1 other member)
    exact kept.of_arena_eq rfl
  · exact holds.tail

theorem reclaim_apply (holds : memory.Holds (entry :: ledger)) (positive : 0 < entry.layout.size) :
    MemoryM.reclaim entry.place entry.layout.size memory = (.ok (), memory.reclaimed entry.toBlock) := by
  obtain ⟨region, found, keeps⟩ := holds.head
  have sound := holds.sound.regions region (List.mem_of_getElem? found)
  rw [MemoryM.reclaim, MemoryM.bind_ok (MemoryM.regions_apply memory)]
  simp only [found, Region.reclaim?_eq sound positive (keeps.reserved positive), Memory.reclaimed,
    positive, true_and]
  split <;> rfl

end Memory.Holds

end ArenaLang
