import ArenaLang.Proofs.Bounds
import ArenaLang.Proofs.Growth
import ArenaLang.Proofs.Outline

namespace ArenaLang

open MemoryM

/-! ## Live blocks -/

def Buffer.block? {α : Type} [Storable α] (buffer : Buffer α) : Option Block := do
  let place ← buffer.place
  let layout ← (Storable.layoutOf α).array? buffer.capacity
  return ⟨place, layout⟩

inductive Host.Lists (host : Host) : {α : Type} → [Storable α] → Buffer α → List α → Prop
  | vector {α : Type} [Storable α] {number : Nat} {buffer : Buffer α} {appended : List α}
      (held : host.holdings[number]? = some (.vector buffer appended)) : Lists host buffer appended
  | scope {number : Nat} {scope : Scope} {bound : List Binding}
      (held : host.holdings[number]? = some (.scope scope bound)) : Lists host scope.bindings bound

/-- What a host may move: blocks of the client's, and those of buffers. How large the block behind a
slice is, nobody knows any more. -/
inductive Host.Live (host : Host) : Block → Prop
  | client {number : Nat} {block : Block} (held : host.client.block? number = some block) : Live host block
  | buffer {α : Type} [Storable α] {buffer : Buffer α} {elements : List α} {block : Block}
      (lists : host.Lists buffer elements) (placed : buffer.block? = some block) : Live host block

theorem Host.Lists.stands {host : Host} {α : Type} [Storable α] {buffer : Buffer α} {elements : List α}
    (lists : host.Lists buffer elements) (sound : host.Sound) :
    ∃ ledger frame, buffer.Stands elements ledger ∧ host.client.memory.Holds (ledger ++ frame) := by
  obtain ⟨slots, store, ledgers, keeps⟩ := sound
  have holds := keeps.agrees.holds.right
  cases lists with
  | vector held =>
      obtain ⟨ledger, found, stands, _⟩ := forall₂_getElem? keeps.standing held
      exact ⟨ledger, _, stands, holds.perm (flatten_perm found)⟩
  | scope held =>
      obtain ⟨ledger, found, stands, _⟩ := forall₂_getElem? keeps.standing held
      exact ⟨ledger, _, stands, holds.perm (flatten_perm found)⟩

theorem Buffer.Stands.of_block? {α : Type} [Storable α] {buffer : Buffer α} {elements : List α} {ledger : Ledger}
    {block : Block} (stands : buffer.Stands elements ledger) (placed : buffer.block? = some block) :
    ∃ entry : Entry, entry.toBlock = block ∧ ledger = [entry] := by
  cases stands with
  | unplaced nowhere _ _ _ =>
      rw [block?, nowhere] at placed
      cases placed
  | placed here _ _ found =>
      rw [block?, here, found] at placed
      cases placed
      exact ⟨_, rfl, rfl⟩

theorem Host.Live.holds {host : Host} {block : Block} (live : host.Live block) (sound : host.Sound) :
    ∃ (entry : Entry) (frame : Ledger), entry.toBlock = block ∧ host.client.memory.Holds (entry :: frame) := by
  cases live with
  | client held =>
      obtain ⟨slots, store, ledgers, keeps⟩ := sound
      obtain ⟨entry, slot, same, _⟩ := keeps.agrees.held held
      exact ⟨entry, _, same, keeps.agrees.front slot⟩
  | buffer lists placed =>
      obtain ⟨ledger, frame, stands, holds⟩ := lists.stands sound
      obtain ⟨entry, same, rfl⟩ := stands.of_block? placed
      exact ⟨entry, frame, same, holds⟩

/-! ## Giving back -/

namespace Memory

variable {memory another : Memory} {block : Block} {region : Region}

def EndsAtCursor (memory : Memory) (block : Block) : Prop :=
  ∃ region, memory.arena.regions[block.place.region]? = some region ∧
    block.place.offset + block.layout.size = region.cursor

theorem endsAtCursor_iff (held : memory.arena.regions[block.place.region]? = some region) :
    memory.EndsAtCursor block ↔ block.place.offset + block.layout.size = region.cursor := by
  constructor
  · rintro ⟨other, found, last⟩
    rw [held, Option.some.injEq] at found
    exact found ▸ last
  · exact fun last => ⟨region, held, last⟩

theorem reclaimed_of_last (held : memory.arena.regions[block.place.region]? = some region)
    (positive : 0 < block.layout.size) (last : block.place.offset + block.layout.size = region.cursor) :
    memory.reclaimed block =
      { memory.withRegions (memory.arena.regions.set block.place.region
          { region with cursor := block.place.offset }) with
        log := memory.log.push (.blockReclaimed block.layout.size block.place.offset) } := by
  rw [reclaimed, held]
  simp only [if_pos (And.intro positive last)]

theorem reclaimed_of_not_last (stays : ¬(0 < block.layout.size ∧ memory.EndsAtCursor block)) :
    memory.reclaimed block = memory := by
  rw [reclaimed]
  cases held : memory.arena.regions[block.place.region]? with
  | none => rfl
  | some region =>
      rw [endsAtCursor_iff held] at stays
      simp only [if_neg stays]

theorem reclaimed_alike (same : memory.arena.outline = another.arena.outline) (logs : memory.log = another.log)
    (block : Block) :
    (memory.reclaimed block).arena.outline = (another.reclaimed block).arena.outline ∧
      (memory.reclaimed block).log = (another.reclaimed block).log := by
  obtain ⟨system, options, chain⟩ := Arena.outline_eq_iff.mp same
  have alike := getElem?_alike chain block.place.region
  cases held : memory.arena.regions[block.place.region]? with
  | none =>
      rw [held, Option.map_none, eq_comm, Option.map_eq_none_iff] at alike
      rw [reclaimed, held, reclaimed, alike]
      exact ⟨same, logs⟩
  | some region =>
      rw [held, Option.map_some, eq_comm, Option.map_eq_some_iff] at alike
      obtain ⟨other, found, outline⟩ := alike
      have cursor : region.cursor = other.cursor := (congrArg Region.cursor outline).symm
      by_cases last : 0 < block.layout.size ∧ block.place.offset + block.layout.size = region.cursor
      · rw [reclaimed_of_last held last.1 last.2, reclaimed_of_last found last.1 (cursor ▸ last.2)]
        have rewound : { region with cursor := block.place.offset : Region }.outline =
            { other with cursor := block.place.offset : Region }.outline :=
          congrArg (fun given : Region => { given with cursor := block.place.offset }) outline.symm
        constructor
        · refine Arena.outline_eq_iff.mpr ⟨system, options, ?_⟩
          simp only [withRegions, List.map_set, chain, rewound]
        · simp only [logs]
      · have stays : ¬(0 < block.layout.size ∧ memory.EndsAtCursor block) := by
          rwa [endsAtCursor_iff held]
        have others : ¬(0 < block.layout.size ∧ another.EndsAtCursor block) := by
          rwa [endsAtCursor_iff found, ← cursor]
        rw [reclaimed_of_not_last stays, reclaimed_of_not_last others]
        exact ⟨same, logs⟩

end Memory

/-! ## Moving -/

theorem Memory.Allocates.getElem? {memory carved : Memory} {layout : Layout} {place : Place} {index : Nat}
    {region : Region} (outcome : memory.Allocates layout (.ok place, carved))
    (held : memory.arena.regions[index]? = some region) :
    place.region = index ∧ carved.arena.regions[index]? = some (region.carved layout) ∨
      place.region ≠ index ∧ carved.arena.regions[index]? = some region := by
  have bound := (List.getElem?_eq_some_iff.mp held).1
  cases outcome with
  | @carved found other here _ _ =>
      by_cases same : found = index
      · subst same
        rw [held, Option.some.injEq] at here
        subst here
        exact .inl ⟨rfl, List.getElem?_set_self bound⟩
      · exact .inr ⟨same, (List.getElem?_set_ne same).trans held⟩
  | grown _ _ _ _ => exact .inr ⟨(Nat.ne_of_lt bound).symm, (List.getElem?_append_left bound).trans held⟩

section

variable {memory carved : Memory} {entry : Entry} {frame : Ledger} {layout resized : Layout} {size : Nat}
  {place : Place}

theorem release_of_held (holds : memory.Holds (entry :: frame)) (place : Place) :
    (if 0 < entry.layout.size then do
        reclaim entry.place entry.layout.size
        return place
      else return place : MemoryM Place) memory = (.ok place, memory.reclaimed entry.toBlock) := by
  by_cases positive : 0 < entry.layout.size
  · rw [if_pos positive, bind_ok (holds.reclaim_apply positive)]
    rfl
  · have stays : ¬(0 < entry.toBlock.layout.size ∧ memory.EndsAtCursor entry.toBlock) := fun last => positive last.1
    rw [if_neg positive, Memory.reclaimed_of_not_last stays]
    rfl

theorem copy_of_held {cells : List Cell} {count : Nat}
    (holds : memory.Holds (⟨⟨place, layout⟩, cells⟩ :: entry :: frame)) (source : count ≤ entry.layout.size) (target : count ≤ layout.size) :
    ∃ filled : Memory, (do write place (← read entry.place count)) memory = (.ok (), filled) ∧
      filled.arena.outline = memory.arena.outline ∧ filled.log = memory.log ∧ filled.Holds (entry :: frame) := by
  have inside : 0 + count ≤ entry.layout.size := by omega
  have reading : read entry.place count memory = (.ok (entry.cells.take count), memory) :=
    (holds.perm (List.Perm.swap _ _ _)).read inside
  have fits : 0 + (entry.cells.take count).length ≤ layout.size := by
    rw [List.length_take]
    omega
  have written := (holds.write fits).tail
  rw [bind_ok reading, write_apply]
  exact ⟨_, rfl, Arena.outline_eq_iff.mpr ⟨rfl, rfl, map_outline_modify place _ _⟩, rfl, written⟩

/-- But for contents, memory is as if the old block were given back where the new one was carved. -/
theorem reallocate_of_held (holds : memory.Holds (entry :: frame))
    (found : entry.layout.resize? size = some resized) (allocated : allocate resized memory = (.ok place, carved)) :
    ∃ filled : Memory,
      reallocate (some entry.place) entry.layout size memory = (.ok place, filled.reclaimed entry.toBlock) ∧
        filled.arena.outline = carved.arena.outline ∧ filled.log = carved.log ∧ filled.Holds (entry :: frame) := by
  have outcome := Memory.allocate_outcome holds.sound resized
  rw [allocated] at outcome
  obtain ⟨cells, carvedHolds⟩ := holds.allocated outcome
  have sized : resized.size = size := (Layout.of?_eq_some_iff.mp found).1
  rw [reallocate, found]
  simp only
  rw [bind_ok allocated]
  by_cases copied : 0 < min entry.layout.size size
  · obtain ⟨filled, copying, outline, log, filledHolds⟩ :=
      copy_of_held carvedHolds (Nat.min_le_left _ size) (sized ▸ Nat.min_le_right _ _)
    refine ⟨filled, ?_, outline, log, filledHolds⟩
    simp only [if_pos copied]
    rw [← bind_assoc, bind_ok copying]
    exact release_of_held filledHolds place
  · refine ⟨carved, ?_, rfl, rfl, carvedHolds.tail⟩
    simp only [if_neg copied]
    exact release_of_held carvedHolds.tail place

/-- What moving a block leaves. `carved` is the memory in which only the new block was carved. -/
structure Memory.Moved (memory : Memory) (block : Block) (region : Region) (size : Nat) (place : Place)
    (carved after : Memory) : Prop where
  chain : after.arena.outline = (carved.reclaimed block).arena.outline
  log : after.log = (carved.reclaimed block).log
  won : 0 < block.layout.size ∧ carved.EndsAtCursor block ↔
    0 < block.layout.size ∧ block.place.offset + block.layout.size = region.cursor ∧
      (place.region ≠ block.place.region ∨
        size = 0 ∧ block.layout.align ∣ region.base + (block.place.offset + block.layout.size))
  kept : place.region = block.place.region → 0 < size →
    after.arena.outline = carved.arena.outline ∧ after.log = carved.log
  again : 0 < block.layout.size → carved.EndsAtCursor block →
    (∀ earlier < block.place.region, ∀ other, after.arena.regions[earlier]? = some other → ¬other.Fits block.layout) →
      (allocate block.layout after).1 = .ok block.place
  owner : 0 < block.layout.size → ApartInSpace carved.arena.regions →
    carved.arena.regions.findIdx? (fun other => region.base + block.place.offset ∈ other.addresses) =
      some block.place.region

theorem Memory.Holds.endsAtCursor_carved_iff {region : Region} (holds : memory.Holds (entry :: frame))
    (held : memory.arena.regions[entry.place.region]? = some region)
    (found : entry.layout.resize? size = some resized) (allocated : allocate resized memory = (.ok place, carved)) :
    0 < entry.layout.size ∧ carved.EndsAtCursor entry.toBlock ↔
      0 < entry.layout.size ∧ entry.place.offset + entry.layout.size = region.cursor ∧
        (place.region ≠ entry.place.region ∨
          size = 0 ∧ entry.layout.align ∣ region.base + (entry.place.offset + entry.layout.size)) := by
  obtain ⟨other, here, keeps⟩ := holds.head
  rw [held, Option.some.injEq] at here
  subst here
  obtain ⟨sized, aligned⟩ := Layout.of?_eq_some_iff.mp found
  have outcome := Memory.allocate_outcome holds.sound resized
  rw [allocated] at outcome
  refine and_congr_right fun positive => ?_
  have reserved := keeps.reserved positive
  rcases outcome.getElem? held with ⟨same, carvedHere⟩ | ⟨elsewhere, unchanged⟩
  · have behind := region.cursor_le_nextOffset resized
    rw [Memory.endsAtCursor_iff carvedHere]
    -- The cursor is rounded up and the new block comes behind it, so it stays only if both do nothing.
    constructor
    · intro last
      have cursor : region.nextOffset resized + resized.size = entry.place.offset + entry.layout.size := last.symm
      have first : region.nextOffset resized = entry.place.offset + entry.layout.size := by omega
      have multiple := region.nextOffset_aligned resized
      rw [first, aligned] at multiple
      exact ⟨by omega, .inr ⟨by omega, multiple⟩⟩
    · rintro ⟨last, elsewhere | ⟨empty, multiple⟩⟩
      · exact absurd same elsewhere
      · rw [last, ← aligned] at multiple
        have first := Region.nextOffset_le (Nat.le_refl region.cursor) multiple
        simp only [Region.carved]
        omega
  · rw [Memory.endsAtCursor_iff unchanged]
    exact ⟨fun last => ⟨last, .inl elsewhere⟩, fun last => last.1⟩

theorem Memory.Holds.allocate_again {region : Region} {filled after : Memory} (holds : filled.Holds (entry :: frame))
    (held : filled.arena.regions[entry.place.region]? = some region) (positive : 0 < entry.layout.size)
    (last : entry.place.offset + entry.layout.size = region.cursor) (same : after = filled.reclaimed entry.toBlock)
    (first : ∀ earlier < entry.place.region, ∀ other, after.arena.regions[earlier]? = some other →
      ¬other.Fits entry.layout) :
    (allocate entry.layout after).1 = .ok entry.place := by
  obtain ⟨other, here, keeps⟩ := holds.head
  rw [held, Option.some.injEq] at here
  subst here
  have sound : after.Sound := same ▸ holds.reclaimed.sound
  have bound := (List.getElem?_eq_some_iff.mp held).1
  have rewound : after.arena.regions[entry.place.region]? = some { region with cursor := entry.place.offset } := by
    rw [same, Memory.reclaimed_of_last held positive last]
    exact List.getElem?_set_self bound
  have exact : { region with cursor := entry.place.offset : Region }.nextOffset entry.layout = entry.place.offset :=
    Nat.le_antisymm (Region.nextOffset_le (Nat.le_refl _) keeps.aligned)
      (Region.cursor_le_nextOffset entry.layout { region with cursor := entry.place.offset })
  have fits : { region with cursor := entry.place.offset : Region }.Fits entry.layout := by
    unfold Region.Fits
    rw [exact]
    exact keeps.inRegion
  rw [allocate_of_first sound rewound fits first, exact]

theorem ApartInSpace.findIdx?_eq {chain : List Region} {index address : Nat} {region : Region}
    (apart : ApartInSpace chain) (held : chain[index]? = some region) (inside : address ∈ region.addresses) :
    chain.findIdx? (fun other => address ∈ other.addresses) = some index := by
  obtain ⟨bound, rfl⟩ := List.getElem?_eq_some_iff.mp held
  refine List.findIdx?_eq_some_iff_getElem.mpr ⟨bound, decide_eq_true inside, ?_⟩
  intro earlier before
  have disjoint := List.pairwise_iff_getElem.mp apart _ _ (Nat.lt_trans before bound) bound before
  rw [decide_eq_true_eq, Region.mem_addresses]
  have here := Region.mem_addresses.mp inside
  omega

theorem Memory.Holds.findIdx?_carved {region : Region} (holds : memory.Holds (entry :: frame))
    (held : memory.arena.regions[entry.place.region]? = some region)
    (allocated : allocate resized memory = (.ok place, carved)) (positive : 0 < entry.layout.size)
    (apart : ApartInSpace carved.arena.regions) :
    carved.arena.regions.findIdx? (fun other => region.base + entry.place.offset ∈ other.addresses) =
      some entry.place.region := by
  obtain ⟨other, here, keeps⟩ := holds.head
  rw [held, Option.some.injEq] at here
  subst here
  have outcome := Memory.allocate_outcome holds.sound resized
  rw [allocated] at outcome
  have inRegion := keeps.inRegion
  have inside : region.base + entry.place.offset ∈ region.addresses := Region.mem_addresses.mpr (by omega)
  rcases outcome.getElem? held with ⟨_, carvedHere⟩ | ⟨_, unchanged⟩
  · exact apart.findIdx?_eq carvedHere inside
  · exact apart.findIdx?_eq unchanged inside

theorem Memory.Holds.moved {region : Region} {after : Memory} (holds : memory.Holds (entry :: frame))
    (held : memory.arena.regions[entry.place.region]? = some region)
    (found : entry.layout.resize? size = some resized) (allocated : allocate resized memory = (.ok place, carved))
    (done : reallocate (some entry.place) entry.layout size memory = (.ok place, after)) :
    memory.Moved entry.toBlock region size place carved after := by
  obtain ⟨filled, result, outline, log, filledHolds⟩ := reallocate_of_held holds found allocated
  rw [done, Prod.mk.injEq] at result
  have same : after = filled.reclaimed entry.toBlock := result.2
  obtain ⟨chain, logged⟩ := Memory.reclaimed_alike outline log entry.toBlock
  have won := holds.endsAtCursor_carved_iff held found allocated
  refine ⟨same ▸ chain, same ▸ logged, won, ?_, ?_, holds.findIdx?_carved held allocated⟩
  · intro here positive
    have stays : ¬(0 < entry.toBlock.layout.size ∧ carved.EndsAtCursor entry.toBlock) := by
      intro last
      obtain ⟨_, _, elsewhere | ⟨empty, _⟩⟩ := won.mp last
      · exact elsewhere here
      · omega
    rw [Memory.reclaimed_of_not_last stays] at chain logged
    exact ⟨same ▸ chain, same ▸ logged⟩
  · intro positive last first
    obtain ⟨other, here, ends⟩ := last
    have alike := getElem?_alike (Arena.outline_eq_iff.mp outline).2.2 entry.place.region
    rw [here, Option.map_some, Option.map_eq_some_iff] at alike
    obtain ⟨another, there, shape⟩ := alike
    have cursor : another.outline.cursor = other.outline.cursor := congrArg Region.cursor shape
    exact filledHolds.allocate_again there positive (cursor ▸ ends) same first

end

theorem MemoryM.resized_of_reallocate {memory after : Memory} {place? : Option Place} {layout : Layout} {size : Nat}
    {place : Place} (done : reallocate place? layout size memory = (.ok place, after)) :
    ∃ resized, layout.resize? size = some resized := by
  rw [reallocate] at done
  cases found : layout.resize? size with
  | some resized => exact ⟨resized, rfl⟩
  | none =>
      rw [found] at done
      cases done

/-- In every state that a host reaches, moving a live block leaves the chain as carving the new block
does, but that the old block is given back if it ends at the cursor of its region even then. -/
theorem moves_give_back_last_blocks {system : System} {options : Options} {request : Nat} {memory : Memory}
    {host : Host} (sound : system.Sound) (created : Memory.create system options request = .ok memory)
    (reaches : (Host.start memory).Reaches host) {block : Block} (live : host.Live block) {size : Nat} {place : Place}
    {after : Memory}
    (done : reallocate (some block.place) block.layout size host.client.memory = (.ok place, after)) :
    ∃ resized region carved, block.layout.resize? size = some resized ∧
      host.client.memory.arena.regions[block.place.region]? = some region ∧
      allocate resized host.client.memory = (.ok place, carved) ∧
      host.client.memory.Moved block region size place carved after := by
  have hosts := reaches.sound (Host.start_sound (Memory.create_holds sound created))
  obtain ⟨entry, frame, rfl, holds⟩ := live.holds hosts
  obtain ⟨region, held, _⟩ := holds.head
  obtain ⟨resized, found⟩ := resized_of_reallocate done
  rcases allocated : allocate resized host.client.memory with ⟨failure | new, carved⟩
  · rw [reallocate, found] at done
    simp only at done
    rw [bind_error allocated] at done
    cases done
  · obtain ⟨filled, result, _⟩ := reallocate_of_held holds found allocated
    obtain rfl : place = new := Except.ok.inj (congrArg Prod.fst (done.symm.trans result))
    exact ⟨resized, region, carved, found, held, allocated, holds.moved held found allocated done⟩

/-- The last block of a region moves to a second one, and its bytes are free again. -/
theorem moves_give_back_last_blocks_apart :
    System.spaced.Sound ∧ Memory.create .spaced ⟨64⟩ 0 = .ok .spread ∧
      ∃ (host : Host) (block : Block) (place : Place) (after : Memory), (Host.start .spread).Reaches host ∧
        host.Live block ∧ reallocate (some block.place) block.layout 100 host.client.memory = (.ok place, after) ∧
          place.region = 1 ∧ after.arena.remaining = [64, 0] ∧
          ∃ resized region carved, block.layout.resize? 100 = some resized ∧
            host.client.memory.arena.regions[block.place.region]? = some region ∧
            allocate resized host.client.memory = (.ok place, carved) ∧ ApartInSpace carved.arena.regions ∧
            host.client.memory.Moved block region 100 place carved after := by
  have reaches := Relation.ReflTransGen.single
    (@Host.Step.foreign (Host.start .spread) (.storeAll (List.replicate 5 (7 : UInt64))))
  obtain ⟨host, same⟩ : ∃ host, host = { Host.start .spread with
      client := ((Host.start .spread).client.perform (.storeAll (List.replicate 5 (7 : UInt64)))).2 } := ⟨_, rfl⟩
  rw [← same] at reaches
  have live : host.Live ⟨⟨0, 0⟩, .words 5⟩ := .client (@congrArg _ _ _ _ (fun host => host.client.block? 0) same)
  have done : reallocate (some ⟨0, 0⟩) (.words 5) 100 host.client.memory =
      (.ok ⟨1, 0⟩, (reallocate (some ⟨0, 0⟩) (.words 5) 100 host.client.memory).2) := by
    rw [same]
    rfl
  obtain ⟨resized, region, carved, found, held, allocated, moved⟩ :=
    moves_give_back_last_blocks System.spaced_sound Memory.spread_created reaches live done
  have apart : ApartInSpace carved.arena.regions := by
    obtain rfl : carved = (allocate resized host.client.memory).2 := (congrArg Prod.snd allocated).symm
    obtain rfl : ⟨100, 8, ⟨3, rfl⟩, by decide⟩ = resized := Option.some.inj found
    rw [same]
    unfold ApartInSpace
    decide +kernel
  refine ⟨System.spaced_sound, Memory.spread_created, host, _, _, _, reaches, live, done, rfl, ?_,
    resized, region, carved, found, held, allocated, apart, moved⟩
  rw [same]
  rfl

end ArenaLang
